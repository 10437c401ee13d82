import PageScript.Proofs.Run.Stages
import PageScript.Rehearsal

/-!
# Publishing the report

Publishing its report is the last thing that a run does.  What the run comes to is settled before:
`settle` is the run up to there, and `run_eq` says that publishing is all that follows.

A report that cannot be published takes the place of what the run has come to, whether that is an
exit code or a failure.  `run_spares_outcome_iff` states when a run keeps it.
-/

namespace PageScript.Run

open PageScript.Act PageScript.Browser

variable {σ : Type}

/-- What a run has come to when only its report is left to be published. -/
structure Settlement where
  /-- The exit code, or the failure that is passed on. -/
  outcome : Except Failure Nat
  /-- The report that has been closed, if there is one. -/
  report : Option Report

namespace Settlement

/-- Publish the report, if there is one and a directory for it. -/
def publish (s : Settlement) (directory : Option File.Path) : Act σ Unit :=
  match s.report with
  | some report => report.publishIn directory
  | none => return ()

/-- Publish the report and end as settled. -/
def finish (s : Settlement) (directory : Option File.Path) : Act σ Nat := do
  s.publish directory
  Act.ofExcept s.outcome

end Settlement

/-! ### Up to the publication -/

/-- Close a report. -/
def settleWith (report : Report) (outcome : Except Failure Nat) : Act σ Settlement := do
  Act.emit (.closed report)
  return ⟨outcome, some report⟩

/-- Settle a run without a session. -/
def settleUnopened (report : Report) (failure : Failure) : Act σ Settlement :=
  if failure.isLaunch then do
    sayFailure failure
    settleWith (report.close "failed" (some failure.message)) (.ok 1)
  else return ⟨.error failure, none⟩

/-- Work in a session, close it and settle the run. -/
def settleSession (maker : AgentMaker σ) (o : Options) (p : Preferences) (args : List Argument)
    (report : Report) : Act σ Settlement := do
  let result ← (workGuarded maker o p args report).attempt
  Run.closeQuietly
  settleWith (closedReport report result) (result.map Ending.exitCode)

/-- Everything that a run does but for publishing its report. -/
def settle (maker : AgentMaker σ) (args : List Argument) (o : Options) : Act σ Settlement :=
  match Preferences.ofArguments args with
  | .ok p => do
    let report ← prepare o p
    match ← (openSession p o).attempt with
    | .ok () => settleSession maker o p args report
    | .error failure => settleUnopened report failure
  | .error failure =>
    if failure.isArgument then do
      sayFailure failure
      return ⟨.ok 1, none⟩
    else return ⟨.error failure, none⟩

/-! ### The publication -/

variable {maker : AgentMaker σ} {o : Options} {p : Preferences} {args : List Argument}

theorem conclude_eq (report : Report) (status : String) (error : Option String)
    (outcome : Except Failure Nat) (directory : Option File.Path) :
    (report.conclude status error directory >>= fun _ => Act.ofExcept outcome : Act σ Nat) =
      settleWith (report.close status error) outcome >>= fun s => s.finish directory := by
  unfold Report.conclude settleWith Settlement.finish Settlement.publish
  simp only [bind_assoc, pure_bind]

theorem wrapUp_eq (o : Options) (report : Report) (result : Except Failure Ending) :
    (wrapUp o report result : Act σ Nat) =
      settleWith (closedReport report result) (result.map Ending.exitCode) >>= fun s =>
        s.finish o.reports := by
  cases result with
  | ok ending =>
    exact conclude_eq ending.report ending.status ending.error (.ok ending.exitCode) o.reports
  | error failure => exact conclude_eq report "failed" none (.error failure) o.reports

theorem tellUnopened_eq (o : Options) (report : Report) (failure : Failure) :
    (if failure.isLaunch then tellUnopened o report failure else Act.fail failure : Act σ Nat) =
      settleUnopened report failure >>= fun s => s.finish o.reports := by
  unfold settleUnopened
  split
  · rw [tellUnopened, bind_assoc, ← conclude_eq]
    rfl
  · rw [pure_bind]
    rfl

theorem inSession_eq_settle (maker : AgentMaker σ) (o : Options) (p : Preferences)
    (args : List Argument) (report : Report) :
    inSession maker o p args report =
      settleSession maker o p args report >>= fun s => s.finish o.reports := by
  rw [inSession_eq, settleSession]
  simp only [bind_assoc, wrapUp_eq]

/-- Publishing comes last. -/
theorem run_eq (maker : AgentMaker σ) (args : List Argument) (o : Options) :
    run maker args o = settle maker args o >>= fun s => s.finish o.reports := by
  unfold settle
  cases haccepted : Preferences.ofArguments args with
  | ok p =>
    rw [run_of_accepted haccepted, runFor_eq]
    dsimp only
    rw [bind_assoc]
    congr 1
    funext report
    rw [bind_assoc]
    congr 1
    funext result
    cases result with
    | ok => exact inSession_eq_settle ..
    | error failure => exact tellUnopened_eq ..
  | error failure =>
    unfold run
    rw [haccepted]
    dsimp only
    split
    · rw [bind_assoc]
      rfl
    · rfl

/-! ### What becomes of the outcome -/

theorem returns_settleWith (report : Report) (outcome : Except Failure Nat) :
    Returns (settleWith report outcome : Act σ Settlement) :=
  (Returns.emit _).bind fun _ => .pure _

theorem returns_settleUnopened (report : Report) (failure : Failure) :
    Returns (settleUnopened report failure : Act σ Settlement) :=
  .ite ((Returns.emit _).bind fun _ => returns_settleWith _ _) (.pure _)

theorem returns_settleSession (maker : AgentMaker σ) (o : Options) (p : Preferences)
    (args : List Argument) (report : Report) :
    Returns (settleSession maker o p args report) := by
  refine (Returns.attempt _).bind fun result => ?_
  refine Returns.bind (fun host w => ⟨(), closeQuietly_result host w⟩) fun _ => ?_
  exact returns_settleWith _ _

/-- Whatever the surroundings do, a run is settled. -/
theorem returns_settle (maker : AgentMaker σ) (args : List Argument) (o : Options) :
    Returns (settle maker args o) := by
  unfold settle
  split
  · next p _ =>
    have hprepare : Returns (prepare o p : Act σ Report) := fun host w => by
      obtain ⟨lines, hlines⟩ := prepare_apply o p host w
      exact ⟨_, congrArg Outcome.result hlines⟩
    refine hprepare.bind fun report => (Returns.attempt _).bind fun result => ?_
    cases result with
    | ok => exact returns_settleSession maker o p args report
    | error failure => exact returns_settleUnopened report failure
  · exact .ite ((Returns.emit _).bind fun _ => .pure _) (.pure _)

/-- A run is settled before its report is published.  It keeps what it has come to if and only if
publishing succeeds, or fails as the run has failed already; any other failure to publish is what
the run ends with. -/
theorem run_spares_outcome_iff (maker : AgentMaker σ) (args : List Argument) (o : Options)
    (host : Host σ) (w : σ) :
    ∃ s events w', settle maker args o host w = ⟨.ok s, events, w'⟩ ∧
      (run maker args o host w).result =
        ((s.publish o.reports host w').result >>= fun _ => s.outcome) ∧
      ((run maker args o host w).result = s.outcome ↔
        ∀ failure, (s.publish o.reports host w').result = .error failure →
          s.outcome = .error failure) := by
  obtain ⟨s, hsettled⟩ := returns_settle maker args o host w
  rcases hsettle : settle maker args o host w with ⟨result, events, w'⟩
  rw [hsettle] at hsettled
  cases hsettled
  have hresult : (run maker args o host w).result =
      ((s.publish o.reports host w').result >>= fun _ => s.outcome) := by
    rw [run_eq, bind_eq_of_ok hsettle, Settlement.finish]
    dsimp only
    rcases hpublish : s.publish o.reports host w' with ⟨failure | ⟨⟩, more, w''⟩
    · rw [bind_eq_of_error hpublish]
      rfl
    · rw [bind_eq_of_ok hpublish]
      cases s.outcome <;> rfl
  refine ⟨s, events, w', rfl, hresult, ?_⟩
  rw [hresult]
  cases (s.publish o.reports host w').result with
  | ok => simp [bind, Except.bind]
  | error failure => simp [bind, Except.bind, eq_comm]

/-! ### A report that cannot be published -/

/-- A query whose answer goes to the place of the reports, and an assertion that fails. -/
def clash : List Argument :=
  [⟨"url", .text "https://example.com"⟩, ⟨"query-output", .text "out"⟩, ⟨"query", .text "count"⟩,
    ⟨"assert", .text "signed in"⟩]

/-- An agent that answers, and does not find the assertion true. -/
def doubtful : Rehearsal.Script where
  agent := [.ok (.integer 1), .error (.outside .assertion (some "signed out"))]

/-- The failed assertion makes the run come to the exit code one; but the answer was written where
the directory of the reports should be, and the run ends with that failure. -/
theorem run_outcome_lost :
    ∃ s, (settle outsideAgent clash { reports := some (.ofString "out") } Rehearsal.host
        doubtful).result = .ok s ∧
      s.outcome = .ok 1 ∧
      (run outsideAgent clash { reports := some (.ofString "out") } Rehearsal.host
        doubtful).result = .error (.file .exists "out") :=
  ⟨_, rfl, by rfl, by rfl⟩

end PageScript.Run

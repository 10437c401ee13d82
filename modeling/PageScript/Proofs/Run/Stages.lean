import PageScript.Proofs.Run.Conduct

/-!
# The stages of a run

A run for accepted preferences prepares its report, opens a session, works in it, closes it and wraps
up.  `runFor_apply` and `inSession_apply` put the outcome of a run together from the outcomes of its
stages; the surroundings are handed from each stage to the next.
-/

namespace PageScript.Run

open PageScript.Act PageScript.Browser

variable {σ : Type}

/-! ### Refused arguments -/

theorem run_of_refused {maker : AgentMaker σ} {args : List Argument} {failure : Failure}
    (h : Preferences.ofArguments args = .error failure) (o : Options) (host : Host σ) (w : σ) :
    run maker args o host w =
      if failure.isArgument then
        ⟨.ok 1, [.console ("[error] " ++ failure.message ++ "\n")], w⟩
      else ⟨.error failure, [], w⟩ := by
  unfold run
  rw [h]
  dsimp only
  split <;> rfl

theorem run_of_accepted {maker : AgentMaker σ} {args : List Argument} {p : Preferences}
    (h : Preferences.ofArguments args = .ok p) (o : Options) :
    run maker args o = runFor maker o p args := by
  unfold run
  rw [h]

/-! ### Before the session -/

/-- The report with which a run begins at a time. -/
def firstReport (o : Options) (p : Preferences) (started : Float) : Report :=
  { url := some p.url, browser := o.browser, headed := p.headed, started }

/-- What a run does before it opens the browser. -/
def prepare (o : Options) (p : Preferences) : Act σ Report := do
  sayPreferences p
  let report ← Report.start (some p.url) o.browser p.headed
  Act.say ("[run] launch " ++ o.browser.shown)
  return report

/-- Tell why there is no session. -/
def tellUnopened (o : Options) (report : Report) (failure : Failure) : Act σ Nat := do
  sayFailure failure
  let _ ← report.conclude "failed" (some failure.message) o.reports
  return 1

/-- What a run does when the browser has been opened, or has not. -/
def continueFrom (maker : AgentMaker σ) (o : Options) (p : Preferences) (args : List Argument)
    (report : Report) : Except Failure Unit → Act σ Nat
  | .ok () => inSession maker o p args report
  | .error failure =>
    if failure.isLaunch then tellUnopened o report failure else Act.fail failure

theorem runFor_eq (maker : AgentMaker σ) (o : Options) (p : Preferences) (args : List Argument) :
    runFor maker o p args =
      prepare o p >>= fun report =>
        (openSession p o).attempt >>= continueFrom maker o p args report := by
  unfold runFor prepare
  simp only [bind_assoc, pure_bind]
  rfl

theorem only_prepare (o : Options) (p : Preferences) :
    Only Event.IsApart (prepare o p : Act σ Report) := by
  refine Only.bind ?_ fun _ => (Only.now.bind fun _ => .pure _).bind fun _ => ?_
  · refine (only_say _).bind fun _ => (only_say _).bind fun _ => (only_say _).bind fun _ => ?_
    exact .ite (only_say _) (.pure ())
  · exact (only_say _).bind fun _ => .pure _

-- The surroundings are left as the one look at the clock leaves them.
theorem prepare_apply (o : Options) (p : Preferences) (host : Host σ) (w : σ) :
    ∃ lines, prepare o p host w =
      ⟨.ok (firstReport o p (host.now w).1), lines, (host.now w).2⟩ := by
  unfold prepare sayPreferences firstReport
  cases p.headed <;> exact ⟨_, rfl⟩

/-- A run opens the browser and goes on with what comes of it. -/
theorem runFor_apply (maker : AgentMaker σ) (o : Options) (p : Preferences) (args : List Argument)
    (host : Host σ) (w : σ) {result : Except Failure Unit} {events : List Event} {w' : σ}
    (h : openSession p o host (host.now w).2 = ⟨result, events, w'⟩) :
    ∃ lines, attempts lines = [] ∧ closings lines = [] ∧
      runFor maker o p args host w =
        ⟨(continueFrom maker o p args (firstReport o p (host.now w).1) result host w').result,
          lines ++ (events ++
            (continueFrom maker o p args (firstReport o p (host.now w).1) result host w').events),
          (continueFrom maker o p args (firstReport o p (host.now w).1) result host w').world⟩ := by
  obtain ⟨lines, hprepare⟩ := prepare_apply o p host w
  have hattempts := attempts_of_isApart (only_prepare o p) host w
  have hclosings := closings_of_leavesReports (only_prepare o p).isWork.leavesReports host w
  rw [hprepare] at hattempts hclosings
  refine ⟨lines, hattempts, hclosings, ?_⟩
  rw [runFor_eq, bind_eq_of_ok hprepare, attempt_bind, h]

/-! ### The session -/

/-- Work in a session; a failure that is the run's own ends the work. -/
def workGuarded (maker : AgentMaker σ) (o : Options) (p : Preferences) (args : List Argument)
    (report : Report) : Act σ Ending :=
  (work maker o p args report).rescue (fun f => f.isLaunch || f.isAgent) fun failure => do
    sayFailure failure
    return { report, error := some failure.message }

/-- What a run does when the session is closed. -/
def wrapUp (o : Options) (report : Report) : Except Failure Ending → Act σ Nat
  | .ok ending => do
    let _ ← ending.report.conclude ending.status ending.error o.reports
    return ending.exitCode
  | .error failure => do
    let _ ← report.conclude "failed" none o.reports
    Act.fail failure

theorem inSession_eq (maker : AgentMaker σ) (o : Options) (p : Preferences) (args : List Argument)
    (report : Report) :
    inSession maker o p args report =
      (workGuarded maker o p args report).attempt >>= fun result =>
        Run.closeQuietly >>= fun _ => wrapUp o report result := by
  unfold inSession workGuarded
  congr 1

theorem closeQuietly_result (host : Host σ) (w : σ) :
    (Run.closeQuietly host w).result = .ok () := by
  unfold Run.closeQuietly
  rw [attempt_bind]
  cases (closeSession host w).result <;> rfl

theorem only_closeQuietly : Only Event.LeavesReports (Run.closeQuietly : Act σ Unit) := by
  refine only_closeSession.attempt.bind fun result => ?_
  cases result with
  | ok => exact .pure ()
  | error failure => exact (only_say _).isWork.leavesReports

/-- A session is worked in, closed and wrapped up, whatever comes of the work. -/
theorem inSession_apply (maker : AgentMaker σ) (o : Options) (p : Preferences)
    (args : List Argument) (report : Report) (host : Host σ) (w : σ)
    {result : Except Failure Ending} {events : List Event} {w' : σ}
    (h : workGuarded maker o p args report host w = ⟨result, events, w'⟩) :
    inSession maker o p args report host w =
      ⟨(wrapUp o report result host (Run.closeQuietly host w').world).result,
        events ++ ((Run.closeQuietly host w').events ++
          (wrapUp o report result host (Run.closeQuietly host w').world).events),
        (wrapUp o report result host (Run.closeQuietly host w').world).world⟩ := by
  rw [inSession_eq, attempt_bind, h, bind_of_ok (closeQuietly_result host w')]

theorem only_workGuarded {maker : AgentMaker σ} (hmaker : maker.Modest) (o : Options)
    (p : Preferences) (args : List Argument) (report : Report) :
    Only Event.IsWork (workGuarded maker o p args report) :=
  (only_work hmaker o p args report).rescue fun _ => (only_say _).isWork.bind fun _ => .pure _

/-! ### Wrapping up -/

theorem conclude_events (report : Report) (status : String) (error : Option String)
    (directory : Option File.Path) (host : Host σ) (w : σ) :
    closings (report.conclude status error directory host w).events =
        [report.close status error] ∧
      attempts (report.conclude status error directory host w).events = [] := by
  have hclosed : emit (.closed (report.close status error)) host w =
      ⟨.ok (), [.closed (report.close status error)], w⟩ := rfl
  have hpublish := Report.only_publishIn (σ := σ) (report.close status error) directory
  have hclosings := closings_of_leavesReports hpublish.isWork.leavesReports host w
  have hattempts := attempts_of_isApart hpublish host w
  unfold Report.conclude
  rw [bind_eq_of_ok hclosed, events_bind_of_silent fun _ _ => rfl]
  constructor
  · exact congrArg (_ :: ·) hclosings
  · exact hattempts

theorem tellUnopened_events (o : Options) (report : Report) (failure : Failure) (host : Host σ)
    (w : σ) :
    closings (tellUnopened o report failure host w).events =
        [report.close "failed" (some failure.message)] ∧
      attempts (tellUnopened o report failure host w).events = [] := by
  have hsay : sayFailure failure host w =
      ⟨.ok (), [.console ("[error] " ++ failure.message ++ "\n")], w⟩ := rfl
  rw [tellUnopened, bind_eq_of_ok hsay, events_bind_of_silent fun _ _ => rfl]
  exact conclude_events ..

/-- Without a session a run returns only to tell that the launch failed. -/
theorem code_of_unopened {maker : AgentMaker σ} {o : Options} {p : Preferences}
    {args : List Argument} {report : Report} {failure : Failure} {host : Host σ} {w : σ} {code : Nat}
    (h : (continueFrom maker o p args report (.error failure) host w).result = .ok code) :
    code = 1 ∧
      closings (continueFrom maker o p args report (.error failure) host w).events =
        [report.close "failed" (some failure.message)] := by
  rw [continueFrom] at h ⊢
  split at h
  · next hlaunch =>
    rw [if_pos hlaunch]
    obtain ⟨_, _, -, h⟩ := exists_of_bind_result h
    obtain ⟨_, _, -, h⟩ := exists_of_bind_result h
    exact ⟨(Except.ok.inj h).symm, (tellUnopened_events o report failure host w).1⟩
  · cases h

theorem attempts_of_unopened (maker : AgentMaker σ) (o : Options) (p : Preferences)
    (args : List Argument) (report : Report) (failure : Failure) (host : Host σ) (w : σ) :
    attempts (continueFrom maker o p args report (.error failure) host w).events = [] := by
  rw [continueFrom]
  split
  · exact (tellUnopened_events o report failure host w).2
  · rfl

/-- The report that is closed when a run is wrapped up. -/
def closedReport (report : Report) : Except Failure Ending → Report
  | .ok ending => ending.report.close ending.status ending.error
  | .error _ => report.close "failed" none

theorem wrapUp_events (o : Options) (report : Report) (result : Except Failure Ending)
    (host : Host σ) (w : σ) :
    closings (wrapUp o report result host w).events = [closedReport report result] ∧
      attempts (wrapUp o report result host w).events = [] := by
  cases result with
  | ok ending =>
    rw [wrapUp, events_bind_of_silent fun _ _ => rfl]
    exact conclude_events ..
  | error failure =>
    rw [wrapUp, events_bind_of_silent fun _ _ => rfl]
    exact conclude_events ..

theorem exitCode_of_wrapUp {o : Options} {report : Report} {result : Except Failure Ending}
    {host : Host σ} {w : σ} {code : Nat} (h : (wrapUp o report result host w).result = .ok code) :
    ∃ ending, result = .ok ending ∧ code = ending.exitCode := by
  cases result with
  | ok ending =>
    rw [wrapUp] at h
    obtain ⟨_, _, -, hcode⟩ := exists_of_bind_result h
    exact ⟨ending, rfl, (Except.ok.inj hcode).symm⟩
  | error failure =>
    rw [wrapUp] at h
    obtain ⟨_, _, -, hcode⟩ := exists_of_bind_result h
    cases hcode

end PageScript.Run

import PageScript.Proofs.Browser.FirstFailure
import PageScript.Proofs.Run.Publication

/-!
# Runs without a session

A run whose browser is not opened tells why.  It tells the first failure of the opening, as long as
the driver lets itself be stopped: `run_tells_first_failure` states when, and what the run comes to.
A driver that refuses is heard instead, and the run may not even return
(`run_opening_failure_lost`).
-/

namespace PageScript.Run

open PageScript.Act PageScript.Browser

variable {σ : Type}

/-- The report of a run without a session. -/
def unopenedReport (o : Options) (p : Preferences) (started : Float) (failure : Failure) : Report :=
  (firstReport o p started).close "failed" (some failure.message)

/-- A run without a session prints a line, and its code is one if its report can be published. -/
theorem continueFrom_of_unopened {failure : Failure} (h : failure.isLaunch = true)
    (maker : AgentMaker σ) (o : Options) (p : Preferences) (args : List Argument) (started : Float)
    (host : Host σ) (w : σ) :
    let unopened := continueFrom maker o p args (firstReport o p started) (.error failure) host w
    .console ("[error] " ++ failure.message ++ "\n") ∈ unopened.events ∧
      (unopened.result = .ok 1 ↔
        ((unopenedReport o p started failure).publishIn o.reports host w).result = .ok ()) := by
  intro unopened
  have hsettle : settleUnopened (firstReport o p started) failure host w =
      ⟨.ok ⟨.ok 1, some (unopenedReport o p started failure)⟩,
        [.console ("[error] " ++ failure.message ++ "\n"),
          .closed (unopenedReport o p started failure)], w⟩ := by
    rw [settleUnopened, if_pos h]
    rfl
  have hunopened : unopened =
      (settleUnopened (firstReport o p started) failure >>= fun s =>
        s.finish o.reports) host w := by
    rw [← tellUnopened_eq]
    rfl
  rw [bind_eq_of_ok hsettle] at hunopened
  rw [hunopened]
  refine ⟨List.mem_append_left _ List.mem_cons_self, ?_⟩
  show (Settlement.finish ⟨.ok 1, some (unopenedReport o p started failure)⟩
    o.reports host w).result = .ok 1 ↔ _
  rw [Settlement.finish, Settlement.publish]
  rcases hpublish : (unopenedReport o p started failure).publishIn o.reports host w with
    ⟨other | ⟨⟩, events, w'⟩
  · rw [bind_eq_of_error hpublish]
    simp
  · rw [bind_eq_of_ok hpublish]
    exact ⟨fun _ => rfl, fun _ => rfl⟩

/-- **The first failure is told.**  Either all steps of an opening succeed and there is a session,
or one of them is the first to fail.  The opening then ends with that failure, wrapped as one of the
launch, unless the driver refuses to be stopped: then it ends with the refusal.  A run that is left
with the failure of the launch says so, and returns one if it can publish its report. -/
theorem run_tells_first_failure (p : Preferences) (o : Options) (host : Host σ) (w : σ) :
    (takeSteps (openingSteps p o) host w).result = .ok () ∧
        (openSession p o host w).result = .ok () ∨
      ∃ k failure, FirstFailure (openingSteps p o) host w k failure ∧
        ((openSession p o host w).result = .error (.launch failure) ↔
          ∀ refusal ∈ stopRefusals (openSession p o host w).events, refusal = .launch failure) ∧
        (∀ refusal ∈ stopRefusals (openSession p o host w).events,
          (openSession p o host w).result = .error refusal) ∧
        (Failure.launch failure).message = "Could not launch browser: " ++ failure.message ∧
        (Failure.launch failure).cause? = some failure ∧
        ((openSession p o host w).result = .error (.launch failure) →
          ∀ (maker : AgentMaker σ) (args : List Argument) (before : σ),
            Preferences.ofArguments args = .ok p → (host.now before).2 = w →
            .console ("[error] " ++ (Failure.launch failure).message ++ "\n") ∈
                (run maker args o host before).events ∧
              ((run maker args o host before).result = .ok 1 ↔
                ((unopenedReport o p (host.now before).1 (.launch failure)).publishIn o.reports host
                  (openSession p o host w).world).result = .ok ())) := by
  have hbecomes := openSession_becomes p o host w
  cases hsteps : (takeSteps (openingSteps p o) host w).result with
  | ok =>
    rw [hsteps] at hbecomes
    generalize stopRefusals (openSession p o host w).events = refusals at hbecomes
    generalize (openSession p o host w).result = result at hbecomes ⊢
    cases hbecomes
    exact .inl ⟨rfl, rfl⟩
  | error failure =>
    rw [hsteps] at hbecomes
    obtain ⟨k, hfirst⟩ := exists_firstFailure hsteps
    refine .inr ⟨k, failure, hfirst, hbecomes.eq_launch_iff, fun _ => hbecomes.eq_of_mem, ?_⟩
    refine ⟨rfl, rfl, ?_⟩
    rintro hlaunch maker args before haccepted rfl
    rcases hopen : openSession p o host (host.now before).2 with ⟨result, events, w'⟩
    obtain ⟨lines, -, -, hrun⟩ := runFor_apply maker o p args host before hopen
    rw [hopen] at hlaunch
    cases hlaunch
    have hlaunch : (Failure.launch failure).isLaunch = true := rfl
    obtain ⟨hsaid, hcode⟩ :=
      continueFrom_of_unopened hlaunch maker o p args (host.now before).1 host w'
    rw [run_of_accepted haccepted, hrun]
    exact ⟨List.mem_append_right _ (List.mem_append_right _ hsaid), hcode⟩

/-- A browser that cannot be launched, and a driver that cannot be stopped. -/
def stubborn : Rehearsal.Script where
  rules :=
    [{ onset := "launch", failure := .outside .value (some "bad launch option") },
      { onset := "stop", failure := .outside .general (some "driver gone") }]

/-- The launch is the first step to fail.  But the driver then refuses to be stopped, and that is
what the opening and the run end with. -/
theorem run_opening_failure_lost :
    ∃ p, Preferences.ofArguments [⟨"url", .text "https://example.com"⟩] = .ok p ∧
      FirstFailure (openingSteps p {}) Rehearsal.host stubborn 1
        (.outside .value (some "bad launch option")) ∧
      (openSession p {} Rehearsal.host stubborn).result =
        .error (.outside .general (some "driver gone")) ∧
      (run outsideAgent [⟨"url", .text "https://example.com"⟩] {} Rehearsal.host stubborn).result =
        .error (.outside .general (some "driver gone")) :=
  ⟨_, rfl, ⟨rfl, _, rfl, by rfl⟩, by rfl, by rfl⟩

end PageScript.Run

import PageScript.Proofs.Run.Stages
import PageScript.Proofs.Walk.Phases
import PageScript.Rehearsal

/-!
# The verdict of a run

The exit code of a run, the status of its report and what has happened agree: `run_verdict` states
that the code is zero, and the report passed, exactly if every stage of the run has gone well
(`Succeeds`).  It does not matter whether a failure has a text.
-/

namespace PageScript.Run

open PageScript.Act PageScript.Browser

variable {σ : Type} {maker : AgentMaker σ} {o : Options} {p : Preferences} {args : List Argument}
  {report : Report} {host : Host σ} {w w' : σ} {events : List Event} {failure : Failure}

/-! ### Runs that go well -/

/-- A session goes well: the address is opened, the agent is made, and the walk is completed. -/
inductive Completes (maker : AgentMaker σ) (o : Options) (p : Preferences) (args : List Argument)
    (report : Report) (host : Host σ) (w : σ) : Prop
  | intro {w₁ w₂ w₃ : σ} {events₁ events₂ events₃ : List Event}
      {agent : Capability → String → Act σ Json} {walked : Walk}
      (arrived : navigate p.url host w = ⟨.ok (), events₁, w₁⟩)
      (made : maker o host w₁ = ⟨.ok agent, events₂, w₂⟩)
      (walk_eq : Run.walk agent report args host w₂ = ⟨.ok walked, events₃, w₃⟩)
      (completed : walked.state.status = .completed)

theorem completes_iff {w₁ w₂ w₃ : σ} {events₁ events₂ events₃ : List Event}
    {agent : Capability → String → Act σ Json} {walked : Walk}
    (harrived : navigate p.url host w = ⟨.ok (), events₁, w₁⟩)
    (hmade : maker o host w₁ = ⟨.ok agent, events₂, w₂⟩)
    (hwalk : Run.walk agent report args host w₂ = ⟨.ok walked, events₃, w₃⟩) :
    Completes maker o p args report host w ↔ walked.state.status = .completed := by
  constructor
  · rintro ⟨harrived', hmade', hwalk', hcompleted⟩
    cases harrived.symm.trans harrived'
    cases hmade.symm.trans hmade'
    cases hwalk.symm.trans hwalk'
    exact hcompleted
  · exact .intro harrived hmade hwalk

/-- A run goes well: its arguments are accepted, the browser is opened after a look at the clock,
and the session goes well. -/
inductive Succeeds (maker : AgentMaker σ) (args : List Argument) (o : Options) (host : Host σ)
    (w : σ) : Prop
  | intro {p : Preferences} {events : List Event} {w' : σ}
      (accepted : Preferences.ofArguments args = .ok p)
      (opened : openSession p o host (host.now w).2 = ⟨.ok (), events, w'⟩)
      (completes : Completes maker o p args (firstReport o p (host.now w).1) host w')

/-! ### Endings -/

/-- An ending tells by its code and by its status whether something is so. -/
structure Ending.Tells (ending : Ending) (well : Prop) : Prop where
  code : ending.exitCode = 0 ∧ well ∨ ending.exitCode = 1 ∧ ¬ well
  status : ending.status = "passed" ↔ ending.exitCode = 0

theorem tells_of_succeeded {s : Walk.State} {well : Prop} (h : s.Succeeded) (hwell : well) :
    Ending.Tells { report, state := some s } well where
  code := .inl ⟨h.exitCode, hwell⟩
  status := by
    have hcode : Ending.exitCode { report, state := some s } = 0 := h.exitCode
    rw [hcode]
    simp [Ending.status, Ending.passed, h.status]

theorem tells_of_error {ending : Ending} {text : String} {well : Prop}
    (herror : ending.error = some text) (hcode : ending.exitCode = 1) (hwell : ¬ well) :
    ending.Tells well where
  code := .inr ⟨hcode, hwell⟩
  status := by
    rw [hcode]
    simp [Ending.status, Ending.passed, herror]

theorem tells_of_failedAt {s : Walk.State} {a : Argument} {failure : Failure} {well : Prop}
    (h : s.FailedAt a failure) (text : String) (hwell : ¬ well) :
    Ending.Tells { report, state := some s, error := some text } well := by
  refine tells_of_error rfl ?_ hwell
  -- An empty text counts as none, and then the state of the walk gives the code.
  unfold Ending.exitCode
  split
  · next herror _ => cases herror
  · next hstate =>
    cases hstate
    exact h.exitCode
  · rfl

theorem tells_of_refused {text : String} {well : Prop} (hwell : ¬ well) :
    Ending.Tells { report, error := some text } well := by
  refine tells_of_error rfl ?_ hwell
  -- There is no walk, so the code is that of a failure even if the text is empty.
  unfold Ending.exitCode
  split
  · next hstate => cases hstate
  · next hstate => cases hstate
  · rfl

/-! ### Work -/

/-- Go through the arguments with an agent, and take a picture if that fails. -/
def goThrough (o : Options) (args : List Argument) (report : Report)
    (agent : Capability → String → Act σ Json) : Act σ Ending := do
  let w ← Run.walk agent report args
  match w.state.status, w.state.lastError with
  | .failed, some failure => do
    let report ← pictureFailure o.reports w.report
    return { report, state := some w.state, error := some failure.message }
  | _, _ => return { report := w.report, state := some w.state }

theorem work_eq (maker : AgentMaker σ) (o : Options) (p : Preferences) (args : List Argument)
    (report : Report) :
    work maker o p args report =
      Act.say ("[run] open " ++ p.url) >>= fun _ => navigate p.url >>= fun _ =>
        sayStep "launched" p.url >>= fun _ => startAgent maker o >>= goThrough o args report := rfl

/-- Until the address is opened, a run only speaks. -/
theorem work_apply (maker : AgentMaker σ) (o : Options) (args : List Argument) (report : Report)
    (h : navigate p.url host w = ⟨.ok (), events, w'⟩) :
    (work maker o p args report host w).result =
      ((startAgent maker o >>= goThrough o args report) host w').result := by
  have hopen : Act.say ("[run] open " ++ p.url) host w =
      ⟨.ok (), [.console ("[run] open " ++ p.url ++ "\n")], w⟩ := rfl
  have hlaunched : sayStep "launched" p.url host w' =
      ⟨.ok (), [.console (noticeText "launched" (.string p.url) ++ "\n")], w'⟩ := rfl
  rw [work_eq, bind_eq_of_ok hopen, bind_eq_of_ok h, bind_eq_of_ok hlaunched]

theorem work_of_unreached (h : navigate p.url host w = ⟨.error failure, events, w'⟩) :
    (work maker o p args report host w).result = .error failure := by
  have hopen : Act.say ("[run] open " ++ p.url) host w =
      ⟨.ok (), [.console ("[run] open " ++ p.url ++ "\n")], w⟩ := rfl
  rw [work_eq, bind_eq_of_ok hopen, bind_eq_of_error h]

theorem exists_walk_eq (agent : Capability → String → Act σ Json) (o : Options) (p : Preferences)
    (started : Float) (args : List Argument) (host : Host σ) (w : σ) :
    ∃ walked events w',
      Run.walk agent (firstReport o p started) args host w = ⟨.ok walked, events, w'⟩ ∧
        (walked.state.Succeeded ∨ ∃ a failure, walked.state.FailedAt a failure) := by
  obtain ⟨turns, s, w', hcourse⟩ :=
    Walk.exists_course { agent, keeper := saveAnswer } host {} w args
  obtain ⟨r, hrun, -⟩ := hcourse.run_eq (firstReport o p started)
  refine ⟨⟨s, r⟩, _, w', hrun, ?_⟩
  rcases hcourse.succeeded_or_failsAt with ⟨hsucceeded, -, -⟩ | ⟨k, t, failure, hfails⟩
  · exact .inl hsucceeded
  · exact .inr ⟨t.argument, failure, hfails.failedAt⟩

/-- A picture is taken or not, but that never fails. -/
theorem exists_pictureFailure_eq (directory : Option File.Path) (report : Report) (host : Host σ)
    (w : σ) :
    ∃ pictured, (pictureFailure directory report host w).result = .ok pictured := by
  cases directory with
  | none => exact ⟨report, rfl⟩
  | some directory =>
    rcases htake : takePicture directory report host w with ⟨_ | pictured, events, w'⟩
    · rw [pictureFailure, rescue_of_error htake]
      exact ⟨report, rfl⟩
    · rw [pictureFailure, rescue_of_ok htake]
      exact ⟨pictured, rfl⟩

theorem goThrough_tells (o : Options) {agent : Capability → String → Act σ Json} {walked : Walk}
    (hwalk : Run.walk agent report args host w = ⟨.ok walked, events, w'⟩)
    (hstate : walked.state.Succeeded ∨ ∃ a failure, walked.state.FailedAt a failure) :
    ∃ ending, (goThrough o args report agent host w).result = .ok ending ∧
      ending.Tells (walked.state.status = .completed) := by
  unfold goThrough
  rw [bind_eq_of_ok hwalk]
  rcases hstate with hsucceeded | ⟨a, failure, hfailedAt⟩
  · rw [hsucceeded.status]
    exact ⟨_, rfl, tells_of_succeeded hsucceeded rfl⟩
  · obtain ⟨pictured, hpictured⟩ := exists_pictureFailure_eq o.reports walked.report host w'
    rw [hfailedAt.status, hfailedAt.lastError]
    refine ⟨{ report := pictured, state := some walked.state, error := some failure.message }, ?_,
      tells_of_failedAt hfailedAt failure.message (by decide)⟩
    dsimp only
    rw [bind_of_ok hpictured]
    rfl

/-- Work that fails is no good, whether or not the run goes on to its end. -/
theorem tells_of_work_error {ending : Ending} {well : Prop}
    (h : (work maker o p args report host w).result = .error failure) (hwell : ¬ well)
    (hending : (workGuarded maker o p args report host w).result = .ok ending) :
    ending.Tells well := by
  rcases hwork : work maker o p args report host w with ⟨result, events, w'⟩
  rw [hwork] at h
  cases h
  rw [workGuarded, rescue_of_error hwork] at hending
  split at hending
  · cases hending
    exact tells_of_refused hwell
  · cases hending

theorem workGuarded_tells {started : Float} {ending : Ending}
    (h : (workGuarded maker o p args (firstReport o p started) host w).result = .ok ending) :
    ending.Tells (Completes maker o p args (firstReport o p started) host w) := by
  -- The work stops where the first of its parts fails, and then the session is not completed.
  rcases harrived : navigate p.url host w with ⟨failure | ⟨⟩, events₁, w₁⟩
  · refine tells_of_work_error (work_of_unreached harrived) ?_ h
    rintro ⟨harrived', -, -, -⟩
    cases harrived.symm.trans harrived'
  have hwork := work_apply maker o args (firstReport o p started) harrived
  rcases hmade : maker o host w₁ with ⟨failure | agent, events₂, w₂⟩
  · have hstart : startAgent maker o host w₁ = ⟨.error (.agentStart failure), events₂, w₂⟩ := by
      rw [startAgent, rescue_of_error hmade]
      simp [Act.fail]
    rw [bind_eq_of_error hstart] at hwork
    refine tells_of_work_error hwork ?_ h
    rintro ⟨harrived', hmade', -, -⟩
    cases harrived.symm.trans harrived'
    cases hmade.symm.trans hmade'
  -- With an agent the walk decides; it never fails as a computation, so nothing is left to rescue.
  have hstart : startAgent maker o host w₁ = ⟨.ok agent, events₂, w₂⟩ := rescue_of_ok hmade
  obtain ⟨walked, events₃, w₃, hwalk, hstate⟩ := exists_walk_eq agent o p started args host w₂
  obtain ⟨ended, hended, htells⟩ := goThrough_tells o hwalk hstate
  rw [bind_eq_of_ok hstart, hended] at hwork
  rw [completes_iff harrived hmade hwalk]
  rcases hall : work maker o p args (firstReport o p started) host w with ⟨result, events, w'⟩
  rw [hall] at hwork
  cases hwork
  rw [workGuarded, rescue_of_ok hall] at h
  cases h
  exact htells

/-! ### Runs -/

/-- A session that returns closes one report, which tells what the exit code tells. -/
theorem inSession_tells (hmaker : maker.Modest) {started : Float} {code : Nat}
    (h : (inSession maker o p args (firstReport o p started) host w).result = .ok code) :
    ∃ ending : Ending, code = ending.exitCode ∧
      ending.Tells (Completes maker o p args (firstReport o p started) host w) ∧
      closings (inSession maker o p args (firstReport o p started) host w).events =
        [ending.report.close ending.status ending.error] := by
  rcases hwork : workGuarded maker o p args (firstReport o p started) host w with
    ⟨result, events, w'⟩
  have hsilent : closings events = [] := by
    have hconduct := only_workGuarded hmaker o p args (firstReport o p started)
    simpa only [hwork] using closings_of_leavesReports hconduct.leavesReports host w
  have hclosing := closings_of_leavesReports only_closeQuietly host w'
  rw [inSession_apply maker o p args _ host w hwork] at h ⊢
  obtain ⟨ending, rfl, rfl⟩ := exitCode_of_wrapUp h
  refine ⟨ending, rfl, workGuarded_tells (congrArg Outcome.result hwork), ?_⟩
  rw [closings_append, closings_append, hsilent, hclosing, (wrapUp_events ..).1]
  rfl

/-- A run for accepted preferences that returns tells by its code and by the one report that it
closes whether it has gone well. -/
theorem runFor_tells (hmaker : maker.Modest) {code : Nat}
    (haccepted : Preferences.ofArguments args = .ok p)
    (h : (runFor maker o p args host w).result = .ok code) :
    (code = 0 ∧ Succeeds maker args o host w ∨ code = 1 ∧ ¬ Succeeds maker args o host w) ∧
      ∃ report, closings (runFor maker o p args host w).events = [report] ∧
        (report.status = "passed" ↔ code = 0) := by
  rcases hopen : openSession p o host (host.now w).2 with ⟨result, events, w'⟩
  have hopening : closings events = [] := by
    simpa only [hopen] using closings_of_leavesReports (only_openSession p o) host (host.now w).2
  obtain ⟨lines, -, hlines, hrun⟩ := runFor_apply maker o p args host w hopen
  rw [hrun] at h ⊢
  rw [closings_append, closings_append, hlines, hopening]
  cases result with
  | error failure =>
    obtain ⟨rfl, hclosing⟩ := code_of_unopened h
    refine ⟨.inr ⟨rfl, ?_⟩, _, hclosing, ?_⟩
    · rintro ⟨haccepted', hopen', -⟩
      cases haccepted.symm.trans haccepted'
      cases hopen.symm.trans hopen'
    · show "failed" = "passed" ↔ 1 = 0
      decide
  | ok =>
    -- The session is worked in, and its completion is the only thing left to ask for.
    have hsucceeds : Succeeds maker args o host w ↔
        Completes maker o p args (firstReport o p (host.now w).1) host w' := by
      constructor
      · rintro ⟨haccepted', hopen', hcompletes⟩
        cases haccepted.symm.trans haccepted'
        cases hopen.symm.trans hopen'
        exact hcompletes
      · exact .intro haccepted hopen
    obtain ⟨ending, rfl, htells, hclosing⟩ := inSession_tells hmaker h
    rw [hsucceeds]
    exact ⟨htells.code, _, hclosing, htells.status⟩

/-- A run that returns gives the exit code zero if it has gone well, and one if it has not; if its
arguments are accepted then one report is closed, and it has passed if the code is zero.  A run with
arguments that are refused prints why, and nothing else happens. -/
theorem run_verdict (hmaker : maker.Modest) (args : List Argument) (o : Options) (host : Host σ)
    (w : σ) :
    (∀ code, (run maker args o host w).result = .ok code →
      (code = 0 ∧ Succeeds maker args o host w ∨ code = 1 ∧ ¬ Succeeds maker args o host w) ∧
        ∀ p, Preferences.ofArguments args = .ok p →
          ∃ report, closings (run maker args o host w).events = [report] ∧
            (report.status = "passed" ↔ code = 0)) ∧
      ∀ failure, Preferences.ofArguments args = .error failure → failure.isArgument = true →
        run maker args o host w =
          ⟨.ok 1, [.console ("[error] " ++ failure.message ++ "\n")], w⟩ := by
  cases haccepted : Preferences.ofArguments args with
  | ok p =>
    rw [run_of_accepted haccepted]
    constructor
    · intro code h
      obtain ⟨hcode, hreport⟩ := runFor_tells hmaker haccepted h
      exact ⟨hcode, fun _ _ => hreport⟩
    · nofun
  | error failure =>
    rw [run_of_refused haccepted]
    constructor
    · intro code h
      have hfails : ¬ Succeeds maker args o host w := by
        rintro ⟨haccepted', -, -⟩
        cases haccepted.symm.trans haccepted'
      split at h
      · cases h
        refine ⟨.inr ⟨rfl, hfails⟩, ?_⟩
        intro p hp
        cases hp
      · cases h
    · rintro _ ⟨rfl⟩ hargument
      rw [if_pos hargument]

/-- A page, and something to do on it. -/
def visit : List Argument := [⟨"url", .text "example.com"⟩, ⟨"action", .text "sign in"⟩]

/-- Surroundings in which the agent fails without a text. -/
def silence : Rehearsal.Script := { agent := [.error (.outside .general none)] }

/-- The agent fails without a text: the run returns one, and its report has not passed. -/
theorem run_verdict_of_silence :
    (run outsideAgent visit {} Rehearsal.host silence).result = .ok 1 ∧
      ¬ Succeeds outsideAgent visit {} Rehearsal.host silence ∧
        ∃ report, closings (run outsideAgent visit {} Rehearsal.host silence).events = [report] ∧
          report.status ≠ "passed" := by
  have hresult : (run outsideAgent visit {} Rehearsal.host silence).result = .ok 1 := by rfl
  obtain ⟨p, haccepted⟩ : ∃ p, Preferences.ofArguments visit = .ok p := ⟨_, rfl⟩
  obtain ⟨hcode, hreport⟩ :=
    (run_verdict modest_outsideAgent visit {} Rehearsal.host silence).1 1 hresult
  have hfails : ¬ Succeeds outsideAgent visit {} Rehearsal.host silence := by
    rcases hcode with ⟨hzero, -⟩ | ⟨-, hfails⟩
    · cases hzero
    · exact hfails
  obtain ⟨report, hclosing, hstatus⟩ := hreport p haccepted
  refine ⟨hresult, hfails, report, hclosing, ?_⟩
  intro hpassed
  cases hstatus.mp hpassed

end PageScript.Run

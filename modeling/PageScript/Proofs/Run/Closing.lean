import PageScript.Proofs.Run.Stages
import PageScript.Rehearsal

/-!
# No browser is left open

Whatever fails, a run ends the browser that it has started.  What a run does to the browser is a
lifetime (`runFor_lifetime`), and `run_closes` says what that means for the stages that end it.
-/

namespace PageScript.Run

open PageScript.Act PageScript.Browser

variable {σ : Type} {maker : AgentMaker σ}

theorem closeQuietly_attempts (host : Host σ) (w : σ) :
    ∃ left closed stopped, attempts (Run.closeQuietly host w).events =
      [⟨.closeContext, left⟩, ⟨.closeBrowser, closed⟩, ⟨.stop, stopped⟩] := by
  obtain ⟨left, closed, stopped, hattempts⟩ := closeSession_attempts host w
  refine ⟨left, closed, stopped, ?_⟩
  rw [Run.closeQuietly, attempt_bind, attempts_append, hattempts]
  cases (closeSession host w).result <;> rfl

/-- A session ends with its closing, after which the browser is left alone. -/
theorem inSession_attempts (hmaker : maker.Modest) (o : Options) (p : Preferences)
    (args : List Argument) (report : Report) (host : Host σ) (w : σ) :
    ∃ uses left closed stopped, AreUses uses ∧
      attempts (inSession maker o p args report host w).events =
        uses ++ [⟨.closeContext, left⟩, ⟨.closeBrowser, closed⟩, ⟨.stop, stopped⟩] := by
  have huses := areUses_of_isWork host w (only_workGuarded hmaker o p args report)
  rcases hwork : workGuarded maker o p args report host w with ⟨result, events, w'⟩
  rw [hwork] at huses
  obtain ⟨left, closed, stopped, hclosing⟩ := closeQuietly_attempts host w'
  refine ⟨attempts events, left, closed, stopped, huses, ?_⟩
  rw [inSession_apply maker o p args report host w hwork, attempts_append, attempts_append,
    hclosing, (wrapUp_events ..).2, List.append_nil]

theorem runFor_lifetime (hmaker : maker.Modest) (o : Options) (p : Preferences)
    (args : List Argument) (host : Host σ) (w : σ) :
    Lifetime (openSession p o host (host.now w).2).result.isOk
      (attempts (runFor maker o p args host w).events) := by
  have hopening := openSession_opening p o host (host.now w).2
  rcases hopen : openSession p o host (host.now w).2 with ⟨failure | ⟨⟩, events, w'⟩
  all_goals
    rw [hopen] at hopening
    obtain ⟨lines, hlines, -, hrun⟩ := runFor_apply maker o p args host w hopen
    rw [hrun, attempts_append, attempts_append, hlines, List.nil_append]
  · rw [attempts_of_unopened, List.append_nil]
    exact .unopened hopening
  · obtain ⟨uses, left, closed, stopped, huses, hsession⟩ :=
      inSession_attempts hmaker o p args (firstReport o p (host.now w).1) host w'
    show Lifetime true (attempts events ++ attempts (inSession maker o p args _ host w').events)
    rw [hsession, ← List.append_assoc]
    exact .closed left closed stopped hopening huses

/-- The arguments are accepted, and the browser is opened for them. -/
def HasSession (args : List Argument) (o : Options) (host : Host σ) (w : σ) : Prop :=
  ∃ p, Preferences.ofArguments args = .ok p ∧
    (openSession p o host (host.now w).2).result = .ok ()

/-- Whatever comes of it, a run stops the driver that it has started, as the last thing that it does
to the browser; before that it closes the browser that it has launched, and before that the context
of the session that it has opened.  Each of these comes exactly once, and none of them if the driver
does not start or the arguments are refused. -/
theorem run_closes (hmaker : maker.Modest) (args : List Argument) (o : Options) (host : Host σ)
    (w : σ) :
    LeftClosed (⟨.start, true⟩ ∈ attempts (run maker args o host w).events)
      (⟨.launch, true⟩ ∈ attempts (run maker args o host w).events)
      (HasSession args o host w)
      (⟨.start, false⟩ ∈ attempts (run maker args o host w).events ∨
        ∃ failure, Preferences.ofArguments args = .error failure)
      ((attempts (run maker args o host w).events).map Attempt.stage) := by
  cases haccepted : Preferences.ofArguments args with
  | ok p =>
    rw [run_of_accepted haccepted]
    refine (runFor_lifetime hmaker o p args host w).leftClosed.mono id id ?_ ?_
    · rintro ⟨_, haccepted', hopened⟩
      cases haccepted.symm.trans haccepted'
      rw [hopened]
      rfl
    · rintro (hspared | ⟨failure, hrefused⟩)
      · exact hspared
      · cases hrefused
  | error failure =>
    have hnone : attempts (run maker args o host w).events = [] := by
      rw [run_of_refused haccepted]
      split <;> rfl
    rw [hnone]
    constructor
    · nofun
    · nofun
    · rintro ⟨_, haccepted', -⟩
      cases haccepted.symm.trans haccepted'
    · nofun

/-- A browser that neither opens an address nor lets itself be closed. -/
def unwilling : Rehearsal.Script where
  rules :=
    [{ onset := "goto", failure := .browser false "unreachable" },
      { onset := "context.close", failure := .browser false "busy" },
      { onset := "browser.close", failure := .browser false "busy" }]

/-- An address, and who asks for it. -/
def errand : List Argument := [⟨"url", .text "example.com"⟩, ⟨"user-agent", .text "agent"⟩]

/-- The address is not reached, and neither the context nor the browser agrees to be closed; both are
told to, and the driver is stopped. -/
theorem run_closes_of_unwilling :
    let b := attempts (run outsideAgent errand {} Rehearsal.host unwilling).events
    (⟨.use, false⟩ ∈ b ∧ ⟨.closeContext, false⟩ ∈ b ∧ ⟨.closeBrowser, false⟩ ∈ b) ∧
      ((b.map Attempt.stage).count .stop = 1 ∧ (b.map Attempt.stage).getLast? = some .stop) ∧
      ((b.map Attempt.stage).count .closeBrowser = 1 ∧
        [.closeBrowser, .stop].Sublist (b.map Attempt.stage)) ∧
      (b.map Attempt.stage).count .closeContext = 1 ∧
        [.closeContext, .closeBrowser].Sublist (b.map Attempt.stage) := by
  intro b
  have hb : b = [⟨.start, true⟩, ⟨.launch, true⟩, ⟨.use, true⟩, ⟨.use, true⟩, ⟨.use, false⟩,
      ⟨.closeContext, false⟩, ⟨.closeBrowser, false⟩, ⟨.stop, true⟩] := by
    decide +kernel
  have hsession : HasSession errand {} Rehearsal.host unwilling := ⟨_, rfl, by rfl⟩
  have hclosed := run_closes modest_outsideAgent errand {} Rehearsal.host unwilling
  have hstarted : ⟨.start, true⟩ ∈ b := by simp [hb]
  have hlaunched : ⟨.launch, true⟩ ∈ b := by simp [hb]
  refine ⟨?_, hclosed.stops hstarted, hclosed.closes hlaunched, hclosed.leaves hsession⟩
  simp [hb]

end PageScript.Run

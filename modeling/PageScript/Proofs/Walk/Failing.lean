import PageScript.Proofs.Walk.Pairing
import PageScript.Proofs.Walk.Phases

/-!
# Steps that fail

An argument fails because it is not fit to be carried out, and then nobody is called for it
(`Unfit`), or because somebody who is called lets the walk down (`LetDown`).  Either way the failure
is kept as it is; only what an agent fails with is wrapped in an agent's failure where it is none.

`run_failing` states it of every turn of a walk, together with what a failure leaves of the state.
-/

namespace PageScript.Walk

/-! ### Why an argument fails -/

/-- The names whose value must be a text. -/
def textNames : List String := ["action", "assert", "query-output", "query"]

/-- Why an argument is not fit to be carried out. -/
inductive Unfit (s : State) (a : Argument) : Failure → Prop
  | outOfOrder (hphase : s.phase = .acting) (hname : a.isAction = false) :
      Unfit s a (.outOfOrder a.name)
  | missing (hname : a.name ∈ textNames) (hvalue : a.value = .absent ∨ a.value = .text "") :
      Unfit s a (.missingValue a.name a.value)
  | noText (hname : a.name ∈ textNames) (hvalue : a.value ≠ .absent ∧ ∀ t, a.value ≠ .text t) :
      Unfit s a (.wrongType a.name "string" a.value)
  | noNumber (hname : a.name = "sleep")
      (hvalue : (∃ b, a.value = .flag b) ∨ ∃ t, a.value = .text t ∧ t ≠ "") :
      Unfit s a (.wrongType a.name "number" a.value)
  | tooLarge {n : Int} (hname : a.name = "sleep") (hvalue : a.value = .integer n)
      (hn : Number.floatOfInt n = .error .tooLarge) : Unfit s a (.number .tooLarge)

/-- The last of the calls for an argument fails. -/
inductive LetDown (s : State) (a : Argument) : List Exchange → Failure → Prop
  | agent {capability : Capability} {instruction : String} {failure : Failure}
      (hname : a.name = (Task.consult capability).name) (hvalue : a.value = .text instruction)
      (hagent : failure.isAgent = true) :
      LetDown s a [⟨.consult capability instruction, .error failure⟩] failure
  | wrapped {capability : Capability} {instruction : String} {failure : Failure}
      (hname : a.name = (Task.consult capability).name) (hvalue : a.value = .text instruction)
      (hagent : failure.isAgent = false) :
      LetDown s a [⟨.consult capability instruction, .error failure⟩] (.agentCall failure)
  | keeper {demand path : String} {answer : Json} {failure : Failure} (hname : a.name = "query")
      (hvalue : a.value = .text demand) (hpending : s.pending = some path) :
      LetDown s a [⟨.consult .query demand, .ok answer⟩, ⟨.keep path answer, .error failure⟩]
        failure
  | sleep {milliseconds : Float} {failure : Failure} (hname : a.name = "sleep")
      (hvalue : a.value.isNumber = true) (hms : a.value.toFloat = .ok milliseconds) :
      LetDown s a [⟨.sleep (sleepSeconds milliseconds), .error failure⟩] failure

variable {s : State} {a : Argument} {calls : List Exchange} {failure : Failure}
  {pending : Option String} {result : Except Failure (Option String × Json)}

/-! ### Arguments that are not fit -/

theorem mem_textNames_iff :
    a.name ∈ textNames ↔ ∃ task, Task.ofName? a.name = some task ∧ task ≠ .pause := by
  simp only [ofName?_eq_some_iff, textNames, List.mem_cons, List.not_mem_nil, or_false]
  constructor
  · rintro (h | h | h | h)
    · exact ⟨.consult .action, h, nofun⟩
    · exact ⟨.consult .assertion, h, nofun⟩
    · exact ⟨.setPath, h, nofun⟩
    · exact ⟨.consult .query, h, nofun⟩
  · rintro ⟨⟨⟨⟩⟩ | _ | _, h, hne⟩
    · exact .inl h
    · exact .inr (.inl h)
    · exact .inr (.inr (.inr h))
    · exact .inr (.inr (.inl h))
    · exact absurd rfl hne

theorem requireText_eq_error_iff :
    requireText a = .error failure ↔
      (a.value = .absent ∨ a.value = .text "") ∧ .missingValue a.name a.value = failure ∨
        (a.value ≠ .absent ∧ ∀ t, a.value ≠ .text t) ∧
          .wrongType a.name "string" a.value = failure := by
  unfold requireText
  cases a.value with
  | text t => by_cases ht : t = "" <;> simp [Value.isGiven, ht]
  | _ => simp [Value.isGiven]

/-- Without the text that it must have an argument fails, and nobody is called. -/
theorem Dispatched.of_requireText (h : Dispatched pending a calls result)
    (hname : a.name ∈ textNames) (htext : requireText a = .error failure) :
    result = .error failure ∧ calls = [] := by
  obtain ⟨task, htask, hne⟩ := mem_textNames_iff.mp hname
  cases h with
  | unfit _ _ text =>
    cases htext.symm.trans text
    exact ⟨rfl, rfl⟩
  | pathSet _ text | consulted _ _ text | unanswered _ text | answered _ text | kept _ text =>
    cases htext.symm.trans text
  | idle htask' => cases htask.symm.trans htask'
  | unpaused htask' | notNumber htask' | tooLarge htask' | slept htask' =>
    cases htask.symm.trans htask'
    exact absurd rfl hne

/-- With a value that is no number a sleep fails, and no time passes. -/
theorem Dispatched.of_isNumber (h : Dispatched pending a calls result) (hname : a.name = "sleep")
    (hgiven : a.value.isGiven = true) (hnumber : a.value.isNumber = false) :
    result = .error (.wrongType a.name "number" a.value) ∧ calls = [] := by
  have htask : Task.ofName? a.name = some .pause := ofName?_eq_some_iff.mpr hname
  cases h with
  | notNumber => exact ⟨rfl, rfl⟩
  | idle htask' | pathSet htask' | consulted htask' | unanswered htask' | answered htask'
  | kept htask' => cases htask.symm.trans htask'
  | unfit hne => exact absurd rfl (hne _ htask)
  | unpaused _ hgiven' => cases hgiven.symm.trans hgiven'
  | tooLarge _ hnumber' | slept _ hnumber' => cases hnumber.symm.trans hnumber'

/-- With a number that is too large a sleep fails, and no time passes. -/
theorem Dispatched.of_toFloat {issue : Number.Issue} (h : Dispatched pending a calls result)
    (hname : a.name = "sleep") (hnumber : a.value.isNumber = true)
    (hfloat : a.value.toFloat = .error issue) : result = .error (.number issue) ∧ calls = [] := by
  have htask : Task.ofName? a.name = some .pause := ofName?_eq_some_iff.mpr hname
  cases h with
  | tooLarge _ _ hfloat' =>
    cases hfloat.symm.trans hfloat'
    exact ⟨rfl, rfl⟩
  | idle htask' | pathSet htask' | consulted htask' | unanswered htask' | answered htask'
  | kept htask' => cases htask.symm.trans htask'
  | unfit hne => exact absurd rfl (hne _ htask)
  | unpaused _ hgiven => cases (Value.isGiven_of_isNumber hnumber).symm.trans hgiven
  | notNumber _ _ hnumber' => cases hnumber.symm.trans hnumber'
  | slept _ _ hfloat' => cases hfloat.symm.trans hfloat'

/-! ### One turn -/

/-- An action is always admitted. -/
theorem Undertaken.dispatched (h : Undertaken s a calls result) (hname : a.isAction = true) :
    Dispatched s.pending a calls result := by
  cases h with
  | refused phase => cases (Phase.advance_of_isActionName s.phase hname).symm.trans phase
  | admitted _ dispatched => exact dispatched

theorem isAction_of_mem_textNames (h : a.name ∈ textNames) : a.isAction = true := by
  obtain ⟨task, htask, -⟩ := mem_textNames_iff.mp h
  exact (isSome_ofName?_iff a.name).mp (by rw [htask]; rfl)

theorem isAction_of_sleep (h : a.name = "sleep") : a.isAction = true := by
  unfold Argument.isAction
  rw [h]
  rfl

/-- An argument that is not fit fails for that reason, and nobody is called for it. -/
theorem Unfit.settles (h : Unfit s a failure) (hway : Undertaken s a calls result) :
    result = .error failure ∧ calls = [] := by
  cases h with
  | outOfOrder hphase hname =>
    have hrefused : s.phase.advance a.name = .error (.outOfOrder a.name) :=
      Phase.advance_eq_error_iff.mpr ⟨hphase, hname, rfl⟩
    cases hway with
    | refused phase =>
      cases hrefused.symm.trans phase
      exact ⟨rfl, rfl⟩
    | admitted phase_eq => cases hrefused.symm.trans phase_eq
  | missing hname hvalue =>
    have htext := requireText_eq_error_iff.mpr (.inl ⟨hvalue, rfl⟩)
    exact (hway.dispatched (isAction_of_mem_textNames hname)).of_requireText hname htext
  | noText hname hvalue =>
    have htext := requireText_eq_error_iff.mpr (.inr ⟨hvalue, rfl⟩)
    exact (hway.dispatched (isAction_of_mem_textNames hname)).of_requireText hname htext
  | noNumber hname hvalue =>
    refine (hway.dispatched (isAction_of_sleep hname)).of_isNumber hname ?_ ?_
    all_goals rcases hvalue with ⟨b, hb⟩ | ⟨t, ht, hne⟩ <;> simp_all [Value.isGiven, Value.isNumber]
  | tooLarge hname hvalue hn =>
    refine (hway.dispatched (isAction_of_sleep hname)).of_toFloat hname ?_ ?_
    · rw [hvalue]
      rfl
    · rw [hvalue]
      exact hn

/-- What the last call fails with is what the argument fails with. -/
theorem LetDown.settles (h : LetDown s a calls failure) (hway : Undertaken s a calls result) :
    result = .error failure := by
  cases hway with
  | refused => cases h
  | admitted _ dispatched =>
    cases h with
    | agent _ _ hagent => cases dispatched <;> exact congrArg Except.error (if_pos hagent)
    | wrapped _ _ hagent =>
      have hother := Bool.eq_false_iff.mp hagent
      cases dispatched <;> exact congrArg Except.error (if_neg hother)
    | keeper =>
      cases dispatched
      rfl
    | @sleep milliseconds =>
      -- How long the sleep takes is not looked at.
      generalize sleepSeconds milliseconds = seconds at dispatched
      cases dispatched
      rfl

theorem letDown_of_consult {capability : Capability} {instruction : String}
    (htask : Task.ofName? a.name = some (.consult capability))
    (htext : requireText a = .ok instruction) (failure : Failure) :
    LetDown s a [⟨.consult capability instruction, .error failure⟩] (agentFailure failure) := by
  have hname := ofName?_eq_some_iff.mp htask
  have hvalue := (requireText_eq_ok_iff.mp htext).1
  unfold agentFailure
  split
  · next hagent => exact .agent hname hvalue hagent
  · next hagent => exact .wrapped hname hvalue (Bool.eq_false_iff.mpr hagent)

theorem eq_tooLarge_of_floatOfInt {n : Int} {issue : Number.Issue}
    (h : Number.floatOfInt n = .error issue) : issue = .tooLarge := by
  unfold Number.floatOfInt at h
  dsimp only at h
  split at h
  · exact (Except.error.inj h).symm
  · cases h

-- The numbers that are too large begin halfway between the largest double and the 1024th power of
-- two.
example : Number.floatOfInt (2 ^ 1024 - 2 ^ 970) matches .error .tooLarge := by decide +kernel
example : Number.floatOfInt (2 ^ 1024 - 2 ^ 970 - 1) matches .ok _ := by decide +kernel

theorem Dispatched.unfit_or_letDown (h : Dispatched s.pending a calls result)
    (hresult : result = .error failure) : Unfit s a failure ∨ LetDown s a calls failure := by
  cases h with
  | idle | pathSet | answered | unpaused => cases hresult
  | unfit task named text =>
    cases hresult
    obtain ⟨t, ht⟩ := Option.isSome_iff_exists.mp named
    have hname := mem_textNames_iff.mpr ⟨t, ht, task t ht⟩
    rcases requireText_eq_error_iff.mp text with ⟨hvalue, rfl⟩ | ⟨hvalue, rfl⟩
    · exact .inl (.missing hname hvalue)
    · exact .inl (.noText hname hvalue)
  | @consulted capability instruction reply task other text =>
    cases reply with
    | ok answer => cases hresult
    | error failure =>
      cases hresult
      exact .inr (letDown_of_consult task text failure)
  | unanswered task text =>
    cases hresult
    exact .inr (letDown_of_consult task text _)
  | @kept instruction answer path reply task text path_eq =>
    cases reply with
    | ok => cases hresult
    | error failure =>
      cases hresult
      exact .inr (.keeper (ofName?_eq_some_iff.mp task) (requireText_eq_ok_iff.mp text).1 path_eq)
  | notNumber task given value =>
    cases hresult
    refine .inl (.noNumber (ofName?_eq_some_iff.mp task) ?_)
    cases hvalue : a.value <;> simp_all [Value.isGiven, Value.isNumber]
  | tooLarge task number value =>
    cases hresult
    left
    cases hvalue : a.value with
    | integer n =>
      rw [hvalue] at value
      obtain rfl := eq_tooLarge_of_floatOfInt value
      exact .tooLarge (ofName?_eq_some_iff.mp task) hvalue value
    | decimal x =>
      rw [hvalue] at value
      cases value
    | absent | flag | text =>
      rw [hvalue] at number
      cases number
  | @slept milliseconds reply task number value =>
    cases reply with
    | ok => cases hresult
    | error failure =>
      cases hresult
      exact .inr (.sleep (ofName?_eq_some_iff.mp task) number value)

/-- A turn fails if its argument is not fit, or if the last of its calls fails, and with nothing but
that failure. -/
theorem Undertaken.eq_error_iff (h : Undertaken s a calls result) :
    result = .error failure ↔ Unfit s a failure ∨ LetDown s a calls failure := by
  constructor
  · intro hresult
    cases h with
    | refused phase =>
      cases hresult
      obtain ⟨hphase, hname, rfl⟩ := Phase.advance_eq_error_iff.mp phase
      exact .inl (.outOfOrder hphase hname)
    | admitted _ dispatched => exact dispatched.unfit_or_letDown hresult
  · rintro (hunfit | hletDown)
    · exact (hunfit.settles h).1
    · exact hletDown.settles h

/-! ### A whole walk -/

theorem Turn.finish_of_error {t : Turn} (h : t.result = .error failure) :
    t.finish = { t.start with
      status := .failed, lastError := some failure, failed := some t.argument,
      phase := if t.argument.isAction then .acting else t.start.phase } := by
  rw [finish, h]
  rfl

section Course

variable {σ : Type} {partners : Partners σ} {host : Host σ} {s' : State} {w w' : σ}
  {args : List Argument} {turns : List Turn}

/-- A turn that fails is the last, and the walk ends as it ends. -/
theorem Course.ends_of_error (h : Course partners host s w args turns s' w') {t : Turn}
    (ht : t ∈ turns) (hresult : t.result = .error failure) :
    turns.getLast? = some t ∧ s' = t.finish := by
  -- A turn behind which the walk goes on has passed, so only the last can be the one that fails.
  induction h with
  | done => cases ht
  | stop =>
    cases List.mem_singleton.mp ht
    exact ⟨rfl, rfl⟩
  | @pass s' w w' w'' u rest turns taken passed _ ih =>
    rcases List.mem_cons.mp ht with rfl | ht
    · rw [Turn.standing, hresult] at passed
      cases passed
    · obtain ⟨hlast, hfinish⟩ := ih ht
      refine ⟨?_, hfinish⟩
      rw [List.getLast?_cons, hlast]
      rfl

end Course

/-- A turn of a walk fails exactly if its argument is not fit, and then nobody is called for it, or
if the last of its calls fails.  The failure is kept, and with it the argument; the phase is acting
if the argument is an action.  The pending path, the number of completed steps and whatever else
belongs to the state are as they were before the turn. -/
theorem run_failing {σ : Type} (partners : Partners σ) (host : Host σ) (v : Walk)
    (args : List Argument) (w : σ) :
    ∃ walk turns final,
      run partners v args host w = ⟨.ok walk, turns.flatMap Turn.block, final⟩ ∧
      Course partners host v.state w args turns walk.state final ∧
      (run (partners.logging host) v args (logging host) (w, [])).world.2 =
        turns.flatMap Turn.calls ∧
      (∀ t ∈ turns, ∀ failure,
        (t.result = .error failure ↔
          Unfit t.start t.argument failure ∨ LetDown t.start t.argument t.calls failure) ∧
        (Unfit t.start t.argument failure → t.calls = []) ∧
        (t.result = .error failure → turns.getLast? = some t ∧
          walk.state = { t.start with
            status := .failed, lastError := some failure, failed := some t.argument,
            phase := if t.argument.isAction then .acting else t.start.phase })) ∧
      ∀ failure, (Failure.agentCall failure).isAgent = true ∧
        (Failure.agentCall failure).message = failure.message ∧
        (Failure.agentCall failure).cause? = some failure := by
  obtain ⟨turns, s', final, hcourse⟩ := exists_course partners host v.state w args
  obtain ⟨r', hrun, -⟩ := hcourse.run_eq v.report
  have hlog := congrArg (fun outcome => outcome.world.2) (hcourse.logs_run v.report [])
  refine ⟨⟨s', r'⟩, turns, final, hrun, hcourse, hlog, ?_, fun _ => ⟨rfl, rfl, rfl⟩⟩
  intro t ht failure
  obtain ⟨_, _, htaken⟩ := hcourse.exists_taken ht
  refine ⟨htaken.way.eq_error_iff, fun hunfit => (hunfit.settles htaken.way).2, fun hresult => ?_⟩
  obtain ⟨hlast, hfinish⟩ := hcourse.ends_of_error ht hresult
  exact ⟨hlast, hfinish.trans (Turn.finish_of_error hresult)⟩

end PageScript.Walk

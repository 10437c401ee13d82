import PageScript.Proofs.Walk.LongestPrefix

/-!
# Preferences before actions

Once a walk has come to an action, it takes nothing but actions.  `run_phases` states it of a fresh
walk: the phase follows from the names seen so far, a sequence can be completed only if no other
argument stands behind an action, and such an argument ends the walk if nothing before it does.

The phase is a latch: `Turn.phase_finish` says what one turn does to it, and
`Course.phase_start_iff` what all turns before a position do.
-/

namespace PageScript.Walk

/-- At a position there is no action, but there is one before it. -/
def Misplaced (args : List Argument) (k : Nat) : Prop :=
  (∃ a, args[k]? = some a ∧ a.isAction = false) ∧ ∃ b ∈ args.take k, b.isAction = true

/-! ### One turn -/

theorem State.phaseAfter_eq_acting_iff {s : State} {name : String} :
    s.phaseAfter name = .acting ↔ s.phase = .acting ∨ isActionName name = true := by
  unfold phaseAfter
  split
  · next h => simp [h]
  · next h => simp [h]

/-- A turn leaves the same phase whether it passes or fails. -/
theorem Turn.phase_finish (t : Turn) :
    t.finish.phase = t.start.phaseAfter t.argument.name := by
  unfold finish
  split <;> rfl

theorem Turn.phase_finish_iff {t : Turn} :
    t.finish.phase = .acting ↔ t.start.phase = .acting ∨ t.argument.isAction = true := by
  rw [t.phase_finish]
  exact State.phaseAfter_eq_acting_iff

section Taken

variable {σ : Type} {partners : Partners σ} {host : Host σ} {w w' : σ} {t : Turn}

/-- An argument that the phase refuses fails before anybody is called. -/
theorem Taken.of_refused (h : Taken partners host w t w') (hphase : t.start.phase = .acting)
    (hname : t.argument.isAction = false) :
    t.result = .error (.outOfOrder t.argument.name) ∧ t.calls = [] ∧ t.events = [] := by
  have hrefused : t.start.phase.advance t.argument.name =
      .error (.outOfOrder t.argument.name) :=
    Phase.advance_eq_error_iff.mpr ⟨hphase, hname, rfl⟩
  have houtcome := h.outcome
  rw [undertake, hrefused, Act.ofExcept_error_bind, Act.fail_apply] at houtcome
  obtain ⟨hresult, hevents, -⟩ := Outcome.mk.inj houtcome
  refine ⟨hresult.symm, ?_, hevents.symm⟩
  obtain ⟨start, a, calls, events, result⟩ := t
  cases h.way with
  | refused => rfl
  | admitted phase_eq =>
    rw [hrefused] at phase_eq
    cases phase_eq

end Taken

/-! ### All turns -/

variable {σ : Type} {partners : Partners σ} {host : Host σ} {s s' : State} {w w' : σ}
  {args : List Argument} {turns : List Turn}

theorem Course.exists_taken (h : Course partners host s w args turns s' w') {t : Turn}
    (ht : t ∈ turns) : ∃ w w', Taken partners host w t w' := by
  induction h with
  | done => cases ht
  | stop taken failed =>
    cases List.mem_singleton.mp ht
    exact ⟨_, _, taken⟩
  | pass taken passed _ ih =>
    rcases List.mem_cons.mp ht with rfl | ht
    · exact ⟨_, _, taken⟩
    · exact ih ht

theorem Course.argument_of_getElem? (h : Course partners host s w args turns s' w') {i : Nat}
    {t : Turn} (ht : turns[i]? = some t) : args[i]? = some t.argument := by
  induction h generalizing i with
  | done => cases ht
  | stop =>
    cases i with
    | zero =>
      cases ht
      rfl
    | succ i => cases ht
  | pass _ _ _ ih =>
    cases i with
    | zero =>
      cases ht
      rfl
    | succ i => exact ih ht

/-- A walk is acting at a position if and only if it has come to an action before. -/
theorem Course.phase_start_iff (h : Course partners host s w args turns s' w') {i : Nat} {t : Turn}
    (ht : turns[i]? = some t) :
    t.start.phase = .acting ↔
      s.phase = .acting ∨ ∃ a ∈ args.take i, a.isAction = true := by
  induction h generalizing i with
  | done => cases ht
  | stop =>
    cases i with
    | zero =>
      cases ht
      simp
    | succ i => cases ht
  | @pass s' w w' w'' u rest turns taken passed _ ih =>
    cases i with
    | zero =>
      cases ht
      simp
    | succ i =>
      rw [ih ht, u.phase_finish_iff]
      simp [or_assoc]

theorem Course.phase_finish_iff (h : Course partners host s w args turns s' w') {i : Nat}
    {t : Turn} (ht : turns[i]? = some t) :
    t.finish.phase = .acting ↔
      s.phase = .acting ∨ ∃ a ∈ args.take (i + 1), a.isAction = true := by
  rw [t.phase_finish_iff, h.phase_start_iff ht, List.take_add_one, h.argument_of_getElem? ht]
  simp [or_assoc, or_and_right, exists_or]

theorem Course.phase_iff (h : Course partners host s w args turns s' w') :
    s'.phase = .acting ↔
      s.phase = .acting ∨ ∃ a ∈ args.take turns.length, a.isAction = true := by
  induction h with
  | done => simp [State.finish]
  | @stop w w' t rest =>
    rw [t.phase_finish_iff]
    simp
  | @pass s' w w' w'' t rest turns taken passed _ ih =>
    rw [ih, t.phase_finish_iff]
    simp [or_assoc]

theorem Course.refused_of_misplaced (h : Course partners host s w args turns s' w') {k : Nat}
    {t : Turn} (hk : Misplaced args k) (ht : turns[k]? = some t) :
    t.result = .error (.outOfOrder t.argument.name) ∧ t.calls = [] ∧ t.events = [] := by
  obtain ⟨⟨a, ha, hname⟩, hbefore⟩ := hk
  cases (h.argument_of_getElem? ht).symm.trans ha
  obtain ⟨_, _, htaken⟩ := h.exists_taken (List.mem_of_getElem? ht)
  exact htaken.of_refused ((h.phase_start_iff ht).mpr (.inr hbefore)) hname

theorem getElem?_of_drop_eq_singleton {k : Nat} {t : Turn} (h : turns.drop k = [t]) :
    turns.length = k + 1 ∧ turns[k]? = some t := by
  have hlength := congrArg List.length h
  have hhead := congrArg (fun l => l[0]?) h
  rw [List.length_drop, List.length_singleton] at hlength
  simp only [List.getElem?_drop, List.getElem?_cons_zero, Nat.add_zero] at hhead
  exact ⟨by omega, hhead⟩

/-- A walk fails at a position, after all earlier arguments have passed. -/
structure FailsAt (turns : List Turn) (s : State) (k : Nat) (t : Turn) (failure : Failure) :
    Prop where
  length : turns.length = k + 1
  turn : turns[k]? = some t
  passed : ∀ u ∈ turns.take k, u.standing = .passed
  completed : s.completed = k
  result : t.result = .error failure
  failedAt : s.FailedAt t.argument failure

/-- A walk that has nothing left to do has passed every argument; any other one fails at one. -/
theorem Course.succeeded_or_failsAt (h : Course partners host {} w args turns s' w') :
    (s'.Succeeded ∧ turns.length = args.length ∧ ∀ t ∈ turns, t.standing = .passed) ∨
      ∃ k t failure, FailsAt turns s' k t failure := by
  obtain ⟨k, hcompleted, hpassed, hend⟩ := h.prefix rfl rfl
  rcases hend with ⟨hlength, hturns, hsucceeded⟩ | ⟨t, failure, hdrop, -, hresult, hfailedAt⟩
  · left
    refine ⟨hsucceeded, hturns.trans hlength, ?_⟩
    rwa [List.take_of_length_le (Nat.le_of_eq hturns)] at hpassed
  · right
    obtain ⟨hturns, ht⟩ := getElem?_of_drop_eq_singleton hdrop
    exact ⟨k, t, failure, hturns, ht, hpassed, hcompleted.trans (Nat.zero_add k), hresult,
      hfailedAt⟩

theorem Course.not_passed_of_misplaced (h : Course partners host s w args turns s' w') {k : Nat}
    {t : Turn} (hk : Misplaced args k) (ht : turns[k]? = some t) : t.standing ≠ .passed := by
  intro hpassed
  have hresult := (h.refused_of_misplaced hk ht).1
  rw [Turn.standing, hresult] at hpassed
  cases hpassed

/-- A walk over a sequence with a misplaced argument fails there or before. -/
theorem Course.failsAt_of_misplaced (h : Course partners host {} w args turns s' w') {k : Nat}
    (hk : Misplaced args k) : ∃ i ≤ k, ∃ t failure, FailsAt turns s' i t failure := by
  -- Neither can the walk pass all arguments, nor can it come to one behind the misplaced one.
  obtain ⟨⟨a, ha, -⟩, -⟩ := id hk
  have hlt : k < args.length := (List.getElem?_eq_some_iff.mp ha).1
  rcases h.succeeded_or_failsAt with ⟨-, hlength, hpassed⟩ | ⟨i, t, failure, hfails⟩
  · have hkt : k < turns.length := by omega
    have ht : turns[k]? = some turns[k] := List.getElem?_eq_getElem hkt
    exact absurd (hpassed _ (List.getElem_mem hkt)) (h.not_passed_of_misplaced hk ht)
  · refine ⟨i, ?_, t, failure, hfails⟩
    apply Nat.le_of_not_lt
    intro hki
    have hkt : k < turns.length := by
      have := hfails.length
      omega
    have ht : turns[k]? = some turns[k] := List.getElem?_eq_getElem hkt
    have hmem : turns[k] ∈ turns.take i :=
      List.mem_take_iff_getElem.mpr ⟨k, by omega, rfl⟩
    exact h.not_passed_of_misplaced hk ht (hfails.passed _ hmem)

/-- A fresh walk never returns from acting to configuring, and it is acting after an argument if and
only if it has come to an action.  A sequence with a misplaced argument is not completed: an earlier
argument fails, or all earlier ones are completed and the misplaced one is refused, and then nobody
is called for it or for anything behind it. -/
theorem run_phases (partners : Partners σ) (host : Host σ) (world : σ) (url : Option String)
    (browser : Value) (headed : Bool) (started : Float) (args : List Argument) :
    ∃ walk turns final,
      run partners { report := { url, browser, headed, started } } args host world =
        ⟨.ok walk, turns.flatMap Turn.block, final⟩ ∧
      Course partners host {} world args turns walk.state final ∧
      (run (partners.logging host) { report := { url, browser, headed, started } } args
        (logging host) (world, [])).world.2 = turns.flatMap Turn.calls ∧
      (∀ t ∈ turns, t.start.phase = .acting → t.finish.phase = .acting) ∧
      (∀ i t, turns[i]? = some t →
        (t.finish.phase = .acting ↔ ∃ a ∈ args.take (i + 1), a.isAction = true)) ∧
      (walk.state.phase = .acting ↔ ∃ a ∈ args.take turns.length, a.isAction = true) ∧
      (walk.state.status = .completed → ∀ k, ¬ Misplaced args k) ∧
      ∀ k a, Misplaced args k → args[k]? = some a →
        (∃ i < k, ∃ t failure, FailsAt turns walk.state i t failure) ∨
        ∃ t, t.argument = a ∧ FailsAt turns walk.state k t (.outOfOrder a.name) ∧
          t.calls = [] ∧ t.events = [] := by
  obtain ⟨turns, s', final, hcourse⟩ := exists_course partners host {} world args
  obtain ⟨r', hrun, -⟩ := hcourse.run_eq { url, browser, headed, started }
  have hlog := congrArg (fun outcome => outcome.world.2)
    (hcourse.logs_run { url, browser, headed, started } [])
  have hfresh : ({} : State).phase ≠ .acting := by decide
  refine ⟨⟨s', r'⟩, turns, final, hrun, hcourse, hlog, ?_, ?_, ?_, ?_, ?_⟩
  · intro t _ hphase
    exact t.phase_finish_iff.mpr (.inl hphase)
  · intro i t ht
    rw [hcourse.phase_finish_iff ht, or_iff_right hfresh]
  · rw [hcourse.phase_iff, or_iff_right hfresh]
  · intro hstatus k hk
    obtain ⟨i, -, t, failure, hfails⟩ := hcourse.failsAt_of_misplaced hk
    exact absurd (hstatus.symm.trans hfails.failedAt.status) (by decide)
  · intro k a hk ha
    obtain ⟨i, hi, t, failure, hfails⟩ := hcourse.failsAt_of_misplaced hk
    rcases Nat.lt_or_eq_of_le hi with hlt | rfl
    · exact .inl ⟨i, hlt, t, failure, hfails⟩
    · right
      have hat := hcourse.argument_of_getElem? hfails.turn
      cases ha.symm.trans hat
      obtain ⟨hresult, hcalls, hevents⟩ := hcourse.refused_of_misplaced hk hfails.turn
      cases hresult.symm.trans hfails.result
      exact ⟨t, rfl, hfails, hcalls, hevents⟩

end PageScript.Walk

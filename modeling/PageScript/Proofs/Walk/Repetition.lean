import PageScript.Proofs.Walk.LongestPrefix
import PageScript.Rehearsal
import PageScript.Walk.Answer

/-!
# Walks on one state

A state outlives a walk, so several walks can go on from one another.  Each of them settles the
status anew.  A failure, on the other hand, is only ever replaced by a later one, and no walk that
is completed takes it back.  So status and failure agree after a walk exactly if the walk has failed
or none before it has (`runAll_coherent_iff`).
-/

namespace PageScript.Walk

variable {σ : Type} {partners : Partners σ} {host : Host σ} {s s' : State} {w w' : σ}
  {args : List Argument} {turns : List Turn}

/-- Walk through sequences one after the other, each time from where the last walk has ended: where
each of them has ended. -/
def runAll (partners : Partners σ) (v : Walk) : List (List Argument) → Act σ (List Walk)
  | [] => return []
  | args :: rest => do
    let v ← run partners v args
    let later ← runAll partners v rest
    return v :: later

/-- Status, exit code and failure of a state agree. -/
structure State.Coherent (s : State) : Prop where
  exitCode : s.exitCode = 0 ↔ s.status = .completed
  failure : s.lastError = none ∧ s.failed = none ↔ s.status = .completed

/-! ### One walk -/

/-- A walk is completed and leaves an earlier failure as it is, or it ends with a failure. -/
theorem Course.settles (h : Course partners host s w args turns s' w') :
    s'.status = .completed ∧ s'.lastError = s.lastError ∧ s'.failed = s.failed ∨
      ∃ a failure, s'.FailedAt a failure := by
  induction h with
  | done => exact .inl ⟨rfl, rfl, rfl⟩
  | stop _ hstanding =>
    obtain ⟨-, failure, -, hfailed⟩ := Turn.finish_of_failed hstanding
    exact .inr ⟨_, failure, hfailed⟩
  | pass _ hstanding _ ih =>
    obtain ⟨-, hlast, hfailed⟩ := Turn.finish_of_passed hstanding
    rwa [hlast, hfailed] at ih

theorem run_settles (partners : Partners σ) (host : Host σ) (v : Walk) (args : List Argument)
    (w : σ) :
    ∃ v' events w', run partners v args host w = ⟨.ok v', events, w'⟩ ∧
      (v'.state.status = .completed ∧ v'.state.lastError = v.state.lastError ∧
          v'.state.failed = v.state.failed ∨
        ∃ a failure, v'.state.FailedAt a failure) := by
  obtain ⟨turns, s', w', hcourse⟩ := exists_course partners host v.state w args
  obtain ⟨r', hrun, -⟩ := hcourse.run_eq v.report
  exact ⟨⟨s', r'⟩, _, w', hrun, hcourse.settles⟩

/-! ### Walks one after the other -/

/-- Whether a state is without a failure. -/
structure State.Unfailed (s : State) (well : Prop) : Prop where
  lastError : s.lastError = none ↔ well
  failed : s.failed = none ↔ well

theorem State.exitCode_eq_zero_iff (s : State) : s.exitCode = 0 ↔ s.lastError = none := by
  unfold exitCode
  cases s.lastError <;> simp

/-- After a walk a state is without a failure if it was so before, and the walk is completed. -/
theorem exists_run_unfailed (partners : Partners σ) (host : Host σ) {v : Walk} {well : Prop}
    (h : v.state.Unfailed well) (args : List Argument) (w : σ) :
    ∃ v' events w', run partners v args host w = ⟨.ok v', events, w'⟩ ∧
      (v'.state.status = .completed ∨ v'.state.status = .failed) ∧
      v'.state.Unfailed (well ∧ v'.state.status = .completed) := by
  obtain ⟨v', events, w', hrun, hends⟩ := run_settles partners host v args w
  refine ⟨v', events, w', hrun, ?_⟩
  rcases hends with ⟨hcompleted, hlast, hfailed⟩ | ⟨a, failure, hfails⟩
  · refine ⟨.inl hcompleted, ?_, ?_⟩
    · rw [hlast, h.lastError, and_iff_left hcompleted]
    · rw [hfailed, h.failed, and_iff_left hcompleted]
  · have hincomplete : ¬ (well ∧ v'.state.status = .completed) := by simp [hfails.status]
    refine ⟨.inr hfails.status, ?_, ?_⟩
    · simp [hfails.lastError, hincomplete]
    · simp [hfails.failed, hincomplete]

/-- After several walks a state is without a failure if it was so before, and all are completed. -/
theorem exists_runAll_unfailed (partners : Partners σ) (host : Host σ) {v : Walk} {well : Prop}
    (h : v.state.Unfailed well) (sequences : List (List Argument)) (w : σ) :
    ∃ (walks : List Walk) (events : List Event) (w' : σ),
      runAll partners v sequences host w = ⟨.ok walks, events, w'⟩ ∧
      walks.length = sequences.length ∧
      ∀ (i : Nat) (walk : Walk), walks[i]? = some walk →
        (walk.state.status = .completed ∨ walk.state.status = .failed) ∧
          walk.state.Unfailed (well ∧ ∀ u ∈ walks.take (i + 1), u.state.status = .completed) := by
  induction sequences generalizing v well w with
  | nil => exact ⟨[], [], w, rfl, rfl, by simp⟩
  | cons args rest ih =>
    obtain ⟨v', events, w', hrun, hsettled, hunfailed⟩ := exists_run_unfailed partners host h args w
    obtain ⟨later, more, w'', hlater, hlength, hall⟩ := ih hunfailed w'
    have hrunAll : runAll partners v (args :: rest) host w =
        ⟨.ok (v' :: later), events ++ more, w''⟩ := by
      rw [runAll, Act.bind_of_ok (congrArg Outcome.result hrun), hrun,
        Act.bind_of_ok (congrArg Outcome.result hlater), hlater]
      simp
    refine ⟨v' :: later, _, w'', hrunAll, congrArg (· + 1) hlength, fun i walk hwalk => ?_⟩
    cases i with
    | zero =>
      cases hwalk
      exact ⟨hsettled, by simpa using hunfailed⟩
    | succ i =>
      obtain ⟨hsettled', hunfailed'⟩ := hall i walk hwalk
      rw [and_assoc, ← List.forall_mem_cons (p := fun u : Walk => u.state.status = .completed)]
        at hunfailed'
      exact ⟨hsettled', hunfailed'⟩

/-- **When status and failure agree.**  Walks on one state, which is fresh at first, all return, and
each of them is completed or fails.  The exit code after a walk is zero, and no failure is recorded,
exactly if that walk and all before it are completed.  So code and failure agree with the status if
and only if the walk has failed or none before it has. -/
theorem runAll_coherent_iff (partners : Partners σ) (host : Host σ) (w : σ) (report : Report)
    (sequences : List (List Argument)) :
    ∃ (walks : List Walk) (events : List Event) (w' : σ),
      runAll partners { report } sequences host w = ⟨.ok walks, events, w'⟩ ∧
      walks.length = sequences.length ∧
      ∀ (i : Nat) (walk : Walk), walks[i]? = some walk →
        (walk.state.status = .completed ∨ walk.state.status = .failed) ∧
        (walk.state.exitCode = 0 ↔ ∀ u ∈ walks.take (i + 1), u.state.status = .completed) ∧
        (walk.state.lastError = none ∧ walk.state.failed = none ↔
          ∀ u ∈ walks.take (i + 1), u.state.status = .completed) ∧
        (walk.state.Coherent ↔
          walk.state.status = .failed ∨ ∀ u ∈ walks.take i, u.state.status = .completed) := by
  have hfresh : ({} : State).Unfailed True := ⟨by simp, by simp⟩
  obtain ⟨walks, events, w', hrun, hlength, hall⟩ :=
    exists_runAll_unfailed partners host (v := { report }) hfresh sequences w
  refine ⟨walks, events, w', hrun, hlength, fun i walk hwalk => ?_⟩
  obtain ⟨hsettled, hunfailed⟩ := hall i walk hwalk
  rw [true_and] at hunfailed
  have hcode := walk.state.exitCode_eq_zero_iff.trans hunfailed.lastError
  have hfailure := (and_congr hunfailed.lastError hunfailed.failed).trans (and_self_iff ..)
  have hlast : (∀ u ∈ walks.take (i + 1), u.state.status = .completed) ↔
      (∀ u ∈ walks.take i, u.state.status = .completed) ∧ walk.state.status = .completed := by
    rw [List.take_add_one, hwalk]
    simp [or_imp, forall_and]
  refine ⟨hsettled, hcode, hfailure, ?_⟩
  rw [hlast] at hcode hfailure
  constructor
  · intro hcoherent
    rcases hsettled with hcompleted | hfailed
    · exact .inr (hcode.mp (hcoherent.exitCode.mpr hcompleted)).1
    · exact .inl hfailed
  · rintro (hfailed | hearlier)
    · have hincomplete : walk.state.status ≠ .completed := by simp [hfailed]
      exact ⟨by simp [hcode, hincomplete], by simp [hfailure, hincomplete]⟩
    · exact ⟨hcode.trans (and_iff_right hearlier), hfailure.trans (and_iff_right hearlier)⟩

/-- Partners that play a script. -/
def scripted : Partners Rehearsal.Script where
  agent := fun capability instruction => Act.ask (.agent capability instruction)
  keeper := saveAnswer

/-- A walk that fails, and one that has nothing to do: the second is completed, but its exit code
and its failure are those of the first. -/
theorem runAll_incoherent :
    ∃ (first second : Walk) (events : List Event) (script : Rehearsal.Script),
      runAll scripted { report := ⟨none, .text "-", false, 0, [], [], "running", none⟩ }
          [[⟨"action", .absent⟩], []] Rehearsal.host {} =
        ⟨.ok [first, second], events, script⟩ ∧
      second.state.status = .completed ∧ second.state.exitCode = 1 ∧
      second.state.failed = some ⟨"action", .absent⟩ ∧ ¬ second.state.Coherent := by
  refine ⟨_, _, _, _, rfl, rfl, rfl, rfl, fun hcoherent => ?_⟩
  exact absurd (hcoherent.exitCode.mpr rfl) (by decide)

end PageScript.Walk

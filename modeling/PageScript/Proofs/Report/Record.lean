import PageScript.Report.Notice

/-!
# What the report does with a step

Each of the calls that a walk makes of its report succeeds, looks at the clock once and gives its
notices.  A step that is begun and then finished leaves one record, and changes no other.
-/

namespace PageScript.Report

/-- What a record says apart from times and errors. -/
def Step.brief (s : Step) : Nat × String × Value × Standing :=
  (s.index, s.name, s.value, s.standing)

variable {σ : Type}

theorem progress_apply (r : Report) (a : Argument) (host : Host σ) (w : σ) :
    r.progress a host w =
      ⟨.ok (r.record a.name a.value (host.now w).1), [.notice (announcement a)],
        (host.now w).2⟩ := rfl

/-- Finishing the newest of some steps. -/
theorem finishNow_apply {r : Report} (h : r.steps ≠ []) (standing : Standing)
    (error : Option String) (host : Host σ) (w : σ) :
    r.finishNow standing error host w =
      ⟨.ok (r.finish standing error (host.now w).1), [], (host.now w).2⟩ := by
  have hempty : r.steps.isEmpty = false := List.isEmpty_eq_false_iff.mpr h
  simp only [finishNow, hempty]
  rfl

theorem completed_apply {r : Report} (h : r.steps ≠ []) (a : Argument) (host : Host σ) (w : σ) :
    r.completed a host w =
      ⟨.ok (r.finish .passed none (host.now w).1),
        if a.isAction then [.notice (noticeText a.name a.value.toJson)] else [],
        (host.now w).2⟩ := by
  have hfinish := finishNow_apply h .passed none host w
  rw [completed, Act.bind_of_ok (congrArg Outcome.result hfinish), hfinish]
  cases a.isAction <;> rfl

theorem failed_apply {r : Report} (h : r.steps ≠ []) (a : Argument) (failure : Failure)
    (host : Host σ) (w : σ) :
    r.failed a failure host w =
      ⟨.ok (r.finish .failed (some failure.message) (host.now w).1),
        [.notice (noticeText (a.name ++ " - Failed") a.value.toJson),
          .notice (noticeText "Error" (.string failure.message))],
        (host.now w).2⟩ := by
  have hfinish := finishNow_apply h .failed (some failure.message) host w
  rw [failed, Act.bind_of_ok (congrArg Outcome.result hfinish), hfinish]
  rfl

theorem steps_record_ne_nil (r : Report) (name : String) (value : Value) (time : Float) :
    (r.record name value time).steps ≠ [] := by
  simp [record]

/-- A step that is begun and finished is one more record. -/
theorem brief_finish_record (r : Report) (a : Argument) (started ended : Float)
    (standing : Standing) (error : Option String) :
    ((r.record a.name a.value started).finish standing error ended).steps.map Step.brief =
      r.steps.map Step.brief ++ [(r.steps.length + 1, a.name, a.value, standing)] := by
  rw [finish_record, List.map_append]
  rfl

end PageScript.Report

import PageScript.Proofs.Report.Marks
import PageScript.Proofs.Report.Reading
import PageScript.Proofs.Run.Conduct

/-!
# What a page shows

A page *shows* a report if its marks are those of the skeleton and its tables and links say what
the report says of steps and artifacts (`Shows`).  So do all pages that are written when a report is
closed, whatever has been recorded (`conclude_shows`).
-/

namespace PageScript.Report

open PageScript.Act

/-- A page has the marks of its skeleton, and its tables and links say what the report says. -/
structure Shows (page : String) (r : Report) : Prop where
  marks : Report.marks page = skeleton r.steps.length r.pictures
  tables : ∃ rows : List (List String), List.Forall₂ Reading.SaysStep r.steps rows ∧
    ((Reading.between [] []).read page).rows =
      Reading.stepHeads :: rows ++ Reading.artifactHeads :: Reading.artifactCells r.artifacts
  links : ((Reading.between [] []).read page).links = r.artifacts.flatMap Reading.artifactLinks

theorem saysStep_stepCells_zip {steps : List Step} {lengths : List Float}
    (h : lengths.length = steps.length) :
    List.Forall₂ Reading.SaysStep steps
      ((steps.zip lengths).map fun (s, length) => Reading.stepCells s length) := by
  induction steps generalizing lengths with
  | nil => exact .nil
  | cons s steps ih =>
    obtain ⟨x, lengths, rfl⟩ := List.exists_of_length_succ lengths h
    exact .cons (Reading.saysStep_stepCells s x) (ih (Nat.succ.inj h))

theorem shows_of_page {r : Report} {total : Float} {lengths : List Float} {page : String}
    (hlengths : lengths.length = r.steps.length) (h : r.page total lengths = .ok page) :
    Shows page r := by
  unfold Report.page at h
  split at h
  · next name _ =>
    cases h
    have hread := Reading.read_pieces r name total lengths
    exact ⟨marks_page r name total hlengths,
      ⟨_, saysStep_stepCells_zip hlengths, congrArg Reading.rows hread⟩,
      congrArg Reading.links hread⟩
  · cases h

variable {σ : Type}

/-- As many durations as steps. -/
theorem length_of_canGive_durations {steps : List Step} {lengths : List Float}
    (h : CanGive (durations steps : Act σ _) lengths) : lengths.length = steps.length := by
  obtain ⟨host, w, h⟩ := h
  induction steps generalizing lengths w with
  | nil =>
    cases h
    rfl
  | cons s steps ih =>
    obtain ⟨x, v, -, hrest⟩ := exists_of_bind_result h
    obtain ⟨rest, v', hdurations, hpure⟩ := exists_of_bind_result hrest
    cases hpure
    rw [List.length_cons, List.length_cons, ih _ hdurations]

/-- If a page is written under a path, it shows a report. -/
def ShowsAt (path : File.Path) (r : Report) (e : Event) : Prop :=
  ∀ page refusal, e = .request (.write path page) refusal → Shows page r

/-- A page is written under a path. -/
def WritesAt (path : File.Path) (e : Event) : Prop :=
  ∃ page, e = .request (.write path page) none

theorem only_publish (r : Report) (directory : File.Path) :
    Only (ShowsAt (directory.child pageName) r) (r.publish directory : Act σ Unit) := by
  have hdurations : Only (ShowsAt (directory.child pageName) r) (durations r.steps : Act σ _) :=
    (madeOf_durations (P := fun _ => False) r.steps).holds
      (compositional_only (fun _ h => h.elim) fun e he page refusal heq => by
        rw [heq] at he
        cases he)
  have hsummary : directory.child summaryName ≠ directory.child pageName := by
    simp [File.Path.child, summaryName, pageName]
  refine (Only.ask fun _ _ _ h => by cases h).bind fun _ => Only.now.bind fun _ => ?_
  refine hdurations.bind fun _ => (Only.ask fun _ _ _ h => ?_).bind fun _ => ?_
  · injection h with hrequest
    injection hrequest with hpath
    exact absurd hpath hsummary
  refine hdurations.bind_of_canGive fun lengths hlengths => ?_
  refine (Only.ofExcept _).bind_of_canGive fun page hpage => ?_
  refine (Only.ask fun _ _ _ h => ?_).bind fun _ => Only.emit fun _ _ h => by cases h
  cases h
  obtain ⟨host, w, hpage⟩ := hpage
  cases hresult : r.page _ lengths with
  | error failure =>
    rw [hresult] at hpage
    cases hpage
  | ok text =>
    rw [hresult] at hpage
    cases hpage
    exact shows_of_page (length_of_canGive_durations hlengths) hresult

theorem leaves_publish (r : Report) (directory : File.Path) :
    Leaves (WritesAt (directory.child pageName)) (r.publish directory : Act σ Unit) :=
  .bind_right _ fun _ => .bind_right _ fun _ => .bind_right _ fun _ => .bind_right _ fun _ =>
    .bind_right _ fun _ => .bind_right _ fun page => .bind_left (.ask ⟨page, rfl⟩) _

/-- Every page that is written when a report is closed shows the report, and one is written unless
publishing fails. -/
theorem conclude_shows (r : Report) (status : String) (error : Option String)
    (directory : File.Path) (host : Host σ) (w : σ) :
    let outcome := r.conclude status error (some directory) host w
    (∀ page refusal,
      .request (.write (directory.child pageName) page) refusal ∈ outcome.events →
        Shows page (r.close status error)) ∧
    ∀ closed, outcome.result = .ok closed → closed = r.close status error ∧
      ∃ page, .request (.write (directory.child pageName) page) none ∈ outcome.events := by
  intro outcome
  refine ⟨fun page refusal hwritten => ?_, fun closed hclosed => ?_⟩
  · have honly : Only (ShowsAt (directory.child pageName) (r.close status error))
        (r.conclude status error (some directory) : Act σ Report) :=
      (Only.emit fun _ _ h => by cases h).bind fun _ =>
        (only_publish _ directory).bind fun _ => Only.pure _
    exact honly host w _ hwritten page refusal rfl
  · have hleaves : Leaves (WritesAt (directory.child pageName))
        (r.conclude status error (some directory) : Act σ Report) :=
      .bind_right _ fun _ => .bind_left (leaves_publish _ directory) _
    obtain ⟨-, v, -, hrest⟩ := exists_of_bind_result hclosed
    obtain ⟨-, v', -, hpure⟩ := exists_of_bind_result hrest
    cases hpure
    obtain ⟨_, hevent, page, rfl⟩ := hleaves host w _ hclosed
    exact ⟨rfl, page, hevent⟩

end PageScript.Report

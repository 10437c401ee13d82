import PageScript.Proofs.Report.Escape

/-!
# The marks of a page

What a run says cannot become markup: the marks of a page are those of a page that says nothing and
has as many steps, and pictures in the same places (`marks_page`).
-/

namespace PageScript.Report

/-- The marks that a piece puts on a page. -/
def Piece.marks : Piece → List Char
  | markup s => Report.marks s
  | plain _ | text _ => []

/-- A piece whose plain words are bland. -/
def Piece.IsProper : Piece → Prop
  | plain s => Bland s
  | markup _ | text _ => True

theorem marks_of_bland {s : String} (h : Bland s) : marks s = [] := by
  rw [← escape_of_bland h]
  exact marks_escape s

theorem marks_render {ps : List Piece} (h : ∀ p ∈ ps, p.IsProper) :
    marks (render ps) = ps.flatMap Piece.marks := by
  induction ps with
  | nil => rfl
  | cons p ps ih =>
    have hrest := ih fun q hq => h q (.tail _ hq)
    rw [render_cons, marks_append, hrest, List.flatMap_cons]
    cases p with
    | markup s => rfl
    | plain s => rw [Piece.render, marks_of_bland (h _ (.head _)), Piece.marks]
    | text s => rw [Piece.render, marks_escape, Piece.marks]

theorem isProper_badge (status : String) : ∀ p ∈ badge status, p.IsProper := by
  simp [badge, Piece.IsProper]

theorem isProper_stepRow (s : Step) (duration : Float) : ∀ p ∈ stepRow s duration, p.IsProper := by
  simp only [stepRow, List.forall_mem_append, List.forall_mem_cons, Piece.IsProper, true_and]
  exact ⟨⟨⟨bland_toString _, bland_seconds _, List.forall_mem_nil _⟩, isProper_badge _⟩,
    List.forall_mem_nil _⟩

theorem isProper_artifactRows (as : List Artifact) : ∀ p ∈ artifactRows as, p.IsProper := by
  have hrow (a : Artifact) : ∀ p ∈ artifactRow a, p.IsProper := by
    unfold artifactRow
    split <;> simp [Piece.IsProper]
  unfold artifactRows
  split
  · simp [Piece.IsProper]
  · intro p hp
    obtain ⟨a, -, hp⟩ := List.mem_flatMap.mp hp
    exact hrow a p hp

theorem isProper_pieces (r : Report) (name : String) (total : Float) (lengths : List Float) :
    ∀ p ∈ r.pieces name total lengths, p.IsProper := by
  have hrows : ∀ p ∈ (r.steps.zip lengths).flatMap fun row => stepRow row.1 row.2,
      p.IsProper := by
    intro p hp
    obtain ⟨⟨s, duration⟩, -, hp⟩ := List.mem_flatMap.mp hp
    exact isProper_stepRow s duration p hp
  simp only [pieces, List.forall_mem_append, List.forall_mem_cons, Piece.IsProper, true_and]
  have hnil : ∀ p ∈ ([] : List Piece), p.IsProper := List.forall_mem_nil _
  exact ⟨⟨⟨⟨⟨⟨⟨bland_flagText _, hnil⟩, isProper_badge _⟩, bland_seconds _, hnil⟩, hrows⟩, hnil⟩,
    isProper_artifactRows _⟩, hnil⟩

/-- A report that only says how many steps there are and which artifacts are pictures. -/
def blank (steps : Nat) (pictures : List Bool) : Report where
  url := none
  browser := .text ""
  headed := false
  started := 0
  steps := List.replicate steps { index := 0, name := "", value := .absent, started := 0 }
  artifacts := pictures.map fun picture => ⟨"", if picture then ".png" else ""⟩

/-- The marks of a page with a number of steps and with artifacts of which some are pictures. -/
def skeleton (steps : Nat) (pictures : List Bool) : List Char :=
  marks (render ((blank steps pictures).pieces "" 0 (List.replicate steps 0)))

/-- Which artifacts are pictures. -/
def pictures (r : Report) : List Bool := r.artifacts.map fun a => endsLikePicture a.path

theorem marks_colour (status : String) : marks (colour status) = [] := by
  unfold colour
  split
  · rfl
  split
  · rfl
  split <;> rfl

theorem marks_badge (status status' : String) :
    (badge status).flatMap Piece.marks = (badge status').flatMap Piece.marks := by
  simp [badge, Piece.marks, marks_colour]

/-- The marks of a row are the same for all steps. -/
theorem marks_stepRow (s s' : Step) (duration duration' : Float) :
    (stepRow s duration).flatMap Piece.marks = (stepRow s' duration').flatMap Piece.marks := by
  rw [stepRow, stepRow]
  simp only [List.flatMap_append, marks_badge s.standing.text s'.standing.text]
  rfl

/-- The marks of rows depend on their number alone. -/
theorem marks_stepRows {steps steps' : List Step} {lengths lengths' : List Float}
    (hlengths : lengths.length = steps.length) (hlengths' : lengths'.length = steps'.length)
    (h : steps.length = steps'.length) :
    ((steps.zip lengths).flatMap fun (s, duration) => stepRow s duration).flatMap Piece.marks =
      ((steps'.zip lengths').flatMap fun (s, duration) => stepRow s duration).flatMap
        Piece.marks := by
  rw [List.flatMap_assoc, List.flatMap_assoc, List.flatMap_def, List.flatMap_def]
  congr 1
  apply List.ext_getElem
  · simp [hlengths, hlengths', h]
  · intro i hi hi'
    simp only [List.getElem_map]
    exact marks_stepRow _ _ _ _

/-- The marks of an artifact depend on whether it is a picture. -/
theorem marks_artifactRow {a a' : Artifact}
    (h : endsLikePicture a.path = endsLikePicture a'.path) :
    (artifactRow a).flatMap Piece.marks = (artifactRow a').flatMap Piece.marks := by
  rw [artifactRow, artifactRow, isPicture_eq, isPicture_eq, h]
  split <;> rfl

theorem marks_artifactRows {as as' : List Artifact}
    (h : as.map (fun a => endsLikePicture a.path) = as'.map fun a => endsLikePicture a.path) :
    (artifactRows as).flatMap Piece.marks = (artifactRows as').flatMap Piece.marks := by
  have hrows : (as.flatMap artifactRow).flatMap Piece.marks =
      (as'.flatMap artifactRow).flatMap Piece.marks := by
    induction as generalizing as' with
    | nil => rw [List.map_eq_nil_iff.mp h.symm]
    | cons a as ih =>
      cases as' with
      | nil => cases h
      | cons a' as' =>
        obtain ⟨ha, has⟩ := List.cons.inj h
        simp only [List.flatMap_cons, List.flatMap_append, marks_artifactRow ha, ih has]
  cases as <;> cases as'
  · rfl
  · cases h
  · cases h
  · exact hrows

/-- Two reports with as many steps and with pictures in the same places have the same marks. -/
theorem marks_pieces {r r' : Report} {lengths lengths' : List Float}
    (hlengths : lengths.length = r.steps.length) (hlengths' : lengths'.length = r'.steps.length)
    (hsteps : r.steps.length = r'.steps.length) (hpictures : r.pictures = r'.pictures)
    (name name' : String) (total total' : Float) :
    (r.pieces name total lengths).flatMap Piece.marks =
      (r'.pieces name' total' lengths').flatMap Piece.marks := by
  rw [pieces, pieces]
  simp only [List.flatMap_append, List.flatMap_cons, List.flatMap_nil, Piece.marks,
    marks_stepRows hlengths hlengths' hsteps, marks_artifactRows hpictures,
    marks_badge r.status r'.status]

theorem pictures_blank (steps : Nat) (pictures : List Bool) :
    (blank steps pictures).pictures = pictures := by
  have hpicture (picture : Bool) :
      endsLikePicture (if picture then ".png" else "") = picture := by
    cases picture <;> decide
  simp [blank, Report.pictures, Function.comp_def, hpicture]

/-- The marks of a page are those of its skeleton. -/
theorem marks_page (r : Report) (name : String) (total : Float) {lengths : List Float}
    (hlengths : lengths.length = r.steps.length) :
    marks (render (r.pieces name total lengths)) = skeleton r.steps.length r.pictures := by
  rw [skeleton, marks_render (isProper_pieces _ _ _ _), marks_render (isProper_pieces _ _ _ _)]
  exact marks_pieces hlengths (by simp [blank]) (by simp [blank]) (pictures_blank _ _).symm _ _ _ _

end PageScript.Report

import PageScript.File.Tree

/-!
# Paths of plain names

A name is plain if a file may be called by it: it is not empty and none of the two dots, holds no
slash and no NUL, and is not too long.  Plain names with slashes between them are the text of a path
below the working directory, and that path has just these names (`ofString_intercalate`).
-/

namespace PageScript.File

open PageScript.Text

/-! ### Texts between separators -/

theorem cuts_of_none {p : Char → Bool} {cs : List Char} (h : ∀ c ∈ cs, p c = false) :
    cuts p cs = [cs] := by
  induction cs with
  | nil => rfl
  | cons c cs ih =>
    rw [cuts, if_neg (by simp [h c (.head _)]), ih fun c hc => h c (.tail _ hc)]

/-- A separator ends a piece. -/
theorem cuts_append_cons {p : Char → Bool} {front : List Char} (h : ∀ c ∈ front, p c = false)
    {c : Char} (hc : p c = true) (back : List Char) :
    cuts p (front ++ c :: back) = front :: cuts p back := by
  induction front with
  | nil => rw [List.nil_append, cuts, if_pos hc]
  | cons d front ih =>
    have hd : ¬ p d = true := by simp [h d (.head _)]
    rw [List.cons_append, cuts, if_neg hd, ih fun c hc => h c (.tail _ hc)]

/-- Pieces without a separator are found again between separators. -/
theorem cuts_intercalate {p : Char → Bool} {c : Char} (hc : p c = true)
    {pieces : List (List Char)} (hne : pieces ≠ [])
    (h : ∀ piece ∈ pieces, ∀ d ∈ piece, p d = false) :
    cuts p ([c].intercalate pieces) = pieces := by
  induction pieces with
  | nil => exact absurd rfl hne
  | cons piece pieces ih =>
    have hpiece := h piece (.head _)
    cases pieces with
    | nil => rw [List.intercalate_singleton, cuts_of_none hpiece]
    | cons next pieces =>
      rw [List.intercalate_cons_cons, List.append_assoc, List.singleton_append,
        cuts_append_cons hpiece hc, ih (by simp) fun piece hmem => h piece (.tail _ hmem)]

theorem mem_intercalate {c : Char} {separator : List Char} {pieces : List (List Char)}
    (h : c ∈ separator.intercalate pieces) : c ∈ separator ∨ ∃ piece ∈ pieces, c ∈ piece := by
  induction pieces with
  | nil => cases h
  | cons piece pieces ih =>
    cases pieces with
    | nil =>
      rw [List.intercalate_singleton] at h
      exact .inr ⟨piece, .head _, h⟩
    | cons next pieces =>
      rw [List.intercalate_cons_cons, List.mem_append, List.mem_append] at h
      rcases h with (hpiece | hseparator) | hrest
      · exact .inr ⟨piece, .head _, hpiece⟩
      · exact .inl hseparator
      · exact (ih hrest).imp_right fun ⟨found, hfound, hc⟩ => ⟨found, .tail _ hfound, hc⟩

namespace Path

/-! ### Plain names -/

/-- A name that a file may have. -/
def IsPlain (name : String) : Prop :=
  name ∉ ["", ".", ".."] ∧ (∀ c ∈ name.toList, c ≠ '/' ∧ c ≠ '\x00') ∧
    name.utf8ByteSize ≤ Tree.nameLimit

instance (name : String) : Decidable (IsPlain name) :=
  have := List.decidableBAll (fun c : Char => c ≠ '/' ∧ c ≠ '\x00') name.toList
  inferInstanceAs (Decidable (name ∉ ["", ".", ".."] ∧
    (∀ c ∈ name.toList, c ≠ '/' ∧ c ≠ '\x00') ∧ name.utf8ByteSize ≤ Tree.nameLimit))

variable {name : String} {names : List String}

theorem IsPlain.ne_empty (h : IsPlain name) : name ≠ "" := by
  rintro rfl
  exact h.1 (by simp)

theorem IsPlain.ne_dot (h : IsPlain name) : name ≠ "." := by
  rintro rfl
  exact h.1 (by simp)

theorem IsPlain.ne_dots (h : IsPlain name) : name ≠ ".." := by
  rintro rfl
  exact h.1 (by simp)

/-- The path of names below the working directory. -/
def below (names : List String) : Path := ⟨.here, names⟩

theorem intercalate_ne_empty (hne : names ≠ []) (h : ∀ name ∈ names, IsPlain name) :
    "/".intercalate names ≠ "" := by
  cases names with
  | nil => exact absurd rfl hne
  | cons name names =>
    have hname := (h name (.head _)).ne_empty
    cases names with
    | nil => simpa using hname
    | cons next names =>
      rw [String.intercalate_cons_cons]
      simp

theorem text_below (hne : names ≠ []) (h : ∀ name ∈ names, IsPlain name) :
    (below names).text = "/".intercalate names := by
  have htext := intercalate_ne_empty hne h
  simp [text, below, Root.text, htext]

/-- Plain names with slashes between them are read as a path of these names. -/
theorem ofString_intercalate (hne : names ≠ []) (h : ∀ name ∈ names, IsPlain name) :
    ofString ("/".intercalate names) = below names := by
  have hslash : ∀ piece ∈ names.map String.toList, ∀ c ∈ piece, (c == '/') = false := by
    intro piece hpiece c hc
    obtain ⟨name, hname, rfl⟩ := List.mem_map.mp hpiece
    exact beq_eq_false_iff_ne.mpr ((h name hname).2.1 c hc).1
  have hcuts : cuts (· == '/') ("/".intercalate names).toList = names.map String.toList := by
    rw [String.toList_intercalate]
    exact cuts_intercalate rfl (by simpa using hne) hslash
  have hnames : namesOf ("/".intercalate names).toList = names := by
    have hback : (names.map String.toList).map String.ofList = names := by simp
    rw [namesOf, hcuts, hback, List.filter_eq_self]
    intro name hname
    simp [(h name hname).ne_empty, (h name hname).ne_dot]
  -- The text begins with a name, so there is no slash in front.
  have hroot : rootOf ("/".intercalate names).toList = .here := by
    obtain ⟨name, rest, rfl⟩ := List.exists_cons_of_ne_nil hne
    obtain ⟨c, cs, hcs⟩ := List.exists_cons_of_ne_nil
      (fun hnil => (h name (.head _)).ne_empty (String.toList_eq_nil_iff.mp hnil))
    have hc : (c == '/') = false := hslash _ (.head _) c (by rw [hcs]; exact .head _)
    have hhead : ∃ more, ("/".intercalate (name :: rest)).toList = c :: more := by
      rw [String.toList_intercalate, List.map_cons, hcs]
      cases rest <;> exact ⟨_, rfl⟩
    obtain ⟨more, hmore⟩ := hhead
    simp [rootOf, hmore, hc]
  rw [ofString, hroot, hnames, below]

/-! ### The length of a path -/

/-- A path is no shorter than that of its directory. -/
theorem size_text_below_le (h : ∀ n ∈ names ++ [name], IsPlain n) :
    (below names).text.utf8ByteSize ≤ (below (names ++ [name])).text.utf8ByteSize := by
  have hname : name.utf8ByteSize ≠ 0 := by
    intro hzero
    exact (h name (by simp)).ne_empty (String.utf8ByteSize_eq_zero_iff.mp hzero)
  rw [text_below (by simp) h]
  by_cases hne : names = []
  · subst hne
    show 1 ≤ ("/".intercalate [name]).utf8ByteSize
    rw [String.intercalate_singleton]
    omega
  · rw [text_below hne fun n hn => h n (List.mem_append_left _ hn),
      String.intercalate_append_of_ne_nil hne (by simp), String.utf8ByteSize_append,
      String.utf8ByteSize_append]
    omega

/-- The text of a path of plain names holds no NUL. -/
theorem nul_notMem_text_below (h : ∀ n ∈ names, IsPlain n) :
    '\x00' ∉ (below names).text.toList := by
  by_cases hne : names = []
  · subst hne
    decide
  · rw [text_below hne h, String.toList_intercalate]
    intro hmem
    rcases mem_intercalate hmem with hmem | ⟨piece, hpiece, hmem⟩
    · cases List.mem_singleton.mp hmem
    · obtain ⟨name, hname, rfl⟩ := List.mem_map.mp hpiece
      exact ((h name hname).2.1 _ hmem).2 rfl

end Path
end PageScript.File

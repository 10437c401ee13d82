import Mathlib.Data.List.Chain
import PageScript.Proofs.Text.Trim

/-!
# Words and lines

Collapsing a text keeps its words, the pieces between its blanks, and puts one space between any two
(`toList_collapse`), so no other blank is left, none stands at an end and no two stand side by side
(`isNormal_normalized`).

The lines of a text are cut at every line break.  A carriage return with a line feed behind it is
one line break to some, and a text that ends with one has no line behind it; the rows of a text are
lines in this sense.  Rows and lines differ only in empty ones (`filter_rows`).
-/

namespace PageScript.Text

theorem cuts_eq_splitOnP (p : Char → Bool) (cs : List Char) : cuts p cs = cs.splitOnP p := by
  induction cs with
  | nil => rfl
  | cons c cs ih =>
    rw [cuts, List.splitOnP_cons_eq_if_modifyHead, ih]
    cases hpieces : cs.splitOnP p with
    | nil => exact absurd hpieces (List.splitOnP_ne_nil p cs)
    | cons piece pieces => rfl

/-! ### Normal texts -/

/-- The words of a text, with one space between any two. -/
def normalized (cs : List Char) : List Char :=
  [' '].intercalate ((cs.splitOnP isBlank).filter (· ≠ []))

/-- The blanks of a text are single spaces between other characters. -/
structure IsNormal (cs : List Char) : Prop extends IsTrimmed cs where
  space : ∀ c ∈ cs, isBlank c = true → c = ' '
  single : cs.IsChain fun c d => ¬ (isBlank c = true ∧ isBlank d = true)

theorem spaced_eq_intercalate (ws : List (List Char)) : spaced ws = [' '].intercalate ws := by
  fun_induction spaced ws with
  | case1 => rfl
  | case2 w => rw [List.intercalate_singleton]
  | case3 w ws hne ih =>
    rw [List.intercalate_cons_of_ne_nil (by rintro rfl; exact hne rfl), ih]
    simp

theorem words_eq_filter (cs : List Char) : words cs = (cs.splitOnP isBlank).filter (· ≠ []) := by
  rw [words, cuts_eq_splitOnP]
  congr 1
  funext w
  cases w <;> rfl

theorem toList_collapse (s : String) : (collapse s).toList = normalized s.toList := by
  rw [collapse, String.toList_ofList, spaced_eq_intercalate, words_eq_filter, normalized]

theorem not_of_mem_splitOnP {p : Char → Bool} {cs w : List Char} (h : w ∈ cs.splitOnP p) :
    ∀ c ∈ w, p c = false := by
  induction cs generalizing w with
  | nil =>
    cases List.mem_singleton.mp h
    exact nofun
  | cons c cs ih =>
    rw [List.splitOnP_cons_eq_if_modifyHead] at h
    split at h
    · rcases List.mem_cons.mp h with rfl | h
      · exact nofun
      · exact ih h
    · next hc =>
      cases hpieces : cs.splitOnP p with
      | nil => exact absurd hpieces (List.splitOnP_ne_nil p cs)
      | cons piece pieces =>
        rw [hpieces] at h ih
        rcases List.mem_cons.mp h with rfl | h
        · exact List.forall_mem_cons.mpr ⟨Bool.eq_false_iff.mpr hc, ih (.head _)⟩
        · exact ih (.tail _ h)

/-- A text without blanks. -/
theorem isNormal_of_word {w : List Char} (hw : ∀ c ∈ w, isBlank c = false) : IsNormal w where
  front c hc := hw c (List.mem_of_mem_head? hc)
  back c hc := hw c (List.mem_of_mem_getLast? hc)
  space c hc hblank := by simp [hw c hc] at hblank
  single := List.isChain_iff_getElem.mpr fun i hi => by simp [hw w[i] (List.getElem_mem _)]

/-- Another word can be put in front. -/
theorem IsNormal.cons_word {w cs : List Char} (hw : ∀ c ∈ w, isBlank c = false) (hne : w ≠ [])
    (h : IsNormal cs) (hcs : cs ≠ []) : IsNormal (w ++ ' ' :: cs) := by
  have hword := isNormal_of_word hw
  constructor
  · constructor
    · intro c hc
      rw [List.head?_append_of_ne_nil _ hne] at hc
      exact hword.front c hc
    · intro c hc
      rw [List.getLast?_append_cons, List.getLast?_cons_of_ne_nil hcs] at hc
      exact h.back c hc
  · intro c hc hblank
    rcases List.mem_append.mp hc with hc | hc
    · exact hword.space c hc hblank
    · rcases List.mem_cons.mp hc with rfl | hc
      · rfl
      · exact h.space c hc hblank
  · refine List.isChain_append.mpr ⟨hword.single, List.isChain_cons.mpr ⟨?_, h.single⟩, ?_⟩
    · intro c hc
      simp [h.front c hc]
    · intro c hc d _
      simp [hword.back c hc]

theorem intercalate_ne_nil {w : List Char} (hne : w ≠ []) (ws : List (List Char)) :
    [' '].intercalate (w :: ws) ≠ [] := by
  cases ws <;> simp [List.intercalate_cons_cons, hne]

theorem isNormal_intercalate {ws : List (List Char)}
    (hws : ∀ w ∈ ws, w ≠ [] ∧ ∀ c ∈ w, isBlank c = false) : IsNormal ([' '].intercalate ws) := by
  induction ws with
  | nil => exact isNormal_of_word nofun
  | cons w ws ih =>
    obtain ⟨hne, hw⟩ := hws w (.head _)
    have hrest := ih fun w hw => hws w (.tail _ hw)
    cases ws with
    | nil =>
      rw [List.intercalate_singleton]
      exact isNormal_of_word hw
    | cons w' ws =>
      rw [List.intercalate_cons_cons, List.append_assoc]
      exact hrest.cons_word hw hne (intercalate_ne_nil (hws w' (.tail _ (.head _))).1 ws)

theorem isNormal_normalized (cs : List Char) : IsNormal (normalized cs) := by
  refine isNormal_intercalate fun w hw => ?_
  obtain ⟨hw, hne⟩ := List.mem_filter.mp hw
  exact ⟨of_decide_eq_true hne, not_of_mem_splitOnP hw⟩

/-! ### Rows -/

/-- The lines of a text, where a carriage return with a line feed behind it ends one line, and
nothing stands behind a last line break. -/
def rows : List Char → List (List Char)
  | [] => []
  | '\r' :: '\n' :: cs => [] :: rows cs
  | c :: cs =>
    if isLineBreak c then [] :: rows cs
    else match rows cs with
      | [] => [[c]]
      | row :: later => (c :: row) :: later

theorem filter_eq_of_headD {p : List Char → Bool} (hp : p [] = false) {rs ls : List (List Char)}
    (hhead : rs.headD [] = ls.headD []) (htail : rs.tail.filter p = ls.tail.filter p) :
    rs.filter p = ls.filter p := by
  have hcons (ws : List (List Char)) : ws.filter p = (ws.headD [] :: ws.tail).filter p := by
    cases ws <;> simp [hp]
  rw [hcons rs, hcons ls, hhead, List.filter_cons, List.filter_cons, htail]

/-- Rows and lines begin with the same text, if any, and go on with the same ones but for some that
are empty. -/
theorem rows_lines {p : List Char → Bool} (hp : p [] = false) (cs : List Char) :
    (rows cs).headD [] = (cuts isLineBreak cs).headD [] ∧
      (rows cs).tail.filter p = (cuts isLineBreak cs).tail.filter p := by
  fun_induction rows cs with
  | case1 => exact ⟨rfl, rfl⟩
  | case2 cs ih =>
    have hcuts : cuts isLineBreak ('\r' :: '\n' :: cs) = [] :: [] :: cuts isLineBreak cs := rfl
    rw [hcuts]
    refine ⟨rfl, (filter_eq_of_headD hp ih.1 ih.2).trans ?_⟩
    rw [List.tail_cons, List.filter_cons_of_neg (by simp [hp])]
  | case3 c cs _ hbreak ih =>
    rw [cuts, if_pos hbreak]
    exact ⟨rfl, filter_eq_of_headD hp ih.1 ih.2⟩
  | case4 c cs _ hbreak hrows ih =>
    rw [hrows] at ih
    rw [cuts, if_neg hbreak]
    cases hcuts : cuts isLineBreak cs with
    | nil => exact ⟨rfl, rfl⟩
    | cons piece pieces =>
      rw [hcuts] at ih
      exact ⟨congrArg (c :: ·) ih.1, ih.2⟩
  | case5 c cs _ hbreak row later hrows ih =>
    rw [hrows] at ih
    rw [cuts, if_neg hbreak]
    cases hcuts : cuts isLineBreak cs with
    | nil => exact absurd hcuts (cuts_ne_nil isLineBreak cs)
    | cons piece pieces =>
      rw [hcuts] at ih
      exact ⟨congrArg (c :: ·) ih.1, ih.2⟩

theorem filter_rows {p : List Char → Bool} (hp : p [] = false) (cs : List Char) :
    (rows cs).filter p = (cuts isLineBreak cs).filter p :=
  have ⟨hhead, htail⟩ := rows_lines hp cs
  filter_eq_of_headD hp hhead htail

end PageScript.Text

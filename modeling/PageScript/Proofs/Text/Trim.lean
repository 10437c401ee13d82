import Mathlib.Data.List.TakeWhile
import PageScript.Text.Blank

/-!
# Trimming

Trimming stops at the first character from either end that is not blank, so a trimmed text has no
blank at its ends (`isTrimmed_trimChars`), and such a text is trimmed already
(`trimChars_of_isTrimmed`).
-/

namespace PageScript.Text

theorem trimLeft_of_blank {front : List Char} (h : ∀ c ∈ front, isBlank c = true) :
    trimLeft front = [] := List.dropWhile_eq_nil_iff.mpr h

theorem trimLeft_append {front cs : List Char} (h : ∀ c ∈ front, isBlank c = true) :
    trimLeft (front ++ cs) = trimLeft cs :=
  List.dropWhile_append_of_pos h

theorem trimLeft_of_head {cs : List Char} {c : Char} (h : cs.head? = some c)
    (hc : isBlank c = false) : trimLeft cs = cs := by
  obtain ⟨cs, rfl⟩ := List.head?_eq_some_iff.mp h
  exact List.dropWhile_cons_of_neg (by simp [hc])

/-- Dropping from the front stops at the first character that is kept. -/
theorem dropWhile_append_of_head {drops : Char → Bool} {cs : List Char} {c : Char}
    (h : cs.head? = some c) (hc : drops c = false) (front : List Char) :
    (front ++ cs).dropWhile drops = front.dropWhile drops ++ cs := by
  obtain ⟨cs, rfl⟩ := List.head?_eq_some_iff.mp h
  have hkept : (c :: cs).dropWhile drops = c :: cs := List.dropWhile_cons_of_neg (by simp [hc])
  rw [List.dropWhile_append, hkept]
  split
  · next hnil => rw [List.isEmpty_iff.mp hnil, List.nil_append]
  · rfl

theorem trimLeft_append_of_head {cs : List Char} {c : Char} (h : cs.head? = some c)
    (hc : isBlank c = false) (front : List Char) : trimLeft (front ++ cs) = trimLeft front ++ cs :=
  dropWhile_append_of_head h hc front

theorem trimRight_of_blank {back : List Char} (h : ∀ c ∈ back, isBlank c = true) :
    trimRight back = [] := by
  have hback : trimLeft back.reverse = [] :=
    trimLeft_of_blank fun c hc => h c (List.mem_reverse.mp hc)
  rw [trimRight, ← trimLeft, hback, List.reverse_nil]

theorem trimRight_append_of_getLast {cs : List Char} {c : Char} (h : cs.getLast? = some c)
    (hc : isBlank c = false) (back : List Char) :
    trimRight (cs ++ back) = cs ++ trimRight back := by
  have hhead : cs.reverse.head? = some c := by rw [List.head?_reverse, h]
  rw [trimRight, List.reverse_append, ← trimLeft, trimLeft_append_of_head hhead hc,
    List.reverse_append, List.reverse_reverse, trimLeft, ← trimRight]

/-! ### Trimmed texts -/

/-- No blank stands at an end. -/
structure IsTrimmed (cs : List Char) : Prop where
  front : ∀ c ∈ cs.head?, isBlank c = false
  back : ∀ c ∈ cs.getLast?, isBlank c = false

theorem not_isBlank_of_head_dropWhile {cs : List Char} {c : Char}
    (h : c ∈ (cs.dropWhile isBlank).head?) : isBlank c = false := by
  have hhead := List.head?_dropWhile_not isBlank cs
  rw [Option.mem_def.mp h] at hhead
  exact hhead

theorem not_isBlank_of_getLast_trimRight {cs : List Char} {c : Char}
    (h : c ∈ (trimRight cs).getLast?) : isBlank c = false := by
  rw [trimRight, List.getLast?_reverse] at h
  exact not_isBlank_of_head_dropWhile h

/-- Only blanks are dropped. -/
theorem exists_blanks_trimRight (cs : List Char) :
    ∃ blanks, (∀ c ∈ blanks, isBlank c = true) ∧ cs = trimRight cs ++ blanks := by
  refine ⟨(cs.reverse.takeWhile isBlank).reverse, ?_, ?_⟩
  · intro c hc
    exact List.mem_takeWhile_imp (List.mem_reverse.mp hc)
  · rw [trimRight, ← List.reverse_append, List.takeWhile_append_dropWhile, List.reverse_reverse]

theorem isTrimmed_trimChars (cs : List Char) : IsTrimmed (trimChars cs) := by
  constructor
  · intro c hc
    cases hleft : trimLeft cs with
    | nil =>
      rw [trimChars, hleft] at hc
      cases hc
    | cons d ds =>
      -- The first character that is left is no blank, so trimming the end stops there.
      have hd : isBlank d = false := by
        have hhead : d ∈ (cs.dropWhile isBlank).head? := by
          rw [← trimLeft, hleft]
          rfl
        exact not_isBlank_of_head_dropWhile hhead
      have hkept : trimRight ([d] ++ ds) = [d] ++ trimRight ds :=
        trimRight_append_of_getLast rfl hd ds
      rw [trimChars, hleft, ← List.singleton_append, hkept] at hc
      cases hc
      exact hd
  · exact fun c hc => not_isBlank_of_getLast_trimRight hc

theorem trimChars_of_isTrimmed {cs : List Char} (h : IsTrimmed cs) : trimChars cs = cs := by
  cases hhead : cs.head? with
  | none =>
    rw [List.head?_eq_none_iff.mp hhead]
    rfl
  | some c =>
    have hne : cs ≠ [] := by
      rintro rfl
      cases hhead
    have hlast := List.getLast?_eq_some_getLast hne
    rw [trimChars, trimLeft_of_head hhead (h.front c hhead)]
    have hkept := trimRight_append_of_getLast hlast (h.back _ hlast) []
    rwa [List.append_nil, show trimRight [] = [] from rfl, List.append_nil] at hkept

end PageScript.Text

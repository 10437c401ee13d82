import PageScript.Proofs.Json.Numeral
import PageScript.Proofs.Json.Spelling

/-!
# JSON texts in ASCII

What is not ASCII in a JSON text may be written in escapes instead, which `inAscii` does.  Outside
of text literals there is nothing to escape, so the result is a text for the same tokens
(`Renders.inAscii`).
-/

namespace PageScript.Json

open PageScript.Number

/-- An escape with four hexadecimal digits. -/
def codeEscape (n : Nat) : List Char :=
  ['\\', 'u', (n / 0x1000).digitChar, (n / 0x100 % 0x10).digitChar, (n / 0x10 % 0x10).digitChar,
    (n % 0x10).digitChar]

/-- A character itself, or escapes for its code or its surrogate pair. -/
def asciiChar (c : Char) : List Char :=
  if c.toNat < 0x7f then [c]
  else if c.toNat < 0x10000 then codeEscape c.toNat
  else codeEscape (0xD800 + (c.toNat - 0x10000) / 0x400) ++
    codeEscape (0xDC00 + (c.toNat - 0x10000) % 0x400)

/-- A text with escapes for what is not ASCII. -/
def inAscii (cs : List Char) : List Char := cs.flatMap asciiChar

@[simp] theorem inAscii_append (cs ds : List Char) :
    inAscii (cs ++ ds) = inAscii cs ++ inAscii ds := List.flatMap_append

/-- Characters of which none needs an escape. -/
def IsAscii (cs : List Char) : Prop := ∀ c ∈ cs, c.toNat < 0x7f

instance : DecidablePred IsAscii :=
  fun cs => List.decidableBAll (fun c : Char => c.toNat < 0x7f) cs

theorem IsAscii.append {cs ds : List Char} (hcs : IsAscii cs) (hds : IsAscii ds) :
    IsAscii (cs ++ ds) := fun c hc => (List.mem_append.mp hc).elim (hcs c) (hds c)

theorem IsAscii.cons {c : Char} {cs : List Char} (hc : c.toNat < 0x7f) (hcs : IsAscii cs) :
    IsAscii (c :: cs) := List.forall_mem_cons.mpr ⟨hc, hcs⟩

theorem inAscii_of_isAscii {cs : List Char} (h : IsAscii cs) : inAscii cs = cs := by
  induction cs with
  | nil => rfl
  | cons c cs ih =>
    have hrest := ih fun d hd => h d (.tail _ hd)
    rw [inAscii, List.flatMap_cons, asciiChar, if_pos (h c (.head _))]
    exact congrArg (c :: ·) hrest

/-! ### Characters -/

theorem hexNumber?_digitChar {n : Nat} (h : n < 0x10000) :
    hexNumber? (n / 0x1000).digitChar (n / 0x100 % 0x10).digitChar (n / 0x10 % 0x10).digitChar
      (n % 0x10).digitChar = some n := by
  have hdigit : ∀ d < 0x10, hexValue? d.digitChar = some d := by decide
  rw [hexNumber?, hdigit _ (by omega), hdigit _ (by omega), hdigit _ (by omega),
    hdigit _ (by omega)]
  exact congrArg some (by omega)

/-- Escapes spell what is not ASCII. -/
theorem spellsChar_asciiChar {c : Char} (h : 0x7f ≤ c.toNat) : SpellsChar c (asciiChar c) := by
  have hvalid : c.toNat < 0xd800 ∨ 0xdfff < c.toNat ∧ c.toNat < 0x110000 := c.valid
  rw [asciiChar, if_neg (by omega)]
  split
  · next hcode => exact .code (hexNumber?_digitChar hcode)
  · exact .pair (hexNumber?_digitChar (by omega)) (hexNumber?_digitChar (by omega)) (by omega)
      (by omega) (by omega)

theorem lt_of_le {c d : Char} (h : c ≤ d) (hd : d.toNat < 0x7f) : c.toNat < 0x7f :=
  Nat.lt_of_le_of_lt (UInt32.le_iff_toNat_le.mp h) hd

theorem lt_of_hexValue? {c : Char} {n : Nat} (h : hexValue? c = some n) : c.toNat < 0x7f := by
  unfold hexValue? at h
  split at h
  · next hdigit => exact lt_of_le hdigit.2 (by decide)
  split at h
  · next hletter => exact lt_of_le hletter.2 (by decide)
  split at h
  · next hletter => exact lt_of_le hletter.2 (by decide)
  · cases h

theorem isAscii_of_hexNumber? {a b c d : Char} {n : Nat} (h : hexNumber? a b c d = some n) :
    IsAscii ['\\', 'u', a, b, c, d] := by
  unfold hexNumber? at h
  split at h
  · next ha hb hc hd =>
    refine .cons (by decide) (.cons (by decide) ?_)
    exact .cons (lt_of_hexValue? ha) (.cons (lt_of_hexValue? hb) (.cons (lt_of_hexValue? hc)
      (.cons (lt_of_hexValue? hd) nofun)))
  · cases h

theorem isAscii_of_escape? {c e : Char} (h : escape? e = some c) : IsAscii ['\\', e] := by
  refine .cons (by decide) (.cons ?_ nofun)
  unfold escape? at h
  split at h
  · next he => rcases he with rfl | rfl | rfl <;> decide
  repeat' split at h
  all_goals cases h
  all_goals next he => subst he; decide

/-- A spelling of a character may have its own characters escaped in turn. -/
theorem SpellsChar.inAscii {c : Char} {w : List Char} (h : SpellsChar c w) :
    SpellsChar c (inAscii w) := by
  cases h with
  | itself hcontrol hmark hslash =>
    rw [Json.inAscii, List.flatMap_singleton]
    by_cases hascii : c.toNat < 0x7f
    · rw [asciiChar, if_pos hascii]
      exact .itself hcontrol hmark hslash
    · exact spellsChar_asciiChar (by omega)
  | letter h =>
    rw [inAscii_of_isAscii (isAscii_of_escape? h)]
    exact .letter h
  | code h =>
    rw [inAscii_of_isAscii (isAscii_of_hexNumber? h)]
    exact .code h
  | pair hhigh hlow hhighRange hlowRange h =>
    have hascii := (isAscii_of_hexNumber? hhigh).append (isAscii_of_hexNumber? hlow)
    simp only [List.cons_append, List.nil_append] at hascii
    rw [inAscii_of_isAscii hascii]
    exact .pair hhigh hlow hhighRange hlowRange h

theorem SpellsText.inAscii {cs body : List Char} (h : SpellsText cs body) :
    SpellsText cs (inAscii body) := by
  induction h with
  | nil => exact .nil
  | cons hc _ ih =>
    rw [inAscii_append]
    exact .cons hc.inAscii ih

/-! ### Numbers -/

theorem IsNumeral.isAscii {cs : List Char} (h : IsNumeral cs) : IsAscii cs := by
  intro c hc
  have hnumeral := h c hc
  rw [isNumeralChar, Bool.or_eq_true] at hnumeral
  rcases hnumeral with hdigit | hother
  · simp only [isAsciiDigit, Bool.and_eq_true, decide_eq_true_eq] at hdigit
    exact lt_of_le hdigit.2 (by decide)
  · simp only [List.contains_eq_mem, List.mem_cons, List.not_mem_nil, or_false,
      decide_eq_true_eq] at hother
    rcases hother with rfl | rfl | rfl | rfl | rfl | rfl | rfl | rfl | rfl | rfl | rfl | rfl <;>
      decide

/-! ### Texts -/

theorem Spells.inAscii {t : Token} {w : List Char} (h : Spells t w) : Spells t (inAscii w) := by
  cases h with
  | @text s body h =>
    rw [show '"' :: (body ++ ['"']) = ['"'] ++ body ++ ['"'] from rfl, inAscii_append,
      inAscii_append]
    exact .text h.inAscii
  | integer h =>
    rw [inAscii_of_isAscii (isNumeral_writeInt _).isAscii]
    exact .integer h
  | decimal h =>
    rw [inAscii_of_isAscii (isNumeral_write _).isAscii]
    exact .decimal h
  | _ =>
    rw [inAscii_of_isAscii (by decide)]
    constructor

theorem lt_of_isDelimiter {c : Char} (h : isDelimiter c = true) : c.toNat < 0x7f := by
  simp only [isDelimiter, isGap, List.contains_eq_mem, List.mem_cons, List.not_mem_nil, or_false,
    Bool.or_eq_true, beq_iff_eq, decide_eq_true_eq] at h
  rcases h with (((rfl | rfl) | rfl) | rfl) | rfl | rfl | rfl | rfl <;> decide

theorem inAscii_cons {c : Char} (h : c.toNat < 0x7f) (cs : List Char) :
    inAscii (c :: cs) = c :: inAscii cs := by
  rw [inAscii, List.flatMap_cons, asciiChar, if_pos h]
  rfl

theorem Delimited.inAscii {cs : List Char} (h : Delimited cs) : Delimited (inAscii cs) := by
  obtain rfl | ⟨c, rest, rfl, hc⟩ := h.cases
  · exact h
  · rw [inAscii_cons (lt_of_isDelimiter hc)]
    exact h

/-- With escapes for what is not ASCII, a text is one for the same tokens. -/
theorem Renders.inAscii {ts : List Token} {cs : List Char} (h : Renders ts cs) :
    Renders ts (inAscii cs) := by
  induction h with
  | nil => exact .nil
  | gap hc _ ih =>
    rw [inAscii_cons (lt_of_isDelimiter (by simp [isDelimiter, hc]))]
    exact .gap hc ih
  | token hw hcs _ ih =>
    rw [inAscii_append]
    exact .token hw.inAscii (fun ht => (hcs ht).inAscii) ih

end PageScript.Json

import Mathlib.Data.List.Forall2
import Mathlib.Data.List.Induction
import Mathlib.Data.Nat.Digits.Defs
import PageScript.Number.Reader
import PageScript.Proofs.Text.Trim

/-!
# How numbers are spelled

The two grammars of numbers, as relations between characters and what they say.  A digit says how
far it stands behind the zero of its script (`IsDigitOf`), an integer text is a sign and digits
(`IntegerText`), and a decimal text is a sign, digits with a point among them or none, and an
exponent or none (`DecimalSpelling`).

The readers take characters apart exactly if they are spelled so: `integerText?_eq_some_iff`,
`decimalText?_eq_some_iff`.  Digits say the number that they stand for in the decimal system
(`ofDigits_eq`).
-/

namespace PageScript.Text

/-! ### Digits -/

/-- A digit and its value: the zero of a script stands so far in front. -/
def IsDigitOf (c : Char) (d : Nat) : Prop := ∃ z ∈ zeros, d ≤ 9 ∧ c.toNat = z + d

/-- Digits and their values. -/
def Spells (cs : List Char) (ds : List Nat) : Prop := List.Forall₂ IsDigitOf cs ds

variable {c : Char} {d : Nat} {cs rest : List Char} {ds : List Nat}

/-- The digits of two scripts are different ones. -/
theorem zeros_apart : ∀ y ∈ zeros, ∀ z ∈ zeros, y = z ∨ y + 9 < z ∨ z + 9 < y := by decide +kernel

theorem digitValue_eq_some_iff : digitValue c = some d ↔ IsDigitOf c d := by
  rw [digitValue, Option.map_eq_some_iff]
  constructor
  · rintro ⟨z, hfind, rfl⟩
    have hrange := List.find?_some hfind
    simp only [Bool.and_eq_true, decide_eq_true_eq] at hrange
    exact ⟨z, List.mem_of_find?_eq_some hfind, by omega, by omega⟩
  · rintro ⟨z, hmem, hd, hc⟩
    cases hfind : zeros.find? fun z => z ≤ c.toNat && c.toNat ≤ z + 9 with
    | none =>
      have hnone := List.find?_eq_none.mp hfind z hmem
      simp only [Bool.and_eq_true, decide_eq_true_eq] at hnone
      omega
    | some y =>
      have hrange := List.find?_some hfind
      simp only [Bool.and_eq_true, decide_eq_true_eq] at hrange
      have happart := zeros_apart y (List.mem_of_find?_eq_some hfind) z hmem
      exact ⟨y, rfl, by omega⟩

theorem isDigit_iff : isDigit c = true ↔ ∃ d, IsDigitOf c d := by
  simp only [isDigit, Option.isSome_iff_exists, digitValue_eq_some_iff]

theorem mapM_digitValue_eq_some_iff : cs.mapM digitValue = some ds ↔ Spells cs ds := by
  induction cs generalizing ds with
  | nil => simp [Spells, eq_comm]
  | cons c cs ih =>
    simp only [List.mapM_cons, Option.bind_eq_bind, Option.bind_eq_some_iff, Option.pure_def,
      Option.some.injEq, digitValue_eq_some_iff, ih, Spells, List.forall₂_cons_left_iff]
    constructor
    · rintro ⟨d, hd, ds, hds, rfl⟩
      exact ⟨d, ds, hd, hds, rfl⟩
    · rintro ⟨d, ds, hd, hds, rfl⟩
      exact ⟨d, hd, ds, hds, rfl⟩

theorem digits?_eq_some_iff : digits? cs = some ds ↔ cs ≠ [] ∧ Spells cs ds := by
  cases cs with
  | nil => simp [digits?]
  | cons c cs =>
    rw [← mapM_digitValue_eq_some_iff]
    exact (and_iff_right (List.cons_ne_nil c cs)).symm

theorem Spells.isDigit (h : Spells cs ds) : ∀ c ∈ cs, isDigit c = true := by
  induction h with
  | nil => nofun
  | cons hd _ ih => exact List.forall_mem_cons.mpr ⟨isDigit_iff.mpr ⟨_, hd⟩, ih⟩

/-- The digits in front end where no digit follows. -/
theorem takeWhile_isDigit_append (hcs : ∀ c ∈ cs, isDigit c = true)
    (hrest : ∀ c ∈ rest.head?, isDigit c = false) :
    (cs ++ rest).takeWhile isDigit = cs ∧ (cs ++ rest).dropWhile isDigit = rest := by
  rw [List.takeWhile_append_of_pos hcs, List.dropWhile_append_of_pos hcs]
  cases rest with
  | nil => simp
  | cons c rest => simp [hrest c rfl]

/-- What digits stand for in the decimal system. -/
theorem ofDigits_eq (ds : List Nat) : ofDigits ds = Nat.ofDigits 10 ds.reverse := by
  induction ds using List.reverseRecOn with
  | nil => rfl
  | append_singleton ds d ih =>
    rw [ofDigits_concat, List.reverse_concat, Nat.ofDigits_cons, ih]
    simp [Nat.add_comm]

end PageScript.Text

namespace PageScript.Number

open PageScript.Text

/-! ### Signs -/

/-- A sign, or none, and whether it is a minus. -/
inductive IsSign : List Char → Bool → Prop
  | none : IsSign [] false
  | plus : IsSign ['+'] false
  | minus : IsSign ['-'] true

variable {cs sign : List Char} {negative : Bool} {ds : List Nat}

theorem exists_sign_takeSign (cs : List Char) :
    ∃ sign, IsSign sign (takeSign cs).1 ∧ cs = sign ++ (takeSign cs).2 := by
  unfold takeSign
  split
  · exact ⟨['-'], .minus, rfl⟩
  · exact ⟨['+'], .plus, rfl⟩
  · exact ⟨[], .none, rfl⟩

/-- A sign is taken off in front of a digit or a point. -/
theorem takeSign_append (h : IsSign sign negative)
    (hcs : ∀ c ∈ cs.head?, isDigit c = true ∨ c = '.') : takeSign (sign ++ cs) = (negative, cs) := by
  cases h with
  | none =>
    rw [List.nil_append]
    unfold takeSign
    split
    · exact absurd (hcs '-' rfl) (by decide)
    · exact absurd (hcs '+' rfl) (by decide)
    · rfl
  | plus => rfl
  | minus => rfl

/-! ### Integer texts -/

/-- An optional sign and digits, at least one. -/
inductive IntegerText : List Char → Bool → List Nat → Prop
  | intro {sign cs : List Char} {negative : Bool} {ds : List Nat} (hsign : IsSign sign negative)
      (hne : cs ≠ []) (hcs : Spells cs ds) : IntegerText (sign ++ cs) negative ds

theorem isDigit_of_head_append (hne : cs ≠ []) (hcs : ∀ c ∈ cs, isDigit c = true)
    (rest : List Char) : ∀ c ∈ (cs ++ rest).head?, isDigit c = true := by
  intro c hc
  rw [List.head?_append_of_ne_nil _ hne] at hc
  exact hcs c (List.mem_of_mem_head? hc)

theorem integerText?_eq_some_iff :
    integerText? cs = some (negative, ds) ↔ IntegerText cs negative ds := by
  have hparts : integerText? cs = some (negative, ds) ↔
      (takeSign cs).1 = negative ∧ digits? (takeSign cs).2 = some ds := by
    simp [integerText?, Option.map_eq_some_iff, and_comm]
  rw [hparts, digits?_eq_some_iff]
  constructor
  · rintro ⟨rfl, hne, hds⟩
    obtain ⟨sign, hsign, hcs⟩ := exists_sign_takeSign cs
    have htext := IntegerText.intro hsign hne hds
    rwa [← hcs] at htext
  · rintro ⟨hsign, hne, hds⟩
    have hhead := isDigit_of_head_append hne hds.isDigit []
    rw [List.append_nil] at hhead
    rw [takeSign_append hsign fun c hc => .inl (hhead c hc)]
    exact ⟨rfl, hne, hds⟩

/-! ### Decimal texts -/

/-- Nothing, or the letter of an exponent and an integer text. -/
inductive ExponentText : List Char → Int → Prop
  | none : ExponentText [] 0
  | some {mark : Char} {cs : List Char} {negative : Bool} {ds : List Nat}
      (hmark : mark = 'e' ∨ mark = 'E') (h : IntegerText cs negative ds) :
      ExponentText (mark :: cs) (signed negative (Nat.ofDigits 10 ds.reverse))

/-- An optional sign, digits, at least one, and perhaps an exponent.  A point may stand in front of
the digits, among them or behind them. -/
inductive DecimalSpelling : List Char → DecimalText → Prop
  | whole {sign cs tail : List Char} {negative : Bool} {ds : List Nat} {exponent : Int}
      (hsign : IsSign sign negative) (hne : cs ≠ []) (hcs : Spells cs ds)
      (htail : ExponentText tail exponent) :
      DecimalSpelling (sign ++ (cs ++ tail)) ⟨negative, ds, exponent⟩
  | pointed {sign front places tail : List Char} {negative : Bool} {ds : List Nat} {exponent : Int}
      (hsign : IsSign sign negative) (hne : front ++ places ≠ []) (hcs : Spells (front ++ places) ds)
      (htail : ExponentText tail exponent) :
      DecimalSpelling (sign ++ (front ++ '.' :: (places ++ tail)))
        ⟨negative, ds, exponent - places.length⟩

theorem exponent?_eq_some_iff {n : Int} : exponent? cs = some n ↔ ExponentText cs n := by
  constructor
  · intro h
    cases cs with
    | nil =>
      cases h
      exact .none
    | cons mark cs =>
      rw [exponent?] at h
      split at h
      · next hmark =>
        obtain ⟨⟨negative, ds⟩, htext, rfl⟩ := Option.map_eq_some_iff.mp h
        dsimp only
        rw [ofDigits_eq]
        exact .some hmark (integerText?_eq_some_iff.mp htext)
      · cases h
  · intro h
    cases h with
    | none => rfl
    | @some mark cs negative ds hmark htext =>
      rw [exponent?, if_pos hmark, integerText?_eq_some_iff.mpr htext, ← ofDigits_eq]
      rfl

/-- What an exponent begins with is neither a digit nor a point. -/
theorem ExponentText.head {tail : List Char} {n : Int} (h : ExponentText tail n) :
    ∀ c ∈ tail.head?, isDigit c = false ∧ c ≠ '.' := by
  cases h with
  | none => nofun
  | some hmark _ =>
    rintro c ⟨⟩
    rcases hmark with rfl | rfl <;> decide

/-- What stands behind the first digits: the places behind a point, and the rest. -/
def placesAndTail : List Char → List Char × List Char
  | '.' :: more => (more.takeWhile isDigit, more.dropWhile isDigit)
  | tail => ([], tail)

theorem placesAndTail_of_head {tail : List Char} (h : tail.head? ≠ some '.') :
    placesAndTail tail = ([], tail) := by
  unfold placesAndTail
  split
  · exact absurd rfl h
  · rfl

/-- What the parts of a decimal text say. -/
def ofParts? (negative : Bool) (whole places tail : List Char) : Option DecimalText :=
  match digits? (whole ++ places), exponent? tail with
  | some ds, some exponent => some ⟨negative, ds, exponent - places.length⟩
  | _, _ => none

/-- A decimal text is read by its parts. -/
theorem decimalText?_eq_parts (cs : List Char) :
    decimalText? cs = ofParts? (takeSign cs).1 ((takeSign cs).2.takeWhile isDigit)
      (placesAndTail ((takeSign cs).2.dropWhile isDigit)).1
      (placesAndTail ((takeSign cs).2.dropWhile isDigit)).2 := rfl

theorem ofParts?_eq_some_iff {whole places tail : List Char} {x : DecimalText} :
    ofParts? negative whole places tail = some x ↔
      negative = x.negative ∧ (whole ++ places ≠ [] ∧ Spells (whole ++ places) x.digits) ∧
      ∃ exponent, ExponentText tail exponent ∧ exponent - places.length = x.scale := by
  obtain ⟨sign, ds, scale⟩ := x
  simp only [← digits?_eq_some_iff, ← exponent?_eq_some_iff]
  unfold ofParts?
  cases digits? (whole ++ places) <;> cases exponent? tail <;> simp

theorem decimalSpelling_of_decimalText? {x : DecimalText} (h : decimalText? cs = some x) :
    DecimalSpelling cs x := by
  rw [decimalText?_eq_parts, ofParts?_eq_some_iff] at h
  obtain ⟨negative, ds, scale⟩ := x
  obtain ⟨rfl, ⟨hne, hds⟩, exponent, htail, rfl⟩ := h
  obtain ⟨sign, hsign, hcs⟩ := exists_sign_takeSign cs
  have hrest := List.takeWhile_append_dropWhile (p := isDigit) (l := (takeSign cs).2)
  by_cases hpoint : ((takeSign cs).2.dropWhile isDigit).head? = some '.'
  · obtain ⟨more, hmore⟩ := List.head?_eq_some_iff.mp hpoint
    rw [hmore] at hrest hne hds htail ⊢
    have htext := DecimalSpelling.pointed hsign hne hds htail
    have hplaces : (placesAndTail ('.' :: more)).1 ++ (placesAndTail ('.' :: more)).2 = more :=
      List.takeWhile_append_dropWhile
    rwa [hplaces, hrest, ← hcs] at htext
  · rw [placesAndTail_of_head hpoint] at hne hds htail ⊢
    rw [List.append_nil] at hne hds
    have htext := DecimalSpelling.whole hsign hne hds htail
    rw [hrest, ← hcs] at htext
    simpa using htext

theorem DecimalSpelling.decimalText?_eq_some {x : DecimalText} (h : DecimalSpelling cs x) :
    decimalText? cs = some x := by
  rw [decimalText?_eq_parts, ofParts?_eq_some_iff]
  cases h with
  | @whole sign cs tail negative ds exponent hsign hne hcs htail =>
    have hhead := isDigit_of_head_append hne hcs.isDigit tail
    have hpoint : tail.head? ≠ some '.' := fun hpoint => (htail.head _ hpoint).2 rfl
    obtain ⟨htake, hdrop⟩ := takeWhile_isDigit_append hcs.isDigit fun c hc => (htail.head c hc).1
    rw [takeSign_append hsign fun c hc => .inl (hhead c hc), htake, hdrop,
      placesAndTail_of_head hpoint, List.append_nil]
    exact ⟨rfl, ⟨hne, hcs⟩, exponent, htail, by simp⟩
  | @pointed sign front places tail negative ds exponent hsign hne hcs htail =>
    obtain ⟨hfront, hplaces⟩ := List.forall_mem_append.mp hcs.isDigit
    have hhead : ∀ c ∈ (front ++ '.' :: (places ++ tail)).head?, isDigit c = true ∨ c = '.' := by
      cases front with
      | nil => exact fun c hc => .inr (Option.some.inj hc).symm
      | cons d front => exact fun c hc => .inl (hfront c (by cases hc; exact .head _))
    have hpoint : ∀ c ∈ ('.' :: (places ++ tail)).head?, isDigit c = false := by
      rintro c ⟨⟩
      decide
    obtain ⟨htake, hdrop⟩ := takeWhile_isDigit_append hfront hpoint
    obtain ⟨htake', hdrop'⟩ := takeWhile_isDigit_append hplaces fun c hc => (htail.head c hc).1
    rw [takeSign_append hsign hhead, htake, hdrop, placesAndTail, htake', hdrop']
    exact ⟨rfl, ⟨hne, hcs⟩, exponent, htail, rfl⟩

theorem decimalText?_eq_some_iff {x : DecimalText} :
    decimalText? cs = some x ↔ DecimalSpelling cs x :=
  ⟨decimalSpelling_of_decimalText?, DecimalSpelling.decimalText?_eq_some⟩

end PageScript.Number

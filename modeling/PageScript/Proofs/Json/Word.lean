import Mathlib.Data.List.Find
import Mathlib.Data.List.TakeWhile
import PageScript.Json.Token
import PageScript.Number.Layout

/-!
# Words

Constants and numbers are words.  The lexer finds a word without regard to what stands behind it, if
that begins with a character that is no part of a word (`word_append`); otherwise a number might go
on.  A whole number is found in its written form, unless it has too many digits.
-/

namespace PageScript.Json

open PageScript.Text PageScript.Number

/-! ### Delimiters -/

/-- The characters that end a word. -/
def isDelimiter (c : Char) : Bool := isGap c || [',', ':', ']', '\x7d'].contains c

/-- Nothing, or something that ends a word. -/
def Delimited (cs : List Char) : Prop := ∀ c ∈ cs.head?, isDelimiter c = true

theorem Delimited.cases {cs : List Char} (h : Delimited cs) :
    cs = [] ∨ ∃ c rest, cs = c :: rest ∧ isDelimiter c = true := by
  cases cs with
  | nil => exact .inl rfl
  | cons c rest => exact .inr ⟨c, rest, rfl, h c rfl⟩

/-- The characters with which no word begins. -/
def isMark (c : Char) : Bool := ['[', ']', '\x7b', '\x7d', ',', ':', '"'].contains c

/-- The characters that are no part of a word. -/
def isStop (c : Char) : Bool := isGap c || isMark c

/-- Nothing, or something that is no part of a word. -/
def Stopped (cs : List Char) : Prop := ∀ c ∈ cs.head?, isStop c = true

theorem stopped_cons {c : Char} (h : isStop c = true) (cs : List Char) : Stopped (c :: cs) := by
  intro d hd
  cases hd
  exact h

theorem Stopped.cases {cs : List Char} (h : Stopped cs) :
    cs = [] ∨ ∃ c rest, cs = c :: rest ∧ isStop c = true := by
  cases cs with
  | nil => exact .inl rfl
  | cons c rest => exact .inr ⟨c, rest, rfl, h c rfl⟩

/-- What ends a word is no part of it. -/
theorem Delimited.stopped {cs : List Char} (h : Delimited cs) : Stopped cs := by
  intro c hc
  have hdelimiter := h c hc
  simp only [isDelimiter, isGap, List.contains_eq_mem, List.mem_cons, List.not_mem_nil, or_false,
    Bool.or_eq_true, beq_iff_eq, decide_eq_true_eq] at hdelimiter
  rcases hdelimiter with (((rfl | rfl) | rfl) | rfl) | rfl | rfl | rfl | rfl <;> rfl

theorem ne_of_isStop {c d : Char} (hc : isStop c = true) (hd : isStop d = false) : c ≠ d := by
  rintro rfl
  rw [hc] at hd
  cases hd

theorem not_isAsciiDigit_of_isStop {c : Char} (h : isStop c = true) : isAsciiDigit c = false := by
  simp only [isStop, isGap, isMark, List.contains_eq_mem, List.mem_cons, List.not_mem_nil, or_false,
    Bool.or_eq_true, beq_iff_eq, decide_eq_true_eq] at h
  rcases h with (((rfl | rfl) | rfl) | rfl) | rfl | rfl | rfl | rfl | rfl | rfl | rfl <;> rfl

/-- The word in front of a text, and how many characters follow the first one in it. -/
def word (cs : List Char) : Token × Nat :=
  match constants.find? fun k => k.1.isPrefixOf cs with
  | some (name, value) => (.literal value, name.length - 1)
  | none =>
    match number? cs with
    | some (found, length) => (found, length - 1)
    | none => (.junk, 0)

theorem token_eq_word {c : Char} (h : isMark c = false) (offset : Nat) (cs : List Char) :
    token offset c cs = word (c :: cs) := by
  simp only [isMark, List.contains_eq_mem, List.mem_cons, List.not_mem_nil, or_false,
    decide_eq_false_iff_not, not_or] at h
  obtain ⟨h₁, h₂, h₃, h₄, h₅, h₆, h₇⟩ := h
  rw [token, if_neg h₁, if_neg h₂, if_neg h₃, if_neg h₄, if_neg h₅, if_neg h₆, if_neg h₇]
  rfl

/-! ### Numbers in front of a stop -/

section Stopped

variable {rest : List Char} (h : Stopped rest)
include h

theorem takeWhile_append_of_stopped (cs : List Char) :
    (cs ++ rest).takeWhile isAsciiDigit = cs.takeWhile isAsciiDigit := by
  have hrest : rest.takeWhile isAsciiDigit = [] := by
    rcases h.cases with rfl | ⟨c, rest, rfl, hc⟩
    · rfl
    · simp [not_isAsciiDigit_of_isStop hc]
  rw [List.takeWhile_append, hrest]
  split
  · next hall => rw [List.append_nil, (List.takeWhile_prefix _).eq_of_length hall]
  · rfl

theorem wholePart_append (cs : List Char) : wholePart (cs ++ rest) = wholePart cs := by
  have htake := takeWhile_append_of_stopped h cs
  cases cs with
  | nil =>
    rcases h.cases with rfl | ⟨c, rest, rfl, hc⟩
    · rfl
    · have hzero : c ≠ '0' := ne_of_isStop hc rfl
      simp_all [wholePart]
  | cons c cs =>
    by_cases hzero : c = '0'
    · subst hzero
      rfl
    · simp_all [wholePart]

theorem placesPart_append (cs : List Char) : placesPart (cs ++ rest) = placesPart cs := by
  cases cs with
  | nil =>
    rcases h.cases with rfl | ⟨c, rest, rfl, hc⟩
    · rfl
    · have hpoint : c ≠ '.' := ne_of_isStop hc rfl
      simp [placesPart, hpoint]
  | cons c cs =>
    by_cases hpoint : c = '.'
    · subst hpoint
      exact takeWhile_append_of_stopped h cs
    · simp [placesPart, hpoint]

theorem exponentPart_append (cs : List Char) : exponentPart (cs ++ rest) = exponentPart cs := by
  have htake := takeWhile_append_of_stopped h
  cases cs with
  | nil =>
    rcases h.cases with rfl | ⟨c, rest, rfl, hc⟩
    · rfl
    · have hmark : ¬ (c = 'e' ∨ c = 'E') := by
        rintro (rfl | rfl) <;> cases hc
      simp [exponentPart, hmark]
  | cons c cs =>
    by_cases hmark : c = 'e' ∨ c = 'E'
    · cases cs with
      | nil =>
        rcases h.cases with rfl | ⟨d, rest, rfl, hd⟩
        · rfl
        · have hminus : d ≠ '-' := ne_of_isStop hd rfl
          have hplus : d ≠ '+' := ne_of_isStop hd rfl
          simp [exponentPart, hmark, hminus, hplus, not_isAsciiDigit_of_isStop hd]
      | cons d cs =>
        by_cases hminus : d = '-'
        · simp [exponentPart, hmark, hminus, htake]
        by_cases hplus : d = '+'
        · simp [exponentPart, hmark, hplus, htake]
        simpa [exponentPart, hmark, hminus, hplus] using htake (d :: cs)
    · simp [exponentPart, hmark]

end Stopped

/-! ### The lengths of the parts of a number -/

theorem length_wholePart_le (cs : List Char) : (wholePart cs).length ≤ cs.length := by
  unfold wholePart
  split
  · simp
  · exact (List.takeWhile_prefix _).length_le

/-- How many characters the places take, with their point. -/
def placesLength (cs : List Char) : Nat :=
  if (placesPart cs).isEmpty then 0 else (placesPart cs).length + 1

/-- How many characters the exponent takes, with its mark and sign. -/
def exponentLength (cs : List Char) : Nat :=
  if (exponentPart cs).2.2.isEmpty then 0
  else (exponentPart cs).1 + (exponentPart cs).2.2.length

theorem placesLength_le (cs : List Char) : placesLength cs ≤ cs.length := by
  unfold placesLength
  split
  · exact Nat.zero_le _
  · cases cs with
    | nil => simp_all [placesPart]
    | cons c cs =>
      by_cases hpoint : c = '.'
      · subst hpoint
        exact Nat.succ_le_succ (List.takeWhile_prefix _).length_le
      · simp_all [placesPart]

theorem exponentPart_spec (cs : List Char) :
    ∃ (markLength : Nat) (negative : Bool) (ds : List Char),
      exponentPart cs = (markLength, negative, ds.takeWhile isAsciiDigit) ∧
        markLength + ds.length ≤ cs.length := by
  fun_cases exponentPart cs with
  | case1 => exact ⟨0, false, [], rfl, by simp⟩
  | case2 c _ ds => exact ⟨2, true, ds, rfl, by simp; omega⟩
  | case3 c _ ds => exact ⟨2, false, ds, rfl, by simp; omega⟩
  | case4 c _ ds => exact ⟨1, false, ds, rfl, by simp; omega⟩
  | case5 c cs => exact ⟨0, false, [], rfl, by simp⟩

theorem exponentLength_le (cs : List Char) : exponentLength cs ≤ cs.length := by
  obtain ⟨markLength, negative, ds, hpart, hlength⟩ := exponentPart_spec cs
  have htake : (ds.takeWhile isAsciiDigit).length ≤ ds.length :=
    (List.takeWhile_prefix _).length_le
  rw [exponentLength, hpart]
  dsimp only
  split <;> omega

/-! ### Numbers as words -/

/-- The number in front of a text, behind a sign that has been taken. -/
def unsigned? (negative : Bool) (signLength : Nat) (cs : List Char) : Option (Token × Nat) :=
  let whole := wholePart cs
  let afterWhole := cs.drop whole.length
  let afterPlaces := afterWhole.drop (placesLength afterWhole)
  let places := placesPart afterWhole
  let exponent := exponentPart afterPlaces
  let length :=
    signLength + whole.length + placesLength afterWhole + exponentLength afterPlaces
  if whole.isEmpty then none
  else if places.isEmpty && exponent.2.2.isEmpty then
    match wholeNumber negative (asciiDigits whole) with
    | .ok n => some (.literal (.integer n), length)
    | .error _ => some (.oversized whole.length, length)
  else
    let scale := signed exponent.2.1 (ofDigits (asciiDigits exponent.2.2))
    let value : DecimalText := ⟨negative, asciiDigits (whole ++ places), scale - places.length⟩
    some (.literal (.decimal value.toFloat), length)

theorem number?_minus (cs : List Char) : number? ('-' :: cs) = unsigned? true 1 cs := rfl

theorem number?_of_ne_minus {cs : List Char} (h : cs.head? ≠ some '-') :
    number? cs = unsigned? false 0 cs := by
  cases cs with
  | nil => rfl
  | cons c cs =>
    have hc : c ≠ '-' := fun hc => h (congrArg some hc)
    unfold number?
    split
    next heq =>
      split at heq
      · next hminus => exact absurd (List.cons.inj hminus).1 hc
      · cases heq
        rfl

theorem unsigned?_append {rest : List Char} (h : Stopped rest) (negative : Bool)
    (signLength : Nat) (cs : List Char) :
    unsigned? negative signLength (cs ++ rest) = unsigned? negative signLength cs := by
  have hwhole : (cs ++ rest).drop (wholePart cs).length = cs.drop (wholePart cs).length ++ rest :=
    List.drop_append_of_le_length (length_wholePart_le cs)
  have hplaces (cs : List Char) : placesLength (cs ++ rest) = placesLength cs := by
    rw [placesLength, placesPart_append h, placesLength]
  have hexponent (cs : List Char) : exponentLength (cs ++ rest) = exponentLength cs := by
    rw [exponentLength, exponentPart_append h, exponentLength]
  have hafter (cs : List Char) :
      (cs ++ rest).drop (placesLength cs) = cs.drop (placesLength cs) ++ rest :=
    List.drop_append_of_le_length (placesLength_le cs)
  simp only [unsigned?, wholePart_append h, hwhole, placesPart_append h, hplaces, hafter,
    exponentPart_append h, hexponent]

theorem number?_append {rest : List Char} (h : Stopped rest) (cs : List Char) :
    number? (cs ++ rest) = number? cs := by
  by_cases hminus : cs.head? = some '-'
  · obtain ⟨cs, rfl⟩ := List.head?_eq_some_iff.mp hminus
    exact unsigned?_append h true 1 cs
  · have hrest : (cs ++ rest).head? ≠ some '-' := by
      cases cs with
      | nil => exact fun hhead => absurd (h '-' hhead) (by decide)
      | cons c cs => exact hminus
    rw [number?_of_ne_minus hminus, number?_of_ne_minus hrest, unsigned?_append h]

theorem length_le_of_unsigned? {negative : Bool} {signLength length : Nat} {cs : List Char}
    {t : Token} (h : unsigned? negative signLength cs = some (t, length)) :
    length ≤ signLength + cs.length := by
  have hwhole := length_wholePart_le cs
  have hplaces := placesLength_le (cs.drop (wholePart cs).length)
  have hexponent := exponentLength_le
    ((cs.drop (wholePart cs).length).drop (placesLength (cs.drop (wholePart cs).length)))
  simp only [List.length_drop] at hplaces hexponent
  have hlength : length = signLength + (wholePart cs).length
      + placesLength (cs.drop (wholePart cs).length) + exponentLength
        ((cs.drop (wholePart cs).length).drop (placesLength (cs.drop (wholePart cs).length))) := by
    unfold unsigned? at h
    dsimp only at h
    split at h
    · cases h
    split at h
    · split at h <;> cases h <;> rfl
    · cases h
      rfl
  omega

theorem length_le_of_number? {cs : List Char} {t : Token} {length : Nat}
    (h : number? cs = some (t, length)) : length ≤ cs.length := by
  by_cases hminus : cs.head? = some '-'
  · obtain ⟨cs, rfl⟩ := List.head?_eq_some_iff.mp hminus
    rw [number?_minus] at h
    have := length_le_of_unsigned? h
    simp only [List.length_cons]
    omega
  · rw [number?_of_ne_minus hminus] at h
    have := length_le_of_unsigned? h
    omega

/-! ### Words in front of a stop -/

theorem isPrefixOf_append {name rest : List Char} (hname : ∀ c ∈ name, isStop c = false)
    (h : Stopped rest) (cs : List Char) : name.isPrefixOf (cs ++ rest) = name.isPrefixOf cs := by
  induction name generalizing cs with
  | nil => simp
  | cons n name ih =>
    cases cs with
    | nil =>
      rcases h.cases with rfl | ⟨c, rest, rfl, hc⟩
      · rfl
      · have hne : n ≠ c := (ne_of_isStop hc (hname n (.head _))).symm
        simp [List.isPrefixOf, hne]
    | cons c cs =>
      rw [List.cons_append, List.isPrefixOf, ih fun c hc => hname c (.tail _ hc), List.isPrefixOf]

theorem word_append {rest : List Char} (h : Stopped rest) (cs : List Char) :
    word (cs ++ rest) = word cs := by
  have hnames : (constants.all fun k => k.1.all fun c => !isStop c) = true := rfl
  simp only [List.all_eq_true, Bool.not_eq_true'] at hnames
  have hfind : (constants.find? fun k => k.1.isPrefixOf (cs ++ rest)) =
      constants.find? fun k => k.1.isPrefixOf cs :=
    List.find?_congr fun k hk => isPrefixOf_append (hnames k hk) h cs
  rw [word, hfind, number?_append h, word]

theorem length_word_le (c : Char) (cs : List Char) : (word (c :: cs)).2 ≤ cs.length := by
  unfold word
  split
  · next name value hfind =>
    have hprefix := List.find?_some hfind
    have := (List.isPrefixOf_iff_prefix.mp hprefix).length_le
    simp only [List.length_cons] at this
    dsimp only
    omega
  · split
    · next found length hnumber =>
      have := length_le_of_number? hnumber
      simp only [List.length_cons] at this
      dsimp only
      omega
    · exact Nat.zero_le _

/-! ### Whole numbers -/

theorem isAsciiDigit_of_isDigit {c : Char} (h : c.isDigit = true) : isAsciiDigit c = true := by
  simp only [Char.isDigit, ge_iff_le, Bool.and_eq_true, decide_eq_true_eq] at h
  simp only [isAsciiDigit, Bool.and_eq_true, decide_eq_true_eq]
  exact h

theorem isAsciiDigit_of_mem_toDigits {m : Nat} {c : Char} (h : c ∈ Nat.toDigits 10 m) :
    isAsciiDigit c = true :=
  isAsciiDigit_of_isDigit (Nat.isDigit_of_mem_toDigits (by decide) (by decide) h)

theorem ofDigits_toDigits (m : Nat) : ofDigits (asciiDigits (Nat.toDigits 10 m)) = m := by
  rw [ofDigits, asciiDigits, List.foldl_map]
  exact Nat.ofDigitChars_toDigits (by decide) (by decide)

/-- A written number has no zero in front. -/
theorem head_toDigits_ne_zero {m : Nat} (h : m ≠ 0) : (Nat.toDigits 10 m).head? ≠ some '0' := by
  induction m using Nat.strongRecOn with
  | _ m ih =>
    rcases Nat.lt_or_ge m 10 with hm | hm
    · have hdigit : ∀ m < 10, m ≠ 0 → [m.digitChar].head? ≠ some '0' := by decide
      rw [Nat.toDigits_of_lt_base hm]
      exact hdigit m hm h
    · have hne : Nat.toDigits 10 (m / 10) ≠ [] :=
        List.ne_nil_of_length_pos Nat.length_toDigits_pos
      have hfront := ih (m / 10) (by omega) (by omega)
      obtain ⟨c, cs, hcs⟩ := List.exists_cons_of_ne_nil hne
      rw [Nat.toDigits_of_base_le (by decide) hm, hcs]
      rwa [hcs] at hfront

theorem wholePart_toDigits (m : Nat) : wholePart (Nat.toDigits 10 m) = Nat.toDigits 10 m := by
  rcases Nat.eq_zero_or_pos m with rfl | hm
  · rfl
  · have hhead := head_toDigits_ne_zero (Nat.ne_of_gt hm)
    unfold wholePart
    split
    · next hzero => exact absurd (congrArg List.head? hzero) hhead
    · exact List.takeWhile_eq_self_iff.mpr fun c hc => isAsciiDigit_of_mem_toDigits hc

theorem unsigned?_toDigits {m : Nat} (h : (Nat.toDigits 10 m).length ≤ digitLimit)
    (negative : Bool) (signLength : Nat) :
    unsigned? negative signLength (Nat.toDigits 10 m) =
      some (.literal (.integer (signed negative m)), signLength + (Nat.toDigits 10 m).length) := by
  have hempty : (Nat.toDigits 10 m).isEmpty = false :=
    List.isEmpty_eq_false_iff.mpr (List.ne_nil_of_length_pos Nat.length_toDigits_pos)
  have hlength : (asciiDigits (Nat.toDigits 10 m)).length ≤ digitLimit := by
    rwa [asciiDigits, List.length_map]
  simp [unsigned?, wholePart_toDigits, hempty, placesPart, exponentPart, placesLength,
    exponentLength, wholeNumber, hlength, ofDigits_toDigits]

/-- No constant begins as a number does. -/
theorem word_of_isAsciiDigit {c : Char} (h : isAsciiDigit c = true) {t : Token} {length : Nat}
    (cs : List Char) : (number? (c :: cs) = some (t, length) → word (c :: cs) = (t, length - 1)) ∧
      (number? ('-' :: c :: cs) = some (t, length) →
        word ('-' :: c :: cs) = (t, length - 1)) := by
  have hne (d : Char) (hd : isAsciiDigit d = false) : d ≠ c := by
    rintro rfl
    rw [h] at hd
    cases hd
  have hn := hne 'n' rfl
  have ht := hne 't' rfl
  have hf := hne 'f' rfl
  have hN := hne 'N' rfl
  have hI := hne 'I' rfl
  have hminus := hne '-' rfl
  constructor <;> intro hnumber <;>
    simp [word, constants, List.isPrefixOf, hn, ht, hf, hN, hI, hminus, hnumber]

/-! ### Written words -/

/-- Characters in which the lexer finds a word for a value, with nothing but gaps behind it. -/
structure IsWord (w : List Char) (v : Json) : Prop where
  starts : ∃ c cs, w = c :: cs ∧ isMark c = false ∧ isGap c = false
  found : (word w).1 = .literal v
  ends : ∀ c ∈ w.drop ((word w).2 + 1), isGap c = true

theorem isWord_constant {name : List Char} {v : Json} (h : (name, v) ∈ constants.take 3) :
    IsWord name v := by
  simp only [constants, List.take_succ_cons, List.take_zero, List.mem_cons, Prod.mk.injEq,
    List.not_mem_nil, or_false] at h
  rcases h with ⟨rfl, rfl⟩ | ⟨rfl, rfl⟩ | ⟨rfl, rfl⟩ <;>
    exact ⟨⟨_, _, rfl, rfl, rfl⟩, rfl, List.all_eq_true.mp rfl⟩

theorem not_isMark_of_isAsciiDigit {c : Char} (h : isAsciiDigit c = true) :
    isMark c = false ∧ isGap c = false := by
  have hne (d : Char) (hd : isAsciiDigit d = false) : c ≠ d := by
    rintro rfl
    rw [h] at hd
    cases hd
  constructor
  · simp [isMark, hne '[' rfl, hne ']' rfl, hne '\x7b' rfl, hne '\x7d' rfl, hne ',' rfl,
      hne ':' rfl, hne '"' rfl]
  · simp [isGap, hne ' ' rfl, hne '\t' rfl, hne '\n' rfl, hne '\r' rfl]

theorem isWord_writeInt {n : Int} (h : (Nat.toDigits 10 n.natAbs).length ≤ digitLimit) :
    IsWord (writeInt n).toList (.integer n) := by
  obtain ⟨c, cs, hcs⟩ := List.exists_cons_of_ne_nil
    (List.ne_nil_of_length_pos (Nat.length_toDigits_pos (b := 10) (n := n.natAbs)))
  have hc : isAsciiDigit c = true := isAsciiDigit_of_mem_toDigits (by rw [hcs]; exact .head _)
  have hstarts := not_isMark_of_isAsciiDigit hc
  by_cases hn : n < 0
  · have hwritten : (writeInt n).toList = '-' :: c :: cs := by
      simp [writeInt, hn, hcs, String.toList_append]
    have hnumber :
        number? ('-' :: c :: cs) = some (.literal (.integer n), 1 + (c :: cs).length) := by
      rw [number?_minus, ← hcs, unsigned?_toDigits h, signed, if_pos rfl]
      congr 4
      omega
    have hword := (word_of_isAsciiDigit hc cs).2 hnumber
    rw [hwritten]
    exact ⟨⟨_, _, rfl, rfl, rfl⟩, by rw [hword], by rw [hword]; simp⟩
  · have hwritten : (writeInt n).toList = c :: cs := by
      simp [writeInt, hn, hcs]
    have hminus : (c :: cs).head? ≠ some '-' := by
      intro hhead
      cases hhead
      cases hc
    have hnumber : number? (c :: cs) = some (.literal (.integer n), (c :: cs).length) := by
      rw [number?_of_ne_minus hminus, ← hcs, unsigned?_toDigits h, signed, if_neg (by decide)]
      congr 4
      · omega
      · omega
    have hword := (word_of_isAsciiDigit hc cs).1 hnumber
    rw [hwritten]
    exact ⟨⟨_, _, rfl, hstarts⟩, by rw [hword], by rw [hword]; simp⟩

theorem head_magnitude (layout : Layout) (x : Scientific) :
    ∃ c cs, layout.magnitude x = c :: cs ∧ isAsciiDigit c = true := by
  obtain ⟨c, cs, hcs⟩ := List.exists_cons_of_ne_nil
    (List.ne_nil_of_length_pos (Nat.length_toDigits_pos (b := 10) (n := x.digits)))
  have hc : isAsciiDigit c = true := isAsciiDigit_of_mem_toDigits (by rw [hcs]; exact .head _)
  unfold Layout.magnitude
  rw [hcs]
  dsimp only
  split
  · unfold Layout.positional
    split
    · exact ⟨_, _, rfl, rfl⟩
    · dsimp only
      split
      · exact ⟨_, _, rfl, hc⟩
      · exact ⟨_, _, rfl, hc⟩
  · unfold Layout.exponential
    dsimp only
    split
    · exact ⟨_, _, rfl, hc⟩
    · exact ⟨_, _, rfl, hc⟩

/-- A written number begins as a word does. -/
theorem head_write (x : Float) :
    ∃ c cs, (Layout.data.write x).toList = c :: cs ∧ isMark c = false ∧ isGap c = false := by
  have hdigits (x : Scientific) : ∃ c cs, Layout.data.magnitude x = c :: cs ∧ isMark c = false ∧
      isGap c = false := by
    obtain ⟨c, cs, hcs, hc⟩ := head_magnitude Layout.data x
    exact ⟨c, cs, hcs, not_isMark_of_isAsciiDigit hc⟩
  unfold Layout.write
  dsimp only
  split
  · exact ⟨_, _, rfl, rfl, rfl⟩
  · next negative _ => cases negative <;> exact ⟨_, _, rfl, rfl, rfl⟩
  · next negative _ _ => cases negative <;> exact ⟨_, _, rfl, rfl, rfl⟩
  · next negative m e _ _ =>
    cases negative with
    | true => exact ⟨'-', _, by rw [if_pos rfl, String.toList_append]; rfl, rfl, rfl⟩
    | false =>
      rw [if_neg (by decide), String.toList_ofList]
      exact hdigits _

end PageScript.Json

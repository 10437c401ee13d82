import PageScript.Model.Verdict
import PageScript.Proofs.Model.PlanGrammar
import PageScript.Proofs.Number.Exact

/-!
# The grammar of verdicts

Which data count as a verdict, and what they say.  A verdict is an object whose truth value stands
under `pass`, or under `passed` where there is no `pass`, and perhaps with a text for a thought.

Truth values are written in many ways: as themselves, as the number zero or one, whole or decimal,
and as one of twelve words in letters of either case (`CountsAs`).  `Verdict.check_eq_ok_iff` says
that the check of verdicts accepts exactly these data, and reads what they say.
-/

namespace PageScript.Model

open PageScript.Number PageScript.Schema

/-! ### Truth values -/

/-- The words that stand for a truth value. -/
def truthWords : List (String × Bool) :=
  [("true", true), ("false", false), ("t", true), ("f", false), ("yes", true), ("no", false),
    ("y", true), ("n", false), ("on", true), ("off", false), ("1", true), ("0", false)]

/-- A word in small letters, written in letters of either case. -/
def InAnyCase (s word : String) : Prop :=
  List.Forall₂ (fun c d => c = d ∨ c = d.toUpper) s.toList word.toList

/-- Data that count as a truth value. -/
inductive CountsAs : Json → Bool → Prop
  | flag (b : Bool) : CountsAs (.bool b) b
  | zero : CountsAs (.integer 0) false
  | one : CountsAs (.integer 1) true
  | decimalZero {x : Float} (h : IsExactly x 0) : CountsAs (.decimal x) false
  | decimalOne {x : Float} (h : IsExactly x 1) : CountsAs (.decimal x) true
  | word {s word : String} {b : Bool} (h : (word, b) ∈ truthWords) (hs : InAnyCase s word) :
      CountsAs (.string s) b

theorem toNat_toLower (c : Char) :
    c.toLower.toNat = if 65 ≤ c.toNat ∧ c.toNat ≤ 90 then c.toNat + 32 else c.toNat := by
  have hrange : (c.val ≥ 'A'.val ∧ c.val ≤ 'Z'.val) ↔ 65 ≤ c.toNat ∧ c.toNat ≤ 90 := Iff.rfl
  unfold Char.toLower
  split
  · next h =>
    rw [if_pos (hrange.mp h)]
    have := (hrange.mp h).2
    show (c.val + 32).toNat = _
    rw [UInt32.toNat_add]
    exact Nat.mod_eq_of_lt (show c.toNat + 32 < 4294967296 by omega)
  · next h => rw [if_neg (mt hrange.mpr h)]

theorem toNat_toUpper (c : Char) :
    c.toUpper.toNat = if 97 ≤ c.toNat ∧ c.toNat ≤ 122 then c.toNat - 32 else c.toNat := by
  have hrange : ('a'.val ≤ c.val ∧ c.val ≤ 'z'.val) ↔ 97 ≤ c.toNat ∧ c.toNat ≤ 122 := Iff.rfl
  unfold Char.toUpper
  split
  · next h =>
    rw [if_pos (hrange.mp h)]
    have := hrange.mp h
    show (c.val + 4294967264).toNat = _
    rw [UInt32.toNat_add]
    show (c.toNat + 4294967264) % 4294967296 = _
    omega
  · next h => rw [if_neg (mt hrange.mpr h)]

/-- A character that is its own small letter is that of itself and of its capital. -/
theorem toLower_eq_iff {c d : Char} (h : d.toLower = d) :
    c.toLower = d ↔ c = d ∨ c = d.toUpper := by
  have hd := congrArg Char.toNat h
  rw [toNat_toLower] at hd
  simp only [← Char.toNat_inj, toNat_toLower, toNat_toUpper]
  split_ifs at hd ⊢ <;> omega

theorem inAnyCase_iff {s word : String} (h : ∀ d ∈ word.toList, d.toLower = d) :
    InAnyCase s word ↔ String.ofList (s.toList.map Char.toLower) = word := by
  rw [← String.toList_inj, String.toList_ofList, InAnyCase]
  generalize s.toList = cs
  revert h
  generalize word.toList = ds
  intro h
  induction cs generalizing ds with
  | nil => cases ds <;> simp
  | cons c cs ih =>
    cases ds with
    | nil => simp
    | cons d ds =>
      rw [List.forall₂_cons, List.map_cons, List.cons.injEq,
        toLower_eq_iff (h d List.mem_cons_self), ih ds fun d hd => h d (List.mem_cons_of_mem _ hd)]

theorem toLower_of_mem_truthWords {word : String} {b : Bool} (h : (word, b) ∈ truthWords) :
    ∀ d ∈ word.toList, d.toLower = d := by
  have hall : truthWords.all (fun entry => entry.1.toList.all fun d => d.toLower == d) = true := by
    decide
  have hword := List.all_eq_true.mp hall _ h
  exact fun d hd => eq_of_beq (List.all_eq_true.mp hword d hd)

theorem mem_truthWords_iff {word : String} {b : Bool} :
    (word, b) ∈ truthWords ↔ word ∈ if b then yesWords else noWords := by
  cases b <;> simp [truthWords, yesWords, noWords] <;> grind

theorem wordTruth_eq_ok_iff {s : String} {b : Bool} :
    wordTruth s = .ok b ↔ ∃ word, (word, b) ∈ truthWords ∧ InAnyCase s word := by
  have hword : (∃ word, (word, b) ∈ truthWords ∧ InAnyCase s word) ↔
      (String.ofList (s.toList.map Char.toLower), b) ∈ truthWords := by
    constructor
    · rintro ⟨word, hmem, hs⟩
      rwa [(inAnyCase_iff (toLower_of_mem_truthWords hmem)).mp hs]
    · intro hmem
      exact ⟨_, hmem, (inAnyCase_iff (toLower_of_mem_truthWords hmem)).mpr rfl⟩
  have hapart : ∀ word ∈ yesWords, word ∉ noWords := by decide
  rw [hword, mem_truthWords_iff, wordTruth]
  generalize String.ofList _ = word
  rw [List.contains_eq_mem, List.contains_eq_mem]
  by_cases hyes : word ∈ yesWords
  · cases b <;> simp [hyes, hapart word hyes]
  · by_cases hno : word ∈ noWords
    · cases b <;> simp [hyes, hno]
    · cases b <;> simp [hyes, hno, Checked.refuse]

/-- The whole numbers zero and one are within every bound. -/
theorem integerTruth_eq_ok_iff {n : Int} {b : Bool} :
    integerTruth n = .ok b ↔ n = if b then 1 else 0 := by
  unfold integerTruth
  split
  · split_ifs <;> cases b <;> simp_all [Checked.refuse]
  · next h =>
    have hne : n ≠ if b then 1 else 0 := by
      rintro rfl
      cases b <;> exact h rfl
    simp [Checked.refuse, hne]

theorem decimalTruth_eq_ok_iff {x : Float} {b : Bool} :
    decimalTruth x = .ok b ↔ IsExactly x ((if b then 1 else 0 : Int) : ℚ) := by
  unfold decimalTruth truncate
  cases hbits : Binary.ofFloat x with
  | undefined | infinite => simp [IsExactly, hbits, Checked.refuse]
  | finite negative m e =>
    rw [isExactly_iff hbits]
    dsimp only
    generalize (Binary.fraction m e).1 = num
    generalize (Binary.fraction m e).2 = den
    -- Zero and one are whole and within the bounds, so the two checks in front change nothing.
    constructor
    · intro h
      split at h
      · next hwhole => exact ⟨by simp_all, integerTruth_eq_ok_iff.mp h⟩
      · cases h
    · rintro ⟨hmod, hn⟩
      have hinside : insideWord (signed negative (num / den)) = true := by
        rw [hn]
        cases b <;> rfl
      rw [if_pos (by simp [hmod, hinside])]
      exact integerTruth_eq_ok_iff.mpr hn

/-- What is taken for a truth value is what counts as one. -/
theorem truth_eq_ok_iff {data : Json} {b : Bool} : truth data = .ok b ↔ CountsAs data b := by
  constructor
  · intro h
    cases data with
    | bool b' =>
      cases h
      exact .flag b
    | integer n =>
      obtain rfl := integerTruth_eq_ok_iff.mp h
      cases b
      · exact .zero
      · exact .one
    | decimal x =>
      have hx := decimalTruth_eq_ok_iff.mp h
      cases b
      · exact .decimalZero (by simpa using hx)
      · exact .decimalOne (by simpa using hx)
    | string s =>
      obtain ⟨word, hmem, hs⟩ := wordTruth_eq_ok_iff.mp h
      exact .word hmem hs
    | null | array | object => cases h
  · intro h
    cases h with
    | flag => rfl
    | zero => exact integerTruth_eq_ok_iff.mpr rfl
    | one => exact integerTruth_eq_ok_iff.mpr rfl
    | decimalZero h => exact decimalTruth_eq_ok_iff.mpr (by simpa using h)
    | decimalOne h => exact decimalTruth_eq_ok_iff.mpr (by simpa using h)
    | word h hs => exact wordTruth_eq_ok_iff.mpr ⟨_, h, hs⟩

/-! ### Verdicts -/

/-- The field in which the truth value of a verdict stands. -/
def verdictField (fields : Json.Fields) : Option Json :=
  (Json.get? "pass" fields).or (Json.get? "passed" fields)

/-- The thought that a field says; none is an empty one. -/
inductive IsThought : Option Json → String → Prop
  | absent : IsThought none ""
  | text (s : String) : IsThought (some (.string s)) s

/-- Data that count as a verdict. -/
inductive IsVerdict : Json → Bool → String → Prop
  | object {fields : Json.Fields} {value : Json} {passed : Bool} {thought : String}
      (hfield : verdictField fields = some value) (hpassed : CountsAs value passed)
      (hthought : IsThought (Json.get? "thought" fields) thought) :
      IsVerdict (.object fields) passed thought

theorem checkPassed_eq_ok_iff {fields : Json.Fields} {passed : Bool} :
    Verdict.checkPassed fields = .ok passed ↔
      ∃ value, verdictField fields = some value ∧ CountsAs value passed := by
  unfold Verdict.checkPassed verdictField
  split
  · next value hpass hpassed =>
    simp [hpass, hpassed, truth_eq_ok_iff]
  · next h =>
    rw [required_eq_ok_iff]
    cases hpass : Json.get? "pass" fields with
    | some value => simp [truth_eq_ok_iff]
    | none =>
      cases hpassed : Json.get? "passed" fields with
      | some value => exact absurd hpassed (h value hpass)
      | none => simp

theorem thought_eq_ok_iff {fields : Json.Fields} {thought : String} :
    Schema.optional "thought" "" text fields = .ok thought ↔
      IsThought (Json.get? "thought" fields) thought := by
  unfold Schema.optional
  cases Json.get? "thought" fields with
  | none =>
    constructor
    · rintro ⟨⟩
      exact .absent
    · rintro ⟨⟩
      rfl
  | some value =>
    rw [Checked.within_eq_ok_iff, text_eq_ok_iff]
    constructor
    · rintro rfl
      exact .text thought
    · rintro ⟨⟩
      rfl

/-- What is taken for a verdict is what counts as one. -/
theorem Verdict.check_eq_ok_iff {data : Json} {passed : Bool} {thought : String} :
    Verdict.check data = .ok ⟨passed, thought⟩ ↔ IsVerdict data passed thought := by
  constructor
  · intro h
    obtain ⟨fields, hrecord, h⟩ := bind_eq_ok_iff.mp h
    obtain ⟨⟨_, _⟩, hfields, hverdict⟩ := bind_eq_ok_iff.mp h
    obtain ⟨hpassed, hthought⟩ := Checked.both_eq_ok_iff.mp hfields
    cases hverdict
    obtain rfl := record_eq_ok_iff.mp hrecord
    obtain ⟨value, hfield, hcounts⟩ := checkPassed_eq_ok_iff.mp hpassed
    exact .object hfield hcounts (thought_eq_ok_iff.mp hthought)
  · rintro ⟨hfield, hpassed, hthought⟩
    refine bind_eq_ok_iff.mpr ⟨_, rfl, bind_eq_ok_iff.mpr ⟨⟨_, _⟩, ?_, rfl⟩⟩
    exact Checked.both_eq_ok_iff.mpr
      ⟨checkPassed_eq_ok_iff.mpr ⟨_, hfield, hpassed⟩, thought_eq_ok_iff.mpr hthought⟩

end PageScript.Model

import Mathlib.Data.List.Forall2
import PageScript.Proofs.Text.Trim
import PageScript.Text.Lowercase

/-!
# Lower-casing

No run of letters leads to a letter of a run (`isSettled_caseRuns`), so what has been lower-cased
stays as it is when that is done again (`lowerAfter_of_isLow`).  Nor does lower-casing make a blank,
so a trimmed text stays trimmed (`IsTrimmed.lowerChars`).
-/

namespace PageScript.Text

/-! ### Runs of letters -/

/-- Where the first letter of a run leads. -/
def CaseRun.lowest (r : CaseRun) : Nat := Int.toNat (r.first + r.shift)

/-- Where the last letter of a run leads. -/
def CaseRun.highest (r : CaseRun) : Nat := Int.toNat (r.last + r.shift)

/-- Whether a run leads past a closed range. -/
def CaseRun.isApart (r : CaseRun) (range : Nat × Nat) : Bool :=
  r.highest.blt range.1 || range.2.blt r.lowest

/-- Whether a run leads past the letters of another one: to other places, or between them. -/
def CaseRun.avoids (r s : CaseRun) : Bool :=
  r.isApart (s.first, s.last) ||
    (r.stride.beq 2 || r.first.beq r.last) && s.stride.beq 2 && !(r.lowest % 2).beq (s.first % 2)

/-- Codes of no lower-case character: the capitals of ASCII, the capital I with a dot, the
surrogates and the blanks. -/
def unloweredRanges : List (Nat × Nat) :=
  (0x41, 0x5a) :: (0x130, 0x130) :: (0xd800, 0xdfff) :: blankRanges

/-- Whether what a run leads to is not lowered any further, and is no blank. -/
def CaseRun.isSettled (r : CaseRun) : Bool :=
  decide (0 ≤ r.first + r.shift) && r.highest.blt 0x110000 && unloweredRanges.all r.isApart &&
    caseRuns.all r.avoids

set_option maxRecDepth 10000 in
theorem isSettled_caseRuns : caseRuns.all CaseRun.isSettled = true := by decide +kernel

variable {r s : CaseRun} {n : Nat}

/-- A letter of a run is led to between where the first and the last are led to. -/
theorem CaseRun.lowered_bounds (hn : r.holds n = true) :
    r.lowest ≤ Int.toNat (n + r.shift) ∧ Int.toNat (n + r.shift) ≤ r.highest := by
  simp only [holds, Bool.and_eq_true, decide_eq_true_eq] at hn
  unfold lowest highest
  omega

theorem CaseRun.not_mem_of_isApart (hn : r.holds n = true) {range : Nat × Nat}
    (h : r.isApart range = true) :
    ¬ (range.1 ≤ Int.toNat (n + r.shift) ∧ Int.toNat (n + r.shift) ≤ range.2) := by
  have hbounds := lowered_bounds hn
  simp only [isApart, Bool.or_eq_true, Nat.blt_eq] at h
  omega

/-- What a letter of a run is led to is no letter of a run. -/
theorem CaseRun.not_holds_lowered (hfirst : 0 ≤ r.first + r.shift) (hn : r.holds n = true)
    (h : r.avoids s = true) : s.holds (Int.toNat (n + r.shift)) = false := by
  rw [avoids, Bool.or_eq_true] at h
  rcases h with hapart | hbetween
  · have hout := not_mem_of_isApart hn hapart
    simp only [holds, Bool.and_eq_false_iff, decide_eq_false_iff_not]
    omega
  · simp only [Bool.and_eq_true, Bool.or_eq_true, Nat.beq_eq, Bool.not_eq_true', lowest] at hbetween
    obtain ⟨⟨hr, hs⟩, hparity⟩ := hbetween
    replace hparity := Nat.ne_of_beq_eq_false hparity
    simp only [holds, Bool.and_eq_true, decide_eq_true_eq, beq_iff_eq] at hn
    rw [Bool.eq_false_iff]
    intro hm
    simp only [holds, hs, Bool.and_eq_true, decide_eq_true_eq, beq_iff_eq] at hm
    -- Letters at an even distance from one another are led to such letters again.
    have hn' : (n - r.first) % 2 = 0 := by
      rcases hr with hr | hr
      · rw [← hr]
        exact hn.2
      · omega
    omega

/-! ### Characters -/

/-- A character that is its own lower case, wherever it stands. -/
def IsLow (c : Char) : Prop := c ≠ 'Σ' ∧ lowerChar c = [c]

instance (c : Char) : Decidable (IsLow c) :=
  inferInstanceAs (Decidable (c ≠ 'Σ' ∧ lowerChar c = [c]))

theorem lowerChar_cases (c : Char) : (∃ d, lowerChar c = [d]) ∨ lowerChar c = ['i', '\u0307'] := by
  unfold lowerChar
  split
  · exact .inl ⟨_, rfl⟩
  split
  · exact .inr rfl
  split
  · exact .inl ⟨_, rfl⟩
  · exact .inl ⟨_, rfl⟩

/-- A character beyond ASCII that has no lower case of its own. -/
theorem isLow_of_not_holds {c : Char} (hascii : ¬ c.toNat < 0x80) (hdot : c.toNat ≠ 0x130)
    (h : ∀ r ∈ caseRuns, r.holds c.toNat = false) : IsLow c := by
  constructor
  · rintro rfl
    have hany : caseRuns.any (·.holds 'Σ'.toNat) = true := by decide +kernel
    obtain ⟨r, hr, hholds⟩ := List.any_eq_true.mp hany
    rw [h r hr] at hholds
    cases hholds
  · have hfind : caseRuns.find? (·.holds c.toNat) = none :=
      List.find?_eq_none.mpr fun r hr => by simp [h r hr]
    rw [lowerChar, if_neg hascii, if_neg hdot, hfind]

/-- A character of ASCII that is no capital. -/
theorem isLow_of_ascii {c : Char} (hascii : c.toNat < 0x80)
    (h : ¬ (0x41 ≤ c.toNat ∧ c.toNat ≤ 0x5a)) : IsLow c := by
  constructor
  · rintro rfl
    exact absurd hascii (by decide)
  · rw [lowerChar, if_pos hascii, if_neg (by simpa using h)]

theorem isBlank_eq_false_iff {c : Char} :
    isBlank c = false ↔ ∀ range ∈ blankRanges, ¬ (range.1 ≤ c.toNat ∧ c.toNat ≤ range.2) := by
  simp [isBlank, inRanges, List.any_eq_false]

/-- Every run leads to code points of characters. -/
theorem CaseRun.toNat_lowered (hmem : r ∈ caseRuns) (hn : r.holds n = true) :
    (Char.ofNat (Int.toNat (n + r.shift))).toNat = Int.toNat (n + r.shift) := by
  have hr := List.all_eq_true.mp isSettled_caseRuns r hmem
  simp only [CaseRun.isSettled, Bool.and_eq_true, Nat.blt_eq, List.all_eq_true] at hr
  obtain ⟨⟨⟨-, hhighest⟩, hunlowered⟩, -⟩ := hr
  have hbounds := CaseRun.lowered_bounds hn
  have hsurrogate : ¬ (0xd800 ≤ Int.toNat (n + r.shift) ∧ Int.toNat (n + r.shift) ≤ 0xdfff) :=
    CaseRun.not_mem_of_isApart hn (hunlowered (0xd800, 0xdfff) (.tail _ (.tail _ (.head _))))
  have hvalid : (Int.toNat (n + r.shift)).isValidChar := by
    unfold Nat.isValidChar
    omega
  rw [Char.ofNat, dif_pos hvalid]
  rfl

/-- What a letter of a run is lowered to. -/
theorem isLow_of_holds (hmem : r ∈ caseRuns) (hn : r.holds n = true) :
    IsLow (Char.ofNat (Int.toNat (n + r.shift))) ∧
      isBlank (Char.ofNat (Int.toNat (n + r.shift))) = false := by
  have hcode := CaseRun.toNat_lowered hmem hn
  have hr := List.all_eq_true.mp isSettled_caseRuns r hmem
  simp only [CaseRun.isSettled, Bool.and_eq_true, decide_eq_true_eq, Nat.blt_eq,
    List.all_eq_true] at hr
  obtain ⟨⟨⟨hfirst, -⟩, hunlowered⟩, hruns⟩ := hr
  have hout {range : Nat × Nat} (h : range ∈ unloweredRanges) :=
    CaseRun.not_mem_of_isApart hn (hunlowered range h)
  have hlow {s : CaseRun} (h : s ∈ caseRuns) :=
    CaseRun.not_holds_lowered hfirst hn (hruns s h)
  generalize Int.toNat (n + r.shift) = m at hcode hout hlow
  have hcapital : ¬ (0x41 ≤ m ∧ m ≤ 0x5a) := hout (.head _)
  have hdot : ¬ (0x130 ≤ m ∧ m ≤ 0x130) := hout (.tail _ (.head _))
  refine ⟨?_, isBlank_eq_false_iff.mpr fun range hrange => ?_⟩
  · by_cases hascii : m < 0x80
    · exact isLow_of_ascii (by rwa [hcode]) (by rwa [hcode])
    · refine isLow_of_not_holds (by rwa [hcode]) (by rw [hcode]; omega) fun s hs => ?_
      rw [hcode]
      exact hlow hs
  · rw [hcode]
    exact hout (by simp [unloweredRanges, hrange])

/-- Lower-casing leads to lower-case characters, and to no blank but one that was there. -/
theorem isLow_of_mem_lowerChar {c d : Char} (hc : c ≠ 'Σ') (hd : d ∈ lowerChar c) :
    IsLow d ∧ (isBlank d = false ∨ d = c) := by
  unfold lowerChar at hd
  split at hd
  · next hascii =>
    rw [List.mem_singleton] at hd
    split at hd
    · next hcapital =>
      have hn : CaseRun.holds ⟨0x41, 0x5a, 1, 32⟩ c.toNat = true := by
        simpa [CaseRun.holds, Nat.mod_one] using hcapital
      obtain ⟨hlow, hblank⟩ := isLow_of_holds (.head _) hn
      subst hd
      exact ⟨hlow, .inl hblank⟩
    · next hcapital =>
      subst hd
      exact ⟨isLow_of_ascii hascii (by simpa using hcapital), .inr rfl⟩
  · next hascii =>
    split at hd
    · have hdotted : ∀ d ∈ ['i', '\u0307'], IsLow d ∧ isBlank d = false := by
        refine List.forall_mem_cons.mpr ⟨?_, List.forall_mem_singleton.mpr ?_⟩ <;> decide +kernel
      exact ⟨(hdotted d hd).1, .inl (hdotted d hd).2⟩
    · next hdot =>
      split at hd
      · next r hfind =>
        rw [List.mem_singleton] at hd
        have hholds : r.holds c.toNat = true :=
          List.find?_some (p := fun r : CaseRun => r.holds c.toNat) hfind
        obtain ⟨hlow, hblank⟩ := isLow_of_holds (List.mem_of_find?_eq_some hfind) hholds
        subst hd
        exact ⟨hlow, .inl hblank⟩
      · next hfind =>
        rw [List.mem_singleton] at hd
        subst hd
        have hnone := List.find?_eq_none.mp hfind
        exact ⟨isLow_of_not_holds hascii hdot fun r hr => by simpa using hnone r hr, .inr rfl⟩

/-! ### Texts -/

/-- The lower case of lower-case characters in front. -/
theorem exists_lowerAfter_append {front : List Char} (h : ∀ c ∈ front, IsLow c) (cased : Bool)
    (cs : List Char) : ∃ after, lowerAfter cased (front ++ cs) = front ++ lowerAfter after cs := by
  induction front generalizing cased with
  | nil => exact ⟨cased, rfl⟩
  | cons c front ih =>
    obtain ⟨hsigma, hlower⟩ := h c (.head _)
    obtain ⟨after, hafter⟩ := ih (fun d hd => h d (.tail _ hd))
      (if isCaseless c then cased else isCased c)
    refine ⟨after, ?_⟩
    rw [List.cons_append, lowerAfter, if_neg hsigma, hlower, hafter]
    rfl

theorem lowerAfter_of_isLow {cs : List Char} (h : ∀ c ∈ cs, IsLow c) (cased : Bool) :
    lowerAfter cased cs = cs := by
  obtain ⟨after, hafter⟩ := exists_lowerAfter_append h cased []
  rwa [List.append_nil, lowerAfter, List.append_nil] at hafter

/-- The piece of a lower-cased text that a character becomes. -/
structure Becomes (c : Char) (piece : List Char) : Prop where
  ne_nil : piece ≠ []
  isLow : ∀ d ∈ piece, IsLow d
  blank : ∀ d ∈ piece, isBlank d = false ∨ d = c

theorem becomes_lowerChar {c : Char} (h : c ≠ 'Σ') : Becomes c (lowerChar c) where
  ne_nil := by
    rcases lowerChar_cases c with ⟨d, hd⟩ | hd
    · simp [hd]
    · simp [hd]
  isLow d hd := (isLow_of_mem_lowerChar h hd).1
  blank d hd := (isLow_of_mem_lowerChar h hd).2

theorem becomes_sigma {d : Char} (hd : d ∈ ['ς', 'σ']) : Becomes 'Σ' [d] := by
  have hsigma : ∀ d ∈ ['ς', 'σ'], IsLow d ∧ isBlank d = false := by
    refine List.forall_mem_cons.mpr ⟨?_, List.forall_mem_singleton.mpr ?_⟩ <;> decide +kernel
  refine ⟨by simp, fun e he => ?_, fun e he => .inl ?_⟩
  all_goals rw [List.mem_singleton.mp he]
  · exact (hsigma d hd).1
  · exact (hsigma d hd).2

/-- Every character of a text becomes a piece of the lower-cased text. -/
theorem exists_lowerAfter_eq_flatten (cased : Bool) (cs : List Char) :
    ∃ pieces, List.Forall₂ Becomes cs pieces ∧ lowerAfter cased cs = pieces.flatten := by
  induction cs generalizing cased with
  | nil => exact ⟨[], .nil, rfl⟩
  | cons c cs ih =>
    obtain ⟨pieces, hpieces, hrest⟩ := ih (if isCaseless c then cased else isCased c)
    rw [lowerAfter, hrest]
    split
    · next h =>
      subst h
      refine ⟨_ :: pieces, .cons (becomes_sigma ?_) hpieces, rfl⟩
      split <;> simp
    · next h => exact ⟨_ :: pieces, .cons (becomes_lowerChar h) hpieces, rfl⟩

section Pieces

variable {cs : List Char} {pieces : List (List Char)} (h : List.Forall₂ Becomes cs pieces)
include h

theorem isLow_of_mem_pieces {d : Char} (hd : d ∈ pieces.flatten) : IsLow d := by
  induction h with
  | nil => cases hd
  | cons hpiece _ ih =>
    rcases List.mem_append.mp hd with hd | hd
    · exact hpiece.isLow d hd
    · exact ih hd

theorem head_pieces {d : Char} (hd : d ∈ pieces.flatten.head?) :
    ∃ c ∈ cs.head?, isBlank d = false ∨ d = c := by
  cases h with
  | nil => cases hd
  | @cons c piece cs pieces hpiece _ =>
    rw [List.flatten_cons, List.head?_append_of_ne_nil _ hpiece.ne_nil] at hd
    exact ⟨c, rfl, hpiece.blank d (List.mem_of_mem_head? hd)⟩

theorem getLast_pieces {d : Char} (hd : d ∈ pieces.flatten.getLast?) :
    ∃ c ∈ cs.getLast?, isBlank d = false ∨ d = c := by
  induction h with
  | nil => cases hd
  | @cons c piece cs pieces hpiece hrest ih =>
    cases hrest with
    | nil =>
      rw [List.flatten_cons, List.flatten_nil, List.append_nil] at hd
      exact ⟨c, rfl, hpiece.blank d (List.mem_of_mem_getLast? hd)⟩
    | @cons c' piece' cs pieces hpiece' _ =>
      have hne : (piece' :: pieces).flatten ≠ [] := by simp [hpiece'.ne_nil]
      rw [List.flatten_cons, List.getLast?_append_of_ne_nil _ hne] at hd
      exact ih hd

end Pieces

/-- A lower-cased text stays as it is when it is lower-cased again. -/
theorem lowerChars_lowerChars (cs : List Char) : lowerChars (lowerChars cs) = lowerChars cs := by
  obtain ⟨pieces, hpieces, hlower⟩ := exists_lowerAfter_eq_flatten false cs
  rw [lowerChars, lowerChars, hlower]
  exact lowerAfter_of_isLow (fun d hd => isLow_of_mem_pieces hpieces hd) false

/-- A trimmed text is trimmed also in lower case. -/
theorem IsTrimmed.lowerChars {cs : List Char} (h : IsTrimmed cs) : IsTrimmed (lowerChars cs) := by
  obtain ⟨pieces, hpieces, hlower⟩ := exists_lowerAfter_eq_flatten false cs
  rw [Text.lowerChars, hlower]
  constructor
  · intro d hd
    obtain ⟨c, hc, hblank⟩ := head_pieces hpieces hd
    exact hblank.elim id fun heq => heq ▸ h.front c hc
  · intro d hd
    obtain ⟨c, hc, hblank⟩ := getLast_pieces hpieces hd
    exact hblank.elim id fun heq => heq ▸ h.back c hc

/-- Trimming and lower-casing a text a second time changes nothing. -/
theorem lower_trim_lower_trim (s : String) : lower (trim (lower (trim s))) = lower (trim s) := by
  have htrimmed := (isTrimmed_trimChars s.toList).lowerChars
  simp only [lower, trim, String.toList_ofList, trimChars_of_isTrimmed htrimmed,
    lowerChars_lowerChars]

end PageScript.Text

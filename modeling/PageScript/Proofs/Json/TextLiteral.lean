import PageScript.Json.Token

/-!
# Text literals

`SpellsText cs body` says that `body` may stand between the marks of a literal for the text `cs`:
every character is either written as it is or escaped in one of several ways.  The lexer finds the
text in each of its spellings (`token_of_spellsText`).
-/

namespace PageScript.Json

/-- A character of a text: itself, one letter behind a backslash, its code in four hexadecimal
digits, or the codes of a surrogate pair. -/
inductive SpellsChar (c : Char) : List Char → Prop
  | itself (hcontrol : 0x20 ≤ c.toNat) (hmark : c ≠ '"') (hslash : c ≠ '\\') : SpellsChar c [c]
  | letter {e : Char} (h : escape? e = some c) : SpellsChar c ['\\', e]
  | code {d₁ d₂ d₃ d₄ : Char} (h : hexNumber? d₁ d₂ d₃ d₄ = some c.toNat) :
    SpellsChar c ['\\', 'u', d₁, d₂, d₃, d₄]
  | pair {d₁ d₂ d₃ d₄ e₁ e₂ e₃ e₄ : Char} {high low : Nat}
    (hhigh : hexNumber? d₁ d₂ d₃ d₄ = some high) (hlow : hexNumber? e₁ e₂ e₃ e₄ = some low)
    (hhighRange : 0xD800 ≤ high ∧ high < 0xDC00) (hlowRange : 0xDC00 ≤ low ∧ low < 0xE000)
    (h : c.toNat = 0x10000 + (high - 0xD800) * 0x400 + (low - 0xDC00)) :
    SpellsChar c ['\\', 'u', d₁, d₂, d₃, d₄, '\\', 'u', e₁, e₂, e₃, e₄]

/-- The characters of a text, one after the other. -/
inductive SpellsText : List Char → List Char → Prop
  | nil : SpellsText [] []
  | cons {c : Char} {cs w body : List Char} (h : SpellsChar c w) (hrest : SpellsText cs body) :
    SpellsText (c :: cs) (w ++ body)

/-- A character is no surrogate. -/
theorem not_isSurrogate (c : Char) : ¬ (0xD800 ≤ c.toNat ∧ c.toNat < 0xE000) := by
  have hvalid : c.toNat < 0xd800 ∨ 0xdfff < c.toNat ∧ c.toNat < 0x110000 := c.valid
  omega

theorem joinSurrogates_cons (c : Char) (codes : List Nat) :
    joinSurrogates (c.toNat :: codes) = c :: joinSurrogates codes := by
  have hc := not_isSurrogate c
  cases codes with
  | nil => simp only [joinSurrogates, if_neg hc, Char.ofNat_toNat]
  | cons low codes =>
    rw [joinSurrogates, if_neg (fun h => hc ⟨h.1, by omega⟩), if_neg hc, Char.ofNat_toNat]

theorem joinSurrogates_pair {c : Char} {high low : Nat} (hhigh : 0xD800 ≤ high ∧ high < 0xDC00)
    (hlow : 0xDC00 ≤ low ∧ low < 0xE000)
    (h : c.toNat = 0x10000 + (high - 0xD800) * 0x400 + (low - 0xDC00)) (codes : List Nat) :
    joinSurrogates (high :: low :: codes) = c :: joinSurrogates codes := by
  rw [joinSurrogates, if_pos ⟨hhigh.1, hhigh.2, hlow⟩, ← h, Char.ofNat_toNat]

theorem scanText_code {d₁ d₂ d₃ d₄ : Char} {code start offset : Nat} {rest : List Char}
    (h : hexNumber? d₁ d₂ d₃ d₄ = some code) (hrest : rest ≠ []) :
    scanText start offset ('\\' :: 'u' :: d₁ :: d₂ :: d₃ :: d₄ :: rest) =
      prepend code (scanText start (offset + 6) rest) := by
  have hempty : rest.isEmpty = false := List.isEmpty_eq_false_iff.mpr hrest
  simp [scanText, h, hempty]

/-- Scanning goes through what spells a character. -/
theorem scanText_of_spellsChar {c : Char} {w : List Char} (h : SpellsChar c w) :
    ∃ codes : List Nat,
      (∀ more, joinSurrogates (codes ++ more) = c :: joinSurrogates more) ∧
      ∀ (start offset : Nat) (rest : List Char) (found : List Nat) (after : Nat),
        rest ≠ [] → scanText start (offset + w.length) rest = .ok (found, after) →
        scanText start offset (w ++ rest) = .ok (codes ++ found, after) := by
  cases h with
  | itself hcontrol hmark hslash =>
    refine ⟨[c.toNat], joinSurrogates_cons c, fun start offset rest found after _ hscan => ?_⟩
    have hplain : ¬ c.toNat < 0x20 := by omega
    show scanText start offset (c :: rest) = _
    rw [scanText, if_neg hplain]
    · rw [show scanText start (offset + 1) rest = _ from hscan]
      rfl
    all_goals simp_all
  | @letter e h =>
    refine ⟨[c.toNat], joinSurrogates_cons c, fun start offset rest found after _ hscan => ?_⟩
    have hletter : e ≠ 'u' := by
      rintro rfl
      simp [escape?] at h
    show scanText start offset ('\\' :: e :: rest) = _
    rw [scanText, if_neg hletter, h]
    · dsimp only
      rw [show scanText start (offset + 2) rest = _ from hscan]
      rfl
    all_goals simp_all
  | @code d₁ d₂ d₃ d₄ h =>
    refine ⟨[c.toNat], joinSurrogates_cons c, fun start offset rest found after hrest hscan => ?_⟩
    show scanText start offset ('\\' :: 'u' :: d₁ :: d₂ :: d₃ :: d₄ :: rest) = _
    rw [scanText_code h hrest, show scanText start (offset + 6) rest = _ from hscan]
    rfl
  | @pair d₁ d₂ d₃ d₄ e₁ e₂ e₃ e₄ high low hhigh hlow hhighRange hlowRange h =>
    refine ⟨[high, low], joinSurrogates_pair hhighRange hlowRange h,
      fun start offset rest found after hrest hscan => ?_⟩
    show scanText start offset ('\\' :: 'u' :: d₁ :: d₂ :: d₃ :: d₄ ::
      '\\' :: 'u' :: e₁ :: e₂ :: e₃ :: e₄ :: rest) = _
    rw [scanText_code hhigh (by simp), scanText_code hlow hrest,
      show scanText start (offset + 6 + 6) rest = _ from hscan]
    rfl

/-- Scanning what spells a text ends behind its closing mark. -/
theorem scanText_of_spellsText {cs body : List Char} (h : SpellsText cs body) (start offset : Nat)
    (rest : List Char) :
    ∃ codes, joinSurrogates codes = cs ∧
      scanText start offset (body ++ '"' :: rest) = .ok (codes, offset + body.length + 1) := by
  induction h generalizing offset with
  | nil => exact ⟨[], rfl, by simp [scanText]⟩
  | @cons c cs w body h _ ih =>
    obtain ⟨codes, hjoin, hscan⟩ := scanText_of_spellsChar h
    obtain ⟨more, hmore, hbody⟩ := ih (offset + w.length)
    refine ⟨codes ++ more, by rw [hjoin, hmore], ?_⟩
    rw [List.append_assoc, hscan start offset _ more _ (by simp) hbody, List.length_append,
      Nat.add_assoc offset]

theorem token_of_spellsText {s : String} {body : List Char} (h : SpellsText s.toList body)
    (offset : Nat) (rest : List Char) :
    token offset '"' (body ++ '"' :: rest) = (.text s, body.length + 1) := by
  obtain ⟨codes, hjoin, hscan⟩ := scanText_of_spellsText h offset (offset + 1) rest
  have hlength : offset + 1 + body.length + 1 - offset - 1 = body.length + 1 := by omega
  simp [token, hscan, hjoin, hlength]

end PageScript.Json

import PageScript.Proofs.Json.Lexemes
import PageScript.Proofs.Json.TextLiteral
import PageScript.Proofs.Json.Word

/-!
# Texts for tokens

`Renders ts cs` says that the characters `cs` are a text for the tokens `ts`: each token is spelled
in one of its ways, and gaps stand between them as one likes.  A rendered value is what the reader
gets from it, whoever has written it (`readChars_of_renders`).
-/

namespace PageScript.Json

open PageScript.Number

/-! ### Numbers with a fraction -/

theorem run_of_readChars {cs : List Char} {v : Json} (h : readChars cs = .ok v) :
    ∃ stack, State.run ⟨.value, []⟩ (tokens cs) = .ok ⟨.after v, stack⟩ := by
  unfold readChars at h
  split at h
  · cases h
  · split at h <;> cases h
    exact ⟨_, by assumption⟩

/-- Of the tokens, a word is a value, a number with too many digits, or nothing. -/
theorem word_cases (cs : List Char) :
    (∃ v, (word cs).1 = .literal v) ∨ (∃ count, (word cs).1 = .oversized count) ∨
      (word cs).1 = .junk := by
  have hunsigned {negative : Bool} {signLength : Nat} {cs : List Char} {found : Token × Nat}
      (h : unsigned? negative signLength cs = some found) :
      (∃ v, found.1 = .literal v) ∨ ∃ count, found.1 = .oversized count := by
    unfold unsigned? at h
    dsimp only at h
    split at h
    · cases h
    split at h
    · split at h <;> cases h
      · exact .inl ⟨_, rfl⟩
      · exact .inr ⟨_, rfl⟩
    · cases h
      exact .inl ⟨_, rfl⟩
  have hnumber {cs : List Char} {found : Token × Nat} (h : number? cs = some found) :
      (∃ v, found.1 = .literal v) ∨ ∃ count, found.1 = .oversized count := by
    by_cases hminus : cs.head? = some '-'
    · obtain ⟨cs, rfl⟩ := List.head?_eq_some_iff.mp hminus
      exact hunsigned h
    · rw [number?_of_ne_minus hminus] at h
      exact hunsigned h
  unfold word
  split
  · exact .inl ⟨_, rfl⟩
  · split
    · next found length h => exact (hnumber h).imp_right .inl
    · exact .inr (.inr rfl)

theorem token_ne_finish (offset : Nat) (c : Char) (cs : List Char) :
    (token offset c cs).1 ≠ .finish := by
  intro h
  by_cases hmark : isMark c = true
  · simp only [isMark, List.contains_eq_mem, List.mem_cons, List.not_mem_nil, or_false,
      decide_eq_true_eq] at hmark
    rcases hmark with rfl | rfl | rfl | rfl | rfl | rfl | rfl
    iterate 6 cases h
    simp only [token, Char.reduceEq, if_false, if_true] at h
    split at h <;> cases h
  · rw [token_eq_word (Bool.eq_false_iff.mpr hmark)] at h
    rcases word_cases (c :: cs) with ⟨v, hfound⟩ | ⟨count, hfound⟩ | hfound <;>
      rw [hfound] at h <;> cases h

/-- A reader that has its value accepts nothing but gaps. -/
theorem gaps_of_run {v : Json} {s : State} {skip offset : Nat} {cs : List Char}
    (h : State.run ⟨.after v, []⟩ (tokensFrom skip offset cs) = .ok s) :
    s = ⟨.after v, []⟩ ∧ ∀ c ∈ cs.drop skip, isGap c = true := by
  induction cs generalizing skip offset with
  | nil =>
    cases h
    exact ⟨rfl, by simp⟩
  | cons c cs ih =>
    cases skip with
    | succ skip => exact ih h
    | zero =>
      rw [tokensFrom] at h
      split at h
      · next hc =>
        obtain ⟨hs, hgaps⟩ := ih h
        exact ⟨hs, by simpa [hc] using hgaps⟩
      · have hfinish := token_ne_finish offset c cs
        revert h hfinish
        generalize token offset c cs = found
        obtain ⟨t, more⟩ := found
        intro h hfinish
        cases t <;> first | cases h | exact absurd rfl hfinish

theorem isWord_decimal {x : Float} (h : ReadsBack x) :
    IsWord (Layout.data.write x).toList (.decimal x) := by
  obtain ⟨c, cs, hwrite, hmark, hgap⟩ := head_write x
  have hcompact : (decimal x).compact.toList = (Layout.data.write x).toList := by
    simp [compact, write, chars]
  unfold ReadsBack read at h
  rw [hcompact, hwrite] at h
  obtain ⟨stack, hrun⟩ := run_of_readChars h
  rw [tokens, tokensFrom, if_neg (by simp [hgap]), token_eq_word hmark] at hrun
  suffices hfound : (word (c :: cs)).1 = .literal (.decimal x) ∧
      ∀ d ∈ cs.drop (word (c :: cs)).2, isGap d = true by
    exact ⟨⟨c, cs, hwrite, hmark, hgap⟩, by rw [hwrite, hfound.1], by
      rw [hwrite, List.drop_succ_cons]
      exact hfound.2⟩
  rcases word_cases (c :: cs) with ⟨v, hv⟩ | ⟨count, hcount⟩ | hjunk
  · dsimp only at hrun
    rw [hv] at hrun
    obtain ⟨hstate, hgaps⟩ := gaps_of_run (show State.run ⟨.after v, []⟩ _ = _ from hrun)
    cases hstate
    exact ⟨hv, hgaps⟩
  · dsimp only at hrun
    rw [hcount] at hrun
    cases hrun
  · dsimp only at hrun
    rw [hjunk] at hrun
    cases hrun

/-! ### Spellings -/

/-- The ways to spell a token.  A number is spelled as it is printed. -/
inductive Spells : Token → List Char → Prop
  | openArray : Spells .openArray ['[']
  | closeArray : Spells .closeArray [']']
  | openObject : Spells .openObject ['\x7b']
  | closeObject : Spells .closeObject ['\x7d']
  | comma : Spells .comma [',']
  | colon : Spells .colon [':']
  | text {s : String} {body : List Char} (h : SpellsText s.toList body) :
    Spells (.text s) ('"' :: (body ++ ['"']))
  | null : Spells (.literal .null) ['n', 'u', 'l', 'l']
  | yes : Spells (.literal (.bool true)) ['t', 'r', 'u', 'e']
  | no : Spells (.literal (.bool false)) ['f', 'a', 'l', 's', 'e']
  | integer {n : Int} (h : (Nat.toDigits 10 n.natAbs).length ≤ digitLimit) :
    Spells (.literal (.integer n)) (writeInt n).toList
  | decimal {x : Float} (h : ReadsBack x) :
    Spells (.literal (.decimal x)) (Layout.data.write x).toList

/-- Texts for tokens: spelled tokens with gaps between them, and a delimiter behind each word. -/
inductive Renders : List Token → List Char → Prop
  | nil : Renders [] []
  | gap {c : Char} {cs : List Char} {ts : List Token} (hc : isGap c = true) (h : Renders ts cs) :
    Renders ts (c :: cs)
  | token {t : Token} {w cs : List Char} {ts : List Token} (hw : Spells t w)
    (hcs : (∃ v, t = .literal v) → Delimited cs) (h : Renders ts cs) :
    Renders (t :: ts) (w ++ cs)

theorem isWord_of_spells {v : Json} {w : List Char} (h : Spells (.literal v) w) : IsWord w v := by
  cases h with
  | null => exact isWord_constant (by simp [constants])
  | yes => exact isWord_constant (by simp [constants])
  | no => exact isWord_constant (by simp [constants])
  | integer h => exact isWord_writeInt h
  | decimal h => exact isWord_decimal h

/-! ### The lexer -/

theorem tokensFrom_length (w rest : List Char) (offset : Nat) :
    tokensFrom w.length offset (w ++ rest) = tokensFrom 0 (offset + w.length) rest := by
  induction w generalizing offset with
  | nil => simp
  | cons c w ih =>
    rw [List.length_cons, List.cons_append, tokensFrom, ih, Nat.add_assoc, Nat.add_comm 1]

theorem tokensFrom_gaps {gaps : List Char} (h : ∀ c ∈ gaps, isGap c = true) (offset : Nat)
    (rest : List Char) :
    tokensFrom 0 offset (gaps ++ rest) = tokensFrom 0 (offset + gaps.length) rest := by
  induction gaps generalizing offset with
  | nil => simp
  | cons c gaps ih =>
    rw [List.cons_append, tokensFrom, if_pos (h c (.head _)), ih fun c hc => h c (.tail _ hc),
      List.length_cons, Nat.add_assoc, Nat.add_comm 1]

theorem tokensFrom_of_isWord {w rest : List Char} {v : Json} (h : IsWord w v)
    (hrest : Delimited rest) (offset : Nat) :
    tokensFrom 0 offset (w ++ rest) =
      (offset, .literal v) :: tokensFrom 0 (offset + w.length) rest := by
  obtain ⟨⟨c, cs, rfl, hmark, hgap⟩, hfound, hends⟩ := h
  have hlength := length_word_le c cs
  rw [List.drop_succ_cons] at hends
  have hword : word (c :: (cs ++ rest)) = word (c :: cs) := word_append hrest.stopped (c :: cs)
  rw [List.cons_append, tokensFrom, if_neg (by simp [hgap]), token_eq_word hmark, hword]
  dsimp only
  rw [hfound]
  congr 1
  generalize (word (c :: cs)).2 = more at hends hlength
  obtain ⟨front, back, rfl, rfl⟩ : ∃ front back, cs = front ++ back ∧ more = front.length :=
    ⟨cs.take more, cs.drop more, (List.take_append_drop more cs).symm, by simp [hlength]⟩
  rw [List.drop_left] at hends
  rw [List.append_assoc, tokensFrom_length, tokensFrom_gaps hends]
  congr 1
  simp only [List.length_cons, List.length_append]
  omega

theorem tokensFrom_of_spells {t : Token} {w rest : List Char} (h : Spells t w)
    (hrest : (∃ v, t = .literal v) → Delimited rest) (offset : Nat) :
    tokensFrom 0 offset (w ++ rest) = (offset, t) :: tokensFrom 0 (offset + w.length) rest := by
  cases h with
  | @text s body h =>
    have hrest := tokensFrom_length (body ++ ['"']) rest (offset + 1)
    rw [List.append_assoc, List.singleton_append, List.length_append] at hrest
    rw [List.cons_append, List.append_assoc, List.singleton_append, tokensFrom, if_neg (by decide),
      token_of_spellsText h offset rest]
    dsimp only
    rw [show body.length + 1 = body.length + ['"'].length from rfl, hrest]
    congr 2
    simp only [List.length_cons, List.length_append]
    omega
  | null => exact tokensFrom_of_isWord (isWord_of_spells .null) (hrest ⟨_, rfl⟩) offset
  | yes => exact tokensFrom_of_isWord (isWord_of_spells .yes) (hrest ⟨_, rfl⟩) offset
  | no => exact tokensFrom_of_isWord (isWord_of_spells .no) (hrest ⟨_, rfl⟩) offset
  | integer h => exact tokensFrom_of_isWord (isWord_writeInt h) (hrest ⟨_, rfl⟩) offset
  | decimal h => exact tokensFrom_of_isWord (isWord_decimal h) (hrest ⟨_, rfl⟩) offset
  | _ => rfl

/-- The lexer finds the tokens in every text for them. -/
theorem tokensFrom_of_renders {ts : List Token} {cs : List Char} (h : Renders ts cs)
    (offset : Nat) : (tokensFrom 0 offset cs).map Prod.snd = ts ++ [.finish] := by
  induction h generalizing offset with
  | nil => rfl
  | gap hc _ ih =>
    rw [tokensFrom, if_pos hc]
    exact ih _
  | token hw hcs _ ih =>
    rw [tokensFrom_of_spells hw hcs, List.map_cons, ih]
    rfl

/-! ### The reader -/

theorem readChars_of_run {cs : List Char} {v : Json} {stack : List Frame}
    (h : State.run ⟨.value, []⟩ (tokens cs) = .ok ⟨.after v, stack⟩) : readChars cs = .ok v := by
  unfold readChars
  split
  · next rest =>
    -- The mark is no token, so nothing is read from a text that begins with it.
    have hjunk : word ('\ufeff' :: rest) = (.junk, 0) := by
      have hnumber : number? ('\ufeff' :: rest) = none := by
        rw [number?_of_ne_minus (by simp)]
        simp [unsigned?, wholePart, isAsciiDigit]
      simp [word, constants, List.isPrefixOf, hnumber]
    rw [tokens, tokensFrom, if_neg (by decide), token_eq_word rfl, hjunk] at h
    cases h
  · rw [h]

/-- Whoever has written a value, the reader gets it. -/
theorem readChars_of_renders {v : Json} {cs : List Char} (hv : Legible v)
    (h : Renders (lexemes v) cs) : readChars cs = .ok v := by
  have htakes := (State.takes_lexemes hv []).append
    (.cons (t := .finish) (fun _ => rfl) (.nil _))
  exact readChars_of_run (htakes _ (tokensFrom_of_renders h 0))

end PageScript.Json

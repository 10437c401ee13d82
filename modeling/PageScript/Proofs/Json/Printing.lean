import PageScript.Proofs.Json.Spelling

/-!
# Printed values

Whatever the style, the printer writes a text for the tokens of a value (`renders_chars`), so the
value is read back (`read_write`).
-/

namespace PageScript.Json

open PageScript.Text PageScript.Number

/-! ### Texts -/

theorem spellsChar_escapeChar (c : Char) : SpellsChar c (escapeChar c) := by
  have hcontrol : ∀ n < 0x20,
      hex 4 n = ['0', '0', (n / 16).digitChar, (n % 16).digitChar] ∧
        hexNumber? '0' '0' (n / 16).digitChar (n % 16).digitChar = some n := by decide
  unfold escapeChar
  split
  · next h => rcases h with rfl | rfl <;> exact .letter rfl
  split
  · next h => exact .letter (h ▸ rfl)
  split
  · next h => exact .letter (h ▸ rfl)
  split
  · next h => exact .letter (h ▸ rfl)
  split
  · next h => exact .letter (h ▸ rfl)
  split
  · next h => exact .letter (h ▸ rfl)
  split
  · next h =>
    obtain ⟨hhex, hnumber⟩ := hcontrol c.toNat h
    rw [hhex]
    exact .code hnumber
  · next hmark _ _ _ _ _ hplain =>
    rw [not_or] at hmark
    exact .itself (Nat.le_of_not_lt hplain) hmark.1 hmark.2

theorem spellsText_escaped (cs : List Char) : SpellsText cs (cs.flatMap escapeChar) := by
  induction cs with
  | nil => exact .nil
  | cons c cs ih => exact .cons (spellsChar_escapeChar c) ih

/-! ### Texts that are put together -/

/-- Gaps in front are no part of the tokens. -/
theorem Renders.gaps {gaps cs : List Char} {ts : List Token} (hgaps : ∀ c ∈ gaps, isGap c = true)
    (h : Renders ts cs) : Renders ts (gaps ++ cs) := by
  induction gaps with
  | nil => exact h
  | cons c gaps ih => exact .gap (hgaps c (.head _)) (ih fun c hc => hgaps c (.tail _ hc))

theorem Delimited.append {cs ds : List Char} (h : Delimited cs) (hds : Delimited ds) :
    Delimited (cs ++ ds) := by
  cases cs with
  | nil => exact hds
  | cons c cs => exact h

theorem delimited_cons {c : Char} (h : isDelimiter c = true) (cs : List Char) :
    Delimited (c :: cs) := by
  intro d hd
  cases hd
  exact h

theorem delimited_of_gaps {gaps : List Char} (h : ∀ c ∈ gaps, isGap c = true) :
    Delimited gaps := by
  intro c hc
  simp [isDelimiter, h c (List.mem_of_mem_head? hc)]

theorem Renders.append {ts us : List Token} {cs ds : List Char} (h : Renders ts cs)
    (hds : Delimited ds) (hus : Renders us ds) : Renders (ts ++ us) (cs ++ ds) := by
  induction h with
  | nil => exact hus
  | gap hc _ ih => exact .gap hc ih
  | token hw hcs _ ih =>
    rw [List.append_assoc]
    exact .token hw (fun ht => (hcs ht).append hds) ih

/-- A mark or a text may have anything behind it. -/
theorem Renders.cons {t : Token} {w cs : List Char} {ts : List Token} (hw : Spells t w)
    (ht : ∀ v, t ≠ .literal v) (h : Renders ts cs) : Renders (t :: ts) (w ++ cs) :=
  .token hw (fun ⟨v, hv⟩ => absurd hv (ht v)) h

theorem renders_word {v : Json} {w : List Char} (h : Spells (.literal v) w) :
    Renders [.literal v] w := by
  rw [← List.append_nil w]
  exact .token h (fun _ _ hc => nomatch hc) .nil

theorem renders_escaped {s : String} {ts : List Token} {cs : List Char} (h : Renders ts cs) :
    Renders (.text s :: ts) (escaped s ++ cs) :=
  .cons (.text (spellsText_escaped s.toList)) (by simp) h

/-! ### Values -/

/-- A style whose commas and colons have nothing but gaps behind them. -/
structure Style.Regular (style : Style) : Prop where
  comma : ∃ gaps, style.comma = ',' :: gaps ∧ ∀ c ∈ gaps, isGap c = true
  colon : ∃ gaps, style.colon = ':' :: gaps ∧ ∀ c ∈ gaps, isGap c = true

theorem regular_compact : Style.compact.Regular :=
  ⟨⟨[], rfl, nofun⟩, ⟨[], rfl, nofun⟩⟩

theorem regular_indented : Style.indented.Regular :=
  ⟨⟨[], rfl, nofun⟩, ⟨[' '], rfl, List.all_eq_true.mp rfl⟩⟩

theorem gaps_lineBreak (style : Style) (depth : Nat) :
    ∀ c ∈ style.lineBreak depth, isGap c = true := by
  intro c h
  unfold Style.lineBreak at h
  split at h
  · cases h
  · rcases List.mem_cons.mp h with rfl | h
    · rfl
    · rw [List.eq_of_mem_replicate h]
      rfl

/-- The end of an array or object stands on a line of its own, where lines are broken. -/
theorem renders_close {t : Token} {c : Char} (hc : Spells t [c]) (ht : ∀ v, t ≠ .literal v)
    (hdelimiter : isDelimiter c = true) (style : Style) (depth : Nat) :
    Delimited (style.lineBreak depth ++ [c]) ∧ Renders [t] (style.lineBreak depth ++ [c]) := by
  have hgaps := gaps_lineBreak style depth
  constructor
  · exact (delimited_of_gaps hgaps).append (delimited_cons hdelimiter [])
  · exact Renders.gaps hgaps (Renders.cons hc ht .nil)

section Regular

variable {style : Style} (hstyle : style.Regular)
include hstyle

theorem Style.Regular.renders_comma {ts : List Token} {cs : List Char} (h : Renders ts cs) :
    Renders (.comma :: ts) (style.comma ++ cs) := by
  obtain ⟨gaps, hcomma, hgaps⟩ := hstyle.comma
  rw [hcomma]
  exact Renders.cons (w := [',']) .comma (by simp) (h.gaps hgaps)

theorem Style.Regular.renders_colon {ts : List Token} {cs : List Char} (h : Renders ts cs) :
    Renders (.colon :: ts) (style.colon ++ cs) := by
  obtain ⟨gaps, hcolon, hgaps⟩ := hstyle.colon
  rw [hcolon]
  exact Renders.cons (w := [':']) .colon (by simp) (h.gaps hgaps)

theorem delimited_comma (cs : List Char) : Delimited (style.comma ++ cs) := by
  obtain ⟨gaps, hcomma, -⟩ := hstyle.comma
  rw [hcomma]
  exact delimited_cons rfl _

theorem renders_items {depth : Nat} {items : List Json}
    (h : ∀ v ∈ items, Renders (lexemes v) (chars style depth v)) {us : List Token} {ds : List Char}
    (hds : Delimited ds) (hus : Renders us ds) :
    Delimited (itemChars style depth items ++ ds) ∧
      Renders (itemLexemes items ++ us) (itemChars style depth items ++ ds) := by
  induction items with
  | nil => exact ⟨hds, hus⟩
  | cons item items ih =>
    obtain ⟨hdelimited, hrest⟩ := ih fun v hv => h v (.tail _ hv)
    simp only [itemChars, itemLexemes, List.append_assoc, List.cons_append]
    refine ⟨delimited_comma hstyle _, hstyle.renders_comma ?_⟩
    exact ((h item (.head _)).append hdelimited hrest).gaps (gaps_lineBreak style depth)

theorem renders_fields {depth : Nat} {fields : Fields}
    (h : ∀ field ∈ fields, Renders (lexemes field.2) (chars style depth field.2)) {us : List Token}
    {ds : List Char} (hds : Delimited ds) (hus : Renders us ds) :
    Delimited (fieldChars style depth fields ++ ds) ∧
      Renders (fieldLexemes fields ++ us) (fieldChars style depth fields ++ ds) := by
  induction fields with
  | nil => exact ⟨hds, hus⟩
  | cons field fields ih =>
    obtain ⟨name, value⟩ := field
    obtain ⟨hdelimited, hrest⟩ := ih fun field hfield => h field (.tail _ hfield)
    simp only [fieldChars, fieldLexemes, List.append_assoc, List.cons_append]
    refine ⟨delimited_comma hstyle _, hstyle.renders_comma ?_⟩
    refine (renders_escaped ?_).gaps (gaps_lineBreak style depth)
    exact hstyle.renders_colon ((h _ (.head _)).append hdelimited hrest)

/-- The printer writes a text for the tokens of a value. -/
theorem renders_chars {v : Json} (h : Legible v) (depth : Nat) :
    Renders (lexemes v) (chars style depth v) := by
  induction h generalizing depth with
  | null => exact renders_word .null
  | bool b => cases b <;> first | exact renders_word .yes | exact renders_word .no
  | integer h => exact renders_word (.integer h)
  | decimal h => exact renders_word (.decimal h)
  | string s =>
    have := renders_escaped (s := s) .nil
    rwa [List.append_nil] at this
  | @array items _ ih =>
    cases items with
    | nil =>
      exact Renders.cons (w := ['[']) .openArray (by simp) (.cons .closeArray (by simp) .nil)
    | cons item items =>
      obtain ⟨hclose, hrest⟩ := renders_close .closeArray (by simp) rfl style depth
      obtain ⟨hitems, hrest⟩ := renders_items hstyle
        (fun v hv => ih v (.tail _ hv) (depth + 1)) hclose hrest
      have hall := ((ih item (.head _) (depth + 1)).append hitems hrest).gaps
        (gaps_lineBreak style (depth + 1))
      simp only [chars, List.append_assoc]
      exact Renders.cons (w := ['[']) .openArray (by simp) hall
  | @object fields hnames _ ih =>
    cases fields with
    | nil =>
      exact Renders.cons (w := ['\x7b']) .openObject (by simp) (.cons .closeObject (by simp) .nil)
    | cons field fields =>
      obtain ⟨name, value⟩ := field
      obtain ⟨hclose, hrest⟩ := renders_close .closeObject (by simp) rfl style depth
      obtain ⟨hfields, hrest⟩ := renders_fields hstyle
        (fun field hfield => ih field (.tail _ hfield) (depth + 1)) hclose hrest
      have hvalue := (ih _ (.head _) (depth + 1)).append hfields hrest
      have hall := (renders_escaped (s := name) (hstyle.renders_colon hvalue)).gaps
        (gaps_lineBreak style (depth + 1))
      simp only [chars, List.append_assoc]
      exact Renders.cons (w := ['\x7b']) .openObject (by simp) hall

/-- A written value is read back, whatever the style. -/
theorem read_write {v : Json} (h : Legible v) : read (write style v) = .ok v := by
  rw [read, write, String.toList_ofList]
  exact readChars_of_renders h (renders_chars hstyle h 0)

end Regular

end PageScript.Json

import Mathlib.Data.List.Forall2
import Mathlib.Data.List.ModifyLast
import PageScript.Proofs.Value.Printed

/-!
# The lines of a value

`Lines v lines` says line by line how a value is laid out for a person to read.  An array stands
between brackets that have lines of their own, and its items between them, two columns deeper and
with a comma behind each but the last; an object stands so between braces, every value with its name
in front.  Depth is no part of this: what is inside is laid out by itself and then moved.

The printer counts the depth instead (`exists_lines`).
-/

namespace PageScript.Json

open PageScript.Number PageScript.Text

/-! ### Texts -/

/-- How a character stands in a literal: the mark and the backslash behind a backslash, a control
character by its letter or its code, and everything else as it is. -/
inductive Stands : Char → String → Prop
  | mark : Stands '"' "\\\""
  | backslash : Stands '\\' "\\\\"
  | newline : Stands '\n' "\\n"
  | carriageReturn : Stands '\r' "\\r"
  | tab : Stands '\t' "\\t"
  | formFeed : Stands '\x0c' "\\f"
  | backspace : Stands '\x08' "\\b"
  | code {c : Char} {high low : Nat} (h : c.toNat = 16 * high + low) (hhigh : high < 2)
    (hlow : low < 16) (hletter : c ∉ ['\n', '\r', '\t', '\x0c', '\x08']) :
    Stands c (String.ofList ['\\', 'u', '0', '0', high.digitChar, low.digitChar])
  | itself {c : Char} (hcontrol : 0x20 ≤ c.toNat) (hmark : c ≠ '"') (hslash : c ≠ '\\') :
    Stands c (String.ofList [c])

/-- A text between quotation marks, character by character. -/
inductive Literal (s : String) : String → Prop
  | quoted {pieces : List String} (h : List.Forall₂ Stands s.toList pieces) :
    Literal s ("\"" ++ String.join pieces ++ "\"")

theorem stands_escapeChar (c : Char) : Stands c (String.ofList (escapeChar c)) := by
  have hcontrol : ∀ n < 0x20, hex 4 n = ['0', '0', (n / 16).digitChar, (n % 16).digitChar] := by
    decide
  unfold escapeChar
  split
  · next h => rcases h with rfl | rfl <;> first | exact .mark | exact .backslash
  next hmark =>
  rw [not_or] at hmark
  split
  · next h => exact h ▸ .newline
  next hnewline =>
  split
  · next h => exact h ▸ .carriageReturn
  next hreturn =>
  split
  · next h => exact h ▸ .tab
  next htab =>
  split
  · next h => exact h ▸ .formFeed
  next hfeed =>
  split
  · next h => exact h ▸ .backspace
  next hbackspace =>
  split
  · next h =>
    rw [hcontrol c.toNat h]
    refine .code (Nat.div_add_mod c.toNat 16).symm (by omega) (Nat.mod_lt _ (by decide)) ?_
    simp [hnewline, hreturn, htab, hfeed, hbackspace]
  · next h => exact .itself (Nat.le_of_not_lt h) hmark.1 hmark.2

theorem literal_escaped (s : String) : Literal s (String.ofList (escaped s)) := by
  have hpieces (cs : List Char) : ∃ pieces, List.Forall₂ Stands cs pieces ∧
      String.ofList (cs.flatMap escapeChar) = String.join pieces := by
    induction cs with
    | nil => exact ⟨[], .nil, rfl⟩
    | cons c cs ih =>
      obtain ⟨pieces, hstands, hjoin⟩ := ih
      refine ⟨_ :: pieces, .cons (stands_escapeChar c) hstands, ?_⟩
      rw [List.flatMap_cons, String.ofList_append, hjoin, String.join_cons]
  obtain ⟨pieces, hstands, hjoin⟩ := hpieces s.toList
  have hescaped : String.ofList (escaped s) = "\"" ++ String.join pieces ++ "\"" := by
    rw [escaped, ← List.singleton_append, String.ofList_append, String.ofList_append, hjoin,
      ← String.append_assoc]
  rw [hescaped]
  exact .quoted hstands

/-! ### Values -/

/-- Blocks of lines one after the other, with a comma behind each but the last. -/
def commaed : List (List String) → List String
  | [] => []
  | [block] => block
  | block :: blocks => block.modifyLast (· ++ ",") ++ commaed blocks

/-- A block of lines behind a name. -/
def named (name : String) (block : List String) : List String :=
  block.modifyHead (name ++ ": " ++ ·)

/-- The lines between an opening and a closing one are two columns deeper. -/
def enclosed (opening : String) (lines : List String) (closing : String) : List String :=
  opening :: lines.map ("  " ++ ·) ++ [closing]

/-- The lines of a value. -/
inductive Lines : Json → List String → Prop
  | null : Lines null ["null"]
  | yes : Lines (bool true) ["true"]
  | no : Lines (bool false) ["false"]
  | integer (n : Int) : Lines (integer n) [toString n]
  | decimal (x : Float) : Lines (decimal x) [Layout.data.write x]
  | string {s literal : String} (h : Literal s literal) : Lines (string s) [literal]
  | emptyArray : Lines (array []) ["[]"]
  | array {items : List Json} {blocks : List (List String)} (hne : items ≠ [])
    (h : List.Forall₂ Lines items blocks) : Lines (array items) (enclosed "[" (commaed blocks) "]")
  | emptyObject : Lines (object []) ["\x7b\x7d"]
  | object {fields : Fields} {names : List String} {blocks : List (List String)} (hne : fields ≠ [])
    (hnames : List.Forall₂ Literal (fields.map Prod.fst) names)
    (h : List.Forall₂ Lines (fields.map Prod.snd) blocks) :
    Lines (object fields) (enclosed "\x7b" (commaed (List.zipWith named names blocks)) "\x7d")

/-! ### Lines at a depth -/

/-- Lines at a depth, each behind its break. -/
def laid (depth : Nat) (lines : List String) : List Char :=
  lines.flatMap fun line => Style.indented.lineBreak depth ++ line.toList

/-- Characters that make up a block of lines. -/
structure Fills (depth : Nat) (written : List Char) (block : List String) : Prop where
  ne_nil : block ≠ []
  eq_laid : Style.indented.lineBreak depth ++ written = laid depth block

variable {depth : Nat}

theorem fills_line (depth : Nat) (line : String) : Fills depth line.toList [line] :=
  ⟨by simp, by simp [laid]⟩

theorem laid_append (lines more : List String) :
    laid depth (lines ++ more) = laid depth lines ++ laid depth more := List.flatMap_append

/-- To be moved by two columns is to be one deeper. -/
theorem laid_map_columns (lines : List String) :
    laid depth (lines.map ("  " ++ ·)) = laid (depth + 1) lines := by
  have hbreak : Style.indented.lineBreak depth ++ [' ', ' '] =
      Style.indented.lineBreak (depth + 1) := by
    show '\n' :: List.replicate (2 * depth) ' ' ++ List.replicate 2 ' ' =
      '\n' :: List.replicate (2 * (depth + 1)) ' '
    rw [List.cons_append, List.replicate_append_replicate]
    rfl
  rw [laid, laid, List.flatMap_map, ← hbreak]
  simp

theorem laid_comma {block : List String} (h : block ≠ []) :
    laid depth (block.modifyLast (· ++ ",")) = laid depth block ++ [','] := by
  obtain ⟨front, last, rfl⟩ := (List.eq_nil_or_concat block).resolve_left h
  rw [List.concat_eq_append, List.modifyLast_concat, laid_append, laid_append, List.append_assoc]
  simp [laid]

/-- Members with commas between them make up their blocks with commas. -/
theorem laid_commaed {pieces : List (List Char)} {blocks : List (List String)} {piece : List Char}
    {block : List String} (h : Fills depth piece block)
    (hrest : List.Forall₂ (Fills depth) pieces blocks) :
    Style.indented.lineBreak depth ++ piece ++
        pieces.flatMap (fun piece => ',' :: (Style.indented.lineBreak depth ++ piece)) =
      laid depth (commaed (block :: blocks)) := by
  induction hrest generalizing piece block with
  | nil => rw [List.flatMap_nil, List.append_nil, h.eq_laid, commaed]
  | @cons next nextBlock pieces blocks hnext _ ih =>
    have hcommaed : commaed (block :: nextBlock :: blocks) =
        block.modifyLast (· ++ ",") ++ commaed (nextBlock :: blocks) := rfl
    rw [hcommaed, laid_append, laid_comma h.ne_nil, ← ih hnext, ← h.eq_laid]
    simp

theorem Fills.named {written : List Char} {block : List String} (h : Fills depth written block)
    (name : String) :
    Fills depth (name.toList ++ [':', ' '] ++ written) (Json.named name block) := by
  obtain ⟨first, rest, rfl⟩ := List.exists_cons_of_ne_nil h.ne_nil
  have hwritten : written = first.toList ++ laid depth rest := by
    have heq := h.eq_laid
    rw [laid, List.flatMap_cons, List.append_assoc] at heq
    exact List.append_cancel_left heq
  refine ⟨by simp [Json.named], ?_⟩
  rw [hwritten]
  simp [Json.named, laid]

/-- What stands between brackets or braces is one deeper. -/
theorem fills_enclosed {opening closing : Char} {inner : List Char} {lines : List String}
    (h : inner = laid (depth + 1) lines) :
    Fills depth (opening :: (inner ++ Style.indented.lineBreak depth ++ [closing]))
      (enclosed (String.ofList [opening]) lines (String.ofList [closing])) := by
  refine ⟨by simp [enclosed], ?_⟩
  rw [h, ← laid_map_columns]
  simp [enclosed, laid]

/-! ### The printer -/

theorem itemChars_eq (items : List Json) :
    itemChars .indented depth items =
      (items.map (chars .indented depth)).flatMap fun piece =>
        ',' :: (Style.indented.lineBreak depth ++ piece) := by
  induction items with
  | nil => rfl
  | cons item items ih =>
    rw [itemChars, ih, List.map_cons, List.flatMap_cons]
    simp [Style.indented]

theorem fieldChars_eq (fields : Fields) :
    fieldChars .indented depth fields =
      (fields.map fun field =>
        escaped field.1 ++ [':', ' '] ++ chars .indented depth field.2).flatMap fun piece =>
          ',' :: (Style.indented.lineBreak depth ++ piece) := by
  induction fields with
  | nil => rfl
  | cons field fields ih =>
    obtain ⟨name, value⟩ := field
    rw [fieldChars, ih, List.map_cons, List.flatMap_cons]
    simp [Style.indented]

/-- What a value is laid out in, at whatever depth. -/
def LaidOut (v : Json) (block : List String) : Prop :=
  Lines v block ∧ ∀ depth, Fills depth (chars .indented depth v) block

theorem exists_blocks {values : List Json} (h : ∀ v ∈ values, ∃ block, LaidOut v block) :
    ∃ blocks, List.Forall₂ LaidOut values blocks := by
  induction values with
  | nil => exact ⟨[], .nil⟩
  | cons v values ih =>
    obtain ⟨block, hblock⟩ := h v (.head _)
    obtain ⟨blocks, hblocks⟩ := ih fun v hv => h v (.tail _ hv)
    exact ⟨block :: blocks, .cons hblock hblocks⟩

/-- Fields, each with the literal of its name. -/
theorem forall₂_fills_named (fields : Fields) {blocks : List (List String)}
    (h : List.Forall₂ LaidOut (fields.map Prod.snd) blocks) (depth : Nat) :
    List.Forall₂ (Fills depth)
      (fields.map fun field => escaped field.1 ++ [':', ' '] ++ chars .indented depth field.2)
      (List.zipWith named (fields.map fun field => String.ofList (escaped field.1)) blocks) := by
  induction fields generalizing blocks with
  | nil =>
    cases h
    exact .nil
  | cons field fields ih =>
    cases h with
    | cons hblock hblocks =>
      have hnamed := (hblock.2 depth).named (String.ofList (escaped field.1))
      rw [String.toList_ofList] at hnamed
      exact .cons hnamed (ih hblocks)

theorem exists_laidOut (v : Json) : ∃ block, LaidOut v block := by
  induction v using Json.ind with
  | null => exact ⟨["null"], .null, fun depth => fills_line depth "null"⟩
  | bool b =>
    cases b
    · exact ⟨["false"], .no, fun depth => fills_line depth "false"⟩
    · exact ⟨["true"], .yes, fun depth => fills_line depth "true"⟩
  | integer n =>
    refine ⟨[toString n], .integer n, fun depth => ?_⟩
    rw [chars, writeInt_eq_toString]
    exact fills_line depth _
  | decimal x => exact ⟨[Layout.data.write x], .decimal x, fun depth => fills_line depth _⟩
  | string s =>
    refine ⟨[String.ofList (escaped s)], .string (literal_escaped s), fun depth => ?_⟩
    have hline := fills_line depth (String.ofList (escaped s))
    rwa [String.toList_ofList] at hline
  | array items ih =>
    cases items with
    | nil => exact ⟨["[]"], .emptyArray, fun depth => fills_line depth "[]"⟩
    | cons item items =>
      obtain ⟨blocks, hblocks⟩ := exists_blocks ih
      refine ⟨_, .array (by simp) (hblocks.imp fun _ _ h => h.1), fun depth => ?_⟩
      obtain ⟨block, blocks, hblock, hrest, rfl⟩ := List.forall₂_cons_left_iff.mp hblocks
      rw [chars, itemChars_eq]
      refine fills_enclosed (laid_commaed (hblock.2 (depth + 1)) ?_)
      exact List.forall₂_map_left_iff.mpr (hrest.imp fun _ _ h => h.2 (depth + 1))
  | object fields ih =>
    cases fields with
    | nil => exact ⟨["\x7b\x7d"], .emptyObject, fun depth => fills_line depth "\x7b\x7d"⟩
    | cons field fields =>
      obtain ⟨blocks, hblocks⟩ : ∃ blocks,
          List.Forall₂ LaidOut ((field :: fields).map Prod.snd) blocks :=
        exists_blocks (List.forall_mem_map.mpr ih)
      have hnames : List.Forall₂ Literal ((field :: fields).map Prod.fst)
          ((field :: fields).map fun field => String.ofList (escaped field.1)) :=
        List.forall₂_map_left_iff.mpr <| List.forall₂_map_right_iff.mpr <|
          List.forall₂_same.mpr fun field _ => literal_escaped field.1
      refine ⟨_, .object (by simp) hnames (hblocks.imp fun _ _ h => h.1), fun depth => ?_⟩
      have hfills := forall₂_fills_named (field :: fields) hblocks (depth + 1)
      obtain ⟨name, value⟩ := field
      obtain ⟨block, blocks, -, -, rfl⟩ := List.forall₂_cons_left_iff.mp hblocks
      cases hfills with
      | cons hfirst hfields =>
        have hall : Fills depth ('\x7b' :: (_ ++ Style.indented.lineBreak depth ++ ['\x7d']))
            (enclosed (String.ofList ['\x7b']) _ (String.ofList ['\x7d'])) :=
          fills_enclosed (laid_commaed hfirst hfields)
        rw [chars, fieldChars_eq]
        simpa [Style.indented] using hall

/-- Lines with breaks between them are the lines behind a break each, but for the first break. -/
theorem toList_intercalate_lines {lines : List String} (h : lines ≠ []) :
    '\n' :: ("\n".intercalate lines).toList = laid 0 lines := by
  induction lines with
  | nil => exact absurd rfl h
  | cons line lines ih =>
    cases lines with
    | nil => simp [laid, Style.lineBreak, Style.indented]
    | cons next lines =>
      have hrest := ih (by simp)
      rw [String.intercalate_cons_cons, String.toList_append, String.toList_append]
      show '\n' :: (line.toList ++ ['\n'] ++ _) = laid 0 ([line] ++ next :: lines)
      rw [laid_append, ← hrest]
      simp [laid, Style.lineBreak, Style.indented]

/-- The printer writes the lines of a value. -/
theorem exists_lines (v : Json) :
    ∃ lines, Lines v lines ∧ v.indented = "\n".intercalate lines := by
  obtain ⟨lines, hlines, hfills⟩ := exists_laidOut v
  refine ⟨lines, hlines, String.toList_inj.mp ?_⟩
  have hlaid := (hfills 0).eq_laid
  rw [← toList_intercalate_lines (hfills 0).ne_nil] at hlaid
  rw [indented, write, String.toList_ofList]
  exact (List.cons.inj hlaid).2

end PageScript.Json

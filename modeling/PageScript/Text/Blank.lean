/-!
# Blank characters, words and lines

A character is *blank* when it has the Unicode property White_Space or is one of the four
information separators U+001C to U+001F.  Trimming drops blanks at the ends of a text, `words`
cuts a text at its blanks, and `lines` cuts it at its line breaks.

Everything is defined on `List Char`; the functions on `String` are thin wrappers.
-/

namespace PageScript.Text

/-- Membership of a code point in a list of closed ranges. -/
def inRanges (ranges : List (Nat × Nat)) (c : Char) : Bool :=
  ranges.any fun r => r.1 ≤ c.toNat && c.toNat ≤ r.2

/-- The closed ranges of blank code points. -/
def blankRanges : List (Nat × Nat) :=
  [(0x9, 0xd), (0x1c, 0x20), (0x85, 0x85), (0xa0, 0xa0), (0x1680, 0x1680), (0x2000, 0x200a),
   (0x2028, 0x2029), (0x202f, 0x202f), (0x205f, 0x205f), (0x3000, 0x3000)]

/-- Blank characters separate words and are trimmed. -/
def isBlank (c : Char) : Bool := inRanges blankRanges c

/-- The characters that end a line.  A carriage return and a line feed each end one. -/
def isLineBreak (c : Char) : Bool :=
  inRanges [(0xa, 0xd), (0x1c, 0x1e), (0x85, 0x85), (0x2028, 0x2029)] c

/-! ### Trimming -/

/-- Drop the blanks in front. -/
def trimLeft (cs : List Char) : List Char := cs.dropWhile isBlank

/-- Drop the blanks at the end. -/
def trimRight (cs : List Char) : List Char := (cs.reverse.dropWhile isBlank).reverse

/-- Drop the blanks at both ends. -/
def trimChars (cs : List Char) : List Char := trimRight (trimLeft cs)

/-- Drop the blanks at both ends of a text. -/
def trim (s : String) : String := String.ofList (trimChars s.toList)

/-- Drop the blanks at the end of a text. -/
def trimEnd (s : String) : String := String.ofList (trimRight s.toList)

/-! ### Cutting -/

/-- Cut a text at every character that `p` holds of; pieces may be empty. -/
def cuts (p : Char → Bool) : List Char → List (List Char)
  | [] => [[]]
  | c :: cs =>
    if p c then [] :: cuts p cs
    else match cuts p cs with
      | [] => [[c]]
      | piece :: pieces => (c :: piece) :: pieces

/-- The maximal blank-free pieces of a text. -/
def words (cs : List Char) : List (List Char) := (cuts isBlank cs).filter (!·.isEmpty)

/-- The pieces of a text between its line breaks; some may be empty. -/
def lines (s : String) : List String := (cuts isLineBreak s.toList).map String.ofList

/-- Put one space between any two neighbours. -/
def spaced : List (List Char) → List Char
  | [] => []
  | [w] => w
  | w :: ws => w ++ ' ' :: spaced ws

/-- The words of a text with single spaces between them: no blank at the ends, none doubled. -/
def collapse (s : String) : String := String.ofList (spaced (words s.toList))

/-! ### Small facts -/

/-- Cutting never loses a piece: there is always at least one. -/
theorem cuts_ne_nil (p : Char → Bool) (cs : List Char) : cuts p cs ≠ [] := by
  cases cs with
  | nil => simp [cuts]
  | cons c cs =>
    simp only [cuts]
    split
    · simp
    · split <;> simp

/-- The blanks of the ASCII table that Lean knows are blank here. -/
theorem isBlank_of_isWhitespace {c : Char} (h : c.isWhitespace = true) : isBlank c = true := by
  simp only [Char.isWhitespace, Bool.or_eq_true, decide_eq_true_eq] at h
  rcases h with ((rfl | rfl) | rfl) | rfl <;> decide

end PageScript.Text

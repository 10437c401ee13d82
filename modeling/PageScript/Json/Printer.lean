import PageScript.Json.Basic
import PageScript.Number.Layout
import PageScript.Text.Quoted

/-!
# Writing JSON

One printer serves three styles: `compact` leaves no gap, `spaced` puts a space after each comma
and colon, and `indented` puts every item and field on a line of its own, two columns deeper than
what holds it.  Empty arrays and objects stay on one line in every style.

Values are written however deep they are nested, and integers however long they are: the bounds of
an interpreter on the depth of its calls are not part of the printer, and its bound on the digits
of an integer is checked where an answer is saved.

`shown` and `quoted` write a value for a person instead: texts in quotation marks that show every
character, and the names `None`, `True` and `False`.
-/

namespace PageScript.Json

open PageScript.Text PageScript.Number

/-- The gaps of a written value. -/
structure Style where
  /-- What stands between two items. -/
  comma : List Char
  /-- What stands between a name and its value. -/
  colon : List Char
  /-- By how many columns a line is deeper than the one that holds it, where lines are broken. -/
  indent : Option Nat

/-- No gaps. -/
def Style.compact : Style := ⟨[','], [':'], none⟩

/-- A space after each comma and colon. -/
def Style.spaced : Style := ⟨[',', ' '], [':', ' '], none⟩

/-- A line for each item, two columns deeper. -/
def Style.indented : Style := ⟨[','], [':', ' '], some 2⟩

/-- The break before something at a depth. -/
def Style.lineBreak (style : Style) (depth : Nat) : List Char :=
  match style.indent with
  | none => []
  | some columns => '\n' :: List.replicate (columns * depth) ' '

/-! ### Texts -/

/-- One character inside a JSON text: only the quotation mark, the backslash and the control
characters of ASCII below the space are escaped. -/
def escapeChar (c : Char) : List Char :=
  if c = '"' ∨ c = '\\' then ['\\', c]
  else if c = '\n' then ['\\', 'n']
  else if c = '\r' then ['\\', 'r']
  else if c = '\t' then ['\\', 't']
  else if c = '\x0c' then ['\\', 'f']
  else if c = '\x08' then ['\\', 'b']
  else if c.toNat < 0x20 then '\\' :: 'u' :: hex 4 c.toNat
  else [c]

/-- A text as a JSON text. -/
def escaped (s : String) : List Char := '"' :: (s.toList.flatMap escapeChar ++ ['"'])

/-! ### Values -/

mutual
/-- A value, written at a depth. -/
def chars (style : Style) (depth : Nat) : Json → List Char
  | null => ['n', 'u', 'l', 'l']
  | bool true => ['t', 'r', 'u', 'e']
  | bool false => ['f', 'a', 'l', 's', 'e']
  | integer n => (writeInt n).toList
  | decimal x => (Layout.data.write x).toList
  | string s => escaped s
  | array [] => ['[', ']']
  | array (item :: items) =>
    '[' :: (style.lineBreak (depth + 1) ++ chars style (depth + 1) item
      ++ itemChars style (depth + 1) items ++ style.lineBreak depth ++ [']'])
  | object [] => ['\x7b', '\x7d']
  | object ((name, value) :: fields) =>
    '\x7b' :: (style.lineBreak (depth + 1) ++ escaped name ++ style.colon
      ++ chars style (depth + 1) value ++ fieldChars style (depth + 1) fields
      ++ style.lineBreak depth ++ ['\x7d'])

/-- The further items of an array. -/
def itemChars (style : Style) (depth : Nat) : List Json → List Char
  | [] => []
  | item :: items =>
    style.comma ++ style.lineBreak depth ++ chars style depth item
      ++ itemChars style depth items

/-- The further fields of an object. -/
def fieldChars (style : Style) (depth : Nat) : List (String × Json) → List Char
  | [] => []
  | (name, value) :: fields =>
    style.comma ++ style.lineBreak depth ++ escaped name ++ style.colon
      ++ chars style depth value ++ fieldChars style depth fields
end

/-- A value in a style. -/
def write (style : Style) (value : Json) : String := String.ofList (chars style 0 value)

/-- A value without gaps. -/
def compact (value : Json) : String := write .compact value

/-- A value with a line for each item and field. -/
def indented (value : Json) : String := write .indented value

/-! ### For a person -/

mutual
/-- A value with its texts in quotation marks. -/
def quotedChars : Json → List Char
  | null => ['N', 'o', 'n', 'e']
  | bool true => ['T', 'r', 'u', 'e']
  | bool false => ['F', 'a', 'l', 's', 'e']
  | integer n => (writeInt n).toList
  | decimal x => (Layout.plain.write x).toList
  | string s => (Text.quoted s).toList
  | array [] => ['[', ']']
  | array (item :: items) => '[' :: (quotedChars item ++ quotedItems items ++ [']'])
  | object [] => ['\x7b', '\x7d']
  | object ((name, value) :: fields) =>
    '\x7b' :: ((Text.quoted name).toList ++ ':' :: ' ' :: (quotedChars value
      ++ quotedFields fields ++ ['\x7d']))

/-- The further items of an array. -/
def quotedItems : List Json → List Char
  | [] => []
  | item :: items => ',' :: ' ' :: (quotedChars item ++ quotedItems items)

/-- The further fields of an object. -/
def quotedFields : List (String × Json) → List Char
  | [] => []
  | (name, value) :: fields =>
    ',' :: ' ' :: ((Text.quoted name).toList ++ ':' :: ' ' :: (quotedChars value
      ++ quotedFields fields))
end

/-- A value with its texts in quotation marks. -/
def quoted (value : Json) : String := String.ofList (quotedChars value)

/-- A value for a person: a text as it is, anything else as inside a list. -/
def shown : Json → String
  | string s => s
  | value => value.quoted

end PageScript.Json

import PageScript.Json.Basic
import PageScript.Number.Reader

/-!
# JSON tokens

`tokens` cuts a JSON text into tokens, each with the offset at which it starts; a token `finish`
stands at the end.  Nothing is refused here: what is no token becomes `junk`, and a text literal
that breaks the rules becomes a `fault` that knows what is wrong and where.  Whether that matters
is up to the reader, which may have a complaint of its own at an earlier place.

Besides the numbers of JSON, the names `NaN`, `Infinity` and `-Infinity` are read as numbers.
-/

namespace PageScript.Json

open PageScript.Text PageScript.Number

/-- What can be wrong with a JSON text. -/
inductive Complaint
  | expectingValue
  | expectingName
  | expectingColon
  | expectingComma
  | extraData
  | unterminatedText
  | controlCharacter
  | badEscape
  | badUnicodeEscape
  | byteOrderMark
  deriving DecidableEq, Repr

/-- The smallest parts of a JSON text. -/
inductive Token
  | openArray
  | closeArray
  | openObject
  | closeObject
  | comma
  | colon
  /-- A text literal. -/
  | text (s : String)
  /-- A number or one of the named constants. -/
  | literal (value : Json)
  /-- A whole number beyond the digit limit. -/
  | oversized (digits : Nat)
  /-- A text literal that breaks the rules, with the offset of the offence. -/
  | fault (complaint : Complaint) (offset : Nat)
  /-- Anything that starts no token. -/
  | junk
  /-- The end of the text. -/
  | finish

/-! ### Text literals -/

/-- The value of a hexadecimal digit. -/
def hexValue? (c : Char) : Option Nat :=
  if '0' ≤ c ∧ c ≤ '9' then some (c.toNat - 48)
  else if 'a' ≤ c ∧ c ≤ 'f' then some (c.toNat - 87)
  else if 'A' ≤ c ∧ c ≤ 'F' then some (c.toNat - 55)
  else none

/-- The number of four hexadecimal digits. -/
def hexNumber? (a b c d : Char) : Option Nat :=
  match hexValue? a, hexValue? b, hexValue? c, hexValue? d with
  | some w, some x, some y, some z => some (((w * 16 + x) * 16 + y) * 16 + z)
  | _, _, _, _ => none

/-- The character of a one-letter escape. -/
def escape? (c : Char) : Option Char :=
  if c = '"' ∨ c = '\\' ∨ c = '/' then some c
  else if c = 'b' then some '\x08'
  else if c = 'f' then some '\x0c'
  else if c = 'n' then some '\n'
  else if c = 'r' then some '\r'
  else if c = 't' then some '\t'
  else none

/-- Put a code in front of what was scanned. -/
def prepend (code : Nat) :
    Except (Complaint × Nat) (List Nat × Nat) → Except (Complaint × Nat) (List Nat × Nat) :=
  Except.map fun (codes, after) => (code :: codes, after)

/-- Scan the rest of a text literal that began at `start`; the scan stands at `offset`.  The
answer is the codes of the text and the offset behind the closing mark. -/
def scanText (start : Nat) : Nat → List Char → Except (Complaint × Nat) (List Nat × Nat)
  | _, [] => .error (.unterminatedText, start)
  | offset, '"' :: _ => .ok ([], offset + 1)
  | _, '\\' :: [] => .error (.unterminatedText, start)
  | offset, '\\' :: 'u' :: a :: b :: c :: d :: rest =>
    match hexNumber? a b c d with
    | some code =>
      if rest.isEmpty then .error (.badUnicodeEscape, offset + 1)
      else prepend code (scanText start (offset + 6) rest)
    | none => .error (.badUnicodeEscape, offset + 1)
  | offset, '\\' :: e :: rest =>
    if e = 'u' then .error (.badUnicodeEscape, offset + 1)
    else match escape? e with
      | some c => prepend c.toNat (scanText start (offset + 2) rest)
      | none => .error (.badEscape, offset)
  | offset, c :: rest =>
    if c.toNat < 0x20 then .error (.controlCharacter, offset)
    else prepend c.toNat (scanText start (offset + 1) rest)

/-- Join each pair of surrogate codes into one character; a surrogate on its own is replaced. -/
def joinSurrogates : List Nat → List Char
  | [] => []
  | [code] => [if 0xD800 ≤ code ∧ code < 0xE000 then '\ufffd' else Char.ofNat code]
  | high :: low :: rest =>
    if 0xD800 ≤ high ∧ high < 0xDC00 ∧ 0xDC00 ≤ low ∧ low < 0xE000 then
      Char.ofNat (0x10000 + (high - 0xD800) * 0x400 + (low - 0xDC00)) :: joinSurrogates rest
    else
      (if 0xD800 ≤ high ∧ high < 0xE000 then '\ufffd' else Char.ofNat high)
        :: joinSurrogates (low :: rest)

/-! ### Numbers -/

/-- The ten digits that JSON knows. -/
def isAsciiDigit (c : Char) : Bool := '0' ≤ c && c ≤ '9'

/-- The values of ASCII digits. -/
def asciiDigits (cs : List Char) : List Nat := cs.map (·.toNat - 48)

/-- The whole part in front: a zero, or digits that do not begin with one. -/
def wholePart (cs : List Char) : List Char :=
  match cs with
  | '0' :: _ => ['0']
  | _ => cs.takeWhile isAsciiDigit

/-- The places behind a point, where a point with at least one digit follows. -/
def placesPart : List Char → List Char
  | '.' :: cs => cs.takeWhile isAsciiDigit
  | _ => []

/-- The exponent, where one with at least one digit follows: the length of its mark and sign,
whether it is negative, and its digits. -/
def exponentPart : List Char → Nat × Bool × List Char
  | [] => (0, false, [])
  | c :: cs =>
    if c = 'e' ∨ c = 'E' then
      match cs with
      | '-' :: ds => (2, true, ds.takeWhile isAsciiDigit)
      | '+' :: ds => (2, false, ds.takeWhile isAsciiDigit)
      | ds => (1, false, ds.takeWhile isAsciiDigit)
    else (0, false, [])

/-- The number in front of a text, if there is one, and its length. -/
def number? (cs : List Char) : Option (Token × Nat) :=
  let (negative, signLength, unsigned) := match cs with
    | '-' :: rest => (true, 1, rest)
    | rest => (false, 0, rest)
  let whole := wholePart unsigned
  if whole.isEmpty then none
  else
    let afterWhole := unsigned.drop whole.length
    let places := placesPart afterWhole
    let placesLength := if places.isEmpty then 0 else places.length + 1
    let (markLength, negativeExponent, exponent) := exponentPart (afterWhole.drop placesLength)
    let exponentLength := if exponent.isEmpty then 0 else markLength + exponent.length
    let length := signLength + whole.length + placesLength + exponentLength
    if places.isEmpty && exponent.isEmpty then
      match wholeNumber negative (asciiDigits whole) with
      | .ok n => some (.literal (.integer n), length)
      | .error _ => some (.oversized whole.length, length)
    else
      let scale := signed negativeExponent (ofDigits (asciiDigits exponent))
      let value : DecimalText := ⟨negative, asciiDigits (whole ++ places), scale - places.length⟩
      some (.literal (.decimal value.toFloat), length)

/-! ### The lexer -/

/-- The blanks of JSON. -/
def isGap (c : Char) : Bool := c == ' ' || c == '\t' || c == '\n' || c == '\r'

/-- The named constants. -/
def constants : List (List Char × Json) :=
  [(['n', 'u', 'l', 'l'], .null), (['t', 'r', 'u', 'e'], .bool true),
   (['f', 'a', 'l', 's', 'e'], .bool false), (['N', 'a', 'N'], .decimal (0.0 / 0.0)),
   (['I', 'n', 'f', 'i', 'n', 'i', 't', 'y'], .decimal (1.0 / 0.0)),
   (['-', 'I', 'n', 'f', 'i', 'n', 'i', 't', 'y'], .decimal (-1.0 / 0.0))]

/-- The token at the front of a text that starts with `c`, and how many characters follow `c`
in it. -/
def token (offset : Nat) (c : Char) (cs : List Char) : Token × Nat :=
  if c = '[' then (.openArray, 0)
  else if c = ']' then (.closeArray, 0)
  else if c = '\x7b' then (.openObject, 0)
  else if c = '\x7d' then (.closeObject, 0)
  else if c = ',' then (.comma, 0)
  else if c = ':' then (.colon, 0)
  else if c = '"' then
    match scanText offset (offset + 1) cs with
    | .ok (codes, after) => (.text (String.ofList (joinSurrogates codes)), after - offset - 1)
    | .error (complaint, place) => (.fault complaint place, 0)
  else
    match constants.find? fun k => k.1.isPrefixOf (c :: cs) with
    | some (name, value) => (.literal value, name.length - 1)
    | none =>
      match number? (c :: cs) with
      | some (found, length) => (found, length - 1)
      | none => (.junk, 0)

/-- Cut a text into tokens, with `skip` characters still belonging to the last one. -/
def tokensFrom : (skip offset : Nat) → List Char → List (Nat × Token)
  | _, offset, [] => [(offset, .finish)]
  | skip + 1, offset, _ :: cs => tokensFrom skip (offset + 1) cs
  | 0, offset, c :: cs =>
    if isGap c then tokensFrom 0 (offset + 1) cs
    else
      let (found, more) := token offset c cs
      (offset, found) :: tokensFrom more (offset + 1) cs

/-- The tokens of a text with their offsets. -/
def tokens (cs : List Char) : List (Nat × Token) := tokensFrom 0 0 cs

end PageScript.Json

import PageScript.Number.Binary
import PageScript.Text.Blank
import PageScript.Text.DecimalDigit

/-!
# Reading numbers

Two grammars, over the decimal digits of every script:

* an *integer text* is an optional sign and at least one digit (`integerText?`);
* a *decimal text* is an optional sign, digits with an optional point, at least one digit in all,
  and an optional exponent, itself an integer text (`decimalText?`).

`parseInt` and `parseFloat` are the more generous readers for settings: blanks around the number,
single underscores between digits, and for `parseFloat` the names of the numbers that are not
finite.  Whole numbers of more than `digitLimit` digits are refused by all readers.
-/

namespace PageScript.Number

open PageScript.Text

/-- Whole numbers with more digits than this are not read. -/
def digitLimit : Nat := 4300

/-- Why something does not give the number that is asked for. -/
inductive Issue
  /-- A whole number with more digits than the limit. -/
  | tooManyDigits (count : Nat)
  /-- A text that is no whole number. -/
  | notAnInteger (text : String)
  /-- A text that is no number. -/
  | notANumber (text : String)
  /-- The undefined number has no whole part. -/
  | undefined
  /-- An infinite number has no whole part. -/
  | infinite
  /-- A whole number beyond the range of double precision. -/
  | tooLarge
  /-- Something of a kind, named here, that has no whole part. -/
  | noInteger (kind : String)
  /-- Something of a kind, named here, that is no number. -/
  | noNumber (kind : String)
  deriving DecidableEq, Repr

/-! ### The two grammars -/

/-- An optional sign in front: whether it is a minus, and what follows. -/
def takeSign : List Char → Bool × List Char
  | '-' :: cs => (true, cs)
  | '+' :: cs => (false, cs)
  | cs => (false, cs)

/-- The sign and the digits of an integer text. -/
def integerText? (cs : List Char) : Option (Bool × List Nat) :=
  let (negative, rest) := takeSign cs
  (digits? rest).map (negative, ·)

/-- A decimal text, taken apart: its value is `± digits · 10 ^ scale`. -/
structure DecimalText where
  negative : Bool
  digits : List Nat
  scale : Int
  deriving DecidableEq, Repr

/-- The exponent at the end of a decimal text. -/
def exponent? : List Char → Option Int
  | [] => some 0
  | c :: cs =>
    if c = 'e' ∨ c = 'E' then
      (integerText? cs).map fun (negative, ds) => signed negative (ofDigits ds)
    else none

/-- Take a decimal text apart. -/
def decimalText? (cs : List Char) : Option DecimalText :=
  let (negative, rest) := takeSign cs
  let whole := rest.takeWhile isDigit
  let (places, tail) := match rest.dropWhile isDigit with
    | '.' :: more => (more.takeWhile isDigit, more.dropWhile isDigit)
    | tail => ([], tail)
  match digits? (whole ++ places), exponent? tail with
  | some ds, some exponent => some ⟨negative, ds, exponent - places.length⟩
  | _, _ => none

/-! ### Values -/

/-- The whole number of a sign and digits, if it is within the limit. -/
def wholeNumber (negative : Bool) (ds : List Nat) : Except Issue Int :=
  if ds.length ≤ digitLimit then .ok (signed negative (ofDigits ds))
  else .error (.tooManyDigits ds.length)

/-- The double-precision number nearest to a decimal.  A decimal far beyond the range is settled
without computing its power of ten. -/
def DecimalText.toFloat (x : DecimalText) : Float :=
  let significand := ofDigits x.digits
  let magnitude : Float :=
    if significand = 0 ∨ x.scale + x.digits.length < -400 then 0.0
    else if 400 < x.scale then 1.0 / 0.0
    else Float.ofScientific significand (x.scale < 0) x.scale.natAbs
  if x.negative then -magnitude else magnitude

/-- The double-precision number nearest to a whole number. -/
def floatOfInt (n : Int) : Except Issue Float :=
  let x := DecimalText.toFloat ⟨n < 0, (Nat.toDigits 10 n.natAbs).map (·.toNat - 48), 0⟩
  if x.isInf then .error .tooLarge else .ok x

/-- The whole part of a number, toward zero. -/
def truncate (x : Float) : Except Issue Int :=
  match Binary.ofFloat x with
  | .undefined => .error .undefined
  | .infinite _ => .error .infinite
  | .finite negative m e =>
    let (num, den) := Binary.fraction m e
    .ok (signed negative (num / den))

/-! ### The generous readers -/

/-- Drop the underscores between two digits; any other underscore is a mistake. -/
def ungroup (afterDigit : Bool) : List Char → Option (List Char)
  | [] => some []
  | '_' :: cs =>
    match cs with
    | [] => none
    | d :: _ => if afterDigit && isDigit d then ungroup false cs else none
  | c :: cs => (ungroup (isDigit c) cs).map (c :: ·)

/-- The blanks that may stand around a number: all but the information separators. -/
def isMargin (c : Char) : Bool := isBlank c && !inRanges [(0x1c, 0x1f)] c

/-- Characters without the blanks around them. -/
def withoutMargins (cs : List Char) : List Char :=
  ((cs.dropWhile isMargin).reverse.dropWhile isMargin).reverse

/-- Digits and the underscores between them. -/
def isGrouped (c : Char) : Bool := isDigit c || c == '_'

/-- A whole number with blanks around it and underscores between its digits.  Too many digits in
front are refused whatever stands behind them. -/
def parseInt (text : String) : Except Issue Int :=
  let (negative, rest) := takeSign (withoutMargins text.toList)
  match (ungroup false (rest.takeWhile isGrouped)).bind digits? with
  | none => .error (.notAnInteger text)
  | some ds =>
    match wholeNumber negative ds with
    | .error issue => .error issue
    | .ok n => if (rest.dropWhile isGrouped).isEmpty then .ok n else .error (.notAnInteger text)

/-- The numbers that are not finite, by name, in any case. -/
def namedNumber? (cs : List Char) : Option Float :=
  let (negative, rest) := takeSign cs
  let name := String.ofList (rest.map Char.toLower)
  let magnitude : Option Float :=
    if name = "inf" ∨ name = "infinity" then some (1.0 / 0.0)
    else if name = "nan" then some (0.0 / 0.0)
    else none
  magnitude.map fun x => if negative then -x else x

/-- A number with blanks around it and underscores between its digits, or the name of one. -/
def parseFloat (text : String) : Except Issue Float :=
  let cs := withoutMargins text.toList
  match (ungroup false cs).bind decimalText? with
  | some x => .ok x.toFloat
  | none =>
    match namedNumber? cs with
    | some x => .ok x
    | none => .error (.notANumber text)

example : (parseInt " 1_000 ").toOption = some 1000 := by decide +kernel
example : (parseInt "1__0").toOption = none := by decide +kernel
example : (parseInt "-12x").toOption = none := by decide +kernel
example : decimalText? ".5e-3".toList = some ⟨false, [5], -4⟩ := by decide +kernel
example : decimalText? ".".toList = none := by decide +kernel

end PageScript.Number

import PageScript.Json.Basic
import PageScript.Number.Reader
import PageScript.Schema.Problem

/-!
# Checks for values and fields

The checks here are lenient in one place only: a truth value may also be written as the number 0 or
1 or as one of twelve words, in any case.  Other words and other whole numbers of 64 bits stand for
no truth value; any other number could not be one at all.

`record` lets an object through to the checks of its fields; fields that nobody asks for are passed
over.
-/

namespace PageScript.Schema

open PageScript.Number

/-- A text. -/
def text : Json → Checked String
  | .string s => .ok s
  | _ => .refuse .text

/-- A text, or nothing. -/
def textOrNull : Json → Checked (Option String)
  | .null => .ok none
  | .string s => .ok (some s)
  | _ => .refuse .text

/-! ### Truth values -/

/-- The words for yes. -/
def yesWords : List String := ["1", "on", "t", "true", "y", "yes"]

/-- The words for no. -/
def noWords : List String := ["0", "off", "f", "false", "n", "no"]

/-- The truth value of a word in any case. -/
def wordTruth (s : String) : Checked Bool :=
  let word := String.ofList (s.toList.map Char.toLower)
  if yesWords.contains word then .ok true
  else if noWords.contains word then .ok false
  else .refuse .truthReading

/-- Whether a whole number has 64 bits. -/
def fitsWord (n : Int) : Bool := -9223372036854775808 ≤ n && n ≤ 9223372036854775807

/-- The truth value of a whole number. -/
def integerTruth (n : Int) : Checked Bool :=
  if fitsWord n then
    if n = 0 then .ok false
    else if n = 1 then .ok true
    else .refuse .truthReading
  else .refuse .truth

/-- Whether a whole number lies strictly between the ends of 64 bits. -/
def insideWord (n : Int) : Bool := -9223372036854775808 < n && n < 9223372036854775808

/-- The truth value of a decimal number, which must be whole. -/
def decimalTruth (x : Float) : Checked Bool :=
  match truncate x, Binary.ofFloat x with
  | .ok n, .finite _ m e =>
    let (num, den) := Binary.fraction m e
    if num % den = 0 && insideWord n then integerTruth n else .refuse .truth
  | _, _ => .refuse .truth

/-- A truth value. -/
def truth : Json → Checked Bool
  | .bool b => .ok b
  | .string s => wordTruth s
  | .integer n => integerTruth n
  | .decimal x => decimalTruth x
  | _ => .refuse .truth

/-! ### Parts -/

/-- An array, whose items pass a check. -/
def list (check : Json → Checked α) : Json → Checked (List α)
  | .array items => Checked.all check 0 items
  | _ => .refuse .list

/-- An object that stands for itself. -/
def mapping : Json → Checked Json.Fields
  | .object fields => .ok fields
  | _ => .refuse .mapping

/-- The fields of an object. -/
def record : Json → Checked Json.Fields
  | .object fields => .ok fields
  | _ => .refuse .record

/-- A field that must be there. -/
def required (name : String) (check : Json → Checked α) (fields : Json.Fields) : Checked α :=
  match Json.get? name fields with
  | some value => .within name (check value)
  | none => .within name (.refuse .missing)

/-- A field that has a default. -/
def optional (name : String) (default : α) (check : Json → Checked α) (fields : Json.Fields) :
    Checked α :=
  match Json.get? name fields with
  | some value => .within name (check value)
  | none => .ok default

/-! ### Writing records -/

/-- A text, or nothing. -/
def ofText? : Option String → Json
  | some s => .string s
  | none => .null

/-- An object of fields; a sparse one leaves out the fields that hold nothing. -/
def dump (sparse : Bool) (fields : Json.Fields) : Json :=
  .object (if sparse then fields.filter fun (_, value) => !value matches .null else fields)

/-! ### Small facts -/

@[simp] theorem textOrNull_ofText? (s : Option String) : textOrNull (ofText? s) = .ok s := by
  cases s <;> rfl

end PageScript.Schema

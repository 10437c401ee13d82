import PageScript.Json.Printer
import PageScript.Number.Reader

/-!
# Argument values

The value of a command-line argument is absent, a flag, a whole number, a decimal number or a
text.  A flag is never a number, and an empty text counts as no value.
-/

namespace PageScript

open PageScript.Number

/-- The value of an argument. -/
inductive Value
  | absent
  | flag (b : Bool)
  | integer (n : Int)
  | decimal (x : Float)
  | text (s : String)
  deriving Inhabited

namespace Value

/-- Whole and decimal numbers. -/
def isNumber : Value → Bool
  | integer _ | decimal _ => true
  | _ => false

/-- Anything but absence and the empty text. -/
def isGiven : Value → Bool
  | absent => false
  | text s => s != ""
  | _ => true

/-- The text, if the value is one. -/
def text? : Value → Option String
  | text s => some s
  | _ => none

/-- A value among the JSON values. -/
def toJson : Value → Json
  | absent => .null
  | flag b => .bool b
  | integer n => .integer n
  | decimal x => .decimal x
  | text s => .string s

/-- Absence, false, zero and the empty text count as no; all else as yes. -/
def holds (v : Value) : Bool := v.toJson.holds

/-- The value for a person. -/
def shown (v : Value) : String := v.toJson.shown

/-- The value for a person, a text in quotation marks. -/
def quoted (v : Value) : String := v.toJson.quoted

/-- The value, or another one if it counts as no. -/
def orElse (v other : Value) : Value := if v.holds then v else other

/-- The whole number of a value: a flag is zero or one, a decimal number loses its places, a text
is read. -/
def toInt : Value → Except Issue Int
  | absent => .error (.noInteger Json.null.kind)
  | flag b => .ok (if b then 1 else 0)
  | integer n => .ok n
  | decimal x => truncate x
  | text s => parseInt s

/-- The double-precision number of a value. -/
def toFloat : Value → Except Issue Float
  | absent => .error (.noNumber Json.null.kind)
  | flag b => .ok (if b then 1.0 else 0.0)
  | integer n => floatOfInt n
  | decimal x => .ok x
  | text s => parseFloat s

/-- A number is given. -/
theorem isGiven_of_isNumber {v : Value} (h : v.isNumber = true) : v.isGiven = true := by
  cases v <;> simp_all [isNumber, isGiven]

end Value
end PageScript

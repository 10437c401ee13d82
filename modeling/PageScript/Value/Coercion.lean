import PageScript.Text.Lowercase
import PageScript.Value.Basic

/-!
# From raw texts to values

`Value.ofRaw` looks at a raw text without the blanks around it.  The words *true* and *false*, in
any case, become flags; an integer text becomes a whole number, another decimal text a decimal
number.  Every other raw text is kept as it came, blanks included.
-/

namespace PageScript.Value

open PageScript.Text PageScript.Number

/-- Read trimmed characters as a flag or a number, if they are one. -/
def ofTrimmed? (cs : List Char) : Except Issue (Option Value) :=
  let lowered := lowerChars cs
  if lowered = ['t', 'r', 'u', 'e'] then .ok (some (flag true))
  else if lowered = ['f', 'a', 'l', 's', 'e'] then .ok (some (flag false))
  else match integerText? cs with
    | some (negative, ds) => (wholeNumber negative ds).map fun n => some (integer n)
    | none => .ok ((decimalText? cs).map fun x => decimal x.toFloat)

/-- The value of a raw text. -/
def ofRaw (raw : String) : Except Issue Value :=
  (ofTrimmed? (trimChars raw.toList)).map fun found => found.getD (text raw)

/-- The value of a value: a text is read as a raw text, anything else stays. -/
def coerce : Value → Except Issue Value
  | text raw => ofRaw raw
  | v => .ok v

example : (ofRaw " TRUE ").toOption.map Value.quoted = some "True" := by decide +kernel
example : (ofRaw " -7 ").toOption.map Value.quoted = some "-7" := by decide +kernel
example : (ofRaw "1_000 ").toOption.map Value.quoted = some "'1_000 '" := by decide +kernel

end PageScript.Value

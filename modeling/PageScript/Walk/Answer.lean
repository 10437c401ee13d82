import PageScript.Act
import PageScript.Number.Reader

/-!
# Writing answers

An answer that is a text is written as it is, any other answer as JSON with a line for each part.
An integer of more than `digitLimit` digits has no written form, and it is found only when the
directories above the file are there.  Texts hold no lone surrogates, so a written form can always
be encoded.
-/

namespace PageScript

namespace Json

open PageScript.Number

mutual
/-- Whether a value holds an integer with too many digits to be written. -/
def overlong : Json → Bool
  | integer n => decide (digitLimit < (Nat.toDigits 10 n.natAbs).length)
  | array items => overlongItem items
  | object fields => overlongField fields
  | null | bool _ | decimal _ | string _ => false

/-- Whether one of some items holds such an integer. -/
def overlongItem : List Json → Bool
  | [] => false
  | item :: items => item.overlong || overlongItem items

/-- Whether one of some fields holds such an integer. -/
def overlongField : List (String × Json) → Bool
  | [] => false
  | (_, value) :: fields => value.overlong || overlongField fields
end

end Json

/-- The failure of an integer with too many digits to be written. -/
def Failure.overlong : Failure :=
  .outside .value <| some <|
    "Exceeds the limit (4300 digits) for integer string conversion; "
      ++ "use sys.set_int_max_str_digits() to increase the limit"

/-- The written form of an answer, if it has one. -/
def answerText : Json → String
  | .string s => s
  | value => value.indented

/-- Why an answer has no written form. -/
def answerRefusal (answer : Json) : Option Failure :=
  if answer.overlong then some .overlong else none

/-- Write an answer to a file, with the directories above it. -/
def saveAnswer (path : String) (value : Json) : Act σ Unit := do
  let path := File.Path.ofString path
  Act.ask (.makeDirectories path.parent)
  match answerRefusal value with
  | some failure => Act.fail failure
  | none => Act.ask (.write path (answerText value))

end PageScript

import PageScript.Schema.Check

/-!
# Verdicts and envelopes

A verdict says whether an assertion holds, and may give a thought.  The truth value is the field
`pass`, or the field `passed` where there is no `pass`.  An envelope holds the answer to a query.
-/

namespace PageScript.Model

open PageScript.Schema

/-- What a model says about an assertion. -/
structure Verdict where
  passed : Bool
  thought : String
  deriving DecidableEq, Repr

namespace Verdict

/-- The truth value among the fields of a verdict. -/
def checkPassed (fields : Json.Fields) : Checked Bool :=
  match Json.get? "pass" fields, Json.get? "passed" fields with
  | none, some value => .within "passed" (truth value)
  | _, _ => required "pass" truth fields

/-- A verdict from data. -/
def check (data : Json) : Checked Verdict := do
  let fields ← record data
  let (passed, thought) ← Checked.both (checkPassed fields) (optional "thought" "" text fields)
  return ⟨passed, thought⟩

/-- A verdict as data. -/
def dump (sparse : Bool) (v : Verdict) : Json :=
  Schema.dump sparse [("passed", .bool v.passed), ("thought", .string v.thought)]

end Verdict

/-- The answer of a model to a query. -/
structure Envelope where
  data : Json

namespace Envelope

/-- An envelope from data; one without an answer holds nothing. -/
def check (data : Json) : Checked Envelope := do
  let fields ← record data
  let data ← optional "data" .null .ok fields
  return ⟨data⟩

/-- An envelope as data. -/
def dump (sparse : Bool) (e : Envelope) : Json := Schema.dump sparse [("data", e.data)]

end Envelope
end PageScript.Model

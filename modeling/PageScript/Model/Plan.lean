import PageScript.Json.Printer
import PageScript.Schema.Check
import PageScript.Text.Lowercase

/-!
# Plans

A plan lists the page operations that a model has chosen for an instruction.  The kind of a step
is taken without the blanks around it and in lower case.  A value that is no text is taken as a
person would read it, but nothing stays nothing.
-/

namespace PageScript.Model

open PageScript.Schema PageScript.Text

/-- A page operation that a model has chosen. -/
structure PlannedStep where
  kind : String
  selector : Option String
  value : Option String
  deriving DecidableEq, Repr

namespace PlannedStep

/-- The kind that a text names. -/
def kindOf (s : String) : String := lower (trim s)

/-- The value of a step as a text. -/
def valueOf : Json → Option String
  | .null => none
  | value => some value.shown

/-- A step from data. -/
def check (data : Json) : Checked PlannedStep := do
  let fields ← record data
  let (kind, selector, value) ←
    Checked.both (required "type" text fields)
      (Checked.both (optional "selector" none textOrNull fields)
        (optional "value" none (fun v => .ok (valueOf v)) fields))
  return ⟨kindOf kind, selector, value⟩

/-- A step as data. -/
def dump (sparse : Bool) (s : PlannedStep) : Json :=
  Schema.dump sparse
    [("type", .string s.kind), ("selector", ofText? s.selector), ("value", ofText? s.value)]

end PlannedStep

/-- The operations that a model has chosen. -/
structure Plan where
  steps : List PlannedStep
  deriving DecidableEq, Repr

namespace Plan

/-- A plan from data. -/
def check (data : Json) : Checked Plan := do
  let fields ← record data
  let steps ← optional "steps" [] (list PlannedStep.check) fields
  return ⟨steps⟩

/-- A plan as data. -/
def dump (sparse : Bool) (p : Plan) : Json :=
  Schema.dump sparse [("steps", .array (p.steps.map (·.dump sparse)))]

end Plan
end PageScript.Model

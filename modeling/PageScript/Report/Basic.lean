import PageScript.Value.Basic

/-!
# The report of a run

A report records what a run does: a step for every argument that the run comes to, numbered from
one, and the artifacts that it leaves.  Only the newest step ever changes, and it changes only
when it is finished.
-/

namespace PageScript

namespace Report

/-- How a step stands.  A run only comes to the first three; a report may say anything. -/
inductive Standing
  | running
  | passed
  | failed
  | other (text : String)
  deriving DecidableEq, Repr

/-- The name of a standing. -/
def Standing.text : Standing → String
  | running => "running"
  | passed => "passed"
  | failed => "failed"
  | other text => text

/-- The record of a step; times are in seconds. -/
structure Step where
  index : Nat
  name : String
  value : Value
  started : Float
  ended : Option Float := none
  standing : Standing := .running
  error : Option String := none

/-- Something that a run leaves behind. -/
structure Artifact where
  kind : String
  path : String
  deriving DecidableEq, Repr

end Report

/-- The report of a run. -/
structure Report where
  url : Option String
  browser : Value
  headed : Bool
  started : Float
  steps : List Report.Step := []
  artifacts : List Report.Artifact := []
  status : String := "running"
  error : Option String := none

namespace Report

/-- Finish a step.  An empty error is none, and does not replace an earlier one. -/
def Step.finish (s : Step) (standing : Standing) (error : Option String) (time : Float) : Step :=
  { s with
    ended := some time
    standing
    error := match error with
      | none | some "" => s.error
      | some text => some text }

/-- Change the last member of a list. -/
def changeLast (f : α → α) : List α → List α
  | [] => []
  | [x] => [f x]
  | x :: y :: rest => x :: changeLast f (y :: rest)

/-- Begin a step. -/
def record (r : Report) (name : String) (value : Value) (time : Float) : Report :=
  { r with steps := r.steps ++ [{ index := r.steps.length + 1, name, value, started := time }] }

/-- Finish the newest step. -/
def finish (r : Report) (standing : Standing) (error : Option String) (time : Float) : Report :=
  { r with steps := changeLast (·.finish standing error time) r.steps }

/-- Add an artifact. -/
def attach (r : Report) (kind path : String) : Report :=
  { r with artifacts := r.artifacts ++ [⟨kind, path⟩] }

/-- Close the report. -/
def close (r : Report) (status : String) (error : Option String) : Report :=
  { r with status, error }

/-! ### Small facts -/

@[simp] theorem length_changeLast (f : α → α) (xs : List α) :
    (changeLast f xs).length = xs.length := by
  fun_induction changeLast f xs <;> simp_all

@[simp] theorem changeLast_concat (f : α → α) (xs : List α) (x : α) :
    changeLast f (xs ++ [x]) = xs ++ [f x] := by
  induction xs with
  | nil => rfl
  | cons y ys ih =>
    cases ys with
    | nil => rfl
    | cons z zs => simpa [changeLast] using ih

/-- Finishing the step just begun changes that step alone. -/
theorem finish_record (r : Report) (name : String) (value : Value) (started : Float)
    (standing : Standing) (error : Option String) (ended : Float) :
    ((r.record name value started).finish standing error ended).steps =
      r.steps ++ [Step.finish { index := r.steps.length + 1, name, value, started }
        standing error ended] := by
  simp [record, finish]

end Report
end PageScript

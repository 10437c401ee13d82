import PageScript.Report.Notice
import PageScript.Walk.Dispatch

/-!
# Walking an argument sequence

A walk takes the arguments one by one.  Each is announced, admitted by the phase, carried out and
recorded; the answer of a query is told after its step is complete.  The first failure ends the
walk, and what was done before it stays.
-/

namespace PageScript

/-- A state with the report that belongs to it. -/
structure Walk where
  state : Walk.State := {}
  report : Report

namespace Walk

/-- End at an argument that failed. -/
def failAt (w : Walk) (phase : Phase) (a : Argument) (failure : Failure) : Act σ Walk := do
  let report ← w.report.failed a failure
  return { state := w.state.fail phase a failure, report }

/-- Record a step that is complete, and tell its answer. -/
def completeAt (w : Walk) (phase : Phase) (a : Argument) (pending : Option String)
    (answer : Json) : Act σ Walk := do
  let state := w.state.complete phase pending
  let report ← w.report.completed a
  Act.emit (.checkpoint state.checkpoint)
  if a.name = "query" then Report.answer answer
  return { state, report }

/-- Take one argument: where the walk stands then, and whether it goes on. -/
def step (partners : Partners σ) (w : Walk) (a : Argument) : Act σ (Walk × Bool) := do
  let w := { w with report := ← w.report.progress a }
  match w.state.phase.advance a.name with
  | .error failure => return (← w.failAt w.state.phase a failure, false)
  | .ok phase =>
    match ← (dispatch partners w.state.pending a).attempt with
    | .error failure => return (← w.failAt phase a failure, false)
    | .ok (pending, answer) => return (← w.completeAt phase a pending answer, true)

/-- Take the arguments of a sequence, up to the first that fails. -/
def run (partners : Partners σ) (w : Walk) : List Argument → Act σ Walk
  | [] => return { w with state := w.state.finish }
  | a :: rest => do
    let (w, goesOn) ← w.step partners a
    if goesOn then run partners w rest else return w

end Walk
end PageScript

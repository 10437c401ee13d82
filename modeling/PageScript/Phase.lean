import PageScript.Failure

/-!
# The phases of a run

A run is *configuring* until its first action and *acting* from then on.  While it is acting, only
actions are allowed.  `Status` says how far the run has come.
-/

namespace PageScript

/-- What kind of arguments a run has come to. -/
inductive Phase
  | configuring
  | acting
  deriving DecidableEq, Repr

/-- How far a run has come. -/
inductive Status
  | running
  | completed
  | failed
  deriving DecidableEq, Repr

namespace Phase

/-- The name of a phase. -/
def text : Phase → String
  | configuring => "configuring"
  | acting => "acting"

/-- The phase with a name. -/
def ofText (s : String) : Except Failure Phase :=
  if s = configuring.text then .ok configuring
  else if s = acting.text then .ok acting
  else .error (.unknownPhase s)

/-- The phase after an argument name. -/
def advance (phase : Phase) (name : String) : Except Failure Phase :=
  if isActionName name then .ok acting
  else match phase with
    | configuring => .ok configuring
    | acting => .error (.outOfOrder name)

/-! ### Small facts -/

@[simp] theorem ofText_text (phase : Phase) : ofText phase.text = .ok phase := by
  cases phase <;> simp [ofText, text]

/-- A phase refuses a name exactly when it is acting and the name is no action. -/
theorem advance_eq_error_iff {phase : Phase} {name : String} {f : Failure} :
    phase.advance name = .error f ↔
      phase = acting ∧ isActionName name = false ∧ f = .outOfOrder name := by
  cases phase <;> cases h : isActionName name <;> simp [advance, h, eq_comm]

/-- After an action a run is acting. -/
theorem advance_of_isActionName (phase : Phase) {name : String} (h : isActionName name = true) :
    phase.advance name = .ok acting := by
  simp [advance, h]

end Phase

/-- The name of a status. -/
def Status.text : Status → String
  | running => "running"
  | completed => "completed"
  | failed => "failed"

end PageScript

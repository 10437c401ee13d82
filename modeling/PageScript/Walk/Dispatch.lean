import PageScript.Walk.State

/-!
# Carrying out an argument

An action goes to the agent, or sets the path for the next answer, or lets time pass; a preference
needs nothing.  An action, assertion, query or path must be a text that is not empty.

A failure of the agent is passed on if it is an agent's failure, and otherwise wrapped in one.
-/

namespace PageScript.Walk

/-- Those who work for a walk. -/
structure Partners (σ : Type) where
  /-- Carries out instructions. -/
  agent : Capability → String → Act σ Json
  /-- Keeps an answer under a path. -/
  keeper : String → Json → Act σ Unit

/-- What an argument's name asks for. -/
inductive Task
  | consult (capability : Capability)
  | setPath
  | pause
  deriving DecidableEq, Repr

/-- The task of a name. -/
def Task.ofName? (name : String) : Option Task :=
  if name = "action" then some (.consult .action)
  else if name = "assert" then some (.consult .assertion)
  else if name = "query-output" then some .setPath
  else if name = "query" then some (.consult .query)
  else if name = "sleep" then some .pause
  else none

/-- The text of an argument, which must have one. -/
def requireText (a : Argument) : Except Failure String :=
  if a.value.isGiven then
    match a.value with
    | .text s => .ok s
    | other => .error (.wrongType a.name "string" other)
  else .error (.missingValue a.name a.value)

/-- The failure of an agent. -/
def agentFailure (failure : Failure) : Failure :=
  if failure.isAgent then failure else .agentCall failure

/-- Ask the agent; whatever fails is an agent's failure. -/
def consult (partners : Partners σ) (capability : Capability) (instruction : String) :
    Act σ Json :=
  (partners.agent capability instruction).rescue (fun _ => true)
    fun failure => Act.fail (agentFailure failure)

/-- The seconds that a sleep takes: none unless its milliseconds are positive. -/
def sleepSeconds (milliseconds : Float) : Float :=
  (if 0.0 < milliseconds then milliseconds else 0.0) / 1000.0

/-- Let the time of an argument pass. -/
def pause (a : Argument) : Act σ Unit :=
  if !a.value.isGiven then return ()
  else if !a.value.isNumber then Act.fail (.wrongType a.name "number" a.value)
  else do
    let milliseconds ← Act.ofExcept (a.value.toFloat.mapError .number)
    Act.ask (.sleep (sleepSeconds milliseconds))

/-- Give an answer to the keeper if a path is pending, which it is no longer then. -/
def keep (partners : Partners σ) (pending : Option String) (answer : Json) :
    Act σ (Option String) :=
  match pending with
  | none | some "" => return pending
  | some path => do
    partners.keeper path answer
    return none

/-- Carry out an argument: the path that is pending then, and the answer of a query. -/
def dispatch (partners : Partners σ) (pending : Option String) (a : Argument) :
    Act σ (Option String × Json) :=
  match Task.ofName? a.name with
  | none => return (pending, .null)
  | some .setPath => do
    let path ← Act.ofExcept (requireText a)
    return (some path, .null)
  | some .pause => do
    pause a
    return (pending, .null)
  | some (.consult .query) => do
    let instruction ← Act.ofExcept (requireText a)
    let answer ← consult partners .query instruction
    let pending ← keep partners pending answer
    return (pending, answer)
  | some (.consult capability) => do
    let instruction ← Act.ofExcept (requireText a)
    let _ ← consult partners capability instruction
    return (pending, .null)

/-! ### Small facts -/

/-- The names with a task are the actions. -/
theorem isSome_ofName?_iff (name : String) :
    (Task.ofName? name).isSome = true ↔ isActionName name = true := by
  simp only [Task.ofName?, isActionName, actionNames, List.contains_eq_mem, List.mem_cons,
    List.not_mem_nil, or_false, decide_eq_true_eq]
  constructor
  · intro h
    repeat' split at h
    all_goals simp_all
  · rintro (rfl | rfl | rfl | rfl | rfl) <;> decide

end PageScript.Walk

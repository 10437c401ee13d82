import PageScript.Act

/-!
# The state of a walk

A walk goes through an argument sequence once.  Its state says in which phase it is, whether an
answer is to be written to a file, how many steps are complete and what failed last.  The state
outlives a walk, so that a further walk goes on from it.
-/

namespace PageScript.Walk

/-- Where a walk stands. -/
structure State where
  phase : Phase := .configuring
  status : Status := .running
  /-- The path to which the next answer is written. -/
  pending : Option String := none
  lastError : Option Failure := none
  /-- The argument at which a walk failed last. -/
  failed : Option Argument := none
  /-- The number of completed steps. -/
  completed : Nat := 0

namespace State

/-- The exit code of a program that ends in a state. -/
def exitCode (s : State) : Nat := if s.lastError.isSome then 1 else 0

/-- What is shown of a state after a step. -/
def checkpoint (s : State) : Checkpoint := ⟨s.phase, s.status, s.pending, s.completed⟩

/-- The state after a completed step, which leaves a path pending or not. -/
def complete (s : State) (phase : Phase) (pending : Option String) : State :=
  { s with phase, pending, completed := s.completed + 1 }

/-- The state after a step that failed, in a phase. -/
def fail (s : State) (phase : Phase) (a : Argument) (failure : Failure) : State :=
  { s with phase, status := .failed, lastError := some failure, failed := some a }

/-- The state at the end of the sequence. -/
def finish (s : State) : State := { s with status := .completed }

/-! ### Small facts -/

@[simp] theorem pending_fail (s : State) (phase : Phase) (a : Argument) (failure : Failure) :
    (s.fail phase a failure).pending = s.pending := rfl

@[simp] theorem completed_fail (s : State) (phase : Phase) (a : Argument) (failure : Failure) :
    (s.fail phase a failure).completed = s.completed := rfl

@[simp] theorem exitCode_fail (s : State) (phase : Phase) (a : Argument) (failure : Failure) :
    (s.fail phase a failure).exitCode = 1 := rfl

end State
end PageScript.Walk

import PageScript.Proofs.Act

/-!
# What a trace shows of the browser

`attempts` takes from the events of a computation those that reach the browser, in order, and says
of each which stage of the browser's life it is and whether it succeeded.  Anything that is done to
a browser between its start and its end is a stage like any other.
-/

namespace PageScript

open PageScript.Browser

namespace Browser

/-- The stages of a browser's life. -/
inductive Stage
  | start
  | launch
  | use
  | closeContext
  | closeBrowser
  | stop
  deriving DecidableEq, Repr

/-- The stage to which a command belongs. -/
def Command.stage : Command → Stage
  | .start => .start
  | .launch .. => .launch
  | .closeContext => .closeContext
  | .closeBrowser => .closeBrowser
  | .stop => .stop
  | _ => .use

/-- Something that the browser was told to do or to read. -/
structure Attempt where
  stage : Stage
  succeeded : Bool
  deriving DecidableEq, Repr

end Browser

/-- The stage of a request that reaches the browser. -/
def Request.stage? : Request → Option Stage
  | .command c => some c.stage
  | .title | .count _ | .innerText _ | .attributeOf _ _ => some .use
  | _ => none

/-- The attempt that an event shows. -/
def Event.attempt? : Event → Option Attempt
  | .request r refusal => r.stage?.map fun stage => ⟨stage, refusal.isNone⟩
  | _ => none

/-- The attempts that events show. -/
def attempts (events : List Event) : List Attempt := events.filterMap Event.attempt?

@[simp] theorem attempts_nil : attempts [] = [] := rfl

@[simp] theorem attempts_append (events more : List Event) :
    attempts (events ++ more) = attempts events ++ attempts more := List.filterMap_append

/-- The report that an event closes. -/
def Event.closing? : Event → Option Report
  | .closed report => some report
  | _ => none

/-- The reports that are closed, in order. -/
def closings (events : List Event) : List Report := events.filterMap Event.closing?

@[simp] theorem closings_append (events more : List Event) :
    closings (events ++ more) = closings events ++ closings more := List.filterMap_append

namespace Event

/-- What does not close a report. -/
def LeavesReports (e : Event) : Prop := e.closing? = none

/-- What neither reaches the browser nor closes a report. -/
def IsApart (e : Event) : Prop := e.attempt? = none ∧ e.closing? = none

/-- What neither starts nor ends a browser, nor closes a report. -/
def IsWork (e : Event) : Prop :=
  (∀ attempt, e.attempt? = some attempt → attempt.stage = .use) ∧ e.closing? = none

theorem IsApart.isWork {e : Event} (h : e.IsApart) : e.IsWork := by
  refine ⟨fun attempt hattempt => ?_, h.2⟩
  rw [h.1] at hattempt
  cases hattempt

theorem isWork_request {r : Request} (h : r.stage? = none ∨ r.stage? = some .use)
    (refusal : Option Failure) : (request r refusal).IsWork := by
  refine ⟨fun attempt hattempt => ?_, rfl⟩
  rcases h with h | h
  · simp [attempt?, h] at hattempt
  · simp only [attempt?, h, Option.map_some, Option.some.injEq] at hattempt
    subst hattempt
    rfl

end Event

section Only

open Act

variable {σ α : Type} {x : Act σ α}

theorem attempts_of_isApart (h : Only Event.IsApart x) (host : Host σ) (w : σ) :
    attempts (x host w).events = [] :=
  List.filterMap_eq_nil_iff.mpr fun e he => (h host w e he).1

theorem closings_of_leavesReports (h : Only Event.LeavesReports x) (host : Host σ) (w : σ) :
    closings (x host w).events = [] :=
  List.filterMap_eq_nil_iff.mpr fun e he => h host w e he

theorem stage_of_isWork (h : Only Event.IsWork x) (host : Host σ) (w : σ) {attempt : Attempt}
    (hattempt : attempt ∈ attempts (x host w).events) : attempt.stage = .use := by
  obtain ⟨e, he, hsome⟩ := List.mem_filterMap.mp hattempt
  exact (h host w e he).1 attempt hsome

theorem Act.Only.leavesReports (h : Only Event.IsWork x) : Only Event.LeavesReports x :=
  h.mono fun _ he => he.2

theorem Act.Only.isWork (h : Only Event.IsApart x) : Only Event.IsWork x :=
  h.mono fun _ he => he.isWork

theorem only_say (line : String) : Only Event.IsApart (say line : Act σ Unit) :=
  .emit ⟨rfl, rfl⟩

theorem only_use {r : Request} (h : r.stage? = none ∨ r.stage? = some .use) :
    Only Event.IsWork (ask r : Act σ r.Answer) :=
  .ask (Event.isWork_request h)

theorem only_command {c : Command} (h : c.stage = .use) :
    Only Event.IsWork (command c : Act σ Unit) :=
  only_use (.inr (congrArg some h))

/-- A command is attempted once, and the attempt succeeds if the command does. -/
theorem command_cases (c : Command) (host : Host σ) (w : σ) :
    (∃ events w', command c host w = ⟨.ok (), events, w'⟩ ∧ attempts events = [⟨c.stage, true⟩]) ∨
      ∃ failure events w', command c host w = ⟨.error failure, events, w'⟩ ∧
        attempts events = [⟨c.stage, false⟩] := by
  rcases command_done_or_refused c host w with ⟨w', h⟩ | ⟨failure, w', h⟩
  · exact .inl ⟨_, w', h, rfl⟩
  · exact .inr ⟨failure, _, w', h, rfl⟩

theorem exists_attempts_command (c : Command) (host : Host σ) (w : σ) :
    ∃ succeeded, attempts (command c host w).events = [⟨c.stage, succeeded⟩] := by
  rcases command_cases c host w with ⟨events, w', h, hattempts⟩ | ⟨_, events, w', h, hattempts⟩
  all_goals
    rw [h]
    exact ⟨_, hattempts⟩

end Only

end PageScript

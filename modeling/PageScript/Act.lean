import PageScript.Browser.Command
import PageScript.File.Path
import PageScript.Model.Exchange
import PageScript.Phase
import PageScript.Report.Basic

/-!
# Acting on the surroundings

The program works on surroundings that it does not control: a browser, a server, files, a clock, an
agent.  A `Host` answers its requests, and each answer may change the state of the surroundings.
The library that checks data belongs to them too, as far as it words its complaints.
`Act σ α` is a computation that consults a host with states `σ`.  Its `Outcome` holds the result or
the failure, the state in which the surroundings are left, and every event on the way, in order.

An event is never lost: a failure ends a computation but keeps the events so far.
-/

namespace PageScript

/-- What an agent can be asked to do. -/
inductive Capability
  | action
  | assertion
  | query
  deriving DecidableEq, Repr

/-- What the surroundings are asked for. -/
inductive Request
  /-- The browser carries out a command. -/
  | command (c : Browser.Command)
  /-- The title of the page. -/
  | title
  /-- The number of elements. -/
  | count (l : Browser.Locator)
  /-- The visible text of an element. -/
  | innerText (l : Browser.Locator)
  /-- An attribute of an element. -/
  | attributeOf (l : Browser.Locator) (name : String)
  /-- The server is asked for an address; it may take some seconds. -/
  | get (url : String) (seconds : Float)
  /-- The server is asked a question; it may take some seconds to connect and to answer. -/
  | post (url : String) (question : Model.Question) (connect : Int) (answer : Value)
  /-- Time passes. -/
  | sleep (seconds : Float)
  /-- An agent from outside carries out an instruction. -/
  | agent (capability : Capability) (instruction : String)
  /-- A model from outside completes a prompt. -/
  | complete (prompt : String)
  /-- An answer goes to somebody outside who keeps it under a path. -/
  | deliver (path text : String)
  /-- A directory is made, with those above it. -/
  | makeDirectories (path : File.Path)
  /-- A file is written. -/
  | write (path : File.Path) (text : String)

/-- What answers a request. -/
abbrev Request.Answer : Request → Type
  | .command _ => Unit
  | .title => Option String
  | .count _ => Int
  | .innerText _ => String
  | .attributeOf _ _ => Option String
  | .get _ _ => Model.Response
  | .post _ _ _ _ => Model.Response
  | .sleep _ => Unit
  | .agent _ _ => Json
  | .complete _ => String
  | .deliver _ _ => Unit
  | .makeDirectories _ => Unit
  | .write _ _ => Unit

/-- How a run stands after a completed step. -/
structure Checkpoint where
  phase : Phase
  status : Status
  pending : Option String
  completed : Nat
  deriving DecidableEq, Repr

/-- Something that happened. -/
inductive Event
  /-- A text went to the console. -/
  | console (text : String)
  /-- A notice of the report was given. -/
  | notice (text : String)
  /-- A request was made, and perhaps refused. -/
  | request (r : Request) (refusal : Option Failure)
  /-- A step was completed. -/
  | checkpoint (c : Checkpoint)
  /-- A report was closed. -/
  | closed (report : Report)

/-- Surroundings with states `σ`. -/
structure Host (σ : Type) where
  /-- The time in seconds. -/
  now : σ → Float × σ
  /-- The address of the page. -/
  address : σ → String
  /-- What the checker of data says of data that it refuses, by the name of the schema. -/
  wording : String → Json → String
  /-- The answer to a request, or the reason why there is none. -/
  answer : (r : Request) → σ → Except Failure r.Answer × σ

/-- How a computation ended. -/
structure Outcome (σ α : Type) where
  result : Except Failure α
  events : List Event
  world : σ

/-- A computation that consults a host. -/
def Act (σ α : Type) : Type := Host σ → σ → Outcome σ α

namespace Act

/-- Do nothing and give a result. -/
def done (a : α) : Act σ α := fun _ w => ⟨.ok a, [], w⟩

/-- Go on with the result, unless there is none. -/
def andThen (x : Act σ α) (f : α → Act σ β) : Act σ β := fun host w =>
  match x host w with
  | ⟨.error failure, events, w⟩ => ⟨.error failure, events, w⟩
  | ⟨.ok a, events, w⟩ =>
    let rest := f a host w
    ⟨rest.result, events ++ rest.events, rest.world⟩

instance : Monad (Act σ) where
  pure := done
  bind := andThen

/-- End with a failure. -/
def fail (failure : Failure) : Act σ α := fun _ w => ⟨.error failure, [], w⟩

/-- Give a result that may be a failure. -/
def ofExcept : Except Failure α → Act σ α
  | .ok a => done a
  | .error failure => fail failure

/-- Make a failure a result. -/
def attempt (x : Act σ α) : Act σ (Except Failure α) := fun host w =>
  let outcome := x host w
  ⟨.ok outcome.result, outcome.events, outcome.world⟩

/-- Go on after the failures that a predicate holds of. -/
def rescue (x : Act σ α) (p : Failure → Bool) (handler : Failure → Act σ α) : Act σ α := do
  match ← x.attempt with
  | .ok a => return a
  | .error failure => if p failure then handler failure else fail failure

/-- Do something in any case, and end as before unless that fails. -/
def finally_ (x : Act σ α) (cleanup : Act σ Unit) : Act σ α := do
  let result ← x.attempt
  cleanup
  ofExcept result

/-- Record an event. -/
def emit (event : Event) : Act σ Unit := fun _ w => ⟨.ok (), [event], w⟩

/-- Print a line. -/
def say (line : String) : Act σ Unit := emit (.console (line ++ "\n"))

/-- Give a notice. -/
def notify (line : String) : Act σ Unit := emit (.notice line)

/-- Make a request. -/
def ask (r : Request) : Act σ r.Answer := fun host w =>
  match host.answer r w with
  | (.ok answer, w) => ⟨.ok answer, [.request r none], w⟩
  | (.error failure, w) => ⟨.error failure, [.request r (some failure)], w⟩

/-- Give a command to the browser. -/
def command (c : Browser.Command) : Act σ Unit := ask (.command c)

/-- The time in seconds. -/
def now : Act σ Float := fun host w =>
  let (time, w) := host.now w
  ⟨.ok time, [], w⟩

/-- The address of the page. -/
def address : Act σ String := fun host w => ⟨.ok (host.address w), [], w⟩

/-- What the checker says of data that does not fit a schema. -/
def complaint (schema : String) (data : Json) : Act σ String := fun host w =>
  ⟨.ok (host.wording schema data), [], w⟩

/-! ### Small facts -/

@[simp] theorem pure_apply (a : α) (host : Host σ) (w : σ) :
    (pure a : Act σ α) host w = ⟨.ok a, [], w⟩ := rfl

@[simp] theorem fail_apply (failure : Failure) (host : Host σ) (w : σ) :
    (fail failure : Act σ α) host w = ⟨.error failure, [], w⟩ := rfl

/-- Going on is what the outcome of the first computation says. -/
theorem bind_apply (x : Act σ α) (f : α → Act σ β) (host : Host σ) (w : σ) :
    (x >>= f) host w = andThen x f host w := rfl

@[simp] theorem attempt_apply (x : Act σ α) (host : Host σ) (w : σ) :
    x.attempt host w = ⟨.ok (x host w).result, (x host w).events, (x host w).world⟩ := rfl

/-- A failure ends a computation, and its events are kept. -/
theorem bind_of_error {x : Act σ α} {host : Host σ} {w : σ} {failure : Failure}
    (h : (x host w).result = .error failure) (f : α → Act σ β) :
    (x >>= f) host w = ⟨.error failure, (x host w).events, (x host w).world⟩ := by
  rw [bind_apply, andThen]
  generalize x host w = outcome at h
  obtain ⟨result, events, world⟩ := outcome
  subst h
  rfl

/-- A result is passed on, and the events are put behind one another. -/
theorem bind_of_ok {x : Act σ α} {host : Host σ} {w : σ} {a : α}
    (h : (x host w).result = .ok a) (f : α → Act σ β) :
    (x >>= f) host w =
      ⟨(f a host (x host w).world).result,
        (x host w).events ++ (f a host (x host w).world).events,
        (f a host (x host w).world).world⟩ := by
  rw [bind_apply, andThen]
  generalize x host w = outcome at h
  obtain ⟨result, events, world⟩ := outcome
  subst h
  rfl

/-- Going on twice is going on with what goes on. -/
theorem bind_bind (x : Act σ α) (f : α → Act σ β) (g : β → Act σ γ) :
    (x >>= f) >>= g = x >>= fun a => f a >>= g := by
  funext host w
  simp only [bind_apply, andThen]
  rcases x host w with ⟨_ | a, events, w⟩
  · rfl
  · dsimp only
    rcases f a host w with ⟨_ | b, more, w⟩
    · rfl
    · simp only [List.append_assoc]

/-- Doing nothing first changes nothing. -/
theorem pure_bind_eq (a : α) (f : α → Act σ β) : (pure a : Act σ α) >>= f = f a := by
  funext host w
  simp [bind_apply, andThen]

/-- Doing nothing afterwards changes nothing. -/
theorem bind_pure_eq (x : Act σ α) : (x >>= fun a => pure a) = x := by
  funext host w
  rw [bind_apply, andThen]
  rcases x host w with ⟨_ | a, events, w⟩
  · rfl
  · simp

instance : LawfulMonad (Act σ) :=
  LawfulMonad.mk' (Act σ) bind_pure_eq pure_bind_eq bind_bind

end Act
end PageScript

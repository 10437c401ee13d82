import PageScript.Proofs.Act
import PageScript.Walk.Dispatch

/-!
# The calls of a walk

A walk calls its partners, and lets time pass.  To speak of its calls, `Partners.logging` and
`logging` keep a log of them beside the surroundings: every call is written down with what came of
it, and is otherwise made as before.

`dispatch_logging` says what a log shows of one argument.  `Dispatched` lists the ways in which an
argument can be carried out: the calls that are made, and what they come to.
-/

namespace PageScript.Walk

variable {σ α : Type}

/-! ### Logs -/

/-- A call to somebody outside. -/
inductive Call
  | consult (capability : Capability) (instruction : String)
  | keep (path : String) (answer : Json)
  | sleep (seconds : Float)

/-- A call with what came of it; only an agent has an answer. -/
structure Exchange where
  call : Call
  reply : Except Failure Json

/-- What a log shows of a request: only that time passes. -/
def sleepsOf : (r : Request) → Except Failure r.Answer → List Exchange
  | .sleep seconds, reply => [⟨.sleep seconds, reply.map fun _ => .null⟩]
  | _, _ => []

/-- Surroundings with a log beside them, into which the passing of time is written. -/
def logging (host : Host σ) : Host (σ × List Exchange) where
  now := fun w => ((host.now w.1).1, (host.now w.1).2, w.2)
  address := fun w => host.address w.1
  wording := host.wording
  answer := fun r w =>
    ((host.answer r w.1).1, (host.answer r w.1).2, w.2 ++ sleepsOf r (host.answer r w.1).1)

/-- A computation that is written into the log as one call. -/
def logged (host : Host σ) (call : Call) (x : Act σ α) (answer : α → Json) :
    Act (σ × List Exchange) α := fun _ w =>
  ⟨(x host w.1).result, (x host w.1).events,
    (x host w.1).world, w.2 ++ [⟨call, (x host w.1).result.map answer⟩]⟩

/-- Partners whose calls are written into the log. -/
def Partners.logging (partners : Partners σ) (host : Host σ) : Partners (σ × List Exchange) where
  agent := fun capability instruction =>
    logged host (.consult capability instruction) (partners.agent capability instruction) id
  keeper := fun path answer =>
    logged host (.keep path answer) (partners.keeper path answer) fun _ => .null

/-! ### Ways to carry out an argument -/

/-- The calls that an argument leads to while a path is pending, and what they come to. -/
inductive Dispatched (pending : Option String) (a : Argument) :
    List Exchange → Except Failure (Option String × Json) → Prop
  | idle (task : Task.ofName? a.name = none) : Dispatched pending a [] (.ok (pending, .null))
  | unfit {failure} (task : ∀ t, Task.ofName? a.name = some t → t ≠ .pause)
      (named : (Task.ofName? a.name).isSome) (text : requireText a = .error failure) :
      Dispatched pending a [] (.error failure)
  | pathSet {path} (task : Task.ofName? a.name = some .setPath) (text : requireText a = .ok path) :
      Dispatched pending a [] (.ok (some path, .null))
  | consulted {capability instruction reply}
      (task : Task.ofName? a.name = some (.consult capability)) (other : capability ≠ .query)
      (text : requireText a = .ok instruction) :
      Dispatched pending a [⟨.consult capability instruction, reply⟩]
        ((reply.mapError agentFailure).map fun _ => (pending, .null))
  | unanswered {instruction failure} (task : Task.ofName? a.name = some (.consult .query))
      (text : requireText a = .ok instruction) :
      Dispatched pending a [⟨.consult .query instruction, .error failure⟩]
        (.error (agentFailure failure))
  | answered {instruction answer} (task : Task.ofName? a.name = some (.consult .query))
      (text : requireText a = .ok instruction) (path : pending = none ∨ pending = some "") :
      Dispatched pending a [⟨.consult .query instruction, .ok answer⟩] (.ok (pending, answer))
  | kept {instruction answer path reply} (task : Task.ofName? a.name = some (.consult .query))
      (text : requireText a = .ok instruction) (path_eq : pending = some path)
      (path_ne : path ≠ "") :
      Dispatched pending a
        [⟨.consult .query instruction, .ok answer⟩, ⟨.keep path answer, reply⟩]
        (reply.map fun _ => (none, answer))
  | unpaused (task : Task.ofName? a.name = some .pause) (value : a.value.isGiven = false) :
      Dispatched pending a [] (.ok (pending, .null))
  | notNumber (task : Task.ofName? a.name = some .pause) (given : a.value.isGiven = true)
      (value : a.value.isNumber = false) :
      Dispatched pending a [] (.error (.wrongType a.name "number" a.value))
  | tooLarge {issue} (task : Task.ofName? a.name = some .pause) (number : a.value.isNumber = true)
      (value : a.value.toFloat = .error issue) : Dispatched pending a [] (.error (.number issue))
  | slept {milliseconds reply} (task : Task.ofName? a.name = some .pause)
      (number : a.value.isNumber = true) (value : a.value.toFloat = .ok milliseconds) :
      Dispatched pending a [⟨.sleep (sleepSeconds milliseconds), reply⟩]
        (reply.map fun _ => (pending, .null))

/-! ### Computations that only differ by the log -/

/-- An outcome with a log beside the surroundings. -/
def beside (outcome : Outcome σ α) (log : List Exchange) : Outcome (σ × List Exchange) α :=
  ⟨outcome.result, outcome.events, outcome.world, log⟩

/-- From the surroundings `w`, one computation does what another does, and logs some calls. -/
def Logs (host : Host σ) (logged : Act (σ × List Exchange) α) (x : Act σ α) (w : σ)
    (calls : List Exchange) : Prop :=
  ∀ log, logged (logging host) (w, log) = beside (x host w) (log ++ calls)

variable {host : Host σ} {x : Act σ α} {logged : Act (σ × List Exchange) α} {w : σ}
  {calls more : List Exchange}

/-- What logs nothing. -/
theorem Logs.silent (h : ∀ log, logged (logging host) (w, log) = beside (x host w) log) :
    Logs host logged x w [] := by
  intro log
  rw [h, List.append_nil]

theorem Logs.pure (a : α) : Logs host (Pure.pure a) (Pure.pure a) w [] :=
  Logs.silent fun _ => rfl

theorem Logs.fail (failure : Failure) :
    Logs host (Act.fail failure) (Act.fail failure : Act σ α) w [] :=
  Logs.silent fun _ => rfl

/-- A failure ends both computations. -/
theorem Logs.bind_error {f : α → Act σ β} {g : α → Act (σ × List Exchange) β} {failure : Failure}
    (h : Logs host logged x w calls) (hresult : (x host w).result = .error failure) :
    Logs host (logged >>= g) (x >>= f) w calls := by
  intro log
  have hlogged : (logged (logging host) (w, log)).result = .error failure := by
    rw [h log]
    exact hresult
  rw [Act.bind_of_error hresult, Act.bind_of_error hlogged, h log]
  rfl

/-- Calls are logged one behind the other. -/
theorem Logs.bind_ok {f : α → Act σ β} {g : α → Act (σ × List Exchange) β} {a : α}
    (h : Logs host logged x w calls) (hresult : (x host w).result = .ok a)
    (hrest : Logs host (g a) (f a) (x host w).world more) :
    Logs host (logged >>= g) (x >>= f) w (calls ++ more) := by
  intro log
  have hlogged : (logged (logging host) (w, log)).result = .ok a := by
    rw [h log]
    exact hresult
  rw [Act.bind_of_ok hresult, Act.bind_of_ok hlogged, h log]
  have := hrest (log ++ calls)
  simp only [beside] at this ⊢
  rw [this, List.append_assoc]

/-! ### The parts of a dispatch -/

/-- Whatever fails when an agent is asked is an agent's failure. -/
theorem consult_apply (partners : Partners σ) (capability : Capability) (instruction : String)
    (host : Host σ) (w : σ) :
    consult partners capability instruction host w =
      ⟨(partners.agent capability instruction host w).result.mapError agentFailure,
        (partners.agent capability instruction host w).events,
        (partners.agent capability instruction host w).world⟩ := by
  have hattempt : ((partners.agent capability instruction).attempt host w).result =
      .ok (partners.agent capability instruction host w).result := rfl
  rw [consult, Act.rescue, Act.bind_of_ok hattempt]
  cases (partners.agent capability instruction host w).result with
  | error failure => exact congrArg (Outcome.mk _ · _) (List.append_nil _)
  | ok answer => exact congrArg (Outcome.mk _ · _) (List.append_nil _)

theorem Logs.consult (partners : Partners σ) (capability : Capability) (instruction : String) :
    Logs host (consult (partners.logging host) capability instruction)
      (consult partners capability instruction) w
      [⟨.consult capability instruction,
        (partners.agent capability instruction host w).result⟩] := by
  intro log
  rw [consult_apply, consult_apply]
  simp only [Partners.logging, Walk.logged]
  cases (partners.agent capability instruction host w).result <;> rfl

theorem Logs.keeper (partners : Partners σ) (path : String) (answer : Json) :
    Logs host ((partners.logging host).keeper path answer) (partners.keeper path answer) w
      [⟨.keep path answer, (partners.keeper path answer host w).result.map fun _ => .null⟩] :=
  fun _ => rfl

theorem Logs.sleep (seconds : Float) :
    Logs host (Act.ask (.sleep seconds)) (Act.ask (.sleep seconds)) w
      [⟨.sleep seconds, (host.answer (.sleep seconds) w).1.map fun _ => .null⟩] := by
  intro log
  simp only [Act.ask, logging, sleepsOf]
  rcases host.answer (.sleep seconds) w with ⟨_ | _, w⟩ <;> rfl

/-! ### Dispatching -/

/-- With a log beside the surroundings an argument is carried out as without one, and the log shows
the calls of one of the ways to carry it out. -/
def LogsDispatch (partners : Partners σ) (host : Host σ) (pending : Option String) (a : Argument)
    (w : σ) : Prop :=
  ∃ calls, Dispatched pending a calls (dispatch partners pending a host w).result ∧
    Logs host (dispatch (partners.logging host) pending a) (dispatch partners pending a) w calls

section Dispatch

variable {partners : Partners σ} {pending : Option String} {a : Argument}

/-- An argument that must have a text and has none calls nobody. -/
theorem logsDispatch_of_requireText {failure : Failure} {f : ∀ {τ}, Partners τ → String → Act τ _}
    (task : ∀ t, Task.ofName? a.name = some t → t ≠ .pause)
    (named : (Task.ofName? a.name).isSome) (text : requireText a = .error failure)
    (h : ∀ {τ : Type} (ps : Partners τ),
      dispatch ps pending a = Act.ofExcept (requireText a) >>= f ps) :
    LogsDispatch partners host pending a w := by
  rw [LogsDispatch, h, h, text]
  exact ⟨[], .unfit task named text, Logs.fail failure⟩

theorem logsDispatch_setPath (h : Task.ofName? a.name = some .setPath) :
    LogsDispatch partners host pending a w := by
  have hdispatch : ∀ {τ : Type} (ps : Partners τ), dispatch ps pending a =
      Act.ofExcept (requireText a) >>= fun path => Pure.pure (some path, Json.null) := by
    intro τ ps
    unfold dispatch
    simp only [h]
  cases htext : requireText a with
  | error failure =>
    exact logsDispatch_of_requireText (f := fun _ path => Pure.pure (some path, Json.null))
      (by simp [h]) (by simp [h]) htext hdispatch
  | ok path =>
    rw [LogsDispatch, hdispatch, hdispatch, htext]
    exact ⟨[], .pathSet h htext, Logs.pure _⟩

/-- Waiting for the time of an argument: what it comes to, and the calls of it. -/
theorem logsDispatch_pause (h : Task.ofName? a.name = some .pause) :
    LogsDispatch partners host pending a w := by
  have hdispatch : ∀ {τ : Type} (ps : Partners τ), dispatch ps pending a =
      pause a >>= fun _ => Pure.pure (pending, Json.null) := by
    intro τ ps
    unfold dispatch
    simp only [h]
  rw [LogsDispatch, hdispatch, hdispatch]
  cases hgiven : a.value.isGiven with
  | false =>
    have hpause : ∀ {τ : Type}, (pause a : Act τ Unit) = Pure.pure () := by
      simp [pause, hgiven]
    rw [hpause, hpause]
    exact ⟨[], .unpaused h hgiven, Logs.pure _⟩
  | true =>
    cases hnumber : a.value.isNumber with
    | false =>
      have hpause : ∀ {τ : Type}, (pause a : Act τ Unit) =
          Act.fail (.wrongType a.name "number" a.value) := by
        simp [pause, hgiven, hnumber]
      rw [hpause, hpause]
      exact ⟨[], .notNumber h hgiven hnumber, Logs.fail _⟩
    | true =>
      cases hfloat : a.value.toFloat with
      | error issue =>
        have hpause : ∀ {τ : Type}, (pause a : Act τ Unit) = Act.fail (.number issue) := by
          intro τ
          simp only [pause, hgiven, hnumber, hfloat]
          rfl
        rw [hpause, hpause]
        exact ⟨[], .tooLarge h hnumber hfloat, Logs.fail _⟩
      | ok milliseconds =>
        have hpause : ∀ {τ : Type}, (pause a : Act τ Unit) =
            Act.ask (.sleep (sleepSeconds milliseconds)) := by
          intro τ
          simp only [pause, hgiven, hnumber, hfloat]
          exact Act.ofExcept_ok_bind ..
        have hslept (reply : Except Failure Json) :
            Dispatched pending a [⟨.sleep (sleepSeconds milliseconds), reply⟩]
              (reply.map fun _ => (pending, .null)) :=
          .slept h hnumber hfloat
        have hresult := congrArg Outcome.result
          (Act.ask_apply (.sleep (sleepSeconds milliseconds)) host w)
        have hlogs : Logs host _ _ w _ := Logs.sleep (sleepSeconds milliseconds)
        rw [hpause, hpause]
        cases hreply : (host.answer (.sleep (sleepSeconds milliseconds)) w).1 with
        | error failure =>
          rw [hreply] at hresult hlogs
          rw [Act.bind_of_error hresult]
          exact ⟨_, hslept _, hlogs.bind_error hresult⟩
        | ok answer =>
          rw [hreply] at hresult hlogs
          rw [Act.bind_of_ok hresult]
          exact ⟨_, hslept _, hlogs.bind_ok hresult (Logs.pure _)⟩

/-- An action or an assertion is one call of the agent. -/
theorem logsDispatch_consult {capability : Capability} (hother : capability ≠ .query)
    (h : Task.ofName? a.name = some (.consult capability)) :
    LogsDispatch partners host pending a w := by
  have hdispatch : ∀ {τ : Type} (ps : Partners τ), dispatch ps pending a =
      Act.ofExcept (requireText a) >>= fun instruction =>
        consult ps capability instruction >>= fun _ => Pure.pure (pending, Json.null) := by
    intro τ ps
    unfold dispatch
    cases capability with
    | query => exact absurd rfl hother
    | action | assertion => simp only [h]
  cases htext : requireText a with
  | error failure =>
    exact logsDispatch_of_requireText (f := fun ps instruction =>
        consult ps capability instruction >>= fun _ => Pure.pure (pending, Json.null))
      (by simp [h]) (by simp [h]) htext hdispatch
  | ok instruction =>
    have hconsulted (reply : Except Failure Json) :
        Dispatched pending a [⟨.consult capability instruction, reply⟩]
          ((reply.mapError agentFailure).map fun _ => (pending, .null)) :=
      .consulted h hother htext
    have hresult := congrArg Outcome.result (consult_apply partners capability instruction host w)
    have hlogs : Logs host _ _ w _ := Logs.consult partners capability instruction
    rw [LogsDispatch, hdispatch, hdispatch, htext, Act.ofExcept_ok_bind, Act.ofExcept_ok_bind]
    cases hreply : (partners.agent capability instruction host w).result with
    | error failure =>
      rw [hreply] at hlogs hresult
      rw [Act.bind_of_error hresult]
      exact ⟨_, hconsulted _, hlogs.bind_error hresult⟩
    | ok answer =>
      rw [hreply] at hlogs hresult
      rw [Act.bind_of_ok hresult]
      exact ⟨_, hconsulted _, hlogs.bind_ok hresult (Logs.pure _)⟩

theorem keep_bind_of_none (partners : Partners σ) (h : pending = none ∨ pending = some "")
    (answer : Json) :
    (keep partners pending answer >>= fun pending => Pure.pure (pending, answer)) =
      Pure.pure (pending, answer) := by
  rcases h with rfl | rfl <;> exact Act.pure_bind_eq ..

theorem keep_bind_of_some (partners : Partners σ) {path : String} (h : path ≠ "")
    (answer : Json) :
    (keep partners (some path) answer >>= fun pending => Pure.pure (pending, answer)) =
      partners.keeper path answer >>= fun _ => Pure.pure (none, answer) := by
  unfold keep
  split
  · contradiction
  · next heq => exact absurd (Option.some.inj heq) h
  · next heq =>
    cases heq
    exact bind_assoc ..

/-- A query is a call of the agent, and one of the keeper if a path is pending for the answer. -/
theorem logsDispatch_query (h : Task.ofName? a.name = some (.consult .query)) :
    LogsDispatch partners host pending a w := by
  have hdispatch : ∀ {τ : Type} (ps : Partners τ), dispatch ps pending a =
      Act.ofExcept (requireText a) >>= fun instruction =>
        consult ps .query instruction >>= fun answer =>
          keep ps pending answer >>= fun pending => Pure.pure (pending, answer) := by
    intro τ ps
    unfold dispatch
    simp only [h]
  cases htext : requireText a with
  | error failure =>
    exact logsDispatch_of_requireText (f := fun ps instruction =>
        consult ps .query instruction >>= fun answer =>
          keep ps pending answer >>= fun pending => Pure.pure (pending, answer))
      (by simp [h]) (by simp [h]) htext hdispatch
  | ok instruction =>
    have hresult := congrArg Outcome.result (consult_apply partners .query instruction host w)
    have hlogs : Logs host _ _ w _ := Logs.consult partners .query instruction
    rw [LogsDispatch, hdispatch, hdispatch, htext, Act.ofExcept_ok_bind, Act.ofExcept_ok_bind]
    cases hreply : (partners.agent .query instruction host w).result with
    | error failure =>
      rw [hreply] at hlogs hresult
      rw [Act.bind_of_error hresult]
      exact ⟨_, .unanswered h htext, hlogs.bind_error hresult⟩
    | ok answer =>
      rw [hreply] at hlogs hresult
      rw [Act.bind_of_ok hresult]
      by_cases hpath : pending = none ∨ pending = some ""
      · rw [keep_bind_of_none _ hpath]
        refine ⟨_, .answered h htext hpath, hlogs.bind_ok hresult (?_ : Logs _ _ _ _ [])⟩
        rw [keep_bind_of_none _ hpath, keep_bind_of_none _ hpath]
        exact Logs.pure _
      · obtain ⟨path, rfl⟩ : ∃ path, pending = some path :=
          Option.ne_none_iff_exists'.mp fun h => hpath (.inl h)
        have hpath_ne : path ≠ "" := fun h => hpath (.inr (congrArg some h))
        have hkept (reply : Except Failure Json) :
            Dispatched (some path) a
              [⟨.consult .query instruction, .ok answer⟩, ⟨.keep path answer, reply⟩]
              (reply.map fun _ => (none, answer)) :=
          .kept h htext rfl hpath_ne
        have hkeeper : Logs host _ _ (consult partners .query instruction host w).world _ :=
          Logs.keeper partners path answer
        rw [keep_bind_of_some _ hpath_ne]
        cases hreply : (partners.keeper path answer host
            (consult partners .query instruction host w).world).result with
        | error failure =>
          rw [hreply] at hkeeper
          rw [Act.bind_of_error hreply]
          refine ⟨_, hkept (.error failure), hlogs.bind_ok hresult ?_⟩
          rw [keep_bind_of_some _ hpath_ne, keep_bind_of_some _ hpath_ne]
          exact hkeeper.bind_error hreply
        | ok =>
          rw [hreply] at hkeeper
          rw [Act.bind_of_ok hreply]
          refine ⟨_, hkept (.ok .null), hlogs.bind_ok hresult ?_⟩
          rw [keep_bind_of_some _ hpath_ne, keep_bind_of_some _ hpath_ne]
          exact hkeeper.bind_ok hreply (Logs.pure _)

/-- Carrying out an argument, with and without a log. -/
theorem dispatch_logging (partners : Partners σ) (host : Host σ) (pending : Option String)
    (a : Argument) (w : σ) : LogsDispatch partners host pending a w := by
  cases h : Task.ofName? a.name with
  | none =>
    have hdispatch : ∀ {τ : Type} (ps : Partners τ),
        dispatch ps pending a = Pure.pure (pending, Json.null) := by
      intro τ ps
      unfold dispatch
      simp only [h]
    rw [LogsDispatch, hdispatch, hdispatch]
    exact ⟨[], .idle h, Logs.pure _⟩
  | some task =>
    match task with
    | .setPath => exact logsDispatch_setPath h
    | .pause => exact logsDispatch_pause h
    | .consult .query => exact logsDispatch_query h
    | .consult .action => exact logsDispatch_consult (by decide) h
    | .consult .assertion => exact logsDispatch_consult (by decide) h

end Dispatch

end PageScript.Walk

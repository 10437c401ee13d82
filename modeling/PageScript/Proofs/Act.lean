import PageScript.Act

/-!
# What a computation can do

`Act.Only P x` says that `x` gives rise to no events but those of a kind `P`, whatever the
surroundings answer.  It is proved along the computation: what is built from such parts is such a
whole.
-/

namespace PageScript

/-- The event of a command that is carried out. -/
def Browser.Command.done (c : Browser.Command) : Event := .request (.command c) none

/-- The event of a command that is refused. -/
def Browser.Command.refused (c : Browser.Command) (failure : Failure) : Event :=
  .request (.command c) (some failure)

namespace Act

open PageScript.Browser (Command)

variable {σ α β : Type} {P Q : Event → Prop} {x : Act σ α} {f : α → Act σ β} {host : Host σ} {w : σ}

/-! ### Outcomes of what is put together -/

theorem bind_eq_of_ok {a : α} {events : List Event} {w' : σ} (h : x host w = ⟨.ok a, events, w'⟩) :
    (x >>= f) host w =
      ⟨(f a host w').result, events ++ (f a host w').events, (f a host w').world⟩ := by
  rw [bind_of_ok (congrArg Outcome.result h), h]

theorem bind_eq_of_error {failure : Failure} {events : List Event} {w' : σ}
    (h : x host w = ⟨.error failure, events, w'⟩) :
    (x >>= f) host w = ⟨.error failure, events, w'⟩ := by
  rw [bind_of_error (congrArg Outcome.result h), h]

theorem ofExcept_ok_bind (a : α) (f : α → Act σ β) : ofExcept (.ok a) >>= f = f a :=
  pure_bind_eq a f

theorem ofExcept_error_bind (failure : Failure) (f : α → Act σ β) :
    ofExcept (.error failure) >>= f = fail failure := rfl

/-- A computation that gives a result has gone through all of its parts. -/
theorem exists_of_bind_result {b : β} (h : ((x >>= f) host w).result = .ok b) :
    ∃ a w', (x host w).result = .ok a ∧ (f a host w').result = .ok b := by
  rcases hx : x host w with ⟨_ | a, events, w'⟩
  · rw [bind_eq_of_error hx] at h
    cases h
  · rw [bind_eq_of_ok hx] at h
    exact ⟨a, w', rfl, h⟩

theorem events_bind_of_silent (h : ∀ a w', (f a host w').events = []) :
    ((x >>= f) host w).events = (x host w).events := by
  rcases hx : x host w with ⟨_ | a, events, w'⟩
  · rw [bind_eq_of_error hx]
  · rw [bind_eq_of_ok hx, h, List.append_nil]

theorem attempt_bind (f : Except Failure α → Act σ β) :
    (x.attempt >>= f) host w =
      ⟨(f (x host w).result host (x host w).world).result,
        (x host w).events ++ (f (x host w).result host (x host w).world).events,
        (f (x host w).result host (x host w).world).world⟩ := rfl

/-- Why there is no answer to a request, if there is none. -/
def refusal? : Except Failure α → Option Failure
  | .ok _ => none
  | .error failure => some failure

/-- A request is one event, and comes to what the surroundings answer. -/
theorem ask_apply (r : Request) (host : Host σ) (w : σ) :
    ask r host w =
      ⟨(host.answer r w).1, [.request r (refusal? (host.answer r w).1)], (host.answer r w).2⟩ := by
  unfold ask
  rcases host.answer r w with ⟨_ | _, w'⟩ <;> rfl

/-- A command is carried out or refused. -/
theorem command_done_or_refused (c : Command) (host : Host σ) (w : σ) :
    (∃ w', command c host w = ⟨.ok (), [c.done], w'⟩) ∨
      ∃ failure w', command c host w = ⟨.error failure, [c.refused failure], w'⟩ := by
  have hask := ask_apply (.command c) host w
  rcases hanswer : host.answer (.command c) w with ⟨failure | ⟨⟩, w'⟩
  · rw [hanswer] at hask
    exact .inr ⟨failure, w', hask⟩
  · rw [hanswer] at hask
    exact .inl ⟨w', hask⟩

theorem ofExcept_bind (result : Except Failure α) (f : α → Except Failure β) :
    (ofExcept (result >>= f) : Act σ β) = ofExcept result >>= fun a => ofExcept (f a) := by
  cases result with
  | ok a => exact (ofExcept_ok_bind a fun b => ofExcept (f b)).symm
  | error failure => rfl

/-- What only reads a result leaves everything else as it is. -/
theorem bind_ofExcept (x : Act σ α) (f : α → Except Failure β) (host : Host σ) (w : σ) :
    (x >>= fun a => ofExcept (f a)) host w =
      ⟨(x host w).result >>= f, (x host w).events, (x host w).world⟩ := by
  rcases hx : x host w with ⟨failure | a, events, w'⟩
  · exact bind_eq_of_error hx
  · rw [bind_eq_of_ok hx]
    show Outcome.mk (ofExcept (f a) host w').result _ _ = ⟨f a, _, _⟩
    cases f a <;> simp [ofExcept, done, fail]

/-- So does what reads a result with the checker's complaint at hand. -/
theorem bind_complaint_ofExcept (x : Act σ Json) (schema : String) (checked : Json → Json)
    (f : String → Json → Except Failure α) (host : Host σ) (w : σ) :
    (x >>= fun data => complaint schema (checked data) >>= fun text => ofExcept (f text data))
        host w =
      ⟨(x host w).result >>= fun data => f (host.wording schema (checked data)) data,
        (x host w).events, (x host w).world⟩ := by
  rw [← bind_ofExcept]
  rcases hx : x host w with ⟨failure | data, events, w'⟩
  · rw [bind_eq_of_error hx, bind_eq_of_error hx]
  · rw [bind_eq_of_ok hx, bind_eq_of_ok hx,
      bind_eq_of_ok (show complaint schema (checked data) host w' = ⟨.ok _, [], w'⟩ from rfl)]
    rfl

theorem rescue_of_ok {p : Failure → Bool} {handler : Failure → Act σ α} {a : α}
    {events : List Event} {w' : σ} (h : x host w = ⟨.ok a, events, w'⟩) :
    x.rescue p handler host w = ⟨.ok a, events, w'⟩ := by
  rw [rescue, attempt_bind, h]
  simp

theorem rescue_of_error {p : Failure → Bool} {handler : Failure → Act σ α} {failure : Failure}
    {events : List Event} {w' : σ} (h : x host w = ⟨.error failure, events, w'⟩) :
    x.rescue p handler host w =
      if p failure then
        ⟨(handler failure host w').result, events ++ (handler failure host w').events,
          (handler failure host w').world⟩
      else ⟨.error failure, events, w'⟩ := by
  rw [rescue, attempt_bind, h]
  cases hp : p failure <;> simp [hp]

theorem events_finally (x : Act σ α) (cleanup : Act σ Unit) (host : Host σ) (w : σ) :
    (x.finally_ cleanup host w).events =
      (x host w).events ++ (cleanup host (x host w).world).events := by
  have hsilent (result : Except Failure α) (w' : σ) : (ofExcept result host w').events = [] := by
    cases result <;> rfl
  rw [finally_, attempt_bind, events_bind_of_silent fun _ w' => hsilent _ w']

/-- What a computation can give. -/
def CanGive (x : Act σ α) (a : α) : Prop := ∃ host w, (x host w).result = .ok a

/-- A computation that never fails. -/
def Returns (x : Act σ α) : Prop := ∀ host w, ∃ a, (x host w).result = .ok a

theorem Returns.pure (a : α) : Returns (pure a : Act σ α) := fun _ _ => ⟨a, rfl⟩

theorem Returns.emit (event : Event) : Returns (emit event : Act σ Unit) := fun _ _ => ⟨(), rfl⟩

theorem Returns.attempt (x : Act σ α) : Returns x.attempt := fun _ _ => ⟨_, rfl⟩

theorem Returns.bind (hx : Returns x) (hf : ∀ a, Returns (f a)) : Returns (x >>= f) := by
  intro host w
  obtain ⟨a, ha⟩ := hx host w
  rw [bind_of_ok ha]
  exact hf a host _

theorem Returns.ite {p : Prop} [Decidable p] {y : Act σ α} (hx : Returns x) (hy : Returns y) :
    Returns (if p then x else y) := by
  split
  · exact hx
  · exact hy

/-! ### Events of a kind -/

/-- All events of a computation are of a kind. -/
def Only (P : Event → Prop) (x : Act σ α) : Prop := ∀ host w, ∀ e ∈ (x host w).events, P e

theorem Only.mono (h : Only P x) (hPQ : ∀ e, P e → Q e) : Only Q x :=
  fun host w e he => hPQ e (h host w e he)

theorem Only.pure (a : α) : Only P (pure a : Act σ α) := by
  intro host w e he
  cases he

theorem Only.fail (failure : Failure) : Only P (fail failure : Act σ α) := by
  intro host w e he
  cases he

theorem Only.ofExcept (result : Except Failure α) : Only P (ofExcept result : Act σ α) := by
  cases result with
  | ok a => exact Only.pure a
  | error failure => exact Only.fail failure

theorem Only.emit {event : Event} (h : P event) : Only P (emit event : Act σ Unit) := by
  intro host w e he
  cases List.mem_singleton.mp he
  exact h

theorem Only.ask {r : Request} (h : ∀ refusal, P (.request r refusal)) :
    Only P (ask r : Act σ r.Answer) := by
  intro host w e he
  rw [ask_apply] at he
  cases List.mem_singleton.mp he
  exact h _

theorem Only.now : Only P (now : Act σ Float) := by
  intro host w e he
  cases he

theorem Only.address : Only P (address : Act σ String) := by
  intro host w e he
  cases he

theorem Only.complaint (schema : String) (data : Json) :
    Only P (complaint schema data : Act σ String) := by
  intro host w e he
  cases he

theorem Only.attempt (h : Only P x) : Only P x.attempt := h

/-- The rest may rely on what the first part can give. -/
theorem Only.bind_of_canGive (hx : Only P x) (hf : ∀ a, CanGive x a → Only P (f a)) :
    Only P (x >>= f) := by
  intro host w e he
  cases hresult : (x host w).result with
  | error failure =>
    rw [bind_of_error hresult] at he
    exact hx host w e he
  | ok a =>
    rw [bind_of_ok hresult] at he
    rcases List.mem_append.mp he with he | he
    · exact hx host w e he
    · exact hf a ⟨host, w, hresult⟩ host _ e he

theorem Only.bind (hx : Only P x) (hf : ∀ a, Only P (f a)) : Only P (x >>= f) :=
  hx.bind_of_canGive fun a _ => hf a

theorem Only.rescue {p : Failure → Bool} {handler : Failure → Act σ α} (hx : Only P x)
    (hhandler : ∀ failure, Only P (handler failure)) : Only P (x.rescue p handler) := by
  refine hx.attempt.bind fun result => ?_
  cases result with
  | ok a => exact Only.pure a
  | error failure =>
    show Only P (if p failure = true then handler failure else Act.fail failure)
    split
    · exact hhandler failure
    · exact Only.fail failure

theorem Only.finally_ {cleanup : Act σ Unit} (hx : Only P x) (hcleanup : Only P cleanup) :
    Only P (x.finally_ cleanup) :=
  hx.attempt.bind fun result => hcleanup.bind fun _ => Only.ofExcept result

theorem Only.ite {p : Prop} [Decidable p] {y : Act σ α} (hx : Only P x) (hy : Only P y) :
    Only P (if p then x else y) := by
  split
  · exact hx
  · exact hy

/-! ### Events of successes -/

/-- A computation that gives a result has given rise to an event of a kind. -/
def Leaves (P : Event → Prop) (x : Act σ α) : Prop :=
  ∀ host w a, (x host w).result = .ok a → ∃ e ∈ (x host w).events, P e

theorem Leaves.ask {r : Request} (h : P (.request r none)) : Leaves P (ask r : Act σ r.Answer) := by
  intro host w a ha
  rw [ask_apply] at ha ⊢
  refine ⟨_, List.mem_singleton.mpr rfl, ?_⟩
  rw [show (host.answer r w).1 = .ok a from ha]
  exact h

theorem Leaves.bind_left (hx : Leaves P x) (f : α → Act σ β) : Leaves P (x >>= f) := by
  intro host w b hb
  cases hresult : (x host w).result with
  | error failure =>
    rw [bind_of_error hresult] at hb
    cases hb
  | ok a =>
    obtain ⟨e, he, hkind⟩ := hx host w a hresult
    rw [bind_of_ok hresult]
    exact ⟨e, List.mem_append_left _ he, hkind⟩

theorem Leaves.bind_right (x : Act σ α) (hf : ∀ a, Leaves P (f a)) : Leaves P (x >>= f) := by
  intro host w b hb
  cases hresult : (x host w).result with
  | error failure =>
    rw [bind_of_error hresult] at hb
    cases hb
  | ok a =>
    rw [bind_of_ok hresult] at hb ⊢
    obtain ⟨e, he, hkind⟩ := hf a host _ b hb
    exact ⟨e, List.mem_append_right _ he, hkind⟩

end Act
end PageScript

import PageScript.Proofs.Act

/-!
# What a computation is made of

`Act.MadeOf P x` says that `x` is put together from requests of a kind `P`, from looks at the clock
and at the address, from the checker's complaints, and from what it says on the way.  It is proved
once, along the computation.

A property of computations is compositional for `P` if it holds of these parts and of whatever is
put together from parts that have it.  `MadeOf.holds` says that `x` has every such property; what
differs from one property to another is said once, where the property is shown to be compositional.
-/

namespace PageScript

/-- What a computation says by itself: on the console, in a notice or by a checkpoint. -/
def Event.isSpeech : Event → Bool
  | .console _ | .notice _ | .checkpoint _ => true
  | .request .. | .closed _ => false

/-- What only reads the page. -/
def Request.isReading : Request → Bool
  | .title | .count _ | .innerText _ | .attributeOf .. => true
  | _ => false

/-- All but the commands that begin or end a part of the browser, or take a picture. -/
def Request.isOrdinary : Request → Bool
  | .command c =>
    match c with
    | .screenshot _ => false
    | c => !c.isSession
  | _ => true

theorem Request.isOrdinary_of_isReading {r : Request} (h : r.isReading = true) :
    r.isOrdinary = true := by
  cases r <;> first | rfl | cases h

namespace Act

variable {σ α β : Type}

/-- Properties of computations that hold of requests of a kind, and of what is put together. -/
structure Compositional (P : Request → Prop) (K : {α : Type} → Act σ α → Prop) : Prop where
  pure {α : Type} (a : α) : K (pure a)
  fail {α : Type} (failure : Failure) : K (fail failure : Act σ α)
  emit {e : Event} (h : e.isSpeech = true) : K (emit e)
  ask {r : Request} (h : P r) : K (ask r)
  now : K now
  address : K address
  complaint (schema : String) (data : Json) : K (complaint schema data)
  attempt {α : Type} {x : Act σ α} (h : K x) : K x.attempt
  /-- The rest may rely on what the first part can give. -/
  bind_of_canGive {α β : Type} {x : Act σ α} {f : α → Act σ β} (hx : K x)
    (hf : ∀ a, CanGive x a → K (f a)) : K (x >>= f)

namespace Compositional

variable {P Q : Request → Prop} {K : {α : Type} → Act σ α → Prop} (hK : Compositional P K)
include hK

theorem narrow (hQP : ∀ r, Q r → P r) : Compositional Q K :=
  { hK with ask := fun h => hK.ask (hQP _ h) }

theorem bind {x : Act σ α} {f : α → Act σ β} (hx : K x) (hf : ∀ a, K (f a)) : K (x >>= f) :=
  hK.bind_of_canGive hx fun a _ => hf a

theorem ofExcept (result : Except Failure α) : K (ofExcept result) := by
  cases result with
  | ok a => exact hK.pure a
  | error failure => exact hK.fail failure

theorem rescue {x : Act σ α} {p : Failure → Bool} {handler : Failure → Act σ α} (hx : K x)
    (hhandler : ∀ failure, K (handler failure)) : K (x.rescue p handler) := by
  refine hK.bind (hK.attempt hx) fun result => ?_
  cases result with
  | ok a => exact hK.pure a
  | error failure =>
    show K (if p failure = true then handler failure else Act.fail failure)
    split
    · exact hhandler failure
    · exact hK.fail failure

end Compositional

theorem compositional_only {P : Request → Prop} {E : Event → Prop}
    (hrequest : ∀ r, P r → ∀ refusal, E (.request r refusal))
    (hspeech : ∀ e : Event, e.isSpeech = true → E e) :
    Compositional P fun {α} => Only (σ := σ) (α := α) E where
  pure := .pure
  fail := .fail
  emit h := .emit (hspeech _ h)
  ask h := .ask (hrequest _ h)
  now := .now
  address := .address
  complaint := .complaint
  attempt := .attempt
  bind_of_canGive := .bind_of_canGive

/-- Computations that are made of requests of a kind. -/
inductive MadeOf (P : Request → Prop) : {α : Type} → Act σ α → Prop
  | pure {α : Type} (a : α) : MadeOf P (pure a)
  | fail {α : Type} (failure : Failure) : MadeOf P (fail failure : Act σ α)
  | emit {e : Event} (h : e.isSpeech = true) : MadeOf P (emit e)
  | ask {r : Request} (h : P r) : MadeOf P (ask r)
  | now : MadeOf P now
  | address : MadeOf P address
  | complaint (schema : String) (data : Json) : MadeOf P (complaint schema data)
  | attempt {α : Type} {x : Act σ α} (h : MadeOf P x) : MadeOf P x.attempt
  | bind_of_canGive {α β : Type} {x : Act σ α} {f : α → Act σ β} (hx : MadeOf P x)
      (hf : ∀ a, CanGive x a → MadeOf P (f a)) : MadeOf P (x >>= f)

theorem compositional_madeOf (P : Request → Prop) :
    Compositional P fun {α} => MadeOf (σ := σ) (α := α) P where
  pure := .pure
  fail := .fail
  emit := .emit
  ask := .ask
  now := .now
  address := .address
  complaint := .complaint
  attempt := .attempt
  bind_of_canGive := .bind_of_canGive

namespace MadeOf

variable {P Q : Request → Prop} {x : Act σ α} {f : α → Act σ β}

theorem holds {K : {α : Type} → Act σ α → Prop} (hK : Compositional P K) (h : MadeOf P x) :
    K x := by
  induction h with
  | pure a => exact hK.pure a
  | fail failure => exact hK.fail failure
  | emit h => exact hK.emit h
  | ask h => exact hK.ask h
  | now => exact hK.now
  | address => exact hK.address
  | complaint schema data => exact hK.complaint schema data
  | attempt _ ih => exact hK.attempt ih
  | bind_of_canGive _ _ ihx ihf => exact hK.bind_of_canGive ihx ihf

theorem bind (hx : MadeOf P x) (hf : ∀ a, MadeOf P (f a)) : MadeOf P (x >>= f) :=
  (compositional_madeOf P).bind hx hf

theorem ofExcept (result : Except Failure α) : MadeOf P (ofExcept result : Act σ α) :=
  (compositional_madeOf P).ofExcept result

theorem say (line : String) : MadeOf P (say line : Act σ Unit) := .emit rfl

theorem rescue {p : Failure → Bool} {handler : Failure → Act σ α} (hx : MadeOf P x)
    (hhandler : ∀ failure, MadeOf P (handler failure)) : MadeOf P (x.rescue p handler) :=
  (compositional_madeOf P).rescue hx hhandler

theorem ite {p : Prop} [Decidable p] {y : Act σ α} (hx : MadeOf P x) (hy : MadeOf P y) :
    MadeOf P (if p then x else y) := by
  split
  · exact hx
  · exact hy

/-- What is made of requests of a kind is made of requests of any wider kind. -/
theorem mono (h : MadeOf P x) (hPQ : ∀ r, P r → Q r) : MadeOf Q x :=
  h.holds ((compositional_madeOf Q).narrow hPQ)

end MadeOf
end Act
end PageScript

import PageScript.Proofs.Act

/-!
# Trails of commands

A trail says what may be seen of a computation: its events, and the result behind them.  It is put
together from commands to the browser.  One part can follow another (`Trail.Then`), and something
else can take the place of a command that is refused for a reason of a kind (`Rescued`);
alternatives are tried in order, up to the first that succeeds (`Tries`).

`Once` is the trail of a computation with a single effect: a success ends with it, and a failure has
not had it.  What has its effect once is made of a part without an effect and a part that has it
once.
-/

namespace PageScript

open PageScript.Act PageScript.Browser

/-- What may be seen of a computation: events, and the result behind them. -/
abbrev Trail (α : Type) : Type := List Event → Except Failure α → Prop

/-- An outcome is on a trail. -/
def Outcome.Shows {σ α : Type} (outcome : Outcome σ α) (T : Trail α) : Prop :=
  T outcome.events outcome.result

namespace Trail

variable {σ α β : Type} {host : Host σ} {w : σ}

/-- Nothing but a failure. -/
inductive Fails (failure : Failure) : Trail α
  | failed : Fails failure [] (.error failure)

/-- A part, and what follows if it succeeds. -/
inductive Then (T : Trail α) (next : α → Trail β) : Trail β
  | broken {events : List Event} {failure : Failure} (h : T events (.error failure)) :
      Then T next events (.error failure)
  | followed {a : α} {events more : List Event} {result : Except Failure β}
      (h : T events (.ok a)) (hnext : next a more result) : Then T next (events ++ more) result

theorem shows_bind {x : Act σ α} {f : α → Act σ β} {T : Trail α} {next : α → Trail β}
    (hx : (x host w).Shows T) (hf : ∀ a w, (f a host w).Shows (next a)) :
    ((x >>= f) host w).Shows (T.Then next) := by
  unfold Outcome.Shows at *
  rcases h : x host w with ⟨failure | a, events, w'⟩
  · rw [h] at hx
    rw [bind_eq_of_error h]
    exact .broken hx
  · rw [h] at hx
    rw [bind_eq_of_ok h]
    exact .followed hx (hf a w')

/-! ### Failures that lead on -/

/-- The browser itself has refused. -/
def refused : Failure → Bool
  | .browser _ _ => true
  | _ => false

/-- The browser itself has run out of time. -/
def late : Failure → Bool
  | .browser true _ => true
  | _ => false

theorem isBrowser_eq : Failure.isBrowser = refused := by
  funext failure
  cases failure <;> rfl

theorem isBrowserTimeout_eq : Failure.isBrowserTimeout = late := by
  funext failure
  cases failure with
  | browser timedOut text => cases timedOut <;> rfl
  | _ => rfl

/-! ### One command -/

/-- A command by itself. -/
inductive Single (c : Command) : Trail Unit
  | done : Single c [c.done] (.ok ())
  | refused (failure : Failure) : Single c [c.refused failure] (.error failure)

/-- A command, and what takes its place if it is refused for a reason of a kind. -/
inductive Rescued (further : Failure → Bool) (c : Command) (other : Trail Unit) : Trail Unit
  | done : Rescued further c other [c.done] (.ok ())
  | refused {failure : Failure} (h : further failure = false) :
      Rescued further c other [c.refused failure] (.error failure)
  | replaced {failure : Failure} {events : List Event} {result : Except Failure Unit}
      (h : further failure = true) (hother : other events result) :
      Rescued further c other (c.refused failure :: events) result

theorem shows_command (c : Command) (host : Host σ) (w : σ) :
    (Act.command c host w).Shows (Single c) := by
  unfold Outcome.Shows
  rcases command_done_or_refused c host w with ⟨w', h⟩ | ⟨failure, w', h⟩
  · rw [h]
    exact .done
  · rw [h]
    exact .refused failure

theorem shows_rescued {further : Failure → Bool} {c : Command} {handler : Failure → Act σ Unit}
    {other : Trail Unit} (h : ∀ failure w, (handler failure host w).Shows other) :
    ((Act.command c).rescue further handler host w).Shows (Rescued further c other) := by
  unfold Outcome.Shows
  rcases command_done_or_refused c host w with ⟨w', hc⟩ | ⟨failure, w', hc⟩
  · rw [rescue_of_ok hc]
    exact .done
  · rw [rescue_of_error hc]
    split
    · next hfurther => exact .replaced hfurther (h failure w')
    · next hfurther => exact .refused (Bool.eq_false_iff.mpr hfurther)

/-! ### Alternatives -/

/-- What comes of alternatives: the one that has succeeded, nothing, or a failure that leads no
further. -/
abbrev Choice (α : Type) : Type := Except Failure (Option α)

/-- A choice that fails if there is nothing to choose. -/
def Choice.orFail (missing : Failure) : Choice α → Except Failure Unit
  | .ok (some _) => .ok ()
  | .ok none => .error missing
  | .error failure => .error failure

/-- Alternatives are tried in order by a command each, as long as failures of a kind lead on. -/
inductive Tries (further : Failure → Bool) (command : α → Command) : List α → Trail (Option α)
  | exhausted : Tries further command [] [] (.ok none)
  | hit (a : α) (rest : List α) :
      Tries further command (a :: rest) [(command a).done] (.ok (some a))
  | broken {failure : Failure} (a : α) (rest : List α) (h : further failure = false) :
      Tries further command (a :: rest) [(command a).refused failure] (.error failure)
  | next {failure : Failure} {a : α} {rest : List α} {events : List Event} {choice : Choice α}
      (h : further failure = true) (hrest : Tries further command rest events choice) :
      Tries further command (a :: rest) ((command a).refused failure :: events) choice

/-- A recursion that goes on after failures of a kind tries its alternatives in order. -/
theorem exists_tries {further : Failure → Bool} {command : α → Command} {f : List α → Act σ β}
    {g : Option α → β} (hnil : f [] = pure (g none))
    (hcons : ∀ a rest, f (a :: rest) = (Act.command (command a)).attempt >>= fun
      | .ok () => pure (g (some a))
      | .error failure => if further failure then f rest else Act.fail failure)
    (as : List α) (host : Host σ) (w : σ) :
    ∃ choice, (f as host w).result = choice.map g ∧
      Tries further command as (f as host w).events choice := by
  induction as generalizing w with
  | nil =>
    rw [hnil]
    exact ⟨.ok none, rfl, .exhausted⟩
  | cons a rest ih =>
    rw [hcons, attempt_bind]
    rcases command_done_or_refused (command a) host w with ⟨w', h⟩ | ⟨failure, w', h⟩
    · rw [h]
      exact ⟨.ok (some a), rfl, .hit a rest⟩
    · rw [h]
      dsimp only
      split
      · next hfurther =>
        obtain ⟨choice, hresult, hrest⟩ := ih w'
        exact ⟨choice, hresult, .next hfurther hrest⟩
      · next hfurther =>
        exact ⟨.error failure, rfl, .broken a rest (Bool.eq_false_iff.mpr hfurther)⟩

/-! ### Events of a kind -/

section Kind

variable {P : Event → Prop} {events : List Event} {result : Except Failure β} {c : Command}
  {further : Failure → Bool} {T : Trail α} {next : α → Trail β} {command : α → Command}
  {as : List α} {choice : Choice α}

theorem Single.forall_mem {result : Except Failure Unit} (h : Single c events result)
    (hc : ∀ refusal, P (.request (.command c) refusal)) : ∀ e ∈ events, P e := by
  cases h <;> exact List.forall_mem_singleton.mpr (hc _)

/-- The second part may rely on what the first part has given. -/
theorem Then.forall_mem (h : T.Then next events result)
    (hT : ∀ {events result}, T events result → ∀ e ∈ events, P e)
    (hnext : ∀ {a front events result}, T front (.ok a) → next a events result →
      ∀ e ∈ events, P e) :
    ∀ e ∈ events, P e := by
  cases h with
  | broken h => exact hT h
  | followed h hmore => exact List.forall_mem_append.mpr ⟨hT h, hnext h hmore⟩

theorem Rescued.forall_mem {result : Except Failure Unit} {other : Trail Unit}
    (h : Rescued further c other events result)
    (hc : ∀ refusal, P (.request (.command c) refusal))
    (hother : ∀ {events result}, other events result → ∀ e ∈ events, P e) : ∀ e ∈ events, P e := by
  cases h with
  | done | refused => exact List.forall_mem_singleton.mpr (hc _)
  | replaced _ h => exact List.forall_mem_cons.mpr ⟨hc _, hother h⟩

theorem Tries.forall_mem (h : Tries further command as events choice)
    (hcommand : ∀ a ∈ as, ∀ refusal, P (.request (.command (command a)) refusal)) :
    ∀ e ∈ events, P e := by
  induction h with
  | exhausted => exact List.forall_mem_nil _
  | hit a rest | broken a rest =>
    exact List.forall_mem_singleton.mpr (hcommand a List.mem_cons_self _)
  | next _ _ ih =>
    refine List.forall_mem_cons.mpr ⟨hcommand _ List.mem_cons_self _, ih ?_⟩
    exact fun a ha => hcommand a (List.mem_cons_of_mem _ ha)

/-- What is chosen is one of the alternatives. -/
theorem Tries.mem_of_chosen {a : α} (h : Tries further command as events (.ok (some a))) :
    a ∈ as := by
  generalize hchoice : (.ok (some a) : Choice α) = choice at h
  induction h with
  | exhausted | broken => cases hchoice
  | hit a' rest =>
    cases hchoice
    exact List.mem_cons_self
  | next _ _ ih => exact List.mem_cons_of_mem _ (ih hchoice)

end Kind

/-! ### One effect -/

/-- The event of a command that has an effect. -/
def IsEffect (effective : Command → Bool) (e : Event) : Prop :=
  ∃ c : Command, e = c.done ∧ effective c = true

/-- A success ends with its only effect, and a failure has none. -/
inductive Once (effective : Command → Bool) : Trail Unit
  | had {front : List Event} {e : Event} (hfront : ∀ e' ∈ front, ¬ IsEffect effective e')
      (he : IsEffect effective e) : Once effective (front ++ [e]) (.ok ())
  | missed {events : List Event} (failure : Failure)
      (h : ∀ e ∈ events, ¬ IsEffect effective e) : Once effective events (.error failure)

section Once

variable {effective : Command → Bool}

@[simp] theorem isEffect_done {c : Command} : IsEffect effective c.done ↔ effective c = true := by
  constructor
  · rintro ⟨_, ⟨⟩, h⟩
    exact h
  · exact fun h => ⟨c, rfl, h⟩

theorem not_isEffect_of_eq_false {c : Command} (hc : effective c = false)
    (refusal : Option Failure) : ¬ IsEffect effective (.request (.command c) refusal) := by
  rintro ⟨_, ⟨⟩, h⟩
  rw [hc] at h
  cases h

@[simp] theorem not_isEffect_refused (c : Command) (failure : Failure) :
    ¬ IsEffect effective (c.refused failure) :=
  nofun

variable {events more : List Event} {result : Except Failure Unit} {c : Command}
  {further : Failure → Bool} {T : Trail α} {next : α → Trail Unit} {other : Trail Unit}
  {command : α → Command} {as : List α} {choice : Choice α}

/-- A success is what ends with its only effect. -/
theorem Once.eq_ok_iff (h : Once effective events result) :
    result = .ok () ↔ ∃ front e, events = front ++ [e] ∧ IsEffect effective e ∧
      ∀ e' ∈ front, ¬ IsEffect effective e' := by
  cases h with
  | had hfront he => exact iff_of_true rfl ⟨_, _, rfl, he, hfront⟩
  | missed failure h =>
    refine iff_of_false nofun ?_
    rintro ⟨front, e, rfl, he, -⟩
    exact h e (by simp) he

theorem Once.not_isEffect_of_error (h : Once effective events result) {failure : Failure}
    (hresult : result = .error failure) : ∀ e ∈ events, ¬ IsEffect effective e := by
  cases h with
  | had => cases hresult
  | missed _ h => exact h

theorem once_of_done (hc : effective c = true) : Once effective [c.done] (.ok ()) :=
  show Once effective ([] ++ [c.done]) (.ok ()) from .had (by simp) (isEffect_done.mpr hc)

theorem once_of_refused (c : Command) (failure : Failure) :
    Once effective [c.refused failure] (.error failure) :=
  .missed failure (by simp)

/-- What has no effect may come first. -/
theorem Once.append (h : Once effective more result)
    (hevents : ∀ e ∈ events, ¬ IsEffect effective e) : Once effective (events ++ more) result := by
  cases h with
  | had hfront he =>
    rw [← List.append_assoc]
    exact .had (List.forall_mem_append.mpr ⟨hevents, hfront⟩) he
  | missed failure h => exact .missed failure (List.forall_mem_append.mpr ⟨hevents, h⟩)

/-- A refused command may come first. -/
theorem Once.refused_cons (h : Once effective events result) (c : Command) (failure : Failure) :
    Once effective (c.refused failure :: events) result :=
  show Once effective ([c.refused failure] ++ events) result from h.append (by simp)

theorem Fails.once {failure : Failure} (h : Fails failure events result) :
    Once effective events result := by
  cases h
  exact .missed failure (by simp)

theorem Single.once (h : Single c events result) (hc : effective c = true) :
    Once effective events result := by
  cases h with
  | done => exact once_of_done hc
  | refused failure => exact once_of_refused c failure

theorem Single.not_isEffect (h : Single c events result) (hc : effective c = false) :
    ∀ e ∈ events, ¬ IsEffect effective e :=
  h.forall_mem (not_isEffect_of_eq_false hc)

theorem Then.once (h : T.Then next events result)
    (hT : ∀ {events result}, T events result → ∀ e ∈ events, ¬ IsEffect effective e)
    (hnext : ∀ {a events result}, next a events result → Once effective events result) :
    Once effective events result := by
  cases h with
  | broken h => exact .missed _ (hT h)
  | followed h hmore => exact (hnext hmore).append (hT h)

theorem Rescued.once (h : Rescued further c other events result) (hc : effective c = true)
    (hother : ∀ {events result}, other events result → Once effective events result) :
    Once effective events result := by
  cases h with
  | done => exact once_of_done hc
  | refused => exact once_of_refused c _
  | replaced _ h => exact (hother h).refused_cons c _

theorem Tries.once (h : Tries further command as events choice)
    (hcommand : ∀ a, effective (command a) = true) (missing : Failure) :
    Once effective events (choice.orFail missing) := by
  induction h with
  | exhausted => exact .missed missing (by simp)
  | hit a rest => exact once_of_done (hcommand a)
  | broken a rest _ => exact once_of_refused (command a) _
  | next _ _ ih => exact ih.refused_cons _ _

/-- Alternatives without an effect are tried without one. -/
theorem Tries.not_isEffect (h : Tries further command as events choice)
    (hcommand : ∀ a, effective (command a) = false) : ∀ e ∈ events, ¬ IsEffect effective e :=
  h.forall_mem fun a _ => not_isEffect_of_eq_false (hcommand a)

end Once
end Trail
end PageScript

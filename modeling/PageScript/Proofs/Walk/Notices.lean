import PageScript.Proofs.Report.Notice
import PageScript.Proofs.Walk.Concatenation
import PageScript.Proofs.Walk.Failing
import PageScript.Walk.Answer

/-!
# The notices of a walk

What a walk tells comes in blocks, one for each argument that it comes to: the line that announces
the argument, the calls that it leads to, and the lines that close it.  To see the calls among the
notices, `Partners.overheard` lets every call of a partner be one event, whatever the partner does.

`run_notices` states which calls and which lines a block can have (`Turn.Tells`).
-/

namespace PageScript.Walk

open PageScript.Act (refusal?)

variable {σ α β : Type}

/-! ### Calls as events -/

/-- The event of a call. -/
def Exchange.event (e : Exchange) : Event :=
  match e.call with
  | .consult capability instruction => .request (.agent capability instruction) (refusal? e.reply)
  | .keep path answer => .request (.deliver path (answerText answer)) (refusal? e.reply)
  | .sleep seconds => .request (.sleep seconds) (refusal? e.reply)

/-- A computation of which nothing is seen but one request. -/
def overhear (r : Request) (x : Act σ α) : Act σ α := fun host w =>
  ⟨(x host w).result, [.request r (refusal? (x host w).result)], (x host w).world⟩

/-- Partners of whom nothing is seen but that they are called. -/
def Partners.overheard (partners : Partners σ) : Partners σ where
  agent := fun capability instruction =>
    overhear (.agent capability instruction) (partners.agent capability instruction)
  keeper := fun path answer =>
    overhear (.deliver path (answerText answer)) (partners.keeper path answer)

/-- What is seen of a computation with a log is what it logs. -/
def Seen (host : Host σ) (x : Act (σ × List Exchange) α) : Prop :=
  ∀ w log, ∃ calls, (x (logging host) (w, log)).world.2 = log ++ calls ∧
    (x (logging host) (w, log)).events = calls.map Exchange.event

variable {host : Host σ} {x : Act (σ × List Exchange) α} {f : α → Act (σ × List Exchange) β}

theorem Seen.pure (a : α) : Seen host (Pure.pure a) :=
  fun _ log => ⟨[], (List.append_nil log).symm, rfl⟩

theorem Seen.fail (failure : Failure) : Seen host (Act.fail failure : Act _ α) :=
  fun _ log => ⟨[], (List.append_nil log).symm, rfl⟩

theorem Seen.ofExcept (result : Except Failure α) : Seen host (Act.ofExcept result) := by
  cases result with
  | ok a => exact .pure a
  | error failure => exact .fail failure

theorem Seen.bind (hx : Seen host x) (hf : ∀ a, Seen host (f a)) : Seen host (x >>= f) := by
  intro w log
  obtain ⟨calls, hlog, hevents⟩ := hx w log
  cases hresult : (x (logging host) (w, log)).result with
  | error failure =>
    rw [Act.bind_of_error hresult]
    exact ⟨calls, hlog, hevents⟩
  | ok a =>
    obtain ⟨more, hlog', hevents'⟩ := hf a (x (logging host) (w, log)).world.1 (log ++ calls)
    rw [Act.bind_of_ok hresult]
    rw [← hlog] at hlog' hevents'
    refine ⟨calls ++ more, ?_, ?_⟩
    · rw [← List.append_assoc, ← hlog]
      exact hlog'
    · rw [List.map_append, ← hevents, ← hevents']

theorem Seen.rescue {p : Failure → Bool} {handler : Failure → Act (σ × List Exchange) α}
    (hx : Seen host x) (hhandler : ∀ failure, Seen host (handler failure)) :
    Seen host (x.rescue p handler) := by
  have hattempt : Seen host x.attempt := hx
  refine hattempt.bind fun result => ?_
  cases result with
  | ok a => exact .pure a
  | error failure =>
    show Seen host (if p failure = true then handler failure else Act.fail failure)
    split
    · exact hhandler failure
    · exact .fail failure

theorem refusal?_map (result : Except Failure α) (g : α → β) :
    refusal? (result.map g) = refusal? result := by
  cases result <;> rfl

variable {partners : Partners σ} {a : Argument}

theorem seen_consult (capability : Capability) (instruction : String) :
    Seen host (consult (partners.overheard.logging host) capability instruction) := by
  refine Seen.rescue (fun w log => ?_) fun failure => .fail _
  refine ⟨[⟨.consult capability instruction, _⟩], rfl, ?_⟩
  rw [List.map_singleton, Exchange.event, refusal?_map]
  rfl

theorem seen_keep (pending : Option String) (answer : Json) :
    Seen host (keep (partners.overheard.logging host) pending answer) := by
  have hkeeper (path : String) :
      Seen host ((partners.overheard.logging host).keeper path answer) := by
    intro w log
    refine ⟨[⟨.keep path answer, _⟩], rfl, ?_⟩
    rw [List.map_singleton, Exchange.event, refusal?_map]
    rfl
  unfold keep
  split
  · exact .pure _
  · exact .pure _
  · exact (hkeeper _).bind fun _ => .pure _

theorem seen_pause : Seen host (pause a) := by
  have hsleep (seconds : Float) : Seen host (Act.ask (.sleep seconds)) := by
    intro w log
    rw [Act.ask_apply]
    refine ⟨[⟨.sleep seconds, _⟩], rfl, ?_⟩
    rw [List.map_singleton, Exchange.event, refusal?_map]
    rfl
  unfold pause
  split
  · exact .pure _
  · split
    · exact .fail _
    · exact (Seen.ofExcept _).bind fun _ => hsleep _

theorem seen_dispatch (pending : Option String) :
    Seen host (dispatch (partners.overheard.logging host) pending a) := by
  unfold dispatch
  split
  · exact .pure _
  · exact (Seen.ofExcept _).bind fun _ => .pure _
  · exact seen_pause.bind fun _ => .pure _
  · refine (Seen.ofExcept _).bind fun instruction => (seen_consult _ _).bind fun answer => ?_
    exact (seen_keep _ _).bind fun _ => .pure _
  · exact (Seen.ofExcept _).bind fun _ => (seen_consult _ _).bind fun _ => .pure _

/-- What is seen of a turn are its calls. -/
theorem Taken.events_eq {w w' : σ} {t : Turn} (h : Taken partners.overheard host w t w') :
    t.events = t.calls.map Exchange.event := by
  have hseen : Seen host (undertake (partners.overheard.logging host) t.start t.argument) :=
    (Seen.ofExcept _).bind fun _ => seen_dispatch _
  obtain ⟨calls, hlog, hevents⟩ := hseen w []
  rw [h.outcome_logging []] at hlog hevents
  rw [List.nil_append, List.nil_append] at hlog
  subst hlog
  exact hevents

/-! ### Blocks -/

/-- The names of actions. -/
def actingNames : List String := ["action", "assert", "query-output", "query", "sleep"]

theorem isAction_iff_mem : a.isAction = true ↔ a.name ∈ actingNames := by
  rw [Argument.isAction, isActionName, List.contains_iff_mem]
  rfl

/-- Whom an argument may lead to: nobody, the agent for what the name says and with the value, after
the agent of a query its keeper, and the clock for a sleep. -/
inductive Asks (a : Argument) : List Exchange → Prop
  | nobody : Asks a []
  | agent {capability : Capability} {instruction : String} (reply : Except Failure Json)
      (hname : (capability, a.name) ∈
        [(.action, "action"), (.assertion, "assert"), (.query, "query")])
      (hvalue : a.value = .text instruction) : Asks a [⟨.consult capability instruction, reply⟩]
  | keeper {demand : String} (answer : Json) (path : String) (reply : Except Failure Json)
      (hname : a.name = "query") (hvalue : a.value = .text demand) :
      Asks a [⟨.consult .query demand, .ok answer⟩, ⟨.keep path answer, reply⟩]
  | clock (seconds : Float) (reply : Except Failure Json) (hname : a.name = "sleep") :
      Asks a [⟨.sleep seconds, reply⟩]

/-- The lines that close an argument: one for an action, and a second one with the answer that the
agent has given to a query and the keeper has got; but two for a failure, whatever the argument. -/
inductive Closes (a : Argument) (calls : List Exchange) :
    Except Failure (Option String × Json) → List String → Prop
  | other {out : Option String × Json} (h : a.name ∉ actingNames) : Closes a calls (.ok out) []
  | action {out : Option String × Json} {line : String} (h : a.name ∈ actingNames)
      (hname : a.name ≠ "query") (hline : Notes a line) : Closes a calls (.ok out) [line]
  | query {pending : Option String} {demand line body : String} {answer : Json}
      {more : List Exchange} (hname : a.name = "query")
      (hcalls : calls = ⟨.consult .query demand, .ok answer⟩ :: more)
      (hmore : ∀ e ∈ more, ∃ path, e.call = .keep path answer)
      (hline : Notes a line) (hbody : answer.Rendered body) :
      Closes a calls (.ok (pending, answer)) [line, "- answer\n  " ++ body]
  | failed {failure : Failure} {body : String} (hbody : a.value.Below body) :
      Closes a calls (.error failure)
        ["- " ++ a.name ++ " - Failed\n  " ++ body, "- Error\n  " ++ failure.message]

/-- The block of a turn: the line that announces the argument, the calls, and the closing lines. -/
inductive Turn.Tells (t : Turn) : List Event → Prop
  | block {opening : String} {closing : List String} (hopening : Announces t.argument opening)
      (hcalls : Asks t.argument t.calls) (hclosing : Closes t.argument t.calls t.result closing) :
      Tells t (.notice opening :: (t.calls.map Exchange.event ++ closing.map .notice))

/-- The lines that close a turn. -/
def Turn.lines (t : Turn) : List String :=
  match t.result with
  | .ok (_, answer) =>
    (if t.argument.isAction then [noticeText t.argument.name t.argument.value.toJson] else [])
      ++ if t.argument.name = "query" then [noticeText "answer" answer] else []
  | .error failure =>
    [noticeText (t.argument.name ++ " - Failed") t.argument.value.toJson,
      noticeText "Error" (.string failure.message)]

theorem told_block (t : Turn) :
    told t.block =
      .notice (Report.announcement t.argument) :: (told t.events ++ t.lines.map .notice) := by
  have hclosing : told t.closing = t.lines.map .notice := by
    unfold Turn.closing Turn.lines
    cases t.result with
    | error failure => rfl
    | ok out =>
      dsimp only
      split <;> split <;> rfl
  rw [← hclosing, ← told_append]
  rfl

variable {s : State} {calls : List Exchange} {result : Except Failure (Option String × Json)}

theorem Undertaken.asks (h : Undertaken s a calls result) : Asks a calls := by
  have hname {capability : Capability}
      (htask : Task.ofName? a.name = some (.consult capability)) : (capability, a.name) ∈
        [(Capability.action, "action"), (.assertion, "assert"), (.query, "query")] := by
    rw [ofName?_eq_some_iff.mp htask]
    cases capability <;> decide
  cases h with
  | refused => exact .nobody
  | admitted _ dispatched =>
    cases dispatched with
    | idle | unfit | pathSet | unpaused | notNumber | tooLarge => exact .nobody
    | consulted task _ text | unanswered task text | answered task text =>
      exact .agent _ (hname task) (requireText_eq_ok_iff.mp text).1
    | kept task text =>
      exact .keeper _ _ _ (ofName?_eq_some_iff.mp task) (requireText_eq_ok_iff.mp text).1
    | slept task => exact .clock _ _ (ofName?_eq_some_iff.mp task)

/-- A query that passes has got its answer from the agent, and has given no other to the keeper. -/
theorem Undertaken.exists_answer {pending : Option String} {answer : Json}
    (h : Undertaken s a calls result) (hname : a.name = "query")
    (hresult : result = .ok (pending, answer)) :
    ∃ demand more, calls = ⟨.consult .query demand, .ok answer⟩ :: more ∧
      ∀ e ∈ more, ∃ path, e.call = .keep path answer := by
  have htask : Task.ofName? a.name = some (.consult .query) := ofName?_eq_query_iff.mpr hname
  cases h with
  | refused => cases hresult
  | admitted _ dispatched =>
    cases dispatched with
    | unfit | unanswered | notNumber | tooLarge => cases hresult
    | idle task | pathSet task | unpaused task | slept task => cases htask.symm.trans task
    | consulted task other =>
      cases htask.symm.trans task
      exact absurd rfl other
    | @answered instruction =>
      cases hresult
      exact ⟨instruction, [], rfl, List.forall_mem_nil _⟩
    | @kept instruction answer path reply =>
      obtain ⟨_, -, hpair⟩ := map_eq_ok_iff.mp hresult
      cases hpair
      exact ⟨instruction, [⟨.keep path answer, reply⟩], rfl,
        List.forall_mem_singleton.mpr ⟨path, rfl⟩⟩

theorem Undertaken.closes {t : Turn} (h : Undertaken t.start t.argument t.calls t.result) :
    Closes t.argument t.calls t.result t.lines := by
  obtain ⟨start, a, calls, events, result⟩ := t
  cases result with
  | error failure =>
    obtain ⟨body, hbody, hfailed⟩ := exists_failed a
    have herror : noticeText "Error" (.string failure.message) = "- Error\n  " ++ failure.message :=
      noticeText_of_stepText rfl
    show Closes a calls (.error failure) [noticeText (a.name ++ " - Failed") a.value.toJson,
      noticeText "Error" (.string failure.message)]
    rw [hfailed, herror]
    exact .failed hbody
  | ok out =>
    obtain ⟨pending, answer⟩ := out
    have hnotes := notes_noticeText a
    unfold Turn.lines
    dsimp only at h ⊢
    by_cases hquery : a.name = "query"
    · obtain ⟨demand, more, rfl, hmore⟩ := h.exists_answer hquery rfl
      obtain ⟨body, hbody, hanswer⟩ := exists_rendered answer
      have haction : a.isAction = true := by
        rw [isAction_iff_mem, hquery]
        decide
      rw [if_pos haction, if_pos hquery, hanswer]
      exact .query hquery rfl hmore hnotes hbody
    · rw [if_neg hquery, List.append_nil]
      split
      · next haction => exact .action (isAction_iff_mem.mp haction) hquery hnotes
      · next haction => exact .other (mt isAction_iff_mem.mpr haction)

theorem told_map_event (calls : List Exchange) :
    told (calls.map Exchange.event) = calls.map Exchange.event := by
  refine List.filter_eq_self.mpr fun e he => ?_
  obtain ⟨c, -, rfl⟩ := List.mem_map.mp he
  unfold Exchange.event
  cases c.call <;> rfl

theorem Taken.tells {w w' : σ} {t : Turn} (h : Taken partners.overheard host w t w') :
    t.Tells (told t.block) := by
  rw [told_block, h.events_eq, told_map_event]
  exact .block (announces_announcement t.argument) h.way.asks h.way.closes

end PageScript.Walk

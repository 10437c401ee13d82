import Mathlib.Data.List.Forall2
import PageScript.Proofs.Report.Record

/-!
# What the calls of a report leave in its records

A report may be called in any order: a step may be finished twice or not at all, and something may
be finished before anything has begun.  The calls that are made while a step is the newest, with the
argument that the step was begun for, are its *tenure*; `tenures` cuts the calls of a report into
them.  The record of a step is what its tenure says and nothing else (`Step.Tells`).

A call is looked at in one lemma, `make_result`: it succeeds and changes the report as
`Call.effect` says.  Calls in a row then leave the steps before the newest one as they are, change
the newest one as far as its tenure goes, and put new steps behind it (`exists_steps_of_newest`).
`reported_tells` says so of all the calls of a new report.
-/

namespace PageScript.Report

variable {σ : Type}

/-- A call of a report while a run goes on. -/
inductive Call
  | progress (a : Argument)
  | completed (a : Argument)
  | failed (a : Argument) (failure : Failure)
  | answer (value : Json)

/-- Make a call of a report. -/
def Call.make (r : Report) : Call → Act σ Report
  | progress a => r.progress a
  | completed a => r.completed a
  | failed a failure => r.failed a failure
  | answer value => do
    Report.answer value
    return r

/-- Make calls of a new report, one after the other. -/
def reported (url : Option String) (browser : Value) (headed : Bool) (calls : List Call) :
    Act σ Report := do
  let r ← start url browser headed
  calls.foldlM Call.make r

/-! ### Tenures -/

/-- The argument that a call begins a step for. -/
def Call.begun? : Call → Option Argument
  | progress a => some a
  | _ => none

/-- How a step stands after a call that finishes it. -/
def Call.verdict? : Call → Option Standing
  | completed _ => some .passed
  | failed _ _ => some .failed
  | _ => none

/-- What a call complains of, if it says so. -/
def Call.complaint? : Call → Option String
  | failed _ failure => if failure.message = "" then none else some failure.message
  | _ => none

/-- The argument that a step is begun for, and the calls that are made while it is the newest. -/
structure Tenure where
  argument : Argument
  calls : List Call

/-- The calls before a next step is begun. -/
def untilNext (calls : List Call) : List Call := calls.takeWhile (·.begun?.isNone)

/-- The tenures of the steps that calls begin. -/
def tenures : List Call → List Tenure
  | [] => []
  | .progress a :: calls => ⟨a, untilNext calls⟩ :: tenures calls
  | _ :: calls => tenures calls

/-- A step tells of a tenure: it stands as the last call says that finished it, an ending is noted
if there was such a call, and its error is the last one that was said. -/
structure Step.Tells (s : Step) (n : Nat) (t : Tenure) : Prop where
  index_eq : s.index = n
  name_eq : s.name = t.argument.name
  value_eq : s.value = t.argument.value
  standing_eq : s.standing = (t.calls.filterMap Call.verdict?).getLast?.getD .running
  ended_iff : s.ended = none ↔ s.standing = .running
  error_eq : s.error = (t.calls.filterMap Call.complaint?).getLast?

theorem Call.eq_progress {c : Call} {a : Argument} (h : c.begun? = some a) : c = .progress a := by
  cases c with
  | progress b => exact congrArg _ (Option.some.inj h)
  | completed b => cases h
  | failed b failure => cases h
  | answer value => cases h

theorem tenures_of_begun?_eq_none {c : Call} (h : c.begun? = none) (calls : List Call) :
    tenures (c :: calls) = tenures calls := by
  cases c with
  | progress a => cases h
  | completed a => rfl
  | failed a failure => rfl
  | answer value => rfl

theorem map_argument_tenures (calls : List Call) :
    (tenures calls).map Tenure.argument = calls.filterMap Call.begun? := by
  induction calls with
  | nil => rfl
  | cons c calls ih =>
    cases h : c.begun? with
    | some a =>
      obtain rfl := Call.eq_progress h
      rw [List.filterMap_cons_some h, tenures, List.map_cons, ih]
    | none => rw [tenures_of_begun?_eq_none h, ih, List.filterMap_cons_none h]

/-! ### One call -/

/-- The report after a call at a time. -/
def Call.effect (r : Report) (time : Float) : Call → Report
  | progress a => r.record a.name a.value time
  | completed _ => r.finish .passed none time
  | failed _ failure => r.finish .failed (some failure.message) time
  | answer _ => r

/-- The newest step after a call at a time. -/
def Call.change (s : Step) (time : Float) : Call → Step
  | completed _ => s.finish .passed none time
  | failed _ failure => s.finish .failed (some failure.message) time
  | progress _ | answer _ => s

/-- Without a step there is nothing to finish. -/
theorem finish_of_nil {r : Report} (h : r.steps = []) (standing : Standing)
    (error : Option String) (time : Float) : r.finish standing error time = r := by
  obtain ⟨url, browser, headed, started, steps, artifacts, status, complaint⟩ := r
  subst h
  rfl

theorem finishNow_of_nil {r : Report} (h : r.steps = []) (standing : Standing)
    (error : Option String) (host : Host σ) (w : σ) :
    r.finishNow standing error host w = ⟨.ok r, [], w⟩ := by
  simp only [finishNow, h]
  rfl

theorem finishNow_result (r : Report) (standing : Standing) (error : Option String)
    (host : Host σ) (w : σ) :
    (r.finishNow standing error host w).result = .ok (r.finish standing error (host.now w).1) := by
  by_cases h : r.steps = []
  · rw [finishNow_of_nil h, finish_of_nil h]
  · rw [finishNow_apply h]

/-- A call succeeds, whatever was called before. -/
theorem make_result (c : Call) (r : Report) (host : Host σ) (w : σ) :
    (c.make r host w).result = .ok (c.effect r (host.now w).1) := by
  cases c with
  | progress a => rfl
  | completed a =>
    rw [Call.make, completed, Act.bind_of_ok (finishNow_result r .passed none host w)]
    cases a.isAction <;> rfl
  | failed a failure =>
    rw [Call.make, failed,
      Act.bind_of_ok (finishNow_result r .failed (some failure.message) host w)]
    rfl
  | answer value => rfl

/-- Before the first step a call that begins none changes nothing, and does not take time. -/
theorem make_of_nil {c : Call} {r : Report} (h : r.steps = []) (hc : c.begun? = none)
    (host : Host σ) (w : σ) :
    (c.make r host w).result = .ok r ∧ (c.make r host w).world = w := by
  cases c with
  | progress a => cases hc
  | completed a =>
    have hfinish := finishNow_of_nil h .passed none host w
    rw [Call.make, completed, Act.bind_of_ok (congrArg Outcome.result hfinish), hfinish]
    cases a.isAction <;> exact ⟨rfl, rfl⟩
  | failed a failure =>
    have hfinish := finishNow_of_nil h .failed (some failure.message) host w
    rw [Call.make, failed, Act.bind_of_ok (congrArg Outcome.result hfinish), hfinish]
    exact ⟨rfl, rfl⟩
  | answer value => exact ⟨rfl, rfl⟩

/-- A call that begins no step changes the newest one only. -/
theorem steps_effect {c : Call} (hc : c.begun? = none) {r : Report} {older : List Step} {s : Step}
    (h : r.steps = older ++ [s]) (time : Float) :
    (c.effect r time).steps = older ++ [c.change s time] := by
  cases c with
  | progress a => cases hc
  | completed a => rw [Call.effect, finish, h, changeLast_concat, Call.change]
  | failed a failure => rw [Call.effect, finish, h, changeLast_concat, Call.change]
  | answer value => rw [Call.effect, h, Call.change]

/-! ### The newest step -/

/-- What calls make of a step that is the newest all the while. -/
structure Step.Becomes (s : Step) (calls : List Call) (s' : Step) : Prop where
  index_eq : s'.index = s.index
  name_eq : s'.name = s.name
  value_eq : s'.value = s.value
  standing_eq : s'.standing = (calls.filterMap Call.verdict?).getLast?.getD s.standing
  ended_iff : (s.ended = none ↔ s.standing = .running) →
    (s'.ended = none ↔ s'.standing = .running)
  error_eq : s'.error = (calls.filterMap Call.complaint?).getLast?.or s.error

theorem Step.Becomes.nil (s : Step) : s.Becomes [] s := ⟨rfl, rfl, rfl, rfl, id, rfl⟩

theorem Step.Becomes.append {s s' s'' : Step} {calls more : List Call} (h : s.Becomes calls s')
    (h' : s'.Becomes more s'') : s.Becomes (calls ++ more) s'' where
  index_eq := h'.index_eq.trans h.index_eq
  name_eq := h'.name_eq.trans h.name_eq
  value_eq := h'.value_eq.trans h.value_eq
  standing_eq := by
    rw [h'.standing_eq, h.standing_eq, List.filterMap_append, List.getLast?_append, Option.getD_or]
  ended_iff := h'.ended_iff ∘ h.ended_iff
  error_eq := by
    rw [h'.error_eq, h.error_eq, List.filterMap_append, List.getLast?_append, Option.or_assoc]

theorem becomes_change {c : Call} (hc : c.begun? = none) (s : Step) (time : Float) :
    s.Becomes [c] (c.change s time) := by
  cases c with
  | progress a => cases hc
  | completed a => exact ⟨rfl, rfl, rfl, rfl, fun _ => by simp [Call.change, Step.finish], rfl⟩
  | failed a failure =>
    refine ⟨rfl, rfl, rfl, rfl, fun _ => by simp [Call.change, Step.finish], ?_⟩
    by_cases h : failure.message = "" <;>
      simp [Call.change, Step.finish, Call.complaint?, h]
  | answer value => exact ⟨rfl, rfl, rfl, rfl, id, rfl⟩

/-- A step that has just begun tells of its tenure after it. -/
theorem Step.Becomes.tells {n : Nat} {a : Argument} {time : Float} {calls : List Call} {s : Step}
    (h : Step.Becomes { index := n, name := a.name, value := a.value, started := time } calls s) :
    s.Tells n ⟨a, calls⟩ where
  index_eq := h.index_eq
  name_eq := h.name_eq
  value_eq := h.value_eq
  standing_eq := h.standing_eq
  ended_iff := h.ended_iff (iff_of_true rfl rfl)
  error_eq := h.error_eq.trans (Option.or_none ..)

/-! ### Calls in a row -/

/-- Steps tell of tenures, one each, numbered from `n` on. -/
def AllTell (n : Nat) (ts : List Tenure) (steps : List Step) : Prop :=
  List.Forall₂ (fun t s => Step.Tells s t.2 t.1) (ts.zipIdx n) steps

theorem Step.Tells.cons {n : Nat} {t : Tenure} {ts : List Tenure} {s : Step} {steps : List Step}
    (h : s.Tells n t) (hs : AllTell (n + 1) ts steps) : AllTell n (t :: ts) (s :: steps) := by
  rw [AllTell, List.zipIdx_cons]
  exact .cons h hs

theorem foldlM_make_cons (c : Call) (calls : List Call) (r : Report) (host : Host σ) (w : σ) :
    ((c :: calls).foldlM Call.make r host w).result =
      (calls.foldlM Call.make (c.effect r (host.now w).1) host (c.make r host w).world).result := by
  rw [List.foldlM_cons, Act.bind_of_ok (make_result c r host w)]

/-- Calls leave the steps before the newest one alone, change the newest one as far as its tenure
goes, and put the steps that they begin behind it. -/
theorem exists_steps_of_newest (calls : List Call) {r : Report} {older : List Step} {s : Step}
    (h : r.steps = older ++ [s]) (host : Host σ) (w : σ) :
    ∃ r' s' newer, (calls.foldlM Call.make r host w).result = .ok r' ∧
      r'.steps = older ++ s' :: newer ∧ s.Becomes (untilNext calls) s' ∧
      AllTell (older.length + 2) (tenures calls) newer := by
  induction calls generalizing r older s w with
  | nil => exact ⟨r, s, [], rfl, h, .nil s, .nil⟩
  | cons c calls ih =>
    rw [foldlM_make_cons]
    cases hc : c.begun? with
    | none =>
      obtain ⟨r', s', newer, hresult, hsteps, hbecomes, hnewer⟩ :=
        ih (steps_effect hc h (host.now w).1) (c.make r host w).world
      refine ⟨r', s', newer, hresult, hsteps, ?_, ?_⟩
      · rw [untilNext, List.takeWhile_cons_of_pos (by rw [hc]; rfl)]
        exact (becomes_change hc s _).append hbecomes
      · rwa [tenures_of_begun?_eq_none hc]
    | some a =>
      obtain rfl := Call.eq_progress hc
      -- The step that was the newest so far is among the older ones from now on.
      obtain ⟨r', s', newer, hresult, hsteps, hbecomes, hnewer⟩ :=
        ih (show (r.record a.name a.value (host.now w).1).steps = r.steps ++ [_] from rfl)
          (Call.make r (.progress a) host w).world
      rw [h, List.append_assoc] at hsteps
      rw [h, List.length_append, List.length_singleton] at hbecomes hnewer
      exact ⟨r', s, s' :: newer, hresult, hsteps, .nil s, hbecomes.tells.cons hnewer⟩

/-- A step that is begun behind some steps leaves these as they are, whatever is called later. -/
theorem exists_steps_of_progress (a : Argument) (later : List Call) (r : Report) (host : Host σ)
    (w : σ) :
    ∃ r' newer, ((.progress a :: later).foldlM Call.make r host w).result = .ok r' ∧
      r'.steps = r.steps ++ newer ∧
      AllTell (r.steps.length + 1) (tenures (.progress a :: later)) newer := by
  rw [foldlM_make_cons]
  obtain ⟨r', s', newer, hresult, hsteps, hbecomes, hnewer⟩ := exists_steps_of_newest later
    (show (r.record a.name a.value (host.now w).1).steps = r.steps ++ [_] from rfl) host
    (Call.make r (.progress a) host w).world
  exact ⟨r', s' :: newer, hresult, hsteps, hbecomes.tells.cons hnewer⟩

/-- Calls before the first step do not matter. -/
theorem foldlM_make_append_of_nil {early : List Call} (hearly : ∀ c ∈ early, c.begun? = none)
    {r : Report} (h : r.steps = []) (calls : List Call) (host : Host σ) (w : σ) :
    ((early ++ calls).foldlM Call.make r host w).result =
      (calls.foldlM Call.make r host w).result := by
  induction early with
  | nil => rfl
  | cons c early ih =>
    obtain ⟨hc, hearly⟩ := List.forall_mem_cons.mp hearly
    obtain ⟨hresult, hworld⟩ := make_of_nil h hc host w
    rw [List.cons_append, List.foldlM_cons, Act.bind_of_ok hresult, hworld]
    exact ih hearly

/-- The steps that calls begin in a report without steps. -/
theorem exists_steps_of_nil (calls : List Call) {r : Report} (h : r.steps = []) (host : Host σ)
    (w : σ) :
    ∃ r', (calls.foldlM Call.make r host w).result = .ok r' ∧
      AllTell 1 (tenures calls) r'.steps := by
  induction calls with
  | nil =>
    refine ⟨r, rfl, ?_⟩
    rw [h]
    exact .nil
  | cons c calls ih =>
    cases hc : c.begun? with
    | none =>
      have hearly : ∀ d ∈ [c], d.begun? = none := List.forall_mem_singleton.mpr hc
      rw [← List.singleton_append, foldlM_make_append_of_nil hearly h, List.singleton_append,
        tenures_of_begun?_eq_none hc]
      exact ih
    | some a =>
      obtain rfl := Call.eq_progress hc
      obtain ⟨r', newer, hresult, hsteps, hnewer⟩ := exists_steps_of_progress a calls r host w
      rw [h, List.nil_append] at hsteps
      rw [h, ← hsteps] at hnewer
      exact ⟨r', hresult, hnewer⟩

/-! ### New reports -/

/-- The calls of a new report are calls of a report without steps. -/
theorem exists_reported_result (url : Option String) (browser : Value) (headed : Bool)
    (host : Host σ) (w : σ) :
    ∃ r w', r.steps = [] ∧ ∀ calls, (reported url browser headed calls host w).result =
      (calls.foldlM Call.make r host w').result := by
  have hstart : start url browser headed host w =
      ⟨.ok { url, browser, headed, started := (host.now w).1 }, [], (host.now w).2⟩ := rfl
  refine ⟨{ url, browser, headed, started := (host.now w).1 }, (host.now w).2, rfl, fun calls => ?_⟩
  rw [reported, Act.bind_of_ok (congrArg Outcome.result hstart), hstart]

/-- However a new report is called, its steps tell of the tenures of the calls, in order and numbered
from one.  No call from the beginning of a next step on changes a step that is there already, and
none before the first step matters. -/
theorem reported_tells (url : Option String) (browser : Value) (headed : Bool) (calls : List Call)
    (host : Host σ) (w : σ) :
    ∃ r, (reported url browser headed calls host w).result = .ok r ∧
      AllTell 1 (tenures calls) r.steps ∧
      (tenures calls).map Tenure.argument = calls.filterMap Call.begun? ∧
      (∀ a later, ∃ r',
        (reported url browser headed (calls ++ .progress a :: later) host w).result = .ok r' ∧
        r.steps <+: r'.steps) ∧
      ∀ early, (∀ c ∈ early, c.begun? = none) →
        (reported url browser headed (early ++ calls) host w).result = .ok r := by
  obtain ⟨new, w', hnew, hreported⟩ := exists_reported_result url browser headed host w
  obtain ⟨r, hresult, hsteps⟩ := exists_steps_of_nil calls hnew host w'
  refine ⟨r, (hreported calls).trans hresult, hsteps, map_argument_tenures calls, ?_, ?_⟩
  · intro a later
    obtain ⟨r', newer, hlater, hnewer, -⟩ := exists_steps_of_progress a later r host
      (calls.foldlM Call.make new host w').world
    refine ⟨r', ?_, newer, hnewer.symm⟩
    rw [hreported, List.foldlM_append, Act.bind_of_ok hresult]
    exact hlater
  · intro early hearly
    rw [hreported, foldlM_make_append_of_nil hearly hnew, hresult]

end PageScript.Report

import PageScript.Proofs.Agent.Conduct
import PageScript.Proofs.Model.PlanGrammar
import PageScript.Rehearsal

/-!
# Planned steps

A plan is taken as a whole or refused as a whole, and nothing is done on the page before it is
taken.  Then its steps are carried out in turn, each in the surroundings that the one before has
left, up to the first that fails (`InTurn`).

`act_refuses_or_carries_plan` states it of an instruction, from the model's reply on.
-/

namespace PageScript.Agent

open PageScript.Act PageScript.Model PageScript.Page

variable {σ : Type} {agent : Agent σ} {host : Host σ} {w : σ}

/-! ### One step -/

theorem ofName?_eq_some_iff {s : String} {op : Operation} :
    Operation.ofName? s = some op ↔ op.name = s := by
  constructor
  · intro h
    simpa using List.find?_some h
  · rintro rfl
    cases op <;> rfl

theorem ofName?_eq_none_iff {s : String} :
    Operation.ofName? s = none ↔ ∀ op : Operation, op.name ≠ s := by
  rw [Option.eq_none_iff_forall_ne_some]
  exact forall_congr' fun op => not_congr ofName?_eq_some_iff

theorem eq_of_name_eq {op op' : Operation} (h : op.name = op'.name) : op = op' := by
  have hop := ofName?_eq_some_iff.mpr h
  rw [ofName?_eq_some_iff.mpr rfl] at hop
  exact (Option.some.inj hop).symm

/-- What a step comes to: what the operation of its kind does with its selector, its value and the
agent's time, or nothing if there is no such operation. -/
inductive StepGives (agent : Agent σ) (host : Host σ) (w : σ) (s : PlannedStep) :
    Outcome σ Unit → Prop
  | performed {op : Operation} (h : op.name = s.kind) :
      StepGives agent host w s <| op.perform
        { selector := some (Schema.ofText? s.selector), value := some (Schema.ofText? s.value),
          timeout := some agent.timeout } host w
  | unsupported (h : ∀ op : Operation, op.name ≠ s.kind) :
      StepGives agent host w s ⟨.error (.unsupportedStep s.kind), [], w⟩

theorem stepGives_runStep (agent : Agent σ) (s : PlannedStep) (host : Host σ) (w : σ) :
    StepGives agent host w s (agent.runStep s host w) := by
  unfold runStep
  cases hop : Operation.ofName? s.kind with
  | none => exact .unsupported (ofName?_eq_none_iff.mp hop)
  | some op => exact .performed (ofName?_eq_some_iff.mp hop)

/-! ### Steps in turn -/

/-- The line that a step is announced with. -/
def announcement (s : PlannedStep) : Event := .console (stepLine s ++ "\n")

/-- Steps that are carried out in turn, with what they come to: each in the surroundings that the
one before has left, and none after a failure. -/
inductive InTurn (agent : Agent σ) (host : Host σ) : σ → List (PlannedStep × Outcome σ Unit) → Prop
  | nil (w : σ) : InTurn agent host w []
  | failing {w : σ} {s : PlannedStep} {outcome : Outcome σ Unit} {failure : Failure}
      (h : StepGives agent host w s outcome) (hresult : outcome.result = .error failure) :
      InTurn agent host w [(s, outcome)]
  | passing {w : σ} {s : PlannedStep} {outcome : Outcome σ Unit}
      {rest : List (PlannedStep × Outcome σ Unit)} (h : StepGives agent host w s outcome)
      (hresult : outcome.result = .ok ()) (hrest : InTurn agent host outcome.world rest) :
      InTurn agent host w ((s, outcome) :: rest)

/-- Whether a step that has been carried out has succeeded. -/
def HasPassed (run : PlannedStep × Outcome σ Unit) : Prop := run.2.result = .ok ()

/-- Steps are carried out up to the first that fails, or to the last. -/
structure Carried (agent : Agent σ) (host : Host σ) (w : σ) (steps : List PlannedStep)
    (runs : List (PlannedStep × Outcome σ Unit)) (outcome : Outcome σ Unit) : Prop where
  inTurn : InTurn agent host w runs
  leading : runs.map Prod.fst <+: steps
  events : outcome.events = runs.flatMap fun (s, gives) => announcement s :: gives.events
  ok_iff : outcome.result = .ok () ↔ runs.map Prod.fst = steps ∧ ∀ run ∈ runs, HasPassed run
  failing {failure : Failure} (h : outcome.result = .error failure) :
    ∃ front last, runs = front ++ [last] ∧ last.2.result = .error failure ∧
      ∀ run ∈ front, HasPassed run

/-- A step that fails is the last. -/
theorem carried_of_failing {s : PlannedStep} {rest : List PlannedStep} {failure : Failure}
    {events : List Event} {v : σ} (h : StepGives agent host w s ⟨.error failure, events, v⟩) :
    Carried agent host w (s :: rest) [(s, ⟨.error failure, events, v⟩)]
      ⟨.error failure, announcement s :: events, v⟩ where
  inTurn := .failing h rfl
  leading := ⟨rest, rfl⟩
  events := by simp
  ok_iff := by simp [HasPassed]
  failing hresult := ⟨[], _, rfl, hresult, nofun⟩

/-- A step that succeeds is followed by the others. -/
theorem Carried.of_passing {s : PlannedStep} {rest : List PlannedStep} {events : List Event}
    {v : σ} {runs : List (PlannedStep × Outcome σ Unit)} {outcome : Outcome σ Unit}
    (hcarried : Carried agent host v rest runs outcome)
    (h : StepGives agent host w s ⟨.ok (), events, v⟩) :
    Carried agent host w (s :: rest) ((s, ⟨.ok (), events, v⟩) :: runs)
      ⟨outcome.result, announcement s :: (events ++ outcome.events), outcome.world⟩ where
  inTurn := .passing h rfl hcarried.inTurn
  leading := List.cons_prefix_cons.mpr ⟨rfl, hcarried.leading⟩
  events := by simp [hcarried.events]
  ok_iff := by simp [hcarried.ok_iff, HasPassed]
  failing hresult := by
    obtain ⟨front, last, rfl, hlast, hfront⟩ := hcarried.failing hresult
    exact ⟨_ :: front, last, rfl, hlast, List.forall_mem_cons.mpr ⟨rfl, hfront⟩⟩

theorem exists_carried (agent : Agent σ) (steps : List PlannedStep) (host : Host σ) (w : σ) :
    ∃ runs, Carried agent host w steps runs (agent.runSteps steps host w) := by
  induction steps generalizing w with
  | nil => exact ⟨[], .nil w, List.prefix_rfl, rfl, by simp [runSteps], nofun⟩
  | cons s rest ih =>
    -- The announcement comes before the step, also before one that cannot be carried out.
    have hgives := stepGives_runStep agent s host w
    have hsay : Act.say (stepLine s) host w = ⟨.ok (), [announcement s], w⟩ := rfl
    rw [runSteps, bind_eq_of_ok hsay]
    rcases hstep : agent.runStep s host w with ⟨failure | ⟨⟩, events, v⟩
    · rw [hstep] at hgives
      rw [bind_eq_of_error hstep]
      exact ⟨_, carried_of_failing hgives⟩
    · rw [hstep] at hgives
      rw [bind_eq_of_ok hstep]
      obtain ⟨runs, hruns⟩ := ih v
      exact ⟨_, hruns.of_passing hgives⟩

/-! ### From the reply on -/

section Reply

variable {instruction reply : String} {observation : Observation} {seen replied : List Event}
  {v v' : σ}

/-- Nothing is done on a page while it is read. -/
theorem not_command_of_perceive (host : Host σ) (w : σ) (c : Browser.Command)
    (refusal : Option Failure) : .request (.command c) refusal ∉ (perceive host w).events := by
  have hcompositional := compositional_only (σ := σ) (P := (·.isReading = true))
    (E := fun e => ∀ c refusal, e ≠ .request (.command c) refusal)
    (fun r hr refusal c _ h => by cases h; cases hr)
    (fun e he c refusal h => by cases h; cases he)
  intro hmem
  exact madeOf_perceive.holds hcompositional host w _ hmem c refusal rfl

/-- A reply without JSON is a failure of the model. -/
theorem isModel_of_extract {failure : Failure} (h : extract reply = .error failure) :
    failure.isModel = true := by
  simp only [extract] at h
  split at h
  · cases h
  · obtain rfl := Except.error.inj h
    rfl

/-- What the agent hears when the page can be read and the model replies. -/
theorem ask_of_reply (promptOf : String → String)
    (hperceive : perceive host w = ⟨.ok observation, seen, v⟩)
    (hcomplete : agent.complete (promptOf observation.prompt) host v =
      ⟨.ok (.string reply), replied, v'⟩) :
    agent.ask promptOf host w = ⟨extract reply, seen ++ replied, v'⟩ := by
  rw [Agent.ask, bind_eq_of_ok hperceive, bind_ofExcept, hcomplete]
  simp [bind, Except.bind, readCompletion]

/-- What an instruction comes to when the model's reply to it is known. -/
theorem act_apply (hperceive : perceive host w = ⟨.ok observation, seen, v⟩)
    (hcomplete : agent.complete (actionPrompt kinds observation.prompt instruction) host v =
      ⟨.ok (.string reply), replied, v'⟩) :
    agent.act instruction host w =
      match extract reply >>= fun data =>
          planOf (host.wording "ActionPlan" (planData data)) instruction data with
      | .error failure => ⟨.error failure, seen ++ replied, v'⟩
      | .ok plan =>
        let outcome := agent.runSteps plan.steps host v'
        ⟨outcome.result, seen ++ replied ++ outcome.events, outcome.world⟩ := by
  have hplan : agent.plan instruction host w =
      ⟨extract reply >>= fun data =>
        planOf (host.wording "ActionPlan" (planData data)) instruction data,
        seen ++ replied, v'⟩ := by
    rw [Agent.plan, bind_complaint_ofExcept _ "ActionPlan" planData
        fun text => planOf text instruction,
      ask_of_reply (fun page => actionPrompt kinds page instruction) hperceive hcomplete]
  rw [act]
  cases hresult : extract reply >>= fun data =>
      planOf (host.wording "ActionPlan" (planData data)) instruction data with
  | error failure =>
    rw [hresult] at hplan
    exact bind_eq_of_error hplan
  | ok plan =>
    rw [hresult] at hplan
    exact bind_eq_of_ok hplan

/-- An agent whose model always says the same. -/
def replyingAgent (reply : String) : Agent σ where
  complete _ := return .string reply
  timeout := .integer 7000

/-- An instruction is refused before anything is done on the page, or its plan is carried out. -/
theorem act_refuses_or_carries_plan
    (hperceive : perceive host w = ⟨.ok observation, seen, v⟩)
    (hcomplete : agent.complete (actionPrompt kinds observation.prompt instruction) host v =
      ⟨.ok (.string reply), replied, v'⟩) :
    (∀ c refusal, .request (.command c) refusal ∉ seen) ∧
    (∀ failure, extract reply = .error failure → failure.isModel = true ∧
      agent.act instruction host w = ⟨.error failure, seen ++ replied, v'⟩) ∧
    (∀ data, extract reply = .ok data → (∀ steps, IsPlan data steps → steps = []) →
      ∃ failure, failure.isAgent = true ∧ failure.isModel = false ∧
        agent.act instruction host w = ⟨.error failure, seen ++ replied, v'⟩) ∧
    (∀ data steps, extract reply = .ok data → IsPlan data steps → steps ≠ [] →
      ∃ runs outcome, Carried agent host v' steps runs outcome ∧
        agent.act instruction host w =
          ⟨outcome.result, seen ++ replied ++ outcome.events, outcome.world⟩) ∧
    ∀ kind, (Failure.unsupportedStep kind).isAgent = true := by
  have hact := act_apply hperceive hcomplete
  refine ⟨?_, fun failure hextract => ?_, fun data hextract hnone => ?_,
    fun data steps hextract hplan hsteps => ?_, fun _ => rfl⟩
  · intro c refusal hmem
    exact not_command_of_perceive host w c refusal (by rwa [hperceive])
  · rw [hextract] at hact
    exact ⟨isModel_of_extract hextract, hact⟩
  · obtain ⟨failure, hfailure, hagent, hmodel⟩ :=
      planOf_of_not_isPlan hnone (host.wording "ActionPlan" (planData data)) instruction
    rw [hextract] at hact
    refine ⟨failure, hagent, hmodel, ?_⟩
    rw [hact]
    simp [bind, Except.bind, hfailure]
  · obtain ⟨runs, hruns⟩ := exists_carried agent steps host v'
    refine ⟨runs, _, hruns, ?_⟩
    rw [hact, hextract]
    simp [bind, Except.bind, planOf_of_isPlan hplan hsteps]

/-- A plan whose second step is of no kind that there is. -/
theorem act_refuses_or_carries_plan_unsupported :
    let agent : Agent Rehearsal.Script :=
      replyingAgent "[\x7b\"type\": \"Scroll\"\x7d, \x7b\"type\": \" Teleport\"\x7d]"
    ∃ seen v runs outcome, (∀ c refusal, .request (.command c) refusal ∉ seen) ∧
      Carried agent Rehearsal.host v [⟨"scroll", none, none⟩, ⟨"teleport", none, none⟩] runs
        outcome ∧
      agent.act "go there" Rehearsal.host {} =
        ⟨outcome.result, seen ++ outcome.events, outcome.world⟩ := by
  intro agent
  have hscroll : IsStep (.object [("type", .string "Scroll")]) ⟨"scroll", none, none⟩ := by
    rw [show "scroll" = Text.lower (Text.trim "Scroll") by decide +kernel]
    exact .object rfl .absent .absent
  have hteleport : IsStep (.object [("type", .string " Teleport")]) ⟨"teleport", none, none⟩ := by
    rw [show "teleport" = Text.lower (Text.trim " Teleport") by decide +kernel]
    exact .object rfl .absent .absent
  obtain ⟨observation, seen, v, hperceive⟩ : ∃ observation seen v,
      perceive Rehearsal.host {} = ⟨.ok observation, seen, v⟩ := ⟨_, _, _, rfl⟩
  have hcomplete : agent.complete (actionPrompt kinds observation.prompt "go there") Rehearsal.host
      v = ⟨.ok (.string _), [], v⟩ := rfl
  have hlaw := act_refuses_or_carries_plan hperceive hcomplete
  obtain ⟨runs, outcome, hruns, hact⟩ := hlaw.2.2.2.1 _ _ rfl
    (.bare (.cons hscroll (.cons hteleport .nil))) (by simp)
  exact ⟨_, _, runs, outcome, hlaw.1, hruns, by simpa using hact⟩

end Reply
end PageScript.Agent

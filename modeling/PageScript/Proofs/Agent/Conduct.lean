import PageScript.Agent.Basic
import PageScript.Model.Client
import PageScript.Proofs.MadeOf

/-!
# The conduct of the page agent

Whatever it is told, the page agent reads the page, operates on it and asks its model.
`Agent.madeOf_perform` states it of an agent whose model is asked by such means too; the part on the
page is proved operation by operation.
-/

namespace PageScript

open PageScript.Act PageScript.Browser

variable {σ : Type}

/-! ### Looking at the page -/

namespace Page

theorem madeOf_orElse {α : Type} {x : Act σ α} (h : MadeOf (·.isReading) x) (default : α) :
    MadeOf (·.isReading) (orElse x default) :=
  h.rescue fun _ => .pure default

theorem madeOf_readAttribute (l : Locator) (name : String) :
    MadeOf (·.isReading) (readAttribute l name : Act σ _) :=
  .ask rfl

theorem madeOf_readTexts : MadeOf (·.isReading) (readTexts : Act σ _) := by
  refine madeOf_orElse ?_ []
  exact MadeOf.bind (.ask rfl) fun _ => .pure _

theorem madeOf_hintFrom (l : Locator) (sources : List (String × (String → String))) :
    MadeOf (·.isReading) (hintFrom l sources : Act σ _) := by
  induction sources with
  | nil => exact .pure none
  | cons source rest ih =>
    refine (madeOf_readAttribute l source.1).bind fun s => ?_
    split
    · exact ih
    · exact ih
    · exact .pure _

theorem madeOf_firstTelling (l : Locator) (names : List String) :
    MadeOf (·.isReading) (firstTelling l names : Act σ _) := by
  fun_induction firstTelling l names with
  | case1 => exact .pure none
  | case2 name => exact madeOf_readAttribute l name
  | case3 name rest _ ih =>
    refine (madeOf_readAttribute l name).bind fun s => ?_
    exact .ite (.pure s) ih

theorem madeOf_describe (l : Locator) (kind label : String) :
    MadeOf (·.isReading) (describe l kind label : Act σ _) := by
  refine madeOf_orElse ?_ none
  refine (madeOf_readAttribute l "id").bind fun _ => ?_
  refine (madeOf_readAttribute l "name").bind fun _ => ?_
  refine (madeOf_readAttribute l "aria-label").bind fun _ => ?_
  refine (madeOf_readAttribute l "data-testid").bind fun _ => ?_
  refine (madeOf_orElse (madeOf_hintFrom l hintSources) none).bind fun _ => ?_
  exact .pure _

theorem madeOf_describeButton (l : Locator) :
    MadeOf (·.isReading) (describeButton l : Act σ _) := by
  refine (madeOf_orElse ?_ "").bind fun label => madeOf_describe l "button" label
  exact MadeOf.bind (.ask rfl) fun _ => .pure _

theorem madeOf_describeInput (l : Locator) : MadeOf (·.isReading) (describeInput l : Act σ _) :=
  (madeOf_orElse (madeOf_firstTelling l labelSources) none).bind fun _ =>
    madeOf_describe l "input" _

theorem madeOf_collectFrom {describeOne : Locator → Act σ (Option Element)}
    (h : ∀ l, MadeOf (·.isReading) (describeOne l)) (l : Locator) (index more : Nat) :
    MadeOf (·.isReading) (collectFrom l describeOne index more) := by
  induction more generalizing index with
  | zero => exact .pure []
  | succ more ih => exact (h _).bind fun _ => (ih (index + 1)).bind fun _ => .pure _

theorem madeOf_collect {describeOne : Locator → Act σ (Option Element)}
    (h : ∀ l, MadeOf (·.isReading) (describeOne l)) (l : Locator) (limit : Nat) :
    MadeOf (·.isReading) (collect l limit describeOne) :=
  MadeOf.bind (.ask rfl) fun _ => madeOf_collectFrom h l 0 _

theorem madeOf_perceive : MadeOf (·.isReading) (perceive : Act σ Observation) := by
  have htitle : MadeOf (·.isReading) (Act.ask .title : Act σ (Option String)) := .ask rfl
  have hdialog : MadeOf (·.isReading) (readDialog : Act σ Bool) :=
    madeOf_orElse (MadeOf.bind (.ask rfl) fun _ => .pure _) false
  refine (madeOf_orElse htitle none).bind fun _ => ?_
  refine hdialog.bind fun _ => ?_
  refine madeOf_readTexts.bind fun _ => ?_
  refine MadeOf.address.bind fun _ => ?_
  refine (madeOf_collect madeOf_describeButton buttonLocator buttonLimit).bind fun _ => ?_
  refine (madeOf_collect madeOf_describeInput inputLocator inputLimit).bind fun _ => ?_
  exact .pure _

/-! ### Working on the page -/

theorem madeOf_firstToShow (timeout : Json) (found : List Locator) :
    MadeOf (·.isOrdinary) (firstToShow timeout found : Act σ _) := by
  induction found with
  | nil => exact .pure none
  | cons l rest ih =>
    refine MadeOf.bind (.attempt (.ask rfl)) fun result => ?_
    cases result with
    | ok => exact .pure _
    | error failure => exact .ite ih (.fail failure)

theorem madeOf_pickVisible (css : String) (timeout : Json) :
    MadeOf (·.isOrdinary) (pickVisible css timeout : Act σ _) := by
  refine (MadeOf.ofExcept _).bind fun half => ?_
  refine MadeOf.bind (.ask rfl) fun _ => ?_
  exact madeOf_firstToShow _ _

theorem madeOf_goto (o : Operands) : MadeOf (·.isOrdinary) (goto o : Act σ Unit) := by
  refine MadeOf.address.bind fun _ => (MadeOf.ofExcept _).bind fun url => ?_
  exact .ite (.fail _) (.ask rfl)

theorem madeOf_clickFirst (timeout : Json) (found : List Locator) :
    MadeOf (·.isOrdinary) (clickFirst timeout found : Act σ _) := by
  induction found with
  | nil => exact .pure false
  | cons l rest ih =>
    refine MadeOf.bind (.attempt (.ask rfl)) fun result => ?_
    cases result with
    | ok => exact .pure _
    | error failure => exact .ite ih (.fail failure)

theorem madeOf_clickByText (o : Operands) : MadeOf (·.isOrdinary) (clickByText o : Act σ Unit) := by
  refine (MadeOf.ofExcept _).bind fun label => .ite (.fail _) ?_
  refine (MadeOf.ofExcept _).bind fun third => ?_
  refine (madeOf_clickFirst third (labelled label)).bind fun clicked => ?_
  exact .ite (.pure ()) (.fail _)

theorem madeOf_click (o : Operands) : MadeOf (·.isOrdinary) (click o : Act σ Unit) := by
  unfold click
  split
  · refine (madeOf_pickVisible _ o.time).bind fun found => ?_
    cases found with
    | some l => exact .ask rfl
    | none => exact .fail _
  · exact madeOf_clickByText o

theorem madeOf_press (o : Operands) : MadeOf (·.isOrdinary) (press o : Act σ Unit) := by
  unfold press
  split <;> exact .ask rfl

theorem madeOf_fill (o : Operands) : MadeOf (·.isOrdinary) (fill o : Act σ Unit) := by
  refine (madeOf_pickVisible _ o.time).bind fun found => ?_
  refine MadeOf.rescue (.ask rfl) fun _ => ?_
  refine (MadeOf.ofExcept _).bind fun short => ?_
  exact MadeOf.bind (.ask rfl) fun _ => .ask rfl

theorem madeOf_selectOption (o : Operands) :
    MadeOf (·.isOrdinary) (selectOption o : Act σ Unit) := by
  refine MadeOf.bind (.ask rfl) fun _ => ?_
  exact MadeOf.rescue (.ask rfl) fun _ => .ask rfl

theorem madeOf_perform (op : Operation) (o : Operands) :
    MadeOf (·.isOrdinary) (op.perform o : Act σ Unit) := by
  refine (MadeOf.ofExcept _).bind fun _ => ?_
  cases op with
  | goto => exact madeOf_goto o
  | click => exact madeOf_click o
  | press => exact madeOf_press o
  | scroll => exact .ask rfl
  | fill => exact madeOf_fill o
  | selectOption => exact madeOf_selectOption o
  | waitForSelector => exact .ask rfl

end Page

/-! ### Asking the model -/

namespace Model

theorem madeOf_checkHealth : MadeOf (·.isOrdinary) (checkHealth : Act σ Unit) :=
  MadeOf.bind (.ask rfl) fun _ => .ofExcept _

theorem madeOf_isHealthy : MadeOf (·.isOrdinary) (isHealthy : Act σ Bool) := by
  refine madeOf_checkHealth.attempt.bind fun result => ?_
  cases result with
  | ok => exact .pure _
  | error failure => exact .ite ((MadeOf.say _).bind fun _ => .pure _) (.fail failure)

theorem madeOf_post (q : Question) (patience : Value) :
    MadeOf (·.isOrdinary) (post q patience : Act σ Json) := by
  refine MadeOf.bind (.ask rfl) fun _ => ?_
  exact (MadeOf.ofExcept _).bind fun _ => .ofExcept _

theorem madeOf_tryPost (q : Question) (patience limit : Value) (attempt : Nat)
    {again : Failure → Act σ Json} (h : ∀ failure, MadeOf (·.isOrdinary) (again failure)) :
    MadeOf (·.isOrdinary) (tryPost q patience limit attempt again) := by
  refine (madeOf_post q patience).attempt.bind fun result => ?_
  cases result with
  | ok data => exact .pure data
  | error failure =>
    refine .ite ((MadeOf.say _).bind fun _ => h failure) ?_
    exact .ite (.fail _) (.fail failure)

theorem madeOf_postFrom (q : Question) (patience limit : Value) (attempt more : Nat) :
    MadeOf (·.isOrdinary) (postFrom q patience limit attempt more : Act σ Json) := by
  induction more generalizing attempt with
  | zero => exact madeOf_tryPost q patience limit attempt fun _ => .fail _
  | succ more ih =>
    refine madeOf_tryPost q patience limit attempt fun _ => ?_
    exact MadeOf.bind (.ask rfl) fun _ => ih (attempt + 1)

theorem madeOf_generate (q : Question) (patience limit : Value) :
    MadeOf (·.isOrdinary) (generate q patience limit : Act σ Json) := by
  refine madeOf_isHealthy.bind fun healthy => .ite (.fail _) ?_
  refine (MadeOf.ofExcept _).bind fun attempts => ?_
  exact (madeOf_postFrom q patience limit 1 _).bind fun _ => .ofExcept _

end Model

/-! ### The agent -/

namespace Agent

variable {agent : Agent σ} (h : ∀ prompt, MadeOf (·.isOrdinary) (agent.complete prompt))
include h

theorem madeOf_ask (promptOf : String → String) : MadeOf (·.isOrdinary) (agent.ask promptOf) :=
  (Page.madeOf_perceive.mono fun _ => Request.isOrdinary_of_isReading).bind fun _ =>
    (h _).bind fun _ => .ofExcept _

theorem madeOf_act (instruction : String) : MadeOf (·.isOrdinary) (agent.act instruction) := by
  have hrunStep (s : Model.PlannedStep) : MadeOf (·.isOrdinary) (agent.runStep s) := by
    unfold runStep
    split
    · exact .fail _
    · exact Page.madeOf_perform _ _
  have hrunSteps (steps : List Model.PlannedStep) :
      MadeOf (·.isOrdinary) (agent.runSteps steps) := by
    induction steps with
    | nil => exact .pure ()
    | cons s rest ih =>
      exact (MadeOf.say _).bind fun _ => (hrunStep s).bind fun _ => ih
  refine MadeOf.bind ?_ fun plan => hrunSteps plan.steps
  exact (madeOf_ask h _).bind fun _ => (MadeOf.complaint _ _).bind fun _ => .ofExcept _

/-- Whatever it is told, the agent does no more than use the browser. -/
theorem madeOf_perform (capability : Capability) (instruction : String) :
    MadeOf (·.isOrdinary) (agent.perform capability instruction) := by
  cases capability with
  | action => exact (madeOf_act h instruction).bind fun _ => .pure _
  | assertion =>
    refine MadeOf.bind ?_ fun _ => .pure _
    exact (madeOf_ask h _).bind fun _ => (MadeOf.complaint _ _).bind fun _ => .ofExcept _
  | query => exact (madeOf_ask h _).bind fun _ => .pure _

end Agent

end PageScript

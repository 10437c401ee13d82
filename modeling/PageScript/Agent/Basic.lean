import PageScript.Agent.Prompts
import PageScript.Model.Plan
import PageScript.Model.Reply
import PageScript.Model.Verdict
import PageScript.Page.Operation
import PageScript.Page.Perception

/-!
# The page agent

The agent looks at the page, asks a model what to do about an instruction, and does it.  A plan is
checked as a whole before its first step is carried out; the steps follow one another until one
fails.  An assertion holds if the model's verdict says so.  A query is answered with what the
model puts into its envelope, or with the bare value where there is no envelope.
-/

namespace PageScript

/-- An agent that works on a page by asking a model. -/
structure Agent (σ : Type) where
  /-- Completes a prompt. -/
  complete : String → Act σ Json
  /-- The time for one operation on the page, in milliseconds. -/
  timeout : Json

namespace Agent

open PageScript.Model PageScript.Page

/-- The names of the operations that a plan may use. -/
def kinds : List String := Operation.all.map Operation.name

/-- The value in a completion. -/
def readCompletion : Json → Except Failure Json
  | .string s => extract s
  | other => if other.holds then .error (.unsupported other.kind "strip") else extract ""

/-- Ask the model about the page. -/
def ask (agent : Agent σ) (promptOf : String → String) : Act σ Json := do
  let observation ← perceive
  let completion ← agent.complete (promptOf observation.prompt)
  Act.ofExcept (readCompletion completion)

/-! ### Actions -/

/-- A bare list of steps stands for a plan. -/
def planData : Json → Json
  | .array steps => .object [("steps", .array steps)]
  | data => data

/-- The plan in a reply, which must have steps; the checker complains of a reply that is none. -/
def planOf (complaint instruction : String) (reply : Json) : Except Failure Plan :=
  match Plan.check (planData reply) with
  | .error problems => .error (.planRejected instruction problems complaint)
  | .ok plan => if plan.steps.isEmpty then .error (.emptyPlan instruction) else .ok plan

/-- Plan an instruction. -/
def plan (agent : Agent σ) (instruction : String) : Act σ Plan := do
  let reply ← agent.ask fun page => actionPrompt kinds page instruction
  let complaint ← Act.complaint "ActionPlan" (planData reply)
  Act.ofExcept (planOf complaint instruction reply)

/-- The operands of a planned step. -/
def operands (agent : Agent σ) (s : PlannedStep) : Operands where
  selector := some (Schema.ofText? s.selector)
  value := some (Schema.ofText? s.value)
  timeout := some agent.timeout

/-- Carry out a planned step. -/
def runStep (agent : Agent σ) (s : PlannedStep) : Act σ Unit :=
  match Operation.ofName? s.kind with
  | none => Act.fail (.unsupportedStep s.kind)
  | some op => op.perform (agent.operands s)

/-- The line that announces a planned step. -/
def stepLine (s : PlannedStep) : String :=
  "[agent] " ++ s.kind ++ " selector=" ++ (Schema.ofText? s.selector).quoted ++ " value="
    ++ (Schema.ofText? s.value).quoted

/-- Announce planned steps and carry them out, up to the first that fails. -/
def runSteps (agent : Agent σ) : List PlannedStep → Act σ Unit
  | [] => return ()
  | s :: rest => do
    Act.say (stepLine s)
    agent.runStep s
    runSteps agent rest

/-- Carry out an instruction. -/
def act (agent : Agent σ) (instruction : String) : Act σ Unit := do
  let plan ← agent.plan instruction
  agent.runSteps plan.steps

/-! ### Assertions and queries -/

/-- Accept a reply that says that an assertion holds; the checker complains of one that is no
verdict. -/
def judge (complaint instruction : String) (reply : Json) : Except Failure Unit :=
  match Verdict.check reply with
  | .error problems => .error (.verdictRejected instruction problems complaint)
  | .ok verdict =>
    if verdict.passed then .ok () else .error (.assertionFailed instruction verdict.thought)

/-- Check an assertion. -/
def verify (agent : Agent σ) (instruction : String) : Act σ Unit := do
  let reply ← agent.ask fun page => assertionPrompt page instruction
  let complaint ← Act.complaint "AssertionVerdict" reply
  Act.ofExcept (judge complaint instruction reply)

/-- The answer in a reply: what its envelope holds, or the reply itself. -/
def answerOf : Json → Json
  | .object fields => (Json.get? "data" fields).getD (.object fields)
  | reply => reply

/-- Answer a query. -/
def query (agent : Agent σ) (instruction : String) : Act σ Json := do
  let reply ← agent.ask fun page => queryPrompt page instruction
  return answerOf reply

/-- Do what a capability asks for. -/
def perform (agent : Agent σ) (capability : Capability) (instruction : String) : Act σ Json :=
  match capability with
  | .action => do
    agent.act instruction
    return .null
  | .assertion => do
    agent.verify instruction
    return .null
  | .query => agent.query instruction

/-- The answer of an envelope is what the envelope holds. -/
theorem answerOf_envelope (fields : Json.Fields) (data : Json)
    (h : Json.get? "data" fields = some data) :
    (Envelope.check (.object fields)).map Envelope.data = .ok (answerOf (.object fields)) := by
  simp [Envelope.check, Schema.record, Schema.optional, Schema.Checked.within, h, answerOf, bind,
    Except.bind, Except.map, pure, Except.pure]

end Agent
end PageScript

import PageScript.Agent.Basic
import PageScript.Browser.Session
import PageScript.CommandLine.Reader
import PageScript.Model.Client
import PageScript.Report.Publish
import PageScript.Walk.Answer
import PageScript.Walk.Basic

/-!
# A whole run

A run checks its arguments, opens a browser, goes through the arguments with an agent, closes the
browser and publishes its report.  Its result is the exit code of the program: zero if everything
went well.

A failure of the arguments, of the browser's start or of the agent ends a run with a line that says
so.  Any other failure is not the run's own and is passed on, after the browser is closed and the
report published.
-/

namespace PageScript.Run

/-- How the agent of a run is made. -/
abbrev AgentMaker (σ : Type) : Type := Options → Act σ (Capability → String → Act σ Json)

/-! ### The usual agent -/

/-- A whole number among the options, or a default. -/
def settingOf (v : Value) (default : Int) : Except Failure Int :=
  ((v.orElse (.integer default)).toInt).mapError .number

/-- The question that a prompt puts to a model. -/
def questionOf (model : Value) (prompt : String) : Model.Question :=
  { model, prompt, temperature := .decimal 0.1, json := true }

/-- The page agent that asks the model server. -/
def pageAgent : AgentMaker σ := fun o => do
  let timeout ← Act.ofExcept (settingOf o.timeout 30000)
  let patience ← Act.ofExcept (settingOf o.patience 60)
  let model := o.model.orElse (.text Options.defaultModel)
  let agent : Agent σ :=
    { complete := fun prompt =>
        Model.generate (questionOf model prompt) (.integer patience) (.integer 1)
      timeout := .integer timeout }
  return agent.perform

/-! ### Beginning -/

/-- The viewport as JSON. -/
def viewportText (v : Viewport) : String :=
  Json.write .spaced <| .object
    [("width", v.width.toJson), ("height", v.height.toJson), ("deviceScaleFactor", v.scale.toJson)]

/-- Print a name and below it a text. -/
def sayStep (name s : String) : Act σ Unit := Act.say (noticeText name (.string s))

/-- Print the preferences. -/
def sayPreferences (p : Preferences) : Act σ Unit := do
  sayStep "url" p.url
  sayStep "user-agent" p.userAgent
  sayStep "viewport" (viewportText p.viewport)
  if p.headed then sayStep "headed" "true"

/-- Print a failure. -/
def sayFailure (failure : Failure) : Act σ Unit := Act.say ("[error] " ++ failure.message)

/-! ### The session -/

/-- Where a run stands when its session is to be closed. -/
structure Ending where
  report : Report
  /-- The state of the walk, if there was one. -/
  state : Option Walk.State := none
  /-- The text of the failure, if there was one. -/
  error : Option String := none

namespace Ending

/-- Whether everything went well. -/
def passed (e : Ending) : Bool :=
  e.error.isNone && (e.state.map Walk.State.status == some .completed)

/-- The exit code of the program. -/
def exitCode (e : Ending) : Nat :=
  match e.error, e.state with
  | none, some s | some "", some s => s.exitCode
  | _, _ => 1

/-- The status of the report. -/
def status (e : Ending) : String := if e.passed then "passed" else "failed"

end Ending

/-- Go through the arguments. -/
def walk (agent : Capability → String → Act σ Json) (report : Report) (args : List Argument) :
    Act σ Walk :=
  Walk.run { agent, keeper := saveAnswer } { report } args

/-- The path of a picture of a failure. -/
def picturePath (directory : File.Path) (seconds : Int) : File.Path :=
  directory.child ("fail_" ++ Number.writeInt seconds ++ ".png")

/-- Take a picture for a report. -/
def takePicture (directory : File.Path) (report : Report) : Act σ Report := do
  let seconds ← Act.ofExcept ((Number.truncate (← Act.now)).mapError .number)
  let path := picturePath directory seconds
  Browser.screenshot path
  Act.say ("[run] failure screenshot: " ++ path.text)
  return report.attach "screenshot" path.text

/-- Take a picture of a failure, if there is a directory for it and the browser agrees. -/
def pictureFailure (directory : Option File.Path) (report : Report) : Act σ Report :=
  match directory with
  | none => return report
  | some directory => (takePicture directory report).rescue (fun _ => true) fun failure => do
    Act.say ("[warn] could not take failure screenshot: " ++ failure.message)
    return report

/-- Make the agent; whatever fails is a failure of its start. -/
def startAgent (maker : AgentMaker σ) (o : Options) :
    Act σ (Capability → String → Act σ Json) :=
  (maker o).rescue (fun _ => true) fun failure => Act.fail (.agentStart failure)

/-- What is done in an open session. -/
def work (maker : AgentMaker σ) (o : Options) (p : Preferences) (args : List Argument)
    (report : Report) : Act σ Ending := do
  Act.say ("[run] open " ++ p.url)
  Browser.navigate p.url
  sayStep "launched" p.url
  let agent ← startAgent maker o
  let w ← walk agent report args
  match w.state.status, w.state.lastError with
  | .failed, some failure => do
    let report ← pictureFailure o.reports w.report
    return { report, state := some w.state, error := some failure.message }
  | _, _ => return { report := w.report, state := some w.state }

/-- Close the session; a refusal is only told. -/
def closeQuietly : Act σ Unit := do
  match ← Browser.closeSession.attempt with
  | .ok () => return ()
  | .error failure => Act.say ("[warn] browser did not close cleanly: " ++ failure.message)

/-- Work in an open session, close it and publish the report. -/
def inSession (maker : AgentMaker σ) (o : Options) (p : Preferences) (args : List Argument)
    (report : Report) : Act σ Nat := do
  let guarded := (work maker o p args report).rescue (fun f => f.isLaunch || f.isAgent)
    fun failure => do
      sayFailure failure
      return { report, error := some failure.message }
  let result ← guarded.attempt
  closeQuietly
  match result with
  | .ok ending => do
    let _ ← ending.report.conclude ending.status ending.error o.reports
    return ending.exitCode
  | .error failure => do
    let _ ← report.conclude "failed" none o.reports
    Act.fail failure

/-! ### The run -/

/-- Run for preferences that have been accepted. -/
def runFor (maker : AgentMaker σ) (o : Options) (p : Preferences) (args : List Argument) :
    Act σ Nat := do
  sayPreferences p
  let report ← Report.start (some p.url) o.browser p.headed
  Act.say ("[run] launch " ++ o.browser.shown)
  match ← (Browser.openSession p o).attempt with
  | .ok () => inSession maker o p args report
  | .error failure =>
    if failure.isLaunch then do
      sayFailure failure
      let _ ← report.conclude "failed" (some failure.message) o.reports
      return 1
    else Act.fail failure

/-- Run an argument sequence: the exit code. -/
def run (maker : AgentMaker σ) (args : List Argument) (o : Options) : Act σ Nat :=
  match Preferences.ofArguments args with
  | .ok p => runFor maker o p args
  | .error failure =>
    if failure.isArgument then do
      sayFailure failure
      return 1
    else Act.fail failure

/-- What the program says first. -/
def welcome : String := "\nWelcome to ai-runner\n"

/-- Run a command line in an environment: the exit code, or why there is no run. -/
def main (argv : List String) (env : Environment) : Act σ (Except CommandLine.Stop Nat) := do
  Act.say welcome
  match CommandLine.read argv with
  | .error stop => return .error stop
  | .ok args => return .ok (← run pageAgent args (.ofEnvironment env))

end PageScript.Run

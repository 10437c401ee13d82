import PageScript.Act
import PageScript.Report.Basic

/-!
# Notices

What a report says while a run goes on.  A step is announced on one line.  `stepText` shows a name
and below it a value: a list or object with a line for each part, a text as it is, the time of a
sleep with its unit, and anything else as JSON.
-/

namespace PageScript

open PageScript.Text

/-- A name and below it a value. -/
def stepText (name : String) (value : Json) : String :=
  let shown := match value with
    | .array _ | .object _ => value.indented
    | .null => ""
    | .string s => if name = "sleep" ∧ s ≠ "" then s ++ "ms" else s
    | _ => if name = "sleep" then value.shown ++ "ms" else value.compact
  name ++ "\n  " ++ shown

/-- The notice of a name and a value. -/
def noticeText (name : String) (value : Json) : String := "- " ++ stepText name value

namespace Report

/-- A new report. -/
def start (url : Option String) (browser : Value) (headed : Bool) : Act σ Report := do
  let time ← Act.now
  return { url, browser, headed, started := time }

/-- The line that announces a step. -/
def announcement (a : Argument) : String :=
  let value := match a.value with
    | .absent => ""
    | value => value.shown
  trimEnd ("[run] " ++ a.name ++ " " ++ value)

/-- Begin a step and announce it. -/
def progress (r : Report) (a : Argument) : Act σ Report := do
  let time ← Act.now
  Act.notify (announcement a)
  return r.record a.name a.value time

/-- Finish the newest step, if there is one. -/
def finishNow (r : Report) (standing : Standing) (error : Option String) : Act σ Report := do
  if r.steps.isEmpty then return r
  let time ← Act.now
  return r.finish standing error time

/-- Record that a step has passed, with a notice if it was an action. -/
def completed (r : Report) (a : Argument) : Act σ Report := do
  let r ← r.finishNow .passed none
  if a.isAction then Act.notify (noticeText a.name a.value.toJson)
  return r

/-- Give notice of an answer. -/
def answer (value : Json) : Act σ Unit := Act.notify (noticeText "answer" value)

/-- Record that a step has failed, with two notices. -/
def failed (r : Report) (a : Argument) (failure : Failure) : Act σ Report := do
  let r ← r.finishNow .failed (some failure.message)
  Act.notify (noticeText (a.name ++ " - Failed") a.value.toJson)
  Act.notify (noticeText "Error" (.string failure.message))
  return r

end Report
end PageScript

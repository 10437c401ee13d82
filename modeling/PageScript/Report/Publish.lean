import PageScript.Report.Notice
import PageScript.Report.Page

/-!
# Publishing a report

A report is closed with a status, whether or not it is published.  It is published in a directory
as a summary and as a page, in this order.  Steps that have not ended last until the moment at which
their line is written, so the clock is read again for the page.
-/

namespace PageScript.Report

/-- How long a step has lasted, or lasts until now if it has no time of ending other than zero. -/
def Step.duration (s : Step) : Act σ Float :=
  match s.ended with
  | some time => if time != 0.0 then return time - s.started else return (← Act.now) - s.started
  | none => return (← Act.now) - s.started

/-- How long each step has lasted. -/
def durations : List Step → Act σ (List Float)
  | [] => return []
  | s :: rest => do
    let x ← s.duration
    return x :: (← durations rest)

/-- The page of a report; a browser without a name has none. -/
def page (r : Report) (total : Float) (lengths : List Float) : Except Failure String :=
  match r.browser with
  | .text name => .ok (render (r.pieces name total lengths))
  | other => .error (.unsupported other.toJson.kind "replace")

/-- The name of the summary. -/
def summaryName : String := "report_summary.txt"

/-- The name of the page. -/
def pageName : String := "report_summary.html"

/-- Publish a report in a directory. -/
def publish (r : Report) (directory : File.Path) : Act σ Unit := do
  Act.ask (.makeDirectories directory)
  let total := (← Act.now) - r.started
  let lengths ← durations r.steps
  Act.ask (.write (directory.child summaryName) (r.summary total lengths))
  let lengths ← durations r.steps
  let page ← Act.ofExcept (r.page total lengths)
  Act.ask (.write (directory.child pageName) page)
  Act.say ("[report] " ++ (directory.child pageName).text)

/-- Publish a report if there is a directory for it. -/
def publishIn (r : Report) : Option File.Path → Act σ Unit
  | some directory => r.publish directory
  | none => return ()

/-- Close a report with a status, and publish it if there is a directory for it. -/
def conclude (r : Report) (status : String) (error : Option String)
    (directory : Option File.Path) : Act σ Report := do
  let closed := r.close status error
  Act.emit (.closed closed)
  closed.publishIn directory
  return closed

end PageScript.Report

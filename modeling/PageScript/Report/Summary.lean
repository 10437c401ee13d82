import PageScript.Number.Fixed
import PageScript.Report.Basic

/-!
# The summary of a report

The summary is a plain text: a head of five lines, then a line for each step, and below it a line
for its error if it has one.  The durations of the steps are given from outside, since a step that
has not ended lasts until now.
-/

namespace PageScript.Report

open PageScript.Number

/-- A duration in seconds. -/
def seconds (x : Float) : String := twoPlaces x ++ "s"

/-- An error, or a dash where there is none. -/
def errorOrDash : Option String → String
  | none | some "" => "-"
  | some text => text

/-- The lines of a step. -/
def stepLines (s : Step) (duration : Float) : List String :=
  ("  [" ++ toString s.index ++ "] --" ++ s.name ++ "  (" ++ seconds duration ++ ")  -> "
      ++ s.standing.text ++ "  val=" ++ s.value.quoted)
    :: match s.error with
      | none | some "" => []
      | some text => ["       error: " ++ text]

/-- A truth value for a person. -/
def flagText (b : Bool) : String := (Value.flag b).shown

/-- The summary of a report. -/
def summary (r : Report) (total : Float) (durations : List Float) : String :=
  "\n".intercalate <|
    ["URL: " ++ r.url.getD "None",
     "Browser: " ++ r.browser.shown ++ " | Headed: " ++ flagText r.headed,
     "Status: " ++ r.status,
     "Error: " ++ errorOrDash r.error,
     "Duration: " ++ seconds total,
     "",
     "Steps:"]
    ++ (r.steps.zip durations).flatMap fun (s, duration) => stepLines s duration

end PageScript.Report

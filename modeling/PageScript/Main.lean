import PageScript.Rehearsal
import PageScript.Run

/-!
# The program

The program runs its command line in the environment of its process.  No browser engine is linked to
it, so a run that comes to the start of the browser ends there and publishes its report.  The run
itself is a computation on a script; `Program.perform` then does what the run has done: it prints
the console texts and writes the files.
-/

namespace PageScript.Program

open PageScript.Rehearsal

/-- The settings that matter. -/
def settingNames : List String :=
  ["BROWSER", "TIMEOUT_MS", "SLOW_MO", "OLLAMA_MODEL", "OLLAMA_TIMEOUT_S", "REPORTS_DIR"]

/-- Why the browser does not start. -/
def withoutEngine : Rule where
  onset := Browser.Command.start.text
  failure := .launchReported "no browser engine is linked to this program"

/-- Surroundings without a browser, at a time in milliseconds. -/
def script (time : Int) : Script := { clock := [time], rules := [withoutEngine] }

/-- The settings of the process. -/
def environment : IO Environment :=
  settingNames.filterMapM fun name => do
    return (← IO.getEnv name).map fun setting => (name, setting)

/-- Do what has happened. -/
def perform : Event → IO Unit
  | .console text => IO.print text
  | .notice text => IO.println text
  | .request (.makeDirectories path) none => IO.FS.createDirAll path.text
  | .request (.write path text) none => IO.FS.writeFile path.text text
  | .request _ _ | .checkpoint _ | .closed _ => return ()

/-- Say how a run has ended: the exit code. -/
def conclude : Except Failure (Except CommandLine.Stop Nat) → IO Nat
  | .ok (.ok code) => return code
  | .ok (.error stop) => do
    IO.print stop.output
    IO.eprint stop.complaint
    return stop.exitCode
  | .error failure => do
    IO.eprintln failure.message
    return 1

/-- Run a command line: the exit code. -/
def run (argv : List String) : IO Nat := do
  let settings ← environment
  let time ← IO.monoMsNow
  let outcome := Run.main argv settings host (script time)
  outcome.events.forM perform
  conclude outcome.result

end PageScript.Program

/-- Run the command line of the process. -/
def main (argv : List String) : IO UInt32 := do
  return (← PageScript.Program.run argv).toUInt32

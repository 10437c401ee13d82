import PageScript.File.Path
import PageScript.Text.Lowercase
import PageScript.Value.Basic

/-!
# Options

Options are the settings of a run that are no arguments: the browser engine and its pace, the
model and its patience, and where reports go.  They come from the environment.  A setting that is
empty or cannot be read counts as not given.
-/

namespace PageScript

open PageScript.Text PageScript.Number

/-- The settings of a run. -/
structure Options where
  /-- The name of the browser engine. -/
  browser : Value := .text "chromium"
  /-- How long the browser may take for one operation, in milliseconds. -/
  timeout : Value := .absent
  /-- By how many milliseconds the browser delays each operation. -/
  slowMotion : Value := .absent
  /-- The name of the model. -/
  model : Value := .absent
  /-- How long the model may take for one answer, in seconds. -/
  patience : Value := .absent
  /-- The directory for reports. -/
  reports : Option File.Path := none

/-- Settings by name. -/
abbrev Environment : Type := List (String × String)

namespace Environment

/-- The setting of a name; the last one counts. -/
def get? (name : String) (env : Environment) : Option String :=
  (env.reverse.find? (·.1 == name)).map (·.2)

/-- A setting that is a whole number. -/
def integer (name : String) (default : Int) (env : Environment) : Int :=
  match env.get? name with
  | none => default
  | some raw => (parseInt (trim raw)).toOption.getD default

/-- A setting that is a path, blanks around it dropped. -/
def path? (name : String) (env : Environment) : Option File.Path :=
  match (env.get? name).map trim with
  | none | some "" => none
  | some s => some (.ofString s)

end Environment

namespace Options

/-- The engines that can be asked for. -/
def engines : List String := ["chromium", "firefox", "webkit"]

/-- The engine that a setting names, chromium unless it is another one that is known. -/
def engineOf (setting : String) : String :=
  let name := lower (trim setting)
  if engines.contains name then name else "chromium"

/-- The model of a run that names none. -/
def defaultModel : String := "llama3"

/-- The options that an environment gives. -/
def ofEnvironment (env : Environment) : Options where
  browser := .text (engineOf ((env.get? "BROWSER").getD "chromium"))
  timeout := .integer (env.integer "TIMEOUT_MS" 30000)
  slowMotion := .integer (max 0 (env.integer "SLOW_MO" 0))
  model := .text <| match env.get? "OLLAMA_MODEL" with
    | none | some "" => defaultModel
    | some name => name
  patience := .integer (env.integer "OLLAMA_TIMEOUT_S" 60)
  reports := env.path? "REPORTS_DIR"

/-- The engine is always one that is known. -/
theorem engineOf_mem (setting : String) : engineOf setting ∈ engines := by
  simp only [engineOf]
  split
  · next h => simpa using h
  · decide

end Options
end PageScript

import PageScript.Json.Printer
import PageScript.Schema.Check

/-!
# Observations

An observation describes a page in few words: its address and title, the texts that can be seen, and
the buttons and inputs, each with what is needed to find it again.  It is small enough to be put
before a model, for which it is written as JSON without gaps and without the fields that hold
nothing.
-/

namespace PageScript.Page

open PageScript.Schema

/-- An element that a user can work with. -/
structure Element where
  role : Option String := none
  text : Option String := none
  id : Option String := none
  name : Option String := none
  ariaLabel : Option String := none
  testId : Option String := none
  /-- A selector that finds the element again. -/
  hint : Option String := none
  deriving DecidableEq, Repr

namespace Element

/-- An element from data. -/
def check (data : Json) : Checked Element := do
  let fields ← record data
  let field (name : String) : Checked (Option String) := optional name none textOrNull fields
  let (role, text, id, name, ariaLabel, testId, hint) ←
    Checked.both (field "role") <| Checked.both (field "text") <| Checked.both (field "id") <|
      Checked.both (field "name") <| Checked.both (field "aria_label") <|
        Checked.both (field "data_testid") (field "selector_hint")
  return { role, text, id, name, ariaLabel, testId, hint }

/-- An element as data. -/
def dump (sparse : Bool) (e : Element) : Json :=
  Schema.dump sparse
    [("role", ofText? e.role), ("text", ofText? e.text), ("id", ofText? e.id),
     ("name", ofText? e.name), ("aria_label", ofText? e.ariaLabel),
     ("data_testid", ofText? e.testId), ("selector_hint", ofText? e.hint)]

end Element

/-- What can be seen of a page. -/
structure Observation where
  url : String
  title : Option String
  texts : List String
  buttons : List Element
  inputs : List Element
  flags : Json.Fields

namespace Observation

/-- An observation from data. -/
def check (data : Json) : Checked Observation := do
  let fields ← record data
  let (url, title, texts, buttons, inputs, flags) ←
    Checked.both (required "url" text fields) <|
      Checked.both (optional "title" none textOrNull fields) <|
        Checked.both (optional "visible_texts" [] (list text) fields) <|
          Checked.both (optional "buttons" [] (list Element.check) fields) <|
            Checked.both (optional "inputs" [] (list Element.check) fields)
              (optional "flags" [] mapping fields)
  return { url, title, texts, buttons, inputs, flags }

/-- An observation as data. -/
def dump (sparse : Bool) (o : Observation) : Json :=
  Schema.dump sparse
    [("url", .string o.url), ("title", ofText? o.title),
     ("visible_texts", .array (o.texts.map .string)),
     ("buttons", .array (o.buttons.map (·.dump sparse))),
     ("inputs", .array (o.inputs.map (·.dump sparse))),
     ("flags", .object o.flags)]

/-- The text of an observation for a model. -/
def prompt (o : Observation) : String := (o.dump true).compact

end Observation
end PageScript.Page

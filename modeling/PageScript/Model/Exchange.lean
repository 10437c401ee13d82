import PageScript.Json.Printer
import PageScript.Value.Basic

/-!
# Exchanges with the model server

What is sent to the server that runs the model, and what it answers.
-/

namespace PageScript.Model

/-- A request for a text. -/
structure Question where
  model : Value
  prompt : String
  temperature : Value
  /-- Whether the answer must be JSON. -/
  json : Bool

/-- The body of a request. -/
def Question.body (q : Question) : Json :=
  .object <|
    [("model", q.model.toJson), ("prompt", .string q.prompt),
     ("options", .object [("temperature", q.temperature.toJson)]), ("stream", .bool false)]
    ++ if q.json then [("format", .string "json")] else []

/-- An answer of the server. -/
structure Response where
  status : Int
  reason : Option String
  body : String

end PageScript.Model

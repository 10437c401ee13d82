import PageScript.Act
import PageScript.Json.Reader

/-!
# Asking the model server

Before a question the server is asked whether it is there.  The question is then put up to a number
of times: an attempt that fails in a passing way, such as a lost connection, is followed by another
after a pause that grows with each attempt.  Any other failure, a bad status and a body that is no
JSON included, is final.
-/

namespace PageScript.Model

open PageScript.Number

/-- Where the server is. -/
def serverAddress : String := "http://localhost:11434"

/-- Where the server says that it is there. -/
def healthAddress : String := serverAddress ++ "/api/tags"

/-- Where the server takes questions. -/
def questionAddress : String := serverAddress ++ "/api/generate"

/-- The seconds that the server has to say that it is there. -/
def healthSeconds : Float := 3.0

/-- The seconds that the server has to take a connection. -/
def connectSeconds : Int := 5

/-- The failure of a bad status. -/
def statusFailure (url kind : String) (r : Response) : Failure :=
  .transport .status <|
    writeInt r.status ++ " " ++ kind ++ " Error: " ++ r.reason.getD "None" ++ " for url: " ++ url

/-- Refuse a status that says that something is wrong. -/
def checkStatus (url : String) (r : Response) : Except Failure Unit :=
  if 400 ≤ r.status ∧ r.status < 500 then .error (statusFailure url "Client" r)
  else if 500 ≤ r.status ∧ r.status < 600 then .error (statusFailure url "Server" r)
  else .ok ()

/-- Ask the server whether it is there. -/
def checkHealth : Act σ Unit := do
  let r ← Act.ask (.get healthAddress healthSeconds)
  Act.ofExcept (checkStatus healthAddress r)

/-- Whether the server is there. -/
def isHealthy : Act σ Bool := do
  match ← checkHealth.attempt with
  | .ok () => return true
  | .error failure =>
    if failure.isTransport then do
      Act.say ("[Ollama] healthcheck failed: " ++ failure.message)
      return false
    else Act.fail failure

/-- Put a question once. -/
def post (q : Question) (patience : Value) : Act σ Json := do
  let r ← Act.ask (.post questionAddress q connectSeconds patience)
  Act.ofExcept (checkStatus questionAddress r)
  Act.ofExcept ((Json.read r.body).mapError .unreadable)

/-- The seconds of the pause after an attempt. -/
def pauseSeconds (attempt : Nat) : Float := 0.7 * Float.ofNat attempt

/-- Put a question for the given attempt of `limit`.  After a failure that may pass, `again` goes
on. -/
def tryPost (q : Question) (patience limit : Value) (attempt : Nat)
    (again : Failure → Act σ Json) : Act σ Json := do
  match ← (post q patience).attempt with
  | .ok data => return data
  | .error failure =>
    if failure.isPassing then do
      Act.say ("[Ollama] POST attempt " ++ toString attempt ++ "/" ++ limit.shown ++ " failed: "
        ++ failure.message)
      again failure
    else if failure.isTransport || failure.isValue then Act.fail (.requestFailed failure)
    else Act.fail failure

/-- Put a question, for the given attempt and up to `more` further ones with pauses between. -/
def postFrom (q : Question) (patience limit : Value) (attempt : Nat) : (more : Nat) → Act σ Json
  | 0 => tryPost q patience limit attempt fun failure => Act.fail (.requestFailed failure)
  | more + 1 => tryPost q patience limit attempt fun _ => do
    Act.ask (.sleep (pauseSeconds attempt))
    postFrom q patience limit (attempt + 1) more

/-- How many attempts there are at most: one, or a larger whole number that is given. -/
def attemptsOf : Value → Except Failure Nat
  | .integer n => .ok (max 1 n.toNat)
  | .flag _ => .ok 1
  | .decimal x =>
    if 1.0 < x then .error (.misfit (.count (Json.decimal x).kind)) else .ok 1
  | other => .error (.misfit (.order ">" other.toJson.kind (Json.integer 1).kind))

/-- The text in the server's answer, which must not be empty. -/
def responseOf (q : Question) : Json → Except Failure Json
  | .object fields =>
    let reply := (Json.get? "response" fields).getD .null
    if reply.holds then .ok reply else .error (.emptyReply q.model)
  | other => .error (.unsupported other.kind "get")

/-- Ask the model a question, with a number of attempts of which there is at least one. -/
def generate (q : Question) (patience limit : Value) : Act σ Json := do
  if !(← isHealthy) then Act.fail (.serverUnreachable serverAddress)
  else do
    let attempts ← Act.ofExcept (attemptsOf limit)
    let data ← postFrom q patience limit 1 (attempts - 1)
    Act.ofExcept (responseOf q data)

/-! ### Small facts -/

/-- There is at least one attempt. -/
theorem one_le_of_attemptsOf {limit : Value} {n : Nat} (h : attemptsOf limit = .ok n) : 1 ≤ n := by
  cases limit with
  | integer m =>
    cases h
    exact Nat.le_max_left _ _
  | flag b =>
    cases h
    exact Nat.le_refl 1
  | decimal x =>
    simp only [attemptsOf] at h
    split at h
    · cases h
    · cases h
      exact Nat.le_refl 1
  | absent => cases h
  | text s => cases h

end PageScript.Model

import PageScript.Act
import PageScript.File.Tree
import PageScript.Number.Reader

/-!
# Rehearsals

A rehearsal replaces the surroundings by a script, so that a run can be looked at without a browser,
a server or a clock.  The script says what the page holds, what the time is, what server, agent and
model answer, and by its rules which requests fail.  Files are kept in a tree.  What is said of data
that fits no schema is left out.

A rule fails the requests whose written form begins with its onset, after it has let some pass, and
perhaps only a number of times.  Of several rules the first one counts.
-/

namespace PageScript.Rehearsal

open PageScript.Browser

/-! ### Rules -/

/-- A rule that makes requests fail. -/
structure Rule where
  onset : String
  failure : Failure
  /-- How many requests it still lets pass. -/
  passing : Nat := 0
  /-- How many requests it may still fail, where there is a limit. -/
  remaining : Option Nat := none

/-- The failure that rules give a request, and the rules after it. -/
def fire (text : String) : List Rule → Option Failure × List Rule
  | [] => (none, [])
  | rule :: rules =>
    let later := fire text rules
    if rule.onset.toList.isPrefixOf text.toList then
      if 0 < rule.passing then (later.1, { rule with passing := rule.passing - 1 } :: later.2)
      else match rule.remaining with
        | none => (some rule.failure, rule :: rules)
        | some 0 => (later.1, rule :: later.2)
        | some (n + 1) => (some rule.failure, { rule with remaining := some n } :: rules)
    else (later.1, rule :: later.2)

/-! ### The page -/

/-- An element of the page. -/
structure Element where
  text : String
  attributes : List (String × Option String)

/-- The page, by the written forms of locators. -/
structure Page where
  url : String := "https://example.com/home"
  title : Option String := none
  texts : List (String × String) := []
  elements : List (String × List Element) := []
  counts : List (String × Int) := []

namespace Page

/-- The element that a locator means, if the page lists it. -/
def element? (p : Page) : Locator → Option Element
  | .nth l index => (p.elements.lookup l.text).bind fun found => found[index]?
  | _ => none

/-- The number of elements that a locator means. -/
def count (p : Page) (l : Locator) : Int :=
  match p.elements.lookup l.text with
  | some found => found.length
  | none => (p.counts.lookup l.text).getD 0

/-- The text of what a locator means. -/
def innerText (p : Page) (l : Locator) : String :=
  match p.element? l with
  | some e => e.text
  | none => (p.texts.lookup l.text).getD ""

/-- An attribute of what a locator means. -/
def attributeOf (p : Page) (l : Locator) (name : String) : Option String :=
  ((p.element? l).bind fun e => e.attributes.lookup name).join

end Page

/-! ### The script -/

/-- The server of a script. -/
inductive Server
  /-- One answer or failure for each request. -/
  | exchanges (answers : List (Except Failure Model.Response))
  /-- A reply for each question, empty when there are no more; everything else succeeds. -/
  | replies (values : List Json)

/-- A script, and how far it has been played. -/
structure Script where
  /-- The times in milliseconds; the last one stays. -/
  clock : List Int := [0]
  page : Page := {}
  rules : List Rule := []
  server : Server := .exchanges []
  /-- The agent's answers; nothing when there are no more. -/
  agent : List (Except Failure Json) := []
  /-- The model's answers; empty when there are no more. -/
  replies : List String := []
  files : File.Tree := .empty

namespace Script

/-- Seconds of milliseconds. -/
def seconds (milliseconds : Int) : Float :=
  (Number.floatOfInt milliseconds).toOption.getD 0.0 / 1000.0

/-- The time, and the script after looking at it. -/
def now (s : Script) : Float × Script :=
  match s.clock with
  | [] => (0.0, s)
  | [time] => (seconds time, s)
  | time :: rest => (seconds time, { s with clock := rest })

/-- Let the rules look at a request's written form. -/
def ruled (s : Script) (text : String) (answer : Except Failure α) : Except Failure α × Script :=
  let (failure, rules) := fire text s.rules
  let s := { s with rules }
  match failure with
  | some failure => (.error failure, s)
  | none => (answer, s)

/-- The next member of a list, or a default when there are no more. -/
def next (default : α) : List α → α × List α
  | [] => (default, [])
  | x :: xs => (x, xs)

/-- What a server without answers gives. -/
def exhausted : Except Failure Model.Response :=
  .error (.transport .connection "script exhausted")

/-- A good answer of the server. -/
def good (body : String) : Except Failure Model.Response := .ok ⟨200, none, body⟩

/-- The next answer of the server. -/
def serve (s : Script) (asked : Bool) : Except Failure Model.Response × Script :=
  match s.server with
  | .exchanges answers =>
    let (answer, rest) := next exhausted answers
    (answer, { s with server := .exchanges rest })
  | .replies values =>
    if asked then
      let (reply, rest) := next (.string "") values
      (good (Json.object [("response", reply)]).compact, { s with server := .replies rest })
    else (good "", s)

/-- The answer to a request. -/
def answer (s : Script) : (r : Request) → Except Failure r.Answer × Script
  | .command c => s.ruled c.text (.ok ())
  | .title => s.ruled "title" (.ok s.page.title)
  | .count l => s.ruled ("count " ++ l.text) (.ok (s.page.count l))
  | .innerText l => s.ruled ("inner_text " ++ l.text) (.ok (s.page.innerText l))
  | .attributeOf l name =>
    s.ruled ("get_attribute " ++ l.text ++ " " ++ name) (.ok (s.page.attributeOf l name))
  | .get _ _ => s.serve false
  | .post _ _ _ _ => s.serve true
  | .sleep _ => (.ok (), s)
  | .agent _ _ =>
    let (answer, rest) := next (.ok .null) s.agent
    (answer, { s with agent := rest })
  | .complete _ =>
    let (reply, rest) := next "" s.replies
    (.ok reply, { s with replies := rest })
  | .deliver path _ => s.ruled ("write " ++ path) (.ok ())
  | .makeDirectories path =>
    let (result, files) := s.files.makeDirectories path
    (result, { s with files })
  | .write path text =>
    let (result, files) := s.files.write path text
    (result, { s with files })

end Script

/-- The surroundings that play a script. -/
def host : Host Script where
  now := Script.now
  address := fun s => s.page.url
  wording := fun _ _ => ""
  answer := fun r s => s.answer r

end PageScript.Rehearsal

import PageScript.Act
import PageScript.Page.Observation
import PageScript.Text.Blank

/-!
# Perceiving a page

`perceive` makes an observation of the page.  The texts are the first lines of the page of a length
that is of use, with single spaces between their words; the buttons and inputs are the first ones on
the page.

A reading that the browser refuses leaves out only what it was for: a title, a text, a hint or an
element.  Two readings are not guarded, the number of buttons and the number of inputs.
-/

namespace PageScript.Page

open PageScript.Browser PageScript.Text

/-- The most buttons of an observation. -/
def buttonLimit : Nat := 60

/-- The most inputs of an observation. -/
def inputLimit : Nat := 60

/-- The most texts of an observation. -/
def textLimit : Nat := 80

/-- The elements that act when they are clicked. -/
def buttonLocator : Locator := .selector "button, [role=button], input[type=submit], a"

/-- The elements that take a value. -/
def inputLocator : Locator := .selector "input, textarea, [role=textbox], select"

/-- The whole page. -/
def bodyLocator : Locator := .selector "body"

/-- A reading, or a default where the browser refuses it. -/
def orElse (x : Act σ α) (default : α) : Act σ α :=
  x.rescue Failure.isBrowser fun _ => return default

/-- An attribute of an element. -/
def readAttribute (l : Locator) (name : String) : Act σ (Option String) :=
  Act.ask (.attributeOf l name)

/-- An attribute that says something. -/
def isTelling : Option String → Bool
  | none => false
  | some s => s != ""

/-! ### Texts -/

/-- Whether a line has a length that is of use. -/
def isUseful (line : String) : Bool := 2 ≤ line.length && line.length ≤ 200

/-- The lines of a text that are of use. -/
def usefulLines (s : String) : List String := ((lines s).map collapse).filter isUseful

/-- The texts of the page. -/
def readTexts : Act σ (List String) :=
  orElse (do return (usefulLines (← Act.ask (.innerText bodyLocator))).take textLimit) []

/-! ### Elements -/

/-- The attributes that can find an element again, with the selectors that they make. -/
def hintSources : List (String × (String → String)) :=
  [("id", fun s => "#" ++ s),
   ("name", fun s => "[name='" ++ s ++ "']"),
   ("data-testid", fun s => "[data-testid='" ++ s ++ "']")]

/-- The selector of the first attribute that says something. -/
def hintFrom (l : Locator) : List (String × (String → String)) → Act σ (Option String)
  | [] => return none
  | (name, selectorOf) :: rest => do
    match ← readAttribute l name with
    | none | some "" => hintFrom l rest
    | some s => return some (selectorOf s)

/-- A selector that finds an element again. -/
def readHint (l : Locator) : Act σ (Option String) := orElse (hintFrom l hintSources) none

/-- The first attribute that says something, or else the last one as it is. -/
def firstTelling (l : Locator) : List String → Act σ (Option String)
  | [] => return none
  | [name] => readAttribute l name
  | name :: rest => do
    let s ← readAttribute l name
    if isTelling s then return s else firstTelling l rest

/-- A text, or nothing if it is empty. -/
def nonEmpty (s : String) : Option String := if s = "" then none else some s

/-- The description of an element, unless the browser refuses a reading. -/
def describe (l : Locator) (role label : String) : Act σ (Option Element) :=
  orElse (do
    let id ← readAttribute l "id"
    let name ← readAttribute l "name"
    let ariaLabel ← readAttribute l "aria-label"
    let testId ← readAttribute l "data-testid"
    let hint ← readHint l
    return some { role := some role, text := nonEmpty label, id, name, ariaLabel, testId, hint })
    none

/-- The description of a button. -/
def describeButton (l : Locator) : Act σ (Option Element) := do
  let label ← orElse (do return collapse (← Act.ask (.innerText l))) ""
  describe l "button" label

/-- The attributes that label an input. -/
def labelSources : List String := ["placeholder", "aria-label", "name", "type"]

/-- The description of an input. -/
def describeInput (l : Locator) : Act σ (Option Element) := do
  let label ← orElse (firstTelling l labelSources) none
  describe l "input" (collapse (label.getD ""))

/-- The descriptions of the elements from an index on. -/
def collectFrom (l : Locator) (describeOne : Locator → Act σ (Option Element)) (index : Nat) :
    (more : Nat) → Act σ (List Element)
  | 0 => return []
  | more + 1 => do
    let found ← describeOne (.nth l index)
    let rest ← collectFrom l describeOne (index + 1) more
    return found.toList ++ rest

/-- The descriptions of the first elements. -/
def collect (l : Locator) (limit : Nat) (describeOne : Locator → Act σ (Option Element)) :
    Act σ (List Element) := do
  let count ← Act.ask (.count l)
  collectFrom l describeOne 0 (min count.toNat limit)

/-! ### The page -/

/-- Whether a dialog lies over the page. -/
def readDialog : Act σ Bool :=
  orElse (do return decide (0 < (← Act.ask (.count .dialogs)))) false

/-- An observation of the page. -/
def perceive : Act σ Observation := do
  let title ← orElse (Act.ask .title) none
  let dialog ← readDialog
  let texts ← readTexts
  let url ← Act.address
  let buttons ← collect buttonLocator buttonLimit describeButton
  let inputs ← collect inputLocator inputLimit describeInput
  return { url, title, texts, buttons, inputs, flags := [("modal_open", .bool dialog)] }

end PageScript.Page

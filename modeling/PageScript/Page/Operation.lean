import PageScript.Act
import PageScript.Address
import PageScript.Page.Time
import PageScript.Text.Lowercase

/-!
# Page operations

An operation is what a plan may do on a page.  Its operands come from data of any kind: a selector,
a value, an address to resolve against, and a time in milliseconds.  An operation either ends with
the one command that has its effect, or fails without having had one.

Where elements are clicked or filled, one that can be seen and reacts is looked for first, and in a
dialog before the page behind it.
-/

namespace PageScript.Page

open PageScript.Browser PageScript.Text

/-- What a plan may do on a page. -/
inductive Operation
  | goto
  | click
  | press
  | scroll
  | fill
  | selectOption
  | waitForSelector
  deriving DecidableEq, Repr

namespace Operation

/-- The name of an operation. -/
def name : Operation → String
  | goto => "goto"
  | click => "click"
  | press => "press"
  | scroll => "scroll"
  | fill => "fill"
  | selectOption => "select_option"
  | waitForSelector => "wait_for_selector"

/-- All operations, in the order of their names. -/
def all : List Operation := [click, fill, goto, press, scroll, selectOption, waitForSelector]

/-- The operation with a name. -/
def ofName? (s : String) : Option Operation := all.find? (·.name == s)

end Operation

/-- What an operation works with; operands may be missing. -/
structure Operands where
  selector : Option Json := none
  value : Option Json := none
  base : Option Json := none
  timeout : Option Json := none

namespace Operands

/-- The time of an operation that is given none. -/
def defaultTimeout : Int := 7000

/-- The time of an operation. -/
def time (o : Operands) : Json := o.timeout.getD (.integer defaultTimeout)

/-- The operands among named data.  Names that no operation knows are passed over, but the page is
no operand. -/
def ofFields (op : Operation) (fields : Json.Fields) : Except Failure Operands :=
  if (Json.get? "page" fields).isSome then .error (.secondPage op.name)
  else .ok {
    selector := Json.get? "selector" fields
    value := Json.get? "value" fields
    base := Json.get? "base_url" fields
    timeout := Json.get? "timeout_ms" fields }

/-- An operand that counts as one. -/
def given? (operand : Option Json) : Option Json := operand.filter Json.holds

/-- The selector, if it counts as one. -/
def selector? (o : Operands) : Option Json := given? o.selector

/-- Fail unless the named operands are there. -/
def need (op : Operation) (operands : List (String × Option Json)) : Except Failure Unit :=
  match operands.filter fun (_, operand) => operand.isNone with
  | [] => .ok ()
  | missing => .error (.missingOperands op.name (missing.map Prod.fst))

/-- The selector of an operand that is there. -/
def locator (o : Operands) : Locator := .selector (o.selector.getD .null).shown

/-- The value as a text. -/
def valueText (o : Operands) : String := (o.value.getD .null).shown

end Operands

/-! ### Finding elements -/

/-- The elements of a selector that can be seen and react. -/
def candidate (css : String) (outer : Option Locator) : Locator :=
  let visible := css ++ ":visible"
  let found := match outer with
    | some l => Locator.inside l visible
    | none => .selector visible
  .first (.without found .disabled)

/-- The first of several elements that shows up in time. -/
def firstToShow (timeout : Json) : List Locator → Act σ (Option Locator)
  | [] => return none
  | l :: rest => do
    match ← (Act.command (.awaitState l "visible" timeout)).attempt with
    | .ok () => return some l
    | .error failure => if failure.isBrowser then firstToShow timeout rest else Act.fail failure

/-- An element of a selector that can be seen and reacts, in a dialog if there is one. -/
def pickVisible (css : String) (timeout : Json) : Act σ (Option Locator) := do
  let half ← Act.ofExcept (Time.half timeout)
  let dialog := Locator.first .dialogs
  let dialogs ← Act.ask (.count dialog)
  let inDialog := if dialogs = 0 then [] else [candidate css (some dialog)]
  firstToShow (.integer half) (inDialog ++ [candidate css none])

/-! ### Opening and clicking -/

/-- Data read as the text of an address. -/
def addressText : Json → Except Failure String
  | .string s => .ok s
  | other => .error (.unsupported other.kind "startswith")

/-- A target read against a base; a target that counts as nothing gives nothing. -/
def resolveData (base target : Json) : Except Failure String :=
  if !target.holds then .ok ""
  else do
    let target ← addressText target
    if Address.isAbsolute target || !base.holds then return Address.resolve none target
    let base ← addressText base
    return Address.resolve (some base) target

/-- Open an address. -/
def goto (o : Operands) : Act σ Unit := do
  let here ← Act.address
  let base := (Operands.given? o.base).getD (.string here)
  let target := ((Operands.given? o.selector).or (Operands.given? o.value)).getD (.string "")
  let url ← Act.ofExcept (resolveData base target)
  if url = "" then Act.fail .addressRequired else Act.command (.goto url o.time)

/-- The elements that a text may mean, the likeliest first. -/
def labelled (label : String) : List Locator :=
  [.role "button" label, .role "link" label, .holding label]

/-- Click the first of several elements that can be clicked. -/
def clickFirst (timeout : Json) : List Locator → Act σ Bool
  | [] => return false
  | l :: rest => do
    match ← (Act.command (.click (.first l) timeout)).attempt with
    | .ok () => return true
    | .error failure => if failure.isBrowser then clickFirst timeout rest else Act.fail failure

/-- The text by which an element is to be clicked. -/
def clickLabel (value : Option Json) : Except Failure String :=
  match Operands.given? value with
  | none => .ok ""
  | some (.string s) => .ok (trim s)
  | some other => .error (.unsupported other.kind "strip")

/-- Click by a text. -/
def clickByText (o : Operands) : Act σ Unit := do
  let label ← Act.ofExcept (clickLabel o.value)
  if label = "" then Act.fail (.nothingClickable (o.value.getD .null))
  else do
    let third ← Act.ofExcept (Time.third o.time)
    if ← clickFirst third (labelled label) then return ()
    else Act.fail (.nothingClickable (o.value.getD .null))

/-- Click by a selector, or else by a text. -/
def click (o : Operands) : Act σ Unit :=
  match o.selector? with
  | some selector => do
    match ← pickVisible selector.shown o.time with
    | some l => Act.command (.click l o.time)
    | none => Act.fail (.elementNotFound selector)
  | none => clickByText o

/-! ### Keys and scrolling -/

/-- Press a key, on an element if there is a selector. -/
def press (o : Operands) : Act σ Unit :=
  match o.selector? with
  | some _ => Act.command (.press (.first o.locator) o.valueText o.time)
  | none => Act.command (.pressKey o.valueText)

/-- A word among the values: blanks and case do not count. -/
def word (default : String) (value : Option Json) : String :=
  lower (trim ((Operands.given? value).getD (.string default)).shown)

/-- By how much the page is scrolled. -/
def scrollStep : Int := 600

/-- Scroll up or down. -/
def scroll (o : Operands) : Act σ Unit :=
  Act.command (.scroll (if word "down" o.value = "up" then -scrollStep else scrollStep))

/-! ### Forms -/

/-- Fill an input.  If that takes too long, the value is typed. -/
def fill (o : Operands) : Act σ Unit := do
  let found ← pickVisible (o.selector.getD .null).shown o.time
  let target := found.getD (.first o.locator)
  (Act.command (.fill target o.valueText o.time)).rescue Failure.isBrowserTimeout fun _ => do
    let short ← Act.ofExcept (Time.atMostSecond o.time)
    Act.command (.click target short)
    Act.command (.typeText o.valueText)

/-- Select an option by its value, or else by its label. -/
def selectOption (o : Operands) : Act σ Unit := do
  let target := Locator.first o.locator
  Act.command (.awaitState target "visible" o.time)
  (Act.command (.selectByValue target o.valueText o.time)).rescue Failure.isBrowser fun _ =>
    Act.command (.selectByLabel target o.valueText o.time)

/-- The states that can be waited for. -/
def states : List String := ["visible", "attached", "hidden", "detached"]

/-- Wait until an element is in a state. -/
def waitForSelector (o : Operands) : Act σ Unit :=
  let state := word "visible" o.value
  Act.command (.awaitState (.first o.locator) (if states.contains state then state else "visible")
    o.time)

/-! ### All operations -/

/-- Fail unless an operation has the operands that it cannot do without. -/
def checkOperands (op : Operation) (o : Operands) : Except Failure Unit :=
  match op with
  | .press => Operands.need op [("value", o.value)]
  | .fill | .selectOption => Operands.need op [("selector", o.selector), ("value", o.value)]
  | .waitForSelector => Operands.need op [("selector", o.selector)]
  | .goto | .click | .scroll => .ok ()

/-- Carry out an operation. -/
def Operation.perform (op : Operation) (o : Operands) : Act σ Unit := do
  Act.ofExcept (checkOperands op o)
  match op with
  | .goto => Page.goto o
  | .click => Page.click o
  | .press => Page.press o
  | .scroll => Page.scroll o
  | .fill => Page.fill o
  | .selectOption => Page.selectOption o
  | .waitForSelector => Page.waitForSelector o

end PageScript.Page

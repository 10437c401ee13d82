import PageScript.Browser.Locator
import PageScript.Json.Printer

/-!
# Commands to the browser

A command is one thing that the browser is told to do: an operation on an element, an operation on
the page, or a step of starting and stopping.  `Command.text` is its written form: the name, the
element, the operands in order, and the named operands.

Times are in milliseconds.  An operation takes its time from data, as it is.
-/

namespace PageScript.Browser

open PageScript.Number

/-- One thing the browser is told to do. -/
inductive Command
  -- on an element
  | click (target : Locator) (timeout : Json)
  | fill (target : Locator) (text : String) (timeout : Json)
  | press (target : Locator) (key : String) (timeout : Json)
  | selectByValue (target : Locator) (value : String) (timeout : Json)
  | selectByLabel (target : Locator) (label : String) (timeout : Json)
  | awaitState (target : Locator) (state : String) (timeout : Json)
  -- on the page
  /-- Open an address with the page's own timeout. -/
  | openAddress (url : String)
  /-- Open an address and wait until its document is there. -/
  | goto (url : String) (timeout : Json)
  | awaitQuiet
  | pressKey (key : String)
  | typeText (text : String)
  | scroll (down : Int)
  | screenshot (path : String)
  | setTimeout (timeout : Int)
  | setOpeningTimeout (timeout : Int)
  -- starting and stopping
  | start
  | launch (engine : String) (headless : Bool) (slowMotion : Option Int)
  | newContext (width height : Int) (scale : Float) (userAgent : String)
  | newPage
  | closeContext
  | closeBrowser
  | stop

namespace Command

/-- A truth value in a command. -/
def flagText (b : Bool) : String := if b then "true" else "false"

/-- An operand in a command. -/
def operandText : Json → String
  | .bool b => flagText b
  | operand => operand.shown

/-- The named operand for a time. -/
def timeoutText (timeout : Json) : String := " timeout=" ++ operandText timeout

/-- The written form of a command. -/
def text : Command → String
  | click l timeout => "click " ++ l.text ++ timeoutText timeout
  | fill l s timeout => "fill " ++ l.text ++ " " ++ s ++ timeoutText timeout
  | press l key timeout => "press " ++ l.text ++ " " ++ key ++ timeoutText timeout
  | selectByValue l value timeout =>
    "select_option " ++ l.text ++ " value=" ++ value ++ timeoutText timeout
  | selectByLabel l label timeout =>
    "select_option " ++ l.text ++ " label=" ++ label ++ timeoutText timeout
  | awaitState l state timeout =>
    "wait_for " ++ l.text ++ " state=" ++ state ++ timeoutText timeout
  | openAddress url => "goto " ++ url
  | goto url timeout => "goto " ++ url ++ " wait_until=domcontentloaded" ++ timeoutText timeout
  | awaitQuiet => "wait_for_load_state networkidle"
  | pressKey key => "keyboard.press " ++ key
  | typeText s => "keyboard.type " ++ s ++ " delay=10"
  | scroll down => "mouse.wheel 0 " ++ writeInt down
  | screenshot path => "screenshot path=" ++ path
  | setTimeout timeout => "set_default_timeout " ++ writeInt timeout
  | setOpeningTimeout timeout => "set_default_navigation_timeout " ++ writeInt timeout
  | start => "start"
  | launch engine headless slowMotion =>
    "launch " ++ engine ++ " headless=" ++ flagText headless
      ++ (match slowMotion with | some pause => " slow_mo=" ++ writeInt pause | none => "")
  | newContext width height scale userAgent =>
    "new_context " ++ writeInt width ++ " " ++ writeInt height ++ " device_scale_factor="
      ++ Layout.plain.write scale ++ " user_agent=" ++ userAgent
  | newPage => "new_page"
  | closeContext => "context.close"
  | closeBrowser => "browser.close"
  | stop => "stop"

/-- Whether a command starts or stops the browser or a part of it. -/
def isSession : Command → Bool
  | start | launch .. | newContext .. | newPage | closeContext | closeBrowser | stop => true
  | _ => false

end Command
end PageScript.Browser

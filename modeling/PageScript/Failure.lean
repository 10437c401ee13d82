import PageScript.Argument
import PageScript.File.Path
import PageScript.Json.Reader
import PageScript.Schema.Problem

/-!
# What can go wrong

A `Failure` names the cause of a failed step and carries what belongs to it; a failure that comes
from another one carries that one.  The wording is in `Failure.message` alone.

Some failures are *reported* by the surroundings of the program: the browser, the network, the
file system or the agent.  Those bring their own text, and so does the checker of data that does
not fit a schema.
-/

namespace PageScript

open PageScript.Text

/-- How an exchange with a server fails. -/
inductive TransportFault
  | request
  | connection
  | timeout
  | connectTimeout
  | readTimeout
  | encryption
  | status
  | address
  | chunking
  | redirects
  deriving DecidableEq, Repr

/-- The kinds of failures that the surroundings report without a place in this library. -/
inductive OutsideFault
  | general
  | value
  | key
  | assertion
  | system
  | kind
  deriving DecidableEq, Repr

/-- Why something cannot be done with values of some kinds, which are given by name. -/
inductive Misfit
  /-- An operator without a meaning for its two operands. -/
  | operator (symbol left right : String)
  /-- A text or list that is to be repeated by a number of a kind that cannot count. -/
  | repetition (kind : String)
  /-- Two values without an order. -/
  | order (symbol left right : String)
  /-- A number of a kind that cannot count. -/
  | count (kind : String)
  deriving DecidableEq, Repr

/-- The cause of a failed step. -/
inductive Failure
  -- arguments
  | unknownArgument (name : String) (value : Value)
  | duplicateArgument (name : String) (count : Nat)
  | urlRequired (value : Value)
  | wrongType (name expected : String) (value : Value)
  | missingValue (name : String) (value : Value)
  | outOfOrder (name : String)
  -- small conversions
  | severalMatches (count : Nat)
  | unknownPhase (text : String)
  | number (issue : Number.Issue)
  | unreadable (error : Json.ReadError)
  /-- Data that does not fit a schema.  The text of this failure is the checker's own; it is kept
  by the failure that comes from this one. -/
  | invalid (problems : List Schema.Problem)
  /-- A value of a kind that lacks an operation, both given by name. -/
  | unsupported (kind operation : String)
  | misfit (why : Misfit)
  /-- An operation called without the operands it needs. -/
  | missingOperands (operation : String) (names : List String)
  /-- An operation called with a page among its operands. -/
  | secondPage (operation : String)
  -- page operations
  | addressRequired
  | elementNotFound (selector : Json)
  | nothingClickable (value : Json)
  -- agent
  | agentStart (cause : Failure)
  | agentCall (cause : Failure)
  | agentReported (text : String)
  | planRejected (instruction : String) (problems : List Schema.Problem) (complaint : String)
  | emptyPlan (instruction : String)
  | unsupportedStep (kind : String)
  | verdictRejected (instruction : String) (problems : List Schema.Problem) (complaint : String)
  | assertionFailed (instruction thought : String)
  -- model
  | notJson (reply : String)
  | serverUnreachable (address : String)
  | requestFailed (cause : Failure)
  | emptyReply (model : Value)
  | modelReported (text : String)
  -- browser
  | launch (cause : Failure)
  | opening (url : String) (cause : Failure)
  | launchReported (text : String)
  | browser (timedOut : Bool) (text : String)
  -- network, files and the rest
  | transport (fault : TransportFault) (text : String)
  | file (fault : File.Fault) (path : String)
  | outside (fault : OutsideFault) (text : Option String)

namespace Failure

/-! ### Wording -/

/-- The wording of a refusal by the files. -/
def fileText (path : String) : File.Fault → String
  | .notFound => "[Errno 2] No such file or directory: " ++ quoted path
  | .exists => "[Errno 17] File exists: " ++ quoted path
  | .notDirectory => "[Errno 20] Not a directory: " ++ quoted path
  | .isDirectory => "[Errno 21] Is a directory: " ++ quoted path
  | .nameTooLong => "[Errno 36] File name too long: " ++ quoted path
  | .nul => "embedded null byte"

/-- A text in quotation marks, cut off after 200 characters. -/
def quotedStart (s : String) : String := String.ofList ((quoted s).toList.take 200)

/-- The wording of a number that is not given. -/
def issueText : Number.Issue → String
  | .tooManyDigits count =>
    "Exceeds the limit (4300 digits) for integer string conversion: value has "
      ++ toString count ++ " digits; use sys.set_int_max_str_digits() to increase the limit"
  | .notAnInteger s => "invalid literal for int() with base 10: " ++ quotedStart s
  | .notANumber s => "could not convert string to float: " ++ quoted s
  | .undefined => "cannot convert float NaN to integer"
  | .infinite => "cannot convert float infinity to integer"
  | .tooLarge => "int too large to convert to float"
  | .noInteger kind =>
    "int() argument must be a string, a bytes-like object or a real number, not "
      ++ quoted kind
  | .noNumber kind => "float() argument must be a string or a real number, not " ++ quoted kind

/-- The wording of something that cannot be done with values of some kinds. -/
def misfitText : Misfit → String
  | .operator symbol left right =>
    "unsupported operand type(s) for " ++ symbol ++ ": " ++ quoted left ++ " and " ++ quoted right
  | .repetition kind => "can't multiply sequence by non-int of type " ++ quoted kind
  | .order symbol left right =>
    quoted symbol ++ " not supported between instances of " ++ quoted left ++ " and "
      ++ quoted right
  | .count kind => quoted kind ++ " object cannot be interpreted as an integer"

/-- The wording of a complaint about a JSON text. -/
def complaintText : Json.Complaint → String
  | .expectingValue => "Expecting value"
  | .expectingName => "Expecting property name enclosed in double quotes"
  | .expectingColon => "Expecting ':' delimiter"
  | .expectingComma => "Expecting ',' delimiter"
  | .extraData => "Extra data"
  | .unterminatedText => "Unterminated string starting at"
  | .controlCharacter => "Invalid control character at"
  | .badEscape => "Invalid \\escape"
  | .badUnicodeEscape => "Invalid \\uXXXX escape"
  | .byteOrderMark => "Unexpected UTF-8 BOM (decode using utf-8-sig)"

/-- The wording of a text that is not JSON. -/
def readErrorText : Json.ReadError → String
  | .malformed complaint place =>
    complaintText complaint ++ ": line " ++ toString place.line ++ " column "
      ++ toString place.column ++ " (char " ++ toString place.offset ++ ")"
  | .tooManyDigits count => issueText (.tooManyDigits count)

/-- Names in quotation marks, with commas and a final *and*. -/
def nameList (names : List String) : String :=
  match names.reverse with
  | [] => ""
  | [only] => quoted only
  | [second, first] => quoted first ++ " and " ++ quoted second
  | last :: rest => ", ".intercalate (rest.reverse.map quoted) ++ ", and " ++ quoted last

/-- The wording of a failure. -/
def message : Failure → String
  | unknownArgument name _ => "Unknown argument: " ++ name
  | duplicateArgument name count =>
    "Argument --" ++ name ++ " can only be given once (got " ++ toString count ++ ")"
  | urlRequired _ => "URL is required"
  | wrongType name expected _ => name ++ " must be a " ++ expected
  | missingValue name _ => "missing " ++ name
  | outOfOrder name =>
    "You cannot put --" ++ name ++ " here. Please change the order of the arguments."
  | severalMatches count => "expected at most one match, got " ++ toString count
  | unknownPhase text => quoted text ++ " is not a valid Phase"
  | number issue => issueText issue
  | unreadable error => readErrorText error
  | invalid _ => ""
  | unsupported kind operation =>
    quoted kind ++ " object has no attribute " ++ quoted operation
  | misfit why => misfitText why
  | secondPage operation =>
    "action_" ++ operation ++ "() got multiple values for argument " ++ quoted "page"
  | missingOperands operation names =>
    "action_" ++ operation ++ "() missing " ++ toString names.length
      ++ " required keyword-only argument" ++ (if names.length = 1 then "" else "s") ++ ": "
      ++ nameList names
  | addressRequired => "goto needs a url in 'value' or 'selector'"
  | elementNotFound selector => "Element not found for selector: " ++ selector.shown
  | nothingClickable value => "No clickable element matches " ++ value.quoted
  | agentStart cause => "Could not start the agent: " ++ cause.message
  | agentCall cause => cause.message
  | agentReported text => text
  | planRejected instruction _ complaint =>
    "Could not understand the plan for " ++ quoted instruction ++ ": " ++ complaint
  | emptyPlan instruction => "No steps planned for action " ++ quoted instruction
  | unsupportedStep kind => "Unsupported step type planned: " ++ quoted kind
  | verdictRejected instruction _ complaint =>
    "Could not understand the verdict for " ++ quoted instruction ++ ": " ++ complaint
  | assertionFailed instruction thought =>
    "Assertion failed: " ++ instruction
      ++ (if thought = "" then "" else ", reason: " ++ thought)
  | notJson reply => "Model reply is not JSON: " ++ quoted reply
  | serverUnreachable address => "Ollama server not reachable at " ++ address
  | requestFailed cause => "Ollama request failed: " ++ cause.message
  | emptyReply model =>
    "Ollama returned an empty response (model=" ++ model.shown ++ ")"
  | modelReported text => text
  | launch cause => "Could not launch browser: " ++ cause.message
  | opening url cause => "Could not open " ++ url ++ ": " ++ cause.message
  | launchReported text => text
  | browser _ text => text
  | transport _ text => text
  | file fault path => fileText path fault
  | outside fault text =>
    match fault, text with
    | .key, some key => quoted key
    | _, some s => s
    | _, none => ""

/-! ### Families -/

/-- The command line breaks the rules for arguments. -/
def isArgument : Failure → Bool
  | unknownArgument .. | duplicateArgument .. | urlRequired .. | wrongType .. | missingValue ..
  | outOfOrder .. => true
  | _ => false

/-- The model cannot be asked, or its answer is of no use. -/
def isModel : Failure → Bool
  | notJson .. | serverUnreachable .. | requestFailed .. | emptyReply .. | modelReported .. => true
  | _ => false

/-- The agent cannot do what it is told; a failing model is one reason. -/
def isAgent : Failure → Bool
  | agentStart .. | agentCall .. | agentReported .. | planRejected .. | emptyPlan ..
  | unsupportedStep .. | verdictRejected .. | assertionFailed .. => true
  | failure => failure.isModel

/-- The browser is not launched, or the first page not opened. -/
def isLaunch : Failure → Bool
  | launch .. | opening .. | launchReported .. => true
  | _ => false

/-- The browser itself refuses. -/
def isBrowser : Failure → Bool
  | browser .. => true
  | _ => false

/-- The browser itself runs out of time. -/
def isBrowserTimeout : Failure → Bool
  | browser timedOut _ => timedOut
  | _ => false

/-- The exchange with a server fails. -/
def isTransport : Failure → Bool
  | transport .. => true
  | _ => false

/-- The failure of an exchange that may succeed when it is tried again. -/
def isPassing : Failure → Bool
  | transport fault _ =>
    match fault with
    | .connection | .timeout | .connectTimeout | .readTimeout | .encryption => true
    | .request | .status | .address | .chunking | .redirects => false
  | _ => false

/-- A value that cannot be what it should be. -/
def isValue : Failure → Bool
  | unreadable .. | severalMatches .. | unknownPhase .. | addressRequired => true
  | file .nul _ => true
  | invalid .. => true
  | transport .address _ => true
  | outside .value _ => true
  | number issue =>
    match issue with
    | .tooManyDigits _ | .notAnInteger _ | .notANumber _ | .undefined => true
    | .infinite | .tooLarge | .noInteger _ | .noNumber _ => false
  | _ => false

/-- The failure from which this one comes. -/
def cause? : Failure → Option Failure
  | agentStart cause | agentCall cause | requestFailed cause | launch cause => some cause
  | opening _ cause => some cause
  | planRejected _ problems _ | verdictRejected _ problems _ => some (invalid problems)
  | _ => none

/-! ### Small facts -/

/-- A failing model is a failing agent. -/
theorem isAgent_of_isModel {f : Failure} (h : f.isModel = true) : f.isAgent = true := by
  cases f <;> simp_all [isModel, isAgent]

/-- No failure belongs to the arguments and to the agent. -/
theorem isAgent_eq_false_of_isArgument {f : Failure} (h : f.isArgument = true) :
    f.isAgent = false := by
  cases f <;> simp_all [isModel, isAgent, isArgument]

end Failure
end PageScript

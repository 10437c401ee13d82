import PageScript.Argument
import PageScript.Failure

/-!
# Preferences

Preferences say how the page is opened.  `Preferences.ofArguments` derives them from an argument
sequence: every name must be known, every preference may be given once, and the address must be a
text.  Sizes that are no numbers and a user agent that is no text are passed over in favour of
the defaults.

The first rule that is broken decides the failure, in this order: an unknown name; a repeated
flag or size; a size without a whole part; a repeated, missing or wrong address; a repeated user
agent.
-/

namespace PageScript

/-- The size of the page and the number of pixels per unit.  The values are kept as they are given;
opening a browser converts them. -/
structure Viewport where
  width : Value
  height : Value
  scale : Value

/-- How the page is opened. -/
structure Preferences where
  url : String
  userAgent : String
  viewport : Viewport
  headed : Bool

namespace Preferences

/-- The user agent of a run that names none. -/
def defaultUserAgent : String :=
  "Mozilla/5.0 (Macintosh; Intel Mac OS X 10_15_7) AppleWebKit/537.36 "
    ++ "(KHTML, like Gecko) Chrome/127.0.0.0 Safari/537.36"

/-- The width and height of a page that is given none. -/
def defaultSize : Int := 1280

/-- The pixels per unit of a page that is given none. -/
def defaultScale : Int := 1

/-- Every name means something, or the first that does not is refused. -/
def checkNames : List Argument → Except Failure Unit
  | [] => .ok ()
  | a :: as =>
    if isKnownName a.name then checkNames as else .error (.unknownArgument a.name a.value)

/-- The value of the only argument of a name, absent where there is none. -/
def valueOf (name : String) (args : List Argument) : Except Failure Value :=
  (findOnly (·.name == name) (.duplicateArgument name) args).map fun
    | some a => a.value
    | none => .absent

/-- A number as it is, anything else replaced. -/
def numberOr (default : Int) (v : Value) : Value := if v.isNumber then v else .integer default

/-- A width or height: the whole part of a number. -/
def sizeOf (v : Value) : Except Failure Value :=
  match (numberOr defaultSize v).toInt with
  | .ok n => .ok (.integer n)
  | .error issue => .error (.number issue)

/-- An address, which must be a text and not empty. -/
def addressOf (v : Value) : Except Failure String :=
  if v.isGiven then
    match v with
    | .text s => .ok s
    | other => .error (.wrongType "url" "string" other)
  else .error (.urlRequired v)

/-- A user agent: a text that is not empty, or else the default. -/
def userAgentOf : Value → String
  | .text s => if s = "" then defaultUserAgent else s
  | _ => defaultUserAgent

/-- The preferences that an argument sequence gives. -/
def ofArguments (args : List Argument) : Except Failure Preferences := do
  checkNames args
  let headed ← valueOf "headed" args
  let width ← valueOf "viewport-width" args
  let height ← valueOf "viewport-height" args
  let scale ← valueOf "viewport-scale" args
  let width ← sizeOf width
  let height ← sizeOf height
  let url ← addressOf (← valueOf "url" args)
  let userAgent ← valueOf "user-agent" args
  return {
    url
    userAgent := userAgentOf userAgent
    viewport := { width, height, scale := numberOr defaultScale scale }
    headed := headed.holds }

/-- Whether the browser stays invisible. -/
def headless (p : Preferences) : Bool := !p.headed

/-! ### Small facts -/

/-- The names are accepted exactly when each is known. -/
theorem checkNames_eq_ok_iff (args : List Argument) :
    checkNames args = .ok () ↔ ∀ a ∈ args, isKnownName a.name = true := by
  induction args with
  | nil => simp [checkNames]
  | cons a as ih =>
    simp only [checkNames, List.mem_cons, forall_eq_or_imp]
    split
    · next h => simp [h, ih]
    · next h => simp [h]

end Preferences
end PageScript

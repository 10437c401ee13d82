import PageScript.Argument
import PageScript.Text.DecimalDigit

/-!
# The tokens of a command line

A *switch* is a text of its own, `--url` for instance, or has a raw value glued to it with an equals
sign, as in `--url=x`.  The short switch `-h` has everything behind it glued to it.  All other texts
are *words* or *strangers*.  A word can be the value of a switch in front of it; a stranger cannot,
since it looks like a switch: it begins with a dash, but is no lone dash, no negative number and
holds no space.
-/

namespace PageScript.CommandLine

open PageScript.Text

/-- What a switch asks for. -/
inductive Switch
  | argument (name : String)
  /-- Help, asked for with `--help`. -/
  | help
  /-- Help, asked for with `-h`. -/
  | shortHelp
  | version
  deriving DecidableEq, Repr

/-- What a text of the command line is. -/
inductive Token
  /-- A switch with the raw value that is glued to it, if there is one. -/
  | switch (kind : Switch) (glued : Option String)
  | word (text : String)
  | stranger (text : String)
  deriving DecidableEq, Repr

/-- The switch that characters spell. -/
def switch? : List Char → Option Switch
  | ['-', 'h'] => some .shortHelp
  | '-' :: '-' :: cs =>
    let name := String.ofList cs
    if name = "help" then some .help
    else if name = "version" then some .version
    else if isKnownName name then some (.argument name)
    else none
  | _ => none

/-- The characters before and behind the first equals sign. -/
def assignment? (cs : List Char) : Option (List Char × List Char) :=
  match cs.dropWhile (· != '=') with
  | _ :: raw => some (cs.takeWhile (· != '='), raw)
  | [] => none

/-- Whether characters are decimal digits, at least one. -/
def isDigits (cs : List Char) : Bool := !cs.isEmpty && cs.all isDigit

/-- Characters without the line feed at their end. -/
def withoutFinalBreak (cs : List Char) : List Char :=
  if cs.getLast? = some '\n' then cs.dropLast else cs

/-- Whether characters behind a dash make a negative number: digits, or a point between digits and
digits, of which the first may be missing.  A line feed may follow. -/
def isUnsignedNumber (cs : List Char) : Bool :=
  let body := withoutFinalBreak cs
  isDigits body || match body.dropWhile isDigit with
    | '.' :: places => isDigits places
    | _ => false

namespace Token

/-- The token of a text that begins with a dash; `rest` are the characters behind the dash. -/
def ofDashed (text : String) (rest : List Char) : Token :=
  match switch? ('-' :: rest) with
  | some kind => switch kind none
  | none =>
    match (assignment? ('-' :: rest)).bind fun (front, raw) => (switch? front).map (·, raw) with
    | some (kind, raw) => switch kind (some (String.ofList raw))
    | none =>
      match rest with
      | [] => word text
      | 'h' :: glued => switch .shortHelp (some (String.ofList glued))
      | _ => if isUnsignedNumber rest || rest.contains ' ' then word text else stranger text

/-- The token of a text. -/
def ofText (text : String) : Token :=
  match text.toList with
  | '-' :: rest => ofDashed text rest
  | _ => word text

example : ofText "--url=a=b" = switch (.argument "url") (some "a=b") := by decide
example : ofText "-7" = word "-7" := by decide
example : ofText "-rf" = stranger "-rf" := by decide
example : ofText "-do it" = word "-do it" := by decide

end Token
end PageScript.CommandLine

import PageScript.CommandLine.Help
import PageScript.CommandLine.Leftover
import PageScript.Failure

/-!
# Reading a command line

The command line is cut at the first text that is just two dashes.  The texts before it become
tokens, and `readTokens` goes through these once: a switch for an argument takes its glued value
or the word behind it, words and strangers are put aside.  What was put aside, the two dashes and
all texts behind them become arguments of their own at the end.

Reading stops at a switch for help or for the version.  A value glued to one of these is a
misuse, except that `-hh` asks for help twice.
-/

namespace PageScript.CommandLine

/-- Why a command line gives no arguments. -/
inductive Stop
  | help
  | version
  /-- A switch that takes no value has one. -/
  | misuse (kind : Switch) (glued : String)
  /-- A value that stands for a number which is not read. -/
  | number (issue : Number.Issue)
  deriving DecidableEq, Repr

/-- The name of a switch in a complaint. -/
def Switch.label : Switch → String
  | argument name => "--" ++ name
  | help | shortHelp => "-h/--help"
  | version => "--version"

/-- What a misused switch is answered with. -/
def misuseText (kind : Switch) (glued : String) : String :=
  Help.usage ++ programName ++ ": error: argument " ++ kind.label
    ++ ": ignored explicit argument " ++ Text.quoted glued ++ "\n"

/-- The value of a switch without one. -/
def bareValue (name : String) : Value := if name = "headed" then .flag true else .absent

/-- What is printed when reading stops. -/
def Stop.output : Stop → String
  | help => Help.text
  | version => Help.versionLine
  | misuse .. | number _ => ""

/-- What is complained of when reading stops. -/
def Stop.complaint : Stop → String
  | help | version => ""
  | misuse kind glued => misuseText kind glued
  | number issue => Failure.issueText issue ++ "\n"

/-- The exit code of a program whose reading stops. -/
def Stop.exitCode : Stop → Nat
  | help | version => 0
  | misuse .. => 2
  | number _ => 1

/-- The argument of a switch; two dashes are no value. -/
def argumentOf (name : String) : Option String → Except Stop Argument
  | none => .ok ⟨name, bareValue name⟩
  | some raw =>
    if raw = "--" then .ok ⟨name, bareValue name⟩
    else (argumentOfRaw name raw).mapError .number

/-- What a switch that takes no value stops the reading with. -/
def stopOf : Switch → Option String → Stop
  | .version, none => .version
  | .shortHelp, some glued =>
    if glued = "" then .misuse .shortHelp glued
    else
      let rest := glued.toList.dropWhile (· == 'h')
      if rest.isEmpty then .help else .misuse .shortHelp (String.ofList rest)
  | kind, some glued => .misuse kind glued
  | _, none => .help

/-- The arguments of the switches, and the texts that belong to none. -/
def readTokens : List Token → Except Stop (List Argument × List String)
  | [] => .ok ([], [])
  | .word text :: rest | .stranger text :: rest => do
    let (known, others) ← readTokens rest
    return (known, text :: others)
  | .switch (.argument name) (some raw) :: rest => do
    let a ← argumentOf name (some raw)
    let (known, others) ← readTokens rest
    return (a :: known, others)
  | .switch (.argument name) none :: .word text :: rest => do
    let a ← argumentOf name (some text)
    let (known, others) ← readTokens rest
    return (a :: known, others)
  | .switch (.argument name) none :: rest => do
    let a ← argumentOf name none
    let (known, others) ← readTokens rest
    return (a :: known, others)
  | .switch kind glued :: _ => .error (stopOf kind glued)

/-- The texts before the first that is two dashes. -/
def beforeDashes (argv : List String) : List String := argv.takeWhile (· != "--")

/-- The first text that is two dashes, and those behind it. -/
def fromDashes (argv : List String) : List String := argv.dropWhile (· != "--")

/-- The arguments of a command line. -/
def read (argv : List String) : Except Stop (List Argument) := do
  let (known, others) ← readTokens ((beforeDashes argv).map Token.ofText)
  let kept ← (leftovers (others ++ fromDashes argv)).mapError .number
  return known ++ kept

/-! ### Small facts -/

/-- The two parts of a command line make it up. -/
theorem beforeDashes_append_fromDashes (argv : List String) :
    beforeDashes argv ++ fromDashes argv = argv :=
  List.takeWhile_append_dropWhile

end PageScript.CommandLine

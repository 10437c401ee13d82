import PageScript.Json.Token

/-!
# Reading JSON

The reader walks the tokens once with a stack of the arrays and objects that are still open.  Its
`Mode` says what must come next, so every complaint is the mode's own, at the offset of the token
that does not fit.  The value that is read is the one in front of the end; anything behind it is
refused as extra data.

A name that occurs again in an object gives its first place a new value.

Arrays and objects are read however deep they are nested.  A reader that calls itself for each of
them, in an interpreter whose calls may only go so deep, gives up on a text nested deeper than
that; there is no such bound here.  In the same way every text here has only characters that can be
encoded, so an escape for half of a surrogate pair stands for the replacement character.
-/

namespace PageScript.Json

open PageScript.Number

/-- A place in a text: line and column from one, offset from zero. -/
structure Place where
  line : Nat
  column : Nat
  offset : Nat
  deriving DecidableEq, Repr

/-- The place of an offset. -/
def Place.ofOffset (cs : List Char) (offset : Nat) : Place :=
  let before := cs.take offset
  { line := before.count '\n' + 1
    column := (before.reverse.takeWhile (· != '\n')).length + 1
    offset }

/-- Why a text is not read as JSON. -/
inductive ReadError
  | malformed (complaint : Complaint) (place : Place)
  | tooManyDigits (count : Nat)
  deriving DecidableEq, Repr

/-- An array or object that is still open: what it holds so far, an array's items last first. -/
inductive Frame
  | array (items : List Json)
  /-- An object whose field `name` is being read. -/
  | object (fields : Fields) (name : String)

/-- What must come next. -/
inductive Mode
  /-- A value. -/
  | value
  /-- The first item of an array, or its end. -/
  | itemOrClose
  /-- The first name of an object, or its end. -/
  | nameOrClose
  /-- A further name of an object that holds `fields`. -/
  | name (fields : Fields)
  /-- The colon behind a name. -/
  | colon (fields : Fields) (name : String)
  /-- Whatever may follow a complete value. -/
  | after (value : Json)

/-- A complaint at an offset, or a number with too many digits. -/
inductive Refusal
  | at (complaint : Complaint) (offset : Nat)
  | tooManyDigits (count : Nat)

/-- The reader's state. -/
structure State where
  mode : Mode
  stack : List Frame

namespace State

/-- Take a token where a value must come. -/
def value (stack : List Frame) (offset : Nat) : Token → Except Refusal State
  | .openArray => .ok ⟨.itemOrClose, stack⟩
  | .openObject => .ok ⟨.nameOrClose, stack⟩
  | .text s => .ok ⟨.after (.string s), stack⟩
  | .literal v => .ok ⟨.after v, stack⟩
  | .oversized count => .error (.tooManyDigits count)
  | .fault complaint place => .error (.at complaint place)
  | _ => .error (.at .expectingValue offset)

/-- Take a token where a name must come. -/
def name (fields : Fields) (stack : List Frame) (offset : Nat) : Token → Except Refusal State
  | .text s => .ok ⟨.colon fields s, stack⟩
  | .fault complaint place => .error (.at complaint place)
  | _ => .error (.at .expectingName offset)

/-- Take a token behind a complete value. -/
def after (value : Json) (offset : Nat) : List Frame → Token → Except Refusal State
  | [], .finish => .ok ⟨.after value, []⟩
  | [], _ => .error (.at .extraData offset)
  | .array items :: stack, .comma => .ok ⟨.value, .array (value :: items) :: stack⟩
  | .array items :: stack, .closeArray => .ok ⟨.after (.array (value :: items).reverse), stack⟩
  | .object fields name :: stack, .comma => .ok ⟨.name (put name value fields), stack⟩
  | .object fields name :: stack, .closeObject =>
    .ok ⟨.after (.object (put name value fields)), stack⟩
  | _, _ => .error (.at .expectingComma offset)

/-- Take the next token. -/
def step (s : State) (offset : Nat) (t : Token) : Except Refusal State :=
  match s.mode with
  | .value => value s.stack offset t
  | .itemOrClose =>
    match t with
    | .closeArray => .ok ⟨.after (.array []), s.stack⟩
    | t => value (.array [] :: s.stack) offset t
  | .nameOrClose =>
    match t with
    | .closeObject => .ok ⟨.after (.object []), s.stack⟩
    | t => name [] s.stack offset t
  | .name fields => name fields s.stack offset t
  | .colon fields key =>
    match t with
    | .colon => .ok ⟨.value, .object fields key :: s.stack⟩
    | _ => .error (.at .expectingColon offset)
  | .after v => after v offset s.stack t

/-- Take tokens to the end. -/
def run : State → List (Nat × Token) → Except Refusal State
  | s, [] => .ok s
  | s, (offset, t) :: ts =>
    match s.step offset t with
    | .ok s => run s ts
    | .error e => .error e

/-- Reading in two parts is reading at once. -/
theorem run_append (s : State) (ts us : List (Nat × Token)) :
    s.run (ts ++ us) = match s.run ts with
      | .ok s => s.run us
      | .error e => .error e := by
  induction ts generalizing s with
  | nil => rfl
  | cons t ts ih =>
    simp only [List.cons_append, run]
    split
    · exact ih _
    · rfl

end State

/-- Read characters as one JSON value. -/
def readChars (cs : List Char) : Except ReadError Json :=
  match cs with
  | '\ufeff' :: _ => .error (.malformed .byteOrderMark (.ofOffset cs 0))
  | _ =>
    match State.run ⟨.value, []⟩ (tokens cs) with
    | .ok ⟨.after value, _⟩ => .ok value
    | .ok _ => .error (.malformed .expectingValue (.ofOffset cs cs.length))
    | .error (.at complaint offset) => .error (.malformed complaint (.ofOffset cs offset))
    | .error (.tooManyDigits count) => .error (.tooManyDigits count)

/-- Read a text as one JSON value. -/
def read (s : String) : Except ReadError Json := readChars s.toList

end PageScript.Json

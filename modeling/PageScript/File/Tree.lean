import PageScript.Failure
import PageScript.Text.Quoted

/-!
# Files

A tree of files holds an entry, a directory or the text of a file, for every place that exists.
A place is the list of names on the way from the top, which is always a directory.  A path is
followed name by name; everything on the way must be a directory, and `..` goes back up.

Making a directory makes the missing ones above it as well, and is content with a directory that
exists.  A name may have 255 bytes and a whole path 4095.
-/

namespace PageScript.File

/-- What stands at a place. -/
inductive Entry
  | directory
  | file (text : String)
  deriving DecidableEq, Repr

/-- The names on the way from the top. -/
abbrev Place : Type := List String

/-- Files and directories. -/
structure Tree where
  /-- Where a path without a root starts. -/
  here : Place
  /-- What there is besides the top. -/
  entries : List (Place × Entry)
  deriving Repr

namespace Tree

/-- A tree with nothing in the working directory. -/
def empty : Tree := ⟨["work"], [(["work"], .directory)]⟩

/-- What stands at a place. -/
def lookup (t : Tree) (place : Place) : Option Entry :=
  if place = [] then some .directory else t.entries.lookup place

/-- Put an entry at a place, instead of the one that stands there. -/
def put (t : Tree) (place : Place) (entry : Entry) : Tree :=
  { t with entries := (place, entry) :: t.entries.filter (·.1 != place) }

/-! ### Following paths -/

/-- The most bytes of a name. -/
def nameLimit : Nat := 255

/-- The most bytes of a path. -/
def pathLimit : Nat := 4095

/-- One name further from a place, which must be a directory. -/
def enter (t : Tree) (place : Place) (name : String) : Except Fault Place :=
  match t.lookup place with
  | none => .error .notFound
  | some (.file _) => .error .notDirectory
  | some .directory =>
    if name = ".." then .ok place.dropLast
    else if nameLimit < name.utf8ByteSize then .error .nameTooLong
    else .ok (place ++ [name])

/-- The place to which names lead. -/
def walk (t : Tree) (place : Place) : List String → Except Fault Place
  | [] => .ok place
  | name :: names =>
    match t.enter place name with
    | .ok next => walk t next names
    | .error fault => .error fault

/-- The place to which a path leads, whether or not anything stands there. -/
def resolve (t : Tree) (p : Path) : Except Fault Place :=
  if p.text.toList.contains '\x00' then .error .nul
  else if pathLimit < p.text.utf8ByteSize then .error .nameTooLong
  else t.walk (if p.root = .here then t.here else []) p.names

/-! ### Directories -/

/-- Whether a path leads to a directory.  A path that leads nowhere does not; one that is too long
is refused. -/
def isDirectory (t : Tree) (p : Path) : Except Fault Bool :=
  match t.resolve p with
  | .ok place => .ok (t.lookup place == some .directory)
  | .error .nameTooLong => .error .nameTooLong
  | .error _ => .ok false

/-- Make one directory. -/
def makeDirectory (t : Tree) (p : Path) : Except Fault Tree :=
  match t.resolve p with
  | .error fault => .error fault
  | .ok place =>
    match t.lookup place with
    | some _ => .error .exists
    | none => .ok (t.put place .directory)

/-- Overlook that a directory was refused, if there is one. -/
def overlook (t : Tree) (p : Path) (fault : Fault) : Except Failure Unit :=
  match fault, t.isDirectory p with
  | .nul, _ => .error (.file .nul p.text)
  | _, .ok true => .ok ()
  | _, .ok false => .error (.file fault p.text)
  | _, .error other => .error (.file other p.text)

/-- Make the directory with the given names, the last one first, and those above it. -/
def makeAll (root : Root) : List String → Tree → Except Failure Unit × Tree
  | [], t =>
    let p : Path := ⟨root, []⟩
    match t.makeDirectory p with
    | .ok t => (.ok (), t)
    | .error .notFound => (.error (.file .notFound p.text), t)
    | .error fault => (t.overlook p fault, t)
  | name :: above, t =>
    let p : Path := ⟨root, (name :: above).reverse⟩
    match t.makeDirectory p with
    | .ok t => (.ok (), t)
    | .error .notFound =>
      match makeAll root above t with
      | (.error failure, t) => (.error failure, t)
      | (.ok (), t) =>
        match t.makeDirectory p with
        | .ok t => (.ok (), t)
        | .error .notFound => (.error (.file .notFound p.text), t)
        | .error fault => (t.overlook p fault, t)
    | .error fault => (t.overlook p fault, t)

/-- Make a directory and those above it. -/
def makeDirectories (t : Tree) (p : Path) : Except Failure Unit × Tree :=
  makeAll p.root p.names.reverse t

/-! ### Texts -/

/-- Write a text to a file, which is made or replaced. -/
def write (t : Tree) (p : Path) (text : String) : Except Failure Unit × Tree :=
  match t.resolve p with
  | .error fault => (.error (.file fault p.text), t)
  | .ok place =>
    match t.lookup place with
    | some .directory => (.error (.file .isDirectory p.text), t)
    | _ => (.ok (), t.put place (.file text))

/-- Write a text to a file, with the directories above it.  Something may refuse the text when these
are made. -/
def save (t : Tree) (p : Path) (text : String) (refusal : Option Failure := none) :
    Except Failure Unit × Tree :=
  match t.makeDirectories p.parent with
  | (.error failure, t) => (.error failure, t)
  | (.ok (), t) =>
    match refusal with
    | some failure => (.error failure, t)
    | none => t.write p text

/-! ### Listing -/

/-- The names from a place down to another one below it. -/
def below? (place : Place) (other : Place) : Option (List String) :=
  match place, other with
  | [], [] => none
  | [], names => some names
  | _, [] => none
  | a :: place, b :: other => if a = b then below? place other else none

/-- Everything in the working directory, by its written path: the text of a file, nothing for a
directory. -/
def listing (t : Tree) : List (String × Option String) :=
  let found := t.entries.filterMap fun (place, entry) =>
    (below? t.here place).map fun names =>
      ("/".intercalate names, match entry with | .directory => none | .file text => some text)
  found.mergeSort fun a b => decide (a.1 ≤ b.1)

/-! ### Small facts -/

@[simp] theorem lookup_nil (t : Tree) : t.lookup [] = some .directory := rfl

/-- What was put at a place stands there. -/
theorem lookup_put_self (t : Tree) {place : Place} (h : place ≠ []) (entry : Entry) :
    (t.put place entry).lookup place = some entry := by
  simp [lookup, put, h]

example : ((empty.save (.ofString "a/../b") "x").2).lookup ["work", "b"] = some (.file "x") := by
  decide +kernel
example : ((empty.save (.ofString "a/../b") "x").2).lookup ["work", "a"] = some .directory := by
  decide +kernel

end Tree
end PageScript.File

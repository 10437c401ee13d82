import PageScript.Text.Blank

/-!
# File paths

A path is a list of names behind an optional root.  Reading a path drops empty names and single
dots, so that a path has one written form; `..` is kept, as its meaning depends on the files.  Two
slashes in front, but not more, are a root of their own.

`Fault` lists why the files refuse what is asked of them.
-/

namespace PageScript.File

open PageScript.Text

/-- Why the files refuse an operation. -/
inductive Fault
  | notFound
  | exists
  | notDirectory
  | isDirectory
  | nameTooLong
  /-- The path holds the character NUL. -/
  | nul
  deriving DecidableEq, Repr

/-- Where a path starts. -/
inductive Root
  /-- The working directory. -/
  | here
  /-- The top directory. -/
  | top
  /-- The top directory, written with two slashes. -/
  | doubleTop
  deriving DecidableEq, Repr

/-- How a root is written. -/
def Root.text : Root → String
  | here => ""
  | top => "/"
  | doubleTop => "//"

/-- A path. -/
structure Path where
  root : Root
  names : List String
  deriving DecidableEq, Repr

namespace Path

/-- The root that a text begins with. -/
def rootOf (cs : List Char) : Root :=
  match (cs.takeWhile (· == '/')).length with
  | 0 => .here
  | 2 => .doubleTop
  | _ => .top

/-- The names in a text: the pieces between slashes without the empty ones and the dots. -/
def namesOf (cs : List Char) : List String :=
  ((cuts (· == '/') cs).map String.ofList).filter fun s => s != "" && s != "."

/-- The path that a text stands for. -/
def ofString (s : String) : Path := ⟨rootOf s.toList, namesOf s.toList⟩

/-- The written form of a path. -/
def text (p : Path) : String :=
  let s := p.root.text ++ "/".intercalate p.names
  if s = "" then "." else s

/-- The path without its last name; a path without names is its own parent. -/
def parent (p : Path) : Path := { p with names := p.names.dropLast }

/-- The path of a name inside a directory. -/
def child (p : Path) (name : String) : Path := { p with names := p.names ++ [name] }

@[simp] theorem parent_child (p : Path) (name : String) : (p.child name).parent = p := by
  simp [parent, child]

example : (ofString "a//b/./c.gif").text = "a/b/c.gif" := by decide
example : (ofString "").text = "." := by decide
example : (ofString "//x/").text = "//x" := by decide

end Path
end PageScript.File

/-!
# Web addresses

An address is *absolute* when it begins with `http://` or `https://`.  The *origin* of an absolute
address is its text before the third slash.  `Address.resolve` reads a target against the address
of a page: an absolute target stands for itself, any other is put behind the origin, with one
slash between them.
-/

namespace PageScript.Address

/-- How absolute addresses begin. -/
def schemes : List String := ["http://", "https://"]

/-- Whether characters form an absolute address. -/
def isAbsoluteChars (cs : List Char) : Bool := schemes.any fun s => s.toList.isPrefixOf cs

/-- Whether an address is absolute. -/
def isAbsolute (s : String) : Bool := isAbsoluteChars s.toList

/-- What stands before the slash that comes after `n` others. -/
def beforeSlash : Nat → List Char → List Char
  | _, [] => []
  | 0, c :: cs => if c = '/' then [] else c :: beforeSlash 0 cs
  | n + 1, c :: cs => c :: beforeSlash (if c = '/' then n else n + 1) cs

/-- The origin of an absolute address. -/
def origin (cs : List Char) : List Char := beforeSlash 2 cs

/-- Characters read against an absolute address. -/
def behindOrigin (base target : List Char) : List Char :=
  origin base ++ '/' :: target.dropWhile (· == '/')

/-- A target read against the address of a page. -/
def resolve (base : Option String) (target : String) : String :=
  if target = "" then ""
  else if isAbsolute target then target
  else match base with
    | some page =>
      if isAbsolute page then String.ofList (behindOrigin page.toList target.toList) else target
    | none => target

example : resolve (some "https://a.org/b/c") "//d" = "https://a.org/d" := by decide
example : resolve (some "file:///b") "d" = "d" := by decide

end PageScript.Address

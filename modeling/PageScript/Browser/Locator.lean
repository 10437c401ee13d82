/-!
# Locators

A locator says which elements of a page are meant: those that match a selector, those of a role
with a label, or those that hold a text.  It can be narrowed to a part of the page, to the first
or the n-th match, or by leaving out what another locator means.

A locator has a written form, in which a label appears as a pattern: every character with a
meaning of its own in a pattern stands behind a backslash.
-/

namespace PageScript.Browser

/-- Which elements of a page are meant. -/
inductive Locator
  | selector (css : String)
  /-- The elements of a role whose name holds a label, in any case. -/
  | role (role label : String)
  /-- The elements that hold a text, in any case. -/
  | holding (label : String)
  /-- What matches a selector inside another locator's elements. -/
  | inside (outer : Locator) (css : String)
  | first (l : Locator)
  | nth (l : Locator) (index : Nat)
  /-- The elements of `l` without those of `excluded`. -/
  | without (l excluded : Locator)
  deriving DecidableEq, Repr

namespace Locator

/-- The characters that mean something in a pattern. -/
def patternMarks : List Char :=
  ['(', ')', '[', ']', '\x7b', '\x7d', '?', '*', '+', '-', '|', '^', '$', '\\', '.', '&', '~', '#',
   ' ', '\t', '\n', '\r', '\x0b', '\x0c']

/-- One character of a pattern that means itself. -/
def patternChar (c : Char) : List Char := if patternMarks.contains c then ['\\', c] else [c]

/-- The pattern that means exactly a text. -/
def pattern (s : String) : String := String.ofList (s.toList.flatMap patternChar)

/-- The written form of a locator. -/
def text : Locator → String
  | selector css => css
  | role kind label => "role=" ++ kind ++ "[" ++ pattern label ++ "/i]"
  | holding label => "text[" ++ pattern label ++ "/i]"
  | inside outer css => outer.text ++ " >> " ++ css
  | first l => l.text ++ " >> first"
  | nth l index => l.text ++ " >> nth=" ++ toString index
  | without l excluded => l.text ++ " >> not(" ++ excluded.text ++ ")"

/-- The dialogs that lie over the page. -/
def dialogs : Locator := selector "[role=dialog]:visible, .modal.show, .modal:visible"

/-- The elements that do not react. -/
def disabled : Locator := selector ":disabled"

example : (first (role "button" "a+b")).text = "role=button[a\\+b/i] >> first" := by decide

end Locator
end PageScript.Browser

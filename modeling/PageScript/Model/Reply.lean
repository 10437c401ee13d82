import PageScript.Failure

/-!
# Reading a model's reply

A model is asked for JSON, but may put it into a fence of backticks or among other words.  A reply
is read without the blanks and the fence around it.  If that is no JSON, the block is read that
reaches from the first opening brace to the last closing one, or from the first opening bracket to
the last closing one; of the two the one that begins first is tried first.
-/

namespace PageScript.Model

open PageScript.Text

/-- The mark of a fence. -/
def fence : List Char := ['\x60', '\x60', '\x60']

/-- The characters that may name a language behind a fence. -/
def isInfoChar (c : Char) : Bool := c.isAlphanum

/-- Characters without a fence in front, and without what belongs to it. -/
def dropOpeningFence (cs : List Char) : List Char :=
  if fence.isPrefixOf cs then trimLeft ((cs.drop fence.length).dropWhile isInfoChar) else cs

/-- Characters without a fence at the end. -/
def dropClosingFence (cs : List Char) : List Char :=
  if fence.isSuffixOf cs then cs.take (cs.length - fence.length) else cs

/-- The characters of a reply without blanks and fences around them. -/
def unfence (cs : List Char) : List Char :=
  trimChars (dropClosingFence (dropOpeningFence (trimChars cs)))

/-- Characters up to the last one of a kind; none if there is no such character. -/
def upToLast (c : Char) (cs : List Char) : List Char :=
  (cs.reverse.dropWhile (· != c)).reverse

/-- Characters from the first one of a kind; none if there is no such character. -/
def fromFirst (c : Char) (cs : List Char) : List Char := cs.dropWhile (· != c)

/-- The blocks in braces and in brackets, the one that begins first in front. -/
def blocks (cs : List Char) : List (List Char) :=
  let braces := fromFirst '\x7b' cs
  let brackets := fromFirst '[' cs
  let pair := [upToLast '\x7d' braces, upToLast ']' brackets]
  if braces.length < brackets.length then pair.reverse else pair

/-- The value that characters hold. -/
def valueIn (cs : List Char) : Option Json := (Json.readChars cs).toOption

/-- The most characters of a reply that a failure quotes. -/
def quotedLimit : Nat := 200

/-- The value in a reply. -/
def extract (reply : String) : Except Failure Json :=
  let cs := unfence reply.toList
  match (cs :: blocks cs).findSome? valueIn with
  | some value => .ok value
  | none => .error (.notJson (String.ofList (cs.take quotedLimit)))

/-! ### Small facts -/

/-- A value that fills the reply is the one that is read. -/
theorem extract_of_valueIn {reply : String} {value : Json}
    (h : valueIn (unfence reply.toList) = some value) : extract reply = .ok value := by
  simp [extract, h]

end PageScript.Model

import PageScript.Text.Printable

/-!
# Quoted texts

A quoted text stands between two equal marks and shows every character: printable ones as they
are, others by an escape.  The mark is the apostrophe, unless the text holds apostrophes and no
quotation marks, which are then the mark.
-/

namespace PageScript.Text

/-- A number in lower-case hexadecimal digits, filled up to a width with zeros. -/
def hex (width n : Nat) : List Char :=
  let ds := Nat.toDigits 16 n
  List.replicate (width - ds.length) '0' ++ ds

/-- The mark around a quoted text. -/
def quoteMark (cs : List Char) : Char :=
  if cs.contains '\x27' && !cs.contains '"' then '"' else '\x27'

/-- One character inside a quoted text. -/
def quoteChar (mark c : Char) : List Char :=
  if c = mark ∨ c = '\\' then ['\\', c]
  else if c = '\n' then ['\\', 'n']
  else if c = '\r' then ['\\', 'r']
  else if c = '\t' then ['\\', 't']
  else if isPrintable c then [c]
  else if c.toNat < 0x100 then '\\' :: 'x' :: hex 2 c.toNat
  else if c.toNat < 0x10000 then '\\' :: 'u' :: hex 4 c.toNat
  else '\\' :: 'U' :: hex 8 c.toNat

/-- A text between marks, every character shown. -/
def quoted (s : String) : String :=
  let cs := s.toList
  let mark := quoteMark cs
  String.ofList (mark :: (cs.flatMap (quoteChar mark) ++ [mark]))

example : quoted "it's" = "\"it's\"" := by decide +kernel
example : quoted "a\n\u200b" = "'a\\n\\u200b'" := by decide +kernel

end PageScript.Text

import PageScript.Number.Shortest

/-!
# How a number is written

`Layout` collects the decisions that the shortest digits leave open, and `Layout.write` follows
them.  Two layouts are in use: `plain`, for numbers shown to a person, and `data`, for numbers in
JSON; they differ in the names of the numbers that are not finite.
-/

namespace PageScript.Number

/-- The decisions about the written form of a number. -/
structure Layout where
  /-- The leading digit's places from which the number is written without an exponent. -/
  positionalFrom : Int
  /-- The first place of the leading digit that needs an exponent. -/
  positionalBelow : Int
  /-- The least number of digits in an exponent. -/
  exponentWidth : Nat
  /-- The name of the undefined number. -/
  undefined : String
  /-- The name of the positive infinity; the negative one has a minus sign in front. -/
  infinite : String

/-- Numbers between 0.0001 and 10^16 are written out, others with an exponent of at least two
digits. -/
def Layout.plain : Layout := ⟨-4, 16, 2, "nan", "inf"⟩

/-- The same with the names that JSON readers know. -/
def Layout.data : Layout := { Layout.plain with undefined := "NaN", infinite := "Infinity" }

namespace Layout

/-- Fill up with zeros in front. -/
def padLeft (width : Nat) (ds : List Char) : List Char :=
  List.replicate (width - ds.length) '0' ++ ds

/-- Write digits with the point after the place of the leading digit, which is `place`. -/
def positional (ds : List Char) (place : Int) : List Char :=
  if place < 0 then
    '0' :: '.' :: (List.replicate (-place - 1).toNat '0' ++ ds)
  else
    let whole := place.toNat + 1
    if ds.length ≤ whole then ds ++ List.replicate (whole - ds.length) '0' ++ ['.', '0']
    else ds.take whole ++ '.' :: ds.drop whole

/-- Write digits with the point after the first and the place as an exponent with its sign. -/
def exponential (layout : Layout) (ds : List Char) (place : Int) : List Char :=
  let significand := if ds.length ≤ 1 then ds else ds.take 1 ++ '.' :: ds.drop 1
  let mark := if place < 0 then '-' else '+'
  significand ++ 'e' :: mark :: padLeft layout.exponentWidth (Nat.toDigits 10 place.natAbs)

/-- Write a positive decimal. -/
def magnitude (layout : Layout) (x : Scientific) : List Char :=
  let ds := Nat.toDigits 10 x.digits
  let place := x.scale + (ds.length - 1 : Nat)
  if layout.positionalFrom ≤ place ∧ place < layout.positionalBelow then positional ds place
  else layout.exponential ds place

/-- Write a number.  Zero is written out and keeps its sign. -/
def write (layout : Layout) (x : Float) : String :=
  let sign (negative : Bool) (s : String) : String := if negative then "-" ++ s else s
  match Binary.ofFloat x with
  | .undefined => layout.undefined
  | .infinite negative => sign negative layout.infinite
  | .finite negative 0 _ => sign negative "0.0"
  | .finite negative m e =>
    sign negative (String.ofList (layout.magnitude (Shortest.ofPositive m e)))

end Layout

/-- The written form of a whole number. -/
def writeInt (n : Int) : String :=
  let ds := String.ofList (Nat.toDigits 10 n.natAbs)
  if n < 0 then "-" ++ ds else ds

/-! ### The decisions at work -/

example : Layout.plain.write 0.1 = "0.1" := by decide +kernel
example : Layout.plain.write (0.1 + 0.2) = "0.30000000000000004" := by decide +kernel
example : Layout.plain.write 1e16 = "1e+16" := by decide +kernel
example : Layout.plain.write 123456789012345.0 = "123456789012345.0" := by decide +kernel
example : Layout.plain.write 0.00001 = "1e-05" := by decide +kernel
example : Layout.plain.write (-0.0) = "-0.0" := by decide +kernel
example : Layout.data.write (-1.0 / 0.0) = "-Infinity" := by decide +kernel

end PageScript.Number

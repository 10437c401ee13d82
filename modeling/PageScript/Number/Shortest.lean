import PageScript.Number.Binary

/-!
# The shortest decimal that reads back

Every finite number is the centre of an interval of reals that round to it.  Of the decimals in
that interval `Shortest.digits` takes one with the fewest digits, of those the nearest to the
number, and of two equally near ones the even one.

For each count of digits only the two neighbours of the number on the grid of decimals with that
many digits can qualify, so the search looks at those two, for one digit, two digits, and so on;
seventeen digits always suffice.  It starts one place to the left of the leading digit, where the
only candidate is the next power of ten.  All comparisons are between natural numbers.
-/

namespace PageScript.Number

/-- The decimal `digits · 10 ^ scale`, the digits read as one number. -/
structure Scientific where
  digits : Nat
  scale : Int
  deriving DecidableEq, Repr

namespace Shortest

/-- How many decimal digits a number has; zero has none. -/
def width (n : Nat) : Nat := if n = 0 then 0 else (Nat.toDigits 10 n).length

/-- The place of the leading decimal digit of a positive fraction. -/
def leadingPlace (num den : Nat) : Int :=
  if den ≤ num then (width (num / den) : Int) - 1
  else -(width ((den + num - 1) / num - 1) : Int)

/-- The interval of reals that round to `significand · 2 ^ exponent`, as a quarter of the unit:
lower end, centre, upper end.  Below a power of two the numbers lie twice as close. -/
def interval (significand : Nat) (exponent : Int) : Nat × Nat × Nat :=
  let below := if significand = Nat.pow 2 52 ∧ Binary.leastExponent < exponent then 1 else 2
  (4 * significand - below, 4 * significand, 4 * significand + 2)

/-- The better of the two neighbours on the grid of step `10 ^ scale`, if one lies in the
interval. -/
def onGrid? (significand : Nat) (exponent scale : Int) : Option Scientific :=
  let (low, centre, high) := interval significand exponent
  let (unitNum, unitDen) := Binary.fraction 1 exponent
  let up := Nat.pow 10 scale.toNat
  let down := Nat.pow 10 (-scale).toNat
  let scaled (quarters : Nat) : Nat := quarters * unitNum * down
  let step := 4 * unitDen * up
  let inside (n : Nat) : Bool :=
    if significand % 2 = 0 then scaled low ≤ n * step && n * step ≤ scaled high
    else scaled low < n * step && n * step < scaled high
  let floor := scaled centre / step
  match inside floor, inside (floor + 1) with
  | true, true =>
    let excess := scaled centre - floor * step
    let lack := (floor + 1) * step - scaled centre
    if excess < lack ∨ (excess = lack ∧ floor % 2 = 0) then some ⟨floor, scale⟩
    else some ⟨floor + 1, scale⟩
  | true, false => some ⟨floor, scale⟩
  | false, true => some ⟨floor + 1, scale⟩
  | false, false => none

/-- Look at ever finer grids, at most `more` further ones. -/
def search (significand : Nat) (exponent scale : Int) : Nat → Scientific
  | 0 => (onGrid? significand exponent scale).getD ⟨0, scale⟩
  | more + 1 =>
    match onGrid? significand exponent scale with
    | some found => found
    | none => search significand exponent (scale - 1) more

/-- The shortest decimal of a positive finite number. -/
def ofPositive (significand : Nat) (exponent : Int) : Scientific :=
  let (num, den) := Binary.fraction significand exponent
  search significand exponent (leadingPlace num den + 1) 17

end Shortest
end PageScript.Number

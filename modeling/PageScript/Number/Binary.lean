/-!
# Double-precision numbers as exact fractions

`Binary.ofFloat` splits the sixty-four bits of a `Float` into its class, its sign and the exact
value `significand · 2 ^ exponent`.  Truncation, comparison and printing work on these integers,
so no rounding happens on the way.
-/

namespace PageScript.Number

/-- What the bits of a double-precision number mean. -/
inductive Binary
  | undefined
  | infinite (negative : Bool)
  | finite (negative : Bool) (significand : Nat) (exponent : Int)
  deriving DecidableEq, Repr

namespace Binary

/-- The exponent of the smallest positive number and of all subnormal ones. -/
def leastExponent : Int := -1074

/-- Decode sign, biased exponent and fraction.  A biased exponent of zero marks the subnormal
numbers, which lack the leading one; the largest marks the infinities and the undefined. -/
def ofFloat (x : Float) : Binary :=
  let bits := x.toBits.toNat
  let negative := bits / Nat.pow 2 63 = 1
  let biased := bits / Nat.pow 2 52 % Nat.pow 2 11
  let fraction := bits % Nat.pow 2 52
  if biased = 2047 then
    if fraction = 0 then infinite negative else undefined
  else if biased = 0 then finite negative fraction leastExponent
  else finite negative (Nat.pow 2 52 + fraction) (leastExponent + (biased - 1 : Nat))

/-- The magnitude as a fraction: numerator and denominator. -/
def fraction (significand : Nat) (exponent : Int) : Nat × Nat :=
  if 0 ≤ exponent then (significand * Nat.pow 2 exponent.toNat, 1)
  else (significand, Nat.pow 2 (-exponent).toNat)

end Binary

/-- Give a magnitude its sign. -/
def signed (negative : Bool) (n : Nat) : Int := if negative then -(n : Int) else n

/-- The quotient of two natural numbers rounded to the nearest, a half going to the even
neighbour. -/
def nearestEven (num den : Nat) : Nat :=
  let quotient := num / den
  let rest := 2 * (num % den)
  if rest < den ∨ (rest = den ∧ quotient % 2 = 0) then quotient else quotient + 1

end PageScript.Number

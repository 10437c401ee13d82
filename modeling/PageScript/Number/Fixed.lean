import PageScript.Number.Layout

/-!
# Numbers with two decimal places

Durations are written with two places.  The exact value is rounded to the nearest hundredth, a
half going to the even neighbour, and the sign is kept even where only zeros remain.
-/

namespace PageScript.Number

/-- A magnitude, in hundredths, with two places behind the point. -/
def hundredths (n : Nat) : String :=
  String.ofList (Nat.toDigits 10 (n / 100) ++ '.' :: Layout.padLeft 2 (Nat.toDigits 10 (n % 100)))

/-- A number with two decimal places. -/
def twoPlaces (x : Float) : String :=
  let sign (negative : Bool) (s : String) : String := if negative then "-" ++ s else s
  match Binary.ofFloat x with
  | .undefined => Layout.plain.undefined
  | .infinite negative => sign negative Layout.plain.infinite
  | .finite negative m e =>
    let (num, den) := Binary.fraction m e
    sign negative (hundredths (nearestEven (num * 100) den))

example : twoPlaces 0.995 = "0.99" := by decide +kernel
example : twoPlaces 2.5 = "2.50" := by decide +kernel
example : twoPlaces (-0.001) = "-0.00" := by decide +kernel

end PageScript.Number

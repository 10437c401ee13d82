import PageScript.Failure

/-!
# Times from data

The time that an operation may take comes from data of any kind, and an operation that only hands it
on takes it as it is.  Where an operation has to calculate with a time, a flag counts as zero or
one, and what is no number is refused.

Times are in milliseconds, and a share of a time is never shorter than half a second.
-/

namespace PageScript.Page.Time

open PageScript.Number

/-- The shortest share of a time. -/
def least : Int := 500

/-- A time as a number that can be halved. -/
def toFloat : Json → Except Failure Float
  | .bool b => .ok (if b then 1.0 else 0.0)
  | .integer n => (floatOfInt n).mapError .number
  | .decimal x => .ok x
  | .string _ | .array _ => .error (.misfit (.repetition (Json.decimal 0.0).kind))
  | other => .error (.misfit (.operator "*" other.kind (Json.decimal 0.0).kind))

/-- Half of a time without its places. -/
def half (time : Json) : Except Failure Int :=
  match toFloat time with
  | .error failure => .error failure
  | .ok x =>
    match truncate (x * 0.5) with
    | .error issue => .error (.number issue)
    | .ok n => .ok (max least n)

/-- The whole part of a third of a positive number, as a decimal number; the multiple of three in
the number is rounded before it is divided.  Any other number gives nothing. -/
def wholeThird? (x : Float) : Option Float :=
  match Binary.ofFloat x with
  | .finite false m e => do
    let (num, den) := Binary.fraction m e
    let multiple ← (floatOfInt (3 * (num / (3 * den)) : Nat)).toOption
    let whole ← (truncate (multiple / 3.0)).toOption
    (floatOfInt whole).toOption
  | _ => none

/-- The whole part of a third of a time; it stays a decimal number if the time is one. -/
def third : Json → Except Failure Json
  | .bool _ => .ok (.integer least)
  | .integer n => .ok (.integer (max least (Int.fdiv n 3)))
  | .decimal x =>
    match wholeThird? x with
    | some y => .ok (if 500.0 < y then .decimal y else .integer least)
    | none => .ok (.integer least)
  | other => .error (.misfit (.operator "//" other.kind (Json.integer 3).kind))

/-- A time, or a second if that is less. -/
def atMostSecond : Json → Except Failure Json
  | .bool b => .ok (.bool b)
  | .integer n => .ok (.integer (min 1000 n))
  | .decimal x => .ok (if x < 1000.0 then .decimal x else .integer 1000)
  | other => .error (.misfit (.order "<" other.kind (Json.integer 1000).kind))

/-! ### Small facts -/

/-- Half of a time is never too short. -/
theorem least_le_of_half {time : Json} {n : Int} (h : half time = .ok n) : least ≤ n := by
  unfold half at h
  split at h
  · cases h
  · split at h
    · cases h
    · cases h
      exact Int.le_max_left _ _

example : (third (.integer 7000)).toOption.map Json.shown = some "2333" := by decide +kernel
example : (third (.decimal 1600.0)).toOption.map Json.shown = some "533.0" := by decide +kernel
example : (third (.decimal 1500.0)).toOption.map Json.shown = some "500" := by decide +kernel

end PageScript.Page.Time

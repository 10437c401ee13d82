import PageScript.Value.Basic

/-!
# Printed values

`Value.Printed v s` says what a person is shown of a value, kind by kind: nothing where it is
absent, a text as it is, a flag by its name, and a number by its digits.  The printer of values goes
through JSON instead (`Value.shown`); it prints what is said here (`printed_shown`).
-/

namespace PageScript

/-- A whole number is written as everywhere. -/
theorem Number.writeInt_eq_toString (n : Int) : Number.writeInt n = toString n := by
  cases n with
  | ofNat m =>
    have hnegative : ¬ Int.ofNat m < 0 := Int.not_lt.mpr (Int.natCast_nonneg m)
    rw [Number.writeInt, if_neg hnegative]
    rfl
  | negSucc m =>
    rw [Number.writeInt, if_pos (Int.negSucc_lt_zero m)]
    rfl

namespace Value

/-- A value, and the text that stands for it. -/
inductive Printed : Value → String → Prop
  | absent : Printed absent ""
  | yes : Printed (flag true) "True"
  | no : Printed (flag false) "False"
  | integer (n : Int) : Printed (integer n) (toString n)
  | decimal (x : Float) : Printed (decimal x) (Number.Layout.plain.write x)
  | text (s : String) : Printed (text s) s

/-- Only an absent value is shown otherwise than by its name. -/
theorem printed_shown {v : Value} (h : v ≠ .absent) : v.Printed v.shown := by
  cases v with
  | absent => exact absurd rfl h
  | flag b => cases b <;> first | exact .yes | exact .no
  | integer n =>
    have hshown : (integer n).shown = toString n := by
      rw [← Number.writeInt_eq_toString]
      exact String.ofList_toList
    rw [hshown]
    exact .integer n
  | decimal x =>
    have hshown : (decimal x).shown = Number.Layout.plain.write x := String.ofList_toList
    rw [hshown]
    exact .decimal x
  | text s => exact .text s

end Value
end PageScript

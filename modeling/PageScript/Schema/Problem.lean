/-!
# Checking data against a schema

A check looks at JSON data and gives a typed value or a list of problems, each with the path to
the place it concerns.  Checks of several parts are combined with `both`, which keeps the
problems of both parts in their order, and `within` puts a step in front of the paths.
-/

namespace PageScript.Schema

/-- What can be wrong at a place. -/
inductive Fault
  /-- A required field is not there. -/
  | missing
  /-- Not a text. -/
  | text
  /-- Nothing that could be a truth value. -/
  | truth
  /-- A text or number that stands for no truth value. -/
  | truthReading
  /-- Not an array. -/
  | list
  /-- Not an object with the fields of a schema. -/
  | record
  /-- Not an object. -/
  | mapping
  deriving DecidableEq, Repr

/-- A fault and the path to its place. -/
structure Problem where
  path : List String
  fault : Fault
  deriving DecidableEq, Repr

/-- The outcome of a check. -/
abbrev Checked (α : Type) : Type := Except (List Problem) α

namespace Checked

/-- Refuse the place at hand. -/
def refuse (fault : Fault) : Checked α := .error [⟨[], fault⟩]

/-- Put a step in front of the paths of all problems. -/
def within (step : String) : Checked α → Checked α
  | .ok a => .ok a
  | .error problems => .error (problems.map fun p => { p with path := step :: p.path })

/-- Two checks, the problems of the first in front. -/
def both : Checked α → Checked β → Checked (α × β)
  | .ok a, .ok b => .ok (a, b)
  | .ok _, .error problems => .error problems
  | .error problems, .ok _ => .error problems
  | .error problems, .error more => .error (problems ++ more)

/-- Check the members of a list, each under its position, counted from `start`. -/
def all (check : α → Checked β) (start : Nat) : List α → Checked (List β)
  | [] => .ok []
  | x :: xs =>
    (both (within (toString start) (check x)) (all check (start + 1) xs)).map
      fun (y, ys) => y :: ys

/-- Two checks succeed together exactly when each does. -/
theorem both_eq_ok_iff {x : Checked α} {y : Checked β} {a : α} {b : β} :
    both x y = .ok (a, b) ↔ x = .ok a ∧ y = .ok b := by
  cases x <;> cases y <;> simp [both]

/-- A step in the path does not change what succeeds. -/
@[simp] theorem within_eq_ok_iff {step : String} {x : Checked α} {a : α} :
    within step x = .ok a ↔ x = .ok a := by
  cases x <;> simp [within]

/-- A list is accepted exactly when each of its members is; the positions play no part. -/
theorem all_eq_ok_iff {check : α → Checked β} {start : Nat} {xs : List α} {ys : List β} :
    all check start xs = .ok ys ↔ xs.map check = ys.map .ok := by
  induction xs generalizing start ys with
  | nil => cases ys <;> simp [all]
  | cons x xs ih =>
    constructor
    · intro h
      rw [all] at h
      cases hb : both (within (toString start) (check x)) (all check (start + 1) xs) with
      | error problems =>
        rw [hb] at h
        cases h
      | ok pair =>
        obtain ⟨y, zs⟩ := pair
        rw [hb] at h
        obtain ⟨hx, hxs⟩ := both_eq_ok_iff.1 hb
        cases h
        rw [List.map_cons, List.map_cons, within_eq_ok_iff.1 hx, ih.1 hxs]
    · intro h
      cases ys with
      | nil => cases h
      | cons y zs =>
        obtain ⟨hx, hxs⟩ := List.cons.inj h
        have hb : both (within (toString start) (check x)) (all check (start + 1) xs) =
            .ok (y, zs) := both_eq_ok_iff.2 ⟨within_eq_ok_iff.2 hx, ih.2 hxs⟩
        rw [all, hb]
        rfl

end Checked
end PageScript.Schema

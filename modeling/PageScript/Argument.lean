import PageScript.Value.Basic

/-!
# Arguments

A run is described by a sequence of arguments, each a name with a value.  Six names are
*preferences*, which say how to open the page, and five are *actions*, which say what to do on it.
The order of a sequence is kept throughout.
-/

namespace PageScript

/-- A named argument. -/
structure Argument where
  name : String
  value : Value
  deriving Inhabited

/-- The names that say how to open the page, in the order of the help text. -/
def preferenceNames : List String :=
  ["url", "user-agent", "viewport-width", "viewport-height", "viewport-scale", "headed"]

/-- The names that say what to do on the page, in the order of the help text. -/
def actionNames : List String := ["action", "assert", "query-output", "query", "sleep"]

/-- Whether a name is a preference. -/
def isPreferenceName (name : String) : Bool := preferenceNames.contains name

/-- Whether a name is an action. -/
def isActionName (name : String) : Bool := actionNames.contains name

/-- Whether a name means anything. -/
def isKnownName (name : String) : Bool := isPreferenceName name || isActionName name

namespace Argument

/-- An argument that says how to open the page. -/
def isPreference (a : Argument) : Bool := isPreferenceName a.name

/-- An argument that says what to do on the page. -/
def isAction (a : Argument) : Bool := isActionName a.name

end Argument

/-- The only member of a list that a predicate holds of, `none` if there is none; several members
are refused with what `onMany` makes of their number. -/
def findOnly (p : α → Bool) (onMany : Nat → ε) (xs : List α) : Except ε (Option α) :=
  match xs.filter p with
  | [] => .ok none
  | [x] => .ok (some x)
  | found => .error (onMany found.length)

/-- No name is both a preference and an action. -/
theorem not_isActionName_of_isPreferenceName {name : String} (h : isPreferenceName name = true) :
    isActionName name = false := by
  simp only [isPreferenceName, preferenceNames, List.contains_eq_mem, List.mem_cons,
    List.not_mem_nil, or_false, decide_eq_true_eq] at h
  rcases h with rfl | rfl | rfl | rfl | rfl | rfl <;> decide

end PageScript

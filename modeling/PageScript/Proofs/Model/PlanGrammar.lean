import Mathlib.Data.List.Forall2
import PageScript.Agent.Basic
import PageScript.Proofs.Except

/-!
# The grammar of plans

Which data count as a plan, and what they say.  A plan is a list of steps, by itself or under
`steps` in an object; an object without steps is a plan that has none.  A step is an object with a
text for its type, perhaps a text for its selector, and perhaps a value of any kind.

A check goes through the fields and lists problems; `Plan.check_planData_eq_ok_iff` says that it
accepts exactly the plans, and reads the steps that they say.
-/

namespace PageScript.Model

open PageScript.Agent PageScript.Schema PageScript.Text

/-- The selector that a field says, if it says one. -/
inductive IsSelector : Option Json → Option String → Prop
  | absent : IsSelector none none
  | null : IsSelector (some .null) none
  | text (s : String) : IsSelector (some (.string s)) (some s)

/-- The text of the value that a field holds, if it holds one. -/
inductive IsValue : Option Json → Option String → Prop
  | absent : IsValue none none
  | null : IsValue (some .null) none
  | given {value : Json} (h : value ≠ .null) : IsValue (some value) (some value.shown)

/-- Data that count as a step. -/
inductive IsStep : Json → PlannedStep → Prop
  | object {fields : Json.Fields} {s : String} {selector value : Option String}
      (htype : Json.get? "type" fields = some (.string s))
      (hselector : IsSelector (Json.get? "selector" fields) selector)
      (hvalue : IsValue (Json.get? "value" fields) value) :
      IsStep (.object fields) ⟨lower (trim s), selector, value⟩

/-- Data that count as a plan. -/
inductive IsPlan : Json → List PlannedStep → Prop
  | bare {items : List Json} {steps : List PlannedStep} (h : List.Forall₂ IsStep items steps) :
      IsPlan (.array items) steps
  | listed {fields : Json.Fields} {items : List Json} {steps : List PlannedStep}
      (hsteps : Json.get? "steps" fields = some (.array items))
      (h : List.Forall₂ IsStep items steps) : IsPlan (.object fields) steps
  | unlisted {fields : Json.Fields} (hsteps : Json.get? "steps" fields = none) :
      IsPlan (.object fields) []

/-! ### Fields -/

theorem text_eq_ok_iff {data : Json} {s : String} : text data = .ok s ↔ data = .string s := by
  cases data <;> simp [text, Checked.refuse]

theorem record_eq_ok_iff {data : Json} {fields : Json.Fields} :
    record data = .ok fields ↔ data = .object fields := by
  cases data <;> simp [record, Checked.refuse]

theorem required_eq_ok_iff {α : Type} {name : String} {check : Json → Checked α}
    {fields : Json.Fields} {a : α} :
    required name check fields = .ok a ↔
      ∃ value, Json.get? name fields = some value ∧ check value = .ok a := by
  unfold required
  cases Json.get? name fields with
  | none => simp [Checked.refuse]
  | some value => simp

theorem selector_eq_ok_iff {fields : Json.Fields} {selector : Option String} :
    Schema.optional "selector" none textOrNull fields = .ok selector ↔
      IsSelector (Json.get? "selector" fields) selector := by
  unfold Schema.optional
  cases Json.get? "selector" fields with
  | none =>
    constructor
    · rintro ⟨⟩
      exact .absent
    · rintro ⟨⟩
      rfl
  | some value =>
    rw [Checked.within_eq_ok_iff]
    constructor
    · intro h
      cases value with
      | null =>
        cases h
        exact .null
      | string s =>
        cases h
        exact .text s
      | _ => cases h
    · rintro ⟨⟩ <;> rfl

theorem value_eq_ok_iff {fields : Json.Fields} {value : Option String} :
    Schema.optional "value" none (fun v => .ok (PlannedStep.valueOf v)) fields = .ok value ↔
      IsValue (Json.get? "value" fields) value := by
  unfold Schema.optional
  cases Json.get? "value" fields with
  | none =>
    constructor
    · rintro ⟨⟩
      exact .absent
    · rintro ⟨⟩
      rfl
  | some data =>
    rw [Checked.within_eq_ok_iff]
    constructor
    · rintro ⟨⟩
      cases data with
      | null => exact .null
      | _ => exact .given nofun
    · rintro (_ | _ | hdata)
      · rfl
      · cases data <;> first | rfl | contradiction

/-! ### Steps and plans -/

theorem PlannedStep.check_eq_ok_iff {data : Json} {step : PlannedStep} :
    PlannedStep.check data = .ok step ↔ IsStep data step := by
  constructor
  · intro h
    obtain ⟨fields, hrecord, h⟩ := bind_eq_ok_iff.mp h
    obtain ⟨⟨kind, selector, value⟩, hfields, hstep⟩ := bind_eq_ok_iff.mp h
    obtain ⟨htype, hrest⟩ := Checked.both_eq_ok_iff.mp hfields
    obtain ⟨hselector, hvalue⟩ := Checked.both_eq_ok_iff.mp hrest
    obtain ⟨data', hget, htext⟩ := required_eq_ok_iff.mp htype
    obtain rfl := record_eq_ok_iff.mp hrecord
    obtain rfl := Except.ok.inj hstep
    rw [text_eq_ok_iff.mp htext] at hget
    exact .object hget (selector_eq_ok_iff.mp hselector) (value_eq_ok_iff.mp hvalue)
  · rintro ⟨htype, hselector, hvalue⟩
    refine bind_eq_ok_iff.mpr ⟨_, rfl, bind_eq_ok_iff.mpr ⟨⟨_, _, _⟩, ?_, rfl⟩⟩
    refine Checked.both_eq_ok_iff.mpr ⟨required_eq_ok_iff.mpr ⟨_, htype, rfl⟩, ?_⟩
    exact Checked.both_eq_ok_iff.mpr
      ⟨selector_eq_ok_iff.mpr hselector, value_eq_ok_iff.mpr hvalue⟩

theorem steps_eq_ok_iff {items : List Json} {steps : List PlannedStep} :
    Schema.list PlannedStep.check (.array items) = .ok steps ↔
      List.Forall₂ IsStep items steps := by
  rw [Schema.list, Checked.all_eq_ok_iff]
  induction items generalizing steps with
  | nil => cases steps <;> simp
  | cons item items ih =>
    cases steps with
    | nil => simp
    | cons step steps => simp [PlannedStep.check_eq_ok_iff, ih]

theorem stepsField_eq_ok_iff {fields : Json.Fields} {steps : List PlannedStep} :
    Schema.optional "steps" [] (Schema.list PlannedStep.check) fields = .ok steps ↔
      IsPlan (.object fields) steps := by
  unfold Schema.optional
  cases hget : Json.get? "steps" fields with
  | none =>
    constructor
    · rintro ⟨⟩
      exact .unlisted hget
    · intro h
      cases h with
      | listed hsteps => cases hget.symm.trans hsteps
      | unlisted => rfl
  | some value =>
    rw [Checked.within_eq_ok_iff]
    constructor
    · intro h
      cases value with
      | array items => exact .listed hget (steps_eq_ok_iff.mp h)
      | _ => cases h
    · intro h
      cases h with
      | listed hsteps h =>
        cases hget.symm.trans hsteps
        exact steps_eq_ok_iff.mpr h
      | unlisted hsteps => cases hget.symm.trans hsteps

theorem Plan.check_eq_ok_iff {data : Json} {plan : Plan} :
    Plan.check data = .ok plan ↔ ∃ fields, data = .object fields ∧
      Schema.optional "steps" [] (Schema.list PlannedStep.check) fields = .ok plan.steps := by
  constructor
  · intro h
    obtain ⟨fields, hrecord, h⟩ := bind_eq_ok_iff.mp h
    obtain ⟨steps, hsteps, hplan⟩ := bind_eq_ok_iff.mp h
    obtain rfl := Except.ok.inj hplan
    exact ⟨fields, record_eq_ok_iff.mp hrecord, hsteps⟩
  · rintro ⟨fields, rfl, hsteps⟩
    exact bind_eq_ok_iff.mpr ⟨fields, rfl, bind_eq_ok_iff.mpr ⟨_, hsteps, rfl⟩⟩

/-- What is taken for a plan is what counts as one. -/
theorem Plan.check_planData_eq_ok_iff {data : Json} {plan : Plan} :
    Plan.check (planData data) = .ok plan ↔ IsPlan data plan.steps := by
  rw [Plan.check_eq_ok_iff]
  obtain ⟨steps⟩ := plan
  cases data with
  | array items =>
    have hget : Json.get? "steps" [("steps", .array items)] = some (.array items) := rfl
    constructor
    · rintro ⟨_, ⟨⟩, hsteps⟩
      rcases stepsField_eq_ok_iff.mp hsteps with _ | ⟨hlisted, h⟩ | hunlisted
      · cases hget.symm.trans hlisted
        exact .bare h
      · cases hget.symm.trans hunlisted
    · rintro ⟨h⟩
      exact ⟨_, rfl, stepsField_eq_ok_iff.mpr (.listed hget h)⟩
  | object fields =>
    constructor
    · rintro ⟨_, ⟨⟩, hsteps⟩
      exact stepsField_eq_ok_iff.mp hsteps
    · exact fun h => ⟨fields, rfl, stepsField_eq_ok_iff.mpr h⟩
  | _ =>
    constructor
    · rintro ⟨_, ⟨⟩, _⟩
    · exact nofun

/-! ### Plans in replies -/

/-- A plan with steps is taken as it is. -/
theorem planOf_of_isPlan {data : Json} {steps : List PlannedStep} (h : IsPlan data steps)
    (hsteps : steps ≠ []) (complaint instruction : String) :
    planOf complaint instruction data = .ok ⟨steps⟩ := by
  have hcheck : Plan.check (planData data) = .ok ⟨steps⟩ := Plan.check_planData_eq_ok_iff.mpr h
  simp [planOf, hcheck, hsteps]

/-- Data that count as no plan with steps are refused. -/
theorem planOf_of_not_isPlan {data : Json} (h : ∀ steps, IsPlan data steps → steps = [])
    (complaint instruction : String) :
    ∃ failure, planOf complaint instruction data = .error failure ∧
      failure.isAgent = true ∧ failure.isModel = false := by
  unfold planOf
  cases hcheck : Plan.check (planData data) with
  | error problems => exact ⟨_, rfl, rfl, rfl⟩
  | ok plan =>
    have hempty : plan.steps = [] := h _ (Plan.check_planData_eq_ok_iff.mp hcheck)
    exact ⟨.emptyPlan instruction, by simp [hempty], rfl, rfl⟩

end PageScript.Model

import PageScript.Page.Observation
import PageScript.Proofs.Model.VerdictGrammar
import PageScript.Proofs.Text.Lowercase

/-!
# Checked values as data

What a check has let through can be written as data again, in full or without the fields that hold
nothing, and the same check takes it back as it is (`checks_settle`): whatever a check normalizes,
it does so the first time.

A field that is left out is one that holds nothing, and nothing is what is then taken for it
(`optional_written`).  A record therefore comes back if its fields do; only the kind of a step is
normalized on the way, and once that has been done it stays as it is.
-/

namespace PageScript

open PageScript.Schema

/-! ### Fields that are looked up -/

namespace Json

variable {name : String} {value : Json} {fields : Fields}

theorem mem_of_get? (h : get? name fields = some value) : (name, value) ∈ fields := by
  induction fields with
  | nil => cases h
  | cons field fields ih =>
    rw [get?] at h
    split at h
    · next hkey =>
      cases h
      exact hkey ▸ .head _
    · exact .tail _ (ih h)

/-- Where no name stands twice, the value of a name is the one that stands beside it. -/
theorem get?_eq_some_iff (hnames : (fields.map Prod.fst).Nodup) :
    get? name fields = some value ↔ (name, value) ∈ fields := by
  refine ⟨mem_of_get?, fun h => ?_⟩
  induction fields with
  | nil => cases h
  | cons field fields ih =>
    obtain ⟨hfirst, hrest⟩ := List.nodup_cons.mp hnames
    rw [get?]
    rcases List.mem_cons.mp h with rfl | h
    · exact if_pos rfl
    · have hne : field.1 ≠ name := fun heq => hfirst (heq ▸ List.mem_map_of_mem (f := Prod.fst) h)
      rw [if_neg hne, ih hrest h]

end Json

namespace Schema

variable {α : Type} {name : String} {value : Json} {fields : Json.Fields} {check : Json → Checked α}
  {a default : α}

/-- A check takes what is written, in full or without the fields that hold nothing, and gives back
what it has let through before. -/
structure Settles (check : Json → Checked α) (dump : Bool → α → Json) : Prop where
  takes : ∀ a sparse, ∃ b, check (dump sparse a) = .ok b
  givesBack : ∀ data a, check data = .ok a → ∀ sparse, check (dump sparse a) = .ok a

theorem settles_of_forall {check : Json → Checked α} {dump : Bool → α → Json}
    (h : ∀ sparse a, check (dump sparse a) = .ok a) : Settles check dump :=
  ⟨fun a sparse => ⟨a, h sparse a⟩, fun _ a _ sparse => h sparse a⟩

/-! ### Fields that are written -/

/-- The fields that are written. -/
def written (sparse : Bool) (fields : Json.Fields) : Json.Fields :=
  if sparse then fields.filter fun (_, value) => !value matches .null else fields

theorem mem_written {sparse : Bool} :
    (name, value) ∈ written sparse fields ↔
      (name, value) ∈ fields ∧ ¬ (sparse = true ∧ value = .null) := by
  cases sparse with
  | false => simp [written]
  | true => cases value <;> simp [written]

section Written

variable (hnames : (fields.map Prod.fst).Nodup) (sparse : Bool)
include hnames

theorem nodup_written : ((written sparse fields).map Prod.fst).Nodup := by
  cases sparse with
  | false => exact hnames
  | true => exact hnames.sublist (List.filter_sublist.map _)

/-- A field is written as it is, unless it holds nothing. -/
theorem get?_written_eq_some_iff :
    Json.get? name (written sparse fields) = some value ↔
      Json.get? name fields = some value ∧ ¬ (sparse = true ∧ value = .null) := by
  rw [Json.get?_eq_some_iff (nodup_written hnames sparse), Json.get?_eq_some_iff hnames,
    mem_written]

theorem get?_written_of_none (h : Json.get? name fields = none) :
    Json.get? name (written sparse fields) = none := by
  rw [Option.eq_none_iff_forall_ne_some]
  intro value hvalue
  cases h.symm.trans ((get?_written_eq_some_iff hnames sparse).mp hvalue).1

/-- A field that must be there comes back from what is written, as it holds something. -/
theorem required_written (h : Json.get? name fields = some value) (hvalue : value ≠ .null)
    (hcheck : check value = .ok a) : required name check (written sparse fields) = .ok a := by
  have hwritten := (get?_written_eq_some_iff hnames sparse).mpr ⟨h, fun hnull => hvalue hnull.2⟩
  rw [required, hwritten]
  exact Checked.within_eq_ok_iff.mpr hcheck

/-- A field with a default comes back from what is written, if nothing stands for the default. -/
theorem optional_written (h : Json.get? name fields = some value) (hcheck : check value = .ok a)
    (hdefault : value = .null → default = a) :
    Schema.optional name default check (written sparse fields) = .ok a := by
  by_cases hdropped : sparse = true ∧ value = .null
  · have hnone : Json.get? name (written sparse fields) = none := by
      rw [Option.eq_none_iff_forall_ne_some]
      intro value' hvalue'
      obtain ⟨hget, hkept⟩ := (get?_written_eq_some_iff hnames sparse).mp hvalue'
      cases h.symm.trans hget
      exact hkept hdropped
    rw [Schema.optional, hnone, hdefault hdropped.2]
  · rw [Schema.optional, (get?_written_eq_some_iff hnames sparse).mpr ⟨h, hdropped⟩]
    exact Checked.within_eq_ok_iff.mpr hcheck

theorem text_written {s : Option String} (h : Json.get? name fields = some (ofText? s)) :
    Schema.optional name none textOrNull (written sparse fields) = .ok s := by
  refine optional_written hnames sparse h (textOrNull_ofText? s) fun hnull => ?_
  cases s with
  | none => rfl
  | some s => cases hnull

end Written

/-- A list is taken if its members are. -/
theorem list_map_eq_ok {dump : α → Json} {f : α → α} {xs : List α}
    (h : ∀ x ∈ xs, check (dump x) = .ok (f x)) :
    Schema.list check (.array (xs.map dump)) = .ok (xs.map f) := by
  rw [Schema.list, Checked.all_eq_ok_iff, List.map_map, List.map_map]
  exact List.map_congr_left h

/-- A list comes back if its members do. -/
theorem list_map_eq_ok_self {dump : α → Json} {xs : List α}
    (h : ∀ x ∈ xs, check (dump x) = .ok x) :
    Schema.list check (.array (xs.map dump)) = .ok xs := by
  simpa using list_map_eq_ok (f := id) h

end Schema

/-! ### Records -/

namespace Page

theorem Element.check_dump (sparse : Bool) (e : Element) :
    Element.check (e.dump sparse) = .ok e := by
  let fields : Json.Fields :=
    [("role", ofText? e.role), ("text", ofText? e.text), ("id", ofText? e.id),
     ("name", ofText? e.name), ("aria_label", ofText? e.ariaLabel),
     ("data_testid", ofText? e.testId), ("selector_hint", ofText? e.hint)]
  have hnames : (fields.map Prod.fst).Nodup := by simp [fields]
  have hfield {name : String} {s : Option String} (h : Json.get? name fields = some (ofText? s)) :
      Schema.optional name none textOrNull (written sparse fields) = .ok s :=
    text_written hnames sparse h
  refine bind_eq_ok_iff.mpr ⟨_, rfl, bind_eq_ok_iff.mpr ⟨(_, _, _, _, _, _, _), ?_, rfl⟩⟩
  iterate 6 refine Checked.both_eq_ok_iff.mpr ⟨hfield rfl, ?_⟩
  exact hfield rfl

theorem Observation.check_dump (sparse : Bool) (o : Observation) :
    Observation.check (o.dump sparse) = .ok o := by
  let fields : Json.Fields := [("url", .string o.url), ("title", ofText? o.title),
    ("visible_texts", .array (o.texts.map .string)),
    ("buttons", .array (o.buttons.map (·.dump sparse))),
    ("inputs", .array (o.inputs.map (·.dump sparse))), ("flags", .object o.flags)]
  have hnames : (fields.map Prod.fst).Nodup := by simp [fields]
  have helements (es : List Element) :
      Schema.list Element.check (.array (es.map (·.dump sparse))) = .ok es :=
    list_map_eq_ok_self fun e _ => e.check_dump sparse
  refine bind_eq_ok_iff.mpr ⟨written sparse fields, rfl,
    bind_eq_ok_iff.mpr ⟨(_, _, _, _, _, _), ?_, rfl⟩⟩
  refine Checked.both_eq_ok_iff.mpr ⟨required_written hnames sparse rfl nofun rfl, ?_⟩
  refine Checked.both_eq_ok_iff.mpr ⟨text_written hnames sparse rfl, ?_⟩
  refine Checked.both_eq_ok_iff.mpr
    ⟨optional_written hnames sparse rfl (list_map_eq_ok_self fun _ _ => rfl) nofun, ?_⟩
  refine Checked.both_eq_ok_iff.mpr
    ⟨optional_written hnames sparse rfl (helements o.buttons) nofun, ?_⟩
  exact Checked.both_eq_ok_iff.mpr
    ⟨optional_written hnames sparse rfl (helements o.inputs) nofun,
      optional_written hnames sparse rfl rfl nofun⟩

end Page

namespace Model

/-- A step with its kind normalized. -/
def PlannedStep.settled (s : PlannedStep) : PlannedStep := { s with kind := kindOf s.kind }

/-- A written step is taken, and its kind is normalized. -/
theorem PlannedStep.check_dump (sparse : Bool) (s : PlannedStep) :
    PlannedStep.check (s.dump sparse) = .ok s.settled := by
  let fields : Json.Fields :=
    [("type", .string s.kind), ("selector", ofText? s.selector), ("value", ofText? s.value)]
  have hnames : (fields.map Prod.fst).Nodup := by simp [fields]
  have hvalue : Schema.optional "value" none (fun v => .ok (valueOf v)) (written sparse fields) =
      .ok s.value := by
    refine optional_written hnames sparse rfl ?_ ?_
    · cases s.value <;> rfl
    · cases s.value with
      | none => exact fun _ => rfl
      | some => exact nofun
  refine bind_eq_ok_iff.mpr ⟨written sparse fields, rfl,
    bind_eq_ok_iff.mpr ⟨(s.kind, s.selector, s.value), ?_, rfl⟩⟩
  exact Checked.both_eq_ok_iff.mpr ⟨required_written hnames sparse rfl nofun rfl,
    Checked.both_eq_ok_iff.mpr ⟨text_written hnames sparse rfl, hvalue⟩⟩

theorem Plan.check_dump (sparse : Bool) (plan : Plan) :
    Plan.check (plan.dump sparse) = .ok ⟨plan.steps.map (·.settled)⟩ := by
  refine Plan.check_eq_ok_iff.mpr
    ⟨written sparse [("steps", .array (plan.steps.map (·.dump sparse)))], rfl, ?_⟩
  exact optional_written (by simp) sparse rfl
    (list_map_eq_ok fun s _ => s.check_dump sparse) nofun

/-- What has been normalized once stays as it is. -/
theorem PlannedStep.settled_of_isStep {data : Json} {s : PlannedStep} (h : IsStep data s) :
    s.settled = s := by
  obtain ⟨-, -, -⟩ := h
  rw [settled, kindOf, Text.lower_trim_lower_trim]

theorem settled_of_forall₂ {items : List Json} {steps : List PlannedStep}
    (h : List.Forall₂ IsStep items steps) : steps.map (·.settled) = steps := by
  induction h with
  | nil => rfl
  | cons hstep _ ih => rw [List.map_cons, PlannedStep.settled_of_isStep hstep, ih]

theorem settled_of_isPlan {data : Json} {steps : List PlannedStep} (h : IsPlan data steps) :
    steps.map (·.settled) = steps := by
  cases h with
  | bare h => exact settled_of_forall₂ h
  | listed _ h => exact settled_of_forall₂ h
  | unlisted => rfl

theorem settles_step : Settles PlannedStep.check PlannedStep.dump where
  takes s sparse := ⟨_, s.check_dump sparse⟩
  givesBack data s h sparse := by
    have hsettled := PlannedStep.settled_of_isStep (PlannedStep.check_eq_ok_iff.mp h)
    rw [s.check_dump, hsettled]

theorem settles_plan : Settles Plan.check Plan.dump where
  takes plan sparse := ⟨_, plan.check_dump sparse⟩
  givesBack data plan h sparse := by
    obtain ⟨fields, -, hsteps⟩ := Plan.check_eq_ok_iff.mp h
    rw [plan.check_dump, settled_of_isPlan (stepsField_eq_ok_iff.mp hsteps)]

theorem Verdict.check_dump (sparse : Bool) (v : Verdict) :
    Verdict.check (v.dump sparse) = .ok v := by
  let fields : Json.Fields := [("passed", .bool v.passed), ("thought", .string v.thought)]
  have hnames : (fields.map Prod.fst).Nodup := by simp [fields]
  have hpassed : verdictField (written sparse fields) = some (.bool v.passed) := by
    have hget : Json.get? "passed" (written sparse fields) = some (.bool v.passed) :=
      (get?_written_eq_some_iff hnames sparse).mpr ⟨rfl, nofun⟩
    rw [verdictField, get?_written_of_none hnames sparse rfl, hget]
    rfl
  refine bind_eq_ok_iff.mpr ⟨written sparse fields, rfl, bind_eq_ok_iff.mpr ⟨(_, _), ?_, rfl⟩⟩
  exact Checked.both_eq_ok_iff.mpr
    ⟨checkPassed_eq_ok_iff.mpr ⟨_, hpassed, .flag v.passed⟩,
      optional_written hnames sparse rfl rfl nofun⟩

theorem Envelope.check_dump (sparse : Bool) (e : Envelope) :
    Envelope.check (e.dump sparse) = .ok e := by
  refine bind_eq_ok_iff.mpr ⟨written sparse [("data", e.data)], rfl,
    bind_eq_ok_iff.mpr ⟨e.data, ?_, rfl⟩⟩
  exact optional_written (by simp) sparse rfl rfl Eq.symm

/-- Nothing stays nothing, and a text stays as it is. -/
theorem PlannedStep.valueOf_ofText? (s : Option String) : valueOf (ofText? s) = s := by
  cases s <;> rfl

theorem PlannedStep.valueOf_eq_none_iff {value : Json} : valueOf value = none ↔ value = .null := by
  cases value <;> simp [valueOf]

end Model

open Model Page

/-- Every check takes back what it has let through: a kind that has been trimmed and lower-cased is
not changed by that any more, nor a value that has been made a text, and nothing stays nothing. -/
theorem checks_settle :
    Settles Element.check Element.dump ∧ Settles Observation.check Observation.dump ∧
    Settles PlannedStep.check PlannedStep.dump ∧ Settles Plan.check Plan.dump ∧
    Settles Verdict.check Verdict.dump ∧ Settles Envelope.check Envelope.dump ∧
    (∀ s, PlannedStep.kindOf (PlannedStep.kindOf s) = PlannedStep.kindOf s) ∧
    ∀ value, PlannedStep.valueOf (ofText? (PlannedStep.valueOf value)) = PlannedStep.valueOf value ∧
      (PlannedStep.valueOf value = none ↔ value = .null) := by
  refine ⟨settles_of_forall Element.check_dump, settles_of_forall Observation.check_dump,
    settles_step, settles_plan, settles_of_forall Verdict.check_dump,
    settles_of_forall Envelope.check_dump, Text.lower_trim_lower_trim, fun value => ?_⟩
  exact ⟨PlannedStep.valueOf_ofText? _, PlannedStep.valueOf_eq_none_iff⟩

/-- A step whose kind has blanks and capitals, and whose value is a list. -/
theorem checks_settle_of_capitals :
    let data : Json := .object [("type", .string " Press\n"), ("value", .array [.integer 1, .null])]
    let s : PlannedStep := ⟨"press", none, some "[1, None]"⟩
    PlannedStep.check data = .ok s ∧ PlannedStep.check (s.dump false) = .ok s ∧
      PlannedStep.check (s.dump true) = .ok s := by
  intro data s
  have hcheck : PlannedStep.check data = .ok s := by decide +kernel
  have hsettles := checks_settle.2.2.1.givesBack data s hcheck
  exact ⟨hcheck, hsettles false, hsettles true⟩

end PageScript

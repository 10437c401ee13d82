import PageScript.Proofs.Agent.Steps
import PageScript.Proofs.Browser.Attempt
import PageScript.Proofs.Page.Handing

/-!
# Steps without a selector or a value

A planned step may have no selector and no value, but an operation always has operands: what is
absent becomes the text `None`.  Some operations look for it first, and others tell it to the page.

`runStep_heeds_absence_iff` says of every step whether it heeds what is absent.
-/

namespace PageScript

open PageScript.Act PageScript.Browser PageScript.Model PageScript.Page PageScript.Trail

variable {σ : Type} {agent : Agent σ} {s : PlannedStep} {host : Host σ} {w : σ}
  {outcome : Outcome σ Unit}

/-! ### What is absent -/

/-- An operation lacks what it cannot do without. -/
def Page.Operation.Lacks (op : Operation) (selector value : Option String) : Prop :=
  match op with
  | .goto | .click => selector = none ∧ value = none
  | .press => value = none
  | .fill | .selectOption => selector = none ∨ value = none
  | .waitForSelector => selector = none
  | .scroll => False

/-- A planned step lacks what its operation cannot do without. -/
def Model.PlannedStep.Lacks (s : PlannedStep) : Prop :=
  ∃ op : Operation, op.name = s.kind ∧ op.Lacks s.selector s.value

/-- A step hands a text to the page only if it has this value, means elements by a selector only if
it has one, and fails without reaching the browser if it lacks something. -/
structure Model.PlannedStep.Heeds (s : PlannedStep) (outcome : Outcome σ Unit) : Prop where
  value : ∀ e ∈ outcome.events, ∀ t, e.handed? = some t → s.value = some t
  selector : ∀ e ∈ outcome.events, ∀ css ∈ e.selectors, css ∉ ownSelectors → s.selector ≠ none
  lacking : s.Lacks → (∃ failure, outcome.result = .error failure) ∧ attempts outcome.events = []

/-- An operation notices what it lacks: some look for it, and where the time for a search cannot be
told nothing is filled. -/
def Page.Operation.Notices (op : Operation) (time : Json) : Prop :=
  match op with
  | .goto | .click => True
  | .fill => ∃ failure, Time.half time = .error failure
  | .press | .scroll | .selectOption | .waitForSelector => False

/-- What fails without doing anything tells the page nothing. -/
theorem heeds_of_silent {failure : Failure} (hresult : outcome.result = .error failure)
    (hevents : outcome.events = []) : s.Heeds outcome where
  value := by simp [hevents]
  selector := by simp [hevents]
  lacking _ := ⟨⟨failure, hresult⟩, by rw [hevents]; rfl⟩

namespace Agent

variable {op : Operation} {here : String} {dialogs : Except Failure Int} {events : List Event}
  {result : Except Failure Unit}

/-! ### What an operation works with -/

theorem spelt_ofText? (given : Option String) :
    spelt (some (Schema.ofText? given)) = given.getD "None" := by
  cases given <;> rfl

theorem checkOperands_operands (agent : Agent σ) (s : PlannedStep) (op : Operation) :
    checkOperands op (agent.operands s) = .ok () := by
  cases op <;> rfl

/-- A selector that counts as one is the step's. -/
theorem shown_of_counted {selector : Json}
    (h : counted (agent.operands s).selector = some selector) :
    s.selector = some selector.shown := by
  rw [← spelt_of_counted h]
  cases hs : s.selector with
  | some t => simp only [operands, hs, spelt_ofText?, Option.getD_some]
  | none =>
    simp only [operands, hs] at h
    cases h

theorem eq_of_mem_texts {t : String} (h : t ∈ op.texts (agent.operands s)) :
    t = s.value.getD "None" := by
  rw [← spelt_ofText? s.value]
  cases op with
  | press | fill | selectOption => exact List.mem_singleton.mp h
  | goto | click | scroll | waitForSelector => cases h

theorem mem_of_mem_selectors {css : String} (h : css ∈ op.selectors (agent.operands s)) :
    css ∈ withVisible (s.selector.getD "None") := by
  cases op with
  | goto | scroll => cases h
  | fill | selectOption | waitForSelector => rwa [← spelt_ofText?]
  | click | press =>
    cases hselector : counted (agent.operands s).selector with
    | none => simp [Operation.selectors, hselector] at h
    | some selector =>
      rw [shown_of_counted hselector]
      simpa [Operation.selectors, hselector] using h

/-! ### Steps that lack nothing -/

theorem value_of_mem_texts {t : String} (h : t ∈ op.texts (agent.operands s))
    (hlacks : ¬ op.Lacks s.selector s.value) : s.value = some t := by
  obtain rfl := eq_of_mem_texts h
  cases hvalue : s.value with
  | some t => rfl
  | none => cases op <;> simp_all [Operation.Lacks, Operation.texts]

theorem selector_of_mem_selectors {css : String} (h : css ∈ op.selectors (agent.operands s))
    (hlacks : ¬ op.Lacks s.selector s.value) : s.selector ≠ none := by
  intro hnone
  cases op with
  | goto | scroll => cases h
  | fill | selectOption => exact hlacks (.inl hnone)
  | waitForSelector => exact hlacks hnone
  | click | press =>
    cases hselector : counted (agent.operands s).selector with
    | none => simp [Operation.selectors, hselector] at h
    | some selector =>
      rw [shown_of_counted hselector] at hnone
      cases hnone

/-! ### Steps that lack something -/

/-- An operation that notices what it lacks does nothing. -/
theorem silent_of_notices (hlacks : op.Lacks s.selector s.value)
    (hnotices : op.Notices agent.timeout)
    (h : op.trail (agent.operands s) here dialogs events result) :
    (∃ failure, result = .error failure) ∧ events = [] := by
  cases op with
  | press | scroll | selectOption | waitForSelector => cases hnotices
  -- Without a selector and a value there is no address to go to, and no text to click on.
  | goto =>
    have hlost : destination (agent.operands s) here = .error .addressRequired := by
      simp only [operands, hlacks.1, hlacks.2]
      rfl
    cases h with
    | lost => exact ⟨⟨_, rfl⟩, rfl⟩
    | gone h => cases hlost.symm.trans h
  | click =>
    have hvalue : counted (agent.operands s).value = none := by
      simp only [operands, hlacks.2]
      rfl
    have hselector : counted (agent.operands s).selector = none := by
      simp only [operands, hlacks.1]
      rfl
    simp only [Operation.trail, Clicks, hselector] at h
    cases h with
    | unfit | empty | untimed => exact ⟨⟨_, rfl⟩, rfl⟩
    | tried h hne =>
      cases h with
      | nothing => exact absurd rfl hne
      | text h => cases hvalue.symm.trans h
  | fill =>
    obtain ⟨failure, hhalf⟩ := hnotices
    cases h with
    | broken h =>
      cases h with
      | unfit => exact ⟨⟨_, rfl⟩, rfl⟩
      | uncounted h | counted h => cases hhalf.symm.trans h
    | followed h =>
      cases h with
      | counted h => cases hhalf.symm.trans h

theorem attempts_single {c : Command} (h : Single c events result) : attempts events ≠ [] := by
  cases h <;> nofun

/-- An operation that does not notice what it lacks reaches the browser. -/
theorem attempts_of_not_notices (hlacks : op.Lacks s.selector s.value)
    (hnotices : ¬ op.Notices agent.timeout)
    (h : op.trail (agent.operands s) here dialogs events result) : attempts events ≠ [] := by
  cases op with
  | goto | click => exact absurd trivial hnotices
  | scroll => cases hlacks
  | press | waitForSelector => exact attempts_single h
  | selectOption =>
    cases h with
    | broken h => exact attempts_single h
    | followed h =>
      rw [attempts_append]
      exact fun hnil => attempts_single h (List.append_eq_nil_iff.mp hnil).1
  | fill =>
    -- A search begins with the count of dialogs, unless its time cannot be halved.
    have hcount (refusal : Option Failure) (more : List Event) :
        attempts (.request countDialogs refusal :: more) ≠ [] := nofun
    cases h with
    | broken h =>
      cases h with
      | unfit hhalf => exact absurd ⟨_, hhalf⟩ hnotices
      | uncounted | counted => exact hcount _ _
    | followed h =>
      cases h with
      | counted => exact hcount _ _

/-! ### Any step -/

theorem heeds_iff_of_trail
    (h : op.trail (agent.operands s) here dialogs outcome.events outcome.result)
    (hname : op.name = s.kind) :
    s.Heeds outcome ↔ (op.Lacks s.selector s.value → op.Notices agent.timeout) := by
  constructor
  · intro hheeds hlacks
    by_contra hnotices
    exact attempts_of_not_notices hlacks hnotices h (hheeds.lacking ⟨op, hname, hlacks⟩).2
  · intro hnotices
    by_cases hlacks : op.Lacks s.selector s.value
    · obtain ⟨⟨failure, hresult⟩, hevents⟩ := silent_of_notices hlacks (hnotices hlacks) h
      exact heeds_of_silent hresult hevents
    · have htells := trail_tells h
      refine ⟨fun e he t ht => ?_, fun e he css hcss hown => ?_, ?_⟩
      · exact value_of_mem_texts ((htells e he).handed t ht) hlacks
      · have hgiven := ((htells e he).selectors css hcss).resolve_left hown
        exact selector_of_mem_selectors hgiven hlacks
      · rintro ⟨op', hname', hlacks'⟩
        rw [← hname] at hname'
        cases eq_of_name_eq hname'
        exact absurd hlacks' hlacks

/-- Whatever is absent, a step tells the page no more than its selector and its value, or `None` for
them.  It heeds what is absent unless its operation lacks something without noticing. -/
theorem runStep_heeds_absence_iff (agent : Agent σ) (s : PlannedStep) (host : Host σ) (w : σ) :
    let outcome := agent.runStep s host w
    (∀ e ∈ outcome.events,
      e.Tells [s.value.getD "None"] (withVisible (s.selector.getD "None"))) ∧
    (s.Heeds outcome ↔ ∀ op : Operation, op.name = s.kind → op.Lacks s.selector s.value →
      op.Notices agent.timeout) := by
  intro outcome
  cases hop : Operation.ofName? s.kind with
  | none =>
    have houtcome : outcome = ⟨.error (.unsupportedStep s.kind), [], w⟩ := by
      simp only [outcome, runStep, hop]
      rfl
    rw [houtcome]
    refine ⟨List.forall_mem_nil _, iff_of_true (heeds_of_silent rfl rfl) fun op hname => ?_⟩
    exact absurd hname (ofName?_eq_none_iff.mp hop op)
  | some op =>
    have hname := ofName?_eq_some_iff.mp hop
    have houtcome : outcome = op.perform (agent.operands s) host w := by
      simp only [outcome, runStep, hop]
    have htrail := shows_perform (checkOperands_operands agent s op) host w
    rw [← houtcome] at htrail
    refine ⟨fun e he => ?_, (heeds_iff_of_trail htrail hname).trans ⟨?_, fun h => h op hname⟩⟩
    · have htells := trail_tells htrail e he
      refine ⟨fun t ht => ?_, fun css hcss => (htells.selectors css hcss).imp_right ?_⟩
      · exact List.mem_singleton.mpr (eq_of_mem_texts (htells.handed t ht))
      · exact mem_of_mem_selectors
    · intro hnotices op' hname'
      rw [← hname] at hname'
      cases eq_of_name_eq hname'
      exact hnotices

/-- A key that is absent is pressed as `None`. -/
theorem runStep_presses_none :
    let s : PlannedStep := ⟨"press", none, none⟩
    let outcome := (replyingAgent "").runStep s Rehearsal.host {}
    PlannedStep.check (.object [("type", .string "press")]) = .ok s ∧
      outcome.result = .ok () ∧ outcome.events = [(Command.pressKey "None").done] ∧
      ¬ s.Heeds outcome := by
  intro s outcome
  have hevents : outcome.events = [(Command.pressKey "None").done] := rfl
  refine ⟨by decide +kernel, rfl, hevents, fun h => ?_⟩
  have hvalue := h.value (Command.pressKey "None").done (by simp [hevents]) "None" rfl
  cases hvalue

end Agent
end PageScript

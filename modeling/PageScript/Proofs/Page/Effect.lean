import PageScript.Proofs.Page.Trail

/-!
# The effect of a page operation

Every operation has one kind of effect, by the commands that `Operation.isEffective` names.  An
operation that succeeds has had its effect once, by its last command; one that fails has not had it.
`call_has_effect_once` states it for an operation that is called with any named data.
-/

namespace PageScript.Page

open PageScript.Act PageScript.Browser PageScript.Trail

variable {σ : Type} {events : List Event} {result : Except Failure Unit}

/-- The commands by which an operation has its effect. -/
def Operation.isEffective : Operation → Command → Bool
  | .goto, .goto .. => true
  | .click, .click .. => true
  | .press, .press .. | .press, .pressKey _ => true
  | .scroll, .scroll _ => true
  | .fill, .fill .. | .fill, .typeText _ => true
  | .selectOption, .selectByValue .. | .selectOption, .selectByLabel .. => true
  | .waitForSelector, .awaitState .. => true
  | _, _ => false

/-! ### The trails one by one -/

/-- A search waits, which is the effect of no operation that searches. -/
theorem Search.not_isEffect {effective : Command → Bool} {time : Json}
    {dialogs : Except Failure Int} {css : String} {choice : Choice Locator}
    (h : Search time dialogs css events choice)
    (hwait : ∀ l state timeout, effective (.awaitState l state timeout) = false) :
    ∀ e ∈ events, ¬ IsEffect effective e :=
  h.forall_mem (fun _ => nofun) fun _ _ _ _ => not_isEffect_of_eq_false (hwait _ _ _)

theorem Clicks.once {o : Operands} {dialogs : Except Failure Int}
    (h : Clicks o dialogs events result) : Once Operation.click.isEffective events result := by
  cases hselector : counted o.selector with
  | some selector =>
    simp only [Clicks, hselector] at h
    refine Then.once h (fun hsearch => hsearch.not_isEffect fun _ _ _ => rfl) ?_
    rintro (_ | l) events result hnext
    · exact Fails.once hnext
    · exact hnext.once rfl
  | none =>
    simp only [Clicks, hselector] at h
    cases h with
    | unfit | empty | untimed => exact .missed _ (by simp)
    | tried _ _ _ htries => exact htries.once (fun _ => rfl) _

theorem Fills.once {o : Operands} {dialogs : Except Failure Int}
    (h : Fills o dialogs events result) : Once Operation.fill.isEffective events result := by
  refine Then.once h (fun hsearch => hsearch.not_isEffect fun _ _ _ => rfl) ?_
  intro found events result hfill
  refine hfill.once rfl fun htypes => ?_
  cases htypes with
  | unfit => exact .missed _ (by simp)
  | typed _ htyped => exact htyped.once (fun hclick => hclick.not_isEffect rfl) (·.once rfl)

theorem Selects.once {o : Operands} (h : Selects o events result) :
    Once Operation.selectOption.isEffective events result :=
  Then.once h (fun hwait => hwait.not_isEffect rfl) fun hselect => hselect.once rfl (·.once rfl)

theorem trail_once {op : Operation} {o : Operands} {here : String} {dialogs : Except Failure Int}
    (h : op.trail o here dialogs events result) : Once op.isEffective events result := by
  cases op with
  | goto =>
    cases h with
    | lost => exact .missed _ (by simp)
    | gone _ hgoto => exact hgoto.once rfl
  | click => exact Clicks.once h
  | press =>
    refine Single.once h ?_
    unfold pressCommand
    split <;> rfl
  | scroll => exact Single.once h rfl
  | fill => exact Fills.once h
  | selectOption => exact Selects.once h
  | waitForSelector => exact Single.once h rfl

/-! ### Calls -/

/-- An operation called with named data. -/
def Operation.call (op : Operation) (fields : Json.Fields) : Act σ Unit := do
  let o ← Act.ofExcept (Operands.ofFields op fields)
  op.perform o

/-- The names of the data that an operation cannot do without. -/
def Operation.required : Operation → List String
  | .press => ["value"]
  | .fill | .selectOption => ["selector", "value"]
  | .waitForSelector => ["selector"]
  | .goto | .click | .scroll => []

/-- The names that an operation requires and that are not among the data. -/
def Operation.missing (op : Operation) (fields : Json.Fields) : List String :=
  op.required.filter fun name => (Json.get? name fields).isNone

/-- The operands among named data. -/
def operandsIn (fields : Json.Fields) : Operands where
  selector := Json.get? "selector" fields
  value := Json.get? "value" fields
  base := Json.get? "base_url" fields
  timeout := Json.get? "timeout_ms" fields

/-- What an operation is seen to do when it is called.  It is not even begun if the data bring a
page of their own, or lack something that is required. -/
inductive Called (op : Operation) (fields : Json.Fields) (here : String)
    (dialogs : Except Failure Int) : Trail Unit
  | secondPage (hpage : Json.get? "page" fields ≠ none) :
      Called op fields here dialogs [] (.error (.secondPage op.name))
  | lacking (hpage : Json.get? "page" fields = none) (hmissing : op.missing fields ≠ []) :
      Called op fields here dialogs [] (.error (.missingOperands op.name (op.missing fields)))
  | performed {events : List Event} {result : Except Failure Unit}
      (hpage : Json.get? "page" fields = none) (hmissing : op.missing fields = [])
      (htrail : op.trail (operandsIn fields) here dialogs events result) :
      Called op fields here dialogs events result

theorem ofFields_eq (op : Operation) (fields : Json.Fields) :
    Operands.ofFields op fields =
      if Json.get? "page" fields = none then .ok (operandsIn fields)
      else .error (.secondPage op.name) := by
  rw [Operands.ofFields]
  cases Json.get? "page" fields <;> rfl

/-- Operands are checked for what is required. -/
theorem checkOperands_eq (op : Operation) (fields : Json.Fields) :
    checkOperands op (operandsIn fields) =
      if op.missing fields = [] then .ok ()
      else .error (.missingOperands op.name (op.missing fields)) := by
  have hneed (names : List String) (operands : List (String × Option Json))
      (h : operands = names.map fun name => (name, Json.get? name fields)) :
      Operands.need op operands =
        if (names.filter fun name => (Json.get? name fields).isNone) = [] then .ok ()
        else .error (.missingOperands op.name
          (names.filter fun name => (Json.get? name fields).isNone)) := by
    have hnames : (operands.filter fun operand => operand.2.isNone).map Prod.fst =
        names.filter fun name => (Json.get? name fields).isNone := by
      rw [h, List.filter_map, List.map_map]
      exact List.map_id _
    rw [← hnames]
    unfold Operands.need
    split
    · next hnil => simp [hnil]
    · next hne => rw [if_neg (by simpa using hne)]
  cases op with
  | press => exact hneed ["value"] _ rfl
  | fill | selectOption => exact hneed ["selector", "value"] _ rfl
  | waitForSelector => exact hneed ["selector"] _ rfl
  | goto | click | scroll => rfl

theorem shows_call (op : Operation) (fields : Json.Fields) (host : Host σ) (w : σ) :
    (op.call fields host w).Shows
      (Called op fields (host.address w) (host.answer countDialogs w).1) := by
  unfold Outcome.Shows Operation.call
  rw [ofFields_eq]
  split
  · next hpage =>
    rw [ofExcept_ok_bind]
    by_cases hmissing : op.missing fields = []
    · have hcheck := (checkOperands_eq op fields).trans (if_pos hmissing)
      exact .performed hpage hmissing (shows_perform hcheck host w)
    · unfold Operation.perform
      rw [checkOperands_eq, if_neg hmissing]
      exact .lacking hpage hmissing
  · next hpage => exact .secondPage hpage

theorem Called.once {op : Operation} {fields : Json.Fields} {here : String}
    {dialogs : Except Failure Int} (h : Called op fields here dialogs events result) :
    Once op.isEffective events result := by
  cases h with
  | secondPage | lacking => exact .missed _ (by simp)
  | performed _ _ htrail => exact trail_once htrail

/-- Every operation that succeeds has had its effect once, at its very end, and one that fails has
not had it.  What leads to the effect is on the trail of the operation. -/
theorem call_has_effect_once (op : Operation) (fields : Json.Fields) (host : Host σ) (w : σ) :
    let outcome := op.call fields host w
    let effect := IsEffect op.isEffective
    (outcome.result = .ok () ↔ ∃ front e, outcome.events = front ++ [e] ∧ effect e ∧
        ∀ e' ∈ front, ¬ effect e') ∧
      (∀ failure, outcome.result = .error failure → ∀ e ∈ outcome.events, ¬ effect e) ∧
        outcome.Shows (Called op fields (host.address w) (host.answer countDialogs w).1) := by
  intro outcome effect
  have hshows := shows_call op fields host w
  have honce := Called.once hshows
  exact ⟨honce.eq_ok_iff, fun failure hfailure => honce.not_isEffect_of_error hfailure, hshows⟩

end PageScript.Page

import PageScript.Proofs.Page.Trail

/-!
# What an operation tells the page

An operation says nothing to a page but what its operands say: the text that it hands over is its
value, and the elements that it means are those of its selector, perhaps in a dialog and only those
that can be seen and react.  `trail_tells` states it of every operation, whatever the browser does;
`Operation.texts` and `Operation.selectors` say which operands count for which operation.
-/

namespace PageScript

open PageScript.Browser

/-! ### What the page is told -/

/-- The text that a command hands to the page. -/
def Browser.Command.handed? : Command → Option String
  | .fill _ s _ | .press _ s _ | .selectByValue _ s _ | .selectByLabel _ s _ => some s
  | .pressKey s | .typeText s => some s
  | _ => none

/-- The elements that a command is about. -/
def Browser.Command.target? : Command → Option Locator
  | .click l _ | .fill l _ _ | .press l _ _ | .selectByValue l _ _ | .selectByLabel l _ _
  | .awaitState l _ _ => some l
  | _ => none

/-- The selectors in a locator. -/
def Browser.Locator.selectors : Locator → List String
  | .selector css => [css]
  | .role .. | .holding _ => []
  | .inside outer css => outer.selectors ++ [css]
  | .first l | .nth l _ => l.selectors
  | .without l excluded => l.selectors ++ excluded.selectors

/-- The elements that a request is about. -/
def Request.target? : Request → Option Locator
  | .command c => c.target?
  | .count l | .innerText l | .attributeOf l _ => some l
  | _ => none

/-- The text that an event hands to the page. -/
def Event.handed? : Event → Option String
  | .request (.command c) _ => c.handed?
  | _ => none

/-- The selectors of the elements that an event is about. -/
def Event.selectors : Event → List String
  | .request r _ => (r.target?.map Locator.selectors).getD []
  | _ => []

namespace Page

/-- The selectors that stand for no operand: those of dialogs, and of elements that do not react. -/
def ownSelectors : List String := Locator.dialogs.selectors ++ Locator.disabled.selectors

/-- A selector, and the same for the elements that can be seen. -/
def withVisible (css : String) : List String := [css, css ++ ":visible"]

/-- The texts that an operation may hand to the page. -/
def Operation.texts (op : Operation) (o : Operands) : List String :=
  match op with
  | .press | .fill | .selectOption => [spelt o.value]
  | .goto | .click | .scroll | .waitForSelector => []

/-- The selectors by which an operation may mean elements. -/
def Operation.selectors (op : Operation) (o : Operands) : List String :=
  match op with
  | .fill | .selectOption | .waitForSelector => withVisible (spelt o.selector)
  | .click | .press => ((counted o.selector).map fun selector => withVisible selector.shown).getD []
  | .goto | .scroll => []

end Page

open PageScript.Page

/-- A locator has none but its own selectors and given ones. -/
def Browser.Locator.Within (selectors : List String) (l : Locator) : Prop :=
  ∀ css ∈ l.selectors, css ∈ ownSelectors ∨ css ∈ selectors

/-- An event hands no text to the page but given ones, and means no elements but those of given
selectors. -/
structure Event.Tells (texts selectors : List String) (e : Event) : Prop where
  handed : ∀ s, e.handed? = some s → s ∈ texts
  selectors : ∀ css ∈ e.selectors, css ∈ ownSelectors ∨ css ∈ selectors

namespace Page

open PageScript.Trail

variable {events : List Event} {result : Except Failure Unit} {texts selectors : List String}
  {css : String} {o : Operands} {dialogs : Except Failure Int}

/-! ### Elements -/

theorem within_first_selector (css : String) :
    (Locator.first (.selector css)).Within (withVisible css) := by
  intro css' hmem
  obtain rfl := List.mem_singleton.mp hmem
  exact .inr List.mem_cons_self

theorem within_of_mem_places {l : Locator} {count : Int} (h : l ∈ places css count) :
    l.Within (withVisible css) := by
  have hplace : l = .first (.without (.inside shownDialog (css ++ ":visible"))
      (.selector ":disabled")) ∨
      l = .first (.without (.selector (css ++ ":visible")) (.selector ":disabled")) := by
    unfold places at h
    split at h <;> simp_all
  intro css' hmem
  rcases hplace with rfl | rfl
  all_goals
    simp only [Locator.selectors, List.mem_append, List.mem_singleton] at hmem
    simp only [ownSelectors, Locator.dialogs, Locator.disabled, Locator.selectors, withVisible,
      List.mem_append, List.mem_cons]
    grind

theorem within_of_mem_labelled {l : Locator} {label : String}
    (h : l ∈ [.role "button" label, .role "link" label, .holding label]) :
    (Locator.first l).Within selectors := by
  have hnone : l.selectors = [] := by
    simp only [List.mem_cons, List.not_mem_nil, or_false] at h
    rcases h with rfl | rfl | rfl <;> rfl
  intro css hmem
  rw [Locator.selectors, hnone] at hmem
  cases hmem

/-! ### The trails one by one -/

theorem tells_command {c : Command} (htext : ∀ s, c.handed? = some s → s ∈ texts)
    (htarget : ∀ l, c.target? = some l → l.Within selectors) (refusal : Option Failure) :
    Event.Tells texts selectors (.request (.command c) refusal) := by
  refine ⟨htext, fun css hmem => ?_⟩
  cases hc : c.target? with
  | none => simp [Event.selectors, Request.target?, hc] at hmem
  | some l =>
    simp only [Event.selectors, Request.target?, hc] at hmem
    exact htarget l hc css hmem

/-- A search tells the page its selector. -/
theorem Search.tells {time : Json} {choice : Choice Locator}
    (h : Search time dialogs css events choice) :
    ∀ e ∈ events, e.Tells texts (withVisible css) := by
  refine h.forall_mem (fun _ => ?_) fun count l hl timeout => ?_
  · refine ⟨nofun, fun css hmem => .inl ?_⟩
    exact List.mem_append_left _ hmem
  · refine tells_command nofun ?_
    rintro _ ⟨⟩
    exact within_of_mem_places hl

theorem Clicks.tells (h : Clicks o dialogs events result) :
    ∀ e ∈ events, e.Tells [] (Operation.click.selectors o) := by
  cases hselector : counted o.selector with
  | some selector =>
    simp only [Clicks, hselector] at h
    simp only [Operation.selectors, hselector]
    -- What is clicked has been found by the search, so it is at one of its places.
    refine Then.forall_mem h (fun hsearch => hsearch.tells) fun {found} _ _ _ hfound hnext => ?_
    cases found with
    | none =>
      cases hnext
      exact List.forall_mem_nil _
    | some l =>
      refine Single.forall_mem hnext (tells_command nofun ?_)
      rintro _ ⟨⟩
      obtain ⟨count, hl⟩ := hfound.exists_mem_places
      exact within_of_mem_places hl
  | none =>
    simp only [Clicks, hselector] at h
    cases h with
    | unfit | empty | untimed => exact List.forall_mem_nil _
    | tried _ _ _ htries =>
      refine htries.forall_mem fun l hl => tells_command nofun ?_
      rintro _ ⟨⟩
      exact within_of_mem_labelled hl

theorem Fills.tells (h : Fills o dialogs events result) :
    ∀ e ∈ events, e.Tells [spelt o.value] (Operation.fill.selectors o) := by
  refine Then.forall_mem h (fun hsearch => hsearch.tells) fun {found} _ _ _ hfound hfill => ?_
  have htarget : (fillTarget o found).Within (Operation.fill.selectors o) := by
    cases found with
    | none => exact within_first_selector _
    | some l =>
      obtain ⟨count, hl⟩ := hfound.exists_mem_places
      exact within_of_mem_places hl
  refine Rescued.forall_mem hfill (tells_command ?_ ?_) fun htypes => ?_
  · rintro _ ⟨⟩
    exact List.mem_singleton_self _
  · rintro _ ⟨⟩
    exact htarget
  · cases htypes with
    | unfit => exact List.forall_mem_nil _
    | typed _ htyped =>
      refine Then.forall_mem htyped (fun hclick => hclick.forall_mem (tells_command nofun ?_))
        fun _ htype => Single.forall_mem htype (tells_command ?_ nofun)
      · rintro _ ⟨⟩
        exact htarget
      · rintro _ ⟨⟩
        exact List.mem_singleton_self _

theorem Selects.tells (h : Selects o events result) :
    ∀ e ∈ events, e.Tells [spelt o.value] (Operation.selectOption.selectors o) := by
  have htarget : (Locator.first (.selector (spelt o.selector))).Within
      (Operation.selectOption.selectors o) := within_first_selector _
  refine Then.forall_mem h (fun hwait => hwait.forall_mem (tells_command nofun ?_))
    fun _ hselect => Rescued.forall_mem hselect (tells_command ?_ ?_)
      fun hlabel => Single.forall_mem hlabel (tells_command ?_ ?_)
  all_goals rintro _ ⟨⟩
  · exact htarget
  · exact List.mem_singleton_self _
  · exact htarget
  · exact List.mem_singleton_self _
  · exact htarget

theorem tells_pressCommand (o : Operands) (refusal : Option Failure) :
    Event.Tells (Operation.press.texts o) (Operation.press.selectors o)
      (.request (.command (pressCommand o)) refusal) := by
  cases hselector : counted o.selector with
  | none =>
    simp only [pressCommand, hselector]
    refine tells_command ?_ ?_ refusal
    all_goals rintro _ ⟨⟩
    exact List.mem_singleton_self _
  | some selector =>
    simp only [pressCommand, hselector]
    refine tells_command ?_ ?_ refusal
    all_goals rintro _ ⟨⟩
    · exact List.mem_singleton_self _
    · simp only [Operation.selectors, hselector]
      exact within_first_selector _

/-- An operation tells the page what its operands say. -/
theorem trail_tells {op : Operation} {here : String}
    (h : op.trail o here dialogs events result) :
    ∀ e ∈ events, e.Tells (op.texts o) (op.selectors o) := by
  cases op with
  | goto =>
    cases h with
    | lost => exact List.forall_mem_nil _
    | gone _ hgoto => exact hgoto.forall_mem (tells_command nofun nofun)
  | click => exact Clicks.tells h
  | press => exact Single.forall_mem h (tells_pressCommand o)
  | scroll => exact Single.forall_mem h (tells_command nofun nofun)
  | fill => exact Fills.tells h
  | selectOption => exact Selects.tells h
  | waitForSelector =>
    refine Single.forall_mem h (tells_command nofun ?_)
    rintro _ ⟨⟩
    exact within_first_selector _

end Page
end PageScript

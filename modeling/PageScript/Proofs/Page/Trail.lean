import PageScript.Page.Operation
import PageScript.Proofs.Browser.Trail

/-!
# Trails of page operations

`Operation.trail` says which commands an operation may give and what comes of them, as far as it
depends on the operands, the address of the page and the number of dialogs; what the browser answers
is left open.  Everything that is said to the browser is written out here, and so is which failures
lead on to something else.  `shows_perform` states that every operation is on its trail, whatever
the browser does.
-/

namespace PageScript.Page

open PageScript.Act PageScript.Browser PageScript.Trail PageScript.Text

variable {σ : Type} {host : Host σ} {w : σ}

/-! ### What operands say -/

/-- An operand that is there and counts as yes. -/
def counted : Option Json → Option Json
  | some v => if v.holds then some v else none
  | none => none

/-- The text of an operand. -/
def spelt : Option Json → String
  | some v => v.shown
  | none => "None"

/-- How long an operation may take: seven seconds if nothing is said. -/
def patience (o : Operands) : Json := o.timeout.getD (.integer 7000)

/-- An operand as a word, for which blanks around it and case do not count. -/
def wordOf (default : String) (operand : Option Json) : String :=
  match counted operand with
  | some v => lower (trim v.shown)
  | none => lower (trim default)

theorem given?_eq (operand : Option Json) : Operands.given? operand = counted operand := by
  cases operand with
  | none => rfl
  | some v =>
    rw [Operands.given?, Option.filter_some, counted]

theorem selector?_eq (o : Operands) : o.selector? = counted o.selector := given?_eq o.selector

theorem shown_getD_eq (operand : Option Json) : (operand.getD .null).shown = spelt operand := by
  cases operand with
  | none => rfl
  | some v => rfl

theorem locator_eq (o : Operands) : o.locator = .selector (spelt o.selector) := by
  rw [Operands.locator, shown_getD_eq]

theorem valueText_eq (o : Operands) : o.valueText = spelt o.value := shown_getD_eq o.value

theorem time_eq (o : Operands) : o.time = patience o := rfl

theorem word_eq (default : String) (operand : Option Json) :
    word default operand = wordOf default operand := by
  rw [word, wordOf, given?_eq]
  cases counted operand <;> rfl

/-! ### Finding elements -/

/-- The first dialog that lies over the page. -/
abbrev shownDialog : Locator :=
  .first (.selector "[role=dialog]:visible, .modal.show, .modal:visible")

/-- The request for the number of dialogs. -/
abbrev countDialogs : Request := .count shownDialog

/-- Where an element is looked for: in a dialog, if there is one, and then on the whole page.  It is
the first that can be seen and reacts. -/
def places (css : String) (dialogs : Int) : List Locator :=
  let inDialog := Locator.first <|
    .without (.inside shownDialog (css ++ ":visible")) (.selector ":disabled")
  let onPage := Locator.first (.without (.selector (css ++ ":visible")) (.selector ":disabled"))
  if dialogs = 0 then [onPage] else [inDialog, onPage]

/-- The search for an element that can be seen.  Each place is given half of the time, and only a
refusal of the browser leads on to the next. -/
inductive Search (time : Json) (dialogs : Except Failure Int) (css : String) :
    Trail (Option Locator)
  | unfit {failure : Failure} (h : Time.half time = .error failure) :
      Search time dialogs css [] (.error failure)
  | uncounted {half : Int} {failure : Failure} (hhalf : Time.half time = .ok half)
      (h : dialogs = .error failure) :
      Search time dialogs css [.request countDialogs (some failure)] (.error failure)
  | counted {half count : Int} {events : List Event} {choice : Choice Locator}
      (hhalf : Time.half time = .ok half) (h : dialogs = .ok count)
      (htries : Tries refused (fun l => .awaitState l "visible" (.integer half))
        (places css count) events choice) :
      Search time dialogs css (.request countDialogs none :: events) choice

/-- What is seen of a search are the count of dialogs and the waiting at the places. -/
theorem Search.forall_mem {P : Event → Prop} {time : Json} {dialogs : Except Failure Int}
    {css : String} {events : List Event} {choice : Choice Locator}
    (h : Search time dialogs css events choice)
    (hcount : ∀ refusal, P (.request countDialogs refusal))
    (hwait : ∀ count, ∀ l ∈ places css count, ∀ timeout refusal,
      P (.request (.command (.awaitState l "visible" timeout)) refusal)) :
    ∀ e ∈ events, P e := by
  cases h with
  | unfit => exact List.forall_mem_nil _
  | uncounted => exact List.forall_mem_singleton.mpr (hcount _)
  | counted _ _ htries =>
    refine List.forall_mem_cons.mpr ⟨hcount none, htries.forall_mem fun l hl => ?_⟩
    exact hwait _ l hl _

/-- What a search finds is at one of its places. -/
theorem Search.exists_mem_places {time : Json} {dialogs : Except Failure Int} {css : String}
    {events : List Event} {l : Locator} (h : Search time dialogs css events (.ok (some l))) :
    ∃ count, l ∈ places css count := by
  cases h with
  | counted _ _ htries => exact ⟨_, htries.mem_of_chosen⟩

theorem shows_firstToShow (timeout : Json) (found : List Locator) (host : Host σ) (w : σ) :
    (firstToShow timeout found host w).Shows
      (Tries refused (fun l => .awaitState l "visible" timeout) found) := by
  obtain ⟨choice, hresult, htries⟩ :=
    exists_tries (f := firstToShow timeout) (g := id) rfl (fun _ _ => rfl) found host w
  rw [isBrowser_eq] at htries
  rw [Outcome.Shows, hresult, Except.map_id]
  exact htries

/-- These are the places in which is looked. -/
theorem pickVisible_eq (css : String) (time : Json) :
    (pickVisible css time : Act σ _) = (do
      let half ← Act.ofExcept (Time.half time)
      let dialogs ← Act.ask countDialogs
      firstToShow (.integer half) (places css dialogs)) := by
  have hplaces (dialogs : Int) :
      (if dialogs = 0 then [] else [candidate css (some (.first .dialogs))])
        ++ [candidate css none] = places css dialogs := by
    unfold places
    split <;> rfl
  simp only [← hplaces]
  rfl

theorem shows_pickVisible (css : String) (time : Json) (host : Host σ) (w : σ) :
    (pickVisible css time host w).Shows (Search time (host.answer countDialogs w).1 css) := by
  rw [pickVisible_eq]
  unfold Outcome.Shows
  cases hhalf : Time.half time with
  | error failure => exact .unfit hhalf
  | ok half =>
    rw [ofExcept_ok_bind]
    have hask := ask_apply countDialogs host w
    rcases hanswer : host.answer countDialogs w with ⟨failure | count, w'⟩
    · rw [hanswer] at hask
      rw [bind_eq_of_error hask]
      exact .uncounted hhalf rfl
    · rw [hanswer] at hask
      rw [bind_eq_of_ok hask]
      exact .counted hhalf rfl (shows_firstToShow _ _ host w')

/-! ### Opening and clicking -/

/-- Where a page is to go. -/
def destination (o : Operands) (here : String) : Except Failure String := do
  let base := (counted o.base).getD (.string here)
  let target := ((counted o.selector).or (counted o.value)).getD (.string "")
  let url ← resolveData base target
  if url = "" then .error .addressRequired else .ok url

/-- A page goes to where it is to go. -/
inductive Goes (o : Operands) (here : String) : Trail Unit
  | lost {failure : Failure} (h : destination o here = .error failure) :
      Goes o here [] (.error failure)
  | gone {url : String} {events : List Event} {result : Except Failure Unit}
      (h : destination o here = .ok url) (hgoto : Single (.goto url (patience o)) events result) :
      Goes o here events result

theorem shows_goto (o : Operands) (host : Host σ) (w : σ) :
    (goto o host w).Shows (Goes o (host.address w)) := by
  unfold Outcome.Shows goto
  rw [bind_eq_of_ok (show Act.address host w = ⟨.ok (host.address w), [], w⟩ from rfl),
    List.nil_append]
  simp only [given?_eq, time_eq]
  have hdestination : destination o (host.address w) = (resolveData
      ((counted o.base).getD (.string (host.address w)))
      (((counted o.selector).or (counted o.value)).getD (.string "")) >>= fun url =>
        if url = "" then .error .addressRequired else .ok url) := rfl
  cases hurl : resolveData _ _ with
  | error failure =>
    rw [hurl] at hdestination
    exact .lost hdestination
  | ok url =>
    rw [hurl] at hdestination
    rw [ofExcept_ok_bind]
    split
    · next hempty => exact .lost (hdestination.trans (if_pos hempty))
    · next hurl => exact .gone (hdestination.trans (if_neg hurl)) (shows_command _ host w)

/-- An element of a selector is clicked once it has been found. -/
def ClicksFound (o : Operands) (dialogs : Except Failure Int) (selector : Json) : Trail Unit :=
  (Search (patience o) dialogs selector.shown).Then fun
    | some l => Single (.click l (patience o))
    | none => Fails (.elementNotFound selector)

/-- The text on which a value says to click; blanks around it do not count. -/
inductive Labels (value : Option Json) : String → Prop
  | nothing (h : counted value = none) : Labels value ""
  | text {s : String} (h : counted value = some (.string s)) : Labels value (trim s)

/-- What a text may mean is clicked: a button, a link, and then whatever holds the text.  Only a
refusal of the browser leads on from one to the next. -/
inductive ClicksLabelled (o : Operands) : Trail Unit
  | unfit {v : Json} (h : counted o.value = some v) (hv : ∀ s, v ≠ .string s) :
      ClicksLabelled o [] (.error (.unsupported v.kind "strip"))
  | empty (h : Labels o.value "") :
      ClicksLabelled o [] (.error (.nothingClickable (o.value.getD .null)))
  | untimed {label : String} {failure : Failure} (h : Labels o.value label)
      (hlabel : label ≠ "") (htime : Time.third (patience o) = .error failure) :
      ClicksLabelled o [] (.error failure)
  | tried {label : String} {third : Json} {events : List Event} {choice : Choice Locator}
      (h : Labels o.value label) (hlabel : label ≠ "")
      (htime : Time.third (patience o) = .ok third)
      (htries : Tries refused (fun l => .click (.first l) third)
        [.role "button" label, .role "link" label, .holding label] events choice) :
      ClicksLabelled o events (choice.orFail (.nothingClickable (o.value.getD .null)))

/-- A selector comes before a text. -/
def Clicks (o : Operands) (dialogs : Except Failure Int) : Trail Unit :=
  match counted o.selector with
  | some selector => ClicksFound o dialogs selector
  | none => ClicksLabelled o

theorem labels_of_clickLabel {value : Option Json} {label : String}
    (h : clickLabel value = .ok label) : Labels value label := by
  rw [clickLabel, given?_eq] at h
  split at h
  · next hnone =>
    cases h
    exact .nothing hnone
  · next hsome =>
    cases h
    exact .text hsome
  · cases h

theorem unfit_of_clickLabel {value : Option Json} {failure : Failure}
    (h : clickLabel value = .error failure) :
    ∃ v, counted value = some v ∧ (∀ s, v ≠ .string s) ∧
      failure = .unsupported v.kind "strip" := by
  rw [clickLabel, given?_eq] at h
  split at h
  · cases h
  · cases h
  · next v hother hsome =>
    cases h
    exact ⟨v, hsome, hother, rfl⟩

theorem clickFirst_tries (timeout : Json) (found : List Locator) (host : Host σ) (w : σ) :
    ∃ choice, (clickFirst timeout found host w).result = choice.map Option.isSome ∧
      Tries refused (fun l => .click (.first l) timeout) found
        (clickFirst timeout found host w).events choice := by
  rw [← isBrowser_eq]
  exact exists_tries rfl (fun _ _ => rfl) found host w

theorem shows_clickByText (o : Operands) (host : Host σ) (w : σ) :
    (clickByText o host w).Shows (ClicksLabelled o) := by
  unfold Outcome.Shows clickByText
  cases hlabel : clickLabel o.value with
  | error failure =>
    obtain ⟨v, hv, hother, rfl⟩ := unfit_of_clickLabel hlabel
    exact .unfit hv hother
  | ok label =>
    replace hlabel := labels_of_clickLabel hlabel
    rw [ofExcept_ok_bind]
    split
    · next hempty =>
      subst hempty
      exact .empty hlabel
    · next hne =>
      rw [time_eq]
      cases htime : Time.third (patience o) with
      | error failure => exact .untimed hlabel hne htime
      | ok third =>
        obtain ⟨choice, hresult, htries⟩ := clickFirst_tries third (labelled label) host w
        -- What is clicked is known to `htried` alone; the click itself only says whether it was.
        have htried := ClicksLabelled.tried hlabel hne htime htries
        rw [ofExcept_ok_bind]
        rcases choice with failure | _ | l
        · rw [bind_of_error hresult]
          exact htried
        · rw [bind_of_ok hresult]
          simpa [Choice.orFail] using htried
        · rw [bind_of_ok hresult]
          simpa [Choice.orFail] using htried

theorem shows_click (o : Operands) (host : Host σ) (w : σ) :
    (click o host w).Shows (Clicks o (host.answer countDialogs w).1) := by
  unfold click Clicks
  rw [selector?_eq]
  cases counted o.selector with
  | none => exact shows_clickByText o host w
  | some selector =>
    refine shows_bind (shows_pickVisible _ _ host w) fun found w' => ?_
    cases found with
    | some l => exact shows_command _ host w'
    | none => exact .failed

/-! ### Keys, scrolling and waiting -/

/-- The command that presses a key: on the first element of a selector, or where the page is. -/
def pressCommand (o : Operands) : Command :=
  match counted o.selector with
  | some selector => .press (.first (.selector selector.shown)) (spelt o.value) (patience o)
  | none => .pressKey (spelt o.value)

theorem spelt_of_counted {operand : Option Json} {v : Json} (h : counted operand = some v) :
    spelt operand = v.shown := by
  have hv := Option.eq_some_of_filter_eq_some ((given?_eq operand).trans h)
  rw [hv, spelt]

theorem press_eq (o : Operands) : (press o : Act σ Unit) = Act.command (pressCommand o) := by
  rw [press, pressCommand, selector?_eq, locator_eq, valueText_eq, time_eq]
  cases hselector : counted o.selector with
  | none => rfl
  | some selector => rw [spelt_of_counted hselector]

/-- The command that scrolls. -/
def scrollCommand (o : Operands) : Command :=
  .scroll (if wordOf "down" o.value = "up" then -600 else 600)

theorem scroll_eq (o : Operands) : (scroll o : Act σ Unit) = Act.command (scrollCommand o) := by
  rw [scroll, scrollCommand, word_eq]
  rfl

/-- The command that waits for a state; what is no state stands for the first of them. -/
def waitCommand (o : Operands) : Command :=
  let state := wordOf "visible" o.value
  .awaitState (.first (.selector (spelt o.selector)))
    (if state ∈ ["visible", "attached", "hidden", "detached"] then state else "visible")
    (patience o)

theorem waitForSelector_eq (o : Operands) :
    (waitForSelector o : Act σ Unit) = Act.command (waitCommand o) := by
  rw [waitForSelector, waitCommand, word_eq, locator_eq, time_eq]
  simp only [List.contains_iff_mem]
  rfl

/-! ### Forms -/

/-- A value is typed after a click, for which there is a second at most. -/
inductive TypesInstead (o : Operands) (target : Locator) : Trail Unit
  | unfit {failure : Failure} (h : Time.atMostSecond (patience o) = .error failure) :
      TypesInstead o target [] (.error failure)
  | typed {short : Json} {events : List Event} {result : Except Failure Unit}
      (h : Time.atMostSecond (patience o) = .ok short)
      (htyped : (Single (.click target short)).Then (fun _ => Single (.typeText (spelt o.value)))
        events result) :
      TypesInstead o target events result

/-- The element that is filled: the one that has been found, or else the first of the selector. -/
def fillTarget (o : Operands) (found : Option Locator) : Locator :=
  found.getD (.first (.selector (spelt o.selector)))

/-- An input is filled after a search, and only if that takes too long the value is typed. -/
def Fills (o : Operands) (dialogs : Except Failure Int) : Trail Unit :=
  (Search (patience o) dialogs (spelt o.selector)).Then fun found =>
    Rescued late (.fill (fillTarget o found) (spelt o.value) (patience o))
      (TypesInstead o (fillTarget o found))

theorem shows_fill (o : Operands) (host : Host σ) (w : σ) :
    (fill o host w).Shows (Fills o (host.answer countDialogs w).1) := by
  rw [fill, shown_getD_eq, locator_eq, valueText_eq, time_eq, isBrowserTimeout_eq]
  refine shows_bind (shows_pickVisible _ _ host w) fun found w' => shows_rescued fun _ w'' => ?_
  unfold Outcome.Shows
  cases hshort : Time.atMostSecond (patience o) with
  | error failure => exact .unfit hshort
  | ok short =>
    exact .typed hshort (shows_bind (shows_command _ host w'') fun _ => shows_command _ host)

/-- An option is selected once its element can be seen: by its value, or else by its label. -/
def Selects (o : Operands) : Trail Unit :=
  let target := Locator.first (.selector (spelt o.selector))
  (Single (.awaitState target "visible" (patience o))).Then fun _ =>
    Rescued refused (.selectByValue target (spelt o.value) (patience o))
      (Single (.selectByLabel target (spelt o.value) (patience o)))

theorem shows_selectOption (o : Operands) (host : Host σ) (w : σ) :
    (selectOption o host w).Shows (Selects o) := by
  rw [selectOption, locator_eq, valueText_eq, time_eq, isBrowser_eq]
  exact shows_bind (shows_command _ host w) fun _ _ => shows_rescued fun _ => shows_command _ host

/-! ### All operations -/

/-- What an operation is seen to do whose operands are there. -/
def Operation.trail (op : Operation) (o : Operands) (here : String)
    (dialogs : Except Failure Int) : Trail Unit :=
  match op with
  | .goto => Goes o here
  | .click => Clicks o dialogs
  | .press => Single (pressCommand o)
  | .scroll => Single (scrollCommand o)
  | .fill => Fills o dialogs
  | .selectOption => Selects o
  | .waitForSelector => Single (waitCommand o)

theorem shows_perform {op : Operation} {o : Operands} (h : checkOperands op o = .ok ())
    (host : Host σ) (w : σ) :
    (op.perform o host w).Shows
      (op.trail o (host.address w) (host.answer countDialogs w).1) := by
  unfold Operation.perform
  rw [h, ofExcept_ok_bind]
  cases op with
  | goto => exact shows_goto o host w
  | click => exact shows_click o host w
  | press =>
    dsimp only
    rw [press_eq]
    exact shows_command _ host w
  | scroll =>
    dsimp only
    rw [scroll_eq]
    exact shows_command _ host w
  | fill => exact shows_fill o host w
  | selectOption => exact shows_selectOption o host w
  | waitForSelector =>
    dsimp only
    rw [waitForSelector_eq]
    exact shows_command _ host w

end PageScript.Page

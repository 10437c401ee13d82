import PageScript.Page.Perception
import PageScript.Rehearsal

/-!
# What there is to be seen

A `Content` is what a page answers to every reading.  The surroundings show it if they answer
readings as the content says, except for those that the browser refuses; which these are, and when,
is left open (`Content.ShownBy`).  A rehearsal shows its page, whichever readings its rules refuse
(`shownBy_host`).

What a page that refuses nothing would look like is a matter of its content alone: `Content.view`.
-/

namespace PageScript.Page

open PageScript.Browser PageScript.Text

/-- What a page answers. -/
structure Content where
  url : String
  title : Option String
  count : Locator → Int
  innerText : Locator → String
  attributeOf : Locator → String → Option String

/-- What the elements of a collection are for. -/
inductive Role
  | button
  | input
  deriving DecidableEq, Repr

namespace Role

def name : Role → String
  | button => "button"
  | input => "input"

/-- The elements of a role. -/
def locator : Role → Locator
  | button => buttonLocator
  | input => inputLocator

/-- The most elements of a role. -/
def limit : Role → Nat
  | button => buttonLimit
  | input => inputLimit

/-- The description of an element. -/
def describe {σ : Type} : Role → Locator → Act σ (Option Element)
  | button => describeButton
  | input => describeInput

end Role

namespace Content

variable (c : Content)

/-! ### Answers -/

/-- The answer of a page to a reading. -/
def answer? : (r : Request) → Option r.Answer
  | .title => some c.title
  | .count l => some (c.count l)
  | .innerText l => some (c.innerText l)
  | .attributeOf l name => some (c.attributeOf l name)
  | _ => none

/-- In all states of a kind, and whatever is read there, the surroundings show a content; the
browser may refuse any reading. -/
structure ShownBy {σ : Type} (host : Host σ) (V : σ → Prop) : Prop where
  address {w : σ} (hw : V w) : host.address w = c.url
  stays {w : σ} (hw : V w) {r : Request} {a : r.Answer} (h : c.answer? r = some a) :
    V (host.answer r w).2
  answers {w : σ} (hw : V w) {r : Request} {a : r.Answer} (h : c.answer? r = some a) :
    (host.answer r w).1 = .ok a ∨
      ∃ failure, failure.isBrowser = true ∧ (host.answer r w).1 = .error failure

/-! ### Elements -/

/-- An attribute that is missing or empty. -/
def IsBare (s : Option String) : Prop := s = none ∨ s = some ""

theorem isTelling_eq_false_iff {s : Option String} : isTelling s = false ↔ IsBare s := by
  rcases s with _ | s <;> simp [isTelling, IsBare]

/-- An attribute that says something. -/
def telling (l : Locator) (name : String) : Option String := (c.attributeOf l name).filter (· ≠ "")

theorem telling_cases (l : Locator) (name : String) :
    (isTelling (c.attributeOf l name) = false ∧ c.telling l name = none) ∨
      ∃ s, s ≠ "" ∧ c.attributeOf l name = some s ∧ c.telling l name = some s := by
  rw [telling]
  rcases c.attributeOf l name with _ | s
  · exact .inl ⟨rfl, rfl⟩
  · by_cases hs : s = ""
    · subst hs
      exact .inl ⟨rfl, rfl⟩
    · exact .inr ⟨s, hs, rfl, by simp [hs]⟩

theorem getD_telling (l : Locator) (name : String) :
    (c.telling l name).getD "" = (c.attributeOf l name).getD "" := by
  rcases c.telling_cases l name with ⟨hattribute, htelling⟩ | ⟨s, -, hattribute, htelling⟩
  · rw [htelling]
    generalize c.attributeOf l name = s at hattribute
    rcases s with _ | s
    · rfl
    · simp only [isTelling, bne_eq_false_iff_eq] at hattribute
      rw [hattribute]
      rfl
  · rw [hattribute, htelling]

/-- The label of an element. -/
def label : Role → Locator → String
  | .button, l => collapse (c.innerText l)
  | .input, l => collapse ((labelSources.findSome? (c.telling l)).getD "")

/-- A selector for an element. -/
def hint (l : Locator) : Option String :=
  hintSources.findSome? fun source => (c.telling l source.1).map source.2

/-- An element with a label. -/
def entry (kind label : String) (l : Locator) : Element where
  role := some kind
  text := nonEmpty label
  id := c.attributeOf l "id"
  name := c.attributeOf l "name"
  ariaLabel := c.attributeOf l "aria-label"
  testId := c.attributeOf l "data-testid"
  hint := c.hint l

/-- An element as it can be seen. -/
def element (role : Role) (l : Locator) : Element := c.entry role.name (c.label role l) l

/-- How many elements of a role are looked at. -/
def amount (role : Role) : Nat := min (c.count role.locator).toNat role.limit

/-- The elements of a role, as they can be seen. -/
def elements (role : Role) : List Element :=
  (List.range (c.amount role)).map fun i => c.element role (.nth role.locator i)

@[simp] theorem length_elements (role : Role) : (c.elements role).length = c.amount role := by
  simp [elements]

/-- A page as it can be seen. -/
def view : Observation where
  url := c.url
  title := c.title
  texts := (usefulLines (c.innerText bodyLocator)).take textLimit
  buttons := c.elements .button
  inputs := c.elements .input
  flags := [("modal_open", .bool (decide (0 < c.count .dialogs)))]

end Content
end PageScript.Page

/-! ### Pages of rehearsals -/

namespace PageScript.Rehearsal

open PageScript.Page (Content)

/-- What a page of a rehearsal answers. -/
def Page.content (p : Page) : Content where
  url := p.url
  title := p.title
  count := p.count
  innerText := p.innerText
  attributeOf := p.attributeOf

/-- A rehearsal with a page, in which some readings may be refused by the browser. -/
structure Script.Shows (p : Page) (s : Script) : Prop where
  page : s.page = p
  rules : ∀ rule ∈ s.rules, rule.failure.isBrowser = true

/-- Rules give no failures but their own, and keep them. -/
theorem failures_fire {P : Failure → Prop} {rules : List Rule}
    (h : ∀ rule ∈ rules, P rule.failure) (text : String) :
    (∀ failure ∈ (fire text rules).1, P failure) ∧
      ∀ rule ∈ (fire text rules).2, P rule.failure := by
  induction rules with
  | nil => exact ⟨nofun, nofun⟩
  | cons rule rules ih =>
    obtain ⟨hrule, hrules⟩ := List.forall_mem_cons.mp h
    obtain ⟨hfailure, hlater⟩ := ih hrules
    have hfires : ∀ failure ∈ some rule.failure, P failure := by
      intro failure hmem
      cases hmem
      exact hrule
    rw [fire]
    split
    · split
      · exact ⟨hfailure, List.forall_mem_cons.mpr ⟨hrule, hlater⟩⟩
      · split
        · exact ⟨hfires, h⟩
        · exact ⟨hfailure, List.forall_mem_cons.mpr ⟨hrule, hlater⟩⟩
        · exact ⟨hfires, List.forall_mem_cons.mpr ⟨hrule, hrules⟩⟩
    · exact ⟨hfailure, List.forall_mem_cons.mpr ⟨hrule, hlater⟩⟩

theorem Script.Shows.ruled {α : Type} {p : Page} {s : Script} (h : s.Shows p) (text : String)
    (a : α) :
    (s.ruled text (.ok a)).2.Shows p ∧
      ((s.ruled text (.ok a)).1 = .ok a ∨
        ∃ failure, failure.isBrowser = true ∧ (s.ruled text (.ok a)).1 = .error failure) := by
  obtain ⟨hfailure, hrules⟩ := failures_fire (P := fun f => f.isBrowser = true) h.rules text
  rcases hfire : fire text s.rules with ⟨_ | failure, rules⟩ <;>
    rw [hfire] at hfailure hrules <;> rw [Script.ruled, hfire]
  · exact ⟨⟨h.page, hrules⟩, .inl rfl⟩
  · exact ⟨⟨h.page, hrules⟩, .inr ⟨failure, hfailure failure rfl, rfl⟩⟩

theorem Script.Shows.answer {p : Page} {s : Script} (h : s.Shows p) {r : Request} {a : r.Answer}
    (ha : p.content.answer? r = some a) :
    (s.answer r).2.Shows p ∧
      ((s.answer r).1 = .ok a ∨
        ∃ failure, failure.isBrowser = true ∧ (s.answer r).1 = .error failure) := by
  obtain rfl := h.page
  cases r <;> cases ha <;> exact h.ruled _ _

/-- A rehearsal shows its page. -/
theorem shownBy_host (p : Page) : p.content.ShownBy host (Script.Shows p) where
  address hw := congrArg Page.url hw.page
  stays hw _ _ h := (hw.answer h).1
  answers hw _ _ h := (hw.answer h).2

end PageScript.Rehearsal

import PageScript.Proofs.Page.Tolerance
import PageScript.Proofs.Text.Words

/-!
# What an observation holds

If nothing is refused, an observation is what its page shows (`perceive_shows`): the first rows of
the page of a length that is of use, and an entry for each of the first buttons and inputs.  All
texts are normal, and an element with no text to show has none.
-/

namespace PageScript.Page

open PageScript.Browser PageScript.Text PageScript.Page.Content

/-! ### Texts -/

/-- The rows of a text that are of use, with their blanks normalized. -/
def usefulRows (cs : List Char) : List (List Char) :=
  ((rows cs).map normalized).filter fun row => 2 ≤ row.length ∧ row.length ≤ 200

theorem usefulLines_eq_map (s : String) :
    (usefulLines s).map String.toList = usefulRows s.toList := by
  have hcollapse : String.toList ∘ collapse ∘ String.ofList = normalized := by
    funext row
    simp [toList_collapse]
  have huseful : isUseful ∘ collapse ∘ String.ofList =
      (fun row => decide (2 ≤ row.length ∧ row.length ≤ 200)) ∘ normalized := by
    funext row
    simp [isUseful, ← hcollapse, String.length_toList]
  have hempty : ((fun row => decide (2 ≤ row.length ∧ row.length ≤ 200)) ∘ normalized) [] = false :=
    rfl
  rw [usefulLines, lines, List.map_map, List.filter_map, List.map_map, hcollapse, huseful,
    ← filter_rows hempty, usefulRows, List.filter_map]

/-- The text that shows a label: the label with its blanks normalized, or none if that is empty. -/
structure ShowsLabel (label : String) (text : Option String) : Prop where
  eq_none_iff : text = none ↔ normalized label.toList = []
  normal : ∀ s ∈ text, s ≠ "" ∧ s.toList = normalized label.toList ∧ IsNormal s.toList

theorem showsLabel_collapse (label : String) : ShowsLabel label (nonEmpty (collapse label)) := by
  have hlabel := toList_collapse label
  rw [nonEmpty]
  split
  · next h =>
    rw [h] at hlabel
    refine ⟨iff_of_true rfl hlabel.symm, fun s hs => ?_⟩
    cases hs
  · next h =>
    refine ⟨iff_of_false (Option.some_ne_none _) fun hnil => h ?_, fun s hs => ?_⟩
    · rw [hnil] at hlabel
      exact String.toList_eq_nil_iff.mp hlabel
    · cases hs
      exact ⟨h, hlabel, hlabel ▸ isNormal_normalized _⟩

/-! ### Attributes -/

/-- The first of some attributes that says something, if one does. -/
inductive Tells (attr : String → Option String) : List String → Option String → Prop
  | nobody : Tells attr [] none
  | here {name s : String} {names : List String} (h : attr name = some s) (hs : s ≠ "") :
      Tells attr (name :: names) (some s)
  | later {name : String} {names : List String} {found : Option String}
      (h : IsBare (attr name)) (hlater : Tells attr names found) :
      Tells attr (name :: names) found

/-- A selector is made of the first attribute that says something. -/
inductive IsHint (attr : String → Option String) : Option String → Prop
  | id {s : String} (h : attr "id" = some s) (hs : s ≠ "") : IsHint attr (some ("#" ++ s))
  | name {s : String} (hid : IsBare (attr "id")) (h : attr "name" = some s)
      (hs : s ≠ "") : IsHint attr (some ("[name='" ++ s ++ "']"))
  | testId {s : String} (hid : IsBare (attr "id")) (hname : IsBare (attr "name"))
      (h : attr "data-testid" = some s) (hs : s ≠ "") :
      IsHint attr (some ("[data-testid='" ++ s ++ "']"))
  | none (hid : IsBare (attr "id")) (hname : IsBare (attr "name"))
      (htestId : IsBare (attr "data-testid")) : IsHint attr none

theorem IsHint.eq_none_iff {attr : String → Option String} {hint : Option String}
    (h : IsHint attr hint) :
    hint = .none ↔ IsBare (attr "id") ∧ IsBare (attr "name") ∧
      IsBare (attr "data-testid") := by
  have hbare {s : String} (hs : s ≠ "") : ¬ IsBare (some s) := by simp [IsBare, hs]
  cases h with
  | id h hs => exact iff_of_false (Option.some_ne_none _) fun hall => hbare hs (h ▸ hall.1)
  | name _ h hs => exact iff_of_false (Option.some_ne_none _) fun hall => hbare hs (h ▸ hall.2.1)
  | testId _ _ h hs =>
    exact iff_of_false (Option.some_ne_none _) fun hall => hbare hs (h ▸ hall.2.2)
  | none hid hname htestId => exact iff_of_true rfl ⟨hid, hname, htestId⟩

namespace Content

variable {c : Content} {l : Locator} {role : Role}

theorem tells_findSome? (c : Content) (l : Locator) (names : List String) :
    Tells (c.attributeOf l) names (names.findSome? (c.telling l)) := by
  induction names with
  | nil => exact .nobody
  | cons name names ih =>
    rw [List.findSome?_cons]
    rcases c.telling_cases l name with ⟨hbare, htelling⟩ | ⟨s, hs, hattribute, htelling⟩
    · rw [htelling]
      exact .later (isTelling_eq_false_iff.mp hbare) ih
    · rw [htelling]
      exact .here hattribute hs

theorem isHint_hint (c : Content) (l : Locator) : IsHint (c.attributeOf l) (c.hint l) := by
  have hbare {name : String} (h : isTelling (c.attributeOf l name) = false) :
      IsBare (c.attributeOf l name) := isTelling_eq_false_iff.mp h
  simp only [Content.hint, hintSources, List.findSome?_cons, List.findSome?_nil]
  rcases c.telling_cases l "id" with ⟨hid, htelling⟩ | ⟨s, hs, hattr, htelling⟩
  · rcases c.telling_cases l "name" with ⟨hname, htelling'⟩ | ⟨s, hs, hattr, htelling'⟩
    · rcases c.telling_cases l "data-testid" with ⟨htestId, htelling''⟩ | ⟨s, hs, hattr, htelling''⟩
      · simpa [htelling, htelling', htelling''] using
          IsHint.none (hbare hid) (hbare hname) (hbare htestId)
      · simpa [htelling, htelling', htelling''] using .testId (hbare hid) (hbare hname) hattr hs
    · simpa [htelling, htelling'] using .name (hbare hid) hattr hs
  · simpa [htelling] using .id hattr hs

/-! ### Elements -/

/-- What an element is labelled with: a button with its text, an input with an attribute. -/
inductive Labels (c : Content) (l : Locator) : Role → String → Prop
  | button : Labels c l .button (c.innerText l)
  | input {found : Option String}
      (h : Tells (c.attributeOf l) ["placeholder", "aria-label", "name", "type"] found) :
      Labels c l .input (found.getD "")

/-- The entry for an element. -/
structure IsEntry (c : Content) (r : Role) (l : Locator) (e : Element) : Prop where
  role : e.role = some r.name
  text : ∃ label, c.Labels l r label ∧ ShowsLabel label e.text
  id : e.id = c.attributeOf l "id"
  name : e.name = c.attributeOf l "name"
  ariaLabel : e.ariaLabel = c.attributeOf l "aria-label"
  testId : e.testId = c.attributeOf l "data-testid"
  hint : IsHint (c.attributeOf l) e.hint
  hint_eq_none_iff : e.hint = none ↔ IsBare (c.attributeOf l "id") ∧
    IsBare (c.attributeOf l "name") ∧ IsBare (c.attributeOf l "data-testid")

theorem isEntry_element (c : Content) (role : Role) (l : Locator) :
    c.IsEntry role l (c.element role l) where
  role := rfl
  text := by
    dsimp only [element, entry]
    cases role with
    | button =>
      rw [label]
      exact ⟨_, .button, showsLabel_collapse _⟩
    | input =>
      rw [label]
      exact ⟨_, .input (c.tells_findSome? l labelSources), showsLabel_collapse _⟩
  id := rfl
  name := rfl
  ariaLabel := rfl
  testId := rfl
  hint := c.isHint_hint l
  hint_eq_none_iff := (c.isHint_hint l).eq_none_iff

/-- Each of the first elements of a role has an entry, in their order. -/
structure Lists (c : Content) (role : Role) (es : List Element) : Prop where
  length : es.length = min (c.count role.locator).toNat 60
  entry : ∀ i (h : i < es.length), c.IsEntry role (.nth role.locator i) es[i]

theorem lists_elements (c : Content) (role : Role) : c.Lists role (c.elements role) where
  length := by
    rw [c.length_elements, amount]
    cases role <;> rfl
  entry i h := by
    simp only [elements, List.getElem_map, List.getElem_range]
    exact c.isEntry_element role _

end Content

/-! ### Observations -/

variable {σ : Type} {V : σ → Prop} {host : Host σ} {w : σ} {c : Content}

/-- A page that refuses nothing is observed with its first useful rows, buttons and inputs. -/
theorem perceive_shows (hshown : c.ShownBy host V) (hw : V w)
    (hgiven : anyRefused (perceive host w).events = false) :
    ∃ o, (perceive host w).result = .ok o ∧
      o.texts.map String.toList = (usefulRows (c.innerText bodyLocator).toList).take 80 ∧
      (∀ s ∈ o.texts, IsNormal s.toList ∧ 2 ≤ s.length ∧ s.length ≤ 200) ∧
      c.Lists .button o.buttons ∧ c.Lists .input o.inputs := by
  refine ⟨c.view, perceive_of_unrefused hshown hw hgiven, ?_, ?_,
    c.lists_elements .button, c.lists_elements .input⟩
  · rw [Content.view, List.map_take, usefulLines_eq_map]
    rfl
  · intro s hs
    have hrow : s.toList ∈ usefulRows (c.innerText bodyLocator).toList := by
      rw [← usefulLines_eq_map]
      exact List.mem_map_of_mem (List.mem_of_mem_take hs)
    obtain ⟨hnormalized, huseful⟩ := List.mem_filter.mp hrow
    obtain ⟨row, -, heq⟩ := List.mem_map.mp hnormalized
    rw [← String.length_toList]
    exact ⟨heq ▸ isNormal_normalized row, of_decide_eq_true huseful⟩

/-- A page with other blanks than spaces, a row that is too short, and attributes that are empty. -/
theorem perceive_shows_of_blanks :
    let page : Rehearsal.Page := {
      texts := [("body", "  News\u00a0 today\r\n\nx\nok\u2028 a\t b ")]
      elements := [
        (buttonLocator.text,
          [⟨" Save\n all ", [("id", some ""), ("name", some "save")]⟩, ⟨" ", []⟩]),
        (inputLocator.text,
          [⟨"", [("placeholder", some ""), ("aria-label", some " Your  name ")]⟩])] }
    let script : Rehearsal.Script := { page }
    script.Shows page ∧ anyRefused (perceive Rehearsal.host script).events = false ∧
      ∃ o, (perceive Rehearsal.host script).result = .ok o ∧
        o.texts = ["News today", "ok", "a b"] ∧
        o.buttons = [
          { role := some "button", text := some "Save all", id := some "", name := some "save"
            hint := some "[name='save']" },
          { role := some "button" }] ∧
        o.inputs = [{ role := some "input", text := some "Your name"
                      ariaLabel := some " Your  name " }] ∧
        (∀ s ∈ o.texts, IsNormal s.toList ∧ 2 ≤ s.length ∧ s.length ≤ 200) ∧
        page.content.Lists .button o.buttons ∧ page.content.Lists .input o.inputs := by
  intro page script
  have hshows : script.Shows page := ⟨rfl, nofun⟩
  have hgiven : anyRefused (perceive Rehearsal.host script).events = false := by decide +kernel
  have hseen : (perceive Rehearsal.host script).result.toOption.map
      (fun o => (o.texts, o.buttons, o.inputs)) = some (["News today", "ok", "a b"],
        [{ role := some "button", text := some "Save all", id := some "", name := some "save"
           hint := some "[name='save']" },
         { role := some "button" }],
        [{ role := some "input", text := some "Your name"
           ariaLabel := some " Your  name " }]) := by
    decide +kernel
  obtain ⟨o, ho, hfields⟩ := toOption_map_eq_some_iff.mp hseen
  simp only [Prod.mk.injEq] at hfields
  obtain ⟨htexts, hbuttons, hinputs⟩ := hfields
  obtain ⟨o', ho', -, hnormal, hlists⟩ :=
    perceive_shows (Rehearsal.shownBy_host page) hshows hgiven
  cases ho.symm.trans ho'
  exact ⟨hshows, hgiven, o, ho, htexts, hbuttons, hinputs, hnormal, hlists⟩

end PageScript.Page

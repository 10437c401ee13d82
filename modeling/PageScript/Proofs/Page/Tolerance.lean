import Mathlib.Data.List.ReduceOption
import PageScript.Proofs.Act
import PageScript.Proofs.Except
import PageScript.Proofs.Page.Content

/-!
# Refused readings

The browser may refuse any reading of a page at any time.  `perceive_tolerates` says what comes of
it: the events of a look at a page fall into parts, each of which makes the requests for one thing
in their order, and only what was asked for in a part with a refusal is missing from the
observation.  The number of buttons and
the number of inputs are the exception: if the browser refuses one of them there is no observation.

A computation that reads the page either gives what the content says, without a refusal, or ends
with one (`Readout`).  This holds along the computation up to the next guard, and what is guarded
gives its default instead (`Readout.orElse`).
-/

namespace PageScript

open PageScript.Act

/-- A request without an answer. -/
def Event.isRefused : Event → Bool
  | .request _ refusal => refusal.isSome
  | _ => false

/-- Whether a request was refused. -/
def anyRefused (events : List Event) : Bool := events.any Event.isRefused

@[simp] theorem anyRefused_nil : anyRefused [] = false := rfl

@[simp] theorem anyRefused_append (events more : List Event) :
    anyRefused (events ++ more) = (anyRefused events || anyRefused more) :=
  List.any_append

/-- Requests are made one after the other, and a refusal is the end. -/
inductive AsksInOrder : List Request → List Event → Prop
  | done : AsksInOrder [] []
  | refused (r : Request) (requests : List Request) (failure : Failure) :
      AsksInOrder (r :: requests) [.request r (some failure)]
  | answered (r : Request) {requests : List Request} {events : List Event}
      (h : AsksInOrder requests events) : AsksInOrder (r :: requests) (.request r none :: events)

/-- The first ones of some requests are made in order. -/
def AsksFront (requests : List Request) (events : List Event) : Prop :=
  ∃ asked, asked <+: requests ∧ AsksInOrder asked events

theorem asksFront_nil (requests : List Request) : AsksFront requests [] :=
  ⟨[], List.nil_prefix, .done⟩

namespace AsksInOrder

variable {requests others : List Request} {events more : List Event}

theorem append (h : AsksInOrder requests events) (hevents : anyRefused events = false)
    (hmore : AsksInOrder others more) : AsksInOrder (requests ++ others) (events ++ more) := by
  induction h with
  | done => exact hmore
  | refused => cases hevents
  | answered r _ ih => exact .answered r (ih hevents)

/-- What would have been asked later makes no difference after a refusal. -/
theorem append_of_refused (h : AsksInOrder requests events) (hevents : anyRefused events = true)
    (others : List Request) : AsksInOrder (requests ++ others) events := by
  induction h with
  | done => cases hevents
  | refused r requests failure => exact .refused r (requests ++ others) failure
  | answered r _ ih => exact .answered r (ih hevents)

end AsksInOrder

namespace Page

open PageScript.Browser PageScript.Text

variable {σ α β : Type} {V : σ → Prop} {requests others : List Request} {a : α} {b : β}
  {x : Act σ α} {f : α → Act σ β} {host : Host σ} {w : σ} {c : Content} {l : Locator} {role : Role}

/-! ### Up to a guard -/

/-- A value is read by some requests, or the browser refuses one of them. -/
inductive Readout (V : σ → Prop) (requests : List Request) (a : α) : Outcome σ α → Prop
  | given {events : List Event} {w : σ} (hasks : AsksInOrder requests events)
      (hrefused : anyRefused events = false) (hw : V w) : Readout V requests a ⟨.ok a, events, w⟩
  | refused {events : List Event} {w : σ} {failure : Failure} (hasks : AsksInOrder requests events)
      (hrefused : anyRefused events = true) (hw : V w) (hfailure : failure.isBrowser = true) :
      Readout V requests a ⟨.error failure, events, w⟩

namespace Readout

theorem pure (hw : V w) (a : α) : Readout V [] a ((pure a : Act σ α) host w) := .given .done rfl hw

theorem bind (hx : Readout V requests a (x host w))
    (hf : ∀ w', V w' → Readout V others b (f a host w')) :
    Readout V (requests ++ others) b ((x >>= f) host w) := by
  generalize hout : x host w = outcome at hx
  cases hx with
  | refused hasks hrefused hw hfailure =>
    rw [bind_eq_of_error hout]
    exact .refused (hasks.append_of_refused hrefused others) hrefused hw hfailure
  | @given events w' hasks hrefused hw =>
    rw [bind_eq_of_ok hout]
    have hrest := hf w' hw
    generalize f a host w' = rest at hrest
    cases hrest with
    | given hmore hnone hw =>
      exact .given (hasks.append hrefused hmore) (by simp [hrefused, hnone]) hw
    | refused hmore hsome hw hfailure =>
      exact .refused (hasks.append hrefused hmore) (by simp [hsome]) hw hfailure

/-- A value that is made of what is read. -/
theorem map (hx : Readout V requests a (x host w)) (g : α → β) :
    Readout V requests (g a) ((do return g (← x)) host w) := by
  rw [← List.append_nil requests]
  exact hx.bind fun w' hw' => .pure hw' (g a)

/-- A guard leaves no failure, and its default stands for what is not read. -/
theorem orElse (h : Readout V requests a (x host w)) (default : α) :
    ∃ events w', AsksInOrder requests events ∧ V w' ∧
      Page.orElse x default host w =
        ⟨.ok (if anyRefused events then default else a), events, w'⟩ := by
  generalize hout : x host w = outcome at h
  cases h with
  | @given events w' hasks hrefused hw =>
    refine ⟨events, w', hasks, hw, ?_⟩
    rw [Page.orElse, rescue_of_ok hout, hrefused]
    rfl
  | @refused events w' failure hasks hrefused hw hfailure =>
    refine ⟨events, w', hasks, hw, ?_⟩
    rw [Page.orElse, rescue_of_error hout, if_pos hfailure, hrefused]
    simp

end Readout

/-! ### Readings -/

theorem isTelling_some {s : String} (h : s ≠ "") : isTelling (some s) = true := by
  simp [isTelling, h]

theorem hintFrom_cons (l : Locator) (source : String × (String → String))
    (rest : List (String × (String → String))) :
    (hintFrom l (source :: rest) : Act σ _) =
      readAttribute l source.1 >>= fun s =>
        if isTelling s then Pure.pure (s.map source.2) else hintFrom l rest := by
  rw [hintFrom]
  congr 1
  funext s
  rcases s with _ | s
  · rfl
  · by_cases hs : s = ""
    · subst hs
      rfl
    · simp [isTelling_some hs]

section Shown

variable (hshown : c.ShownBy host V)
include hshown

theorem Content.ShownBy.readout (hw : V w) {r : Request} {a : r.Answer}
    (ha : c.answer? r = some a) : Readout V [r] a (Act.ask r host w) := by
  have hstays := hshown.stays hw ha
  rw [ask_apply]
  rcases hshown.answers hw ha with hok | ⟨failure, hfailure, herror⟩
  · rw [hok]
    exact .given (.answered r .done) rfl hstays
  · rw [herror]
    exact .refused (.refused r [] failure) rfl hstays hfailure

theorem readout_attribute (hw : V w) (l : Locator) (name : String) :
    Readout V [.attributeOf l name] (c.attributeOf l name) (readAttribute l name host w) :=
  hshown.readout hw rfl

/-- A hint is read up to the first attribute that says something. -/
theorem exists_readout_hintFrom (l : Locator) (sources : List (String × (String → String))) :
    ∃ asked, asked <+: sources.map (fun source => Request.attributeOf l source.1) ∧
      ∀ w, V w → Readout V asked
        (sources.findSome? fun source => (c.telling l source.1).map source.2)
        (hintFrom l sources host w) := by
  induction sources with
  | nil => exact ⟨[], List.nil_prefix, fun w hw => .pure hw none⟩
  | cons source rest ih =>
    obtain ⟨asked, hasked, hreads⟩ := ih
    rw [hintFrom_cons, List.findSome?_cons, List.map_cons]
    rcases c.telling_cases l source.1 with ⟨hattribute, htelling⟩ | ⟨s, hs, hattribute, htelling⟩
    · refine ⟨[.attributeOf l source.1] ++ asked, List.cons_prefix_cons.mpr ⟨rfl, hasked⟩,
        fun w hw => (readout_attribute hshown hw l source.1).bind fun w' hw' => ?_⟩
      rw [hattribute, htelling]
      exact hreads w' hw'
    · refine ⟨[.attributeOf l source.1] ++ [], List.cons_prefix_cons.mpr ⟨rfl, List.nil_prefix⟩,
        fun w hw => (readout_attribute hshown hw l source.1).bind fun w' hw' => ?_⟩
      rw [hattribute, htelling, isTelling_some hs]
      exact .pure hw' _

/-- An input is labelled with its first attribute that says something. -/
theorem exists_readout_firstTelling (l : Locator) (names : List String) :
    ∃ (s : Option String) (asked : List Request),
      s.getD "" = (names.findSome? (c.telling l)).getD "" ∧
      asked <+: names.map (Request.attributeOf l) ∧
      ∀ w, V w → Readout V asked s (firstTelling l names host w) := by
  induction names with
  | nil => exact ⟨none, [], rfl, List.nil_prefix, fun w hw => .pure hw none⟩
  | cons name rest ih =>
    cases rest with
    | nil =>
      refine ⟨c.attributeOf l name, [.attributeOf l name], ?_, List.prefix_rfl,
        fun w hw => readout_attribute hshown hw l name⟩
      rw [List.findSome?_singleton, c.getD_telling]
    | cons next rest =>
      obtain ⟨s, asked, hs, hasked, hreads⟩ := ih
      rw [List.findSome?_cons, List.map_cons]
      rcases c.telling_cases l name with ⟨hattribute, htelling⟩ | ⟨s', hs', hattribute, htelling⟩
      · refine ⟨s, [.attributeOf l name] ++ asked, by rw [htelling, hs],
          List.cons_prefix_cons.mpr ⟨rfl, hasked⟩,
          fun w hw => (readout_attribute hshown hw l name).bind fun w' hw' => ?_⟩
        rw [hattribute]
        exact hreads w' hw'
      · refine ⟨some s', [.attributeOf l name] ++ [], by rw [htelling],
          List.cons_prefix_cons.mpr ⟨rfl, List.nil_prefix⟩,
          fun w hw => (readout_attribute hshown hw l name).bind fun w' hw' => ?_⟩
        rw [hattribute, isTelling_some hs']
        exact .pure hw' _

end Shown

/-! ### The parts of a look -/

/-- The events of the description of an element. -/
structure ElementReadings where
  label : List Event
  fields : List Event
  hint : List Event

/-- The events of the description of a collection. -/
structure CollectionReadings where
  count : List Event
  elements : List ElementReadings

/-- The events of a look at a page. -/
structure PageReadings where
  title : List Event
  dialog : List Event
  texts : List Event
  buttons : CollectionReadings
  inputs : CollectionReadings

/-- The attributes that a description holds. -/
def fieldNames : List String := ["id", "name", "aria-label", "data-testid"]

/-- The attributes that a hint is made from. -/
def hintNames : List String := ["id", "name", "data-testid"]

/-- What a label is read from. -/
def Role.labelRequests : Role → Locator → List Request
  | .button, l => [.innerText l]
  | .input, l => ["placeholder", "aria-label", "name", "type"].map (.attributeOf l)

namespace ElementReadings

def events (r : ElementReadings) : List Event := r.label ++ (r.fields ++ r.hint)

/-- Each part makes the requests that it is for.  A label and a hint may be found early. -/
structure Fits (r : ElementReadings) (role : Role) (l : Locator) : Prop where
  label : AsksFront (role.labelRequests l) r.label
  fields : AsksInOrder (fieldNames.map (.attributeOf l)) r.fields
  hint : AsksFront (hintNames.map (.attributeOf l)) r.hint

end ElementReadings

namespace CollectionReadings

def events (r : CollectionReadings) : List Event := r.count ++ r.elements.flatMap (·.events)

structure Fits (r : CollectionReadings) (role : Role) : Prop where
  count : AsksInOrder [.count role.locator] r.count
  elements : ∀ i (h : i < r.elements.length), r.elements[i].Fits role (.nth role.locator i)

end CollectionReadings

namespace PageReadings

def events (r : PageReadings) : List Event :=
  r.title ++ (r.dialog ++ (r.texts ++ (r.buttons.events ++ r.inputs.events)))

/-- Nothing is asked of the inputs where the number of buttons is refused. -/
structure Fits (r : PageReadings) : Prop where
  title : AsksInOrder [.title] r.title
  dialog : AsksInOrder [.count .dialogs] r.dialog
  texts : AsksInOrder [.innerText bodyLocator] r.texts
  buttons : r.buttons.Fits .button
  inputs : if anyRefused r.buttons.count then r.inputs = ⟨[], []⟩ else r.inputs.Fits .input

/-- Whether the number of buttons or that of inputs is refused. -/
def countsRefused (r : PageReadings) : Bool :=
  anyRefused r.buttons.count || anyRefused r.inputs.count

/-- Each element of an observation has readings of its own. -/
structure Covers (r : PageReadings) (o : Observation) : Prop where
  buttons : r.buttons.elements.length = o.buttons.length
  inputs : r.inputs.elements.length = o.inputs.length

end PageReadings

/-! ### What is missing -/

/-- What is left of an element. -/
def Element.without (e : Element) (r : ElementReadings) : Option Element :=
  if anyRefused r.fields then none
  else some { e with
    text := if anyRefused r.label then none else e.text
    hint := if anyRefused r.hint then none else e.hint }

/-- What is left of the elements of a collection. -/
def elementsWithout (es : List Element) (r : CollectionReadings) : List Element :=
  (List.zipWith Element.without es r.elements).reduceOption

/-- What is left of an observation. -/
def Observation.without (o : Observation) (r : PageReadings) : Observation where
  url := o.url
  title := if anyRefused r.title then none else o.title
  texts := if anyRefused r.texts then [] else o.texts
  buttons := elementsWithout o.buttons r.buttons
  inputs := elementsWithout o.inputs r.inputs
  flags := if anyRefused r.dialog then [("modal_open", .bool false)] else o.flags

/-! ### Elements -/

/-- Read the attributes that a description holds. -/
def readFields (l : Locator) :
    Act σ (Option String × Option String × Option String × Option String) := do
  let id ← readAttribute l "id"
  let name ← readAttribute l "name"
  let ariaLabel ← readAttribute l "aria-label"
  let testId ← readAttribute l "data-testid"
  return (id, name, ariaLabel, testId)

theorem describe_eq (l : Locator) (kind label : String) :
    (describe l kind label : Act σ _) =
      orElse (readFields l >>= fun (id, name, ariaLabel, testId) =>
        readHint l >>= fun hint => Pure.pure (some
          { role := some kind, text := nonEmpty label, id, name, ariaLabel, testId, hint }))
        none := by
  simp only [describe, readFields, bind_assoc, pure_bind]

section Shown

variable (hshown : c.ShownBy host V)
include hshown

theorem readout_readFields (hw : V w) (l : Locator) :
    Readout V (fieldNames.map (.attributeOf l))
      (c.attributeOf l "id", c.attributeOf l "name", c.attributeOf l "aria-label",
        c.attributeOf l "data-testid")
      (readFields l host w) := by
  refine (readout_attribute hshown hw l "id").bind fun w₁ hw₁ => ?_
  refine (readout_attribute hshown hw₁ l "name").bind fun w₂ hw₂ => ?_
  refine (readout_attribute hshown hw₂ l "aria-label").bind fun w₃ hw₃ => ?_
  refine (readout_attribute hshown hw₃ l "data-testid").bind fun w₄ hw₄ => ?_
  exact .pure hw₄ _

theorem describe_reads (hw : V w) (l : Locator) (kind label : String) :
    ∃ fields hint w', AsksInOrder (fieldNames.map (.attributeOf l)) fields ∧
      AsksFront (hintNames.map (.attributeOf l)) hint ∧ V w' ∧
      describe l kind label host w =
        ⟨.ok ((c.entry kind label l).without ⟨[], fields, hint⟩), fields ++ hint, w'⟩ := by
  rw [describe_eq, orElse]
  have hfields := readout_readFields hshown hw l
  generalize hout : readFields l host w = outcome at hfields
  cases hfields with
  | @refused events w' failure hasks hrefused hw hfailure =>
    -- The description ends here, so nothing is read for a hint.
    refine ⟨events, [], w', hasks, asksFront_nil _, hw, ?_⟩
    rw [rescue_of_error (bind_eq_of_error hout), if_pos hfailure, Element.without, hrefused]
    simp
  | @given events w' hasks hrefused hw =>
    obtain ⟨asked, hasked, hreads⟩ := exists_readout_hintFrom hshown l hintSources
    obtain ⟨hint, w'', hhint, hw'', heq⟩ := (hreads w' hw).orElse none
    refine ⟨events, hint, w'', hasks, ⟨asked, hasked, hhint⟩, hw'', rescue_of_ok ?_⟩
    rw [bind_eq_of_ok hout]
    dsimp only
    rw [readHint, bind_eq_of_ok heq, Element.without, hrefused]
    simp [Content.entry, Content.hint]

/-- A label that is not read counts as an empty one. -/
theorem labelled_reads {label : Act σ α} (toText : α → String) (default : α)
    (hrequests : requests <+: role.labelRequests l) (hlabel : Readout V requests a (label host w))
    (htext : toText a = c.label role l) (hdefault : toText default = "") :
    ∃ (r : ElementReadings) (w' : σ), r.Fits role l ∧ V w' ∧
      (orElse label default >>= fun a => describe l role.name (toText a)) host w =
        ⟨.ok ((c.element role l).without r), r.events, w'⟩ := by
  obtain ⟨events, w₁, hasks, hw₁, hread⟩ := hlabel.orElse default
  obtain ⟨fields, hint, w₂, hfields, hhint, hw₂, hdescribe⟩ := describe_reads hshown hw₁ l role.name
    (toText (if anyRefused events then default else a))
  refine ⟨⟨events, fields, hint⟩, w₂, ⟨⟨requests, hrequests, hasks⟩, hfields, hhint⟩, hw₂, ?_⟩
  rw [bind_eq_of_ok hread, hdescribe]
  congr 2
  cases hrefused : anyRefused events with
  | false => simp [Content.element, Element.without, htext, hrefused]
  | true => simp [Content.element, Content.entry, Element.without, hdefault, hrefused, nonEmpty]

/-- An element is described as it can be seen, but for what is refused. -/
theorem role_describe_reads (hw : V w) (role : Role) (l : Locator) :
    ∃ (r : ElementReadings) (w' : σ), r.Fits role l ∧ V w' ∧
      role.describe l host w = ⟨.ok ((c.element role l).without r), r.events, w'⟩ := by
  cases role with
  | button =>
    have hread : Readout V [.innerText l] (c.innerText l) (Act.ask (.innerText l) host w) :=
      hshown.readout hw rfl
    exact labelled_reads hshown id "" List.prefix_rfl (hread.map collapse) rfl rfl
  | input =>
    obtain ⟨s, asked, hs, hasked, hreads⟩ := exists_readout_firstTelling hshown l labelSources
    have hempty : collapse "" = "" := by decide
    have htext : collapse (s.getD "") = c.label .input l := congrArg collapse hs
    exact labelled_reads hshown (fun s : Option String => collapse (s.getD "")) none hasked
      (hreads w hw) htext hempty

theorem collectFrom_reads (hw : V w) (role : Role) (index more : Nat) :
    ∃ (rs : List ElementReadings) (w' : σ), V w' ∧ rs.length = more ∧
      (∀ i (h : i < rs.length), rs[i].Fits role (.nth role.locator (index + i))) ∧
      collectFrom role.locator role.describe index more host w =
        ⟨.ok (List.zipWith Element.without
            ((List.range' index more).map fun i => c.element role (.nth role.locator i))
            rs).reduceOption,
          rs.flatMap (·.events), w'⟩ := by
  induction more generalizing index w with
  | zero => exact ⟨[], w, hw, rfl, fun _ h => absurd h (Nat.not_lt_zero _), rfl⟩
  | succ more ih =>
    obtain ⟨r, w₁, hfits, hw₁, hdescribe⟩ :=
      role_describe_reads hshown hw role (.nth role.locator index)
    obtain ⟨rs, w₂, hw₂, hlength, hrest, hcollect⟩ := ih hw₁ (index + 1)
    refine ⟨r :: rs, w₂, hw₂, congrArg Nat.succ hlength, ?_, ?_⟩
    · intro i hi
      cases i with
      | zero => exact hfits
      | succ i =>
        have := hrest i (Nat.lt_of_succ_lt_succ hi)
        rwa [Nat.add_right_comm] at this
    · rw [collectFrom, bind_eq_of_ok hdescribe, bind_eq_of_ok hcollect, List.range'_succ,
        List.map_cons, List.zipWith_cons_cons, List.flatMap_cons, pure_apply, List.append_nil]
      cases (c.element role (.nth role.locator index)).without r <;> rfl

/-- A collection is described as it can be seen, but for what is refused, unless the browser refuses
the number of its elements. -/
inductive Collected (V : σ → Prop) (c : Content) (role : Role) (r : CollectionReadings) :
    Outcome σ (List Element) → Prop
  | given {events : List Event} {w : σ} (hevents : events = r.events) (hfits : r.Fits role)
      (hlength : r.elements.length = c.amount role) (hcount : anyRefused r.count = false)
      (hw : V w) : Collected V c role r ⟨.ok (elementsWithout (c.elements role) r), events, w⟩
  | refused {events : List Event} {w : σ} {failure : Failure} (hevents : events = r.events)
      (hfits : r.Fits role) (hcount : anyRefused r.count = true)
      (hfailure : failure.isBrowser = true) : Collected V c role r ⟨.error failure, events, w⟩

theorem exists_collected (hw : V w) (role : Role) :
    ∃ r, Collected V c role r (collect role.locator role.limit role.describe host w) := by
  have hcount : Readout V [.count role.locator] (c.count role.locator)
      (Act.ask (.count role.locator) host w) := hshown.readout hw rfl
  generalize hout : Act.ask (.count role.locator) host w = outcome at hcount
  rw [collect]
  cases hcount with
  | @refused events w' failure hasks hrefused _ hfailure =>
    rw [bind_eq_of_error hout]
    have hfits : CollectionReadings.Fits ⟨events, []⟩ role :=
      ⟨hasks, fun _ hi => absurd hi (Nat.not_lt_zero _)⟩
    exact ⟨⟨events, []⟩, .refused (List.append_nil events).symm hfits hrefused hfailure⟩
  | @given events w' hasks hrefused hw' =>
    obtain ⟨rs, w₁, hw₁, hlength, helements, hcollect⟩ :=
      collectFrom_reads hshown hw' role 0 (c.amount role)
    have hamount : min (c.count role.locator).toNat role.limit = c.amount role := rfl
    rw [bind_eq_of_ok hout, hamount, hcollect, ← List.range_eq_range']
    refine ⟨⟨events, rs⟩, .given rfl ⟨hasks, fun i hi => ?_⟩ hlength hrefused hw₁⟩
    have := helements i hi
    rwa [Nat.zero_add] at this

/-! ### The page -/

theorem title_reads (hw : V w) :
    ∃ events w', AsksInOrder [.title] events ∧ V w' ∧
      orElse (Act.ask .title) none host w =
        ⟨.ok (if anyRefused events then none else c.title), events, w'⟩ := by
  have htitle : Readout V [.title] c.title (Act.ask .title host w) := hshown.readout hw rfl
  exact htitle.orElse none

theorem readDialog_reads (hw : V w) :
    ∃ events w', AsksInOrder [.count .dialogs] events ∧ V w' ∧
      readDialog host w =
        ⟨.ok (if anyRefused events then false else decide (0 < c.count .dialogs)), events, w'⟩ := by
  have hcount : Readout V [.count .dialogs] (c.count .dialogs)
      (Act.ask (.count .dialogs) host w) := hshown.readout hw rfl
  exact (hcount.map fun count => decide (0 < count)).orElse false

theorem readTexts_reads (hw : V w) :
    ∃ events w', AsksInOrder [.innerText bodyLocator] events ∧ V w' ∧
      readTexts host w =
        ⟨.ok (if anyRefused events then [] else c.view.texts), events, w'⟩ := by
  have htext : Readout V [.innerText bodyLocator] (c.innerText bodyLocator)
      (Act.ask (.innerText bodyLocator) host w) := hshown.readout hw rfl
  exact (htext.map fun text => (usefulLines text).take textLimit).orElse []

theorem address_reads (hw : V w) : Act.address host w = ⟨.ok c.url, [], w⟩ := by
  rw [Act.address, hshown.address hw]

/-- The outcome of a look at a page, from its parts. -/
theorem exists_readings_perceive (hw : V w) :
    ∃ r : PageReadings, r.Fits ∧ (perceive host w).events = r.events ∧
      (r.countsRefused = false →
        r.Covers c.view ∧ (perceive host w).result = .ok (c.view.without r)) ∧
      (r.countsRefused = true →
        ∃ failure, failure.isBrowser = true ∧ (perceive host w).result = .error failure) := by
  obtain ⟨title, w₁, htitle, hw₁, heq₁⟩ := title_reads hshown hw
  obtain ⟨dialog, w₂, hdialog, hw₂, heq₂⟩ := readDialog_reads hshown hw₁
  obtain ⟨texts, w₃, htexts, hw₃, heq₃⟩ := readTexts_reads hshown hw₂
  have hbuttons : ∃ r, Collected V c .button r
      (collect buttonLocator buttonLimit describeButton host w₃) :=
    exists_collected hshown hw₃ .button
  obtain ⟨buttons, hbuttons⟩ := hbuttons
  rw [perceive, bind_eq_of_ok heq₁, bind_eq_of_ok heq₂, bind_eq_of_ok heq₃,
    bind_eq_of_ok (address_reads hshown hw₃)]
  generalize heq₄ : collect buttonLocator buttonLimit describeButton host w₃ = outcome at hbuttons
  cases hbuttons with
  | @refused events w₄ failure hevents hfits hcount hfailure =>
    rw [bind_eq_of_error heq₄]
    -- Nothing is asked of the inputs any more.
    refine ⟨⟨title, dialog, texts, buttons, ⟨[], []⟩⟩, ⟨htitle, hdialog, htexts, hfits, ?_⟩, ?_, ?_,
      fun _ => ⟨failure, hfailure, rfl⟩⟩
    · rw [if_pos hcount]
    · simp [PageReadings.events, CollectionReadings.events, hevents]
    · simp [PageReadings.countsRefused, hcount]
  | @given events w₄ hevents hfits hlength hcount hw₄ =>
    rw [bind_eq_of_ok heq₄]
    have hinputs : ∃ r, Collected V c .input r
        (collect inputLocator inputLimit describeInput host w₄) :=
      exists_collected hshown hw₄ .input
    obtain ⟨inputs, hinputs⟩ := hinputs
    have hinputsFit (h : inputs.Fits .input) :
        if anyRefused buttons.count then inputs = ⟨[], []⟩ else inputs.Fits .input := by
      rwa [hcount, if_neg Bool.false_ne_true]
    generalize heq₅ : collect inputLocator inputLimit describeInput host w₄ = outcome at hinputs
    cases hinputs with
    | @refused more w₅ failure hmore hfits' hcount' hfailure =>
      rw [bind_eq_of_error heq₅]
      refine ⟨⟨title, dialog, texts, buttons, inputs⟩,
        ⟨htitle, hdialog, htexts, hfits, hinputsFit hfits'⟩, ?_, ?_,
        fun _ => ⟨failure, hfailure, rfl⟩⟩
      · simp [PageReadings.events, hevents, hmore]
      · simp [PageReadings.countsRefused, hcount']
    | @given more w₅ hmore hfits' hlength' hcount' _ =>
      rw [bind_eq_of_ok heq₅]
      refine ⟨⟨title, dialog, texts, buttons, inputs⟩,
        ⟨htitle, hdialog, htexts, hfits, hinputsFit hfits'⟩, ?_, fun _ => ⟨⟨?_, ?_⟩, ?_⟩, ?_⟩
      · simp [PageReadings.events, hevents, hmore]
      · rw [hlength, Content.view, c.length_elements]
      · rw [hlength', Content.view, c.length_elements]
      · cases hmissing : anyRefused dialog <;> simp [Observation.without, Content.view, hmissing]
      · simp [PageReadings.countsRefused, hcount, hcount']

end Shown

/-! ### Nothing refused -/

theorem Element.without_of_unrefused (e : Element) {r : ElementReadings}
    (h : anyRefused r.events = false) : e.without r = some e := by
  simp only [ElementReadings.events, anyRefused_append, Bool.or_eq_false_iff] at h
  obtain ⟨hlabel, hfields, hhint⟩ := h
  simp [Element.without, hlabel, hfields, hhint]

theorem elementsWithout_of_unrefused {es : List Element} {r : CollectionReadings}
    (h : anyRefused r.events = false) (hlength : r.elements.length = es.length) :
    elementsWithout es r = es := by
  obtain ⟨count, rs⟩ := r
  simp only [CollectionReadings.events, anyRefused_append, Bool.or_eq_false_iff] at h
  replace h := h.2
  rw [elementsWithout]
  induction es generalizing rs with
  | nil => rfl
  | cons e es ih =>
    cases rs with
    | nil => cases hlength
    | cons r rs =>
      rw [List.flatMap_cons, anyRefused_append, Bool.or_eq_false_iff] at h
      rw [List.zipWith_cons_cons, e.without_of_unrefused h.1, List.reduceOption_cons_of_some,
        ih rs (Nat.succ.inj hlength) h.2]

theorem Observation.without_of_unrefused {o : Observation} {r : PageReadings}
    (h : anyRefused r.events = false) (hcovers : r.Covers o) : o.without r = o := by
  simp only [PageReadings.events, anyRefused_append, Bool.or_eq_false_iff] at h
  obtain ⟨htitle, hdialog, htexts, hbuttons, hinputs⟩ := h
  simp [Observation.without, htitle, hdialog, htexts,
    elementsWithout_of_unrefused hbuttons hcovers.buttons,
    elementsWithout_of_unrefused hinputs hcovers.inputs]

theorem countsRefused_of_unrefused {r : PageReadings} (h : anyRefused r.events = false) :
    r.countsRefused = false := by
  simp only [PageReadings.events, CollectionReadings.events, anyRefused_append,
    Bool.or_eq_false_iff] at h
  obtain ⟨-, -, -, ⟨hbuttons, -⟩, hinputs, -⟩ := h
  simp [PageReadings.countsRefused, hbuttons, hinputs]

/-- A page that refuses nothing is observed as it can be seen. -/
theorem perceive_of_unrefused (hshown : c.ShownBy host V) (hw : V w)
    (h : anyRefused (perceive host w).events = false) :
    (perceive host w).result = .ok c.view := by
  obtain ⟨r, -, hevents, hgiven, -⟩ := exists_readings_perceive hshown hw
  rw [hevents] at h
  obtain ⟨hcovers, hresult⟩ := hgiven (countsRefused_of_unrefused h)
  rw [hresult, Observation.without_of_unrefused h hcovers]

/-! ### What a refusal does -/

/-- Only what is refused is missing from an observation, and there is one unless the number of
buttons or that of inputs is refused. -/
theorem perceive_tolerates (hshown : c.ShownBy host V) (hw : V w) :
    (anyRefused (perceive host w).events = false → (perceive host w).result = .ok c.view) ∧
    ∃ r : PageReadings, r.Fits ∧ (perceive host w).events = r.events ∧
      ((∃ o, (perceive host w).result = .ok o) ↔ r.countsRefused = false) ∧
      (∀ o, (perceive host w).result = .ok o → r.Covers c.view ∧ o = c.view.without r) ∧
      ∀ failure, (perceive host w).result = .error failure → failure.isBrowser = true := by
  refine ⟨perceive_of_unrefused hshown hw, ?_⟩
  obtain ⟨r, hfits, hevents, hgiven, hrefused⟩ := exists_readings_perceive hshown hw
  refine ⟨r, hfits, hevents, ?_⟩
  cases hcounts : r.countsRefused with
  | false =>
    obtain ⟨hcovers, hresult⟩ := hgiven hcounts
    rw [hresult]
    refine ⟨iff_of_true ⟨_, rfl⟩ rfl, fun o ho => ?_, nofun⟩
    cases ho
    exact ⟨hcovers, rfl⟩
  | true =>
    obtain ⟨failure, hfailure, hresult⟩ := hrefused hcounts
    rw [hresult]
    refine ⟨iff_of_false (by simp) nofun, nofun, fun failure' h => ?_⟩
    cases h
    exact hfailure

/-- A page whose title is refused, and all attributes from the hint for the first button on. -/
theorem perceive_tolerates_of_flaky :
    let page : Rehearsal.Page := {
      title := some "News"
      elements := [(buttonLocator.text, [⟨"Save", [("id", some "save")]⟩, ⟨"Old", []⟩])] }
    let gone : Failure := .browser false "gone"
    let script : Rehearsal.Script := {
      page, rules := [⟨"title", gone, 0, none⟩, ⟨"get_attribute", gone, 4, none⟩] }
    script.Shows page ∧
      ∃ r : PageReadings, r.Fits ∧ (perceive Rehearsal.host script).events = r.events ∧
        ∃ o, (perceive Rehearsal.host script).result = .ok o ∧ o = page.content.view.without r ∧
          o.title = none ∧
          o.buttons = [{ role := some "button", text := some "Save", id := some "save" }] := by
  intro page gone script
  have hshows : script.Shows page := ⟨rfl, by simp [script, gone, Failure.isBrowser]⟩
  obtain ⟨-, r, hfits, hevents, -, hresult, -⟩ :=
    perceive_tolerates (Rehearsal.shownBy_host page) hshows
  have hseen : (perceive Rehearsal.host script).result.toOption.map
      (fun o => (o.title, o.buttons)) = some (none,
        [{ role := some "button", text := some "Save", id := some "save" }]) := by
    decide +kernel
  obtain ⟨o, ho, hfields⟩ := toOption_map_eq_some_iff.mp hseen
  obtain ⟨htitle, hbuttons⟩ := Prod.mk.inj hfields
  exact ⟨hshows, r, hfits, hevents, o, ho, (hresult o ho).2, htitle, hbuttons⟩

/-- Without the number of buttons there is no observation. -/
theorem perceive_needs_count :
    let script : Rehearsal.Script := {
      rules := [⟨"count button", .browser false "gone", 0, none⟩] }
    script.Shows {} ∧ ¬ ∃ o, (perceive Rehearsal.host script).result = .ok o := by
  intro script
  have hnone : (perceive Rehearsal.host script).result.isOk = false := by decide +kernel
  refine ⟨⟨rfl, by simp [script, Failure.isBrowser]⟩, ?_⟩
  rintro ⟨o, ho⟩
  rw [ho] at hnone
  cases hnone

end Page
end PageScript

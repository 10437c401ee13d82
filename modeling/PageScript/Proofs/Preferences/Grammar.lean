import PageScript.Proofs.Number.Exact
import PageScript.Proofs.Preferences.Refusal

/-!
# The grammar of preferences

Which argument sequences give preferences, and which preferences they give.  A sequence is accepted
if its names are known, no preference is given twice and the address is a text that is not empty
(`WellFormed`).  Otherwise the first rule that it breaks is reported (`Fault`).  The order of the
arguments does not count (`ofArguments_eq_of_perm`).

Sizes are whole parts of numbers, so the numbers among them have to be finite.  `ofArguments_eq`
gives the rules in the order in which they are checked, and everything else is read off it.
-/

namespace PageScript

open PageScript.Number

/-! ### Lists with one member of a kind -/

theorem findOnly_eq_of_perm {α ε : Type} {p : α → Bool} {onMany : Nat → ε} {xs ys : List α}
    (h : (xs.filter p).Perm (ys.filter p)) : findOnly p onMany xs = findOnly p onMany ys := by
  unfold findOnly
  generalize xs.filter p = found at h
  generalize ys.filter p = found' at h
  match found, h with
  | [], h =>
    cases h.nil_eq
    rfl
  | [x], h =>
    cases List.singleton_perm.mp h
    rfl
  | x :: y :: rest, h =>
    have hlength := h.length_eq
    match found', hlength with
    | x' :: y' :: rest', hlength =>
      show Except.error (onMany _) = Except.error (onMany _)
      rw [hlength]

namespace Preferences

variable {name : String} {names : List String} {v : Value} {args others : List Argument}
  {failure : Failure}

/-! ### What a sequence says about a name -/

/-- How often a name is given. -/
def times (name : String) (args : List Argument) : Nat := args.countP (·.name == name)

/-- The value that is given for a name first, absent where there is none. -/
def valueIn (name : String) (args : List Argument) : Value :=
  ((args.find? (·.name == name)).map Argument.value).getD .absent

theorem valueOf_eq (name : String) (args : List Argument) :
    valueOf name args =
      if 1 < times name args then .error (.duplicateArgument name (times name args))
      else .ok (valueIn name args) := by
  unfold valueOf findOnly times valueIn
  rw [List.countP_eq_length_filter, ← List.head?_filter]
  generalize args.filter (fun a => a.name == name) = found
  match found with
  | [] => rfl
  | [a] => rfl
  | a :: b :: rest =>
    rw [if_pos (by simp)]
    rfl

/-! ### Accepted and refused sequences -/

/-- The rules for argument sequences. -/
structure WellFormed (args : List Argument) : Prop where
  known : ∀ a ∈ args, isKnownName a.name = true
  once : ∀ name ∈ preferenceNames, times name args ≤ 1
  address : ∃ s, valueIn "url" args = .text s ∧ s ≠ ""

/-- The names that may not be repeated, in the order of the checks; the user agent comes later. -/
def earlyNames : List String :=
  ["headed", "viewport-width", "viewport-height", "viewport-scale", "url"]

/-- The failure of a sequence: that of the first rule that it breaks. -/
inductive Fault (args : List Argument) : Failure → Prop
  | unknown {a : Argument} (first : args.find? (fun a => !isKnownName a.name) = some a) :
      Fault args (.unknownArgument a.name a.value)
  | repeated {name : String} (known : ∀ a ∈ args, isKnownName a.name = true)
      (first : earlyNames.find? (fun name => 1 < times name args) = some name) :
      Fault args (.duplicateArgument name (times name args))
  | addressMissing (known : ∀ a ∈ args, isKnownName a.name = true)
      (once : ∀ name ∈ earlyNames, times name args ≤ 1)
      (missing : valueIn "url" args = .absent ∨ valueIn "url" args = .text "") :
      Fault args (.urlRequired (valueIn "url" args))
  | addressNotText (known : ∀ a ∈ args, isKnownName a.name = true)
      (once : ∀ name ∈ earlyNames, times name args ≤ 1)
      (given : valueIn "url" args ≠ .absent) (notText : ∀ s, valueIn "url" args ≠ .text s) :
      Fault args (.wrongType "url" "string" (valueIn "url" args))
  | agentRepeated (known : ∀ a ∈ args, isKnownName a.name = true)
      (once : ∀ name ∈ earlyNames, times name args ≤ 1)
      (address : ∃ s, valueIn "url" args = .text s ∧ s ≠ "")
      (repeated : 1 < times "user-agent" args) :
      Fault args (.duplicateArgument "user-agent" (times "user-agent" args))

/-! ### Sizes -/

/-- Neither undefined nor infinite. -/
def IsFinite (x : Float) : Prop :=
  ∃ negative significand exponent, Binary.ofFloat x = .finite negative significand exponent

/-- The numbers that are given for sizes are finite. -/
def FiniteSizes (args : List Argument) : Prop :=
  ∀ a ∈ args, a.name = "viewport-width" ∨ a.name = "viewport-height" →
    ∀ x, a.value = .decimal x → IsFinite x

/-- The size that a value gives: a number without its places, or else the default. -/
inductive SizeFrom : Value → Int → Prop
  | whole (n : Int) : SizeFrom (.integer n) n
  | decimal {x : Float} {negative : Bool} {m : Nat} {e : Int}
      (bits : Binary.ofFloat x = .finite negative m e) :
      SizeFrom (.decimal x) (signed negative ⌊(m * 2 ^ e : ℚ)⌋₊)
  | default {v : Value} (other : v.isNumber = false) : SizeFrom v 1280

theorem sizeFrom_truncate {x : Float} (h : IsFinite x) :
    ∃ n, truncate x = .ok n ∧ SizeFrom (.decimal x) n := by
  obtain ⟨negative, m, e, hbits⟩ := h
  refine ⟨_, ?_, .decimal hbits⟩
  unfold truncate
  rw [hbits]
  exact congrArg (fun n => Except.ok (signed negative n)) (fraction_div m e)

/-- A size can be made of every value but a number that is not finite. -/
theorem exists_sizeOf_eq (h : ∀ x, v = .decimal x → IsFinite x) :
    ∃ n, sizeOf v = .ok (.integer n) ∧ SizeFrom v n := by
  cases v with
  | integer n => exact ⟨n, rfl, .whole n⟩
  | decimal x =>
    obtain ⟨n, hn, hsize⟩ := sizeFrom_truncate (h x rfl)
    refine ⟨n, ?_, hsize⟩
    have hwhole : (numberOr defaultSize (.decimal x)).toInt = truncate x := rfl
    rw [sizeOf, hwhole, hn]
  | absent | flag b | text s => exact ⟨1280, rfl, .default rfl⟩

/-- A value that is given for a name stands in the sequence. -/
theorem exists_of_valueIn (hv : valueIn name args = v) (hgiven : v ≠ .absent) :
    ∃ a ∈ args, a.name = name ∧ a.value = v := by
  subst hv
  unfold valueIn at hgiven ⊢
  cases hfind : args.find? (·.name == name) with
  | none =>
    rw [hfind] at hgiven
    exact absurd rfl hgiven
  | some a =>
    have ha : a.name = name := by simpa using List.find?_some hfind
    exact ⟨a, List.mem_of_find?_eq_some hfind, ha, rfl⟩

theorem isFinite_of_valueIn (h : FiniteSizes args)
    (hname : name = "viewport-width" ∨ name = "viewport-height") {x : Float}
    (hx : valueIn name args = .decimal x) : IsFinite x := by
  obtain ⟨a, ha, rfl, hvalue⟩ := exists_of_valueIn hx nofun
  exact h a ha hname x hvalue

/-! ### The rules in order -/

/-- No name is given twice, or the first that is given twice is refused. -/
def checkOnce (names : List String) (args : List Argument) : Except Failure Unit :=
  match names.find? (fun name => 1 < times name args) with
  | some name => .error (.duplicateArgument name (times name args))
  | none => .ok ()

theorem checkOnce_nil (args : List Argument) : checkOnce [] args = .ok () := rfl

theorem checkOnce_cons (name : String) (names : List String) (args : List Argument) :
    checkOnce (name :: names) args =
      if 1 < times name args then .error (.duplicateArgument name (times name args))
      else checkOnce names args := by
  unfold checkOnce
  by_cases h : 1 < times name args
  · rw [List.find?_cons_of_pos (by simpa using h), if_pos h]
  · rw [List.find?_cons_of_neg (by simpa using h), if_neg h]

theorem checkOnce_eq_ok_iff :
    checkOnce names args = .ok () ↔ ∀ name ∈ names, times name args ≤ 1 := by
  unfold checkOnce
  split
  · next name hfind =>
    have hname : 1 < times name args := by simpa using List.find?_some hfind
    have hmem := List.mem_of_find?_eq_some hfind
    simp only [reduceCtorEq, false_iff]
    intro h
    have := h name hmem
    omega
  · next hfind => simpa using hfind

theorem checkOnce_eq_error_iff :
    checkOnce names args = .error failure ↔
      ∃ name, names.find? (fun name => 1 < times name args) = some name ∧
        failure = .duplicateArgument name (times name args) := by
  unfold checkOnce
  cases names.find? (fun name => 1 < times name args) with
  | some name => simp [eq_comm]
  | none => simp

/-- The preferences that an argument sequence gives with an address and two sizes. -/
def assemble (args : List Argument) (url : String) (width height : Int) : Preferences where
  url
  userAgent := userAgentOf (valueIn "user-agent" args)
  viewport :=
    { width := .integer width
      height := .integer height
      scale := numberOr defaultScale (valueIn "viewport-scale" args) }
  headed := (valueIn "headed" args).holds

theorem unless_bind {α β : Type} {p : Prop} [Decidable p] (failure : Failure)
    (x : Except Failure α) (f : α → Except Failure β) :
    (if p then .error failure else x) >>= f = if p then .error failure else x >>= f := by
  split <;> rfl

theorem ok_bind {α β : Type} (a : α) (f : α → Except Failure β) :
    (Except.ok a >>= f) = f a := rfl

/-- The rules are checked one after the other, and the first that is broken decides. -/
theorem ofArguments_eq (h : FiniteSizes args) :
    ∃ width height, SizeFrom (valueIn "viewport-width" args) width ∧
      SizeFrom (valueIn "viewport-height" args) height ∧
      ofArguments args = (do
        checkNames args
        checkOnce earlyNames args
        let url ← addressOf (valueIn "url" args)
        checkOnce ["user-agent"] args
        return assemble args url width height) := by
  obtain ⟨width, hwidth, hwidthFrom⟩ :=
    exists_sizeOf_eq fun _ => isFinite_of_valueIn h (.inl rfl)
  obtain ⟨height, hheight, hheightFrom⟩ :=
    exists_sizeOf_eq fun _ => isFinite_of_valueIn h (.inr rfl)
  refine ⟨width, height, hwidthFrom, hheightFrom, ?_⟩
  rw [ofArguments]
  congr 1
  funext _
  simp only [valueOf_eq, earlyNames, checkOnce_cons, checkOnce_nil, unless_bind, ok_bind, hwidth,
    hheight]
  rfl

theorem checkNames_eq_error_iff :
    checkNames args = .error failure ↔
      ∃ a, args.find? (fun a => !isKnownName a.name) = some a ∧
        failure = .unknownArgument a.name a.value := by
  rw [checkNames_eq]
  cases args.find? (fun a => !isKnownName a.name) with
  | some a => simp [eq_comm]
  | none => simp

theorem addressOf_eq_ok_iff {s : String} : addressOf v = .ok s ↔ v = .text s ∧ s ≠ "" := by
  cases v with
  | text t =>
    by_cases ht : t = ""
    · subst ht
      simp +contextual [addressOf, Value.isGiven, eq_comm]
    · simp only [addressOf, Value.isGiven, bne_iff_ne, ne_eq, ht, not_false_eq_true, if_true,
        Except.ok.injEq, Value.text.injEq]
      constructor
      · rintro rfl
        exact ⟨rfl, ht⟩
      · exact And.left
  | _ => simp [addressOf, Value.isGiven]

theorem addressOf_eq_error_iff :
    addressOf v = .error failure ↔
      (v = .absent ∨ v = .text "") ∧ failure = .urlRequired v ∨
        v ≠ .absent ∧ (∀ s, v ≠ .text s) ∧ failure = .wrongType "url" "string" v := by
  cases v with
  | text t =>
    by_cases ht : t = ""
    · simp [addressOf, Value.isGiven, ht, eq_comm]
    · simp [addressOf, Value.isGiven, ht]
  | _ => simp [addressOf, Value.isGiven, eq_comm]

theorem fault_of_ofArguments (h : FiniteSizes args) (hargs : ofArguments args = .error failure) :
    Fault args failure := by
  -- The failure is that of the first check that fails, and all checks before it have passed.
  obtain ⟨width, height, -, -, heq⟩ := ofArguments_eq h
  rw [heq] at hargs
  rcases bind_eq_error_iff.mp hargs with hnames | ⟨⟨⟩, hnames, hargs⟩
  · obtain ⟨a, hfirst, rfl⟩ := checkNames_eq_error_iff.mp hnames
    exact .unknown hfirst
  have hknown := (checkNames_eq_ok_iff args).mp hnames
  rcases bind_eq_error_iff.mp hargs with honce | ⟨⟨⟩, honce, hargs⟩
  · obtain ⟨name, hfirst, rfl⟩ := checkOnce_eq_error_iff.mp honce
    exact .repeated hknown hfirst
  have honce := checkOnce_eq_ok_iff.mp honce
  rcases bind_eq_error_iff.mp hargs with haddress | ⟨url, haddress, hargs⟩
  · rcases addressOf_eq_error_iff.mp haddress with ⟨hmissing, rfl⟩ | ⟨hgiven, hnotText, rfl⟩
    · exact .addressMissing hknown honce hmissing
    · exact .addressNotText hknown honce hgiven hnotText
  have haddress := addressOf_eq_ok_iff.mp haddress
  rcases bind_eq_error_iff.mp hargs with hagent | ⟨⟨⟩, -, hargs⟩
  · obtain ⟨name, hfirst, rfl⟩ := checkOnce_eq_error_iff.mp hagent
    cases List.mem_singleton.mp (List.mem_of_find?_eq_some hfirst)
    exact .agentRepeated hknown honce ⟨url, haddress⟩ (by simpa using List.find?_some hfirst)
  · cases hargs

theorem ofArguments_of_fault (h : FiniteSizes args) (hfault : Fault args failure) :
    ofArguments args = .error failure := by
  obtain ⟨width, height, -, -, heq⟩ := ofArguments_eq h
  cases hfault with
  | unknown first => exact ofArguments_eq_unknownArgument_iff.mpr first
  | repeated known first =>
    rw [heq, (checkNames_eq_ok_iff args).mpr known, ok_bind,
      checkOnce_eq_error_iff.mpr ⟨_, first, rfl⟩]
    rfl
  | addressMissing known once missing =>
    rw [heq, (checkNames_eq_ok_iff args).mpr known, ok_bind, checkOnce_eq_ok_iff.mpr once, ok_bind,
      addressOf_eq_error_iff.mpr (.inl ⟨missing, rfl⟩)]
    rfl
  | addressNotText known once given notText =>
    rw [heq, (checkNames_eq_ok_iff args).mpr known, ok_bind, checkOnce_eq_ok_iff.mpr once, ok_bind,
      addressOf_eq_error_iff.mpr (.inr ⟨given, notText, rfl⟩)]
    rfl
  | agentRepeated known once address repeated =>
    obtain ⟨url, haddress⟩ := address
    rw [heq, (checkNames_eq_ok_iff args).mpr known, ok_bind, checkOnce_eq_ok_iff.mpr once, ok_bind,
      addressOf_eq_ok_iff.mpr haddress, ok_bind, checkOnce_cons, if_pos repeated]
    rfl

/-! ### The preferences of an accepted sequence -/

/-- The preferences that a sequence gives, each by the value of its own name. -/
structure Gives (args : List Argument) (p : Preferences) : Prop where
  url : valueIn "url" args = .text p.url
  userAgent : (valueIn "user-agent" args = .text p.userAgent ∧ p.userAgent ≠ "") ∨
    (∀ s, valueIn "user-agent" args = .text s → s = "") ∧ p.userAgent = defaultUserAgent
  width : ∃ n, p.viewport.width = .integer n ∧ SizeFrom (valueIn "viewport-width" args) n
  height : ∃ n, p.viewport.height = .integer n ∧ SizeFrom (valueIn "viewport-height" args) n
  scale : p.viewport.scale =
    if (valueIn "viewport-scale" args).isNumber then valueIn "viewport-scale" args else .integer 1
  headed : p.headed = (valueIn "headed" args).holds

theorem userAgentOf_spec (v : Value) :
    (v = .text (userAgentOf v) ∧ userAgentOf v ≠ "") ∨
      (∀ s, v = .text s → s = "") ∧ userAgentOf v = defaultUserAgent := by
  cases v with
  | text s =>
    by_cases hs : s = ""
    · subst hs
      exact .inr ⟨fun s h => (Value.text.inj h).symm, rfl⟩
    · have huserAgent : userAgentOf (.text s) = s := if_neg hs
      rw [huserAgent]
      exact .inl ⟨rfl, hs⟩
  | absent | flag b | integer n | decimal x => exact .inr ⟨nofun, rfl⟩

theorem mem_preferenceNames_iff :
    name ∈ preferenceNames ↔ name ∈ earlyNames ∨ name = "user-agent" := by
  simp only [preferenceNames, earlyNames, List.mem_cons, List.not_mem_nil, or_false]
  tauto

theorem of_ofArguments_eq_ok {p : Preferences} (h : FiniteSizes args)
    (hargs : ofArguments args = .ok p) : WellFormed args ∧ Gives args p := by
  obtain ⟨width, height, hwidth, hheight, heq⟩ := ofArguments_eq h
  rw [heq] at hargs
  obtain ⟨⟨⟩, hnames, hargs⟩ := bind_eq_ok_iff.mp hargs
  obtain ⟨⟨⟩, honce, hargs⟩ := bind_eq_ok_iff.mp hargs
  obtain ⟨url, haddress, hargs⟩ := bind_eq_ok_iff.mp hargs
  obtain ⟨⟨⟩, hagent, hargs⟩ := bind_eq_ok_iff.mp hargs
  cases hargs
  have honce := checkOnce_eq_ok_iff.mp honce
  have hagent := checkOnce_eq_ok_iff.mp hagent
  have haddress := addressOf_eq_ok_iff.mp haddress
  constructor
  · refine ⟨(checkNames_eq_ok_iff args).mp hnames, fun name hname => ?_, ⟨url, haddress⟩⟩
    rcases mem_preferenceNames_iff.mp hname with hearly | rfl
    · exact honce name hearly
    · exact hagent "user-agent" (List.mem_singleton_self _)
  · exact ⟨haddress.1, userAgentOf_spec _, ⟨width, rfl, hwidth⟩, ⟨height, rfl, hheight⟩, rfl, rfl⟩

theorem not_fault_of_wellFormed (h : WellFormed args) : ¬ Fault args failure := by
  have hearly {name : String} (hname : name ∈ earlyNames) : times name args ≤ 1 :=
    h.once name (mem_preferenceNames_iff.mpr (.inl hname))
  obtain ⟨s, hs, hne⟩ := h.address
  intro hfault
  cases hfault with
  | @unknown a first =>
    have hname := h.known a (List.mem_of_find?_eq_some first)
    have := List.find?_some first
    simp [hname] at this
  | @repeated name known first =>
    have hname := hearly (List.mem_of_find?_eq_some first)
    have : 1 < times name args := by simpa using List.find?_some first
    omega
  | addressMissing known once missing => simp [hs, hne] at missing
  | addressNotText known once given notText => exact notText s hs
  | agentRepeated known once address repeated =>
    have := h.once "user-agent" (by decide)
    omega

/-! ### The order does not count -/

theorem valueOf_eq_of_perm (hname : isPreferenceName name = true)
    (h : (args.filter Argument.isPreference).Perm (others.filter Argument.isPreference)) :
    valueOf name args = valueOf name others := by
  -- The arguments of a preference name are found among the preferences.
  have hfilter (xs : List Argument) :
      xs.filter (·.name == name) = (xs.filter Argument.isPreference).filter (·.name == name) := by
    rw [List.filter_filter]
    refine List.filter_congr fun a _ => ?_
    by_cases ha : a.name = name
    · simp [ha, Argument.isPreference, hname]
    · simp [ha]
  have hperm : (args.filter (·.name == name)).Perm (others.filter (·.name == name)) := by
    rw [hfilter args, hfilter others]
    exact h.filter _
  rw [valueOf, valueOf, findOnly_eq_of_perm hperm]

/-- With known names, neither the order of the preferences nor any action counts. -/
theorem ofArguments_eq_of_perm (hargs : ∀ a ∈ args, isKnownName a.name = true)
    (hothers : ∀ a ∈ others, isKnownName a.name = true)
    (h : (args.filter Argument.isPreference).Perm (others.filter Argument.isPreference)) :
    ofArguments args = ofArguments others := by
  have hvalue {name : String} (hname : isPreferenceName name = true) :
      valueOf name args = valueOf name others := valueOf_eq_of_perm hname h
  unfold ofArguments
  rw [(checkNames_eq_ok_iff args).mpr hargs, (checkNames_eq_ok_iff others).mpr hothers,
    @hvalue "headed" (by decide), @hvalue "viewport-width" (by decide),
    @hvalue "viewport-height" (by decide), @hvalue "viewport-scale" (by decide),
    @hvalue "url" (by decide), @hvalue "user-agent" (by decide)]

/-- **The grammar.**  A sequence gives preferences if and only if it is well formed, and each of
them then comes from the value of its own name.  Any other sequence is refused for the first rule
that it breaks.  Of two sequences of known names with the same preferences in any order, and with
any actions among them, one gives what the other gives. -/
theorem ofArguments_grammar (h : FiniteSizes args) :
    ((∃ p, ofArguments args = .ok p) ↔ WellFormed args) ∧
      (∀ p, ofArguments args = .ok p → Gives args p) ∧
      (∀ failure, ofArguments args = .error failure ↔ Fault args failure) ∧
      ∀ others, (∀ a ∈ args, isKnownName a.name = true) →
        (∀ a ∈ others, isKnownName a.name = true) →
        (args.filter Argument.isPreference).Perm (others.filter Argument.isPreference) →
        ofArguments args = ofArguments others := by
  refine ⟨⟨?_, ?_⟩, ?_, ?_, ?_⟩
  · rintro ⟨p, hp⟩
    exact (of_ofArguments_eq_ok h hp).1
  · intro hwellFormed
    cases hargs : ofArguments args with
    | ok p => exact ⟨p, rfl⟩
    | error failure =>
      exact absurd (fault_of_ofArguments h hargs) (not_fault_of_wellFormed hwellFormed)
  · intro p hp
    exact (of_ofArguments_eq_ok h hp).2
  · intro failure
    exact ⟨fault_of_ofArguments h, ofArguments_of_fault h⟩
  · intro others hargs hothers hperm
    exact ofArguments_eq_of_perm hargs hothers hperm

/-- A width with places behind an action. -/
theorem ofArguments_grammar_of_places :
    FiniteSizes [⟨"query", .text "q"⟩, ⟨"viewport-width", .decimal 1024.5⟩, ⟨"url", .text "x"⟩] ∧
      ∃ p, ofArguments
          [⟨"query", .text "q"⟩, ⟨"viewport-width", .decimal 1024.5⟩, ⟨"url", .text "x"⟩] = .ok p ∧
        Gives [⟨"query", .text "q"⟩, ⟨"viewport-width", .decimal 1024.5⟩, ⟨"url", .text "x"⟩] p ∧
        p.viewport.width = .integer 1024 := by
  have hfinite : FiniteSizes
      [⟨"query", .text "q"⟩, ⟨"viewport-width", .decimal 1024.5⟩, ⟨"url", .text "x"⟩] := by
    intro a ha hname x hx
    simp only [List.mem_cons, List.not_mem_nil, or_false] at ha
    rcases ha with rfl | rfl | rfl
    · cases hx
    · cases hx
      exact ⟨false, 4505798650626048, -42, by decide +kernel⟩
    · cases hx
  exact ⟨hfinite, _, rfl, (ofArguments_grammar hfinite).2.1 _ rfl, rfl⟩

end Preferences
end PageScript

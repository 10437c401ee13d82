import PageScript.CommandLine.Reader

/-!
# The kinds of texts on a command line

What a text of a command line is can be said without tokens.  It *spells* a switch, or has a raw
value *glued* to one, or it *asks for help*; of all other texts some are *value-like*, which means
that they can be the value of a switch in front of them.

`Token.ofText_eq` ties this to the tokens: for a text that does not ask for help, its token is
decided by these four notions alone.
-/

namespace PageScript.CommandLine

open PageScript.Text

/-! ### Switches -/

/-- The name that characters spell: two dashes and a name that means something. -/
def spelled? (cs : List Char) : Option String :=
  (preferenceNames ++ actionNames).find? fun name => '-' :: '-' :: name.toList = cs

/-- The name and the raw value of characters that spell a switch up to their first equals sign. -/
def glued? (cs : List Char) : Option (String × String) :=
  (assignment? cs).bind fun (front, raw) => (spelled? front).map (·, String.ofList raw)

/-- A text that asks for help or for the version. -/
def AsksForHelp (text : String) : Prop :=
  "-h".toList <+: text.toList ∨ text = "--help" ∨ text = "--version"
    ∨ "--help=".toList <+: text.toList ∨ "--version=".toList <+: text.toList

instance (text : String) : Decidable (AsksForHelp text) :=
  inferInstanceAs (Decidable (_ ∨ _))

/-! ### Negative numbers -/

/-- Decimal digits of any script, perhaps none. -/
def Digits (cs : List Char) : Prop := ∀ c ∈ cs, isDigit c = true

/-- What may follow a number: nothing, or a single line feed. -/
def IsFinal (cs : List Char) : Prop := cs = [] ∨ cs = ['\n']

/-- A dash and a number: digits, or a point with digits behind it and perhaps some in front. -/
inductive NegativeNumber : List Char → Prop
  | whole {ds final} : ds ≠ [] → Digits ds → IsFinal final →
      NegativeNumber ('-' :: (ds ++ final))
  | broken {ds places final} : Digits ds → places ≠ [] → Digits places → IsFinal final →
      NegativeNumber ('-' :: (ds ++ '.' :: places ++ final))

theorem isDigits_iff {cs : List Char} : isDigits cs = true ↔ cs ≠ [] ∧ Digits cs := by
  simp [isDigits, Digits]

theorem not_isDigit_lineFeed : isDigit '\n' = false := by decide

theorem not_isDigit_point : isDigit '.' = false := by decide

/-- A final line feed is all that is ever dropped. -/
theorem withoutFinalBreak_append (cs : List Char) :
    ∃ final, IsFinal final ∧ cs = withoutFinalBreak cs ++ final := by
  unfold withoutFinalBreak
  split
  · next h =>
    obtain ⟨front, rfl⟩ := List.getLast?_eq_some_iff.mp h
    exact ⟨['\n'], .inr rfl, by simp⟩
  · exact ⟨[], .inl rfl, by simp⟩

/-- A line feed is dropped behind a last digit. -/
theorem withoutFinalBreak_of_isFinal (front : List Char) {ds final : List Char} (hne : ds ≠ [])
    (hds : Digits ds) (hfinal : IsFinal final) :
    withoutFinalBreak (front ++ ds ++ final) = front ++ ds := by
  obtain rfl | rfl := hfinal
  · have hlast : (front ++ ds).getLast? ≠ some '\n' := by
      intro h
      rw [List.getLast?_append, List.getLast?_eq_some_getLast hne, Option.some_or] at h
      have := hds '\n' (Option.some.inj h ▸ List.getLast_mem hne)
      rw [not_isDigit_lineFeed] at this
      exact Bool.noConfusion this
    simp only [List.append_nil]
    rw [withoutFinalBreak, if_neg hlast]
  · simp [withoutFinalBreak]

/-- The places behind a point, once the digits in front of it are dropped. -/
theorem dropWhile_digits_point {ds places : List Char} (hds : Digits ds) :
    (ds ++ '.' :: places).dropWhile isDigit = '.' :: places := by
  rw [List.dropWhile_append_of_pos hds, List.dropWhile_cons, not_isDigit_point]
  rfl

/-- The test behind a dash and the grammar of negative numbers agree. -/
theorem isUnsignedNumber_iff {cs : List Char} :
    isUnsignedNumber cs = true ↔ NegativeNumber ('-' :: cs) := by
  constructor
  · intro h
    obtain ⟨final, hfinal, hcs⟩ := withoutFinalBreak_append cs
    simp only [isUnsignedNumber, Bool.or_eq_true] at h
    rcases h with h | h
    · obtain ⟨hne, hds⟩ := isDigits_iff.mp h
      rw [hcs]
      exact .whole hne hds hfinal
    · split at h
      · next places hdrop =>
        obtain ⟨hne, hplaces⟩ := isDigits_iff.mp h
        have hbody := List.takeWhile_append_dropWhile (p := isDigit) (l := withoutFinalBreak cs)
        rw [hdrop] at hbody
        rw [hcs, ← hbody]
        exact .broken (List.all_eq_true.mp List.all_takeWhile) hne hplaces hfinal
      · exact absurd h (by decide)
  · intro h
    generalize hall : '-' :: cs = all at h
    cases h with
    | @whole ds final hne hds hfinal =>
      obtain rfl := (List.cons.inj hall).2
      have hbody := withoutFinalBreak_of_isFinal [] hne hds hfinal
      simp only [List.nil_append] at hbody
      simp only [isUnsignedNumber, hbody, isDigits_iff.mpr ⟨hne, hds⟩, Bool.true_or]
    | @broken ds places final hds hne hplaces hfinal =>
      obtain rfl := (List.cons.inj hall).2
      have hbody := withoutFinalBreak_of_isFinal (ds ++ ['.']) hne hplaces hfinal
      rw [List.append_assoc ds, List.singleton_append] at hbody
      simp only [isUnsignedNumber, hbody, dropWhile_digits_point hds,
        isDigits_iff.mpr ⟨hne, hplaces⟩, Bool.or_true]

instance : DecidablePred NegativeNumber
  | [] => isFalse nofun
  | c :: cs =>
    if h : c = '-' then
      decidable_of_iff (isUnsignedNumber cs = true) (by rw [isUnsignedNumber_iff, h])
    else isFalse (by intro hneg; cases hneg <;> exact h rfl)

/-! ### Values -/

/-- A text that can be the value of a switch in front of it. -/
def ValueLike (text : String) : Prop :=
  text = "" ∨ text.toList.head? ≠ some '-' ∨ text = "-" ∨ NegativeNumber text.toList
    ∨ (' ' ∈ text.toList ∧ spelled? text.toList = none ∧ glued? text.toList = none)

instance (text : String) : Decidable (ValueLike text) :=
  inferInstanceAs (Decidable (_ ∨ _))

/-- Two dashes alone are no value. -/
theorem not_valueLike_dashes : ¬ ValueLike "--" := by decide +kernel

/-! ### Spelling -/

theorem mem_names_iff (name : String) :
    name ∈ preferenceNames ++ actionNames ↔ isKnownName name = true := by
  simp [isKnownName, isPreferenceName, isActionName]

/-- Characters spell a name exactly if they are two dashes and a name that means something. -/
theorem spelled?_eq_some_iff {cs : List Char} {name : String} :
    spelled? cs = some name ↔ cs = '-' :: '-' :: name.toList ∧ isKnownName name = true := by
  constructor
  · intro h
    have hcs := List.find?_some h
    have hmem := List.mem_of_find?_eq_some h
    simp only [decide_eq_true_eq] at hcs
    exact ⟨hcs.symm, (mem_names_iff name).mp hmem⟩
  · rintro ⟨rfl, hname⟩
    obtain ⟨found, hfound⟩ : ∃ found, spelled? ('-' :: '-' :: name.toList) = some found := by
      rw [← Option.isSome_iff_exists, spelled?, List.find?_isSome]
      exact ⟨name, (mem_names_iff name).mpr hname, by simp⟩
    have hsame := List.find?_some hfound
    simp only [decide_eq_true_eq, List.cons.injEq, true_and, String.toList_inj] at hsame
    rw [hfound, hsame]

/-- The first equals sign cuts characters in two. -/
theorem assignment?_eq_some_iff {cs front raw : List Char} :
    assignment? cs = some (front, raw) ↔ cs = front ++ '=' :: raw ∧ '=' ∉ front := by
  constructor
  · intro h
    simp only [assignment?] at h
    split at h
    · next c raw' hdrop =>
      simp only [Option.some.injEq, Prod.mk.injEq] at h
      obtain ⟨rfl, rfl⟩ := h
      have hc : c = '=' := by
        have := List.head_dropWhile_not (· != '=') (l := cs) (by rw [hdrop]; simp)
        simpa [hdrop] using this
      subst hc
      constructor
      · rw [← hdrop, List.takeWhile_append_dropWhile]
      · intro hmem
        have := List.all_eq_true.mp List.all_takeWhile _ hmem
        simp at this
    · simp at h
  · rintro ⟨rfl, hfront⟩
    have hpos : ∀ c ∈ front, (c != '=') = true := by
      intro c hc
      simp only [bne_iff_ne, ne_eq]
      rintro rfl
      exact hfront hc
    simp [assignment?, List.dropWhile_append_of_pos hpos, List.takeWhile_append_of_pos hpos]

/-- No name holds an equals sign. -/
theorem equals_notMem_of_isKnownName {name : String} (h : isKnownName name = true) :
    '=' ∉ name.toList := by
  have hall : ∀ n ∈ preferenceNames ++ actionNames, '=' ∉ n.toList := by decide
  exact hall name ((mem_names_iff name).mpr h)

/-- Characters have a raw value glued to a name exactly if they spell the name, an equals sign and
the raw value. -/
theorem glued?_eq_some_iff {cs : List Char} {name raw : String} :
    glued? cs = some (name, raw) ↔
      cs = '-' :: '-' :: (name.toList ++ '=' :: raw.toList) ∧ isKnownName name = true := by
  constructor
  · intro h
    simp only [glued?, Option.bind_eq_some_iff, Option.map_eq_some_iff, Prod.mk.injEq] at h
    obtain ⟨⟨front, raw'⟩, hcut, name', hfront, rfl, rfl⟩ := h
    obtain ⟨rfl, hname⟩ := spelled?_eq_some_iff.mp hfront
    obtain ⟨rfl, -⟩ := assignment?_eq_some_iff.mp hcut
    exact ⟨by simp, hname⟩
  · rintro ⟨rfl, hname⟩
    have hcut : assignment? ('-' :: '-' :: (name.toList ++ '=' :: raw.toList)) =
        some ('-' :: '-' :: name.toList, raw.toList) := by
      rw [assignment?_eq_some_iff]
      refine ⟨rfl, ?_⟩
      simpa using equals_notMem_of_isKnownName hname
    have hfront : spelled? ('-' :: '-' :: name.toList) = some name :=
      spelled?_eq_some_iff.mpr ⟨rfl, hname⟩
    simp [glued?, hcut, hfront]

/-! ### Tokens -/

/-- Characters that are no switch for help or the version are a switch only if they spell a
name. -/
theorem switch?_eq {cs : List Char} (hshort : cs ≠ "-h".toList) (hhelp : cs ≠ "--help".toList)
    (hversion : cs ≠ "--version".toList) : switch? cs = (spelled? cs).map .argument := by
  cases h : spelled? cs with
  | some name =>
    obtain ⟨rfl, hname⟩ := spelled?_eq_some_iff.mp h
    have hne : name ≠ "help" ∧ name ≠ "version" :=
      ⟨fun he => hhelp (by rw [he]; rfl), fun he => hversion (by rw [he]; rfl)⟩
    simp [switch?, hne, hname]
  | none =>
    have hnone : ∀ name, cs = '-' :: '-' :: String.toList name → isKnownName name = false := by
      intro name hcs
      rw [← Bool.not_eq_true]
      intro hname
      rw [spelled?_eq_some_iff.mpr ⟨hcs, hname⟩] at h
      cases h
    unfold switch?
    split
    · exact absurd rfl hshort
    · next body =>
      have hunknown := hnone (String.ofList body) (by simp)
      have hne : String.ofList body ≠ "help" ∧ String.ofList body ≠ "version" :=
        ⟨fun he => hhelp (by rw [← String.toList_ofList (l := body), he]; rfl),
          fun he => hversion (by rw [← String.toList_ofList (l := body), he]; rfl)⟩
      simp [hne, hunknown]
    · rfl

/-- What spells a switch or is glued to one begins with a dash. -/
theorem dash_of_spelled? {cs : List Char} {name : String} (h : spelled? cs = some name) :
    cs.head? = some '-' := by
  rw [(spelled?_eq_some_iff.mp h).1]
  rfl

theorem dash_of_glued? {cs : List Char} {name raw : String} (h : glued? cs = some (name, raw)) :
    cs.head? = some '-' := by
  rw [(glued?_eq_some_iff.mp h).1]
  rfl

/-- The kind of a text that does not ask for help. -/
def kindOf (text : String) : Token :=
  match spelled? text.toList with
  | some name => .switch (.argument name) none
  | none =>
    match glued? text.toList with
    | some (name, raw) => .switch (.argument name) (some raw)
    | none => if ValueLike text then .word text else .stranger text

theorem kindOf_of_spelled {text name : String} (hspelled : spelled? text.toList = some name) :
    kindOf text = .switch (.argument name) none := by
  simp only [kindOf, hspelled]

theorem kindOf_of_glued {text name raw : String} (hspelled : spelled? text.toList = none)
    (hglued : glued? text.toList = some (name, raw)) :
    kindOf text = .switch (.argument name) (some raw) := by
  simp only [kindOf, hspelled, hglued]

theorem kindOf_of_neither {text : String} (hspelled : spelled? text.toList = none)
    (hglued : glued? text.toList = none) :
    kindOf text = if ValueLike text then .word text else .stranger text := by
  simp only [kindOf, hspelled, hglued]

theorem NegativeNumber.ne_two_dashes {cs : List Char} (h : NegativeNumber cs) (rest : List Char) :
    cs ≠ '-' :: '-' :: rest := by
  have hdash : isDigit '-' = false := by decide
  have hhead : ∀ {ds tail : List Char},
      Digits ds → ds ++ tail = '-' :: rest → tail = '-' :: rest := by
    intro ds tail hds heq
    cases ds with
    | nil => exact heq
    | cons d ds =>
      have hd := hds d List.mem_cons_self
      rw [(List.cons.inj heq).1, hdash] at hd
      cases hd
  intro heq
  cases h with
  | @whole ds final hne hds hfinal =>
    have := hhead hds (List.cons.inj heq).2
    obtain rfl | rfl := hfinal <;> simp at this
  | @broken ds places final hds hne hplaces hfinal =>
    have := (List.cons.inj heq).2
    rw [List.append_assoc] at this
    simpa using hhead hds this

/-- A value-like text is no switch. -/
theorem ValueLike.not_switch {text : String} (h : ValueLike text) :
    spelled? text.toList = none ∧ glued? text.toList = none := by
  have hfirst : (∀ rest, text.toList ≠ '-' :: '-' :: rest) →
      spelled? text.toList = none ∧ glued? text.toList = none := fun hne =>
    ⟨Option.eq_none_iff_forall_ne_some.mpr fun name h => hne _ (spelled?_eq_some_iff.mp h).1,
      Option.eq_none_iff_forall_ne_some.mpr fun (name, raw) h =>
        hne _ (glued?_eq_some_iff.mp h).1⟩
  rcases h with rfl | hhead | rfl | hnumber | ⟨-, hnone⟩
  · exact hfirst (by simp)
  · refine hfirst fun rest h => hhead ?_
    rw [h]
    rfl
  · exact hfirst (by simp)
  · exact hfirst hnumber.ne_two_dashes
  · exact hnone

theorem kindOf_of_valueLike {text : String} (h : ValueLike text) : kindOf text = .word text := by
  simp [kindOf, h.not_switch, h]

theorem kindOf_ne_word {text : String} (h : ¬ ValueLike text) (other : String) :
    kindOf text ≠ .word other := by
  unfold kindOf
  split
  · exact nofun
  · split
    · exact nofun
    · rw [if_neg h]
      exact nofun

/-- Behind a first dash, a text is value-like when nothing follows, a number does, or a space. -/
theorem valueLike_iff_of_dash {text : String} {rest : List Char} (htext : text.toList = '-' :: rest)
    (hspelled : spelled? text.toList = none) (hglued : glued? text.toList = none) :
    ValueLike text ↔ rest = [] ∨ isUnsignedNumber rest = true ∨ ' ' ∈ rest := by
  have hempty : text ≠ "" := by
    rintro rfl
    simp at htext
  have hdash : text = "-" ↔ rest = [] := by
    rw [← String.toList_inj, htext]
    simp
  rw [ValueLike, hspelled, hglued, hdash, htext, isUnsignedNumber_iff]
  simp [hempty]

/-- A front part that is no switch for help or the version gives the same switch either way. -/
theorem bind_switch?_eq {cs : List Char} (hshort : ¬ "-h".toList <+: cs)
    (hhelp : ¬ "--help=".toList <+: cs) (hversion : ¬ "--version=".toList <+: cs) :
    ((assignment? cs).bind fun (front, raw) => (switch? front).map (·, raw)) =
      (assignment? cs).bind fun (front, raw) =>
        (spelled? front).map fun name => (.argument name, raw) := by
  cases hcut : assignment? cs with
  | none => rfl
  | some parts =>
    obtain ⟨front, raw⟩ := parts
    obtain ⟨rfl, -⟩ := assignment?_eq_some_iff.mp hcut
    have hfront : switch? front = (spelled? front).map .argument := by
      apply switch?_eq
      · rintro rfl
        exact hshort (List.prefix_append ..)
      · rintro rfl
        exact hhelp ⟨raw, rfl⟩
      · rintro rfl
        exact hversion ⟨raw, rfl⟩
    simp [hfront, Function.comp_def]

/-- A text behind a dash that does not ask for help is the token of its kind. -/
theorem ofDashed_eq {text : String} {rest : List Char} (htext : text.toList = '-' :: rest)
    (hhelp : ¬ AsksForHelp text) : Token.ofDashed text rest = kindOf text := by
  simp only [AsksForHelp, not_or, htext] at hhelp
  obtain ⟨hshort, hlong, hversion, hlongGlued, hversionGlued⟩ := hhelp
  have hself : switch? ('-' :: rest) = (spelled? ('-' :: rest)).map .argument := by
    apply switch?_eq
    · intro h
      exact hshort (h ▸ List.prefix_rfl)
    · intro h
      exact hlong (String.toList_inj.mp (htext.trans h))
    · intro h
      exact hversion (String.toList_inj.mp (htext.trans h))
  rw [Token.ofDashed.eq_def, kindOf, hself, bind_switch?_eq hshort hlongGlued hversionGlued, htext]
  cases hspelled : spelled? ('-' :: rest) with
  | some name => rfl
  | none =>
    cases hglued : glued? ('-' :: rest) with
    | some parts =>
      obtain ⟨name, raw⟩ := parts
      simp only [glued?, Option.bind_eq_some_iff, Option.map_eq_some_iff, Prod.mk.injEq] at hglued
      obtain ⟨⟨front, raw'⟩, hcut, name', hfront, rfl, rfl⟩ := hglued
      simp [hcut, hfront]
    | none =>
      have hbind : ((assignment? ('-' :: rest)).bind fun (front, raw) =>
          (spelled? front).map fun name => (Switch.argument name, raw)) = none := by
        simp only [glued?, Option.bind_eq_none_iff, Option.map_eq_none_iff] at hglued ⊢
        exact hglued
      have hvalue := valueLike_iff_of_dash htext (htext ▸ hspelled) (htext ▸ hglued)
      simp only [hbind, Option.map_none]
      split
      · rw [if_pos (hvalue.mpr (.inl rfl))]
      · next more => exact absurd ⟨more, rfl⟩ hshort
      · next hne _ =>
        have hword : ValueLike text ↔ (isUnsignedNumber rest || rest.contains ' ') = true := by
          rw [hvalue, Bool.or_eq_true, List.contains_iff_mem]
          exact or_iff_right hne
        simp only [hword]

/-- **The token of a text** that does not ask for help says what kind of text it is. -/
theorem Token.ofText_eq {text : String} (hhelp : ¬ AsksForHelp text) :
    Token.ofText text = kindOf text := by
  unfold Token.ofText
  split
  · next rest htext => exact ofDashed_eq htext hhelp
  · next hdash =>
    have hhead : text.toList.head? ≠ some '-' := by
      intro h
      obtain ⟨rest, hrest⟩ := List.head?_eq_some_iff.mp h
      exact hdash rest hrest
    have hspelled : spelled? text.toList = none :=
      Option.eq_none_iff_forall_ne_some.mpr fun name h => hhead (dash_of_spelled? h)
    have hglued : glued? text.toList = none :=
      Option.eq_none_iff_forall_ne_some.mpr fun (name, raw) h => hhead (dash_of_glued? h)
    have hvalue : ValueLike text := .inr (.inl hhead)
    simp [kindOf, hspelled, hglued, hvalue]

/-! ### Texts that ask for help -/

/-- Characters with an equals sign are no switch. -/
theorem switch?_eq_none {cs : List Char} (h : '=' ∈ cs) : switch? cs = none := by
  rw [switch?_eq (by rintro rfl; revert h; decide) (by rintro rfl; revert h; decide)
    (by rintro rfl; revert h; decide), Option.map_eq_none_iff, Option.eq_none_iff_forall_ne_some]
  intro name hname
  obtain ⟨rfl, hknown⟩ := spelled?_eq_some_iff.mp hname
  exact equals_notMem_of_isKnownName hknown (by simpa using h)

/-- A glued value is found behind a front part that is a switch. -/
theorem ofText_of_glued {text : String} (front : List Char) {raw : List Char} {kind : Switch}
    (htext : text.toList = '-' :: front ++ '=' :: raw) (hfront : '=' ∉ front)
    (hkind : switch? ('-' :: front) = some kind) :
    Token.ofText text = .switch kind (some (String.ofList raw)) := by
  have hwhole : switch? ('-' :: (front ++ '=' :: raw)) = none := switch?_eq_none (by simp)
  have hcut : assignment? ('-' :: (front ++ '=' :: raw)) = some ('-' :: front, raw) := by
    rw [assignment?_eq_some_iff]
    exact ⟨rfl, by simpa using hfront⟩
  unfold Token.ofText
  simp [htext, Token.ofDashed.eq_def, hwhole, hcut, hkind]

/-- A switch that begins with `-h` is the one for help. -/
theorem eq_shortHelp_of_switch? (behind : List Char) {front rest : List Char} {kind : Switch}
    (hcs : '-' :: 'h' :: rest = front ++ '=' :: behind ∨ '-' :: 'h' :: rest = front)
    (hkind : switch? front = some kind) : kind = .shortHelp := by
  match front with
  | [] | [_] => simp at hcs
  | c :: d :: more =>
    obtain ⟨rfl, rfl⟩ : c = '-' ∧ d = 'h' := by
      simp only [List.cons_append, List.cons.injEq] at hcs
      rcases hcs with h | h <;> exact ⟨h.1.symm, h.2.1.symm⟩
    cases more with
    | nil => simpa [switch?] using hkind.symm
    | cons e more => simp [switch?] at hkind

/-- A text that begins with `-h` is a switch for help. -/
theorem ofText_of_shortHelp {text : String} {rest : List Char}
    (htext : text.toList = '-' :: 'h' :: rest) :
    ∃ glued, Token.ofText text = .switch .shortHelp glued := by
  unfold Token.ofText
  simp only [htext, Token.ofDashed.eq_def]
  split
  · next kind hkind =>
    rw [eq_shortHelp_of_switch? [] (.inr rfl) hkind]
    exact ⟨none, rfl⟩
  · split
    · next kind raw hglued =>
      simp only [Option.bind_eq_some_iff, Option.map_eq_some_iff, Prod.mk.injEq] at hglued
      obtain ⟨⟨front, raw'⟩, hcut, kind', hkind, rfl, rfl⟩ := hglued
      have hfront := (assignment?_eq_some_iff.mp hcut).1
      rw [eq_shortHelp_of_switch? raw' (.inl hfront) hkind]
      exact ⟨_, rfl⟩
    · exact ⟨_, rfl⟩

/-- A text asks for help exactly if its token is a switch that takes no value. -/
theorem asksForHelp_iff {text : String} :
    AsksForHelp text ↔
      ∃ kind glued, Token.ofText text = .switch kind glued ∧ ∀ name, kind ≠ .argument name := by
  constructor
  · rintro (h | rfl | rfl | ⟨raw, hraw⟩ | ⟨raw, hraw⟩)
    · obtain ⟨rest, hrest⟩ := h
      obtain ⟨glued, h⟩ := ofText_of_shortHelp hrest.symm
      exact ⟨.shortHelp, glued, h, nofun⟩
    · exact ⟨.help, none, by decide, nofun⟩
    · exact ⟨.version, none, by decide, nofun⟩
    · have htoken : Token.ofText text = .switch .help _ :=
        ofText_of_glued "-help".toList hraw.symm (by decide) (by decide)
      exact ⟨.help, some (String.ofList raw), htoken, nofun⟩
    · have htoken : Token.ofText text = .switch .version _ :=
        ofText_of_glued "-version".toList hraw.symm (by decide) (by decide)
      exact ⟨.version, some (String.ofList raw), htoken, nofun⟩
  · rintro ⟨kind, glued, htoken, hkind⟩
    by_cases h : AsksForHelp text
    · exact h
    · rw [Token.ofText_eq h, kindOf] at htoken
      exfalso
      split at htoken
      · next name _ =>
        cases htoken
        exact hkind name rfl
      · split at htoken
        · next name _ _ =>
          cases htoken
          exact hkind name rfl
        · split at htoken <;> cases htoken

end PageScript.CommandLine

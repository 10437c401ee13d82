import PageScript.Proofs.CommandLine.Scan
import PageScript.Proofs.Except
import PageScript.Proofs.Preferences.Refusal

/-!
# Texts that belong to no switch

A text that a scan leaves over becomes an argument, so that it can be refused for its name.  A text
with two dashes in front never gets a name that means something.  Any other text does when it is
such a name but for the dash in front of it; it is then taken for an argument without a value.

So a command line with texts left over is refused for an unknown name unless each of them
*passes as a name* (`ofArguments_read_iff`).
-/

namespace PageScript.CommandLine

open PageScript.Number

/-- A text without two dashes in front that is a name, but for a dash in front. -/
def PassesAsName (text : String) : Prop :=
  behindDashes? text.toList = none ∧ isKnownName (withoutDashes text) = true

/-! ### Readings that succeed -/

/-- Tokens that are read hold no switch that takes no value. -/
theorem switch_of_readTokens {tokens : List Token} {found : List Argument × List String}
    (h : readTokens tokens = .ok found) {kind : Switch} {glued : Option String}
    (hmem : .switch kind glued ∈ tokens) : ∃ name, kind = .argument name := by
  fun_induction readTokens tokens generalizing found with
  | case1 => cases hmem
  | case2 text rest ih | case3 text rest ih =>
    obtain ⟨found, hfound, -⟩ := bind_eq_ok_iff.mp h
    rcases List.mem_cons.mp hmem with heq | hmem
    · cases heq
    · exact ih hfound hmem
  | case4 name _ _ ih | case6 name _ _ ih =>
    obtain ⟨a, -, h⟩ := bind_eq_ok_iff.mp h
    obtain ⟨found, hfound, -⟩ := bind_eq_ok_iff.mp h
    rcases List.mem_cons.mp hmem with heq | hmem
    · cases heq
      exact ⟨name, rfl⟩
    · exact ih hfound hmem
  | case5 name text rest ih =>
    obtain ⟨a, -, h⟩ := bind_eq_ok_iff.mp h
    obtain ⟨found, hfound, -⟩ := bind_eq_ok_iff.mp h
    rcases List.mem_cons.mp hmem with heq | hmem
    · cases heq
      exact ⟨name, rfl⟩
    · rcases List.mem_cons.mp hmem with heq | hmem
      · cases heq
      · exact ih hfound hmem
  | case7 => cases h

/-- A command line that is read asks for no help in front of the two dashes. -/
theorem not_asksForHelp_of_read {argv : List String} {args : List Argument}
    (h : read argv = .ok args) : ∀ text ∈ beforeDashes argv, ¬ AsksForHelp text := by
  intro text htext hhelp
  obtain ⟨kind, glued, htoken, hkind⟩ := asksForHelp_iff.mp hhelp
  obtain ⟨found, hfound, -⟩ := bind_eq_ok_iff.mp h
  have hmem : .switch kind glued ∈ (beforeDashes argv).map Token.ofText :=
    List.mem_map.mpr ⟨text, htext, htoken⟩
  obtain ⟨name, hname⟩ := switch_of_readTokens hfound hmem
  exact hkind name hname

/-- What is read is what the scan finds, with its raw values read. -/
theorem read_eq_ok_iff {argv : List String} {args : List Argument} :
    read argv = .ok args ↔
      (∀ text ∈ beforeDashes argv, ¬ AsksForHelp text) ∧
        ∃ known kept, (scan argv).known.mapM Argument.coerced = .ok known ∧
          (rawLeftovers (scan argv).extras).mapM Argument.coerced = .ok kept ∧
          args = known ++ kept := by
  constructor
  · intro h
    have hhelp := not_asksForHelp_of_read h
    rw [read_eq_coerced hhelp, mapError_eq_ok_iff] at h
    obtain ⟨known, hknown, h⟩ := bind_eq_ok_iff.mp h
    obtain ⟨kept, hkept, h⟩ := bind_eq_ok_iff.mp h
    rw [leftovers_eq] at hkept
    exact ⟨hhelp, known, kept, hknown, hkept, (Except.ok.inj h).symm⟩
  · rintro ⟨hhelp, known, kept, hknown, hkept, rfl⟩
    rw [read_eq_coerced hhelp, mapError_eq_ok_iff, leftovers_eq, hknown, hkept]
    rfl

/-! ### Names -/

/-- Reading raw values keeps the names. -/
theorem name_of_mapM_coerced {raws args : List Argument}
    (h : raws.mapM Argument.coerced = .ok args) :
    args.map (·.name) = raws.map (·.name) := by
  induction raws generalizing args with
  | nil =>
    cases h
    rfl
  | cons raw raws ih =>
    obtain ⟨a, rest, ha, hrest, rfl⟩ := mapM_cons_eq_ok_iff.mp h
    obtain ⟨v, -, rfl⟩ := map_eq_ok_iff.mp ha
    rw [List.map_cons, List.map_cons, ih hrest]

/-- The raw arguments of a scan have names that mean something. -/
theorem isKnownName_of_mem_known {argv : List String} {a : Argument} (h : a ∈ (scan argv).known) :
    isKnownName a.name = true := by
  fun_induction scan argv with
  | case1 | case2 => cases h
  | case3 text hdashes name hspelled =>
    cases List.mem_singleton.mp h
    exact (spelled?_eq_some_iff.mp hspelled).2
  | case4 text hdashes name hspelled next more hvalue ih
  | case5 text hdashes name hspelled next more hvalue ih =>
    rcases List.mem_cons.mp h with rfl | h
    · exact (spelled?_eq_some_iff.mp hspelled).2
    · exact ih h
  | case6 text rest hdashes hspelled name raw hglued ih =>
    rcases List.mem_cons.mp h with rfl | h
    · exact (glued?_eq_some_iff.mp hglued).2
    · exact ih h
  | case7 text rest hdashes hspelled hglued ih => exact ih h

/-! ### Texts with two dashes in front -/

theorem behindDashes?_eq_some_iff {cs body : List Char} :
    behindDashes? cs = some body ↔ cs = '-' :: '-' :: body := by
  unfold behindDashes?
  split
  · simp
  · next hne =>
    constructor
    · exact nofun
    · rintro rfl
      exact absurd rfl (hne body)

/-- The name that a text with two dashes in front gets. -/
def dashedName (body : List Char) : String :=
  match assignment? body with
  | some (name, _) => String.ofList name
  | none => String.ofList body

/-- A text that is no switch, or is the two dashes alone. -/
def Unclaimed (text : String) : Prop :=
  text = "--" ∨ spelled? text.toList = none ∧ glued? text.toList = none

/-- A text with two dashes in front that is no switch gets a name that means nothing. -/
theorem Unclaimed.not_isKnownName {text : String} {body : List Char} (h : Unclaimed text)
    (hbody : behindDashes? text.toList = some body) : isKnownName (dashedName body) = false := by
  rw [behindDashes?_eq_some_iff] at hbody
  rcases h with rfl | ⟨hspelled, hglued⟩
  · obtain rfl : body = [] := by simpa using hbody
    decide
  · rw [← Bool.not_eq_true]
    intro hknown
    cases hcut : assignment? body with
    | none =>
      simp only [dashedName, hcut] at hknown
      have := spelled?_eq_some_iff.mpr ⟨hbody.trans (by simp), hknown⟩
      rw [hspelled] at this
      cases this
    | some parts =>
      obtain ⟨name, raw⟩ := parts
      obtain ⟨rfl, -⟩ := assignment?_eq_some_iff.mp hcut
      simp only [dashedName, hcut] at hknown
      have : glued? _ = some (_, String.ofList raw) :=
        glued?_eq_some_iff.mpr ⟨hbody.trans (by simp), hknown⟩
      rw [hglued] at this
      cases this

/-- A text that a scan leaves over is no switch, if no text with two dashes in front comes first. -/
theorem unclaimed_of_extras {argv front rest : List String} {text : String}
    (hextras : (scan argv).extras = front ++ text :: rest)
    (hfront : ∀ t ∈ front, behindDashes? t.toList = none) : Unclaimed text := by
  fun_induction scan argv generalizing front with
  | case1 | case3 => simp at hextras
  | case2 behind =>
    cases front with
    | nil => exact .inl (List.cons.inj hextras).1.symm
    | cons t front =>
      have := hfront t List.mem_cons_self
      rw [← (List.cons.inj hextras).1] at this
      cases this
  | case4 _ _ _ _ _ _ _ ih | case5 _ _ _ _ _ _ _ ih | case6 _ _ _ _ _ _ _ ih =>
    exact ih hextras hfront
  | case7 first behind hdashes hspelled hglued ih =>
    cases front with
    | nil =>
      rw [← (List.cons.inj hextras).1]
      exact .inr ⟨hspelled, hglued⟩
    | cons t front =>
      exact ih (List.cons.inj hextras).2 fun t ht => hfront t (List.mem_cons_of_mem _ ht)

/-! ### The arguments of texts that are left over -/

/-- Texts without two dashes in front become arguments one by one. -/
theorem rawLeftovers_append {front : List String}
    (hfront : ∀ t ∈ front, behindDashes? t.toList = none) (rest : List String) :
    rawLeftovers (front ++ rest) =
      front.map (fun t => ⟨withoutDashes t, .absent⟩) ++ rawLeftovers rest := by
  induction front with
  | nil => rfl
  | cons t front ih =>
    rw [List.cons_append, rawLeftovers, hfront t List.mem_cons_self]
    simp only [ih fun t ht => hfront t (List.mem_cons_of_mem _ ht), List.map_cons,
      List.cons_append]

/-- A text with two dashes in front becomes an argument with its own name. -/
theorem rawLeftovers_dashed {text : String} {body : List Char}
    (hbody : behindDashes? text.toList = some body) (rest : List String) :
    ∃ a ∈ rawLeftovers (text :: rest), a.name = dashedName body := by
  rw [rawLeftovers.eq_def]
  simp only [hbody, dashedName]
  cases assignment? body with
  | some parts => exact ⟨_, List.mem_cons_self, rfl⟩
  | none =>
    cases rest with
    | nil => exact ⟨_, List.mem_cons_self, rfl⟩
    | cons following rest =>
      dsimp only
      split <;> exact ⟨_, List.mem_cons_self, rfl⟩

/-- Some text that a scan leaves over becomes an argument whose name means nothing, exactly if
some text does not pass as a name. -/
theorem exists_unknown_leftover_iff (argv : List String) :
    (∃ a ∈ rawLeftovers (scan argv).extras, isKnownName a.name = false) ↔
      ∃ text ∈ (scan argv).extras, ¬ PassesAsName text := by
  -- the texts in front of the first with two dashes stand for themselves
  let bare : String → Bool := fun t => (behindDashes? t.toList).isNone
  obtain ⟨front, rest, hextras, hfront, hrest⟩ : ∃ front rest,
      (scan argv).extras = front ++ rest ∧ (∀ t ∈ front, behindDashes? t.toList = none) ∧
        ∀ t ∈ rest.head?, bare t = false :=
    ⟨_, _, List.takeWhile_append_dropWhile.symm,
      fun t ht => Option.isNone_iff_eq_none.mp (List.all_eq_true.mp List.all_takeWhile t ht),
      fun t ht => by
        have := List.head?_dropWhile_not bare (scan argv).extras
        rwa [ht] at this⟩
  cases rest with
  | nil =>
    rw [hextras, rawLeftovers_append hfront]
    constructor
    · rintro ⟨a, ha, hname⟩
      simp only [rawLeftovers, List.append_nil, List.mem_map] at ha
      obtain ⟨t, ht, rfl⟩ := ha
      refine ⟨t, by simpa using ht, fun hpass => ?_⟩
      rw [hpass.2] at hname
      cases hname
    · rintro ⟨t, ht, hpass⟩
      rw [List.append_nil] at ht
      refine ⟨⟨withoutDashes t, .absent⟩, by simpa [rawLeftovers] using ⟨t, ht, rfl⟩, ?_⟩
      rw [← Bool.not_eq_true]
      exact fun hknown => hpass ⟨hfront t ht, hknown⟩
  | cons text rest =>
    obtain ⟨body, hbody⟩ : ∃ body, behindDashes? text.toList = some body :=
      Option.isSome_iff_exists.mp (by simpa [bare] using hrest text rfl)
    obtain ⟨a, ha, hname⟩ := rawLeftovers_dashed hbody rest
    have hunknown := (unclaimed_of_extras hextras hfront).not_isKnownName hbody
    constructor
    · intro _
      refine ⟨text, by simp [hextras], fun hpass => ?_⟩
      rw [hpass.1] at hbody
      cases hbody
    · intro _
      refine ⟨a, ?_, by rw [hname, hunknown]⟩
      rw [hextras, rawLeftovers_append hfront]
      exact List.mem_append_right _ ha

/-! ### The refusal -/

/-- **Texts left over are refused unless they all pass as names.**  The arguments of a command line
are refused for an unknown name exactly if the scan leaves over some text that is not, but for a
dash in front, a name. -/
theorem ofArguments_read_iff {argv : List String} {args : List Argument}
    (h : read argv = .ok args) :
    (∃ name value, Preferences.ofArguments args = .error (.unknownArgument name value)) ↔
      ∃ text ∈ (scan argv).extras, ¬ PassesAsName text := by
  obtain ⟨-, known, kept, hknown, hkept, rfl⟩ := read_eq_ok_iff.mp h
  have hnames : (known ++ kept).map (·.name) =
      (scan argv).known.map (·.name) ++ (rawLeftovers (scan argv).extras).map (·.name) := by
    rw [List.map_append, name_of_mapM_coerced hknown, name_of_mapM_coerced hkept]
  have hmem : ∀ name, name ∈ (known ++ kept).map (·.name) ↔
      (∃ a ∈ (scan argv).known, a.name = name) ∨
        ∃ a ∈ rawLeftovers (scan argv).extras, a.name = name := by
    intro name
    rw [hnames, List.mem_append, List.mem_map, List.mem_map]
  rw [Preferences.exists_unknownArgument_iff, ← exists_unknown_leftover_iff]
  constructor
  · rintro ⟨a, ha, hname⟩
    rcases (hmem a.name).mp (List.mem_map_of_mem ha) with ⟨b, hb, hsame⟩ | ⟨b, hb, hsame⟩
    · rw [← hsame, isKnownName_of_mem_known hb] at hname
      cases hname
    · exact ⟨b, hb, by rw [hsame, hname]⟩
  · rintro ⟨b, hb, hname⟩
    obtain ⟨a, ha, hsame⟩ := List.mem_map.mp ((hmem b.name).mpr (.inr ⟨b, hb, rfl⟩))
    exact ⟨a, ha, by rw [hsame, hname]⟩

/-- A leftover with two dashes in front is refused, next to one that passes as a name. -/
theorem ofArguments_read_of_mixed :
    read ["--url", "x", "-sleep", "--x"] =
        .ok [⟨"url", .text "x"⟩, ⟨"sleep", .absent⟩, ⟨"x", .flag true⟩] ∧
      ((∃ name value, Preferences.ofArguments
          [⟨"url", .text "x"⟩, ⟨"sleep", .absent⟩, ⟨"x", .flag true⟩] =
            .error (.unknownArgument name value)) ↔
        ∃ text ∈ (scan ["--url", "x", "-sleep", "--x"]).extras, ¬ PassesAsName text) :=
  ⟨rfl, ofArguments_read_iff rfl⟩

/-- A word that passes as a name is left over, and yet the arguments are accepted. -/
theorem ofArguments_read_accepts_leftover :
    read ["--url", "x", "sleep"] = .ok [⟨"url", .text "x"⟩, ⟨"sleep", .absent⟩] ∧
      (scan ["--url", "x", "sleep"]).extras = ["sleep"] ∧
      ∃ p, Preferences.ofArguments [⟨"url", .text "x"⟩, ⟨"sleep", .absent⟩] = .ok p :=
  ⟨rfl, rfl, _, rfl⟩

end PageScript.CommandLine

import PageScript.Proofs.CommandLine.Text

/-!
# Reading a command line in one pass

`read` cuts the command line at the two dashes, turns the texts in front of them into tokens, and
goes through these.  `scan` does the same in one pass over the texts: a switch is looked at together
with the text behind it, and everything from the two dashes on is left over.

The arguments of a scan are *raw*: a value that is a text still has to be read.  `coerced` does
that, for an argument of the scan and for one of the texts that are left over alike, so the whole
reading is a scan followed by reading raw values, from left to right (`read_eq_coerced`).  A raw
value fails to be read only if it is an integer text beyond the limit.
-/

namespace PageScript

open PageScript.Number PageScript.Text

/-- An argument with its raw value read. -/
def Argument.coerced (a : Argument) : Except Issue Argument := a.value.coerce.map (⟨a.name, ·⟩)

/-! ### Raw values that are read -/

/-- An integer text with more digits than the limit. -/
def Overlong (raw : String) : Prop :=
  match integerText? (trimChars raw.toList) with
  | some (_, ds) => digitLimit < ds.length
  | none => False

instance : DecidablePred Overlong := fun raw =>
  match h : integerText? (trimChars raw.toList) with
  | some (_, ds) => decidable_of_iff (digitLimit < ds.length) (by simp [Overlong, h])
  | none => isFalse (by simp [Overlong, h])

/-- A raw text is read unless it is an integer text beyond the limit. -/
theorem Value.ofRaw_of_not_overlong {raw : String} (h : ¬ Overlong raw) :
    ∃ v, Value.ofRaw raw = .ok v := by
  simp only [Overlong] at h
  simp only [Value.ofRaw, Value.ofTrimmed?]
  split
  · exact ⟨_, rfl⟩
  · split
    · exact ⟨_, rfl⟩
    · split
      · next negative ds hds =>
        simp only [hds, Nat.not_lt] at h
        rw [wholeNumber, if_pos h]
        exact ⟨_, rfl⟩
      · exact ⟨_, rfl⟩

/-- The raw values among arguments. -/
def rawValues (args : List Argument) : List String := args.filterMap (·.value.text?)

/-- Raw arguments are read if none of their values is beyond the limit. -/
theorem mapM_coerced_of_not_overlong {args : List Argument}
    (h : ∀ raw ∈ rawValues args, ¬ Overlong raw) :
    ∃ found, args.mapM Argument.coerced = .ok found := by
  induction args with
  | nil => exact ⟨[], rfl⟩
  | cons a args ih =>
    obtain ⟨rest, hrest⟩ := ih fun raw hraw => h raw (by
      rw [rawValues, List.filterMap_cons]
      split
      · exact hraw
      · exact List.mem_cons_of_mem _ hraw)
    obtain ⟨first, hfirst⟩ : ∃ first, a.coerced = .ok first := by
      obtain ⟨name, value⟩ := a
      cases value with
      | text raw =>
        obtain ⟨v, hv⟩ := Value.ofRaw_of_not_overlong (h raw (by simp [rawValues, Value.text?]))
        exact ⟨⟨name, v⟩, by simp [Argument.coerced, Value.coerce, hv, Except.map]⟩
      | absent | flag | integer | decimal => exact ⟨_, rfl⟩
    exact ⟨first :: rest, by rw [List.mapM_cons, hfirst, hrest]; rfl⟩

namespace CommandLine

/-! ### The scan -/

/-- What a scan finds: the raw arguments of the switches, and the texts that belong to none. -/
structure Scan where
  known : List Argument
  extras : List String

/-- Put a raw argument in front. -/
def Scan.emit (s : Scan) (a : Argument) : Scan := { s with known := a :: s.known }

/-- Put a text that belongs to no switch in front. -/
def Scan.keep (s : Scan) (text : String) : Scan := { s with extras := text :: s.extras }

/-- What a switch says on its own: `--headed` is true, any other name has no value. -/
def aloneValue (name : String) : Value := if name = "headed" then .flag true else .absent

/-- The raw value of a glued text: two dashes are no value. -/
def gluedValue (name raw : String) : Value := if raw = "--" then aloneValue name else .text raw

/-- One pass over a command line, from left to right. -/
def scan : List String → Scan
  | [] => ⟨[], []⟩
  | text :: rest =>
    if text = "--" then ⟨[], text :: rest⟩
    else match spelled? text.toList with
      | some name =>
        match rest with
        | [] => ⟨[⟨name, aloneValue name⟩], []⟩
        | next :: more =>
          if ValueLike next then (scan more).emit ⟨name, .text next⟩
          else (scan (next :: more)).emit ⟨name, aloneValue name⟩
      | none =>
        match glued? text.toList with
        | some (name, raw) => (scan rest).emit ⟨name, gluedValue name raw⟩
        | none => (scan rest).keep text

/-- The arguments of a scan with their raw values read, and the texts that belong to none. -/
def Scan.coerced (s : Scan) : Except Issue (List Argument × List String) := do
  let known ← s.known.mapM Argument.coerced
  return (known, s.extras)

/-! ### Values of switches -/

theorem bareValue_eq (name : String) : bareValue name = aloneValue name := rfl

theorem coerced_aloneValue (name : String) :
    Argument.coerced ⟨name, aloneValue name⟩ = .ok ⟨name, aloneValue name⟩ := by
  unfold aloneValue
  split <;> rfl

theorem argumentOf_none (name : String) :
    argumentOf name none = (Argument.coerced ⟨name, aloneValue name⟩).mapError .number := by
  rw [coerced_aloneValue, argumentOf, bareValue_eq]
  rfl

theorem argumentOf_some (name raw : String) :
    argumentOf name (some raw) =
      (Argument.coerced ⟨name, gluedValue name raw⟩).mapError .number := by
  by_cases h : raw = "--"
  · rw [argumentOf, gluedValue, if_pos h, if_pos h, coerced_aloneValue, bareValue_eq]
    rfl
  · rw [argumentOf, gluedValue, if_neg h, if_neg h]
    rfl

/-! ### The scan and the tokens -/

/-- Reading one more raw argument comes before reading the others. -/
theorem Scan.coerced_emit (s : Scan) (a : Argument) :
    (s.emit a).coerced = a.coerced >>= fun b => s.coerced.map fun found =>
      (b :: found.1, found.2) := by
  simp only [Scan.coerced, Scan.emit, List.mapM_cons]
  cases a.coerced with
  | error issue => rfl
  | ok b => cases s.known.mapM Argument.coerced <;> rfl

theorem Scan.coerced_keep (s : Scan) (text : String) :
    (s.keep text).coerced = s.coerced.map fun found => (found.1, text :: found.2) := by
  simp only [Scan.coerced, Scan.keep]
  cases s.known.mapM Argument.coerced <;> rfl

/-- A raw argument in front of a scan is read like the argument of a switch in front of tokens. -/
theorem mapError_coerced_emit {tokens : List Token} {s : Scan} {a : Argument}
    (h : readTokens tokens = s.coerced.mapError .number) :
    (s.emit a).coerced.mapError .number = (do
      let b ← a.coerced.mapError .number
      let (known, others) ← readTokens tokens
      return (b :: known, others) : Except Stop _) := by
  rw [Scan.coerced_emit, h]
  cases a.coerced with
  | error issue => rfl
  | ok b => cases s.coerced <;> rfl

theorem mapError_coerced_keep {tokens : List Token} {s : Scan} {text : String}
    (h : readTokens tokens = s.coerced.mapError .number) :
    (s.keep text).coerced.mapError .number = (do
      let (known, others) ← readTokens tokens
      return (known, text :: others) : Except Stop _) := by
  rw [Scan.coerced_keep, h]
  cases s.coerced <;> rfl

/-- A text in front of the two dashes that does not ask for help. -/
def Plain (text : String) : Prop := text ≠ "--" ∧ ¬ AsksForHelp text

/-- **Tokens and scan agree.**  Plain texts are read through their tokens as the scan reads them. -/
theorem readTokens_map_ofText {texts : List String} (hplain : ∀ text ∈ texts, Plain text) :
    readTokens (texts.map Token.ofText) = (scan texts).coerced.mapError .number := by
  fun_induction scan texts with
  | case1 => rfl
  | case2 rest => exact absurd rfl (hplain "--" List.mem_cons_self).1
  | case3 text hdashes name hspelled =>
    have htoken := Token.ofText_eq (hplain text List.mem_cons_self).2
    rw [kindOf_of_spelled hspelled] at htoken
    rw [List.map_cons, htoken, List.map_nil, readTokens, argumentOf_none]
    · exact (mapError_coerced_emit (s := ⟨[], []⟩) rfl).symm
    · intro other rest h
      cases h
  | case4 text hdashes name hspelled next more hvalue ih =>
    have htoken := Token.ofText_eq (hplain text List.mem_cons_self).2
    rw [kindOf_of_spelled hspelled] at htoken
    have hnext := Token.ofText_eq (hplain next (by simp)).2
    rw [kindOf_of_valueLike hvalue] at hnext
    have hvalue : gluedValue name next = .text next := if_neg (hplain next (by simp)).1
    have ih := ih fun t ht => hplain t (List.mem_cons_of_mem _ (List.mem_cons_of_mem _ ht))
    rw [List.map_cons, List.map_cons, htoken, hnext, readTokens, argumentOf_some, hvalue]
    exact (mapError_coerced_emit ih).symm
  | case5 text hdashes name hspelled next more hvalue ih =>
    have htoken := Token.ofText_eq (hplain text List.mem_cons_self).2
    rw [kindOf_of_spelled hspelled] at htoken
    have hnext : ∀ other, Token.ofText next ≠ .word other := by
      rw [Token.ofText_eq (hplain next (by simp)).2]
      exact kindOf_ne_word hvalue
    have ih := ih fun t ht => hplain t (List.mem_cons_of_mem _ ht)
    rw [List.map_cons, htoken, readTokens, argumentOf_none]
    · exact (mapError_coerced_emit ih).symm
    · intro other rest h
      exact hnext other (List.cons.inj h).1
  | case6 text rest hdashes hspelled name raw hglued ih =>
    have htoken := Token.ofText_eq (hplain text List.mem_cons_self).2
    rw [kindOf_of_glued hspelled hglued] at htoken
    rw [List.map_cons, htoken, readTokens, argumentOf_some]
    exact (mapError_coerced_emit (ih fun t ht => hplain t (List.mem_cons_of_mem _ ht))).symm
  | case7 text rest hdashes hspelled hglued ih =>
    have htoken := Token.ofText_eq (hplain text List.mem_cons_self).2
    rw [kindOf_of_neither hspelled hglued] at htoken
    have ih := ih fun t ht => hplain t (List.mem_cons_of_mem _ ht)
    rw [List.map_cons, htoken, mapError_coerced_keep ih]
    by_cases hvalue : ValueLike text
    · rw [if_pos hvalue, readTokens]
    · rw [if_neg hvalue, readTokens]

/-! ### The two dashes -/

theorem ne_dashes_of_spelled? {text name : String} (h : spelled? text.toList = some name) :
    text ≠ "--" := by
  rintro rfl
  revert h
  exact nofun

/-- A switch takes a value-like text behind it. -/
theorem scan_take {text name next : String} (more : List String)
    (hspelled : spelled? text.toList = some name) (hnext : ValueLike next) :
    scan (text :: next :: more) = (scan more).emit ⟨name, .text next⟩ := by
  rw [scan.eq_def]
  simp only [if_neg (ne_dashes_of_spelled? hspelled), hspelled, if_pos hnext]

/-- A switch without a value-like text behind it has no value. -/
theorem scan_bare {text name : String} {rest : List String}
    (hspelled : spelled? text.toList = some name) (hrest : ∀ next ∈ rest.head?, ¬ ValueLike next) :
    scan (text :: rest) = (scan rest).emit ⟨name, aloneValue name⟩ := by
  rw [scan.eq_def]
  cases rest with
  | nil =>
    simp only [if_neg (ne_dashes_of_spelled? hspelled), hspelled]
    rfl
  | cons next more =>
    simp only [if_neg (ne_dashes_of_spelled? hspelled), hspelled, if_neg (hrest next rfl)]

/-- What follows the texts in front of the two dashes is left over behind them. -/
theorem scan_append {front behind : List String} (hfront : "--" ∉ front)
    (hbehind : scan behind = ⟨[], behind⟩) (hhead : ∀ text ∈ behind.head?, ¬ ValueLike text) :
    scan (front ++ behind) = ⟨(scan front).known, (scan front).extras ++ behind⟩ := by
  fun_induction scan front with
  | case1 => exact hbehind
  | case2 rest => exact absurd List.mem_cons_self hfront
  | case3 text hdashes name hspelled =>
    rw [List.singleton_append, scan_bare hspelled hhead, hbehind]
    rfl
  | case4 text hdashes name hspelled next more hvalue ih =>
    simp only [List.mem_cons, not_or] at hfront
    rw [List.cons_append, List.cons_append, scan_take _ hspelled hvalue, ih hfront.2.2]
    rfl
  | case5 text hdashes name hspelled next more hvalue ih =>
    rw [List.mem_cons, not_or] at hfront
    have hnext : ∀ t ∈ (next :: more ++ behind).head?, ¬ ValueLike t := by simpa using hvalue
    rw [List.cons_append, scan_bare hspelled hnext, ih hfront.2]
    rfl
  | case6 text rest hdashes hspelled name raw hglued ih =>
    rw [List.mem_cons, not_or] at hfront
    simp only [List.cons_append, scan.eq_def (text :: _), if_neg hdashes, hspelled, hglued,
      ih hfront.2]
    rfl
  | case7 text rest hdashes hspelled hglued ih =>
    rw [List.mem_cons, not_or] at hfront
    simp only [List.cons_append, scan.eq_def (text :: _), if_neg hdashes, hspelled, hglued,
      ih hfront.2]
    rfl

/-- A scan of a whole command line is a scan up to the two dashes; the rest is left over. -/
theorem scan_eq (argv : List String) :
    scan argv =
      ⟨(scan (beforeDashes argv)).known, (scan (beforeDashes argv)).extras ++ fromDashes argv⟩ := by
  have hfront : "--" ∉ beforeDashes argv := by
    intro h
    have := List.all_eq_true.mp List.all_takeWhile _ h
    simp at this
  have hfrom : fromDashes argv = [] ∨ ∃ rest, fromDashes argv = "--" :: rest := by
    cases h : fromDashes argv with
    | nil => exact .inl rfl
    | cons text rest =>
      have hhead := List.head?_dropWhile_not (· != "--") argv
      rw [← fromDashes, h] at hhead
      simp only [List.head?_cons, bne_eq_false_iff_eq] at hhead
      exact .inr ⟨rest, by rw [hhead]⟩
  conv => lhs; rw [← beforeDashes_append_fromDashes argv]
  rcases hfrom with h | ⟨rest, h⟩
  · rw [h]
    exact scan_append hfront rfl nofun
  · rw [h]
    apply scan_append hfront (by rw [scan, if_pos rfl])
    rintro text ⟨⟩
    exact not_valueLike_dashes

/-! ### The whole reading -/

/-- The raw arguments of the texts that are left over. -/
def rawLeftovers : List String → List Argument
  | [] => []
  | text :: rest =>
    match behindDashes? text.toList with
    | none => ⟨withoutDashes text, .absent⟩ :: rawLeftovers rest
    | some body =>
      match assignment? body with
      | some (name, raw) => ⟨String.ofList name, .text (String.ofList raw)⟩ :: rawLeftovers rest
      | none =>
        match rest with
        | [] => [⟨String.ofList body, .flag true⟩]
        | next :: more =>
          if (behindDashes? next.toList).isSome then
            ⟨String.ofList body, .flag true⟩ :: rawLeftovers (next :: more)
          else ⟨String.ofList body, .text next⟩ :: rawLeftovers more

/-- A raw argument without a text in front is kept as it is. -/
theorem mapM_coerced_cons {a : Argument} (h : a.coerced = .ok a) (args : List Argument) :
    (a :: args).mapM Argument.coerced = (args.mapM Argument.coerced).map (a :: ·) := by
  rw [List.mapM_cons, h]
  cases args.mapM Argument.coerced <;> rfl

/-- The texts that are left over are read as their raw arguments are. -/
theorem leftovers_eq (texts : List String) :
    leftovers texts = (rawLeftovers texts).mapM Argument.coerced := by
  fun_induction rawLeftovers texts with
  | case1 => rfl
  | case2 text rest hbody ih =>
    rw [mapM_coerced_cons rfl, ← ih, leftovers.eq_def]
    simp only [hbody]
  | case3 text rest body hbody name raw hcut ih =>
    rw [List.mapM_cons, ← ih, leftovers.eq_def]
    simp only [hbody, hcut]
    rfl
  | case4 text body hbody hcut =>
    rw [leftovers.eq_def]
    simp only [hbody, hcut]
    rfl
  | case5 text body hbody hcut next more hnext ih =>
    rw [mapM_coerced_cons rfl, ← ih, leftovers.eq_def]
    simp only [hbody, hcut, if_pos hnext]
  | case6 text body hbody hcut next more hnext ih =>
    rw [List.mapM_cons, ← ih, leftovers.eq_def]
    simp only [hbody, hcut, if_neg hnext]
    rfl

/-- The whole reading: a scan, then its raw values, then the texts that are left over. -/
theorem read_eq_coerced {argv : List String}
    (hhelp : ∀ text ∈ beforeDashes argv, ¬ AsksForHelp text) :
    read argv = (do
      let known ← (scan argv).known.mapM Argument.coerced
      let kept ← leftovers (scan argv).extras
      return known ++ kept : Except Issue _).mapError .number := by
  have hplain : ∀ text ∈ beforeDashes argv, Plain text := by
    intro text htext
    refine ⟨?_, hhelp text htext⟩
    simpa using List.all_eq_true.mp List.all_takeWhile text htext
  rw [read, readTokens_map_ofText hplain, scan_eq argv, Scan.coerced]
  cases (scan (beforeDashes argv)).known.mapM Argument.coerced with
  | error issue => rfl
  | ok known =>
    show ((leftovers ((scan (beforeDashes argv)).extras ++ fromDashes argv)).mapError .number >>=
        fun kept => pure (known ++ kept)) =
      (leftovers ((scan (beforeDashes argv)).extras ++ fromDashes argv) >>=
        fun kept => pure (known ++ kept)).mapError Stop.number
    cases leftovers ((scan (beforeDashes argv)).extras ++ fromDashes argv) <;> rfl

/-- **One pass suffices.**  A command line without a text that asks for help, and without a value
that is an integer text beyond the limit, gives the arguments that a single scan finds, and behind
them those of the texts that the scan leaves over. -/
theorem read_eq_scan {argv : List String} (hhelp : ∀ text ∈ beforeDashes argv, ¬ AsksForHelp text)
    (hvalues : ∀ raw ∈ rawValues ((scan argv).known ++ rawLeftovers (scan argv).extras),
      ¬ Overlong raw) :
    ∃ known kept, (scan argv).known.mapM Argument.coerced = .ok known ∧
      leftovers (scan argv).extras = .ok kept ∧ read argv = .ok (known ++ kept) := by
  rw [rawValues, List.filterMap_append] at hvalues
  obtain ⟨known, hknown⟩ : ∃ known, (scan argv).known.mapM Argument.coerced = .ok known :=
    mapM_coerced_of_not_overlong fun raw hraw => hvalues raw (List.mem_append_left _ hraw)
  obtain ⟨kept, hkept⟩ : ∃ kept,
      (rawLeftovers (scan argv).extras).mapM Argument.coerced = .ok kept :=
    mapM_coerced_of_not_overlong fun raw hraw => hvalues raw (List.mem_append_right _ hraw)
  rw [← leftovers_eq] at hkept
  refine ⟨known, kept, hknown, hkept, ?_⟩
  rw [read_eq_coerced hhelp, hknown, hkept]
  rfl

/-- A command line with values of every kind: a negative number, two dashes that are no value, a
missing value, and texts that are left over on both sides of the two dashes. -/
theorem read_eq_scan_of_mixed :
    ∃ known kept,
      (scan ["so", "--sleep", "-5", "--url=--", "--headed", "--x", "1", "--", "--help"]).known.mapM
        Argument.coerced = .ok known ∧
      leftovers
        (scan ["so", "--sleep", "-5", "--url=--", "--headed", "--x", "1", "--", "--help"]).extras =
          .ok kept ∧
      read ["so", "--sleep", "-5", "--url=--", "--headed", "--x", "1", "--", "--help"] =
        .ok (known ++ kept) :=
  read_eq_scan (by decide +kernel) (by decide +kernel)

end CommandLine
end PageScript

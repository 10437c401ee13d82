import PageScript.Proofs.Json.Spelling

/-!
# Blocks

Arrays and objects are read from texts that begin and end with brackets of their kind.  The reader
knows where such a text is complete: whatever follows, it has the value when it has come to the
closing bracket (`run_of_closed`), so a text that goes on with anything but gaps is refused
(`eq_of_readChars_append`).  Neither is a text read in which words stand in front of a bracket
(`readChars_words_ne_ok`).
-/

namespace PageScript.Json

/-! ### Brackets -/

/-- The brackets around an array or object. -/
def brackets? : Json → Option (Char × Char)
  | array _ => some ('[', ']')
  | object _ => some ('\x7b', '\x7d')
  | _ => none

/-- The brackets around what is still open. -/
def Frame.brackets : Frame → Char × Char
  | .array _ => ('[', ']')
  | .object _ _ => ('\x7b', '\x7d')

/-- The brackets around what is being read in a mode. -/
def Mode.brackets? : Mode → Option (Char × Char)
  | .value => none
  | .itemOrClose => some ('[', ']')
  | .nameOrClose | .name _ | .colon _ _ => some ('\x7b', '\x7d')
  | .after v => v.brackets?

/-- The outermost brackets of what is being read. -/
def State.brackets? (s : State) : Option (Char × Char) :=
  (s.stack.getLast?.map Frame.brackets).or s.mode.brackets?

namespace State

variable {s s' : State} {offset : Nat} {t : Token} {marks : Char × Char}

theorem brackets?_cons (mode : Mode) (frame : Frame) (stack : List Frame) :
    brackets? ⟨mode, frame :: stack⟩ =
      (stack.getLast?.map Frame.brackets).or (some frame.brackets) := by
  rw [brackets?, List.getLast?_cons]
  cases stack.getLast? <;> rfl

/-- Going on behind an opened value stays within the same brackets. -/
theorem brackets?_of_value {stack : List Frame} (h : value stack offset t = .ok s')
    (hs : stack.getLast?.map Frame.brackets = some marks) : s'.brackets? = some marks := by
  unfold value at h
  split at h <;> cases h <;> rw [brackets?, hs, Option.some_or]

theorem brackets?_of_name {stack : List Frame} {fields : Fields}
    (h : name fields stack offset t = .ok s')
    (hs : (stack.getLast?.map Frame.brackets).or (some ('\x7b', '\x7d')) = some marks) :
    s'.brackets? = some marks := by
  unfold name at h
  split at h <;> cases h
  exact hs

theorem brackets?_of_after {stack : List Frame} {v : Json} (h : after v offset stack t = .ok s')
    (hs : (stack.getLast?.map Frame.brackets).or v.brackets? = some marks) :
    s'.brackets? = some marks := by
  unfold after at h
  split at h <;> cases h
  · exact hs
  all_goals
    rw [List.getLast?_cons] at hs
    first
      | rw [brackets?_cons]
      | rw [brackets?]
    rename_i stack
    cases hlast : stack.getLast? <;> rw [hlast] at hs <;> exact hs

/-- What is outermost stays so. -/
theorem step_brackets (h : s.step offset t = .ok s') (hs : s.brackets? = some marks) :
    s'.brackets? = some marks := by
  obtain ⟨mode, stack⟩ := s
  cases mode with
  | value =>
    refine brackets?_of_value h ?_
    rwa [brackets?, Mode.brackets?, Option.or_none] at hs
  | itemOrClose =>
    unfold step at h
    dsimp only at h
    split at h
    · cases h
      exact hs
    · refine brackets?_of_value h ?_
      rw [List.getLast?_cons, ← hs, brackets?]
      cases stack.getLast? <;> rfl
  | nameOrClose =>
    unfold step at h
    dsimp only at h
    split at h
    · cases h
      exact hs
    · exact brackets?_of_name h hs
  | name fields => exact brackets?_of_name h hs
  | colon fields key =>
    unfold step at h
    dsimp only at h
    split at h
    · cases h
      rw [brackets?_cons]
      exact hs
    · cases h
  | after v => exact brackets?_of_after h hs

theorem run_brackets {ts : List (Nat × Token)} (h : s.run ts = .ok s')
    (hs : s.brackets? = some marks) : s'.brackets? = some marks := by
  induction ts generalizing s with
  | nil =>
    cases h
    exact hs
  | cons t ts ih =>
    obtain ⟨offset, t⟩ := t
    rw [run] at h
    split at h
    · next hstep => exact ih h (step_brackets hstep hs)
    · cases h

/-- At the end there must be a value. -/
theorem step_finish (h : s.step offset .finish = .ok s') : s' = s ∧ ∃ v, s = ⟨.after v, []⟩ := by
  obtain ⟨mode, stack⟩ := s
  cases mode with
  | after v =>
    cases stack with
    | nil =>
      cases h
      exact ⟨rfl, v, rfl⟩
    | cons frame stack => cases frame <;> cases h
  | _ => cases h

/-- Whatever goes wrong in a text literal, there is nothing to be read. -/
theorem step_fault (s : State) (offset : Nat) (complaint : Complaint) (place : Nat) :
    s.step offset (.fault complaint place) ≠ .ok s' := by
  obtain ⟨mode, stack⟩ := s
  cases mode with
  | after v =>
    cases stack with
    | nil => nofun
    | cons frame stack => cases frame <;> nofun
  | _ => nofun

/-- A text that is read leaves nothing open. -/
theorem exists_of_run {skip offset : Nat} {cs : List Char}
    (h : s.run (tokensFrom skip offset cs) = .ok s') : ∃ v, s' = ⟨.after v, []⟩ := by
  induction cs generalizing s skip offset with
  | nil =>
    rw [tokensFrom, run] at h
    split at h
    · next hstep =>
      cases h
      obtain ⟨rfl, hs⟩ := step_finish hstep
      exact hs
    · cases h
  | cons c cs ih =>
    cases skip with
    | succ skip => exact ih h
    | zero =>
      rw [tokensFrom] at h
      split at h
      · exact ih h
      · rw [run] at h
        split at h
        · exact ih h
        · cases h

end State

theorem run_tokens_of_readChars {cs : List Char} {v : Json} (h : readChars cs = .ok v) :
    State.run ⟨.value, []⟩ (tokens cs) = .ok ⟨.after v, []⟩ := by
  obtain ⟨stack, hrun⟩ := run_of_readChars h
  obtain ⟨w, hstate⟩ := State.exists_of_run hrun
  cases hstate
  exact hrun

/-- What begins with a bracket is of the kind of the bracket. -/
theorem brackets?_of_readChars {c : Char} {cs : List Char} {v : Json}
    (h : readChars (c :: cs) = .ok v) :
    (c = '[' → v.brackets? = some ('[', ']')) ∧
      (c = '\x7b' → v.brackets? = some ('\x7b', '\x7d')) := by
  have hrun := run_tokens_of_readChars h
  constructor
  · rintro rfl
    have hrun' : State.run ⟨.itemOrClose, []⟩ (tokensFrom 0 1 cs) = .ok ⟨.after v, []⟩ := hrun
    exact State.run_brackets hrun' rfl
  · rintro rfl
    have hrun' : State.run ⟨.nameOrClose, []⟩ (tokensFrom 0 1 cs) = .ok ⟨.after v, []⟩ := hrun
    exact State.run_brackets hrun' rfl

/-- An array or object is printed in its brackets. -/
theorem exists_chars_eq {v : Json} {opener closer : Char}
    (h : v.brackets? = some (opener, closer)) (style : Style) (depth : Nat) :
    ∃ body, chars style depth v = opener :: (body ++ [closer]) := by
  cases v with
  | array items =>
    cases h
    cases items with
    | nil => exact ⟨[], by simp only [chars, List.nil_append]⟩
    | cons item items => exact ⟨_, by simp only [chars]; rfl⟩
  | object fields =>
    cases h
    cases fields with
    | nil => exact ⟨[], by simp only [chars, List.nil_append]⟩
    | cons field fields => exact ⟨_, by simp only [chars]; rfl⟩
  | _ => cases h

/-! ### Texts that are complete -/

theorem exists_of_prepend {code : Nat} {scanned : Except (Complaint × Nat) (List Nat × Nat)}
    {codes : List Nat} {after : Nat} (h : prepend code scanned = .ok (codes, after)) :
    ∃ rest, scanned = .ok (rest, after) ∧ codes = code :: rest := by
  cases scanned with
  | error e => cases h
  | ok scanned =>
    cases h
    exact ⟨_, rfl, rfl⟩

/-- A scan that has come to the end of a literal, whatever follows that. -/
def Scanned (start offset : Nat) (cs : List Char) (codes : List Nat) (after : Nat) : Prop :=
  ∃ body rest, cs = body ++ '"' :: rest ∧ after = offset + body.length + 1 ∧
    ∀ more, scanText start offset (body ++ '"' :: more) = .ok (codes, after)

/-- A scan comes to the end if it does so behind what it takes first. -/
theorem scanned_append {start offset code after : Nat} {w cs : List Char} {codes : List Nat}
    (hfirst : ∀ more, more ≠ [] → scanText start offset (w ++ more) =
      prepend code (scanText start (offset + w.length) more))
    (h : prepend code (scanText start (offset + w.length) cs) = .ok (codes, after))
    (hrest : ∀ {codes after}, scanText start (offset + w.length) cs = .ok (codes, after) →
      Scanned start (offset + w.length) cs codes after) :
    Scanned start offset (w ++ cs) codes after := by
  obtain ⟨found, hfound, rfl⟩ := exists_of_prepend h
  obtain ⟨body, rest, rfl, rfl, hbody⟩ := hrest hfound
  refine ⟨w ++ body, rest, (List.append_assoc ..).symm, ?_, fun more => ?_⟩
  · rw [List.length_append]
    omega
  · rw [List.append_assoc, hfirst _ (by simp), hbody]
    rfl

/-- What a scan finds depends on nothing behind the end of the literal. -/
theorem scanned_of_scanText {start offset : Nat} {cs : List Char} {codes : List Nat} {after : Nat}
    (h : scanText start offset cs = .ok (codes, after)) : Scanned start offset cs codes after := by
  -- Four cases do not fail: the end of the literal, and an escape with a code, one with a letter and
  -- a character that stands for itself, which have the rest of the scan behind them.
  fun_induction scanText start offset cs generalizing codes after
  case case2 offset rest =>
    cases h
    exact ⟨[], rest, rfl, rfl, fun more => by rw [List.nil_append, scanText]⟩
  case case5 offset a b c d rest code hcode hrest ih =>
    exact scanned_append (w := ['\\', 'u', a, b, c, d]) (fun _ => scanText_code hcode) h ih
  case case8 offset e rest hcode hletter c hescape ih =>
    refine scanned_append (w := ['\\', e]) (fun more _ => ?_) h ih
    show scanText start offset ('\\' :: e :: more) = _
    rw [scanText, if_neg hletter, hescape]
    · rfl
    all_goals simp_all
  case case11 offset c rest hmark hslash hcode hescape hplain ih =>
    refine scanned_append (w := [c]) (fun more _ => ?_) h ih
    have hnoslash : c ≠ '\\' := by
      rintro rfl
      cases rest with
      | nil => exact hslash rfl rfl
      | cons e rest => exact hescape e rest rfl rfl
    show scanText start offset (c :: more) = _
    rw [scanText, if_neg hplain]
    · rfl
    all_goals simp_all
  all_goals cases h

/-- The brackets that close. -/
def isCloser (c : Char) : Bool := c == ']' || c == '\x7d'

/-- In front of a closing bracket a token is complete, unless it is a text that has gone wrong. -/
theorem token_append {closer : Char} (hcloser : isCloser closer = true) {offset : Nat} {c : Char}
    {front : List Char}
    (hfault : ∀ complaint place, (token offset c (front ++ [closer])).1 ≠ .fault complaint place) :
    (token offset c (front ++ [closer])).2 ≤ front.length ∧
      ∀ more, token offset c (front ++ closer :: more) = token offset c (front ++ [closer]) := by
  have hstop : isStop closer = true := by
    simp only [isCloser, Bool.or_eq_true, beq_iff_eq] at hcloser
    rcases hcloser with rfl | rfl <;> rfl
  have hquote : closer ≠ '"' := by
    rintro rfl
    cases hcloser
  by_cases hmark : isMark c = true
  · simp only [isMark, List.contains_eq_mem, List.mem_cons, List.not_mem_nil, or_false,
      decide_eq_true_eq] at hmark
    rcases hmark with rfl | rfl | rfl | rfl | rfl | rfl | rfl
    iterate 6 exact ⟨Nat.zero_le _, fun _ => rfl⟩
    simp only [token, Char.reduceEq, if_false, if_true] at hfault ⊢
    cases hscan : scanText offset (offset + 1) (front ++ [closer]) with
    | error e =>
      rw [hscan] at hfault
      exact absurd rfl (hfault _ _)
    | ok scanned =>
      obtain ⟨codes, after⟩ := scanned
      obtain ⟨body, rest, hbody, rfl, hmore⟩ := scanned_of_scanText hscan
      -- The closing bracket is no quotation mark, so the text ends in front of it.
      rcases List.eq_nil_or_concat rest with rfl | ⟨rest, d, rfl⟩
      · exact absurd (List.append_singleton_inj.mp hbody).2 hquote
      · rw [List.concat_eq_append, ← List.cons_append, ← List.append_assoc,
          List.append_singleton_inj] at hbody
        obtain ⟨rfl, -⟩ := hbody
        have hlength : (body ++ '"' :: rest).length = body.length + 1 + rest.length := by
          simp only [List.length_append, List.length_cons]
          omega
        refine ⟨by dsimp only; omega, fun more => ?_⟩
        rw [List.append_assoc, List.cons_append, hmore]
  · have hword := token_eq_word (Bool.eq_false_iff.mpr hmark) offset
    have hcloser (more : List Char) : word (c :: (front ++ closer :: more)) = word (c :: front) :=
      word_append (stopped_cons hstop more) (c :: front)
    rw [hword, hcloser]
    refine ⟨length_word_le c front, fun more => ?_⟩
    rw [hword, hcloser]

theorem tokensFrom_closer {closer : Char} (h : isCloser closer = true) :
    ∃ t, ∀ offset more,
      tokensFrom 0 offset (closer :: more) = (offset, t) :: tokensFrom 0 (offset + 1) more := by
  simp only [isCloser, Bool.or_eq_true, beq_iff_eq] at h
  rcases h with rfl | rfl
  · exact ⟨.closeArray, fun _ _ => rfl⟩
  · exact ⟨.closeObject, fun _ _ => rfl⟩

/-- A text that is read and ends with a closing bracket is read in front of anything. -/
theorem run_of_closed {closer : Char} (hcloser : isCloser closer = true) {front : List Char}
    {s s' : State} {skip offset : Nat} (hskip : skip ≤ front.length)
    (h : s.run (tokensFrom skip offset (front ++ [closer])) = .ok s') (more : List Char) :
    s.run (tokensFrom skip offset (front ++ closer :: more)) =
      s'.run (tokensFrom 0 (offset + front.length + 1) more) := by
  -- The reader never skips the closing bracket: no token in front of it reaches beyond it.
  induction front generalizing s skip offset with
  | nil =>
    obtain ⟨t, htokens⟩ := tokensFrom_closer hcloser
    obtain rfl := Nat.le_zero.mp hskip
    rw [List.nil_append, htokens, tokensFrom, State.run] at h
    rw [List.nil_append, htokens, State.run]
    split at h
    · next s₁ hstep =>
      rw [State.run] at h
      split at h
      · next s₂ hfinish =>
        obtain ⟨rfl, -⟩ := State.step_finish hfinish
        cases h
        rfl
      · cases h
    · cases h
  | cons c front ih =>
    have hlength : offset + (c :: front).length + 1 = offset + 1 + front.length + 1 := by
      rw [List.length_cons]
      omega
    rw [hlength]
    cases skip with
    | succ skip => exact ih (Nat.le_of_succ_le_succ hskip) h
    | zero =>
      rw [List.cons_append, tokensFrom] at h ⊢
      split
      · next hgap =>
        rw [if_pos hgap] at h
        exact ih (Nat.zero_le _) h
      · next hgap =>
        rw [if_neg hgap, State.run] at h
        split at h
        · next s₁ hstep =>
          obtain ⟨hmore, htoken⟩ := token_append hcloser fun complaint place hfault => by
            rw [hfault] at hstep
            exact State.step_fault _ _ _ _ hstep
          rw [htoken, State.run, hstep]
          exact ih hmore h
        · cases h

/-- A complete text goes on with nothing but gaps. -/
theorem eq_of_readChars_append {front more : List Char} {closer : Char} {v w : Json}
    (hcloser : isCloser closer = true) (h : readChars (front ++ [closer]) = .ok v)
    (hmore : readChars (front ++ closer :: more) = .ok w) :
    w = v ∧ ∀ c ∈ more, isGap c = true := by
  have hrun := run_of_closed hcloser (Nat.zero_le _) (run_tokens_of_readChars h) more
  have hall := run_tokens_of_readChars hmore
  rw [tokens, hrun] at hall
  obtain ⟨hstate, hgaps⟩ := gaps_of_run hall
  cases hstate
  exact ⟨rfl, hgaps⟩

/-! ### Words in front of brackets -/

/-- A word is a value or none, but in front of a bracket it cannot be the value of a text. -/
theorem readChars_words_ne_ok {c bracket : Char} {front rest : List Char} {v : Json}
    (hgap : isGap c = false) (harray : c ≠ '[') (hobject : c ≠ '\x7b') (htext : c ≠ '"')
    (hbracket : isMark bracket = true) (hbracket' : isGap bracket = false) :
    readChars (c :: (front ++ bracket :: rest)) ≠ .ok v := by
  intro h
  have hrun := run_tokens_of_readChars h
  rw [tokens, tokensFrom, if_neg (by simp [hgap]), State.run] at hrun
  by_cases hmark : isMark c = true
  · simp only [isMark, List.contains_eq_mem, List.mem_cons, List.not_mem_nil, or_false,
      decide_eq_true_eq, harray, hobject, htext, false_or] at hmark
    rcases hmark with rfl | rfl | rfl | rfl <;> cases hrun
  · have hstop : Stopped (bracket :: rest) := stopped_cons (by simp [isStop, hbracket]) rest
    have hword : word (c :: (front ++ bracket :: rest)) = word (c :: front) :=
      word_append hstop (c :: front)
    have hlength := length_word_le c front
    rw [token_eq_word (Bool.eq_false_iff.mpr hmark), hword] at hrun
    rcases word_cases (c :: front) with ⟨w, hfound⟩ | ⟨count, hfound⟩ | hfound
    · rw [hfound] at hrun
      -- The word is a value, and only gaps may follow it.
      obtain ⟨-, hgaps⟩ := gaps_of_run (show State.run ⟨.after w, []⟩ _ = _ from hrun)
      have hmem : bracket ∈ (front ++ bracket :: rest).drop (word (c :: front)).2 := by
        rw [List.drop_append_of_le_length hlength]
        simp
      exact absurd (hgaps bracket hmem) (by simp [hbracket'])
    · rw [hfound] at hrun
      cases hrun
    · rw [hfound] at hrun
      cases hrun

end PageScript.Json

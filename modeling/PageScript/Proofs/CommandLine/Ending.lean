import PageScript.Proofs.CommandLine.Rejection
import PageScript.Proofs.Value.Coercion

/-!
# How the reading of a command line ends

The reading gives arguments, or it stops at the first text that asks for help, or it stops at a raw
value that is an integer text beyond the limit, if it comes to one (`Reading`).  Only the first two
are ends that the program means: arguments, or an answer with an exit code of its own.

Which raw values are read before the end depends on the texts that ask for help.  Without one they
are all raw values of the scan and of the texts that it leaves over.  Otherwise they are those of
the switches in front of the first such text (`reached`).
-/

namespace PageScript

open PageScript.Number PageScript.Text

/-! ### Raw values that are not read -/

/-- The number of digits of an integer text. -/
def digitCount (raw : String) : Nat :=
  match integerText? (trimChars raw.toList) with
  | some (_, ds) => ds.length
  | none => 0

theorem overlong_iff {raw : String} : Overlong raw ↔ digitLimit < digitCount raw := by
  cases h : integerText? (trimChars raw.toList) with
  | some parts => simp [Overlong, digitCount, h]
  | none => simp [Overlong, digitCount, h]

/-- An integer text beyond the limit is not read. -/
theorem Value.ofRaw_of_overlong {raw : String} (h : Overlong raw) :
    Value.ofRaw raw = .error (.tooManyDigits (digitCount raw)) := by
  unfold Overlong at h
  split at h
  · next negative ds hds =>
    -- A word for a flag is no integer text.
    have hdigit := Value.exists_isDigit_of_integerText (integerText?_eq_some_iff.mp hds)
    rw [Value.ofRaw_of_not_flag (Value.not_inAnyCase_of_isDigit hdigit), hds, digitCount, hds]
    dsimp only
    rw [wholeNumber, if_neg (Nat.not_le.mpr h)]
    rfl
  · exact h.elim

/-- The first raw value beyond the limit decides how reading raw arguments fails. -/
theorem mapM_coerced_of_overlong {args : List Argument} {raw : String}
    (h : (rawValues args).find? (Overlong ·) = some raw) :
    args.mapM Argument.coerced = .error (.tooManyDigits (digitCount raw)) := by
  induction args with
  | nil => cases h
  | cons a args ih =>
    obtain ⟨name, value⟩ := a
    cases value with
    | text first =>
      change (first :: rawValues args).find? _ = _ at h
      by_cases hfirst : Overlong first
      · rw [List.find?_cons_of_pos (by simpa using hfirst)] at h
        cases h
        have hcoerced : Argument.coerced ⟨name, .text raw⟩ =
            .error (.tooManyDigits (digitCount raw)) := by
          rw [Argument.coerced, Value.coerce, Value.ofRaw_of_overlong hfirst]
          rfl
        rw [List.mapM_cons, hcoerced]
        rfl
      · rw [List.find?_cons_of_neg (by simpa using hfirst)] at h
        obtain ⟨v, hv⟩ := Value.ofRaw_of_not_overlong hfirst
        have hcoerced : Argument.coerced ⟨name, .text first⟩ = .ok ⟨name, v⟩ := by
          rw [Argument.coerced, Value.coerce, hv]
          rfl
        rw [List.mapM_cons, hcoerced, ih h]
        rfl
    | absent | flag | integer | decimal =>
      rw [List.mapM_cons, ih h]
      rfl

/-- Raw arguments among whose values none is beyond the limit are read. -/
theorem exists_values {args : List Argument}
    (h : (rawValues args).find? (Overlong ·) = none) :
    ∃ found, args.mapM Argument.coerced = .ok found :=
  mapM_coerced_of_not_overlong (by simpa using List.find?_eq_none.mp h)

theorem find?_overlong_eq_none {args found : List Argument}
    (h : args.mapM Argument.coerced = .ok found) :
    (rawValues args).find? (Overlong ·) = none := by
  cases hfirst : (rawValues args).find? (Overlong ·) with
  | none => rfl
  | some raw =>
    rw [mapM_coerced_of_overlong hfirst] at h
    cases h

namespace CommandLine

variable {argv : List String}

/-! ### Texts that ask for help -/

/-- The texts in front of the two dashes, up to the first that asks for help. -/
def heard (argv : List String) : List String :=
  (beforeDashes argv).takeWhile fun text => !AsksForHelp text

/-- The first text in front of the two dashes that asks for help. -/
def firstHelp? (argv : List String) : Option String :=
  (beforeDashes argv).find? (AsksForHelp ·)

/-- Behind the texts that are heard stands the first that asks for help. -/
theorem exists_beforeDashes_eq {text : String} (h : firstHelp? argv = some text) :
    ∃ behind, beforeDashes argv = heard argv ++ text :: behind := by
  obtain ⟨hhelp, front, behind, hsplit, hfront⟩ := List.find?_eq_some_iff_append.mp h
  refine ⟨behind, ?_⟩
  have hheard : (front ++ text :: behind).takeWhile (fun t => !decide (AsksForHelp t)) = front := by
    rw [List.takeWhile_append_of_pos hfront, List.takeWhile_cons, hhelp]
    exact List.append_nil front
  rw [heard, hsplit, hheard]

/-- What is heard is plain. -/
theorem plain_of_mem_heard {text : String} (h : text ∈ heard argv) : Plain text := by
  have hfront : text ∈ beforeDashes argv := List.takeWhile_subset _ h
  constructor
  · simpa using List.all_eq_true.mp List.all_takeWhile text hfront
  · simpa using List.all_eq_true.mp List.all_takeWhile text h

/-- Tokens are read up to a switch that takes no value. -/
theorem readTokens_append_stop (front behind : List Token) {kind : Switch} (glued : Option String)
    (hkind : ∀ name, kind ≠ .argument name) :
    readTokens (front ++ .switch kind glued :: behind) =
      (readTokens front >>= fun _ => .error (stopOf kind glued)) := by
  have hstop : readTokens (.switch kind glued :: behind) = .error (stopOf kind glued) := by
    cases kind with
    | argument name => exact absurd rfl (hkind name)
    | help | shortHelp | version => rfl
  fun_induction readTokens front with
  | case1 => exact hstop
  | case2 text rest ih | case3 text rest ih =>
    rw [List.cons_append, readTokens, ih]
    cases readTokens rest <;> rfl
  | case4 name raw rest ih =>
    rw [List.cons_append, readTokens, ih]
    cases argumentOf name (some raw) with
    | error stop => rfl
    | ok a => cases readTokens rest <;> rfl
  | case5 name text rest ih =>
    rw [List.cons_append, List.cons_append, readTokens, ih]
    cases argumentOf name (some text) with
    | error stop => rfl
    | ok a => cases readTokens rest <;> rfl
  | case6 name rest hrest ih =>
    rw [List.cons_append, readTokens, ih]
    · cases argumentOf name none with
      | error stop => rfl
      | ok a => cases readTokens rest <;> rfl
    · intro text more hword
      cases rest with
      | nil => cases hword
      | cons token rest => exact hrest text rest (by rw [(List.cons.inj hword).1])
  | case7 kind' glued' rest hglued _ hbare =>
    cases kind' with
    | argument name =>
      cases glued' with
      | some raw => exact (hglued name raw rfl rfl).elim
      | none => exact (hbare name rfl rfl).elim
    | help | shortHelp | version => rfl

/-! ### The ends of a reading -/

/-- The raw arguments whose values are read before the reading ends. -/
def reached (argv : List String) : List Argument :=
  match firstHelp? argv with
  | some _ => (scan (heard argv)).known
  | none => (scan argv).known ++ rawLeftovers (scan argv).extras

/-- How the reading of a command line ends. -/
inductive Reading (argv : List String) : Except Stop (List Argument) → Prop
  | arguments {args : List Argument} (silent : firstHelp? argv = none)
      (values : (reached argv).mapM Argument.coerced = .ok args) : Reading argv (.ok args)
  | answer {text : String} {kind : Switch} {glued : Option String} {found : List Argument}
      (first : firstHelp? argv = some text) (token : Token.ofText text = .switch kind glued)
      (values : (reached argv).mapM Argument.coerced = .ok found) :
      Reading argv (.error (stopOf kind glued))
  | overlong {raw : String} (first : (rawValues (reached argv)).find? (Overlong ·) = some raw) :
      Reading argv (.error (.number (.tooManyDigits (digitCount raw))))

/-- Without a text that asks for help, everything that is found is read. -/
theorem read_of_silent (h : firstHelp? argv = none) :
    read argv = ((reached argv).mapM Argument.coerced).mapError .number := by
  have hhelp : ∀ text ∈ beforeDashes argv, ¬ AsksForHelp text := by
    simpa using List.find?_eq_none.mp h
  rw [read_eq_coerced hhelp, leftovers_eq, reached, h]
  dsimp only
  rw [List.mapM_append]

/-- With a text that asks for help, the reading stops there at the latest. -/
theorem read_of_help {text : String} {kind : Switch} {glued : Option String}
    (h : firstHelp? argv = some text) (htoken : Token.ofText text = .switch kind glued)
    (hkind : ∀ name, kind ≠ .argument name) :
    read argv =
      (((reached argv).mapM Argument.coerced).mapError .number >>= fun _ =>
        .error (stopOf kind glued)) := by
  obtain ⟨behind, hsplit⟩ := exists_beforeDashes_eq h
  rw [read, hsplit, List.map_append, List.map_cons, htoken, readTokens_append_stop _ _ _ hkind,
    readTokens_map_ofText fun text => plain_of_mem_heard, Scan.coerced, reached, h]
  dsimp only
  cases (scan (heard argv)).known.mapM Argument.coerced <;> rfl

/-- The text that asks for help first has a token that is no switch for an argument. -/
theorem exists_token_of_firstHelp? {text : String} (h : firstHelp? argv = some text) :
    ∃ kind glued, Token.ofText text = .switch kind glued ∧ ∀ name, kind ≠ .argument name :=
  asksForHelp_iff.mp (by simpa using List.find?_some h)

/-- A value that is not read stops the reading, whether help is asked for behind it or not. -/
theorem read_of_overlong {raw : String}
    (h : (rawValues (reached argv)).find? (Overlong ·) = some raw) :
    read argv = .error (.number (.tooManyDigits (digitCount raw))) := by
  have hvalues := mapM_coerced_of_overlong h
  cases hhelp : firstHelp? argv with
  | none =>
    rw [read_of_silent hhelp, hvalues]
    rfl
  | some text =>
    obtain ⟨kind, glued, htoken, hkind⟩ := exists_token_of_firstHelp? hhelp
    rw [read_of_help hhelp htoken hkind, hvalues]
    rfl

theorem reading_read (argv : List String) : Reading argv (read argv) := by
  cases hfirst : (rawValues (reached argv)).find? (Overlong ·) with
  | some raw =>
    rw [read_of_overlong hfirst]
    exact .overlong hfirst
  | none =>
    obtain ⟨found, hvalues⟩ := exists_values hfirst
    cases hhelp : firstHelp? argv with
    | none =>
      rw [read_of_silent hhelp, hvalues]
      exact .arguments hhelp hvalues
    | some text =>
      obtain ⟨kind, glued, htoken, hkind⟩ := exists_token_of_firstHelp? hhelp
      rw [read_of_help hhelp htoken hkind, hvalues]
      exact .answer hhelp htoken hvalues

/-! ### Ends that are meant -/

/-- An answer that the program means: help or the version with exit code zero, or a complaint about
a misuse with exit code two. -/
def Stop.IsMeant (stop : Stop) : Prop :=
  (stop = .help ∨ stop = .version) ∧ stop.exitCode = 0 ∨
    (∃ kind glued, stop = .misuse kind glued) ∧ stop.exitCode = 2

theorem isMeant_stopOf (kind : Switch) (glued : Option String) : (stopOf kind glued).IsMeant := by
  have hmisuse (glued : String) : (Stop.misuse kind glued).IsMeant := .inr ⟨⟨kind, glued, rfl⟩, rfl⟩
  have hhelp : Stop.help.IsMeant := .inl ⟨.inl rfl, rfl⟩
  unfold stopOf
  split
  · exact .inl ⟨.inr rfl, rfl⟩
  · split
    · exact hmisuse _
    · dsimp only
      split
      · exact hhelp
      · exact hmisuse _
  · exact hmisuse _
  · exact hhelp

/-- Arguments, or an answer that the program means. -/
def IsMeant (result : Except Stop (List Argument)) : Prop :=
  (∃ args, result = .ok args) ∨ ∃ stop, result = .error stop ∧ stop.IsMeant

theorem not_isMeant_number (issue : Issue) : ¬ IsMeant (.error (.number issue)) := by
  rintro (⟨args, hargs⟩ | ⟨stop, hstop, ⟨-, hcode⟩ | ⟨-, hcode⟩⟩)
  · cases hargs
  · cases hstop
    cases hcode
  · cases hstop
    cases hcode

/-- **How a reading ends.**  The reading of a command line gives arguments or an answer that the
program means if and only if it comes to no raw value that is an integer text beyond the limit.  If
it comes to one, then the first of them stops it with a number that is not read. -/
theorem read_isMeant_iff (argv : List String) :
    (IsMeant (read argv) ↔ ∀ raw ∈ rawValues (reached argv), ¬ Overlong raw) ∧
      ∀ raw, (rawValues (reached argv)).find? (Overlong ·) = some raw →
        read argv = .error (.number (.tooManyDigits (digitCount raw))) := by
  refine ⟨?_, fun raw => read_of_overlong⟩
  have hreading := reading_read argv
  generalize read argv = result at hreading ⊢
  constructor
  · intro hmeant raw hraw hoverlong
    cases hreading with
    | arguments _ values | answer _ _ values =>
      have hnone := List.find?_eq_none.mp (find?_overlong_eq_none values) raw hraw
      exact hnone (by simpa using hoverlong)
    | overlong => exact not_isMeant_number _ hmeant
  · intro hvalues
    cases hreading with
    | arguments => exact .inl ⟨_, rfl⟩
    | answer => exact .inr ⟨_, rfl, isMeant_stopOf _ _⟩
    | @overlong raw first =>
      have hoverlong : Overlong raw := by simpa using List.find?_some first
      exact absurd hoverlong (hvalues raw (List.mem_of_find?_eq_some first))

/-- A text of so many digits. -/
def ones (n : Nat) : String := String.ofList (List.replicate n '1')

theorem digitCount_ones (n : Nat) : digitCount (ones (n + 1)) = n + 1 := by
  have htrim : trimChars (ones (n + 1)).toList = List.replicate (n + 1) '1' := by
    have hblank : isBlank '1' = false := by decide
    simp [ones, trimChars, trimLeft, trimRight, hblank]
  have hdigits (n : Nat) : (List.replicate n '1').mapM digitValue = some (List.replicate n 1) := by
    induction n with
    | zero => rfl
    | succ n ih =>
      rw [List.replicate_succ, List.mapM_cons, ih]
      rfl
  have hinteger : integerText? (List.replicate (n + 1) '1') =
      some (false, List.replicate (n + 1) 1) := by
    show ((List.replicate (n + 1) '1').mapM digitValue).map _ = _
    rw [hdigits]
    rfl
  rw [digitCount, htrim, hinteger]
  exact List.length_replicate

/-- Behind a switch for an argument, digits are its value. -/
theorem read_sleep_ones {n : Nat} (h : digitLimit ≤ n) :
    read ["--sleep", ones (n + 1)] = .error (.number (.tooManyDigits (n + 1))) := by
  have hchars : (ones (n + 1)).toList = '1' :: List.replicate n '1' := by
    rw [ones, String.toList_ofList, List.replicate_succ]
  have hdashes : ones (n + 1) ≠ "--" := by
    intro heq
    have hhead := congrArg (·.toList.head?) heq
    simp [hchars] at hhead
  have hbefore : beforeDashes ["--sleep", ones (n + 1)] = ["--sleep", ones (n + 1)] := by
    simp [beforeDashes, hdashes]
  have hword : Token.ofText (ones (n + 1)) = .word (ones (n + 1)) := by
    unfold Token.ofText
    rw [hchars]
    rfl
  have hoverlong : Overlong (ones (n + 1)) := by
    rw [overlong_iff, digitCount_ones]
    exact Nat.lt_succ_of_le h
  rw [read, hbefore]
  simp only [List.map_cons, List.map_nil, hword]
  show (argumentOf "sleep" (some (ones (n + 1))) >>= _) >>= _ = _
  rw [argumentOf, if_neg hdashes, argumentOfRaw, Value.ofRaw_of_overlong hoverlong, digitCount_ones]
  rfl

/-- A time to sleep with one digit more than the limit gives neither arguments nor an answer. -/
theorem read_of_long_number :
    read ["--sleep", ones 4301] = .error (.number (.tooManyDigits 4301)) ∧
      ¬ IsMeant (read ["--sleep", ones 4301]) := by
  have hread : read ["--sleep", ones 4301] = .error (.number (.tooManyDigits 4301)) :=
    read_sleep_ones (by decide)
  constructor
  · exact hread
  · rw [hread]
    exact not_isMeant_number _

end CommandLine
end PageScript

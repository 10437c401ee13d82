import PageScript.Proofs.Model.Envelope
import PageScript.Proofs.Model.VerdictGrammar
import PageScript.Proofs.Number.Spelling
import PageScript.Proofs.Text.Lowercase
import PageScript.Value.Coercion

/-!
# The grammar of raw values

A raw text is read without the blanks around it: as a flag if it is one of two words in letters of
any case, as a whole number if it is an integer text, as a decimal number if it is another decimal
text, and as itself, blanks included, if it is none of these (`Reads`).  The classes do not overlap,
since words hold no digit and numbers hold one.

What `ofRaw` gives follows this grammar (`reads_of_ofRaw`), and it gives what the grammar says unless
an integer text is too long (`ofRaw_of_reads`).
-/

namespace PageScript.Text

/-! ### Words of plain letters -/

/-- A small letter of ASCII that no character beyond ASCII is lowered to, alone or with a mark. -/
def isPlain (d : Char) : Bool :=
  0x61 ≤ d.toNat && d.toNat ≤ 0x7a && d != 'i' &&
    caseRuns.all fun r => r.last.blt 0x80 || r.isApart (d.toNat, d.toNat)

theorem toNat_of_isPlain {d : Char} (hd : isPlain d = true) :
    0x61 ≤ d.toNat ∧ d.toNat ≤ 0x7a := by
  simp only [isPlain, Bool.and_eq_true, decide_eq_true_eq] at hd
  exact hd.1.1

/-- No letter beyond ASCII is lowered to a plain letter. -/
theorem CaseRun.lowered_ne_of_isPlain {d : Char} (hd : isPlain d = true) {r : CaseRun} {n : Nat}
    (hmem : r ∈ caseRuns) (hn : r.holds n = true) (hascii : ¬ n < 0x80) :
    Char.ofNat (Int.toNat (n + r.shift)) ≠ d := by
  intro hlead
  replace hlead := congrArg Char.toNat hlead
  rw [toNat_lowered hmem hn] at hlead
  have hlast : n ≤ r.last := by
    simp only [holds, Bool.and_eq_true, decide_eq_true_eq] at hn
    exact hn.1.2
  simp only [isPlain, Bool.and_eq_true, List.all_eq_true, Bool.or_eq_true, Nat.blt_eq] at hd
  rcases hd.2 r hmem with hbelow | hapart
  · omega
  · exact not_mem_of_isApart hn hapart (by omega)

/-- Only a plain letter and its capital are lowered to it. -/
theorem lowerChar_eq_singleton_iff {d : Char} (hd : isPlain d = true) (c : Char) :
    lowerChar c = [d] ↔ c = d ∨ c = d.toUpper := by
  obtain ⟨hlow, hhigh⟩ := toNat_of_isPlain hd
  have hupper : d.toUpper.toNat = d.toNat - 32 := by
    rw [Model.toNat_toUpper, if_pos (by omega)]
  have hbeyond (hc : ¬ c.toNat < 0x80) : ¬ (c = d ∨ c = d.toUpper) := by
    simp only [← Char.toNat_inj, hupper]
    omega
  unfold lowerChar
  split
  · rw [List.singleton_inj]
    simp only [← Char.toNat_inj, hupper, Bool.and_eq_true, decide_eq_true_eq]
    split
    · next hcapital =>
      have hholds : CaseRun.holds ⟨0x41, 0x5a, 1, 32⟩ c.toNat = true := by
        simpa [CaseRun.holds, Nat.mod_one] using hcapital
      have hlowered : (Char.ofNat (c.toNat + 32)).toNat = c.toNat + 32 :=
        CaseRun.toNat_lowered (.head _) hholds
      rw [hlowered]
      omega
    · omega
  split
  · next hascii _ => exact iff_of_false (by simp) (hbeyond hascii)
  split
  · next hascii _ _ r hfind =>
    refine iff_of_false (fun h => ?_) (hbeyond hascii)
    have hholds : r.holds c.toNat = true :=
      List.find?_some (p := fun r : CaseRun => r.holds c.toNat) hfind
    exact CaseRun.lowered_ne_of_isPlain hd (List.mem_of_find?_eq_some hfind) hholds hascii
      (List.singleton_inj.mp h)
  · next hascii _ _ _ =>
    exact iff_of_false (fun h => hbeyond hascii (.inl (List.singleton_inj.mp h))) (hbeyond hascii)

theorem ne_of_isPlain {d e : Char} (hd : isPlain d = true) (he : isPlain e = false) : e ≠ d := by
  rintro rfl
  rw [hd] at he
  cases he

/-- A text is a word of plain letters in lower case only if it consists of these and their
capitals. -/
theorem lowerAfter_eq_iff {word : List Char} (hword : ∀ d ∈ word, isPlain d = true) (cased : Bool)
    (cs : List Char) :
    lowerAfter cased cs = word ↔ List.Forall₂ (fun c d => c = d ∨ c = d.toUpper) cs word := by
  induction cs generalizing cased word with
  | nil => cases word <;> simp [lowerAfter]
  | cons c cs ih =>
    rw [lowerAfter]
    cases word with
    | nil =>
      refine iff_of_false (fun h => ?_) fun h => by cases h
      have hpiece := (List.append_eq_nil_iff.mp h).1
      split at hpiece
      · cases hpiece
      · rcases lowerChar_cases c with ⟨e, he⟩ | he <;> rw [he] at hpiece <;> cases hpiece
    | cons d word =>
      obtain ⟨hd, hword⟩ := List.forall_mem_cons.mp hword
      rw [List.forall₂_cons, ← lowerChar_eq_singleton_iff hd,
        ← ih hword (if isCaseless c then cased else isCased c)]
      split
      · next hsigma =>
        -- A sigma becomes one of its two small letters, neither of which is plain.
        have hsmall : lowerChar 'Σ' = ['σ'] := by decide +kernel
        have hsigma' := ne_of_isPlain hd (e := 'σ') (by decide +kernel)
        have hfinal := ne_of_isPlain hd (e := 'ς') (by decide +kernel)
        rw [hsigma, hsmall]
        refine iff_of_false (fun h => ?_) fun h => hsigma' (List.singleton_inj.mp h.1)
        have hhead := (List.cons.inj h).1
        split at hhead
        · exact hfinal hhead
        · exact hsigma' hhead
      · rcases lowerChar_cases c with ⟨e, he⟩ | he
        · rw [he, List.singleton_append, List.cons.injEq, List.singleton_inj]
        · have hdotted := ne_of_isPlain hd (e := 'i') (by decide +kernel)
          rw [he]
          exact iff_of_false (fun h => hdotted (List.cons.inj h).1) fun h => by cases h.1

end PageScript.Text

namespace PageScript.Value

open PageScript.Json (isAsciiDigit_of_mem_toDigits ofDigits_toDigits)
open PageScript.Model (InAnyCase)
open PageScript.Number PageScript.Text

/-- The word for a flag. -/
def flagWord : Bool → String
  | true => "true"
  | false => "false"

/-- What a raw text is read as. -/
inductive Reads (raw : String) : Value → Prop
  | flag (b : Bool) (h : InAnyCase (trim raw) (flagWord b)) : Reads raw (.flag b)
  | integer {negative : Bool} {ds : List Nat}
      (h : IntegerText (trimChars raw.toList) negative ds) :
      Reads raw (.integer (signed negative (Nat.ofDigits 10 ds.reverse)))
  | decimal {x : DecimalText} (h : DecimalSpelling (trimChars raw.toList) x)
      (hinteger : ∀ negative ds, ¬ IntegerText (trimChars raw.toList) negative ds) :
      Reads raw (.decimal x.toFloat)
  | text (hflag : ∀ b, ¬ InAnyCase (trim raw) (flagWord b))
      (hinteger : ∀ negative ds, ¬ IntegerText (trimChars raw.toList) negative ds)
      (hdecimal : ∀ x, ¬ DecimalSpelling (trimChars raw.toList) x) : Reads raw (.text raw)

/-- A text that is no integer text beyond the limit. -/
def WithinLimit (raw : String) : Prop :=
  ∀ negative ds, IntegerText (trimChars raw.toList) negative ds → ds.length ≤ digitLimit

variable {raw : String} {cs : List Char} {v : Value} {b : Bool}

/-! ### Words and numbers -/

theorem isPlain_of_mem_flagWord (b : Bool) : ∀ d ∈ (flagWord b).toList, isPlain d = true := by
  have hall : (flagWord b).toList.all isPlain = true := by cases b <;> decide +kernel
  exact List.all_eq_true.mp hall

theorem lowerChars_eq_flagWord_iff :
    lowerChars (trimChars raw.toList) = (flagWord b).toList ↔
      InAnyCase (trim raw) (flagWord b) := by
  rw [lowerChars, lowerAfter_eq_iff (isPlain_of_mem_flagWord b), InAnyCase, trim,
    String.toList_ofList]

/-- A word for a flag holds no digit. -/
theorem not_isDigit_of_inAnyCase (h : InAnyCase (trim raw) (flagWord b)) :
    ∀ c ∈ trimChars raw.toList, isDigit c = false := by
  have hletters : (flagWord b).toList.all (fun d => !isDigit d && !isDigit d.toUpper) = true := by
    cases b <;> decide +kernel
  rw [InAnyCase, trim, String.toList_ofList] at h
  generalize (flagWord b).toList = word at h hletters
  generalize trimChars raw.toList = cs at h ⊢
  induction h with
  | nil => exact List.forall_mem_nil _
  | cons hcd _ ih =>
    simp only [List.all_cons, Bool.and_eq_true, Bool.not_eq_true'] at hletters
    obtain ⟨⟨hd, hupper⟩, hletters⟩ := hletters
    refine List.forall_mem_cons.mpr ⟨?_, ih hletters⟩
    rcases hcd with rfl | rfl
    · exact hd
    · exact hupper

/-- A number holds a digit. -/
theorem exists_isDigit_of_spells {ds : List Nat} (hne : cs ≠ []) (hcs : Spells cs ds) :
    ∃ c ∈ cs, isDigit c = true := by
  obtain ⟨c, cs, rfl⟩ := List.exists_cons_of_ne_nil hne
  exact ⟨c, .head _, hcs.isDigit c (.head _)⟩

theorem exists_isDigit_of_integerText {negative : Bool} {ds : List Nat}
    (h : IntegerText cs negative ds) : ∃ c ∈ cs, isDigit c = true := by
  obtain ⟨hsign, hne, hcs⟩ := h
  obtain ⟨c, hc, hdigit⟩ := exists_isDigit_of_spells hne hcs
  exact ⟨c, by simp [hc], hdigit⟩

theorem exists_isDigit_of_decimalSpelling {x : DecimalText} (h : DecimalSpelling cs x) :
    ∃ c ∈ cs, isDigit c = true := by
  cases h with
  | whole hsign hne hcs htail =>
    obtain ⟨c, hc, hdigit⟩ := exists_isDigit_of_spells hne hcs
    exact ⟨c, by simp [hc], hdigit⟩
  | pointed hsign hne hcs htail =>
    obtain ⟨c, hc, hdigit⟩ := exists_isDigit_of_spells hne hcs
    refine ⟨c, ?_, hdigit⟩
    rcases List.mem_append.mp hc with hc | hc <;> simp [hc]

/-- No word for a flag is a number. -/
theorem not_inAnyCase_of_isDigit (h : ∃ c ∈ trimChars raw.toList, isDigit c = true) (b : Bool) :
    ¬ InAnyCase (trim raw) (flagWord b) := by
  obtain ⟨c, hc, hdigit⟩ := h
  intro hword
  rw [not_isDigit_of_inAnyCase hword c hc] at hdigit
  cases hdigit

/-! ### Reading -/

theorem ofRaw_of_flag (h : InAnyCase (trim raw) (flagWord b)) : ofRaw raw = .ok (.flag b) := by
  rw [← lowerChars_eq_flagWord_iff] at h
  have hfalse : (flagWord false).toList ≠ ['t', 'r', 'u', 'e'] := by decide
  rw [ofRaw, ofTrimmed?, h]
  cases b with
  | true => rfl
  | false =>
    rw [if_neg hfalse]
    rfl

/-- What is no word for a flag is read as a number if it is one. -/
theorem ofRaw_of_not_flag (h : ∀ b, ¬ InAnyCase (trim raw) (flagWord b)) :
    ofRaw raw = match integerText? (trimChars raw.toList) with
      | some (negative, ds) => (wholeNumber negative ds).map .integer
      | none => .ok (((decimalText? (trimChars raw.toList)).map fun x => .decimal x.toFloat).getD
          (.text raw)) := by
  have hword (b : Bool) : lowerChars (trimChars raw.toList) ≠ (flagWord b).toList :=
    mt lowerChars_eq_flagWord_iff.mp (h b)
  have htrue : lowerChars (trimChars raw.toList) ≠ ['t', 'r', 'u', 'e'] := hword true
  have hfalse : lowerChars (trimChars raw.toList) ≠ ['f', 'a', 'l', 's', 'e'] := hword false
  rw [ofRaw, ofTrimmed?, if_neg htrue, if_neg hfalse]
  cases integerText? (trimChars raw.toList) with
  | none => rfl
  | some parts =>
    obtain ⟨negative, ds⟩ := parts
    dsimp only
    cases wholeNumber negative ds <;> rfl

theorem reads_of_ofRaw (h : ofRaw raw = .ok v) : Reads raw v := by
  by_cases hflag : ∃ b, InAnyCase (trim raw) (flagWord b)
  · obtain ⟨b, hb⟩ := hflag
    rw [ofRaw_of_flag hb] at h
    cases h
    exact .flag b hb
  replace hflag := not_exists.mp hflag
  rw [ofRaw_of_not_flag hflag] at h
  cases hinteger : integerText? (trimChars raw.toList) with
  | some parts =>
    obtain ⟨negative, ds⟩ := parts
    simp only [hinteger, wholeNumber, ofDigits_eq] at h
    split at h
    · cases h
      exact .integer (integerText?_eq_some_iff.mp hinteger)
    · cases h
  | none =>
    rw [hinteger] at h
    have hnone (negative : Bool) (ds : List Nat) :
        ¬ IntegerText (trimChars raw.toList) negative ds := by
      rw [← integerText?_eq_some_iff, hinteger]
      exact (Option.some_ne_none _).symm
    cases hdecimal : decimalText? (trimChars raw.toList) with
    | some x =>
      rw [hdecimal] at h
      cases h
      exact .decimal (decimalText?_eq_some_iff.mp hdecimal) hnone
    | none =>
      rw [hdecimal] at h
      cases h
      refine .text hflag hnone fun x => ?_
      rw [← decimalText?_eq_some_iff, hdecimal]
      exact (Option.some_ne_none _).symm

theorem integerText?_eq_none (h : ∀ negative ds, ¬ IntegerText cs negative ds) :
    integerText? cs = none :=
  Option.eq_none_iff_forall_ne_some.mpr fun parts hparts =>
    h parts.1 parts.2 (integerText?_eq_some_iff.mp hparts)

theorem ofRaw_of_reads (hlimit : WithinLimit raw) (h : Reads raw v) : ofRaw raw = .ok v := by
  cases h with
  | flag b hb => exact ofRaw_of_flag hb
  | @integer negative ds hinteger =>
    rw [ofRaw_of_not_flag (not_inAnyCase_of_isDigit (exists_isDigit_of_integerText hinteger)),
      integerText?_eq_some_iff.mpr hinteger]
    dsimp only
    rw [wholeNumber, if_pos (hlimit negative ds hinteger), ofDigits_eq]
    rfl
  | decimal hdecimal hinteger =>
    rw [ofRaw_of_not_flag (not_inAnyCase_of_isDigit (exists_isDigit_of_decimalSpelling hdecimal)),
      integerText?_eq_none hinteger, decimalText?_eq_some_iff.mpr hdecimal]
    rfl
  | text hflag hinteger hdecimal =>
    have hnone : decimalText? (trimChars raw.toList) = none :=
      Option.eq_none_iff_forall_ne_some.mpr fun x hx => hdecimal x (decimalText?_eq_some_iff.mp hx)
    rw [ofRaw_of_not_flag hflag, integerText?_eq_none hinteger, hnone]
    rfl

/-- Every raw text is read as something. -/
theorem exists_reads (raw : String) : ∃ v, Reads raw v := by
  by_cases hflag : ∃ b, InAnyCase (trim raw) (flagWord b)
  · obtain ⟨b, hb⟩ := hflag
    exact ⟨_, .flag b hb⟩
  by_cases hinteger : ∃ negative ds, IntegerText (trimChars raw.toList) negative ds
  · obtain ⟨negative, ds, htext⟩ := hinteger
    exact ⟨_, .integer htext⟩
  replace hinteger : ∀ negative ds, ¬ IntegerText (trimChars raw.toList) negative ds :=
    fun negative ds htext => hinteger ⟨negative, ds, htext⟩
  by_cases hdecimal : ∃ x, DecimalSpelling (trimChars raw.toList) x
  · obtain ⟨x, hx⟩ := hdecimal
    exact ⟨_, .decimal hx hinteger⟩
  · exact ⟨_, .text (not_exists.mp hflag) hinteger (not_exists.mp hdecimal)⟩

theorem coerce_coerce (v : Value) : v.coerce >>= coerce = v.coerce := by
  cases v with
  | text raw =>
    show ofRaw raw >>= coerce = ofRaw raw
    cases h : ofRaw raw with
    | error issue => rfl
    | ok u =>
      show coerce u = .ok u
      cases reads_of_ofRaw h with
      | text _ _ _ => exact h
      | flag _ _ => rfl
      | integer _ => rfl
      | decimal _ _ => rfl
  | absent => rfl
  | flag b => rfl
  | integer n => rfl
  | decimal x => rfl

/-! ### Written numbers -/

theorem isDigitOf_of_isAsciiDigit {c : Char} (h : Json.isAsciiDigit c = true) :
    IsDigitOf c (c.toNat - 48) := by
  simp only [Json.isAsciiDigit, Bool.and_eq_true, decide_eq_true_eq] at h
  have hfrom : 48 ≤ c.toNat := UInt32.le_iff_toNat_le.mp h.1
  have hto : c.toNat ≤ 57 := UInt32.le_iff_toNat_le.mp h.2
  exact ⟨0x30, .head _, by omega, by omega⟩

theorem spells_toDigits (m : Nat) :
    Spells (Nat.toDigits 10 m) (Json.asciiDigits (Nat.toDigits 10 m)) := by
  rw [Spells, Json.asciiDigits, List.forall₂_map_right_iff, List.forall₂_same]
  exact fun c hc => isDigitOf_of_isAsciiDigit (isAsciiDigit_of_mem_toDigits hc)

/-- A written whole number is an integer text. -/
theorem integerText_writeInt (n : Int) :
    IntegerText (writeInt n).toList (n < 0) (Json.asciiDigits (Nat.toDigits 10 n.natAbs)) := by
  have hne : Nat.toDigits 10 n.natAbs ≠ [] := List.ne_nil_of_length_pos Nat.length_toDigits_pos
  by_cases hn : n < 0
  · have hwritten : (writeInt n).toList = ['-'] ++ Nat.toDigits 10 n.natAbs := by
      simp [writeInt, hn, String.toList_append]
    rw [hwritten, decide_eq_true hn]
    exact .intro .minus hne (spells_toDigits _)
  · have hwritten : (writeInt n).toList = [] ++ Nat.toDigits 10 n.natAbs := by
      simp [writeInt, hn]
    rw [hwritten, decide_eq_false hn]
    exact .intro .none hne (spells_toDigits _)

/-- A whole number is read from its written form, whatever blanks stand around it. -/
theorem ofRaw_writeInt {n : Int} {front back : String}
    (hfront : ∀ c ∈ front.toList, isBlank c = true) (hback : ∀ c ∈ back.toList, isBlank c = true)
    (hlimit : (Nat.toDigits 10 n.natAbs).length ≤ digitLimit) :
    ofRaw (front ++ writeInt n ++ back) = .ok (.integer n) := by
  have hedged := Model.edged_of_isNumeral (Json.writeInt_ne_nil n) (Json.isNumeral_writeInt n)
  have htrim : trimChars (front ++ writeInt n ++ back).toList = (writeInt n).toList := by
    rw [String.toList_append, String.toList_append, hedged.trimChars_append,
      trimLeft_of_blank hfront, trimRight_of_blank hback, List.nil_append, List.append_nil]
  have hinteger := integerText_writeInt n
  rw [← htrim] at hinteger
  have hwithin : WithinLimit (front ++ writeInt n ++ back) := by
    intro negative ds h
    have hsame := integerText?_eq_some_iff.mpr hinteger
    rw [integerText?_eq_some_iff.mpr h] at hsame
    cases hsame
    rwa [Json.asciiDigits, List.length_map]
  have hvalue : signed (n < 0)
      (Nat.ofDigits 10 (Json.asciiDigits (Nat.toDigits 10 n.natAbs)).reverse) = n := by
    rw [← ofDigits_eq, ofDigits_toDigits, signed]
    simp only [decide_eq_true_eq]
    omega
  have hreads := Reads.integer hinteger
  rw [hvalue] at hreads
  exact ofRaw_of_reads hwithin hreads

/-- A raw text that is no integer text beyond the limit has a value, and this is the one that the
grammar gives it.  Whole numbers are read from their written form with blanks around it, and a value
that has been read stays as it is when it is read again. -/
theorem coerce_eq_ok_iff_reads :
    (∀ raw, WithinLimit raw →
      (∃ v, coerce (.text raw) = .ok v) ∧ ∀ v, coerce (.text raw) = .ok v ↔ Reads raw v) ∧
    (∀ (n : Int) (front back : String), (∀ c ∈ front.toList, isBlank c = true) →
      (∀ c ∈ back.toList, isBlank c = true) → (Nat.toDigits 10 n.natAbs).length ≤ digitLimit →
      coerce (.text (front ++ writeInt n ++ back)) = .ok (.integer n)) ∧
    ∀ v : Value, v.coerce >>= coerce = v.coerce := by
  refine ⟨fun raw hlimit => ⟨?_, fun v => ⟨reads_of_ofRaw, ofRaw_of_reads hlimit⟩⟩,
    fun n front back hfront hback hlimit => ofRaw_writeInt hfront hback hlimit, coerce_coerce⟩
  obtain ⟨v, hv⟩ := exists_reads raw
  exact ⟨v, ofRaw_of_reads hlimit hv⟩

/-- Arabic digits between blanks, and a written number between blanks. -/
theorem coerce_eq_ok_iff_reads_of_scripts :
    coerce (.text " -\u0664\u0662\n") = .ok (.integer (-42)) ∧
      coerce (.text ("\t" ++ writeInt (-7) ++ "\u3000")) = .ok (.integer (-7)) := by
  obtain ⟨hgrammar, hwritten, -⟩ := coerce_eq_ok_iff_reads
  have hparts : integerText? (trimChars " -\u0664\u0662\n".toList) = some (true, [4, 2]) := by
    decide +kernel
  have hlimit : WithinLimit " -\u0664\u0662\n" := by
    intro negative ds h
    have hsame := integerText?_eq_some_iff.mpr h
    rw [hparts] at hsame
    cases hsame
    decide
  have hreads := Reads.integer (integerText?_eq_some_iff.mp hparts)
  have hvalue : signed true (Nat.ofDigits 10 [4, 2].reverse) = -42 := by decide
  rw [hvalue] at hreads
  exact ⟨((hgrammar _ hlimit).2 _).mpr hreads,
    hwritten (-7) _ _ (List.all_eq_true.mp rfl) (List.all_eq_true.mp rfl) (by decide)⟩

end PageScript.Value

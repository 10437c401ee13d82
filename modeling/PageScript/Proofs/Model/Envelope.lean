import PageScript.Proofs.Json.Numeral
import PageScript.Proofs.Json.Printing
import PageScript.Proofs.Model.FirstBlock
import PageScript.Proofs.Model.Unfence

/-!
# Printed values in envelopes

A model may put blanks around a value that it has printed, a fence, or, if the value is an array or
object, words.  `Envelops v t cs` says that the characters `cs` are the text `t` of the value with
such an envelope.  None of it is taken for a part of the value, nor a part of the value for an
envelope, so what is extracted is the value (`extract_of_envelops`).
-/

namespace PageScript.Model

open PageScript.Json PageScript.Text PageScript.Number

variable {v w : Json} {p q t cs : List Char} {opener closer : Char} {style : Style}

/-- A text of a value with blanks around it, in a fence with blanks around that, or among words.
Words in front of an array or object have no bracket or quotation mark that opens something, and
those behind it do not have its own closing bracket. -/
inductive Envelops (v : Json) (t : List Char) : List Char → Prop
  | blanks {front back : List Char} (hfront : ∀ c ∈ front, isBlank c = true)
    (hback : ∀ c ∈ back, isBlank c = true) : Envelops v t (front ++ t ++ back)
  | fenced {front info back : List Char} (hfront : ∀ c ∈ front, isBlank c = true)
    (hinfo : ∀ c ∈ info, isInfoChar c = true) (hback : ∀ c ∈ back, isBlank c = true) :
    Envelops v t (front ++ (fence ++ info ++ '\n' :: (t ++ '\n' :: fence)) ++ back)
  | words {p q : List Char} {opener closer : Char}
    (hbrackets : v.brackets? = some (opener, closer)) (hobject : '\x7b' ∉ p) (harray : '[' ∉ p)
    (htext : '"' ∉ p) (hq : closer ∉ q) : Envelops v t (p ++ t ++ q)

/-! ### The edges of printed values -/

theorem isEdge_of_isNumeralChar {c : Char} (h : isNumeralChar c = true) : isEdge c = true := by
  rw [isNumeralChar, Bool.or_eq_true] at h
  rcases h with hdigit | hother
  · simp only [isAsciiDigit, Bool.and_eq_true, decide_eq_true_eq] at hdigit
    have hfrom : 48 ≤ c.toNat := UInt32.le_iff_toNat_le.mp hdigit.1
    have hto : c.toNat ≤ 57 := UInt32.le_iff_toNat_le.mp hdigit.2
    have hfence : c ≠ '\x60' := by
      rintro rfl
      exact absurd hto (by decide)
    simp only [isEdge, isBlank, inRanges, blankRanges, List.any_cons, List.any_nil, Bool.or_false,
      Bool.and_eq_true, bne_iff_ne, Bool.not_eq_true', Bool.or_eq_false_iff,
      Bool.and_eq_false_iff, decide_eq_false_iff_not]
    exact ⟨by omega, hfence⟩
  · simp only [List.contains_eq_mem, List.mem_cons, List.not_mem_nil, or_false,
      decide_eq_true_eq] at hother
    rcases hother with rfl | rfl | rfl | rfl | rfl | rfl | rfl | rfl | rfl | rfl | rfl | rfl <;>
      decide

theorem edged_of_isNumeral (hne : cs ≠ []) (h : IsNumeral cs) : Edged cs :=
  edged_of_forall hne fun c hc => isEdge_of_isNumeralChar (h c hc)

theorem IsPair.isEdge (h : IsPair opener closer) : isEdge opener = true ∧ isEdge closer = true := by
  rcases h with ⟨rfl, rfl⟩ | ⟨rfl, rfl⟩ <;> decide

theorem edged_of_brackets (h : v.brackets? = some (opener, closer)) (style : Style) (depth : Nat) :
    Edged (chars style depth v) := by
  obtain ⟨body, hbody⟩ := exists_chars_eq h style depth
  obtain ⟨hopener, hcloser⟩ := (isPair_of_brackets h).isEdge
  rw [hbody]
  exact edged_between hopener hcloser body

/-- A printed value begins and ends with characters of its own. -/
theorem edged_chars (style : Style) (depth : Nat) (v : Json) : Edged (chars style depth v) := by
  cases v with
  | null =>
    simp only [chars]
    exact edged_of_forall (by simp) (List.all_eq_true.mp rfl)
  | bool b =>
    cases b <;> simp only [chars] <;>
      exact edged_of_forall (by simp) (List.all_eq_true.mp rfl)
  | integer n =>
    simp only [chars]
    exact edged_of_isNumeral (writeInt_ne_nil n) (isNumeral_writeInt n)
  | decimal x =>
    obtain ⟨c, cs, hwrite, -, -⟩ := head_write x
    simp only [chars]
    exact edged_of_isNumeral (by simp [hwrite]) (isNumeral_write x)
  | string s =>
    simp only [chars]
    exact edged_between rfl rfl _
  | array items => exact edged_of_brackets rfl style depth
  | object fields => exact edged_of_brackets rfl style depth

/-! ### Words around a block -/

theorem isBlank_of_isGap {c : Char} (h : isGap c = true) : isBlank c = true := by
  simp only [isGap, Bool.or_eq_true, beq_iff_eq] at h
  rcases h with ((rfl | rfl) | rfl) | rfl <;> rfl

theorem isBlock_chars (hv : Legible v) (hstyle : style.Regular)
    (hbrackets : v.brackets? = some (opener, closer)) : IsBlock (chars style 0 v) v := by
  have hread := readChars_of_renders hv (renders_chars hstyle hv 0)
  obtain ⟨body, hbody⟩ := exists_chars_eq hbrackets style 0
  rw [hbody] at hread ⊢
  exact .intro hbrackets hread

/-- If a text with words around a block is a value, then there are no words in front, and the value
is that of the block. -/
theorem eq_of_readChars_words {body : List Char} (hpair : IsPair opener closer)
    (h : readChars (opener :: (body ++ [closer])) = .ok v) (hobject : '\x7b' ∉ p)
    (harray : '[' ∉ p) (htext : '"' ∉ p)
    (hall : readChars (unfenceFront p ++ opener :: (body ++ [closer]) ++ unfenceBack q) = .ok w) :
    w = v := by
  cases hfront : unfenceFront p with
  | nil =>
    have hwhole : readChars ((opener :: body) ++ closer :: unfenceBack q) = .ok w := by
      simpa [hfront] using hall
    exact (eq_of_readChars_append hpair.isCloser h hwhole).1
  | cons c front =>
    have hblank := not_isBlank_head_unfenceFront hfront
    have hgap : isGap c = false := by
      rw [Bool.eq_false_iff]
      intro hgap
      rw [isBlank_of_isGap hgap] at hblank
      cases hblank
    have hmem : c ∈ p := mem_of_mem_unfenceFront (hfront ▸ .head _)
    have hopener : isMark opener = true ∧ isGap opener = false := by
      rcases hpair with ⟨rfl, -⟩ | ⟨rfl, -⟩ <;> exact ⟨rfl, rfl⟩
    rw [hfront, List.append_assoc] at hall
    refine absurd hall (readChars_words_ne_ok hgap ?_ ?_ ?_ hopener.1 hopener.2) <;>
      (rintro rfl; contradiction)

/-- An array or object among words is found. -/
theorem extract_of_words (hv : Legible v) (hstyle : style.Regular) {reply : String}
    (hbrackets : v.brackets? = some (opener, closer)) (hobject : '\x7b' ∉ p) (harray : '[' ∉ p)
    (htext : '"' ∉ p) (hq : closer ∉ q) (hreply : reply.toList = p ++ chars style 0 v ++ q) :
    extract reply = .ok v := by
  have hblock := isBlock_chars hv hstyle hbrackets
  have hpair := isPair_of_brackets hbrackets
  obtain ⟨body, hbody⟩ := exists_chars_eq hbrackets style 0
  have hinfo : isInfoChar opener = false := by
    rcases hpair with ⟨rfl, -⟩ | ⟨rfl, -⟩ <;> rfl
  have hunfence : unfence reply.toList = unfenceFront p ++ chars style 0 v ++ unfenceBack q := by
    rw [hreply]
    refine (edged_chars style 0 v).unfence_append (.inl ?_)
    rw [hbody]
    rintro c ⟨⟩
    exact hinfo
  -- The words may happen to be nothing, and then all of the reply is a value.
  cases hvalue : valueIn (unfence reply.toList) with
  | some w =>
    rw [extract_of_valueIn hvalue]
    rw [hunfence, hbody, valueIn_eq_some_iff] at hvalue
    rw [hbody] at hblock
    rw [eq_of_readChars_words hpair hblock.read hobject harray htext hvalue]
  | none =>
    rw [extract_eq_ok_iff hvalue, hunfence]
    have hobject' : '\x7b' ∉ unfenceFront p := mt mem_of_mem_unfenceFront hobject
    have harray' : '[' ∉ unfenceFront p := mt mem_of_mem_unfenceFront harray
    refine (hblock.firstBlock harray' hobject').found ⟨opener, closer, hbrackets, ?_, ?_⟩
    · rcases hpair with ⟨rfl, -⟩ | ⟨rfl, -⟩
      · exact harray'
      · exact hobject'
    · exact mt mem_of_mem_unfenceBack hq

/-! ### All envelopes -/

/-- What is extracted from a reply is the value that is printed in it. -/
theorem extract_of_envelops {reply : String} (hv : Legible v) (hstyle : style.Regular)
    (h : Envelops v (write style v).toList reply.toList) : extract reply = .ok v := by
  have hedged := edged_chars style 0 v
  have hbare (hunfence : unfence reply.toList = chars style 0 v) : extract reply = .ok v := by
    apply extract_of_valueIn
    rw [hunfence, valueIn_eq_some_iff]
    exact readChars_of_renders hv (renders_chars hstyle hv 0)
  rw [write, String.toList_ofList] at h
  generalize hcs : reply.toList = cs at h
  cases h with
  | @blanks front back hfront hback =>
    apply hbare
    rw [hcs, hedged.unfence_append (.inr fun c hc => hfront c (List.mem_of_getLast? hc)),
      unfenceFront_of_blank hfront, unfenceBack_of_blank hback, List.nil_append, List.append_nil]
  | @fenced front info back hfront hinfo hback =>
    apply hbare
    have hline : ∀ c ∈ ['\n'], isBlank c = true := List.all_eq_true.mp rfl
    have htext : front ++ (fence ++ info ++ '\n' :: (chars style 0 v ++ '\n' :: fence))
        ++ back = front ++ (fence ++ (info ++ ['\n'])) ++ chars style 0 v
          ++ (['\n'] ++ fence ++ back) := by
      simp
    have hstop : ∀ c ∈ (front ++ (fence ++ (info ++ ['\n']))).getLast?, isBlank c = true := by
      rw [← List.append_assoc, ← List.append_assoc, List.getLast?_concat]
      rintro c ⟨⟩
      rfl
    rw [hcs, htext, hedged.unfence_append (.inr hstop), unfenceFront_fence hfront hinfo hline,
      unfenceBack_fence hline hback, List.nil_append, List.append_nil]
  | words hbrackets hobject harray htext hq =>
    exact extract_of_words hv hstyle hbrackets hobject harray htext hq hcs

theorem extract_of_envelops_amongWords :
    let v : Json := .array [.string "\x60\x60\x60 [", .null, .integer (-1)]
    extract ("Here it is:\n" ++ write .indented v ++ " (or is it \x7b\x7d?)\n\x60\x60\x60") =
      .ok v := by
  intro v
  have hv : Legible v := by
    refine .array fun item hitem => ?_
    simp only [List.mem_cons, List.not_mem_nil, or_false] at hitem
    rcases hitem with rfl | rfl | rfl
    · exact .string _
    · exact .null
    · exact .integer (by decide)
  refine extract_of_envelops hv regular_indented ?_
  rw [String.toList_append, String.toList_append]
  exact .words (show v.brackets? = some ('[', ']') from rfl) (by decide) (by decide) (by decide)
    (by decide)

end PageScript.Model

import PageScript.Model.Reply
import PageScript.Proofs.Text.Trim

/-!
# Blanks and fences around a text

A text whose first and last characters are neither blank nor of a fence is kept by `unfence`,
which takes characters only from what stands in front of it and from what stands behind it
(`Edged.unfence_append`).  Blanks go altogether, and so does a fence with the name of a language.
-/

namespace PageScript.Model

open PageScript.Text

theorem range_of_isInfoChar {c : Char} (h : isInfoChar c = true) :
    (65 ≤ c.toNat ∧ c.toNat ≤ 90) ∨ (97 ≤ c.toNat ∧ c.toNat ≤ 122) ∨
      (48 ≤ c.toNat ∧ c.toNat ≤ 57) := by
  have hkinds : ((c.isUpper || c.isLower) || c.isDigit) = true := h
  rw [Bool.or_eq_true, Bool.or_eq_true] at hkinds
  rcases hkinds with (hupper | hlower) | hdigit
  · exact .inl (of_decide_eq_true hupper)
  · obtain ⟨hfrom, hto⟩ := (Bool.and_eq_true_iff ..).mp hlower
    exact .inr (.inl ⟨of_decide_eq_true hfrom, of_decide_eq_true hto⟩)
  · obtain ⟨hfrom, hto⟩ := (Bool.and_eq_true_iff ..).mp hdigit
    exact .inr (.inr ⟨of_decide_eq_true hfrom, of_decide_eq_true hto⟩)

/-- Blanks do not name a language. -/
theorem not_isInfoChar_of_isBlank {c : Char} (h : isBlank c = true) : isInfoChar c = false := by
  rw [Bool.eq_false_iff]
  intro hinfo
  have hrange := range_of_isInfoChar hinfo
  simp only [isBlank, inRanges, blankRanges, List.any_cons, List.any_nil, Bool.or_false,
    Bool.or_eq_true, Bool.and_eq_true, decide_eq_true_eq] at h
  omega

/-! ### Fences -/

/-- A fence is looked for at the beginning only.  It takes the name of a language with it, so what
stands behind a fence must not look like such a name, unless there is a blank before it. -/
theorem dropOpeningFence_append {front cs : List Char} {c : Char} (h : cs.head? = some c)
    (hfence : c ≠ '\x60') (hblank : isBlank c = false)
    (hstop : isInfoChar c = false ∨ ∀ d ∈ front.getLast?, isBlank d = true) :
    dropOpeningFence (front ++ cs) = dropOpeningFence front ++ cs := by
  have hopens (ds : List Char) : fence.isPrefixOf ds = true ↔ fence <+: ds :=
    List.isPrefixOf_iff_prefix
  by_cases hfront : fence <+: front
  · obtain ⟨rest, rfl⟩ := hfront
    have hname : (rest ++ cs).dropWhile isInfoChar = rest.dropWhile isInfoChar ++ cs := by
      rcases hstop with hinfo | hlast
      · exact dropWhile_append_of_head h hinfo rest
      · rcases List.eq_nil_or_concat rest with rfl | ⟨rest, d, rfl⟩
        · exact absurd (hlast '\x60' rfl) (by decide)
        · have hd : isInfoChar d = false :=
            not_isInfoChar_of_isBlank (hlast d (by simp [← List.append_assoc]))
          rw [List.concat_eq_append, List.append_assoc, dropWhile_append_of_head rfl hd,
            dropWhile_append_of_head rfl hd, List.append_assoc]
    rw [dropOpeningFence, dropOpeningFence, List.append_assoc,
      if_pos ((hopens _).mpr (List.prefix_append _ _)),
      if_pos ((hopens _).mpr (List.prefix_append _ _)), List.drop_left, List.drop_left, hname,
      trimLeft_append_of_head h hblank]
  · -- A fence that is not all in front would reach into the text.
    have hnone : ¬ fence <+: front ++ cs := by
      intro hprefix
      rcases List.prefix_or_prefix_of_prefix hprefix (List.prefix_append front cs) with
        hshort | ⟨rest, hrest⟩
      · exact hfront hshort
      · obtain ⟨cs, rfl⟩ := List.head?_eq_some_iff.mp h
        rw [← hrest, List.prefix_append_right_inj] at hprefix
        cases rest with
        | nil =>
          rw [List.append_nil] at hrest
          exact hfront (hrest ▸ List.prefix_rfl)
        | cons d rest =>
          obtain rfl : d = c := (List.cons_prefix_cons.mp hprefix).1
          have hmem : d ∈ fence := hrest ▸ by simp
          simp only [fence, List.mem_cons, List.not_mem_nil, or_false, or_self] at hmem
          exact hfence hmem
    rw [dropOpeningFence, dropOpeningFence, if_neg (mt (hopens _).mp hnone),
      if_neg (mt (hopens _).mp hfront)]

theorem dropOpeningFence_fence (cs : List Char) :
    dropOpeningFence (fence ++ cs) = trimLeft (cs.dropWhile isInfoChar) := by
  rw [dropOpeningFence, if_pos (List.isPrefixOf_iff_prefix.mpr (List.prefix_append _ _)),
    List.drop_left]

theorem dropClosingFence_append {cs : List Char} {c : Char} (h : cs.getLast? = some c)
    (hfence : c ≠ '\x60') (back : List Char) :
    dropClosingFence (cs ++ back) = cs ++ dropClosingFence back := by
  have hcloses (ds : List Char) : fence.isSuffixOf ds = true ↔ fence <:+ ds :=
    List.isSuffixOf_iff_suffix
  by_cases hback : fence <:+ back
  · obtain ⟨rest, rfl⟩ := hback
    rw [dropClosingFence, dropClosingFence, ← List.append_assoc,
      if_pos ((hcloses _).mpr (List.suffix_append _ _)),
      if_pos ((hcloses _).mpr (List.suffix_append _ _))]
    rw [List.length_append, Nat.add_sub_cancel, List.take_left, List.length_append,
      Nat.add_sub_cancel, List.take_left]
  · have hnone : ¬ fence <:+ cs ++ back := by
      intro hsuffix
      rcases List.suffix_or_suffix_of_suffix hsuffix (List.suffix_append cs back) with
        hshort | ⟨rest, hrest⟩
      · exact hback hshort
      · rw [← hrest, List.suffix_append_self_iff] at hsuffix
        rcases List.eq_nil_or_concat rest with rfl | ⟨rest, d, rfl⟩
        · exact hback (hrest ▸ List.suffix_rfl)
        · obtain ⟨cs, rfl⟩ := List.getLast?_eq_some_iff.mp h
          rw [List.concat_eq_append] at hsuffix hrest
          obtain rfl : d = c := by
            have hlast := hsuffix.getLast (by simp)
            simpa using hlast
          have hmem : d ∈ fence := hrest ▸ by simp
          simp only [fence, List.mem_cons, List.not_mem_nil, or_false, or_self] at hmem
          exact hfence hmem
    rw [dropClosingFence, dropClosingFence, if_neg (mt (hcloses _).mp hnone),
      if_neg (mt (hcloses _).mp hback)]

theorem dropClosingFence_fence (cs : List Char) : dropClosingFence (cs ++ fence) = cs := by
  have hsuffix : fence.isSuffixOf (cs ++ fence) = true :=
    List.isSuffixOf_iff_suffix.mpr (List.suffix_append _ _)
  rw [dropClosingFence, if_pos hsuffix, List.length_append, Nat.add_sub_cancel, List.take_left]

/-! ### What an envelope leaves -/

/-- A character that neither trimming nor a fence takes. -/
def isEdge (c : Char) : Bool := !isBlank c && c != '\x60'

theorem isBlank_of_isEdge {c : Char} (h : isEdge c = true) : isBlank c = false := by
  simp only [isEdge, Bool.and_eq_true, Bool.not_eq_true'] at h
  exact h.1

theorem ne_of_isEdge {c : Char} (h : isEdge c = true) : c ≠ '\x60' := by
  simp only [isEdge, Bool.and_eq_true, bne_iff_ne] at h
  exact h.2

/-- A text that begins and ends with such characters. -/
structure Edged (t : List Char) : Prop where
  first : ∃ c, t.head? = some c ∧ isEdge c = true
  last : ∃ c, t.getLast? = some c ∧ isEdge c = true

theorem edged_of_forall {t : List Char} (hne : t ≠ []) (h : ∀ c ∈ t, isEdge c = true) : Edged t :=
  ⟨⟨_, List.head?_eq_some_head hne, h _ (List.head_mem hne)⟩,
    ⟨_, List.getLast?_eq_some_getLast hne, h _ (List.getLast_mem hne)⟩⟩

theorem edged_between {a b : Char} (ha : isEdge a = true) (hb : isEdge b = true)
    (body : List Char) : Edged (a :: (body ++ [b])) :=
  ⟨⟨a, rfl, ha⟩, ⟨b, by rw [← List.cons_append, List.getLast?_concat], hb⟩⟩

/-- What is left of the characters in front of a text. -/
def unfenceFront (p : List Char) : List Char := trimLeft (dropOpeningFence (trimLeft p))

/-- What is left of the characters behind a text. -/
def unfenceBack (q : List Char) : List Char := trimRight (dropClosingFence (trimRight q))

theorem Edged.trimChars_append {t : List Char} (ht : Edged t) (p q : List Char) :
    trimChars (p ++ t ++ q) = trimLeft p ++ t ++ trimRight q := by
  obtain ⟨⟨a, hhead, ha⟩, b, hlast, hb⟩ := ht
  have hhead' : (t ++ q).head? = some a := by rw [List.head?_append, hhead, Option.some_or]
  have hlast' : (trimLeft p ++ t).getLast? = some b := by
    rw [List.getLast?_append, hlast, Option.some_or]
  rw [trimChars, List.append_assoc, trimLeft_append_of_head hhead' (isBlank_of_isEdge ha),
    ← List.append_assoc, trimRight_append_of_getLast hlast' (isBlank_of_isEdge hb)]

/-- The text itself stays, if it cannot be taken for the name of a language. -/
theorem Edged.unfence_append {p t q : List Char} (ht : Edged t)
    (hstop : (∀ c ∈ t.head?, isInfoChar c = false) ∨ ∀ c ∈ p.getLast?, isBlank c = true) :
    unfence (p ++ t ++ q) = unfenceFront p ++ t ++ unfenceBack q := by
  obtain ⟨⟨a, hhead, ha⟩, b, hlast, hb⟩ := id ht
  have hhead' : (t ++ trimRight q).head? = some a := by
    rw [List.head?_append, hhead, Option.some_or]
  have hlast' : (dropOpeningFence (trimLeft p) ++ t).getLast? = some b := by
    rw [List.getLast?_append, hlast, Option.some_or]
  have hstop' : isInfoChar a = false ∨ ∀ c ∈ (trimLeft p).getLast?, isBlank c = true := by
    refine hstop.imp (fun h => h a hhead) fun h c hc => h c ?_
    obtain ⟨front, hfront⟩ := List.dropWhile_suffix isBlank (l := p)
    rw [← hfront, List.getLast?_append, ← trimLeft, Option.mem_def.mp hc]
    rfl
  rw [unfence, ht.trimChars_append, List.append_assoc,
    dropOpeningFence_append hhead' (ne_of_isEdge ha) (isBlank_of_isEdge ha) hstop',
    ← List.append_assoc, dropClosingFence_append hlast' (ne_of_isEdge hb), ht.trimChars_append,
    unfenceFront, unfenceBack]

theorem unfenceFront_of_blank {p : List Char} (h : ∀ c ∈ p, isBlank c = true) :
    unfenceFront p = [] := by
  rw [unfenceFront, trimLeft_of_blank h]
  rfl

theorem unfenceBack_of_blank {q : List Char} (h : ∀ c ∈ q, isBlank c = true) :
    unfenceBack q = [] := by
  rw [unfenceBack, trimRight_of_blank h]
  rfl

/-- A fence takes the name of a language with it, and the blanks behind that. -/
theorem unfenceFront_fence {front info above : List Char} (hfront : ∀ c ∈ front, isBlank c = true)
    (hinfo : ∀ c ∈ info, isInfoChar c = true) (habove : ∀ c ∈ above, isBlank c = true) :
    unfenceFront (front ++ (fence ++ (info ++ above))) = [] := by
  have hname : (info ++ above).dropWhile isInfoChar = above := by
    rw [List.dropWhile_append_of_pos hinfo]
    cases above with
    | nil => rfl
    | cons b above =>
      exact List.dropWhile_cons_of_neg (by simp [not_isInfoChar_of_isBlank (habove b (.head _))])
  have htrim : trimLeft (fence ++ (info ++ above)) = fence ++ (info ++ above) :=
    trimLeft_of_head (c := '\x60') rfl rfl
  rw [unfenceFront, trimLeft_append hfront, htrim, dropOpeningFence_fence, hname,
    trimLeft_of_blank habove]
  rfl

theorem unfenceBack_fence {below back : List Char} (hbelow : ∀ c ∈ below, isBlank c = true)
    (hback : ∀ c ∈ back, isBlank c = true) : unfenceBack (below ++ fence ++ back) = [] := by
  have hlast : (below ++ fence).getLast? = some '\x60' := by
    rw [List.getLast?_append]
    rfl
  rw [unfenceBack, trimRight_append_of_getLast hlast rfl, trimRight_of_blank hback,
    List.append_nil, dropClosingFence_fence, trimRight_of_blank hbelow]

theorem mem_of_mem_unfenceFront {c : Char} {p : List Char} (h : c ∈ unfenceFront p) : c ∈ p := by
  have hfence {cs : List Char} (h : c ∈ dropOpeningFence cs) : c ∈ cs := by
    unfold dropOpeningFence at h
    split at h
    · exact List.mem_of_mem_drop ((List.dropWhile_sublist _).mem ((List.dropWhile_sublist _).mem h))
    · exact h
  exact (List.dropWhile_sublist _).mem (hfence ((List.dropWhile_sublist _).mem h))

theorem mem_of_mem_unfenceBack {c : Char} {q : List Char} (h : c ∈ unfenceBack q) : c ∈ q := by
  have hright {cs : List Char} (h : c ∈ trimRight cs) : c ∈ cs := by
    rw [trimRight, List.mem_reverse] at h
    exact List.mem_reverse.mp ((List.dropWhile_sublist _).mem h)
  have hfence {cs : List Char} (h : c ∈ dropClosingFence cs) : c ∈ cs := by
    unfold dropClosingFence at h
    split at h
    · exact List.mem_of_mem_take h
    · exact h
  exact hright (hfence (hright h))

theorem not_isBlank_head_unfenceFront {c : Char} {p cs : List Char}
    (h : unfenceFront p = c :: cs) :
    isBlank c = false := by
  have hhead := List.head?_dropWhile_not isBlank (dropOpeningFence (trimLeft p))
  rw [← trimLeft, ← unfenceFront, h] at hhead
  simpa using hhead

end PageScript.Model

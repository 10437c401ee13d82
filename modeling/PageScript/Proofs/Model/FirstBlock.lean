import PageScript.Model.Reply
import PageScript.Proofs.Json.Block

/-!
# The first block of a reply

A reply that is no JSON itself may hold an array or object, a *block*.  The first one is found
if no opening bracket of its kind stands in front of it and no closing one behind it; otherwise it
is not (`extract_firstBlock`).  So a brace in what a model says behind an object is enough to hide
the object, and something inside it may be taken instead (`extract_trailingBrace_takes_inner`).
-/

namespace PageScript.Model

open PageScript.Json PageScript.Text

variable {cs p t q : List Char} {v w : Json} {opener closer : Char}

/-! ### Blocks -/

/-- A text of an array or object, from its opening to its closing bracket. -/
inductive IsBlock : List Char → Json → Prop
  | intro {opener closer : Char} {body : List Char} {v : Json}
    (hbrackets : v.brackets? = some (opener, closer))
    (h : readChars (opener :: (body ++ [closer])) = .ok v) :
    IsBlock (opener :: (body ++ [closer])) v

/-- A block that no other block begins in front of. -/
structure FirstBlock (p t q : List Char) (v : Json) : Prop where
  block : IsBlock t v
  first : ∀ p' t' q' v', IsBlock t' v' → p ++ t ++ q = p' ++ t' ++ q' → p.length ≤ p'.length

/-- No opening bracket of a kind stands in front and no closing one behind. -/
def Clear (v : Json) (p q : List Char) : Prop :=
  ∃ opener closer, v.brackets? = some (opener, closer) ∧ opener ∉ p ∧ closer ∉ q

/-- The two kinds of brackets. -/
def IsPair (opener closer : Char) : Prop :=
  opener = '[' ∧ closer = ']' ∨ opener = '\x7b' ∧ closer = '\x7d'

theorem isPair_of_brackets (h : v.brackets? = some (opener, closer)) : IsPair opener closer := by
  cases v with
  | array items =>
    cases h
    exact .inl ⟨rfl, rfl⟩
  | object fields =>
    cases h
    exact .inr ⟨rfl, rfl⟩
  | _ => cases h

theorem IsPair.isCloser (h : IsPair opener closer) : isCloser closer = true := by
  rcases h with ⟨-, rfl⟩ | ⟨-, rfl⟩ <;> rfl

theorem IsBlock.read (h : IsBlock t v) : readChars t = .ok v := by
  obtain ⟨-, h⟩ := h
  exact h

theorem IsBlock.exists_getLast? (h : IsBlock t v) :
    ∃ closer, t.getLast? = some closer ∧ isCloser closer = true := by
  obtain ⟨hbrackets, -⟩ := h
  exact ⟨_, by rw [← List.cons_append, List.getLast?_concat],
    (isPair_of_brackets hbrackets).isCloser⟩

/-- A block goes on with nothing that would make it another block. -/
theorem IsBlock.eq_nil_of_append {more : List Char} (h : IsBlock t v) (h' : IsBlock (t ++ more) w) :
    more = [] := by
  obtain ⟨hbrackets, hread⟩ := h
  rename_i opener closer body
  rcases List.eq_nil_or_concat more with rfl | ⟨more, c, rfl⟩
  · rfl
  · obtain ⟨closer', hlast, hcloser'⟩ := h'.exists_getLast?
    rw [List.concat_eq_append, ← List.append_assoc, List.getLast?_concat] at hlast
    cases hlast
    have hmore : readChars ((opener :: body) ++ closer :: (more ++ [c])) = .ok w := by
      simpa using h'.read
    have hgap := (eq_of_readChars_append (isPair_of_brackets hbrackets).isCloser hread hmore).2 c
      (by simp)
    simp only [isCloser, Bool.or_eq_true, beq_iff_eq] at hcloser'
    rcases hcloser' with rfl | rfl <;> cases hgap

/-- Only one block begins at a place. -/
theorem IsBlock.eq_of_append {t' q' : List Char} (h : IsBlock t v) (h' : IsBlock t' w)
    (heq : t ++ q = t' ++ q') : t = t' := by
  rcases List.append_eq_append_iff.mp heq with ⟨more, rfl, -⟩ | ⟨more, rfl, -⟩
  · rw [h.eq_nil_of_append h', List.append_nil]
  · rw [h'.eq_nil_of_append h, List.append_nil]

/-- Without brackets in front a block is the first one. -/
theorem IsBlock.firstBlock (h : IsBlock t v) (harray : '[' ∉ p) (hobject : '\x7b' ∉ p) :
    FirstBlock p t q v := by
  refine ⟨h, fun p' t' q' w h' htext => ?_⟩
  obtain ⟨hbrackets, -⟩ := h'
  rw [List.append_assoc, List.append_assoc] at htext
  rcases List.append_eq_append_iff.mp htext with ⟨more, rfl, -⟩ | ⟨more, rfl, hmore⟩
  · rw [List.length_append]
    exact Nat.le_add_right _ _
  · cases more with
    | nil => simp
    | cons c more =>
      obtain ⟨rfl, -⟩ := List.cons.inj hmore
      rcases isPair_of_brackets hbrackets with ⟨rfl, -⟩ | ⟨rfl, -⟩
      · exact absurd (by simp) harray
      · exact absurd (by simp) hobject

/-- Among the blocks of a text there is a first one. -/
theorem IsBlock.exists_firstBlock (h : IsBlock t v) :
    ∃ p' t' q' v', p ++ t ++ q = p' ++ t' ++ q' ∧ FirstBlock p' t' q' v' := by
  generalize hcs : p ++ t ++ q = cs
  generalize hn : p.length = n
  -- A block that is not the first has another one further in front.
  induction n using Nat.strongRecOn generalizing p t q v with
  | _ n ih =>
    by_cases hfirst : FirstBlock p t q v
    · exact ⟨p, t, q, v, hcs.symm, hfirst⟩
    · obtain ⟨p', t', q', v', hblock, htext, hlt⟩ :
          ∃ p' t' q' v', IsBlock t' v' ∧ p ++ t ++ q = p' ++ t' ++ q' ∧ p'.length < p.length := by
        by_contra hnone
        refine hfirst ⟨h, fun p' t' q' v' hblock htext => ?_⟩
        by_contra hle
        exact hnone ⟨p', t', q', v', hblock, htext, Nat.lt_of_not_le hle⟩
      exact ih p'.length (hn ▸ hlt) hblock (htext.symm.trans hcs) rfl

/-! ### Where a block is looked for -/

/-- The part of a text that is tried for one kind of brackets. -/
def candidate (opener closer : Char) (cs : List Char) : List Char :=
  upToLast closer (fromFirst opener cs)

theorem fromFirst_append (h : opener ∉ p) (rest : List Char) :
    fromFirst opener (p ++ opener :: rest) = opener :: rest := by
  rw [fromFirst, List.dropWhile_append_of_pos, List.dropWhile_cons_of_neg]
  · simp
  · intro c hc
    rw [bne_iff_ne]
    rintro rfl
    exact h hc

theorem fromFirst_of_notMem (h : opener ∉ cs) : fromFirst opener cs = [] := by
  rw [fromFirst, List.dropWhile_eq_nil_iff]
  intro c hc
  rw [bne_iff_ne]
  rintro rfl
  exact h hc

theorem upToLast_eq (closer : Char) (cs : List Char) :
    upToLast closer cs = (fromFirst closer cs.reverse).reverse := rfl

theorem upToLast_append (h : closer ∉ q) (front : List Char) :
    upToLast closer (front ++ closer :: q) = front ++ [closer] := by
  rw [upToLast_eq, List.reverse_append, List.reverse_cons, List.append_assoc,
    List.singleton_append, fromFirst_append (by simpa using h)]
  simp

theorem upToLast_of_notMem (h : closer ∉ cs) : upToLast closer cs = [] := by
  rw [upToLast_eq, fromFirst_of_notMem (by simpa using h), List.reverse_nil]

/-- With no bracket of its kind in the way, a block is tried as it is. -/
theorem candidate_eq {body : List Char} (hp : opener ∉ p) (hq : closer ∉ q) :
    candidate opener closer (p ++ opener :: (body ++ [closer]) ++ q) =
      opener :: (body ++ [closer]) := by
  have htext : p ++ opener :: (body ++ [closer]) ++ q = p ++ opener :: (body ++ closer :: q) := by
    simp
  rw [candidate, htext, fromFirst_append hp, ← List.cons_append, upToLast_append hq,
    List.cons_append]

theorem length_fromFirst (hp : opener ∉ p) (rest : List Char) :
    (fromFirst opener (p ++ opener :: rest)).length + p.length =
      (p ++ opener :: rest).length := by
  rw [fromFirst_append hp, List.length_append, Nat.add_comm]

theorem valueIn_eq_some_iff : valueIn cs = some v ↔ readChars cs = .ok v := by
  rw [valueIn]
  cases readChars cs with
  | ok w => simp [Except.toOption]
  | error e => simp [Except.toOption]

theorem exists_last_of_mem (h : closer ∈ cs) :
    ∃ front q, cs = front ++ closer :: q ∧ closer ∉ q := by
  obtain ⟨q, front, hreverse, hq⟩ := List.eq_append_cons_of_mem (List.mem_reverse.mpr h)
  refine ⟨front.reverse, q.reverse, ?_, by simpa using hq⟩
  rw [← List.reverse_reverse cs, hreverse]
  simp

/-- What is read where a kind of brackets is tried is a block, with no bracket of that kind in the
way. -/
theorem exists_of_candidate (hpair : IsPair opener closer)
    (h : readChars (candidate opener closer cs) = .ok w) :
    w.brackets? = some (opener, closer) ∧
      ∃ p body q, cs = p ++ opener :: (body ++ [closer]) ++ q ∧ opener ∉ p ∧ closer ∉ q ∧
        candidate opener closer cs = opener :: (body ++ [closer]) := by
  have hnil : readChars [] ≠ .ok w := nofun
  by_cases hopener : opener ∈ cs
  · obtain ⟨p, rest, rfl, hp⟩ := List.eq_append_cons_of_mem hopener
    have hcandidate : candidate opener closer (p ++ opener :: rest) =
        upToLast closer (opener :: rest) := by
      rw [candidate, fromFirst_append hp]
    by_cases hcloser : closer ∈ rest
    · obtain ⟨body, q, rfl, hq⟩ := exists_last_of_mem hcloser
      have htext : p ++ opener :: (body ++ closer :: q) =
          p ++ opener :: (body ++ [closer]) ++ q := by simp
      rw [htext] at h ⊢
      rw [candidate_eq hp hq] at h ⊢
      refine ⟨?_, p, body, q, rfl, hp, hq, rfl⟩
      obtain ⟨harray, hobject⟩ := brackets?_of_readChars h
      rcases hpair with ⟨rfl, rfl⟩ | ⟨rfl, rfl⟩
      · exact harray rfl
      · exact hobject rfl
    · have hne : closer ≠ opener := by
        rcases hpair with ⟨rfl, rfl⟩ | ⟨rfl, rfl⟩ <;> decide
      rw [hcandidate, upToLast_of_notMem (by simp [hne, hcloser])] at h
      exact absurd h hnil
  · rw [candidate, fromFirst_of_notMem hopener, upToLast_of_notMem List.not_mem_nil] at h
    exact absurd h hnil

/-! ### What is found -/

/-- What is read of one kind is found, unless the other kind opens first and is read as well. -/
theorem findSome?_blocks (hpair : IsPair opener closer)
    (h : readChars (candidate opener closer cs) = .ok v)
    (hother : ∀ opener' closer' w, IsPair opener' closer' → opener' ≠ opener →
      readChars (candidate opener' closer' cs) = .ok w →
        (fromFirst opener' cs).length < (fromFirst opener cs).length) :
    (blocks cs).findSome? valueIn = some v := by
  have hfound := valueIn_eq_some_iff.mpr h
  have hblocks : blocks cs = if (fromFirst '\x7b' cs).length < (fromFirst '[' cs).length then
      [candidate '[' ']' cs, candidate '\x7b' '\x7d' cs] else
      [candidate '\x7b' '\x7d' cs, candidate '[' ']' cs] := rfl
  rw [hblocks]
  rcases hpair with ⟨rfl, rfl⟩ | ⟨rfl, rfl⟩
  · split
    · rw [List.findSome?_cons, hfound]
    · next hlength =>
      have hbraces : valueIn (candidate '\x7b' '\x7d' cs) = none := by
        rw [Option.eq_none_iff_forall_ne_some]
        intro w hw
        exact hlength (hother _ _ w (.inr ⟨rfl, rfl⟩) (by decide) (valueIn_eq_some_iff.mp hw))
      rw [List.findSome?_cons, hbraces, List.findSome?_cons, hfound]
  · split
    · next hlength =>
      have hbrackets : valueIn (candidate '[' ']' cs) = none := by
        rw [Option.eq_none_iff_forall_ne_some]
        intro w hw
        have := hother _ _ w (.inl ⟨rfl, rfl⟩) (by decide) (valueIn_eq_some_iff.mp hw)
        omega
      rw [List.findSome?_cons, hbrackets, List.findSome?_cons, hfound]
    · rw [List.findSome?_cons, hfound]

/-- What is found is read of one of the two kinds. -/
theorem exists_of_findSome?_blocks (h : (blocks cs).findSome? valueIn = some v) :
    ∃ opener closer, IsPair opener closer ∧ readChars (candidate opener closer cs) = .ok v := by
  obtain ⟨tried, hmem, hvalue⟩ := List.exists_of_findSome?_eq_some h
  have htried : tried = candidate '\x7b' '\x7d' cs ∨ tried = candidate '[' ']' cs := by
    rw [blocks] at hmem
    split at hmem
    · simpa [candidate, or_comm] using hmem
    · simpa [candidate] using hmem
  rw [valueIn_eq_some_iff] at hvalue
  rcases htried with rfl | rfl
  · exact ⟨_, _, .inr ⟨rfl, rfl⟩, hvalue⟩
  · exact ⟨_, _, .inl ⟨rfl, rfl⟩, hvalue⟩

/-- A first block that no bracket of its kind gets in the way of is found. -/
theorem FirstBlock.found (h : FirstBlock p t q v) (hclear : Clear v p q) :
    (blocks (p ++ t ++ q)).findSome? valueIn = some v := by
  obtain ⟨⟨hbrackets, hread⟩, hfirst⟩ := h
  rename_i opener closer body
  obtain ⟨opener', closer', hbrackets', hp, hq⟩ := hclear
  rw [hbrackets] at hbrackets'
  cases hbrackets'
  refine findSome?_blocks (isPair_of_brackets hbrackets) (by rwa [candidate_eq hp hq]) ?_
  intro opener' closer' w hpair hne hother
  obtain ⟨hw, p', body', q', htext, hp', -, hcandidate⟩ := exists_of_candidate hpair hother
  rw [hcandidate] at hother
  have hle := hfirst p' _ q' w ⟨hw, hother⟩ htext
  have hlength := length_fromFirst hp (body ++ closer :: q)
  have hlength' := length_fromFirst hp' (body' ++ closer' :: q')
  have hcs : p ++ opener :: (body ++ closer :: q) = p' ++ opener' :: (body' ++ closer' :: q') := by
    simpa using htext
  -- Two kinds of blocks cannot begin at one place.
  have hne_length : p.length ≠ p'.length := fun hlengths =>
    hne (List.cons.inj (List.append_inj_right hcs hlengths)).1.symm
  have hcs' : p ++ opener :: (body ++ [closer]) ++ q = p ++ opener :: (body ++ closer :: q) := by
    simp
  rw [hcs']
  rw [← hcs] at hlength'
  omega

/-- What is found in a reply that is no value is read in one of its blocks. -/
theorem extract_eq_ok_iff {reply : String} (hno : valueIn (unfence reply.toList) = none) :
    extract reply = .ok v ↔ (blocks (unfence reply.toList)).findSome? valueIn = some v := by
  simp only [extract, List.findSome?_cons, hno]
  cases (blocks (unfence reply.toList)).findSome? valueIn with
  | none => simp
  | some w => simp

theorem extract_of_blocks_none {reply : String} (hno : valueIn (unfence reply.toList) = none)
    (h : (blocks (unfence reply.toList)).findSome? valueIn = none) :
    extract reply =
      .error (.notJson (String.ofList ((unfence reply.toList).take quotedLimit))) := by
  simp only [extract, List.findSome?_cons, hno, h]

/-! ### Replies with blocks -/

/-- Only a bracket of its kind gets in the way of a first block. -/
theorem FirstBlock.clear_of_found (h : FirstBlock p t q v)
    (hfound : (blocks (p ++ t ++ q)).findSome? valueIn = some v) : Clear v p q := by
  obtain ⟨opener, closer, hpair, hread⟩ := exists_of_findSome?_blocks hfound
  obtain ⟨hv, p', body', q', htext, hp', hq', hcandidate⟩ := exists_of_candidate hpair hread
  rw [hcandidate] at hread
  have hle := h.first p' _ q' v ⟨hv, hread⟩ htext
  obtain ⟨⟨hbrackets, hblock⟩, -⟩ := h
  rw [hv] at hbrackets
  cases hbrackets
  rename_i body
  have hcs : p ++ opener :: (body ++ closer :: q) = p' ++ opener :: (body' ++ closer :: q') := by
    simpa using htext
  -- Both begin where the opening bracket stands first.
  obtain rfl : p = p' := by
    rcases List.append_eq_append_iff.mp hcs with ⟨more, rfl, hmore⟩ | ⟨more, rfl, -⟩
    · cases more with
      | nil => simp
      | cons c more => simp_all
    · have hmore : more.length = 0 := by
        rw [List.length_append] at hle
        omega
      rw [List.length_eq_zero_iff.mp hmore, List.append_nil]
  have htails : opener :: (body ++ [closer]) ++ q = opener :: (body' ++ [closer]) ++ q' := by
    simpa using hcs
  have hblocks := IsBlock.eq_of_append ⟨hv, hblock⟩ ⟨hv, hread⟩ htails
  rw [hblocks, List.append_cancel_left_eq] at htails
  exact ⟨opener, closer, hv, hp', htails ▸ hq'⟩

/-- A reply that is no JSON itself has a first block, which is extracted if and only if no bracket
of its kind gets in the way, or it has none, and is refused. -/
theorem extract_firstBlock {reply : String} (hno : valueIn (unfence reply.toList) = none) :
    (∀ p t q v, unfence reply.toList = p ++ t ++ q → FirstBlock p t q v →
      (extract reply = .ok v ↔ Clear v p q)) ∧
    ((∃ p t q v, unfence reply.toList = p ++ t ++ q ∧ FirstBlock p t q v) ∨
      ∃ quoted, extract reply = .error (.notJson quoted)) := by
  constructor
  · intro p t q v htext hfirst
    rw [extract_eq_ok_iff hno, htext]
    exact ⟨hfirst.clear_of_found, hfirst.found⟩
  · cases hfound : (blocks (unfence reply.toList)).findSome? valueIn with
    | none => exact .inr ⟨_, extract_of_blocks_none hno hfound⟩
    | some w =>
      obtain ⟨opener, closer, hpair, hread⟩ := exists_of_findSome?_blocks hfound
      obtain ⟨hw, p, body, q, htext, -, -, hcandidate⟩ := exists_of_candidate hpair hread
      rw [hcandidate] at hread
      rw [htext]
      exact .inl (IsBlock.exists_firstBlock ⟨hw, hread⟩)

theorem extract_firstBlock_behind_words :
    let reply := "Sure: \x7b\"data\": [1]\x7d!"
    valueIn (unfence reply.toList) = none ∧
      extract reply = .ok (.object [("data", .array [.integer 1])]) := by
  have hno : valueIn (unfence "Sure: \x7b\"data\": [1]\x7d!".toList) = none := by rfl
  have hblock : IsBlock ('\x7b' :: ("\"data\": [1]".toList ++ ['\x7d']))
      (.object [("data", .array [.integer 1])]) := .intro rfl rfl
  refine ⟨hno, ((extract_firstBlock hno).1 "Sure: ".toList _ "!".toList _ rfl
    (hblock.firstBlock (by decide) (by decide))).mpr ?_⟩
  exact ⟨'\x7b', '\x7d', rfl, by decide, by decide⟩

/-- A brace behind an object hides it, and the array in it is extracted. -/
theorem extract_trailingBrace_takes_inner :
    let reply := "\x7b\"data\": [1]\x7d \x7bsic\x7d"
    valueIn (unfence reply.toList) = none ∧
      (∃ q, unfence reply.toList = [] ++ "\x7b\"data\": [1]\x7d".toList ++ q ∧
        FirstBlock [] "\x7b\"data\": [1]\x7d".toList q
          (.object [("data", .array [.integer 1])])) ∧
      extract reply = .ok (.array [.integer 1]) := by
  have hblock : IsBlock ('\x7b' :: ("\"data\": [1]".toList ++ ['\x7d']))
      (.object [("data", .array [.integer 1])]) := .intro rfl rfl
  exact ⟨rfl, ⟨" \x7bsic\x7d".toList, rfl, hblock, fun _ _ _ _ _ _ => Nat.zero_le _⟩, rfl⟩

end PageScript.Model

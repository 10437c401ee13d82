import Mathlib.Data.List.Forall2
import Mathlib.Data.List.Induction
import PageScript.Proofs.Text.Lowercase
import PageScript.Report.Page

/-!
# Escaped texts

An escaped text has none of the *marks*, the characters that markup is made of (`marks_escape`), and
it can be read back (`unescape_escape`).  Numbers and truth values need no escaping (`Bland`).

Whether a path is that of a picture is asked of the escaped path, but the path itself would do
(`isPicture_eq`).  Lower-casing and escaping go from character to character, and a character that
does not become a single one becomes several that no ending of a picture ends in.
-/

namespace PageScript.Report

open PageScript.Text PageScript.Number

/-! ### Marks -/

/-- The characters that markup is made of. -/
def isMark (c : Char) : Bool := c == '<' || c == '>' || c == '"' || c == '\x27'

/-- The marks in a text. -/
def marks (s : String) : List Char := s.toList.filter isMark

@[simp] theorem marks_append (s t : String) : marks (s ++ t) = marks s ++ marks t := by
  simp [marks]

theorem marks_ofList {cs : List Char} (h : ∀ c ∈ cs, isMark c = false) :
    marks (String.ofList cs) = [] := by
  rw [marks, String.toList_ofList, List.filter_eq_nil_iff]
  intro c hc
  rw [h c hc]
  exact Bool.false_ne_true

theorem not_isMark_of_mem_escapeChar {c d : Char} (h : d ∈ escapeChar c) : isMark d = false := by
  have hnone {escape : List Char} (hall : escape.all (fun d => !isMark d) = true)
      (hmem : d ∈ escape) : isMark d = false := by
    simpa using List.all_eq_true.mp hall d hmem
  unfold escapeChar at h
  split at h
  · exact hnone rfl h
  split at h
  · exact hnone rfl h
  split at h
  · exact hnone rfl h
  split at h
  · exact hnone rfl h
  split at h
  · exact hnone rfl h
  · obtain rfl := List.mem_singleton.mp h
    simp_all [isMark]

theorem toList_escape (s : String) : (escape s).toList = s.toList.flatMap escapeChar :=
  String.toList_ofList

theorem not_isMark_of_mem_escape {s : String} {c : Char} (h : c ∈ (escape s).toList) :
    isMark c = false := by
  rw [toList_escape] at h
  obtain ⟨d, -, hc⟩ := List.mem_flatMap.mp h
  exact not_isMark_of_mem_escapeChar hc

/-- No text has marks once it is escaped. -/
theorem marks_escape (s : String) : marks (escape s) = [] :=
  marks_ofList fun _ hc => not_isMark_of_mem_escape (by rwa [toList_escape])

/-! ### Reading back -/

theorem unescapeChars_escapeChar (c : Char) (cs : List Char) :
    unescapeChars (escapeChar c ++ cs) = c :: unescapeChars cs := by
  unfold escapeChar
  split
  · next h => rw [h]; rfl
  split
  · next h => rw [h]; rfl
  split
  · next h => rw [h]; rfl
  split
  · next h => rw [h]; rfl
  split
  · next h => rw [h]; rfl
  · next h _ _ _ _ =>
    rw [List.singleton_append, unescapeChars] <;>
      exact fun _ hc => absurd hc h

/-- An escaped text is read back. -/
@[simp] theorem unescape_escape (s : String) : unescape (escape s) = s := by
  have hchars (cs : List Char) : unescapeChars (cs.flatMap escapeChar) = cs := by
    induction cs with
    | nil => rfl
    | cons c cs ih => rw [List.flatMap_cons, unescapeChars_escapeChar, ih]
  rw [unescape, toList_escape, hchars, String.ofList_toList]

/-! ### Plain words -/

/-- Texts that escaping leaves alone. -/
def Bland (s : String) : Prop := ∀ c ∈ s.toList, escapeChar c = [c]

instance : DecidablePred Bland :=
  fun s => List.decidableBAll (fun c => escapeChar c = [c]) s.toList

theorem escape_of_bland {s : String} (h : Bland s) : escape s = s := by
  have hchars {cs : List Char} (h : ∀ c ∈ cs, escapeChar c = [c]) : cs.flatMap escapeChar = cs := by
    induction cs with
    | nil => rfl
    | cons c cs ih =>
      rw [List.flatMap_cons, h c (.head _), ih fun d hd => h d (.tail _ hd), List.singleton_append]
  rw [escape, hchars h, String.ofList_toList]

theorem escapeChar_of_isDigit {c : Char} (h : c.isDigit = true) : escapeChar c = [c] := by
  have hne (d : Char) (hd : d.isDigit = false) : c ≠ d := by
    rintro rfl
    rw [h] at hd
    cases hd
  unfold escapeChar
  rw [if_neg (hne _ rfl), if_neg (hne _ rfl), if_neg (hne _ rfl), if_neg (hne _ rfl),
    if_neg (hne _ rfl)]

theorem escapeChar_of_mem_toDigits {n : Nat} {c : Char} (h : c ∈ Nat.toDigits 10 n) :
    escapeChar c = [c] :=
  escapeChar_of_isDigit (Nat.isDigit_of_mem_toDigits (by decide) (by decide) h)

theorem bland_toString (n : Nat) : Bland (toString n) := by
  intro c hc
  have hdigits : (toString n).toList = Nat.toDigits 10 n := String.toList_ofList
  rw [hdigits] at hc
  exact escapeChar_of_mem_toDigits hc

theorem bland_flagText (b : Bool) : Bland (flagText b) := by
  cases b <;> decide

theorem Bland.append {s t : String} (hs : Bland s) (ht : Bland t) : Bland (s ++ t) := by
  intro c hc
  rw [String.toList_append, List.mem_append] at hc
  exact hc.elim (hs c) (ht c)

theorem bland_hundredths (n : Nat) : Bland (hundredths n) := by
  intro c hc
  rw [hundredths, String.toList_ofList, List.mem_append, List.mem_cons, Layout.padLeft,
    List.mem_append] at hc
  rcases hc with hc | rfl | hc | hc
  · exact escapeChar_of_mem_toDigits hc
  · decide
  · rw [List.eq_of_mem_replicate hc]
    decide
  · exact escapeChar_of_mem_toDigits hc

theorem bland_seconds (x : Float) : Bland (seconds x) := by
  have hsign (negative : Bool) {s : String} (hs : Bland s) :
      Bland (if negative then "-" ++ s else s) := by
    cases negative
    · exact hs
    · exact .append (by decide) hs
  refine .append ?_ (by decide)
  unfold twoPlaces
  dsimp only
  split
  · decide
  · exact hsign _ (by decide)
  · exact hsign _ (bland_hundredths _)

/-! ### Endings -/

theorem concat_suffix_concat {xs ys : List α} {x y : α} :
    xs ++ [x] <:+ ys ++ [y] ↔ x = y ∧ xs <:+ ys := by
  rw [← List.reverse_prefix, List.reverse_concat, List.reverse_concat, List.cons_prefix_cons,
    List.reverse_prefix]

/-- A piece of a text stands for `x`: it ends in one of some characters only if it is that character
alone, and then `g x` says so. -/
def StandsFor (g : α → List β) (ends : List β) (x : α) (piece : List β) : Prop :=
  piece ≠ [] ∧ ∀ b ∈ ends, ∀ front, piece = front ++ [b] ↔ front = [] ∧ g x = [b]

/-- Pieces put together end in what the last of them stand for. -/
theorem suffix_flatten_iff {g : α → List β} {ends ending : List β} {xs : List α}
    {pieces : List (List β)} (h : List.Forall₂ (StandsFor g ends) xs pieces)
    (hending : ∀ b ∈ ending, b ∈ ends) :
    ending <:+ pieces.flatten ↔ ∃ back, back <:+ xs ∧ back.map g = ending.map ([·]) := by
  induction xs using List.reverseRecOn generalizing pieces ending with
  | nil =>
    cases h
    constructor
    · intro hsuffix
      exact ⟨[], List.nil_suffix, by simp [List.suffix_nil.mp hsuffix]⟩
    · rintro ⟨back, hback, hmap⟩
      rw [List.suffix_nil.mp hback, List.map_nil, eq_comm, List.map_eq_nil_iff] at hmap
      rw [hmap]
      exact List.nil_suffix
  | append_singleton xs x ih =>
    cases pieces using List.reverseRecOn with
    | nil => exact absurd h.length_eq (by simp)
    | append_singleton pieces piece =>
      have hreverse := List.forall₂_reverse_iff.mpr h
      rw [List.reverse_concat, List.reverse_concat, List.forall₂_cons] at hreverse
      obtain ⟨⟨hne, hpiece⟩, hrest⟩ := hreverse
      have hrest := List.forall₂_reverse_iff.mp hrest
      rw [List.flatten_append, List.flatten_singleton]
      cases ending using List.reverseRecOn with
      | nil => exact iff_of_true List.nil_suffix ⟨[], List.nil_suffix, rfl⟩
      | append_singleton ending b =>
        have hb : b ∈ ends := hending b (by simp)
        have ih := ih hrest fun c hc => hending c (List.mem_append_left _ hc)
        constructor
        · intro hsuffix
          -- The last piece ends in `b`, so it is nothing else.
          obtain ⟨front, d, rfl⟩ : ∃ front d, piece = front ++ [d] :=
            ⟨_, _, (List.dropLast_append_getLast hne).symm⟩
          rw [← List.append_assoc, concat_suffix_concat] at hsuffix
          obtain ⟨rfl, hsuffix⟩ := hsuffix
          obtain ⟨rfl, hx⟩ := (hpiece b hb front).mp rfl
          rw [List.append_nil] at hsuffix
          obtain ⟨back, hback, hmap⟩ := ih.mp hsuffix
          exact ⟨back ++ [x], concat_suffix_concat.mpr ⟨rfl, hback⟩, by simp [hmap, hx]⟩
        · rintro ⟨back, hback, hmap⟩
          cases back using List.reverseRecOn with
          | nil => exact absurd (congrArg List.length hmap) (by simp)
          | append_singleton back y =>
            obtain ⟨rfl, hbefore⟩ := concat_suffix_concat.mp hback
            rw [List.map_append, List.map_append, List.map_singleton, List.map_singleton,
              List.append_singleton_inj] at hmap
            obtain ⟨hmap, hy⟩ := hmap
            rw [(hpiece b hb []).mpr ⟨rfl, hy⟩, List.nil_append, concat_suffix_concat]
            exact ⟨rfl, ih.mpr ⟨back, hbefore, hmap⟩⟩

/-- The characters in the endings of pictures. -/
def endingChars : List Char := pictureEndings.flatMap String.toList

/-- A piece of a lower-cased text stands for a character. -/
abbrev Lowers (c : Char) (piece : List Char) : Prop := StandsFor lowerChar endingChars c piece

theorem lowers_of_last {c last : Char} {front : List Char}
    (hlast : endingChars.all (fun x => x != last && lowerChar c != [x]) = true) :
    Lowers c (front ++ [last]) := by
  refine ⟨by simp, fun x hx before => ?_⟩
  have hx' := List.all_eq_true.mp hlast x hx
  rw [Bool.and_eq_true, bne_iff_ne, bne_iff_ne] at hx'
  obtain ⟨hne, hc⟩ := hx'
  refine iff_of_false (fun h => ?_) fun h => hc h.2
  exact hne (List.append_singleton_inj.mp h).2.symm

theorem lowers_lowerChar (c : Char) : Lowers c (lowerChar c) := by
  rcases lowerChar_cases c with ⟨d, hd⟩ | hd
  · refine ⟨by simp [hd], fun x _ front => ?_⟩
    rw [hd, List.singleton_eq_append_iff]
    simp [eq_comm]
  · have hlast : Lowers c (['i'] ++ ['\u0307']) := by
      apply lowers_of_last
      rw [hd]
      rfl
    rwa [hd]

/-- The lower case of one character in front. -/
theorem exists_lowerAfter_cons (cased : Bool) (c : Char) (cs : List Char) :
    ∃ piece after, lowerAfter cased (c :: cs) = piece ++ lowerAfter after cs ∧ Lowers c piece := by
  rw [lowerAfter]
  split
  · next hsigma =>
    have hlast (d : Char) (hd : d = 'ς' ∨ d = 'σ') : Lowers c ([] ++ [d]) := by
      apply lowers_of_last
      rw [hsigma]
      rcases hd with rfl | rfl <;> rfl
    refine ⟨_, _, rfl, hlast _ ?_⟩
    split
    · exact .inl rfl
    · exact .inr rfl
  · exact ⟨_, _, rfl, lowers_lowerChar c⟩

/-- The lower case of an escaped character in front. -/
theorem exists_lowerAfter_escapeChar (cased : Bool) (c : Char) (cs : List Char) :
    ∃ piece after, lowerAfter cased (escapeChar c ++ cs) = piece ++ lowerAfter after cs ∧
      Lowers c piece := by
  have hmark (front : List Char)
      (hfront : (front ++ [';']).all (fun d => decide (IsLow d)) = true)
      (hc : endingChars.all (fun x => x != ';' && lowerChar c != [x]) = true) :
      ∃ piece after, lowerAfter cased ((front ++ [';']) ++ cs) = piece ++ lowerAfter after cs ∧
        Lowers c piece := by
    have hlow : ∀ d ∈ front ++ [';'], IsLow d := fun d hd =>
      of_decide_eq_true (List.all_eq_true.mp hfront d hd)
    obtain ⟨after, hafter⟩ := exists_lowerAfter_append hlow cased cs
    exact ⟨_, after, hafter, lowers_of_last hc⟩
  unfold escapeChar
  split
  · next h => exact hmark ['&', 'a', 'm', 'p'] (by decide) (by rw [h]; rfl)
  split
  · next h => exact hmark ['&', 'l', 't'] (by decide) (by rw [h]; rfl)
  split
  · next h => exact hmark ['&', 'g', 't'] (by decide) (by rw [h]; rfl)
  split
  · next h => exact hmark ['&', 'q', 'u', 'o', 't'] (by decide) (by rw [h]; rfl)
  split
  · next h => exact hmark ['&', '#', 'x', '2', '7'] (by decide) (by rw [h]; rfl)
  · exact exists_lowerAfter_cons cased c cs

/-- A text whose characters are rewritten in a way that does not matter to the endings of pictures
ends in its lower case as it does itself. -/
theorem suffix_lowerChars_iff {f : Char → List Char}
    (hf : ∀ cased c cs, ∃ piece after,
      lowerAfter cased (f c ++ cs) = piece ++ lowerAfter after cs ∧ Lowers c piece)
    {ending : List Char} (hending : ∀ x ∈ ending, x ∈ endingChars) (cs : List Char) :
    ending <:+ lowerChars (cs.flatMap f) ↔
      ∃ back, back <:+ cs ∧ back.map lowerChar = ending.map ([·]) := by
  have hpieces (cased : Bool) : ∃ pieces, List.Forall₂ Lowers cs pieces ∧
      lowerAfter cased (cs.flatMap f) = pieces.flatten := by
    induction cs generalizing cased with
    | nil => exact ⟨[], .nil, rfl⟩
    | cons c cs ih =>
      obtain ⟨piece, after, hpiece, hlowers⟩ := hf cased c (cs.flatMap f)
      obtain ⟨pieces, hpieces, hrest⟩ := ih after
      refine ⟨piece :: pieces, .cons hlowers hpieces, ?_⟩
      rw [List.flatMap_cons, hpiece, hrest, List.flatten_cons]
  obtain ⟨pieces, hpieces, hlower⟩ := hpieces false
  rw [lowerChars, hlower]
  exact suffix_flatten_iff hpieces hending

/-- Whether the lower case of a path ends like that of a picture. -/
def endsLikePicture (path : String) : Bool :=
  [".png", ".jpg", ".jpeg"].any fun ending => ending.toList.isSuffixOf (lowerChars path.toList)

/-- Escaping does not make a picture of a path, nor hide one. -/
theorem isPicture_eq (path : String) : isPicture path = endsLikePicture path := by
  have hiff {ending : String} (hmem : ending ∈ pictureEndings) :
      ending.toList <:+ lowerChars (escape path).toList ↔
        ending.toList <:+ lowerChars path.toList := by
    have hending : ∀ x ∈ ending.toList, x ∈ endingChars := fun x hx =>
      List.mem_flatMap.mpr ⟨ending, hmem, hx⟩
    have hplain := suffix_lowerChars_iff (f := fun c => [c]) exists_lowerAfter_cons hending
      path.toList
    rw [List.flatMap_singleton'] at hplain
    rw [toList_escape, suffix_lowerChars_iff exists_lowerAfter_escapeChar hending, hplain]
  rw [isPicture, endsLikePicture, ← pictureEndings, Bool.eq_iff_iff, List.any_eq_true,
    List.any_eq_true]
  simp only [List.isSuffixOf_iff_suffix]
  constructor
  · rintro ⟨ending, hmem, hsuffix⟩
    exact ⟨ending, hmem, (hiff hmem).mp hsuffix⟩
  · rintro ⟨ending, hmem, hsuffix⟩
    exact ⟨ending, hmem, (hiff hmem).mpr hsuffix⟩

end PageScript.Report

import PageScript.Proofs.Json.Ascii
import PageScript.Proofs.Json.Block
import PageScript.Proofs.Json.Printing
import PageScript.Proofs.Model.Unfence

/-!
# Replies that say an object

A model may put blanks around the object that it is asked for, or a fence with the name of a
language.  `Wraps t cs` says that `cs` is the text `t` with such things around it, and `unfence`
takes them off (`unfence_of_wraps`).  So the value in a reply is the object that the reply says,
whoever has written it and in which layout (`extract_of_says`).  A printed object is one such text,
with or without escapes for what is not ASCII (`says_of_printed`).
-/

namespace PageScript.Model

open PageScript.Json PageScript.Text

/-! ### Wrappings -/

/-- Texts in braces. -/
inductive Braced : List Char → Prop
  | intro (body : List Char) : Braced ('\x7b' :: (body ++ ['\x7d']))

/-- A text with blanks around it, or in a fence with blanks around that. -/
inductive Wraps (t : List Char) : List Char → Prop
  | bare {front back : List Char} (hfront : ∀ c ∈ front, isBlank c = true)
    (hback : ∀ c ∈ back, isBlank c = true) : Wraps t (front ++ t ++ back)
  | fenced {front info above below back : List Char} (hfront : ∀ c ∈ front, isBlank c = true)
    (hinfo : ∀ c ∈ info, isInfoChar c = true) (habove : ∀ c ∈ above, isBlank c = true)
    (hbelow : ∀ c ∈ below, isBlank c = true) (hback : ∀ c ∈ back, isBlank c = true) :
    Wraps t (front ++ (fence ++ info ++ above ++ t ++ below ++ fence) ++ back)

theorem Braced.edged {t : List Char} (h : Braced t) : Edged t := by
  obtain ⟨body⟩ := h
  exact edged_between rfl rfl body

/-- What is wrapped is found again. -/
theorem unfence_of_wraps {t cs : List Char} (ht : Braced t) (h : Wraps t cs) : unfence cs = t := by
  have hstop : ∀ c ∈ t.head?, isInfoChar c = false := by
    obtain ⟨body⟩ := ht
    rintro c ⟨⟩
    rfl
  cases h with
  | bare hfront hback =>
    rw [ht.edged.unfence_append (.inl hstop), unfenceFront_of_blank hfront,
      unfenceBack_of_blank hback, List.nil_append, List.append_nil]
  | @fenced front info above below back hfront hinfo habove hbelow hback =>
    have hcs : front ++ (fence ++ info ++ above ++ t ++ below ++ fence) ++ back =
        front ++ (fence ++ (info ++ above)) ++ t ++ (below ++ fence ++ back) := by
      simp only [List.append_assoc]
    rw [hcs, ht.edged.unfence_append (.inl hstop), unfenceFront_fence hfront hinfo habove,
      unfenceBack_fence hbelow hback, List.nil_append, List.append_nil]

/-! ### Saying a value -/

/-- A reply that is a text for an object, in whatever layout and wrapping. -/
def Says (v : Json) (reply : String) : Prop :=
  ∃ t, Renders (lexemes v) t ∧ Braced t ∧ Wraps t reply.toList

/-- The value in a reply is the one that it says. -/
theorem extract_of_says {v : Json} {reply : String} (hv : Legible v) (h : Says v reply) :
    extract reply = .ok v := by
  obtain ⟨t, hrenders, hbraced, hwraps⟩ := h
  apply extract_of_valueIn
  rw [unfence_of_wraps hbraced hwraps, valueIn, readChars_of_renders hv hrenders]
  rfl

/-! ### Printed objects -/

/-- The texts that a printer writes for a value, all as it is or in ASCII. -/
inductive Printed (v : Json) : List Char → Prop
  | plain {style : Style} (hstyle : style.Regular) : Printed v (chars style 0 v)
  | ascii {style : Style} (hstyle : style.Regular) : Printed v (inAscii (chars style 0 v))

theorem Printed.renders {v : Json} {t : List Char} (hv : Legible v) (h : Printed v t) :
    Renders (lexemes v) t := by
  cases h with
  | plain hstyle => exact renders_chars hstyle hv 0
  | ascii hstyle => exact (renders_chars hstyle hv 0).inAscii

theorem braced_chars (style : Style) (depth : Nat) (fields : Fields) :
    Braced (chars style depth (.object fields)) := by
  obtain ⟨body, hbody⟩ := exists_chars_eq (v := .object fields) rfl style depth
  rw [hbody]
  exact .intro body

theorem Braced.inAscii {t : List Char} (h : Braced t) : Braced (inAscii t) := by
  obtain ⟨body⟩ := h
  rw [inAscii_cons (by decide), inAscii_append]
  exact .intro _

/-- A reply says the object that is printed in it. -/
theorem says_of_printed {fields : Fields} (h : Legible (.object fields)) {t : List Char}
    {reply : String} (ht : Printed (.object fields) t) (hwraps : Wraps t reply.toList) :
    Says (.object fields) reply := by
  refine ⟨t, ht.renders h, ?_, hwraps⟩
  cases ht with
  | plain => exact braced_chars _ 0 fields
  | ascii => exact (braced_chars _ 0 fields).inAscii

end PageScript.Model

import PageScript.Proofs.Json.Word

/-!
# The characters of written numbers

A written number consists of digits, signs, a point, the letter of an exponent and the letters of
the names for what is not finite (`isNumeral_writeInt`, `isNumeral_write`).
-/

namespace PageScript.Json

open PageScript.Number

/-- The characters that numbers are written with. -/
def isNumeralChar (c : Char) : Bool :=
  isAsciiDigit c || ['+', '-', '.', 'e', 'I', 'n', 'f', 'i', 't', 'y', 'N', 'a'].contains c

/-- A text of such characters only. -/
def IsNumeral (cs : List Char) : Prop := ∀ c ∈ cs, isNumeralChar c = true

instance : DecidablePred IsNumeral :=
  fun cs => List.decidableBAll (fun c : Char => isNumeralChar c = true) cs

variable {cs ds : List Char} {c : Char}

theorem IsNumeral.append (hcs : IsNumeral cs) (hds : IsNumeral ds) : IsNumeral (cs ++ ds) :=
  fun c hc => (List.mem_append.mp hc).elim (hcs c) (hds c)

theorem IsNumeral.cons (hc : isNumeralChar c = true) (hcs : IsNumeral cs) : IsNumeral (c :: cs) :=
  List.forall_mem_cons.mpr ⟨hc, hcs⟩

theorem IsNumeral.sublist (hds : IsNumeral ds) (h : cs.Sublist ds) : IsNumeral cs :=
  fun c hc => hds c (h.mem hc)

theorem isNumeral_replicate (n : Nat) (hc : isNumeralChar c = true) :
    IsNumeral (List.replicate n c) := by
  intro d hd
  rwa [List.eq_of_mem_replicate hd]

theorem isNumeral_toDigits (m : Nat) : IsNumeral (Nat.toDigits 10 m) := by
  intro c hc
  rw [isNumeralChar, isAsciiDigit_of_mem_toDigits hc, Bool.true_or]

theorem isNumeral_writeInt (n : Int) : IsNumeral (writeInt n).toList := by
  unfold writeInt
  dsimp only
  split
  · simp only [String.toList_append, String.toList_ofList]
    exact .append (by decide) (isNumeral_toDigits _)
  · rw [String.toList_ofList]
    exact isNumeral_toDigits _

theorem writeInt_ne_nil (n : Int) : (writeInt n).toList ≠ [] := by
  have hdigits : Nat.toDigits 10 n.natAbs ≠ [] := List.ne_nil_of_length_pos Nat.length_toDigits_pos
  unfold writeInt
  dsimp only
  split
  · simp
  · rwa [String.toList_ofList]

theorem isNumeral_positional (h : IsNumeral ds) (place : Int) :
    IsNumeral (Layout.positional ds place) := by
  have hzeros (n : Nat) : IsNumeral (List.replicate n '0') := isNumeral_replicate n (by decide)
  unfold Layout.positional
  split
  · exact .cons (by decide) (.cons (by decide) ((hzeros _).append h))
  dsimp only
  split
  · exact (h.append (hzeros _)).append (.cons (by decide) (.cons (by decide) nofun))
  · exact (h.sublist (List.take_sublist ..)).append
      (.cons (by decide) (h.sublist (List.drop_sublist ..)))

theorem isNumeral_exponential (layout : Layout) (h : IsNumeral ds) (place : Int) :
    IsNumeral (layout.exponential ds place) := by
  unfold Layout.exponential
  dsimp only
  refine .append ?_ (.cons (by decide) (.cons ?_ (.append (isNumeral_replicate _ (by decide))
    (isNumeral_toDigits _))))
  · split
    · exact h
    · exact (h.sublist (List.take_sublist ..)).append
        (.cons (by decide) (h.sublist (List.drop_sublist ..)))
  · split <;> decide

theorem isNumeral_magnitude (layout : Layout) (x : Scientific) :
    IsNumeral (layout.magnitude x) := by
  unfold Layout.magnitude
  dsimp only
  split
  · exact isNumeral_positional (isNumeral_toDigits _) _
  · exact isNumeral_exponential layout (isNumeral_toDigits _) _

theorem isNumeral_write (x : Float) : IsNumeral (Layout.data.write x).toList := by
  unfold Layout.write
  dsimp only
  split
  · decide
  · next negative _ => cases negative <;> decide
  · next negative _ _ => cases negative <;> decide
  · next negative m e _ _ =>
    have hmagnitude := isNumeral_magnitude Layout.data (Shortest.ofPositive m e)
    cases negative with
    | true =>
      simp only [if_pos, String.toList_append, String.toList_ofList]
      exact .append (by decide) hmagnitude
    | false =>
      rw [if_neg (by decide), String.toList_ofList]
      exact hmagnitude

end PageScript.Json

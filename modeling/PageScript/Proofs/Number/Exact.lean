import Mathlib.Data.Rat.Floor
import PageScript.Number.Binary

/-!
# Exact values

A finite number is a significand times a power of two.  Whatever calculates with it takes it as a
quotient of natural numbers; `fraction_cast` says that nothing is lost, and `isExactly_iff` when the
number is whole.
-/

namespace PageScript.Number

theorem fraction_den_pos (m : Nat) (e : Int) : 0 < (Binary.fraction m e).2 := by
  unfold Binary.fraction
  split
  · exact Nat.one_pos
  · exact Nat.pow_pos Nat.two_pos

theorem fraction_cast (m : Nat) (e : Int) :
    ((Binary.fraction m e).1 : ℚ) / (Binary.fraction m e).2 = m * 2 ^ e := by
  unfold Binary.fraction
  split
  · next h =>
    obtain ⟨n, rfl⟩ := Int.eq_ofNat_of_zero_le h
    simp
  · next h =>
    obtain ⟨n, hn⟩ := Int.eq_ofNat_of_zero_le (show 0 ≤ -e by omega)
    obtain rfl : e = -(n : ℤ) := by omega
    simp [div_eq_mul_inv]

theorem fraction_div (m : Nat) (e : Int) :
    (Binary.fraction m e).1 / (Binary.fraction m e).2 = ⌊(m * 2 ^ e : ℚ)⌋₊ := by
  rw [← fraction_cast, Rat.natFloor_natCast_div_natCast]

/-- A quotient is a whole number if nothing is left over. -/
theorem cast_div_eq_iff {num den : Nat} (h : 0 < den) (n : Int) :
    (num : ℚ) / den = n ↔ num % den = 0 ∧ ((num / den : Nat) : Int) = n := by
  rw [div_eq_iff (by positivity)]
  constructor
  · intro hnum
    have hint : (num : Int) = n * den := by exact_mod_cast hnum
    obtain ⟨k, rfl⟩ : ∃ k : Nat, n = k := by
      apply Int.eq_ofNat_of_zero_le
      by_contra hneg
      have := Int.mul_neg_of_neg_of_pos (show n < 0 by omega) (show (0 : Int) < den by omega)
      omega
    obtain rfl : num = k * den := by exact_mod_cast hint
    exact ⟨Nat.mul_mod_left k den, congrArg _ (Nat.mul_div_cancel k h)⟩
  · rintro ⟨hmod, rfl⟩
    exact_mod_cast (Nat.div_mul_cancel (Nat.dvd_of_mod_eq_zero hmod)).symm

/-- A finite number and its exact value. -/
def IsExactly (x : Float) (q : ℚ) : Prop :=
  ∃ negative m e, Binary.ofFloat x = .finite negative m e ∧
    q = (if negative then -1 else 1) * (m * 2 ^ e)

/-- A number is whole if its quotient is, and then its sign decides. -/
theorem isExactly_iff {x : Float} {negative : Bool} {m : Nat} {e : Int}
    (hbits : Binary.ofFloat x = .finite negative m e) (n : Int) :
    IsExactly x n ↔ (Binary.fraction m e).1 % (Binary.fraction m e).2 = 0 ∧
      signed negative ((Binary.fraction m e).1 / (Binary.fraction m e).2) = n := by
  have hexactly : IsExactly x n ↔ (n : ℚ) = (if negative then -1 else 1) * (m * 2 ^ e) := by
    constructor
    · rintro ⟨_, _, _, hbits', hn⟩
      cases hbits.symm.trans hbits'
      exact hn
    · exact fun hn => ⟨negative, m, e, hbits, hn⟩
  rw [hexactly, ← fraction_cast]
  have hden := fraction_den_pos m e
  generalize (Binary.fraction m e).1 = num at *
  generalize (Binary.fraction m e).2 = den at *
  cases negative with
  | false =>
    rw [eq_comm]
    simpa [signed] using cast_div_eq_iff hden n
  | true =>
    have hneg : (n : ℚ) = (if true then -1 else 1) * ((num : ℚ) / den) ↔
        (num : ℚ) / den = ((-n : Int) : ℚ) := by
      simp only [if_true]
      push_cast
      constructor <;> intro h <;> linarith
    rw [hneg, cast_div_eq_iff hden, signed, if_pos rfl]
    omega

end PageScript.Number

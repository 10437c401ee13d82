import PageScript.Number.Reader

/-!
# Numbers that are read are defined

A decimal text may be read as an infinite number, but never as the undefined one.  Operations give
the undefined number for undefined operands and for a few pairs of others, all of which have an
infinity or two zeros among them.  Reading a decimal only multiplies with a power of ten or divides
by one, and such a power is neither infinite nor zero.
-/

namespace PageScript.Number

open Float.Model (Format UnpackedFloat)
open Float.Model.UnpackedFloat

/-! ### Operations on numbers taken apart -/

section

variable {spec : Format} {u : UnpackedFloat}

/-- A mantissa marks the undefined number only if it stands behind the largest exponent. -/
theorem isNaN_unpack {b : BitVec spec.numBits} :
    (unpack spec b).isNaN = true ↔ unpackExponent b = -1#_ ∧ unpackMantissa b ≠ 0#_ := by
  show (if unpackExponent b = -1#_ then if unpackMantissa b = 0#_ then _ else _
    else if unpackExponent b = 0#_ then _ else _ : UnpackedFloat).isNaN = true ↔ _
  by_cases hexponent : unpackExponent b = -1#_
  · rw [if_pos hexponent]
    by_cases hmantissa : unpackMantissa b = 0#_
    · rw [if_pos hmantissa]
      exact iff_of_false Bool.false_ne_true fun h => h.2 hmantissa
    · rw [if_neg hmantissa]
      exact iff_of_true rfl ⟨hexponent, hmantissa⟩
  · rw [if_neg hexponent]
    refine iff_of_false ?_ fun h => hexponent h.1
    by_cases hzero : unpackExponent b = 0#_
    · rw [if_pos hzero]
      by_cases hmantissa : unpackMantissa b = 0#_
      · rw [dif_pos hmantissa]
        exact Bool.false_ne_true
      · rw [dif_neg hmantissa]
        exact Bool.false_ne_true
    · rw [if_neg hzero]
      exact Bool.false_ne_true

/-- Packing does not make a number undefined, whatever it is rounded to. -/
theorem isNaN_unpack_pack (h : u.isNaN = false) : (unpack spec (pack spec u)).isNaN = false := by
  rw [← Bool.not_eq_true, isNaN_unpack]
  rintro ⟨hexponent, hmantissa⟩
  revert hexponent hmantissa
  fun_cases pack with
  | case1 => cases h
  | case2 s | case4 s => simp [packedInfinity]
  | case3 s => simp [packedZero]
  | case5 s m e hm bits exponent hfits hnormal =>
    -- The exponent stays below the largest, which is kept for the infinities.
    have hbelow : exponent < 2 ^ spec.exponentBits - 1 := by omega
    have hmod : exponent % 2 ^ spec.exponentBits = exponent := Nat.mod_eq_of_lt (by omega)
    have hne : exponent ≠ 2 ^ spec.exponentBits - 1 := Nat.ne_of_lt hbelow
    simp [BitVec.neg_one_eq_allOnes, ← BitVec.toNat_inj, hmod, hne]
  | case6 => simp [Nat.pos_iff_ne_zero.mp spec.he]

theorem isNaN_roundWithAccuracy (s : Sign) (m : Nat) (e : Int) (a : Accuracy) :
    (roundWithAccuracy spec s m e a).isNaN = false := by
  fun_cases roundWithAccuracy <;> rfl

/-- A product with a number that is neither infinite nor zero. -/
theorem isNaN_mul_finite (h : u.isNaN = false) {s : Sign} {m : Nat} {e : Int} (hm : 0 < m) :
    (mul spec u (.finite s m e hm)).isNaN = false := by
  cases u with
  | notANumber => cases h
  | infinity | zero => rfl
  | finite => exact isNaN_roundWithAccuracy _ _ _ _

/-- A quotient by a number that is neither infinite nor zero. -/
theorem isNaN_div_finite (h : u.isNaN = false) {s : Sign} {m : Nat} {e : Int} (hm : 0 < m) :
    (div spec u (.finite s m e hm)).isNaN = false := by
  cases u with
  | notANumber => cases h
  | infinity | zero => rfl
  | finite => exact isNaN_roundWithAccuracy _ _ _ _

theorem isNaN_neg (h : u.isNaN = false) : u.neg.isNaN = false := by
  cases u with
  | notANumber => cases h
  | infinity | zero | finite => rfl

theorem isNaN_ofNat (n : Nat) : (UnpackedFloat.ofNat spec n).isNaN = false := by
  unfold UnpackedFloat.ofNat UnpackedFloat.ofInt UnpackedFloat.normalize
  split
  · exact isNaN_roundWithAccuracy _ _ _ _
  · rfl
  · exact isNaN_roundWithAccuracy _ _ _ _

theorem isNaN_ofScientific (m : Nat) (e : Int) :
    (UnpackedFloat.ofScientific spec m e).isNaN = false := by
  fun_cases UnpackedFloat.ofScientific with
  | case1 | case2 | case3 => rfl
  | case4 => exact isNaN_mul_finite rfl _
  | case5 => exact isNaN_div_finite rfl _

end

/-! ### Operations on double-precision numbers -/

/-- Not the undefined number. -/
def Defined (x : Float) : Prop := x.isNaN = false

instance : DecidablePred Defined := fun x => inferInstanceAs (Decidable (x.isNaN = false))

theorem defined_pack {u : UnpackedFloat} (h : u.isNaN = false) : Defined (.ofModel (.pack u)) :=
  isNaN_unpack_pack h

/-- Neither undefined nor infinite nor zero. -/
def Regular (x : Float) : Prop := ∃ s m e hm, x.toModel.unpack = .finite s m e hm

instance : DecidablePred Regular := fun x =>
  match h : x.toModel.unpack with
  | .finite s m e hm => isTrue ⟨s, m, e, hm, h⟩
  | .notANumber | .infinity _ | .zero _ => isFalse fun ⟨_, _, _, _, hfinite⟩ => by
    cases h.symm.trans hfinite

theorem Defined.neg {x : Float} (h : Defined x) : Defined (-x) := defined_pack (isNaN_neg h)

theorem Defined.mul {x y : Float} (h : Defined x) (hy : Regular y) : Defined (x * y) := by
  obtain ⟨s, m, e, hm, hy⟩ := hy
  apply defined_pack
  rw [hy]
  exact isNaN_mul_finite h hm

theorem Defined.div {x y : Float} (h : Defined x) (hy : Regular y) : Defined (x / y) := by
  obtain ⟨s, m, e, hm, hy⟩ := hy
  apply defined_pack
  rw [hy]
  exact isNaN_div_finite h hm

theorem defined_toFloat (n : UInt64) : Defined n.toFloat := defined_pack (isNaN_ofNat _)

theorem regular_powerOfTen {e : Nat} (h : e < Float.exactlyRepresentablePowersOfTen.size) :
    Regular Float.exactlyRepresentablePowersOfTen[e] := by
  have hall : ∀ x ∈ Float.exactlyRepresentablePowersOfTen, Regular x := by decide +kernel
  exact hall _ (Array.getElem_mem h)

/-- Small decimals are computed with a power of ten, the others with their exact values. -/
theorem defined_ofScientific (m : Nat) (s : Bool) (e : Nat) :
    Defined (Float.ofScientific m s e) := by
  unfold Float.ofScientific
  split
  · dsimp only
    split
    · exact (defined_toFloat _).div (regular_powerOfTen _)
    · exact (defined_toFloat _).mul (regular_powerOfTen _)
  · exact defined_pack (isNaN_ofScientific _ _)

/-! ### Numbers that are read -/

theorem DecimalText.defined_toFloat (x : DecimalText) : Defined x.toFloat := by
  have hmagnitude : Defined
      (if Text.ofDigits x.digits = 0 ∨ x.scale + x.digits.length < -400 then 0.0
      else if 400 < x.scale then 1.0 / 0.0
      else Float.ofScientific (Text.ofDigits x.digits) (x.scale < 0) x.scale.natAbs) := by
    split
    · decide +kernel
    · split
      · decide +kernel
      · exact defined_ofScientific _ _ _
  unfold toFloat
  dsimp only
  split
  · exact hmagnitude.neg
  · exact hmagnitude

theorem toNat_unpackExponent (b : BitVec Format.binary64.numBits) :
    (unpackExponent b).toNat = b.toNat / Nat.pow 2 52 % Nat.pow 2 11 := by
  simp [unpackExponent, BitVec.extractLsb_toNat, Nat.shiftRight_eq_div_pow]

theorem toNat_unpackMantissa (b : BitVec Format.binary64.numBits) :
    (unpackMantissa b).toNat = b.toNat % Nat.pow 2 52 := by
  simp [unpackMantissa, BitVec.extractLsb_toNat]

/-- The bits of a defined number do not mean the undefined one. -/
theorem Defined.ofFloat_ne_undefined {x : Float} (h : Defined x) :
    Binary.ofFloat x ≠ .undefined := by
  intro hbits
  rw [Defined, ← Bool.not_eq_true] at h
  apply h
  unfold Binary.ofFloat at hbits
  dsimp only at hbits
  split at hbits
  · next hexponent =>
    split at hbits
    · cases hbits
    · next hmantissa =>
      refine isNaN_unpack.mpr ⟨?_, ?_⟩
      · apply BitVec.eq_of_toNat_eq
        rw [toNat_unpackExponent]
        exact hexponent
      · intro hzero
        apply hmantissa
        have := congrArg BitVec.toNat hzero
        rwa [toNat_unpackMantissa] at this
  · split at hbits <;> cases hbits

end PageScript.Number

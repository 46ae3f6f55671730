import Mathlib

/-!
Doubles taken apart into sign, mantissa and exponent. Arithmetic rounds a result and packs it into
bits; neither loses the sign of a number, and a result of moderate size stays finite and no zero.
-/

namespace Scouting.Unpacked

open Float.Model (UnpackedFloat Format totalExponent)
open Float.Model.UnpackedFloat

def signOf : UnpackedFloat → Option Sign
  | .infinity sign => some sign
  | .zero sign => some sign
  | .finite sign _ _ _ => some sign
  | .notANumber => none

theorem isNaN_eq_false_iff {number : UnpackedFloat} :
    number.isNaN = false ↔ ∃ sign, signOf number = some sign := by
  cases number with
  | notANumber => simp [isNaN, signOf]
  | infinity sign => simp [isNaN, signOf]
  | zero sign => simp [isNaN, signOf]
  | finite sign mantissa exponent positive => simp [isNaN, signOf]

section
variable {format : Format} {sign : Sign} {exponent : BitVec format.exponentBits}
  {mantissa : BitVec format.mantissaBitsWithoutImplicit}

theorem ofBitVec_toBitVec (sign : Sign) : Sign.ofBitVec sign.toBitVec = sign := by
  cases sign with
  | negative => rfl
  | positive => rfl

theorem unpackSign_packComponents :
    unpackSign (packComponents format sign exponent mantissa) = sign.toBitVec := by
  ext index bound
  obtain rfl : index = 0 := by omega
  simp [unpackSign, packComponents, BitVec.getLsbD_append, BitVec.getElem_append]

theorem signOf_components (number : exponent = -1#_ → mantissa = 0#_) :
    signOf (unpack format (packComponents format sign exponent mantissa)) = some sign := by
  simp only [unpack, unpackExponent_packComponents, unpackMantissa_packComponents,
    unpackSign_packComponents, ofBitVec_toBitVec]
  split
  · rename_i highest
    rw [if_pos (number highest)]
    rfl
  · split
    · split
      · rfl
      · rfl
    · rfl

theorem biased_ne_highest {biased : ℕ} (inRange : ¬2 ^ format.exponentBits ≤ biased + 1) :
    BitVec.ofNat format.exponentBits biased ≠ -1#_ := by
  rw [BitVec.neg_one_eq_allOnes, ne_eq, ← BitVec.toNat_inj, BitVec.toNat_ofNat,
    BitVec.toNat_allOnes, Nat.mod_eq_of_lt (by omega)]
  omega

theorem zero_ne_highest : 0#(format.exponentBits) ≠ -1#_ := by
  simp [Nat.pos_iff_ne_zero.1 format.he]

theorem signOf_pack {number : UnpackedFloat} (signed : signOf number = some sign) :
    signOf (unpack format (pack format number)) = some sign := by
  cases number with
  | notANumber => cases signed
  | infinity other =>
      cases signed
      exact signOf_components fun _ => rfl
  | zero other =>
      cases signed
      exact signOf_components fun _ => rfl
  | finite other mantissa exponent positive =>
      cases signed
      simp only [pack]
      split
      · exact signOf_components fun _ => rfl
      · rename_i inRange
        split
        · exact signOf_components fun highest => absurd highest (biased_ne_highest inRange)
        · exact signOf_components fun highest => absurd highest zero_ne_highest

end

section
variable {format : Format}

theorem signOf_roundWithAccuracy (sign : Sign) (mantissa : ℕ) (exponent : ℤ)
    (accuracy : Accuracy) :
    signOf (roundWithAccuracy format sign mantissa exponent accuracy) = some sign := by
  simp only [roundWithAccuracy]
  split
  · rfl
  · rfl

theorem exists_signOf_normalize (mantissa exponent : ℤ) (zeroSign : Sign) :
    ∃ sign, signOf (UnpackedFloat.normalize format mantissa exponent zeroSign) = some sign := by
  simp only [UnpackedFloat.normalize]
  split
  · exact ⟨_, signOf_roundWithAccuracy _ _ _ _⟩
  · exact ⟨_, rfl⟩
  · exact ⟨_, signOf_roundWithAccuracy _ _ _ _⟩

theorem signOf_normalize {mantissa : ℤ} (nonnegative : 0 ≤ mantissa) (exponent : ℤ) :
    signOf (UnpackedFloat.normalize format mantissa exponent .positive) = some .positive := by
  simp only [UnpackedFloat.normalize]
  split
  · rename_i below
    rw [compare_lt_iff_lt] at below
    omega
  · rfl
  · exact signOf_roundWithAccuracy _ _ _ _

theorem exists_signOf_add {left right : UnpackedFloat} (number : left.isNaN = false)
    (finite : right.isFinite) : ∃ sign, signOf (add format left right) = some sign := by
  cases right with
  | notANumber => cases finite
  | infinity sign => cases finite
  | zero sign =>
      cases left with
      | notANumber => cases number
      | infinity other => exact ⟨_, rfl⟩
      | zero other =>
          simp only [add]
          split
          · exact ⟨_, rfl⟩
          · exact ⟨_, rfl⟩
      | finite other mantissa exponent positive => exact ⟨_, rfl⟩
  | finite sign mantissa exponent positive =>
      cases left with
      | notANumber => cases number
      | infinity other => exact ⟨_, rfl⟩
      | zero other => exact ⟨_, rfl⟩
      | finite other mantissa exponent positive => exact exists_signOf_normalize _ _ _

theorem exists_signOf_sub {left right : UnpackedFloat} (finite : left.isFinite)
    (number : right.isNaN = false) : ∃ sign, signOf (sub format left right) = some sign := by
  cases left with
  | notANumber => cases finite
  | infinity sign => cases finite
  | zero sign =>
      cases right with
      | notANumber => cases number
      | infinity other => exact ⟨_, rfl⟩
      | zero other =>
          simp only [sub]
          split
          · exact ⟨_, rfl⟩
          · exact ⟨_, rfl⟩
      | finite other mantissa exponent positive => exact ⟨_, rfl⟩
  | finite sign mantissa exponent positive =>
      cases right with
      | notANumber => cases number
      | infinity other => exact ⟨_, rfl⟩
      | zero other => exact ⟨_, rfl⟩
      | finite other mantissa exponent positive => exact exists_signOf_normalize _ _ _

theorem signOf_square {number : UnpackedFloat} (isNumber : number.isNaN = false) :
    signOf (mul format number number) = some .positive := by
  have square (sign : Sign) : sign * sign = .positive := by
    cases sign with
    | negative => rfl
    | positive => rfl
  cases number with
  | notANumber => cases isNumber
  | infinity sign => exact congrArg some (square sign)
  | zero sign => exact congrArg some (square sign)
  | finite sign mantissa exponent positive =>
      rw [mul, signOf_roundWithAccuracy, square]

def IsNonnegative (number : UnpackedFloat) : Prop :=
  signOf number = some .positive ∨ ∃ sign, number = .zero sign

theorem signOf_add {left right : UnpackedFloat} (nonnegative : IsNonnegative left)
    (positive : signOf right = some .positive) :
    signOf (add format left right) = some .positive := by
  obtain signed | ⟨sign, rfl⟩ := nonnegative
  · rcases left with _ | _ | _ | ⟨_, mantissa, exponent, _⟩ <;> cases signed <;>
      rcases right with _ | _ | _ | ⟨_, other, otherExponent, _⟩ <;> cases positive
    case finite.refl.finite.refl =>
      exact signOf_normalize (Int.add_nonneg (Int.natCast_nonneg _) (Int.natCast_nonneg _)) _
    all_goals rfl
  · rcases right with _ | _ | _ | _ <;> cases positive
    case zero.refl => cases sign <;> rfl
    all_goals rfl

theorem exists_signOf_div {left right : UnpackedFloat} (number : left.isNaN = false)
    (finite : right.isFinite) (nonzero : ∀ sign, right ≠ .zero sign) :
    ∃ sign, signOf (div format left right) = some sign := by
  cases right with
  | notANumber => cases finite
  | infinity sign => cases finite
  | zero sign => exact absurd rfl (nonzero sign)
  | finite sign mantissa exponent positive =>
      cases left with
      | notANumber => cases number
      | infinity other => exact ⟨_, rfl⟩
      | zero other => exact ⟨_, rfl⟩
      | finite other mantissa exponent positive => exact ⟨_, signOf_roundWithAccuracy _ _ _ _⟩

theorem exists_signOf_mul {left right : UnpackedFloat} (number : left.isNaN = false)
    (finite : right.isFinite) (nonzero : ∀ sign, right ≠ .zero sign) :
    ∃ sign, signOf (mul format left right) = some sign := by
  cases right with
  | notANumber => cases finite
  | infinity sign => cases finite
  | zero sign => exact absurd rfl (nonzero sign)
  | finite sign mantissa exponent positive =>
      cases left with
      | notANumber => cases number
      | infinity other => exact ⟨_, rfl⟩
      | zero other => exact ⟨_, rfl⟩
      | finite other mantissa exponent positive => exact ⟨_, signOf_roundWithAccuracy _ _ _ _⟩

theorem exists_signOf_ofScientific (digits : ℕ) (exponent : ℤ) :
    ∃ sign, signOf (UnpackedFloat.ofScientific format digits exponent) = some sign := by
  simp only [UnpackedFloat.ofScientific]
  split
  · exact ⟨_, rfl⟩
  · split
    · exact ⟨_, rfl⟩
    · split
      · exact ⟨_, rfl⟩
      · split
        · exact exists_signOf_mul rfl rfl nofun
        · exact exists_signOf_div rfl rfl nofun

theorem signOf_div {left : UnpackedFloat} (signed : signOf left = some .positive) (mantissa : ℕ)
    (exponent : ℤ) (positive : 0 < mantissa) :
    signOf (div format left (.finite .positive mantissa exponent positive)) = some .positive := by
  cases left with
  | notANumber => cases signed
  | infinity sign =>
      cases signed
      rfl
  | zero sign =>
      cases signed
      rfl
  | finite sign other otherExponent otherPositive =>
      cases signed
      exact signOf_roundWithAccuracy _ _ _ _

theorem exists_signOf_sqrt {number : UnpackedFloat} (signed : signOf number = some .positive) :
    ∃ sign, signOf (sqrt format number) = some sign := by
  cases number with
  | notANumber => cases signed
  | infinity sign =>
      cases signed
      exact ⟨_, rfl⟩
  | zero sign => exact ⟨_, rfl⟩
  | finite sign mantissa exponent positive =>
      cases signed
      exact ⟨_, signOf_roundWithAccuracy _ _ _ _⟩

end

/-- Is this finite and no zero, with a mantissa and an exponent of a double? -/
def IsSizable (sign : Sign) (highest : ℤ) (number : UnpackedFloat) : Prop :=
  ∃ mantissa exponent positive, number = .finite sign mantissa exponent positive ∧
    mantissa < 2 ^ 53 ∧ -1074 ≤ exponent ∧ exponent ≤ highest

theorem IsSizable.mono {sign : Sign} {highest higher : ℤ} {number : UnpackedFloat}
    (sizable : IsSizable sign highest number) (below : highest ≤ higher) :
    IsSizable sign higher number := by
  obtain ⟨mantissa, exponent, positive, same, small, least, most⟩ := sizable
  exact ⟨mantissa, exponent, positive, same, small, least, most.trans below⟩

section
variable {sign : Sign}

theorem isSizable_normal {exponent : ℕ} (positive : 0 < exponent) (inRange : exponent < 2047)
    (mantissa : BitVec 52) : IsSizable sign (exponent - 1075)
      (unpack Format.binary64
        (packComponents Format.binary64 sign (BitVec.ofNat 11 exponent) mantissa)) := by
  have bias : ((Format.binary64.exponentBias : ℕ) : ℤ) = 1023 := rfl
  have value : (BitVec.ofNat 11 exponent).toNat = exponent := by
    rw [BitVec.toNat_ofNat]
    omega
  have below : ¬2 ^ 11 ≤ exponent + 1 := by omega
  have notHighest : BitVec.ofNat Format.binary64.exponentBits exponent ≠ -1#_ :=
    biased_ne_highest below
  have notLeast : BitVec.ofNat 11 exponent ≠ 0#11 := by
    intro same
    rw [same] at value
    exact Nat.ne_of_lt positive value
  simp only [unpack, unpackExponent_packComponents, unpackMantissa_packComponents,
    unpackSign_packComponents, ofBitVec_toBitVec]
  rw [if_neg notHighest, if_neg notLeast]
  exact ⟨_, _, _, rfl, (1#1 ++ mantissa).isLt, by omega, by omega⟩

theorem isSizable_subnormal {mantissa : BitVec 52} (nonzero : mantissa ≠ 0#52) :
    IsSizable sign (-1074)
      (unpack Format.binary64 (packComponents Format.binary64 sign 0#11 mantissa)) := by
  have bias : ((Format.binary64.exponentBias : ℕ) : ℤ) = 1023 := rfl
  simp only [unpack, unpackExponent_packComponents, unpackMantissa_packComponents,
    unpackSign_packComponents, ofBitVec_toBitVec]
  rw [if_neg (by decide), if_pos trivial, dif_neg nonzero]
  exact ⟨_, _, _, rfl, by omega, by simp [bias], by simp [bias]⟩

theorem isSizable_pack {highest : ℤ} {number : UnpackedFloat}
    (sizable : IsSizable sign highest number) (inRange : highest ≤ 971) :
    IsSizable sign highest (unpack Format.binary64 (pack Format.binary64 number)) := by
  obtain ⟨mantissa, exponent, positive, rfl, small, least, most⟩ := sizable
  have biased : exponent + Format.binary64.exponentBias +
      (Format.binary64.mantissaBitsWithoutImplicit : ℕ) = exponent + 1075 := by
    have bias : ((Format.binary64.exponentBias : ℕ) : ℤ) = 1023 := rfl
    have bits : ((Format.binary64.mantissaBitsWithoutImplicit : ℕ) : ℤ) = 52 := rfl
    omega
  have noOverflow : ¬2 ^ 11 ≤ (exponent + 1075).toNat + 1 := by omega
  rw [pack, biased, if_neg noOverflow]
  split
  · exact (isSizable_normal (by omega) (by omega) _).mono (by omega)
  · rename_i short
    have digits : mantissa.log2 ≠ 52 := fun full => short (by rw [full]; rfl)
    have most : mantissa.log2 < 53 := (Nat.log2_lt (Nat.ne_of_gt positive)).mpr small
    have fits : mantissa < 2 ^ 52 := (Nat.log2_lt (Nat.ne_of_gt positive)).mp (by omega)
    refine (isSizable_subnormal fun zero => ?_).mono (by omega)
    have value := congrArg BitVec.toNat zero
    rw [BitVec.toNat_ofNat, BitVec.toNat_ofNat, Nat.zero_mod, Nat.mod_eq_of_lt fits] at value
    exact Nat.ne_of_gt positive value

end

theorem mantissa_shiftRight (extended : ExtendedMantissa) (count : ℕ) :
    (extended >>> count).mantissa = extended.mantissa / 2 ^ count := by
  induction count with
  | zero => simp [HShiftRight.hShiftRight, Nat.repeat]
  | succ count ih =>
      change (extended >>> count).mantissa / 2 = _
      rw [ih, Nat.div_div_eq_div_mul, Nat.pow_succ]

theorem mantissa_ofMantissaAndAccuracy (mantissa : ℕ) (accuracy : Accuracy) :
    (ExtendedMantissa.ofMantissaAndAccuracy mantissa accuracy).mantissa = mantissa := by
  rcases accuracy with _ | _ | _ | _ <;> rfl

theorem roundedMantissa_bounds (extended : ExtendedMantissa) :
    extended.mantissa ≤ extended.roundedMantissa ∧
      extended.roundedMantissa ≤ extended.mantissa + 1 := by
  rw [ExtendedMantissa.roundedMantissa]
  rcases extended.accuracy with _ | _ | _ | _ <;>
    simp only [Accuracy.roundToNearestEven] <;> omega

theorem targetExponent_binary64 (exponent : ℤ) :
    Format.binary64.targetExponent exponent = max (exponent - 53) (-1074) := by
  simp only [Format.targetExponent]
  rfl

/-- By how many digits a mantissa is shifted to the right when it is rounded. -/
def shift (mantissa : ℕ) (exponent : ℤ) : ℕ :=
  (Format.binary64.targetExponent (totalExponent mantissa exponent) - exponent).toNat

theorem shift_eq (mantissa : ℕ) (exponent : ℤ) :
    shift mantissa exponent = (max ((mantissa.log2 : ℤ) - 52) (-1074 - exponent)).toNat := by
  rw [shift, targetExponent_binary64, totalExponent]
  congr 1
  omega

theorem shiftToTargetExponent_eq (mantissa : ℕ) (exponent : ℤ) (accuracy : Accuracy) :
    shiftToTargetExponent Format.binary64 mantissa exponent accuracy =
      (ExtendedMantissa.ofMantissaAndAccuracy mantissa accuracy >>> shift mantissa exponent,
        exponent + shift mantissa exponent) := rfl

theorem shifted_lt (mantissa : ℕ) (exponent : ℤ) :
    mantissa / 2 ^ shift mantissa exponent < 2 ^ 53 := by
  have enough : mantissa.log2 + 1 ≤ 53 + shift mantissa exponent := by
    rw [shift_eq]
    omega
  rw [Nat.div_lt_iff_lt_mul (Nat.two_pow_pos _), ← Nat.pow_add]
  exact Nat.lt_of_lt_of_le Nat.lt_log2_self (Nat.pow_le_pow_right (by decide) enough)

theorem reshift {rounded : ℕ} {exponent : ℤ} (positive : 0 < rounded) (bounded : rounded ≤ 2 ^ 53)
    (least : -1074 ≤ exponent) :
    shift rounded exponent ≤ 1 ∧ 0 < rounded / 2 ^ shift rounded exponent := by
  have digits : rounded.log2 < 54 := (Nat.log2_lt (Nat.ne_of_gt positive)).mpr (by omega)
  have size := Nat.log2_self_le (Nat.ne_of_gt positive)
  by_cases full : rounded.log2 = 53
  · have once : shift rounded exponent = 1 := by
      rw [shift_eq]
      omega
    rw [full] at size
    rw [once]
    omega
  · have never : shift rounded exponent = 0 := by
      rw [shift_eq]
      omega
    rw [never]
    omega

theorem isSizable_round {mantissa : ℕ} {exponent : ℤ}
    (kept : 0 < mantissa / 2 ^ shift mantissa exponent) (sign : Sign) (accuracy : Accuracy) :
    IsSizable sign (exponent + shift mantissa exponent + 1)
      (roundWithAccuracy Format.binary64 sign mantissa exponent accuracy) := by
  have least : -1074 ≤ exponent + shift mantissa exponent := by
    rw [shift_eq]
    omega
  have below := shifted_lt mantissa exponent
  have bounds := roundedMantissa_bounds
    (ExtendedMantissa.ofMantissaAndAccuracy mantissa accuracy >>> shift mantissa exponent)
  rw [mantissa_shiftRight, mantissa_ofMantissaAndAccuracy] at bounds
  have positive := Nat.lt_of_lt_of_le kept bounds.1
  obtain ⟨few, rest⟩ := reshift positive (bounds.2.trans below) least
  simp only [roundWithAccuracy, shiftToTargetExponent_eq, mantissa_shiftRight,
    mantissa_ofMantissaAndAccuracy]
  rw [dif_neg (Nat.ne_of_gt rest)]
  exact ⟨_, _, _, rfl, shifted_lt _ _, by omega, by omega⟩

theorem log2_scaled_lt {mantissa digits : ℕ} (positive : 0 < mantissa)
    (small : mantissa < 2 ^ digits) (places : ℕ) :
    (mantissa * 2 ^ places).log2 < digits + places := by
  refine (Nat.log2_lt (Nat.mul_pos positive (Nat.two_pow_pos _)).ne').mpr ?_
  rw [Nat.pow_add]
  exact Nat.mul_lt_mul_of_pos_right small (Nat.two_pow_pos _)

def places (count : ℕ) : ℕ :=
  (0 - Format.binary64.targetExponent (totalExponent count 0)).toNat

theorem ofNat_eq {count : ℕ} (positive : 0 < count) : UnpackedFloat.ofNat Format.binary64 count =
    roundWithAccuracy Format.binary64 .positive (count <<< places count) (0 - places count)
      .exact := by
  have signed : compare (count : ℤ) 0 = .gt := compare_gt_iff_gt.mpr (by omega)
  rw [UnpackedFloat.ofNat, UnpackedFloat.ofInt, UnpackedFloat.normalize, signed]
  rfl

theorem isSizable_ofNat {count : ℕ} (positive : 0 < count) (small : count < 2 ^ 53) :
    IsSizable .positive 1 (UnpackedFloat.ofNat Format.binary64 count) := by
  have digits : count.log2 < 53 := (Nat.log2_lt (Nat.ne_of_gt positive)).mpr small
  have scaled := log2_scaled_lt positive Nat.lt_log2_self (places count)
  have enough : count.log2 + 1 + places count ≤ 53 := by
    rw [places, targetExponent_binary64, totalExponent]
    omega
  have never : shift (count * 2 ^ places count) (0 - places count) = 0 := by
    rw [shift_eq]
    omega
  rw [ofNat_eq positive, Nat.shiftLeft_eq]
  refine (isSizable_round ?_ _ _).mono (by omega)
  rw [never, Nat.pow_zero, Nat.div_one]
  exact Nat.mul_pos positive (Nat.two_pow_pos _)

theorem isSizable_mul_one {sign : Sign} {highest : ℤ} {number : UnpackedFloat}
    (sizable : IsSizable sign highest number) :
    IsSizable (sign * .positive) (highest + 1)
      (mul Format.binary64 number (.finite .positive (2 ^ 52) (-52) (by decide))) := by
  obtain ⟨mantissa, exponent, positive, rfl, small, least, most⟩ := sizable
  have few : shift (mantissa * 2 ^ 52) (exponent + -52) ≤ 52 := by
    have scaled := log2_scaled_lt positive small 52
    rw [shift_eq]
    omega
  refine (isSizable_round ?_ _ _).mono (by omega)
  refine Nat.div_pos ?_ (Nat.two_pow_pos _)
  calc 2 ^ shift (mantissa * 2 ^ 52) (exponent + -52)
    _ ≤ 2 ^ 52 := Nat.pow_le_pow_right (by decide) few
    _ ≤ mantissa * 2 ^ 52 := Nat.le_mul_of_pos_left _ positive

end Scouting.Unpacked

import Scouting.Proofs.Arithmetic
import Scouting.Stat.Evaluation

/-!
Counts are exact. A double holds every count below two to the fifty-third, rounding gives such a
count back digit for digit, and so adding up counts that stay below comes to their sum.
-/

namespace Scouting.Unpacked

open Float.Model (UnpackedFloat Format totalExponent)
open Float.Model.UnpackedFloat

theorem log2_scaled {count : ℕ} (positive : 0 < count) (places : ℕ) :
    (count * 2 ^ places).log2 = count.log2 + places := by
  have scaled : count * 2 ^ places ≠ 0 := (Nat.mul_pos positive (Nat.two_pow_pos _)).ne'
  refine (Nat.log2_eq_iff scaled).mpr ⟨?_, ?_⟩
  · rw [Nat.pow_add]
    exact Nat.mul_le_mul_right _ (Nat.log2_self_le positive.ne')
  · rw [Nat.add_right_comm, Nat.pow_add]
    exact Nat.mul_lt_mul_of_pos_right Nat.lt_log2_self (Nat.two_pow_pos _)

theorem shiftRight_scaled (mantissa places : ℕ) :
    ExtendedMantissa.ofMantissaAndAccuracy (mantissa * 2 ^ places) .exact >>> places =
      ⟨mantissa, false, false⟩ := by
  induction places generalizing mantissa with
  | zero =>
      rw [Nat.pow_zero, Nat.mul_one]
      rfl
  | succ places ih =>
      have shifted := ih (mantissa * 2)
      rw [Nat.mul_assoc, ← Nat.pow_succ'] at shifted
      change (ExtendedMantissa.ofMantissaAndAccuracy _ _ >>> places).shiftRightOne = _
      rw [shifted, ExtendedMantissa.shiftRightOne]
      simp

theorem round_settled {mantissa : ℕ} (positive : 0 < mantissa) {exponent : ℤ}
    (settled : max ((mantissa.log2 : ℤ) - 52) (-1074 - exponent) = 0) (sign : UnpackedFloat.Sign)
    (places : ℕ) :
    roundWithAccuracy Format.binary64 sign (mantissa * 2 ^ places) (exponent - places) .exact =
      .finite sign mantissa exponent positive := by
  have all : shift (mantissa * 2 ^ places) (exponent - places) = places := by
    rw [shift_eq, log2_scaled positive]
    omega
  have never : shift mantissa exponent = 0 := by
    rw [shift_eq, settled]
    rfl
  have once : ExtendedMantissa.ofMantissaAndAccuracy mantissa .exact >>> 0 =
      ⟨mantissa, false, false⟩ := rfl
  simp only [roundWithAccuracy, shiftToTargetExponent_eq, all, shiftRight_scaled,
    ExtendedMantissa.roundedMantissa, ExtendedMantissa.accuracy, Accuracy.roundToNearestEven,
    sub_add_cancel, never, once, positive.ne', dite_false, Nat.cast_zero, add_zero]

theorem round_scaled {mantissa : ℕ} (positive : 0 < mantissa) (full : mantissa.log2 = 52)
    {exponent : ℤ} (least : -1074 ≤ exponent) (sign : UnpackedFloat.Sign) (places : ℕ) :
    roundWithAccuracy Format.binary64 sign (mantissa * 2 ^ places) (exponent - places) .exact =
      .finite sign mantissa exponent positive := by
  have settled : max ((mantissa.log2 : ℤ) - 52) (-1074 - exponent) = 0 := by
    rw [full]
    omega
  exact round_settled positive settled sign places

theorem toNat_leading {mantissa : ℕ} (least : 2 ^ 52 ≤ mantissa) (most : mantissa < 2 ^ 53) :
    (1#1 ++ BitVec.ofNat 52 mantissa).toNat = mantissa := by
  rw [BitVec.toNat_append, ← Nat.shiftLeft_add_eq_or_of_lt (BitVec.isLt _), BitVec.toNat_ofNat,
    BitVec.toNat_ofNat, Nat.shiftLeft_eq]
  omega

def IsCount (count : ℕ) (number : UnpackedFloat) : Prop :=
  ∃ positive, number =
    .finite .positive (count * 2 ^ (52 - count.log2)) ((count.log2 : ℤ) - 52) positive

section
variable {count : ℕ}

theorem IsCount.unique {left right : UnpackedFloat} (first : IsCount count left)
    (second : IsCount count right) : left = right := by
  obtain ⟨_, rfl⟩ := first
  obtain ⟨_, rfl⟩ := second
  rfl

variable (positive : 0 < count) (small : count < 2 ^ 53)
include positive small

theorem log2_count_le : count.log2 ≤ 52 :=
  Nat.lt_succ_iff.mp ((Nat.log2_lt positive.ne').mpr small)

theorem log2_full : (count * 2 ^ (52 - count.log2)).log2 = 52 := by
  have digits := log2_count_le positive small
  rw [log2_scaled positive]
  omega

theorem isCount_round (places : ℕ) :
    IsCount count
      (UnpackedFloat.round Format.binary64 .positive (count * 2 ^ places) (-places)) := by
  have digits := log2_count_le positive small
  have full := log2_full positive small
  have whole : 0 < count * 2 ^ (52 - count.log2) := Nat.mul_pos positive (Nat.two_pow_pos _)
  have target : Format.binary64.targetExponent (totalExponent (count * 2 ^ places) (-places)) =
      (count.log2 : ℤ) - 52 := by
    rw [targetExponent_binary64, totalExponent, log2_scaled positive]
    omega
  obtain ⟨missing, filled⟩ : ∃ missing : ℕ,
      (-(places : ℤ) - ((count.log2 : ℤ) - 52)).toNat = missing := ⟨_, rfl⟩
  obtain ⟨extra, enough⟩ : ∃ extra : ℕ, places + missing = (52 - count.log2) + extra :=
    ⟨places + missing - (52 - count.log2), by omega⟩
  have least : -(places : ℤ) - missing = (count.log2 : ℤ) - 52 - extra := by omega
  have lowest : -1074 ≤ (count.log2 : ℤ) - 52 := by omega
  have rounded := round_scaled whole full lowest .positive extra
  refine ⟨whole, ?_⟩
  rw [← rounded, UnpackedFloat.round, target, decreaseExponent, filled, Nat.shiftLeft_eq,
    Nat.mul_assoc, Nat.mul_assoc, ← Nat.pow_add, ← Nat.pow_add, enough, least]

theorem isCount_normalize (places : ℕ) : IsCount count
    (UnpackedFloat.normalize Format.binary64 ((count * 2 ^ places : ℕ) : ℤ) (-places)
      .positive) := by
  have scaled : 0 < count * 2 ^ places := Nat.mul_pos positive (Nat.two_pow_pos _)
  have signed : compare ((count * 2 ^ places : ℕ) : ℤ) 0 = .gt := compare_gt_iff_gt.mpr (by omega)
  simp only [UnpackedFloat.normalize, signed, Int.toNat_natCast]
  exact isCount_round positive small places

theorem isCount_ofNat : IsCount count (UnpackedFloat.ofNat Format.binary64 count) := by
  have normalized := isCount_normalize positive small 0
  rwa [Nat.pow_zero, Nat.mul_one, Nat.cast_zero, neg_zero] at normalized

theorem isCount_mul_one {number : UnpackedFloat} (counts : IsCount count number) : IsCount count
    (mul Format.binary64 number (.finite .positive (2 ^ 52) (-52) (by decide))) := by
  obtain ⟨whole, rfl⟩ := counts
  have full := log2_full positive small
  exact ⟨whole, round_scaled whole full (by omega) .positive 52⟩

theorem isCount_pack {number : UnpackedFloat} (counts : IsCount count number) :
    IsCount count (unpack Format.binary64 (pack Format.binary64 number)) := by
  obtain ⟨whole, rfl⟩ := counts
  have digits := log2_count_le positive small
  have full := log2_full positive small
  have bias : ((Format.binary64.exponentBias : ℕ) : ℤ) = 1023 := rfl
  have biased : ((count.log2 : ℤ) - 52 + Format.binary64.exponentBias +
      (Format.binary64.mantissaBitsWithoutImplicit : ℕ)).toNat = count.log2 + 1023 := by
    have bits : ((Format.binary64.mantissaBitsWithoutImplicit : ℕ) : ℤ) = 52 := rfl
    omega
  have inRange : ¬2 ^ 11 ≤ count.log2 + 1023 + 1 := by omega
  have notHighest : BitVec.ofNat Format.binary64.exponentBits (count.log2 + 1023) ≠ -1#_ :=
    biased_ne_highest inRange
  have exponent : (BitVec.ofNat 11 (count.log2 + 1023)).toNat = count.log2 + 1023 := by
    rw [BitVec.toNat_ofNat]
    omega
  have notLeast : BitVec.ofNat 11 (count.log2 + 1023) ≠ 0#11 := by
    intro same
    rw [same] at exponent
    simp at exponent
  generalize scaled : count * 2 ^ (52 - count.log2) = mantissa at whole full
  have size := (Nat.log2_eq_iff whole.ne').mp full
  rw [pack, biased, if_neg inRange, if_pos (by rw [full]; rfl)]
  simp only [unpack, unpackExponent_packComponents, unpackMantissa_packComponents,
    unpackSign_packComponents, ofBitVec_toBitVec]
  have unbiased : ((count.log2 + 1023 : ℕ) : ℤ) - (Format.binary64.exponentBias +
      (52 : ℕ)) = (count.log2 : ℤ) - 52 := by omega
  rw [if_neg notHighest, if_neg notLeast]
  refine ⟨scaled ▸ whole, ?_⟩
  simp only [scaled, toNat_leading size.1 size.2, exponent, unbiased]

theorem isCount_add {other : ℕ} (otherPositive : 0 < other) (otherSmall : other < 2 ^ 53)
    {left right : UnpackedFloat} (counts : IsCount count left) (others : IsCount other right)
    (together : count + other < 2 ^ 53) :
    IsCount (count + other) (add Format.binary64 left right) := by
  obtain ⟨whole, rfl⟩ := counts
  obtain ⟨otherWhole, rfl⟩ := others
  have digits := log2_count_le positive small
  have otherDigits := log2_count_le otherPositive otherSmall
  obtain ⟨places, least⟩ : ∃ places : ℕ,
      min ((count.log2 : ℤ) - 52) ((other.log2 : ℤ) - 52) = -places :=
    ⟨(-min ((count.log2 : ℤ) - 52) ((other.log2 : ℤ) - 52)).toNat, by omega⟩
  have filled : 52 - count.log2 + ((count.log2 : ℤ) - 52 - -places).toNat = places := by omega
  have otherFilled : 52 - other.log2 + ((other.log2 : ℤ) - 52 - -places).toNat = places := by omega
  simp only [add, least, decreaseExponent, Nat.shiftLeft_eq, Nat.mul_assoc, ← Nat.pow_add, filled,
    otherFilled, UnpackedFloat.Sign.apply, ← Nat.cast_add, ← Nat.add_mul]
  exact isCount_normalize (Nat.add_pos_left positive _) together places

end

end Scouting.Unpacked

namespace Scouting.Number

open Float.Model (Format)
open Scouting.Unpacked (IsCount)

theorem exists_ofNat {count : ℕ} (positive : 0 < count) (small : count < 2 ^ 53) :
    ∃ number, IsCount count number ∧ Float.ofNat count = ⟨Float.Model.pack number⟩ := by
  have converted : IsCount count count.toUInt64.toFloat.toModel.unpack := by
    refine Unpacked.isCount_pack positive small ?_
    have same : count.toUInt64.toNat = count := by
      simp
      omega
    rw [Float.Model.UnpackedFloat.ofUInt64, same]
    exact Unpacked.isCount_ofNat positive small
  exact ⟨_, Unpacked.isCount_mul_one positive small converted, ofNat_small small⟩

theorem isCount_ofNat {count : ℕ} (positive : 0 < count) (small : count < 2 ^ 53) :
    IsCount count (Float.ofNat count).toModel.unpack := by
  obtain ⟨number, counts, same⟩ := exists_ofNat positive small
  rw [same]
  exact Unpacked.isCount_pack positive small counts

theorem pack_unpack (value : Float) :
    (⟨Float.Model.pack value.toModel.unpack⟩ : Float) = value := by
  obtain ⟨⟨bits, valid⟩⟩ := value
  simp only [Float.Model.pack, Float.Model.unpack,
    Float.Model.UnpackedFloat.pack_unpack_of_valid valid]

theorem zero_add_ofNat {zero : Float} {sign : Float.Model.UnpackedFloat.Sign}
    (isZero : zero.toModel.unpack = .zero sign) {count : ℕ} (small : count < 2 ^ 53) :
    zero + Float.ofNat count = Float.ofNat count := by
  change (⟨Float.Model.pack (Float.Model.UnpackedFloat.add _ _ _)⟩ : Float) = _
  rw [isZero]
  rcases Nat.eq_zero_or_pos count with rfl | positive
  · cases sign <;> rfl
  · obtain ⟨whole, counts⟩ := isCount_ofNat positive small
    have packed := pack_unpack (Float.ofNat count)
    rw [counts] at packed ⊢
    exact packed

theorem ofNat_add_zero {count : ℕ} (small : count < 2 ^ 53) :
    Float.ofNat count + Float.ofNat 0 = Float.ofNat count := by
  rcases Nat.eq_zero_or_pos count with rfl | positive
  · rfl
  · obtain ⟨whole, counts⟩ := isCount_ofNat positive small
    have packed := pack_unpack (Float.ofNat count)
    change (⟨Float.Model.pack (Float.Model.UnpackedFloat.add _ _ _)⟩ : Float) = _
    rw [counts] at packed ⊢
    exact packed

theorem ofNat_add {left right : ℕ} (small : left + right < 2 ^ 53) :
    Float.ofNat left + Float.ofNat right = Float.ofNat (left + right) := by
  rcases Nat.eq_zero_or_pos left with rfl | leftPositive
  · rw [Nat.zero_add] at small ⊢
    have isZero : (Float.ofNat 0).toModel.unpack = .zero .positive := rfl
    exact zero_add_ofNat isZero small
  rcases Nat.eq_zero_or_pos right with rfl | rightPositive
  · exact ofNat_add_zero small
  obtain ⟨number, counts, same⟩ := exists_ofNat (Nat.add_pos_left leftPositive right) small
  have added := Unpacked.isCount_add leftPositive (by omega) rightPositive (by omega)
    (isCount_ofNat leftPositive (by omega)) (isCount_ofNat rightPositive (by omega)) small
  rw [same, counts.unique added]
  rfl

theorem foldl_ofNat {start : ℕ} {counts : List ℕ} (small : start + counts.sum < 2 ^ 53) :
    (counts.map Float.ofNat).foldl (· + ·) (Float.ofNat start) =
      Float.ofNat (start + counts.sum) := by
  induction counts generalizing start with
  | nil => rfl
  | cons first rest ih =>
      rw [List.sum_cons, ← Nat.add_assoc] at small
      rw [List.map_cons, List.foldl_cons, ofNat_add (by omega), ih small, List.sum_cons,
        Nat.add_assoc]

theorem sum_ofNat {counts : List ℕ} (nonempty : counts ≠ []) (small : counts.sum < 2 ^ 53) :
    sum (counts.map Float.ofNat) = Float.ofNat counts.sum := by
  cases counts with
  | nil => exact absurd rfl nonempty
  | cons first rest =>
      rw [List.sum_cons] at small ⊢
      have isZero : (-0.0 : Float).toModel.unpack = .zero .negative := rfl
      rw [sum, List.map_cons, List.foldl_cons, zero_add_ofNat isZero (by omega)]
      exact foldl_ofNat small

end Scouting.Number

namespace Scouting.Plan

theorem total_ofNat {counts : List ℕ} (small : counts.sum < 2 ^ 53) :
    total (counts.map Float.ofNat) = Float.ofNat counts.sum := by
  have fromZero : 0 + counts.sum < 2 ^ 53 := by rwa [Nat.zero_add]
  have added := Number.foldl_ofNat fromZero
  rwa [Nat.zero_add] at added

end Scouting.Plan

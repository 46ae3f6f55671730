import Scouting.Proofs.Arithmetic
import Scouting.Stat.WeightedRank

/-!
Sums of magnitudes. Adding to a number that is not below zero another one that is not gives zero
only if both are zero: rounding never loses a number altogether, and what overflows is no zero.
-/

namespace Scouting.Unpacked

open Float.Model (UnpackedFloat Format totalExponent)
open Float.Model.UnpackedFloat

def IsZero (number : UnpackedFloat) : Prop := ∃ sign, number = .zero sign

@[simp] theorem isZero_zero (sign : UnpackedFloat.Sign) : IsZero (.zero sign) := ⟨sign, rfl⟩

@[simp] theorem not_isZero_notANumber : ¬IsZero .notANumber := by simp [IsZero]

@[simp] theorem not_isZero_infinity (sign : UnpackedFloat.Sign) : ¬IsZero (.infinity sign) := by
  simp [IsZero]

@[simp] theorem not_isZero_finite (sign : UnpackedFloat.Sign) (mantissa : ℕ) (exponent : ℤ)
    (positive : 0 < mantissa) : ¬IsZero (.finite sign mantissa exponent positive) := by
  simp [IsZero]

/-- Is this a zero, a positive number of a size that a double may have, or no number at all? -/
inductive IsMagnitude : UnpackedFloat → Prop
  | notANumber : IsMagnitude .notANumber
  | infinity : IsMagnitude (.infinity .positive)
  | zero (sign : UnpackedFloat.Sign) : IsMagnitude (.zero sign)
  | finite {highest : ℤ} {number : UnpackedFloat} :
      IsSizable .positive highest number → IsMagnitude number

theorem not_isZero_of_isSizable {sign : UnpackedFloat.Sign} {highest : ℤ} {number : UnpackedFloat}
    (sizable : IsSizable sign highest number) : ¬IsZero number := by
  obtain ⟨_, _, _, rfl, _⟩ := sizable
  exact not_isZero_finite _ _ _ _

theorem isMagnitude_pack {number : UnpackedFloat} (magnitude : IsMagnitude number) :
    IsMagnitude (unpack Format.binary64 (pack Format.binary64 number)) ∧
      (IsZero (unpack Format.binary64 (pack Format.binary64 number)) ↔ IsZero number) := by
  cases magnitude with
  | notANumber => exact ⟨.notANumber, Iff.rfl⟩
  | infinity => exact ⟨.infinity, Iff.rfl⟩
  | zero sign =>
      have same : unpack Format.binary64 (pack Format.binary64 (.zero sign)) = .zero sign := by
        cases sign <;> rfl
      rw [same]
      exact ⟨.zero sign, Iff.rfl⟩
  | @finite highest _ sizable =>
      have nonzero := not_isZero_of_isSizable sizable
      obtain ⟨mantissa, exponent, positive, rfl, small, least, most⟩ := sizable
      by_cases inRange : exponent ≤ 971
      · have packed : IsSizable .positive 971 _ := isSizable_pack
          ⟨mantissa, exponent, positive, rfl, small, least, inRange⟩ le_rfl
        exact ⟨.finite packed, iff_of_false (not_isZero_of_isSizable packed) nonzero⟩
      · have overflows : pack Format.binary64 (.finite .positive mantissa exponent positive) =
            packedInfinity Format.binary64 .positive := by
          have bias : ((Format.binary64.exponentBias : ℕ) : ℤ) = 1023 := rfl
          have bits : ((Format.binary64.mantissaBitsWithoutImplicit : ℕ) : ℤ) = 52 := rfl
          have high : 2 ^ 11 ≤ (exponent + Format.binary64.exponentBias +
              (Format.binary64.mantissaBitsWithoutImplicit : ℕ)).toNat + 1 := by omega
          rw [pack, if_pos high]
        rw [overflows]
        exact ⟨.infinity, iff_of_false (not_isZero_infinity _) nonzero⟩

theorem isSizable_normalize {mantissa : ℕ} (positive : 0 < mantissa) {exponent : ℤ}
    (least : -1074 ≤ exponent) : ∃ highest, IsSizable .positive highest
      (UnpackedFloat.normalize Format.binary64 (mantissa : ℤ) exponent .positive) := by
  have signed : compare (mantissa : ℤ) 0 = .gt := compare_gt_iff_gt.mpr (by omega)
  simp only [UnpackedFloat.normalize, signed, Int.toNat_natCast, UnpackedFloat.round,
    decreaseExponent, Nat.shiftLeft_eq]
  generalize filled : (exponent - _).toNat = places
  have scaled : 0 < mantissa * 2 ^ places := Nat.mul_pos positive (Nat.two_pow_pos _)
  have lowered : -1074 ≤ exponent - places := by
    rw [← filled, targetExponent_binary64]
    omega
  refine ⟨_, isSizable_round (Nat.div_pos ?_ (Nat.two_pow_pos _)) .positive .exact⟩
  have few : shift (mantissa * 2 ^ places) (exponent - places) ≤
      (mantissa * 2 ^ places).log2 := by
    rw [shift_eq]
    omega
  exact (Nat.pow_le_pow_right (by decide) few).trans (Nat.log2_self_le scaled.ne')

theorem isSizable_add {highest other : ℤ} {left right : UnpackedFloat}
    (first : IsSizable .positive highest left) (second : IsSizable .positive other right) :
    ∃ highest, IsSizable .positive highest (add Format.binary64 left right) := by
  obtain ⟨mantissa, exponent, positive, rfl, _, least, _⟩ := first
  obtain ⟨otherMantissa, otherExponent, otherPositive, rfl, _, otherLeast, _⟩ := second
  simp only [add, decreaseExponent, Nat.shiftLeft_eq, UnpackedFloat.Sign.apply, ← Nat.cast_add]
  refine isSizable_normalize (Nat.add_pos_left (Nat.mul_pos positive (Nat.two_pow_pos _)) _) ?_
  exact le_min least otherLeast

theorem isMagnitude_add {left right : UnpackedFloat} (first : IsMagnitude left)
    (second : IsMagnitude right) :
    IsMagnitude (add Format.binary64 left right) ∧
      (IsZero (add Format.binary64 left right) ↔ IsZero left ∧ IsZero right) := by
  cases first with
  | notANumber =>
      have absorbs : add Format.binary64 .notANumber right = .notANumber := by cases right <;> rfl
      rw [absorbs]
      exact ⟨.notANumber, by simp⟩
  | infinity =>
      cases second with
      | notANumber => exact ⟨.notANumber, by simp [add]⟩
      | infinity => exact ⟨.infinity, by simp [add]⟩
      | zero sign => exact ⟨.infinity, by simp [add]⟩
      | finite sizable =>
          obtain ⟨_, _, _, rfl, _⟩ := sizable
          exact ⟨.infinity, by simp [add]⟩
  | zero sign =>
      cases second with
      | notANumber => exact ⟨.notANumber, by simp [add]⟩
      | infinity => exact ⟨.infinity, by simp [add]⟩
      | zero other =>
          have added : ∃ sum, add Format.binary64 (.zero sign) (.zero other) = .zero sum := by
            cases sign <;> cases other <;> exact ⟨_, rfl⟩
          obtain ⟨sum, same⟩ := added
          rw [same]
          exact ⟨.zero sum, by simp⟩
      | finite sizable =>
          obtain ⟨_, _, _, rfl, _⟩ := id sizable
          exact ⟨.finite sizable, by simp [add]⟩
  | finite sizable =>
      have nonzero := not_isZero_of_isSizable sizable
      cases second with
      | finite others =>
          obtain ⟨_, sum⟩ := isSizable_add sizable others
          exact ⟨.finite sum, iff_of_false (not_isZero_of_isSizable sum) fun both => nonzero both.1⟩
      | notANumber =>
          obtain ⟨_, _, _, rfl, _⟩ := sizable
          exact ⟨.notANumber, by simp [add]⟩
      | infinity =>
          obtain ⟨_, _, _, rfl, _⟩ := sizable
          exact ⟨.infinity, by simp [add]⟩
      | zero sign =>
          obtain ⟨_, _, _, rfl, _⟩ := id sizable
          exact ⟨.finite sizable, by simp [add]⟩

theorem isSizable_unpack {bits : BitVec Format.binary64.numBits} {sign : UnpackedFloat.Sign}
    {mantissa : ℕ} {exponent : ℤ} {positive : 0 < mantissa}
    (unpacked : unpack Format.binary64 bits = .finite sign mantissa exponent positive) :
    IsSizable sign 971 (.finite sign mantissa exponent positive) := by
  have bias : ((Format.binary64.exponentBias : ℕ) : ℤ) = 1023 := rfl
  have bits52 : ((Format.binary64.mantissaBitsWithoutImplicit : ℕ) : ℤ) = 52 := rfl
  have exponents : (unpackExponent bits).toNat < 2 ^ 11 := (unpackExponent bits).isLt
  simp only [unpack] at unpacked
  split at unpacked
  · split at unpacked <;> cases unpacked
  · rename_i notHighest
    have below : (unpackExponent bits).toNat ≠ 2 ^ 11 - 1 := by
      intro same
      refine notHighest (BitVec.eq_of_toNat_eq ?_)
      rw [same]
      decide
    split at unpacked
    · rename_i lowest
      split at unpacked
      · cases unpacked
      · obtain ⟨rfl, rfl, rfl⟩ := UnpackedFloat.finite.inj unpacked
        have zero : (unpackExponent bits).toNat = 0 := by
          rw [lowest]
          rfl
        have small : (unpackMantissa bits).toNat < 2 ^ 52 := (unpackMantissa bits).isLt
        exact ⟨_, _, _, rfl, by omega, by omega, by omega⟩
    · rename_i notLowest
      obtain ⟨rfl, rfl, rfl⟩ := UnpackedFloat.finite.inj unpacked
      have positive : (unpackExponent bits).toNat ≠ 0 := fun same =>
        notLowest (BitVec.eq_of_toNat_eq same)
      have small : (1#1 ++ unpackMantissa bits).toNat < 2 ^ 53 := (1#1 ++ unpackMantissa bits).isLt
      exact ⟨_, _, _, rfl, small, by omega, by omega⟩

end Scouting.Unpacked

namespace Scouting.Standing

open Float.Model (UnpackedFloat)
open Scouting.Unpacked (IsZero IsMagnitude)

theorem unpack_zero : (0 : Float).toModel.unpack = .zero .positive := rfl

theorem beq_zero_iff (value : Float) : value == 0 ↔ IsZero value.toModel.unpack := by
  change value.toModel.unpack.beq (0 : Float).toModel.unpack = true ↔ _
  rw [unpack_zero]
  cases value.toModel.unpack with
  | notANumber => simp [UnpackedFloat.beq, UnpackedFloat.compare]
  | infinity sign => cases sign <;> simp [UnpackedFloat.beq, UnpackedFloat.compare]
  | zero sign => simp [UnpackedFloat.beq, UnpackedFloat.compare]
  | finite sign => cases sign <;> simp [UnpackedFloat.beq, UnpackedFloat.compare]

theorem lt_zero_iff (value : Float) :
    value < 0 ↔ value.toModel.unpack.lt (.zero .positive) = true := by
  rw [← unpack_zero]
  exact decide_eq_true_iff

theorem isMagnitude_of_not_lt {value : Float} (notBelow : ¬value < 0) :
    IsMagnitude value.toModel.unpack := by
  rw [lt_zero_iff] at notBelow
  cases unpacked : value.toModel.unpack with
  | notANumber => exact .notANumber
  | zero sign => exact .zero sign
  | infinity sign =>
      rw [unpacked] at notBelow
      cases sign with
      | positive => exact .infinity
      | negative => exact absurd rfl notBelow
  | finite sign mantissa exponent positive =>
      rw [unpacked] at notBelow
      cases sign with
      | positive => exact .finite (Unpacked.isSizable_unpack unpacked)
      | negative => exact absurd rfl notBelow

theorem isMagnitude_neg {value : Float} (below : value < 0) :
    ¬IsZero value.toModel.unpack ∧ IsMagnitude (-value).toModel.unpack ∧
      ¬IsZero (-value).toModel.unpack := by
  have packed {number : UnpackedFloat} (negated : value.toModel.unpack.neg = number)
      (magnitude : IsMagnitude number) : IsMagnitude (-value).toModel.unpack ∧
        (IsZero (-value).toModel.unpack ↔ IsZero number) := by
    rw [← negated] at magnitude ⊢
    exact Unpacked.isMagnitude_pack magnitude
  rw [lt_zero_iff] at below
  cases unpacked : value.toModel.unpack with
  | notANumber =>
      rw [unpacked] at below
      cases below
  | zero sign =>
      rw [unpacked] at below
      cases below
  | infinity sign =>
      rw [unpacked] at below packed
      cases sign with
      | positive => cases below
      | negative =>
          obtain ⟨kept, zero⟩ := packed rfl .infinity
          exact ⟨by simp, kept, zero.not.mpr (Unpacked.not_isZero_infinity _)⟩
  | finite sign mantissa exponent positive =>
      rw [unpacked] at below packed
      cases sign with
      | positive => cases below
      | negative =>
          obtain ⟨_, _, _, same, bounds⟩ := Unpacked.isSizable_unpack unpacked
          obtain ⟨-, rfl, rfl⟩ := UnpackedFloat.finite.inj same
          obtain ⟨kept, zero⟩ := packed rfl (.finite ⟨_, _, positive, rfl, bounds⟩)
          exact ⟨by simp, kept, zero.not.mpr (Unpacked.not_isZero_finite _ _ _ _)⟩

theorem isMagnitude_magnitude (weight : Float) :
    IsMagnitude (magnitude weight).toModel.unpack ∧
      (IsZero (magnitude weight).toModel.unpack ↔ IsZero weight.toModel.unpack) := by
  rw [magnitude]
  split
  · rename_i below
    obtain ⟨nonzero, kept, negated⟩ := isMagnitude_neg below
    exact ⟨kept, iff_of_false negated nonzero⟩
  · rename_i notBelow
    exact ⟨isMagnitude_of_not_lt notBelow, Iff.rfl⟩

theorem isZero_foldl_iff {start : Float} (begun : IsMagnitude start.toModel.unpack)
    (standings : List (Standing Float)) :
    IsZero (standings.foldl (fun total standing => total + magnitude standing.weight)
        start).toModel.unpack ↔
      IsZero start.toModel.unpack ∧ ∀ standing ∈ standings, standing.weight == 0 := by
  induction standings generalizing start with
  | nil => simp
  | cons first rest ih =>
      obtain ⟨magnitude, weightless⟩ := isMagnitude_magnitude first.weight
      obtain ⟨sum, bothZero⟩ := Unpacked.isMagnitude_add begun magnitude
      have packed : IsMagnitude (start + Standing.magnitude first.weight).toModel.unpack ∧
          (IsZero (start + Standing.magnitude first.weight).toModel.unpack ↔ _) :=
        Unpacked.isMagnitude_pack sum
      rw [List.foldl_cons, ih packed.1, packed.2, bothZero, weightless, List.forall_mem_cons,
        beq_zero_iff, and_assoc]

theorem mean_eq_none_iff_beq (standings : List (Standing Float)) :
    mean standings = none ↔ ∀ standing ∈ standings, standing.weight == 0 := by
  have isZero : IsZero (0 : Float).toModel.unpack := ⟨.positive, unpack_zero⟩
  have begun : IsMagnitude (0 : Float).toModel.unpack := by
    rw [unpack_zero]
    exact .zero .positive
  have weights := isZero_foldl_iff begun standings
  rw [← beq_zero_iff, and_iff_right isZero] at weights
  rw [mean, ← weights]
  split <;> simp_all

end Scouting.Standing

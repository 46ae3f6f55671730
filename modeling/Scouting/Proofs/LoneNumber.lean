import Scouting.Aggregation
import Scouting.Proofs.ExactCounts

/-!
The mean of one number is the number. A negative zero is lost in whatever is added to it, and
dividing by one leaves every digit where it is, also of numbers too small to have all their digits.
-/

namespace Scouting.Unpacked

open Float.Model (UnpackedFloat Format totalExponent)
open Float.Model.UnpackedFloat

theorem settled_unpack {bits : BitVec Format.binary64.numBits} {sign : UnpackedFloat.Sign}
    {mantissa : ℕ} {exponent : ℤ} {positive : 0 < mantissa}
    (unpacked : unpack Format.binary64 bits = .finite sign mantissa exponent positive) :
    max ((mantissa.log2 : ℤ) - 52) (-1074 - exponent) = 0 := by
  have bias : ((Format.binary64.exponentBias : ℕ) : ℤ) = 1023 := rfl
  have digits : ((Format.binary64.mantissaBitsWithoutImplicit : ℕ) : ℤ) = 52 := rfl
  simp only [unpack] at unpacked
  split at unpacked
  · split at unpacked <;> cases unpacked
  · split at unpacked
    · rename_i lowest
      split at unpacked
      · cases unpacked
      · obtain ⟨rfl, rfl, rfl⟩ := UnpackedFloat.finite.inj unpacked
        have zero : (unpackExponent bits).toNat = 0 := by
          rw [lowest]
          rfl
        have few : (unpackMantissa bits).toNat.log2 < 52 :=
          (Nat.log2_lt positive.ne').mpr (unpackMantissa bits).isLt
        omega
    · rename_i notLowest
      obtain ⟨rfl, rfl, rfl⟩ := UnpackedFloat.finite.inj unpacked
      have nonzero : (unpackExponent bits).toNat ≠ 0 := fun same =>
        notLowest (BitVec.eq_of_toNat_eq same)
      have all : (1#1 ++ unpackMantissa bits).toNat.log2 = 52 := by
        refine (Nat.log2_eq_iff positive.ne').mpr ⟨?_, (1#1 ++ unpackMantissa bits).isLt⟩
        rw [BitVec.toNat_append, ← Nat.shiftLeft_add_eq_or_of_lt (BitVec.isLt _), Nat.shiftLeft_eq]
        exact Nat.le_add_right_of_le (by simp)
      omega

theorem div_positive (sign : UnpackedFloat.Sign) : sign / .positive = sign := by
  cases sign <;> rfl

theorem div_one {bits : BitVec Format.binary64.numBits} :
    div Format.binary64 (unpack Format.binary64 bits)
      (.finite .positive (2 ^ 52) (-52) (by decide)) = unpack Format.binary64 bits := by
  cases unpacked : unpack Format.binary64 bits with
  | notANumber => rfl
  | infinity sign => cases sign <;> rfl
  | zero sign => cases sign <;> rfl
  | finite sign mantissa exponent positive =>
      have settled := settled_unpack unpacked
      have total : totalExponent mantissa exponent - totalExponent (2 ^ 52) (-52) =
          mantissa.log2 + exponent := by
        rw [totalExponent, totalExponent, Nat.log2_two_pow]
        omega
      obtain ⟨places, least⟩ : ∃ places : ℕ,
          min (exponent - -52) (Format.binary64.targetExponent
            (totalExponent mantissa exponent - totalExponent (2 ^ 52) (-52))) =
              exponent - places := by
        rw [total, targetExponent_binary64]
        exact ⟨(exponent - max ((mantissa.log2 : ℤ) + exponent - 53) (-1074)).toNat, by omega⟩
      have shifted : (exponent - -52 - (exponent - places)).toNat = places + 52 := by omega
      have quotient : mantissa * 2 ^ (places + 52) / 2 ^ 52 = mantissa * 2 ^ places := by
        rw [Nat.pow_add, ← Nat.mul_assoc, Nat.mul_div_cancel _ (Nat.two_pow_pos 52)]
      have rest : mantissa * 2 ^ (places + 52) % 2 ^ 52 = 0 := by
        rw [Nat.pow_add, ← Nat.mul_assoc, Nat.mul_mod_left]
      simp only [div, divCore, least, shifted, Nat.shiftLeft_eq, quotient, rest, div_positive]
      exact round_settled positive settled sign places

theorem negativeZero_add (number : UnpackedFloat) :
    add Format.binary64 (.zero .negative) number = number := by
  cases number with
  | zero sign => cases sign <;> rfl
  | _ => rfl

end Scouting.Unpacked

namespace Scouting

namespace Number

theorem div_one (value : Float) : value / Float.ofNat 1 = value := by
  change (⟨Float.Model.pack (Float.Model.UnpackedFloat.div _ _ _)⟩ : Float) = value
  have one : (Float.ofNat 1).toModel.unpack = .finite .positive (2 ^ 52) (-52) (by decide) := rfl
  rw [one, Float.Model.unpack, Unpacked.div_one]
  exact pack_unpack value

theorem negativeZero_add (value : Float) : -0.0 + value = value := by
  change (⟨Float.Model.pack (Float.Model.UnpackedFloat.add _ _ _)⟩ : Float) = value
  have zero : (-0.0 : Float).toModel.unpack = .zero .negative := rfl
  rw [zero, Unpacked.negativeZero_add]
  exact pack_unpack value

end Number

namespace Aggregation

theorem mean_singleton (value : Float) : mean [value] = some value := by
  change some ((-0.0 + value) / Float.ofNat 1) = some value
  rw [Number.negativeZero_add, Number.div_one]

theorem numeric_mean_singleton (value : Float) : numeric .mean [value] = .number value := by
  rw [numeric, mean_singleton]

end Aggregation

end Scouting

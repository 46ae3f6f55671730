import Scouting.Proofs.Unpacked
import Scouting.Number

/-!
When arithmetic comes to a number. Sums of finite numbers may overflow, but they are numbers; so are
quotients by counts, and square roots of sums of squares.
-/

namespace Scouting.Number

open Float.Model (Format)
open Float.Model.UnpackedFloat (Sign)
open Scouting.Unpacked (signOf IsSizable IsNonnegative)

def Signed (value : Float) (sign : Sign) : Prop := signOf value.toModel.unpack = some sign

theorem isNaN_eq_false_iff_signed {value : Float} :
    value.isNaN = false ↔ ∃ sign, Signed value sign :=
  Unpacked.isNaN_eq_false_iff

theorem isNaN_of_isFinite {value : Float} (finite : value.isFinite) : value.isNaN = false := by
  change value.toModel.unpack.isFinite = true at finite
  change value.toModel.unpack.isNaN = false
  cases unpacked : value.toModel.unpack with
  | notANumber => simp [unpacked, Float.Model.UnpackedFloat.isFinite] at finite
  | infinity sign => rfl
  | zero sign => rfl
  | finite sign mantissa exponent positive => rfl

theorem isNaN_add {left right : Float} (number : left.isNaN = false) (finite : right.isFinite) :
    (left + right).isNaN = false := by
  obtain ⟨sign, signed⟩ := Unpacked.exists_signOf_add number finite
  exact isNaN_eq_false_iff_signed.mpr ⟨sign, Unpacked.signOf_pack signed⟩

theorem isNaN_sub {left right : Float} (finite : left.isFinite) (number : right.isNaN = false) :
    (left - right).isNaN = false := by
  obtain ⟨sign, signed⟩ := Unpacked.exists_signOf_sub finite number
  exact isNaN_eq_false_iff_signed.mpr ⟨sign, Unpacked.signOf_pack signed⟩

theorem signed_square {value : Float} (number : value.isNaN = false) :
    Signed (value * value) .positive :=
  Unpacked.signOf_pack (Unpacked.signOf_square number)

theorem isNaN_sum {values : List Float} (finite : ∀ value ∈ values, value.isFinite) :
    (sum values).isNaN = false := by
  suffices kept : ∀ start : Float, start.isNaN = false →
      (values.foldl (· + ·) start).isNaN = false from kept (-0.0) (by decide)
  induction values with
  | nil => exact fun start number => number
  | cons first rest ih =>
      intro start number
      exact ih (fun value member => finite value (List.mem_cons_of_mem _ member)) _
        (isNaN_add number (finite first List.mem_cons_self))

theorem signed_sum {values : List Float} (nonempty : values ≠ [])
    (positive : ∀ value ∈ values, Signed value .positive) : Signed (sum values) .positive := by
  have added {start value : Float} (nonnegative : IsNonnegative start.toModel.unpack)
      (positive : Signed value .positive) : Signed (start + value) .positive :=
    Unpacked.signOf_pack (Unpacked.signOf_add nonnegative positive)
  have kept : ∀ start : Float, Signed start .positive → ∀ values : List Float,
      (∀ value ∈ values, Signed value .positive) →
        Signed (values.foldl (· + ·) start) .positive := by
    intro start signed values positive
    induction values generalizing start with
    | nil => exact signed
    | cons first rest ih =>
        exact ih _ (added (Or.inl signed) (positive first List.mem_cons_self))
          fun value member => positive value (List.mem_cons_of_mem _ member)
  cases values with
  | nil => exact absurd rfl nonempty
  | cons first rest =>
      exact kept _ (added (Or.inr ⟨.negative, rfl⟩) (positive first List.mem_cons_self)) rest
        fun value member => positive value (List.mem_cons_of_mem _ member)

theorem ofNat_small {count : ℕ} (small : count < 2 ^ 53) : Float.ofNat count =
    count.toUInt64.toFloat * Float.exactlyRepresentablePowersOfTen[0] := by
  change Float.ofScientific count false 0 = _
  rw [Float.ofScientific, dif_pos ⟨small, by decide⟩]
  rfl

theorem isNaN_ofNat (count : ℕ) : (Float.ofNat count).isNaN = false := by
  by_cases small : count < 2 ^ 53
  · have converted : count.toUInt64.toFloat.isNaN = false := by
      obtain ⟨_, signed⟩ :=
        @Unpacked.exists_signOf_normalize Format.binary64 count.toUInt64.toNat 0 .positive
      exact isNaN_eq_false_iff_signed.mpr ⟨_, Unpacked.signOf_pack signed⟩
    have one : (Float.exactlyRepresentablePowersOfTen[0]).toModel.unpack =
        .finite .positive (2 ^ 52) (-52) (by decide) := rfl
    have nonzero : ∀ sign, (Float.exactlyRepresentablePowersOfTen[0]).toModel.unpack ≠
        .zero sign := by
      rw [one]
      nofun
    obtain ⟨_, signed⟩ := @Unpacked.exists_signOf_mul Format.binary64 _ _ converted rfl nonzero
    rw [ofNat_small small]
    exact isNaN_eq_false_iff_signed.mpr ⟨_, Unpacked.signOf_pack signed⟩
  · obtain ⟨_, signed⟩ := @Unpacked.exists_signOf_ofScientific Format.binary64 count 0
    change (Float.ofScientific count false 0).isNaN = false
    rw [Float.ofScientific, dif_neg fun both => small both.1]
    exact isNaN_eq_false_iff_signed.mpr ⟨_, Unpacked.signOf_pack signed⟩

theorem isSizable_ofNat {count : ℕ} (positive : 0 < count) (small : count < 2 ^ 53) :
    IsSizable .positive 2 (Float.ofNat count).toModel.unpack := by
  have converted : IsSizable .positive 1 count.toUInt64.toFloat.toModel.unpack := by
    refine Unpacked.isSizable_pack ?_ (by decide)
    have same : count.toUInt64.toNat = count := by
      simp
      omega
    rw [Float.Model.UnpackedFloat.ofUInt64, same]
    exact Unpacked.isSizable_ofNat positive small
  rw [ofNat_small small]
  exact Unpacked.isSizable_pack (Unpacked.isSizable_mul_one converted) (by decide)

section
variable {value : Float} {count : ℕ} (positive : 0 < count) (small : count < 2 ^ 53)
include positive small

theorem isNaN_div_ofNat (number : value.isNaN = false) :
    (value / Float.ofNat count).isNaN = false := by
  obtain ⟨mantissa, exponent, nonzero, same, _⟩ := isSizable_ofNat positive small
  have nonzero : ∀ sign, (Float.ofNat count).toModel.unpack ≠ .zero sign := by
    rw [same]
    nofun
  have finite : (Float.ofNat count).toModel.unpack.isFinite := by
    rw [same]
    rfl
  obtain ⟨_, signed⟩ := @Unpacked.exists_signOf_div Format.binary64 _ _ number finite nonzero
  exact isNaN_eq_false_iff_signed.mpr ⟨_, Unpacked.signOf_pack signed⟩

theorem signed_div_ofNat (signed : Signed value .positive) :
    Signed (value / Float.ofNat count) .positive := by
  obtain ⟨mantissa, exponent, nonzero, same, _⟩ := isSizable_ofNat positive small
  have divided : signOf (Float.Model.UnpackedFloat.div Format.binary64 value.toModel.unpack
      (Float.ofNat count).toModel.unpack) = some .positive := by
    rw [same]
    exact Unpacked.signOf_div signed mantissa exponent nonzero
  exact Unpacked.signOf_pack divided

end

theorem isNaN_half {value : Float} (number : value.isNaN = false) :
    (value / 2.0).isNaN = false := by
  have two : (2.0 : Float).toModel.unpack = .finite .positive (2 ^ 52) (-51) (by decide) := rfl
  have nonzero : ∀ sign, (2.0 : Float).toModel.unpack ≠ .zero sign := by
    rw [two]
    nofun
  obtain ⟨_, signed⟩ := @Unpacked.exists_signOf_div Format.binary64 _ _ number rfl nonzero
  exact isNaN_eq_false_iff_signed.mpr ⟨_, Unpacked.signOf_pack signed⟩

theorem isNaN_sqrt {value : Float} (signed : Signed value .positive) :
    value.sqrt.isNaN = false := by
  obtain ⟨_, root⟩ := @Unpacked.exists_signOf_sqrt Format.binary64 _ signed
  exact isNaN_eq_false_iff_signed.mpr ⟨_, Unpacked.signOf_pack root⟩

theorem smaller_either (left right : Float) :
    smaller left right = left ∨ smaller left right = right := by
  simp only [smaller]
  split
  · exact Or.inr rfl
  · exact Or.inl rfl

theorem larger_either (left right : Float) :
    larger left right = left ∨ larger left right = right := by
  simp only [larger]
  split
  · exact Or.inr rfl
  · exact Or.inl rfl

end Scouting.Number

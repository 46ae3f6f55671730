import Mathlib
import Scouting.Number
import Scouting.Sorting

/-!
The order of numbers. Every number but the one that is none has a place on a line, and comparisons
tell which of two places comes first; zeros of both signs share their place. So numbers line up if
none of them is the one without a place.
-/

namespace Scouting.Number

open Float.Model (UnpackedFloat)

/-- The place of an unpacked number: by sign and class, then by exponent, then by mantissa. -/
def placeOf : UnpackedFloat → ℤ ×ₗ ℤ ×ₗ ℤ
  | .infinity .negative => toLex (-2, toLex (0, 0))
  | .finite .negative mantissa exponent _ => toLex (-1, toLex (-exponent, -mantissa))
  | .zero _ => toLex (0, toLex (0, 0))
  | .notANumber => toLex (0, toLex (0, 0))
  | .finite .positive mantissa exponent _ => toLex (1, toLex (exponent, mantissa))
  | .infinity .positive => toLex (2, toLex (0, 0))

section
variable {exponent other : ℤ} {mantissa rest : ℕ}

theorem compare_sizes_lt : (compare exponent other).then (compare mantissa rest) = .lt ↔
    exponent < other ∨ exponent = other ∧ mantissa < rest := by
  rw [Ordering.then_eq_lt, compare_lt_iff_lt, compare_eq_iff_eq, compare_lt_iff_lt]

theorem compare_sizes_gt : (compare exponent other).then (compare mantissa rest) = .gt ↔
    other < exponent ∨ exponent = other ∧ rest < mantissa := by
  rw [Ordering.then_eq_gt, compare_gt_iff_gt, compare_eq_iff_eq, compare_gt_iff_gt]

end

theorem negative_before_positive :
    compare UnpackedFloat.Sign.negative UnpackedFloat.Sign.positive = .lt := rfl

theorem compare_same_sign (sign : UnpackedFloat.Sign) : compare sign sign = .eq := by
  cases sign with
  | negative => rfl
  | positive => rfl

theorem unpacked_lt_iff {left right : UnpackedFloat} (isLeft : left.isNaN = false)
    (isRight : right.isNaN = false) : left.lt right ↔ placeOf left < placeOf right := by
  rcases left with (_ | _) | _ | _ | ⟨_ | _, _, _, _⟩ <;>
    rcases right with (_ | _) | _ | _ | ⟨_ | _, _, _, _⟩ <;>
    simp_all [UnpackedFloat.isNaN, UnpackedFloat.lt, UnpackedFloat.compare, placeOf,
      Prod.Lex.toLex_lt_toLex, compare_sizes_lt, compare_sizes_gt, negative_before_positive]

theorem unpacked_beq_iff {left right : UnpackedFloat} (isLeft : left.isNaN = false)
    (isRight : right.isNaN = false) : left.beq right ↔ placeOf left = placeOf right := by
  rcases left with (_ | _) | _ | _ | ⟨_ | _, _, _, _⟩ <;>
    rcases right with (_ | _) | _ | _ | ⟨_ | _, _, _, _⟩ <;>
    simp_all [UnpackedFloat.isNaN, UnpackedFloat.beq, UnpackedFloat.compare, placeOf,
      compare_same_sign]

theorem unpacked_le_iff {left right : UnpackedFloat} (isLeft : left.isNaN = false)
    (isRight : right.isNaN = false) : left.le right ↔ placeOf left ≤ placeOf right := by
  have comparable : left.le right ↔ left.lt right ∨ left.beq right := by
    simp only [UnpackedFloat.le, UnpackedFloat.lt, UnpackedFloat.beq]
    rcases left.compare right with _ | _ | _ | _ <;> decide
  rw [comparable, unpacked_lt_iff isLeft isRight, unpacked_beq_iff isLeft isRight, le_iff_lt_or_eq]

def place (value : Float) : ℤ ×ₗ ℤ ×ₗ ℤ := placeOf value.toModel.unpack

section
variable {left right : Float} (isLeft : left.isNaN = false) (isRight : right.isNaN = false)
include isLeft isRight

theorem lt_iff_place : left < right ↔ place left < place right := by
  rw [place, place, ← unpacked_lt_iff isLeft isRight]
  change decide (left.toModel < right.toModel) = true ↔ _
  rw [decide_eq_true_iff]
  rfl

theorem le_iff_place : left ≤ right ↔ place left ≤ place right := by
  rw [place, place, ← unpacked_le_iff isLeft isRight]
  change decide (left.toModel ≤ right.toModel) = true ↔ _
  rw [decide_eq_true_iff]
  rfl

theorem beq_iff_place : left == right ↔ place left = place right :=
  unpacked_beq_iff isLeft isRight

theorem not_lt_iff_place : !decide (left < right) ↔ place right ≤ place left := by
  rw [Bool.not_eq_true', decide_eq_false_iff_not, lt_iff_place isLeft isRight, not_lt]

end

theorem compare_notANumber (value : UnpackedFloat) :
    value.compare .notANumber = none ∧ UnpackedFloat.notANumber.compare value = none := by
  cases value with
  | notANumber => exact ⟨rfl, rfl⟩
  | infinity sign => exact ⟨rfl, rfl⟩
  | zero sign => exact ⟨rfl, rfl⟩
  | finite sign mantissa exponent positive => exact ⟨rfl, rfl⟩

theorem isNaN_of_compare {left right : UnpackedFloat} {order : Ordering}
    (compared : left.compare right = some order) : left.isNaN = false ∧ right.isNaN = false := by
  constructor
  · cases left with
    | notANumber =>
        rw [(compare_notANumber right).2] at compared
        cases compared
    | infinity sign => rfl
    | zero sign => rfl
    | finite sign mantissa exponent positive => rfl
  · cases right with
    | notANumber =>
        rw [(compare_notANumber left).1] at compared
        cases compared
    | infinity sign => rfl
    | zero sign => rfl
    | finite sign mantissa exponent positive => rfl

theorem isNaN_of_beq {left right : Float} (same : left == right) :
    left.isNaN = false ∧ right.isNaN = false := by
  change left.toModel.unpack.beq right.toModel.unpack = true at same
  rw [UnpackedFloat.beq, beq_iff_eq] at same
  exact isNaN_of_compare same

instance partialEquivBEq : PartialEquivBEq Float where
  symm same := by
    obtain ⟨isLeft, isRight⟩ := isNaN_of_beq same
    rw [beq_iff_place isLeft isRight] at same
    exact (beq_iff_place isRight isLeft).mpr same.symm
  trans first second := by
    obtain ⟨isLeft, isMiddle⟩ := isNaN_of_beq first
    have isRight := (isNaN_of_beq second).2
    rw [beq_iff_place isLeft isMiddle] at first
    rw [beq_iff_place isMiddle isRight] at second
    exact (beq_iff_place isLeft isRight).mpr (first.trans second)

theorem beq_self_of_isNaN {value : Float} (number : value.isNaN = false) : value == value :=
  (beq_iff_place number number).mpr rfl

theorem isNaN_of_lt {left right : Float} (below : left < right) :
    left.isNaN = false ∧ right.isNaN = false := by
  have less : left.toModel.unpack.lt right.toModel.unpack := of_decide_eq_true below
  rw [UnpackedFloat.lt, beq_iff_eq] at less
  exact isNaN_of_compare less

section
variable {numbers : List Float} (comparable : ∀ number ∈ numbers, number.isNaN = false)
include comparable

theorem linesUp_falling : LinesUp (fun left right => !decide (left < right)) numbers where
  total left leftIn right rightIn := by
    have isLeft := comparable left leftIn
    have isRight := comparable right rightIn
    rw [not_lt_iff_place isLeft isRight, not_lt_iff_place isRight isLeft]
    exact le_total _ _
  trans first firstIn second secondIn third thirdIn := by
    have isFirst := comparable first firstIn
    have isSecond := comparable second secondIn
    have isThird := comparable third thirdIn
    rw [not_lt_iff_place isFirst isSecond, not_lt_iff_place isSecond isThird,
      not_lt_iff_place isFirst isThird]
    exact fun upper lower => lower.trans upper

theorem linesUp_rising : LinesUp (fun left right => !decide (right < left)) numbers where
  total left leftIn right rightIn := (linesUp_falling comparable).total right rightIn left leftIn
  trans first firstIn second secondIn third thirdIn lower upper :=
    (linesUp_falling comparable).trans third thirdIn second secondIn first firstIn upper lower

end

end Scouting.Number

import Scouting.Decimal.Binary

/-!
Arithmetic on observed numbers: the smaller and larger of two where a missing number never wins,
rounding to whole numbers, and the remainder that takes the sign of the dividend.
-/

namespace Scouting.Number

open Scouting.Decimal

def infinity : Float := 1.0 / 0.0

/-- The smaller number; one that is no number gives way, and of equal ones the second stays. -/
def smaller (left right : Float) : Float := if left.isNaN || right ≤ left then right else left

/-- The larger number; one that is no number gives way, and of equal ones the second stays. -/
def larger (left right : Float) : Float := if left.isNaN || left ≤ right then right else left

/-- Sum from left to right. It starts from negative zero, so that adding nothing changes no sign. -/
def sum (values : List Float) : Float := values.foldl (· + ·) (-0.0)

def isWhole (value : Float) : Bool :=
  match Binary.ofFloat? value with
  | some exact => exact.rest == 0
  | none => false

def onWhole (choose : Binary → Nat) (value : Float) : Float :=
  match Binary.ofFloat? value with
  | none => value
  | some exact =>
    let magnitude := Float.ofNat (choose exact)
    if exact.negative then -magnitude else magnitude

def floor : Float → Float :=
  onWhole fun exact => if exact.negative && exact.rest != 0 then exact.whole + 1 else exact.whole

def ceil : Float → Float :=
  onWhole fun exact => if !exact.negative && exact.rest != 0 then exact.whole + 1 else exact.whole

/-- The nearest whole number, a tie away from zero. -/
def round : Float → Float :=
  onWhole fun exact =>
    if exact.fractionOf.2 ≤ 2 * exact.rest then exact.whole + 1 else exact.whole

/-- What is left of the dividend's magnitude after taking away the divisor's as often as it goes,
with the dividend's sign. The result is exact. -/
def remainder (dividend divisor : Float) : Float :=
  match Binary.ofFloat? dividend, Binary.ofFloat? divisor with
  | some left, some right =>
    if right.significand = 0 then 0.0 / 0.0
    else
      let exponent := min left.exponent right.exponent
      let scaled (exact : Binary) := exact.significand * Nat.pow 2 (exact.exponent - exponent).toNat
      Binary.toFloat ⟨left.negative, scaled left % scaled right, exponent⟩
  | some _, none => if divisor.isNaN then divisor else dividend
  | none, _ => 0.0 / 0.0

end Scouting.Number

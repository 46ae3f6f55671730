import Scouting.Decimal.Binary
import Scouting.Text.Natural

/-!
The fewest decimal digits that read back as a double. The reals that round to a double form an
interval around it; the coarsest decimal grid with a point in the interval gives the digits, and of
two such points the one nearer to the double is taken.
-/

namespace Scouting.Decimal

structure Digits where
  digits : Nat
  exponent : Int
  deriving DecidableEq

def leadingExponent (numerator denominator : Nat) : Int :=
  if denominator ≤ numerator then
    ((Nat.toDigits 10 (numerator / denominator)).length : Int) - 1
  else
    let length := (Nat.toDigits 10 (denominator / numerator)).length
    if denominator ≤ Nat.pow 10 (length - 1) * numerator then 1 - (length : Int)
    else -(length : Int)

/-- The interval of reals that round to a double, over a common denominator. -/
structure Interval where
  low : Nat
  value : Nat
  high : Nat
  denominator : Nat
  closed : Bool

/-- The interval around a positive value; below a power of two the neighbour is half as far. -/
def Binary.interval (value : Binary) : Interval :=
  let unit := Nat.pow 2 value.exponent.toNat
  let below := if value.significand = Nat.pow 2 52 && value.exponent != -1074 then 1 else 2
  { low := (4 * value.significand - below) * unit
    value := 4 * value.significand * unit
    high := (4 * value.significand + 2) * unit
    denominator := 4 * Nat.pow 2 (-value.exponent).toNat
    closed := value.significand % 2 == 0 }

def Interval.holds (interval : Interval) (scale scaled : Nat) : Bool :=
  if interval.closed then interval.low * scale ≤ scaled && scaled ≤ interval.high * scale
  else interval.low * scale < scaled && scaled < interval.high * scale

def Interval.onGrid (interval : Interval) (exponent : Int) : Option Digits :=
  let up := Nat.pow 10 exponent.toNat
  let scale := Nat.pow 10 (-exponent).toNat
  let step := up * interval.denominator
  let value := interval.value * scale
  let below := value / step
  let belowFits := interval.holds scale (below * step)
  let aboveFits := interval.holds scale ((below + 1) * step)
  if belowFits && aboveFits then
    some ⟨if 2 * (value - below * step) ≤ step then below else below + 1, exponent⟩
  else if belowFits then some ⟨below, exponent⟩
  else if aboveFits then some ⟨below + 1, exponent⟩
  else none

def Interval.coarsest (interval : Interval) : Nat → Int → Digits
  | 0, exponent => ⟨interval.value / interval.denominator, exponent⟩
  | tries + 1, exponent =>
    match interval.onGrid exponent with
    | some digits => digits
    | none => interval.coarsest tries (exponent - 1)

def Binary.shortest (value : Binary) : Digits :=
  let interval := value.interval
  interval.coarsest 18 (leadingExponent interval.value interval.denominator)

/-- The digits as characters, without zeros at the end, and how many of them stand before the
point. -/
def Digits.spelled (number : Digits) : List Char × Int :=
  let chars := Nat.toDigits 10 number.digits
  ((chars.reverse.dropWhile (· == '0')).reverse, number.exponent + chars.length)

end Scouting.Decimal

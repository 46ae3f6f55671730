import Scouting.Decimal.Shortest

/-!
Decimal text of doubles. Three layouts share the shortest digits: the plain layout writes every
number without an exponent, the record layout keeps a point and goes to an exponent outside
`10 ^ -5 … 10 ^ 16`, and the fixed layout rounds the exact value to a number of places.
-/

namespace Scouting.Decimal

/-- Text of a double: of a finite magnitude by `finite`, after its sign. -/
def written (finite : Binary → List Char) (value : Float) : String :=
  match Binary.ofFloat? value with
  | some exact => String.ofList ((if exact.negative then ['-'] else []) ++ finite exact)
  | none => if value.isNaN then "NaN" else if value < 0.0 then "-inf" else "inf"

/-- As many zeros as a difference is above zero. -/
def zeros (count : Int) : List Char := List.replicate count.toNat '0'

def plainMagnitude (exact : Binary) : List Char :=
  if exact.significand = 0 then ['0']
  else
    let (digits, point) := exact.shortest.spelled
    if point ≤ 0 then ['0', '.'] ++ zeros (-point) ++ digits
    else if digits.length ≤ point then digits ++ zeros (point - digits.length)
    else digits.take point.toNat ++ ['.'] ++ digits.drop point.toNat

def plain : Float → String := written plainMagnitude

def exponentText (exponent : Int) : List Char :=
  if exponent < 0 then ['e', '-'] ++ Nat.toDigits 10 exponent.natAbs
  else 'e' :: Nat.toDigits 10 exponent.natAbs

def recordMagnitude (exact : Binary) : List Char :=
  if exact.significand = 0 then ['0', '.', '0']
  else
    let (digits, point) := exact.shortest.spelled
    if digits.length ≤ point && point ≤ 16 then
      digits ++ zeros (point - digits.length) ++ ['.', '0']
    else if 0 < point && point ≤ 16 then
      digits.take point.toNat ++ ['.'] ++ digits.drop point.toNat
    else if -5 < point && point ≤ 0 then ['0', '.'] ++ zeros (-point) ++ digits
    else if digits.length = 1 then digits ++ exponentText (point - 1)
    else digits.take 1 ++ ['.'] ++ digits.drop 1 ++ exponentText (point - 1)

def record : Float → String := written recordMagnitude

def roundDiv (numerator denominator : Nat) : Nat :=
  let below := numerator / denominator
  let rest := 2 * (numerator % denominator)
  if rest < denominator || (rest == denominator && below % 2 == 0) then below else below + 1

def fixedMagnitude (places : Nat) (exact : Binary) : List Char :=
  let (numerator, denominator) := exact.fractionOf
  let scaled := Nat.toDigits 10 (roundDiv (numerator * Nat.pow 10 places) denominator)
  let padded := List.replicate (places + 1 - scaled.length) '0' ++ scaled
  let before := padded.length - places
  if places = 0 then padded else padded.take before ++ ['.'] ++ padded.drop before

def fixed (places : Nat) : Float → String := written (fixedMagnitude places)

end Scouting.Decimal

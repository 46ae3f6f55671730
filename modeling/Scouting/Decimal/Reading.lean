import Scouting.Text.Natural

/-!
Doubles in decimal text. A number is a sign, digits with at most one point among them, and an
exponent, where only one digit is required; the words for infinity and for no number are taken in
any case. The value is rounded once, to the nearest double.
-/

namespace Scouting.Decimal

open Scouting.Text

/-- `digits * 10 ^ exponent` rounded to the nearest double. Magnitudes far outside the range of
doubles are settled before the power is formed. -/
def nearest (digits : Nat) (exponent : Int) : Float :=
  let size := exponent + (Nat.toDigits 10 digits).length
  if digits = 0 || size < -400 then 0.0
  else if 400 < size then 1.0 / 0.0
  else Float.ofScientific digits (exponent < 0) exponent.natAbs

def exponentDigits (digits : List Char) : Option Nat :=
  if digits.isEmpty || !digits.all isDigit then none else some (digitsValue digits)

/-- The exponent after its mark: a sign and at least one digit, to the end. -/
def readExponent : List Char → Option Int
  | '-' :: digits => (exponentDigits digits).map fun value => -(value : Int)
  | '+' :: digits => (exponentDigits digits).map fun value => (value : Int)
  | digits => (exponentDigits digits).map fun value => (value : Int)

/-- Digits around at most one point, and an exponent. -/
def readMagnitude (chars : List Char) : Option Float := do
  let before := chars.takeWhile isDigit
  let (after, rest) := match chars.dropWhile isDigit with
    | '.' :: rest => (rest.takeWhile isDigit, rest.dropWhile isDigit)
    | rest => ([], rest)
  if before.isEmpty && after.isEmpty then none
  let exponent ← match rest with
    | [] => some 0
    | 'e' :: rest => readExponent rest
    | 'E' :: rest => readExponent rest
    | _ => none
  return nearest (digitsValue (before ++ after)) (exponent - after.length)

def readUnsigned (chars : List Char) : Option Float :=
  match String.ofList (chars.map Char.toLower) with
  | "inf" => some (1.0 / 0.0)
  | "infinity" => some (1.0 / 0.0)
  | "nan" => some (0.0 / 0.0)
  | _ => readMagnitude chars

def read : List Char → Option Float
  | '-' :: chars => (readUnsigned chars).map (- ·)
  | '+' :: chars => readUnsigned chars
  | chars => readUnsigned chars

end Scouting.Decimal

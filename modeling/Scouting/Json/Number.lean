import Scouting.Text.Natural
import Scouting.Json.Basic

/-!
Numbers in JSON text. The digits are gathered into a significand of sixty-four bits; digits that no
longer fit only move the exponent or are dropped. A number that is not an integer is the significand
as a double, multiplied or divided by a power of ten as a double, so it is rounded twice and may be
off in its last place.
-/

namespace Scouting.Json

open Scouting.Text

def absorb : Nat → List Char → Nat × Nat
  | significand, [] => (significand, 0)
  | significand, digit :: digits =>
    let next := significand * 10 + digitValue digit
    if next < bound64 then absorb next digits else (significand, digits.length + 1)

def powerOfTen (exponent : Nat) : Float := Float.ofScientific 1 false exponent

def scaleDown (value : Float) (exponent : Nat) : Float :=
  if value == 0.0 then value
  else if exponent ≤ 308 then value / powerOfTen exponent
  else scaleDown (value / powerOfTen 308) (exponent - 308)
termination_by exponent

/-- Multiplies by a power of ten; nothing if the product is too large. -/
def scaleUp (value : Float) (exponent : Nat) : Option Float :=
  if 308 < exponent then if value == 0.0 then some value else none
  else
    let product := value * powerOfTen exponent
    if product.isInf then none else some product

def scaled (significand : Nat) (exponent : Int) : Option Float :=
  if exponent < 0 then some (scaleDown (Float.ofNat significand) exponent.natAbs)
  else scaleUp (Float.ofNat significand) exponent.natAbs

def exponentLimit : Nat := Nat.pow 2 31

/-- A significand times the power of ten of a written exponent. Past the limit only zero is small
enough for a positive exponent, and everything becomes zero for a negative one. -/
def withExponent (significand : Nat) (exponent : Int) (negative : Bool) (digits : List Char) :
    Option Float :=
  let written := digitsValue digits
  if written < exponentLimit then
    scaled significand (if negative then exponent - written else exponent + written)
  else if significand != 0 && !negative then none
  else some 0.0

structure Written where
  negative : Bool
  whole : List Char
  fraction : Option (List Char)
  exponent : Option (Bool × List Char)

def Written.value (number : Written) : Option Json :=
  let (head, dropped) := absorb 0 number.whole
  let signed (magnitude : Float) := float (if number.negative then -magnitude else magnitude)
  match number.fraction, number.exponent with
  | none, none =>
    if dropped != 0 then (scaled head dropped).map signed
    else if !number.negative then some (integer head)
    else if head == 0 || Nat.pow 2 63 < head then some (signed (Float.ofNat head))
    else some (integer (-head))
  | fraction, exponent =>
    let digits := fraction.getD []
    let (significand, left) := absorb head digits
    let shift := (dropped : Int) - (digits.length - left : Nat)
    (match exponent with
      | none => scaled significand shift
      | some (negative, written) => withExponent significand shift negative written).map signed

/-- One part after its mark: at least one digit, and the rest. -/
def digitsAfter (chars : List Char) : Option (List Char × List Char) :=
  let digits := chars.takeWhile isDigit
  if digits.isEmpty then none else some (digits, chars.dropWhile isDigit)

/-- The whole part: a zero that stands alone, or digits that do not start with zero. -/
def wholePart : List Char → Option (List Char × List Char)
  | '0' :: rest => if rest.head?.any isDigit then none else some (['0'], rest)
  | chars => digitsAfter chars

def fractionPart : List Char → Option (Option (List Char) × List Char)
  | '.' :: rest => (digitsAfter rest).map fun (digits, rest) => (some digits, rest)
  | rest => some (none, rest)

def exponentSign : List Char → Bool × List Char
  | '-' :: rest => (true, rest)
  | '+' :: rest => (false, rest)
  | rest => (false, rest)

def exponentPart : List Char → Option (Option (Bool × List Char) × List Char)
  | char :: rest =>
    if char = 'e' || char = 'E' then
      let (negative, rest) := exponentSign rest
      (digitsAfter rest).map fun (digits, rest) => (some (negative, digits), rest)
    else some (none, char :: rest)
  | [] => some (none, [])

def number (chars : List Char) : Option (Json × List Char) := do
  let (negative, chars) := match chars with
    | '-' :: rest => (true, rest)
    | rest => (false, rest)
  let (whole, chars) ← wholePart chars
  let (fraction, chars) ← fractionPart chars
  let (exponent, chars) ← exponentPart chars
  let value ← Written.value ⟨negative, whole, fraction, exponent⟩
  return (value, chars)

end Scouting.Json

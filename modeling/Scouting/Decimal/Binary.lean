/-!
The exact value of a double: a sign, a natural significand and a power of two. Rounding to whole
numbers, remainders and decimal text are exact arithmetic on this form.
-/

namespace Scouting.Decimal

/-- The number `significand * 2 ^ exponent`, negated if `negative`. -/
structure Binary where
  negative : Bool
  significand : Nat
  exponent : Int
  deriving DecidableEq

def Binary.ofFloat? (value : Float) : Option Binary :=
  let bits : Nat := value.toBits.toNat
  let field : Nat := bits / Nat.pow 2 52 % Nat.pow 2 11
  let fraction : Nat := bits % Nat.pow 2 52
  if field = 2047 then none
  else if field = 0 then some ⟨bits / Nat.pow 2 63 = 1, fraction, -1074⟩
  else some ⟨bits / Nat.pow 2 63 = 1, fraction + Nat.pow 2 52, (field : Int) - 1075⟩

def Binary.magnitudeBits (value : Binary) : Nat :=
  if value.significand = 0 then 0
  else
    let high := value.significand.log2
    let top := value.exponent + high
    if top < -1022 then value.significand * Nat.pow 2 (value.exponent + 1074).toNat
    else
      (top + 1023).toNat * Nat.pow 2 52 +
        (value.significand * Nat.pow 2 52 / Nat.pow 2 high - Nat.pow 2 52)

def Binary.toFloat (value : Binary) : Float :=
  Float.ofBits ((if value.negative then Nat.pow 2 63 else 0) + value.magnitudeBits).toUInt64

def Binary.fractionOf (value : Binary) : Nat × Nat :=
  (value.significand * Nat.pow 2 value.exponent.toNat, Nat.pow 2 (-value.exponent).toNat)

def Binary.whole (value : Binary) : Nat := value.fractionOf.1 / value.fractionOf.2

def Binary.rest (value : Binary) : Nat := value.fractionOf.1 % value.fractionOf.2

end Scouting.Decimal

/-!
Natural numbers in decimal. Reading takes an optional plus sign and at least one ASCII digit, and
refuses a number that does not fit its bound.
-/

namespace Scouting.Text

def isDigit (char : Char) : Bool := '0' ≤ char && char ≤ '9'

def digitValue (char : Char) : Nat := char.toNat - '0'.toNat

def digitsValue (digits : List Char) : Nat :=
  digits.foldl (fun total digit => total * 10 + digitValue digit) 0

def hexValue? (char : Char) : Option Nat :=
  if '0' ≤ char && char ≤ '9' then some (char.toNat - '0'.toNat)
  else if 'a' ≤ char && char ≤ 'f' then some (char.toNat - 'a'.toNat + 10)
  else if 'A' ≤ char && char ≤ 'F' then some (char.toNat - 'A'.toNat + 10)
  else none

def readDigits (bound : Nat) (chars : List Char) : Option Nat :=
  if !chars.isEmpty && chars.all isDigit && digitsValue chars < bound then some (digitsValue chars)
  else none

def readNatural (bound : Nat) : List Char → Option Nat
  | '+' :: digits => readDigits bound digits
  | digits => readDigits bound digits

def bound8 : Nat := Nat.pow 2 8

def bound32 : Nat := Nat.pow 2 32

def bound63 : Nat := Nat.pow 2 63

def bound64 : Nat := Nat.pow 2 64

def isInt64 (value : Int) : Bool := -(bound63 : Int) ≤ value && value < (bound63 : Int)

def isAlphanumeric (char : Char) : Bool :=
  isDigit char || ('a' ≤ char && char ≤ 'z') || ('A' ≤ char && char ≤ 'Z')

def isLetter (char : Char) : Bool :=
  ('a' ≤ char && char ≤ 'z') || ('A' ≤ char && char ≤ 'Z')

end Scouting.Text

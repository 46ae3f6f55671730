import Scouting.Text.Blank
import Scouting.Text.Natural

/-!
Points in time. An instant is written as a date, a `T` or a space, a time of day and an offset from
universal time; values need no padding, blanks may stand between the parts, and a year outside
0…9999 needs a sign. Instants are ordered by second and then by nanosecond, where a leap second
counts on past one thousand million nanoseconds.
-/

namespace Scouting

open Text

/-- A second since the start of 1970, universal time, and the nanoseconds that have passed in it. -/
structure Instant where
  second : Int
  nanosecond : Nat
  deriving DecidableEq

namespace Instant

def notAfter (left right : Instant) : Bool :=
  left.second < right.second ||
    (left.second == right.second && left.nanosecond ≤ right.nanosecond)

def isLeap (year : Int) : Bool := year % 4 == 0 && (year % 100 != 0 || year % 400 == 0)

def monthDays (year : Int) (month : Nat) : Nat :=
  if month = 2 then if isLeap year then 29 else 28
  else if month = 4 || month = 6 || month = 9 || month = 11 then 30 else 31

/-- The days before a year, counted from the first of January of the year zero. -/
def daysBeforeYear (year : Int) : Int :=
  let past := year - 1
  365 * year + past.fdiv 4 - past.fdiv 100 + past.fdiv 400 + 1

def daysBeforeMonth (year : Int) (month : Nat) : Nat :=
  ((List.range month).drop 1).foldl (fun total earlier => total + monthDays year earlier) 0

def dayNumber (year : Int) (month day : Nat) : Int :=
  daysBeforeYear year + daysBeforeMonth year month + day - 1 - daysBeforeYear 1970

abbrev Part (α : Type) := Option (α × List Char)

def digitsPart (most : Nat) (chars : List Char) : Part Nat :=
  let digits := (chars.take most).takeWhile isDigit
  if digits.isEmpty then none else some (digitsValue digits, chars.drop digits.length)

def shortPart (chars : List Char) : Part Nat := digitsPart 2 (dropBlanks chars)

/-- A year, after blanks: up to four digits, or a sign and any number of digits. -/
def yearPart (chars : List Char) : Part Int :=
  match dropBlanks chars with
  | '-' :: rest => (digitsPart rest.length rest).map fun (year, rest) => (-(year : Int), rest)
  | '+' :: rest => (digitsPart rest.length rest).map fun (year, rest) => ((year : Int), rest)
  | rest => (digitsPart 4 rest).map fun (year, rest) => ((year : Int), rest)

def markPart (mark : Char) (chars : List Char) : Option (List Char) :=
  match dropBlanks chars with
  | char :: rest => if char = mark then some rest else none
  | [] => none

/-- The nanoseconds after a point, if there is a point; digits past the ninth are dropped. -/
def fractionPart : List Char → Part Nat
  | '.' :: rest =>
    let digits := rest.takeWhile isDigit
    let kept := digits.take 9
    if digits.isEmpty then none
    else some (digitsValue kept * Nat.pow 10 (9 - kept.length), rest.dropWhile isDigit)
  | rest => some (0, rest)

/-- The hours and minutes after the sign of an offset, in seconds. Colons and blanks may part
them. -/
def offsetSize : List Char → Part Nat
  | first :: second :: rest =>
    if isDigit first && isDigit second then
      match rest.dropWhile fun char => char = ':' || isBlank char with
      | third :: fourth :: rest =>
        if isDigit third && isDigit fourth && digitValue third < 6 then
          some (digitsValue [first, second] * 3600 + digitsValue [third, fourth] * 60, rest)
        else none
      | _ => none
    else none
  | _ => none

def offsetPart (chars : List Char) : Part Int :=
  let chars := dropBlanks chars
  if (chars.take 3).map Char.toLower = ['u', 't', 'c'] then some (0, chars.drop 3)
  else match chars with
    | 'Z' :: rest => some (0, rest)
    | 'z' :: rest => some (0, rest)
    | '+' :: rest => (offsetSize rest).map fun (size, rest) => ((size : Int), rest)
    | '-' :: rest => (offsetSize rest).map fun (size, rest) => (-(size : Int), rest)
    | '−' :: rest => (offsetSize rest).map fun (size, rest) => (-(size : Int), rest)
    | _ => none

def separatorPart : List Char → Option (List Char)
  | 'T' :: rest => some rest
  | 't' :: rest => some rest
  | ' ' :: rest => some rest
  | _ => none

def yearRange : Int × Int := (-262143, 262142)

def isDate (year : Int) (month day : Nat) : Bool :=
  yearRange.1 ≤ year && year ≤ yearRange.2 && 1 ≤ month && month ≤ 12 && 1 ≤ day &&
    day ≤ monthDays year month

def isHeld (second : Int) : Bool :=
  dayNumber yearRange.1 1 1 * 86400 ≤ second && second < (dayNumber yearRange.2 12 31 + 1) * 86400

def read (chars : List Char) : Option Instant := do
  let (year, chars) ← yearPart chars
  let chars ← markPart '-' chars
  let (month, chars) ← shortPart chars
  let chars ← markPart '-' chars
  let (day, chars) ← shortPart chars
  let chars ← separatorPart chars
  let (hour, chars) ← shortPart chars
  let chars ← markPart ':' chars
  let (minute, chars) ← shortPart chars
  let chars ← markPart ':' chars
  let (second, chars) ← shortPart chars
  let (nanosecond, chars) ← fractionPart chars
  let (offset, chars) ← offsetPart chars
  if !(dropBlanks chars).isEmpty then none
  if !isDate year month day || 23 < hour || 59 < minute || 60 < second then none
  if 86400 ≤ offset.natAbs then none
  let leap := second == 60
  let moment := dayNumber year month day * 86400 + hour * 3600 + minute * 60 +
    (if leap then 59 else second : Nat) - offset
  if !isHeld moment then none
  return ⟨moment, nanosecond + if leap then 1000000000 else 0⟩

end Instant

end Scouting

import Scouting.Decimal.Reading
import Scouting.Instant
import Scouting.Toml.Basic

/-!
Unquoted TOML scalars: truth values, integers in four bases, floats, dates and times. Underscores
stand only between digits, and a number in decimal has no needless zero in front.
-/

namespace Scouting.Toml

open Text

def digitGroups (isDigit : Char → Bool) : List Char → Option (List Char)
  | [] => none
  | [digit] => if isDigit digit then some [digit] else none
  | digit :: '_' :: rest =>
    if isDigit digit then (digitGroups isDigit rest).map (digit :: ·) else none
  | digit :: rest =>
    if isDigit digit then (digitGroups isDigit rest).map (digit :: ·) else none

def signed : List Char → Bool × List Char
  | '-' :: rest => (true, rest)
  | '+' :: rest => (false, rest)
  | rest => (false, rest)

/-- Decimal digits without a needless zero in front. -/
def wholeDigits (chars : List Char) : Option (List Char) :=
  match digitGroups isDigit chars with
  | some ('0' :: _ :: _) => none
  | digits => digits

def fitting (value : Int) : Option Toml :=
  if isInt64 value then some (integer value) else none

def baseValue (base : Nat) (chars : List Char) : Option Nat := do
  let values ← chars.mapM hexValue?
  return values.foldl (fun total value => total * base + value) 0

def isBaseDigit (base : Nat) (char : Char) : Bool := (hexValue? char).any (· < base)

def baseMarks : List (Char × Nat) := [('x', 16), ('o', 8), ('b', 2)]

def integer? (chars : List Char) : Option Toml :=
  match chars with
  | '0' :: mark :: rest =>
    match baseMarks.lookup mark with
    | some base => do fitting (← baseValue base (← digitGroups (isBaseDigit base) rest))
    | none => none
  | _ => do
    let (negative, rest) := signed chars
    let value := digitsValue (← wholeDigits rest)
    fitting (if negative then -(value : Int) else value)

/-- An exponent, without underscores; nothing at all is no exponent. -/
def exponentText : List Char → Option (List Char)
  | [] => some []
  | mark :: rest =>
    if mark = 'e' || mark = 'E' then do
      let (negative, digits) := signed rest
      return 'e' :: (if negative then ['-'] else []) ++ (← digitGroups isDigit digits)
    else none

def fractionText : List Char → Option (List Char)
  | '.' :: rest => do
    let inFraction (char : Char) : Bool := isDigit char || char = '_'
    let digits ← digitGroups isDigit (rest.takeWhile inFraction)
    return '.' :: digits ++ (← exponentText (rest.dropWhile inFraction))
  | [] => none
  | rest => exponentText rest

def float? (chars : List Char) : Option Toml := do
  let (negative, rest) := signed chars
  if rest = ['i', 'n', 'f'] then return float (if negative then -1.0 / 0.0 else 1.0 / 0.0)
  if rest = ['n', 'a', 'n'] then return float (0.0 / 0.0)
  let inWhole (char : Char) : Bool := isDigit char || char = '_'
  let text := (← wholeDigits (rest.takeWhile inWhole)) ++ (← fractionText (rest.dropWhile inWhole))
  let value ← Decimal.read (if negative then '-' :: text else text)
  if value == 1.0 / 0.0 then none else return float value

/-- A number of exactly `count` digits at the front, within bounds. -/
def part? (count least most : Nat) (chars : List Char) : Option (Nat × List Char) := do
  let value ← readDigits bound32 (chars.take count)
  if (chars.take count).length = count && least ≤ value && value ≤ most then
    return (value, chars.drop count)
  else none

def after? (mark : Char) : List Char → Option (List Char)
  | char :: rest => if char = mark then some rest else none
  | [] => none

def afterDate? (chars : List Char) : Option (List Char) := do
  let (year, chars) ← part? 4 0 9999 chars
  let chars ← after? '-' chars
  let (month, chars) ← part? 2 1 12 chars
  let chars ← after? '-' chars
  let (_, chars) ← part? 2 1 (Instant.monthDays year month) chars
  return chars

def afterTime? (chars : List Char) : Option (List Char) := do
  let (_, chars) ← part? 2 0 23 chars
  let chars ← after? ':' chars
  let (_, chars) ← part? 2 0 59 chars
  let chars ← after? ':' chars
  let (_, chars) ← part? 2 0 60 chars
  match chars with
  | '.' :: rest => if (rest.takeWhile isDigit).isEmpty then none else return rest.dropWhile isDigit
  | rest => return rest

def isOffset : List Char → Bool
  | [] => true
  | [mark] => mark = 'Z' || mark = 'z'
  | mark :: rest =>
    (mark = '+' || mark = '-') && ((do
      let (_, rest) ← part? 2 0 23 rest
      let rest ← after? ':' rest
      let (_, rest) ← part? 2 0 59 rest
      return rest : Option (List Char)) == some [])

def isMoment (chars : List Char) : Bool :=
  match afterDate? chars with
  | some [] => true
  | some (mark :: rest) =>
    (mark = 'T' || mark = 't' || mark = ' ') && (afterTime? rest).any isOffset
  | none => afterTime? chars == some []

def scalar? (chars : List Char) : Option Toml :=
  if chars = ['t', 'r', 'u', 'e'] then some (bool true)
  else if chars = ['f', 'a', 'l', 's', 'e'] then some (bool false)
  else if isMoment chars then some (moment (String.ofList chars))
  else (integer? chars).or (float? chars)

end Scouting.Toml

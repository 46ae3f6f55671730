import Scouting.Json.Number

/-!
Reading JSON text. A document is one value with blanks around it and nothing else; arrays and
objects nest at most 127 deep. Members of an object are sorted by name, and of several members with
one name the last one counts.
-/

namespace Scouting.Json

open Text

def isSpace (char : Char) : Bool :=
  char = ' ' || char = '\n' || char = '\t' || char = '\r'

def skipSpace (chars : List Char) : List Char := chars.dropWhile isSpace

def hexUnit : List Char → Option (Nat × List Char)
  | first :: second :: third :: fourth :: rest => do
    let a ← hexValue? first
    let b ← hexValue? second
    let c ← hexValue? third
    let d ← hexValue? fourth
    return (((a * 16 + b) * 16 + c) * 16 + d, rest)
  | _ => none

def unitChar (unit : Nat) (rest : List Char) : Option (Char × List Char) :=
  if 0xDC00 ≤ unit && unit ≤ 0xDFFF then none
  else if 0xD800 ≤ unit && unit ≤ 0xDBFF then
    match rest with
    | '\\' :: 'u' :: rest => do
      let (low, rest) ← hexUnit rest
      if 0xDC00 ≤ low && low ≤ 0xDFFF then
        return (Char.ofNat (0x10000 + (unit - 0xD800) * 0x400 + (low - 0xDC00)), rest)
      else none
    | _ => none
  else some (Char.ofNat unit, rest)

def escaped : List Char → Option (Char × List Char)
  | '"' :: rest => some ('"', rest)
  | '\\' :: rest => some ('\\', rest)
  | '/' :: rest => some ('/', rest)
  | 'b' :: rest => some ('\x08', rest)
  | 'f' :: rest => some ('\x0c', rest)
  | 'n' :: rest => some ('\n', rest)
  | 'r' :: rest => some ('\r', rest)
  | 't' :: rest => some ('\t', rest)
  | 'u' :: rest => (hexUnit rest).bind fun (unit, rest) => unitChar unit rest
  | _ => none

/-- The characters of a string up to its closing quote. Each step takes at least one character, so
the length of the text bounds the number of steps. -/
def stringTail : Nat → List Char → List Char → Option (String × List Char)
  | 0, _, _ => none
  | _ + 1, _, [] => none
  | steps + 1, done, char :: rest =>
    if char = '"' then some (String.ofList done.reverse, rest)
    else if char = '\\' then
      match escaped rest with
      | none => none
      | some (char, rest) => stringTail steps (char :: done) rest
    else if char.toNat < 0x20 then none
    else stringTail steps (char :: done) rest

def stringRest (chars : List Char) : Option (String × List Char) :=
  stringTail chars.length [] chars

def itemsTail (item : List Char → Option (Json × List Char)) :
    Nat → List Json → List Char → Option (List Json × List Char)
  | 0, _, _ => none
  | steps + 1, done, chars =>
    match item (skipSpace chars) with
    | none => none
    | some (value, rest) =>
      match skipSpace rest with
      | ',' :: rest => itemsTail item steps (value :: done) rest
      | ']' :: rest => some ((value :: done).reverse, rest)
      | _ => none

/-- One member of an object: a name, a colon and a value. -/
def memberItem (item : List Char → Option (Json × List Char)) (chars : List Char) :
    Option ((String × Json) × List Char) :=
  match skipSpace chars with
  | '"' :: rest =>
    match stringRest rest with
    | none => none
    | some (name, rest) =>
      match skipSpace rest with
      | ':' :: rest => (item (skipSpace rest)).map fun (value, rest) => ((name, value), rest)
      | _ => none
  | _ => none

def membersTail (item : List Char → Option (Json × List Char)) :
    Nat → List (String × Json) → List Char → Option (List (String × Json) × List Char)
  | 0, _, _ => none
  | steps + 1, done, chars =>
    match memberItem item chars with
    | none => none
    | some (entry, rest) =>
      match skipSpace rest with
      | ',' :: rest => membersTail item steps (entry :: done) rest
      | '\x7d' :: rest => some ((entry :: done).reverse, rest)
      | _ => none

def arrayRest (item : List Char → Option (Json × List Char)) (chars : List Char) :
    Option (Json × List Char) :=
  match skipSpace chars with
  | ']' :: rest => some (array [], rest)
  | chars => (itemsTail item chars.length [] chars).map fun (items, rest) => (array items, rest)

def objectRest (item : List Char → Option (Json × List Char)) (chars : List Char) :
    Option (Json × List Char) :=
  match skipSpace chars with
  | '\x7d' :: rest => some (object [], rest)
  | chars =>
    (membersTail item chars.length [] chars).map fun (members, rest) =>
      (object (Entries.ofList members), rest)

def scalar : List Char → Option (Json × List Char)
  | '"' :: rest => (stringRest rest).map fun (value, rest) => (text value, rest)
  | 'n' :: 'u' :: 'l' :: 'l' :: rest => some (null, rest)
  | 't' :: 'r' :: 'u' :: 'e' :: rest => some (bool true, rest)
  | 'f' :: 'a' :: 'l' :: 's' :: 'e' :: rest => some (bool false, rest)
  | chars => number chars

/-- A value in which arrays and objects nest at most `depth` deep. -/
def value : Nat → List Char → Option (Json × List Char)
  | 0, chars => scalar chars
  | depth + 1, '[' :: rest => arrayRest (value depth) rest
  | depth + 1, '\x7b' :: rest => objectRest (value depth) rest
  | _ + 1, chars => scalar chars

def depthLimit : Nat := 127

def read (source : String) : Option Json :=
  match value depthLimit (skipSpace source.toList) with
  | some (document, rest) => if (skipSpace rest).isEmpty then some document else none
  | none => none

end Scouting.Json

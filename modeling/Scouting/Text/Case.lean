import Scouting.Text.CaseTable

/-!
Letter case. Upper and lower case follow the full mappings of the Unicode character database, in
which one character may become several; the lower case of a capital sigma depends on whether it
ends a word. Option labels and function names are compared without case for ASCII letters only.
-/

namespace Scouting.Text

/-- The characters a code point becomes: several by a long mapping, one by a run, else itself. -/
def mapCase (runs : List CaseRun) (long : List (Nat × List Nat)) (char : Char) : List Char :=
  match long.lookup char.toNat with
  | some codes => codes.map Char.ofNat
  | none =>
    match runs.find? (·.covers char.toNat) with
    | some run => [Char.ofNat (char.toNat + run.offset).toNat]
    | none => [char]

def upper (char : Char) : List Char :=
  if char.toNat < 128 then [char.toUpper] else mapCase upperRuns upperLong char

def lower (char : Char) : List Char :=
  if char.toNat < 128 then [char.toLower] else mapCase lowerRuns lowerLong char

def inRanges (ranges : List (Nat × Nat)) (char : Char) : Bool :=
  ranges.any fun range => range.1 ≤ char.toNat && char.toNat ≤ range.2

/-- Is the first character that is not passed over a cased one? -/
def meetsCased (chars : List Char) : Bool :=
  match chars.dropWhile (inRanges ignorableRanges) with
  | [] => false
  | char :: _ => inRanges casedRanges char

def lowerAfter (before : List Char) : List Char → List Char
  | [] => []
  | 'Σ' :: rest =>
    (if meetsCased before && !meetsCased rest then 'ς' else 'σ') :: lowerAfter ('Σ' :: before) rest
  | char :: rest => lower char ++ lowerAfter (char :: before) rest

/-- Lower case of a text. A capital sigma that ends a word becomes the final form. -/
def lowercase (text : String) : String := String.ofList (lowerAfter [] text.toList)

def asciiLower (text : String) : String := String.ofList (text.toList.map Char.toLower)

/-- Are two texts equal up to the case of ASCII letters? -/
def sameLetters (left right : String) : Bool :=
  left.toList.map Char.toLower == right.toList.map Char.toLower

/-- Breaks characters at every separator; there is one piece more than there are separators. -/
def splitAt (separator : Char) : List Char → List (List Char)
  | [] => [[]]
  | char :: rest =>
    let pieces := splitAt separator rest
    if char = separator then [] :: pieces
    else match pieces with
      | [] => [[char]]
      | piece :: later => (char :: piece) :: later

def capitalized : List Char → List Char
  | [] => []
  | char :: rest => upper char ++ rest

/-- An id as a title: its words, parted by underscores, capitalized and joined by spaces. -/
def titleCase (id : String) : String :=
  " ".intercalate
    (((splitAt '_' id.toList).filter (!·.isEmpty)).map fun word => String.ofList (capitalized word))

end Scouting.Text

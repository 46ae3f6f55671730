import Scouting.Toml.Quoted
import Scouting.Toml.Scalar

/-!
Reading TOML text. A document is a sequence of lines, each empty, a comment, a key with its value,
or a header that opens a table.
-/

namespace Scouting.Toml

open Text

def skipSpace (chars : List Char) : List Char := chars.dropWhile isSpace

def isBare (char : Char) : Bool := isAlphanumeric char || char = '_' || char = '-'

def name (chars : List Char) : Option (String × List Char) :=
  let bare := chars.takeWhile isBare
  if bare.isEmpty then (lineText chars).map fun (quoted, rest) => (String.ofList quoted, rest)
  else some (String.ofList bare, chars.dropWhile isBare)

/-- The names of a key, at most `steps` of them, with blanks around each. -/
def names : Nat → List Char → Option (List String × List Char)
  | 0, _ => none
  | steps + 1, chars => do
    let (first, rest) ← name (skipSpace chars)
    match skipSpace rest with
    | '.' :: rest =>
      let (others, rest) ← names steps rest
      return (first :: others, rest)
    | rest => return ([first], rest)

def limit : Nat := 79

/-- A key: its names before the last one, and the last one. -/
def key (chars : List Char) : Option ((List String × String) × List Char) := do
  let (names, rest) ← names limit chars
  return ((names.dropLast, ← names.getLast?), rest)

def inScalar (char : Char) : Bool :=
  isAlphanumeric char || char = '+' || char = '-' || char = '_' || char = '.' || char = ':'

/-- A scalar without quotes. After a date, a blank and a digit go on with its time. -/
def bareScalar (chars : List Char) : Option (Toml × List Char) := do
  let word := chars.takeWhile inScalar
  let rest := chars.dropWhile inScalar
  let joined := match rest with
    | ' ' :: digit :: _ => isDigit digit && afterDate? word == some []
    | _ => false
  if joined then
    let time := (rest.drop 1).takeWhile inScalar
    return (← scalar? (word ++ ' ' :: time), (rest.drop 1).dropWhile inScalar)
  else return (← scalar? word, rest)

/-- What is left after a comment, if there is one; a comment holds no control characters. -/
def skipComment : List Char → Option (List Char)
  | '#' :: rest =>
    let after := rest.dropWhile isPlain
    if after.isEmpty || (lineEnd? after).isSome then some after else none
  | chars => some chars

def skipLines : Nat → List Char → Option (List Char)
  | 0, chars => some chars
  | steps + 1, chars => do
    let rest ← skipComment (skipSpace chars)
    match lineEnd? rest with
    | some rest => skipLines steps rest
    | none => return rest

def itemsTail (item : List Char → Option (Toml × List Char)) :
    Nat → List Char → Option (List Toml × List Char)
  | 0, _ => none
  | steps + 1, chars => do
    match ← skipLines chars.length chars with
    | ']' :: rest => return ([], rest)
    | chars =>
      let (first, rest) ← item chars
      match ← skipLines rest.length rest with
      | ',' :: rest =>
        let (others, rest) ← itemsTail item steps rest
        return (first :: others, rest)
      | ']' :: rest => return ([first], rest)
      | _ => none

def binding (item : List Char → Option (Toml × List Char)) (chars : List Char) :
    Option ((List String × String × Toml) × List Char) := do
  let ((path, name), rest) ← key chars
  match rest with
  | '=' :: rest =>
    let (value, rest) ← item (skipSpace rest)
    return ((path, name, value), rest)
  | _ => none

def entriesTail (item : List Char → Option (Toml × List Char)) :
    Nat → Entries → List Char → Option (Entries × List Char)
  | 0, _, _ => none
  | steps + 1, entries, chars => do
    let ((path, name, value), rest) ← binding item chars
    let (_, entries) ← bind path name value .defined entries
    match skipSpace rest with
    | ',' :: rest => entriesTail item steps entries rest
    | '\x7d' :: rest => return (entries, rest)
    | _ => none

def inlineRest (item : List Char → Option (Toml × List Char)) (chars : List Char) :
    Option (Toml × List Char) :=
  match skipSpace chars with
  | '\x7d' :: rest => some (inlineTable [], rest)
  | chars => (entriesTail item chars.length [] chars).map fun (entries, rest) =>
    (inlineTable entries, rest)

/-- A value in which arrays and tables nest at most `depth` deep. -/
def value : Nat → List Char → Option (Toml × List Char)
  | 0, '[' :: _ => none
  | 0, '\x7b' :: _ => none
  | depth + 1, '[' :: rest =>
    (itemsTail (value depth) (rest.length + 1) rest).map fun (items, rest) => (array items, rest)
  | depth + 1, '\x7b' :: rest => inlineRest (value depth) rest
  | _, chars =>
    if chars.head? = some '"' || chars.head? = some '\'' then
      (quotedText chars).map fun (quoted, rest) => (text (String.ofList quoted), rest)
    else bareScalar chars

/-- A document that is read so far: its tables, and the path of the one that is open. -/
structure Draft where
  entries : Entries
  path : List String

def closeHeader (brackets : Nat) (rest : List Char) : Option (List Char) :=
  if rest.take brackets = List.replicate brackets ']' then some (rest.drop brackets) else none

def Draft.header (draft : Draft) (path : List String) (name : String)
    (action : String → TableOrigin → Entries → Option (TableOrigin × Entries)) : Option Draft := do
  let (_, entries) ← change false (action name) path .defined draft.entries
  return ⟨entries, path ++ [name]⟩

def Draft.bind (draft : Draft) (path : List String) (name : String) (value : Toml) :
    Option Draft := do
  let (_, entries) ← change false (Toml.bind path name value) draft.path .defined draft.entries
  return { draft with entries }

def line (draft : Draft) (chars : List Char) : Option (Draft × List Char) :=
  match chars with
  | '[' :: '[' :: rest => do
    let ((path, name), rest) ← key rest
    return (← draft.header path name openNext, ← closeHeader 2 rest)
  | '[' :: rest => do
    let ((path, name), rest) ← key rest
    return (← draft.header path name openTable, ← closeHeader 1 rest)
  | chars =>
    if chars.isEmpty || chars.head? = some '#' || (lineEnd? chars).isSome then some (draft, chars)
    else do
      let ((path, name, value), rest) ← binding (value limit) chars
      return (← draft.bind path name value, rest)

/-- The lines of a document, at most `steps` of them. -/
def lines : Nat → Draft → List Char → Option Draft
  | 0, draft, _ => some draft
  | steps + 1, draft, chars => do
    let (draft, rest) ← line draft (skipSpace chars)
    let rest ← skipComment (skipSpace rest)
    match rest, lineEnd? rest with
    | [], _ => return draft
    | _, some rest => lines steps draft rest
    | _, none => none

def withoutMark : List Char → List Char
  | '\ufeff' :: rest => rest
  | chars => chars

def read (source : String) : Option Entries :=
  let chars := withoutMark source.toList
  (lines (chars.length + 1) ⟨[], []⟩ chars).map Draft.entries

end Scouting.Toml

import Scouting.Text.Natural

/-!
Quoted TOML text: basic strings with escapes and literal strings without, on one line or on several.
Control characters other than the tab have to be escaped.
-/

namespace Scouting.Toml

def isPlain (char : Char) : Bool := char = '\t' || (0x20 ≤ char.toNat && char.toNat ≠ 0x7F)

def escapes : List (Char × Char) :=
  [('b', '\x08'), ('t', '\t'), ('n', '\n'), ('f', '\x0c'), ('r', '\r'), ('"', '"'), ('\\', '\\')]

def codeChar? (digits : List Char) : Option Char := do
  let values ← digits.mapM Text.hexValue?
  let code := values.foldl (fun total value => total * 16 + value) 0
  if h : code.isValidChar then return Char.ofNatAux code h else none

abbrev Quoted := Option (List Char × List Char)

def Quoted.cons (char : Char) (quoted : Quoted) : Quoted :=
  quoted.map fun (chars, rest) => (char :: chars, rest)

def basicRest : List Char → Quoted
  | '"' :: rest => some ([], rest)
  | '\\' :: 'u' :: a :: b :: c :: d :: rest =>
    match codeChar? [a, b, c, d] with
    | some char => Quoted.cons char (basicRest rest)
    | none => none
  | '\\' :: 'U' :: a :: b :: c :: d :: e :: f :: g :: h :: rest =>
    match codeChar? [a, b, c, d, e, f, g, h] with
    | some char => Quoted.cons char (basicRest rest)
    | none => none
  | '\\' :: mark :: rest =>
    match escapes.lookup mark with
    | some char => Quoted.cons char (basicRest rest)
    | none => none
  | char :: rest => if isPlain char && char ≠ '\\' then Quoted.cons char (basicRest rest) else none
  | [] => none

def literalRest : List Char → Quoted
  | '\'' :: rest => some ([], rest)
  | char :: rest => if isPlain char then Quoted.cons char (literalRest rest) else none
  | [] => none

def isSpace (char : Char) : Bool := char = ' ' || char = '\t'

def lineEnd? : List Char → Option (List Char)
  | '\n' :: rest => some rest
  | '\r' :: '\n' :: rest => some rest
  | _ => none

def closingRest (quote : Char) : List Char → List Char × List Char
  | first :: second :: rest =>
    if first = quote && second = quote then ([quote, quote], rest)
    else if first = quote then ([quote], second :: rest)
    else ([], first :: second :: rest)
  | [first] => if first = quote then ([quote], []) else ([], [first])
  | [] => ([], [])

/-- A basic string on several lines, after its opening quotes. While `skipping`, blanks and line
ends are left out, as they are after a backslash at the end of a line. -/
def basicLines (skipping : Bool) : List Char → Quoted
  | '"' :: '"' :: '"' :: rest => some (closingRest '"' rest)
  | '\n' :: rest =>
    if skipping then basicLines true rest else Quoted.cons '\n' (basicLines false rest)
  | '\r' :: '\n' :: rest =>
    if skipping then basicLines true rest else Quoted.cons '\n' (basicLines false rest)
  | '\\' :: 'u' :: a :: b :: c :: d :: rest =>
    match codeChar? [a, b, c, d] with
    | some char => Quoted.cons char (basicLines false rest)
    | none => none
  | '\\' :: 'U' :: a :: b :: c :: d :: e :: f :: g :: h :: rest =>
    match codeChar? [a, b, c, d, e, f, g, h] with
    | some char => Quoted.cons char (basicLines false rest)
    | none => none
  | '\\' :: mark :: rest =>
    match escapes.lookup mark with
    | some char => Quoted.cons char (basicLines false rest)
    | none =>
      if (lineEnd? ((mark :: rest).dropWhile isSpace)).isSome then basicLines true (mark :: rest)
      else none
  | char :: rest =>
    if skipping && isSpace char then basicLines true rest
    else if isPlain char && char ≠ '\\' then Quoted.cons char (basicLines false rest)
    else none
  | [] => none

def literalLines : List Char → Quoted
  | '\'' :: '\'' :: '\'' :: rest => some (closingRest '\'' rest)
  | '\n' :: rest => Quoted.cons '\n' (literalLines rest)
  | '\r' :: '\n' :: rest => Quoted.cons '\n' (literalLines rest)
  | char :: rest => if isPlain char then Quoted.cons char (literalLines rest) else none
  | [] => none

def lineText : List Char → Quoted
  | '"' :: rest => basicRest rest
  | '\'' :: rest => literalRest rest
  | _ => none

/-- A string. A line end right after three opening quotes is left out. -/
def quotedText : List Char → Quoted
  | '"' :: '"' :: '"' :: rest => basicLines false ((lineEnd? rest).getD rest)
  | '\'' :: '\'' :: '\'' :: rest => literalLines ((lineEnd? rest).getD rest)
  | chars => lineText chars

end Scouting.Toml

import Scouting.Decimal.Reading
import Scouting.Text.Blank

/-!
Tokens of an expression, each with the position of its first byte. Blanks are skipped; a number is a
longest run of digits and points that spells a decimal, a name a longest run of letters, digits,
underscores and points that does not start with a digit or a point.
-/

namespace Scouting

open Text

inductive Sign where
  | plus
  | minus
  | star
  | slash
  | percent
  | leftParen
  | rightParen
  | comma
  deriving DecidableEq

def Sign.title : Sign → String
  | .plus => "Plus"
  | .minus => "Minus"
  | .star => "Star"
  | .slash => "Slash"
  | .percent => "Percent"
  | .leftParen => "LeftParen"
  | .rightParen => "RightParen"
  | .comma => "Comma"

def Sign.ofChar? : Char → Option Sign
  | '+' => some .plus
  | '-' => some .minus
  | '*' => some .star
  | '/' => some .slash
  | '%' => some .percent
  | '(' => some .leftParen
  | ')' => some .rightParen
  | ',' => some .comma
  | _ => none

inductive Token where
  | number (value : Float)
  | name (text : String)
  | sign (sign : Sign)
  deriving DecidableEq

structure PlacedToken where
  token : Token
  position : Nat
  deriving DecidableEq

inductive ExpressionFault where
  | unexpectedCharacter (char : Char)
  | invalidNumber (text : String)
  | tooDeep
  | unexpectedEnd
  | unexpectedSign (sign : Sign)
  | unknownFunction (name : String)
  | wrongArgumentCount (name : String)
  | missingClose
  | missingSeparator
  | trailingInput
  deriving DecidableEq

/-- What is wrong with the text of an expression, and the byte at which it shows. -/
structure ExpressionError where
  fault : ExpressionFault
  position : Nat
  deriving DecidableEq

def nestingLimit : Nat := 256

def ExpressionFault.message : ExpressionFault → String
  | unexpectedCharacter char => "unexpected character '" ++ String.singleton char ++ "'"
  | invalidNumber text => "invalid number '" ++ text ++ "'"
  | tooDeep => "expression nested deeper than " ++ toString nestingLimit ++ " levels"
  | unexpectedEnd => "unexpected end of expression"
  | unexpectedSign sign => "unexpected token " ++ sign.title
  | unknownFunction name => "unknown function '" ++ name ++ "'"
  | wrongArgumentCount name => "wrong number of arguments to '" ++ name ++ "'"
  | missingClose => "expected ')'"
  | missingSeparator => "expected ',' or ')'"
  | trailingInput => "unexpected trailing input"

def ExpressionError.message (error : ExpressionError) : String :=
  error.fault.message ++ " at position " ++ toString error.position

namespace Token

def inNumber (char : Char) : Bool := isDigit char || char == '.'

def startsName (char : Char) : Bool := isLetter char || char == '_'

def inName (char : Char) : Bool := isAlphanumeric char || char == '_' || char == '.'

def byteCount (chars : List Char) : Nat := chars.foldl (fun total char => total + char.utf8Size) 0

def scan (position : Nat) : List Char → Except ExpressionError (List PlacedToken)
  | [] => .ok []
  | char :: rest =>
    match Sign.ofChar? char with
    | some mark =>
      match scan (position + char.utf8Size) rest with
      | .ok tokens => .ok (⟨.sign mark, position⟩ :: tokens)
      | .error error => .error error
    | none =>
      if isBlank char then scan (position + char.utf8Size) rest
      else if inNumber char then
        let text := char :: rest.takeWhile inNumber
        match Decimal.read text with
        | none => .error ⟨.invalidNumber (String.ofList text), position⟩
        | some value =>
          match scan (position + byteCount text) (rest.dropWhile inNumber) with
          | .ok tokens => .ok (⟨.number value, position⟩ :: tokens)
          | .error error => .error error
      else if startsName char then
        let text := char :: rest.takeWhile inName
        match scan (position + byteCount text) (rest.dropWhile inName) with
        | .ok tokens => .ok (⟨.name (String.ofList text), position⟩ :: tokens)
        | .error error => .error error
      else .error ⟨.unexpectedCharacter char, position⟩
termination_by chars => chars.length
decreasing_by
  all_goals simp only [List.length_cons]
  · omega
  · omega
  · have shorter := (rest.dropWhile_suffix inNumber).length_le
    omega
  · have shorter := (rest.dropWhile_suffix inName).length_le
    omega

end Token

end Scouting

import Scouting.Expression.Basic
import Scouting.Expression.Token

/-!
Parsing expressions. Lowest precedence first, the grammar is

    expression := term (('+' | '-') term)*
    term       := unary (('*' | '/' | '%') unary)*
    unary      := ('-' | '+') unary | primary
    primary    := number | name | name '(' arguments ')' | '(' expression ')'

where at most 256 unaries may be open at a time. Functions and `pi` may be written after `Math.`.
-/

namespace Scouting

namespace Expression

abbrev Parsed (α : Type) := Except ExpressionError (α × List PlacedToken)

def positionOf (stop : Nat) : List PlacedToken → Nat
  | [] => stop
  | placed :: _ => placed.position

def additive? : Token → Option Operation
  | .sign .plus => some .add
  | .sign .minus => some .subtract
  | _ => none

def multiplicative? : Token → Option Operation
  | .sign .star => some .multiply
  | .sign .slash => some .divide
  | .sign .percent => some .remainder
  | _ => none

/-- Operands joined to the left by operations. Each step takes an operation off the tokens, so their
number bounds the steps. -/
def chainTail (operation? : Token → Option Operation)
    (operand : List PlacedToken → Parsed Expression) :
    Nat → Expression → List PlacedToken → Parsed Expression
  | 0, left, tokens => .ok (left, tokens)
  | _ + 1, left, [] => .ok (left, [])
  | steps + 1, left, placed :: rest =>
    match operation? placed.token with
    | none => .ok (left, placed :: rest)
    | some operation =>
      match operand rest with
      | .error error => .error error
      | .ok (right, rest) =>
        chainTail operation? operand steps (.binary operation left right) rest

def chain (operation? : Token → Option Operation)
    (operand : List PlacedToken → Parsed Expression) (tokens : List PlacedToken) :
    Parsed Expression :=
  match operand tokens with
  | .error error => .error error
  | .ok (left, rest) => chainTail operation? operand rest.length left rest

def additive (unary : List PlacedToken → Parsed Expression) :
    List PlacedToken → Parsed Expression :=
  chain additive? (chain multiplicative? unary)

def argumentsTail (stop : Nat) (argument : List PlacedToken → Parsed Expression) :
    Nat → List Expression → List PlacedToken → Parsed (List Expression)
  | 0, _, tokens => .error ⟨.missingSeparator, positionOf stop tokens⟩
  | steps + 1, done, tokens =>
    match argument tokens with
    | .error error => .error error
    | .ok (value, ⟨.sign .comma, _⟩ :: rest) =>
      argumentsTail stop argument steps (value :: done) rest
    | .ok (value, ⟨.sign .rightParen, _⟩ :: rest) => .ok ((value :: done).reverse, rest)
    | .ok (_, rest) => .error ⟨.missingSeparator, positionOf stop rest.tail⟩

def arguments (stop : Nat) (argument : List PlacedToken → Parsed Expression) :
    List PlacedToken → Parsed (List Expression)
  | ⟨.sign .rightParen, _⟩ :: rest => .ok ([], rest)
  | tokens => argumentsTail stop argument (tokens.length + 1) [] tokens

def bareName (name : String) : String :=
  match name.toList with
  | 'M' :: 'a' :: 't' :: 'h' :: '.' :: rest => String.ofList rest
  | _ => name

def pi : Float := 3.141592653589793

def parseCall (stop : Nat) (argument : List PlacedToken → Parsed Expression) (name : String)
    (position : Nat) (tokens : List PlacedToken) : Parsed Expression :=
  match MathFunction.ofName? name with
  | none => .error ⟨.unknownFunction name, position⟩
  | some function =>
    match arguments stop argument tokens with
    | .error error => .error error
    | .ok (values, rest) =>
      if function.takes values.length then .ok (.call function values, rest)
      else .error ⟨.wrongArgumentCount name, position⟩

def primary (stop : Nat) (unary : List PlacedToken → Parsed Expression) :
    List PlacedToken → Parsed Expression
  | [] => .error ⟨.unexpectedEnd, stop⟩
  | ⟨.number value, _⟩ :: rest => .ok (.number value, rest)
  | ⟨.name name, position⟩ :: rest =>
    match rest with
    | ⟨.sign .leftParen, _⟩ :: rest =>
      parseCall stop (additive unary) (bareName name) position rest
    | rest =>
      if Text.sameLetters (bareName name) "pi" then .ok (.number pi, rest)
      else .ok (.key name, rest)
  | ⟨.sign .leftParen, _⟩ :: rest =>
    match additive unary rest with
    | .error error => .error error
    | .ok (inner, ⟨.sign .rightParen, _⟩ :: rest) => .ok (inner, rest)
    | .ok (_, rest) => .error ⟨.missingClose, positionOf stop rest⟩
  | ⟨.sign sign, position⟩ :: _ => .error ⟨.unexpectedSign sign, position⟩

def unary (stop : Nat) : Nat → List PlacedToken → Parsed Expression
  | 0, tokens => .error ⟨.tooDeep, positionOf stop tokens⟩
  | depth + 1, ⟨.sign .minus, _⟩ :: rest =>
    match unary stop depth rest with
    | .error error => .error error
    | .ok (inner, rest) => .ok (.negate inner, rest)
  | depth + 1, ⟨.sign .plus, _⟩ :: rest => unary stop depth rest
  | depth + 1, tokens => primary stop (unary stop depth) tokens

def ofTokens (stop : Nat) (tokens : List PlacedToken) : Except ExpressionError Expression :=
  match additive (unary stop nestingLimit) tokens with
  | .error error => .error error
  | .ok (expression, []) => .ok expression
  | .ok (_, placed :: _) => .error ⟨.trailingInput, placed.position⟩

def parse (source : String) : Except ExpressionError Expression :=
  match Token.scan 0 source.toList with
  | .error error => .error error
  | .ok tokens => ofTokens (Token.byteCount source.toList) tokens

end Expression

end Scouting

import Scouting.Key
import Scouting.Number
import Scouting.Text.Case

/-!
Expressions: the arithmetic of a math stat over numbers and keys. Evaluation is strict from left to
right; it fails at the first operand without a value, at a division by zero, and as soon as any part
is not finite, so a value that comes out is finite and so is every part of it.
-/

namespace Scouting

inductive Operation where
  | add
  | subtract
  | multiply
  | divide
  | remainder
  deriving DecidableEq

def Operation.sign : Operation → String
  | .add => "+"
  | .subtract => "-"
  | .multiply => "*"
  | .divide => "/"
  | .remainder => "%"

inductive MathFunction where
  | min
  | max
  | pow
  | sqrt
  | abs
  | round
  | floor
  | ceil
  deriving DecidableEq

namespace MathFunction

def all : List MathFunction := [min, max, pow, sqrt, abs, round, floor, ceil]

def name : MathFunction → String
  | min => "min"
  | max => "max"
  | pow => "pow"
  | sqrt => "sqrt"
  | abs => "abs"
  | round => "round"
  | floor => "floor"
  | ceil => "ceil"

/-- The function with a name, whatever the case of its letters. -/
def ofName? (name : String) : Option MathFunction :=
  all.find? fun function => function.name == Text.asciiLower name

def takes : MathFunction → Nat → Bool
  | min, count | max, count => 1 ≤ count
  | pow, count => count == 2
  | _, count => count == 1

/-- The value of a function; with arguments that it does not take it has none. -/
def apply : MathFunction → List Float → Float
  | min, values => values.foldl Number.smaller Number.infinity
  | max, values => values.foldl Number.larger (-Number.infinity)
  | pow, [base, exponent] => base.pow exponent
  | sqrt, [value] => value.sqrt
  | abs, [value] => value.abs
  | round, [value] => Number.round value
  | floor, [value] => Number.floor value
  | ceil, [value] => Number.ceil value
  | _, _ => 0.0 / 0.0

end MathFunction

inductive Expression where
  | number (value : Float)
  | key (name : String)
  | negate (inner : Expression)
  | binary (operation : Operation) (left right : Expression)
  | call (function : MathFunction) (arguments : List Expression)

namespace Expression

instance : Inhabited Expression := ⟨number 0.0⟩

mutual

def names : Expression → List String
  | number _ => []
  | key name => [name]
  | negate inner => inner.names
  | binary _ left right => left.names ++ right.names
  | call _ arguments => namesOfAll arguments

def namesOfAll : List Expression → List String
  | [] => []
  | first :: rest => first.names ++ namesOfAll rest

end

def references (expression : Expression) : List String := expression.names.eraseDups

section
variable {σ : Type}

def finite (value : Float) : Run σ Float :=
  if value.isFinite then pure value else throw (.missingOperand "non-finite result")

/-- Combines two operands; nothing is divided by zero. -/
def combine (operation : Operation) (left right : Float) : Run σ Float :=
  match operation with
  | .add => pure (left + right)
  | .subtract => pure (left - right)
  | .multiply => pure (left * right)
  | .divide =>
    if right == 0.0 then throw (.missingOperand "division by zero") else pure (left / right)
  | .remainder =>
    if right == 0.0 then throw (.missingOperand "division by zero")
    else pure (Number.remainder left right)

mutual

def eval (lookup : String → Run σ Float) : Expression → Run σ Float
  | number value => finite value
  | key name => do finite (← lookup name)
  | negate inner => do finite (-(← eval lookup inner))
  | binary operation left right => do
    let leftValue ← eval lookup left
    let rightValue ← eval lookup right
    finite (← combine operation leftValue rightValue)
  | call function arguments => do finite (function.apply (← evalAll lookup arguments))

def evalAll (lookup : String → Run σ Float) : List Expression → Run σ (List Float)
  | [] => pure []
  | first :: rest => do
    let value ← eval lookup first
    return value :: (← evalAll lookup rest)

end

end

end Expression

end Scouting

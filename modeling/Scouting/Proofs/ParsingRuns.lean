import Scouting.Proofs.ParsingMachine
import Scouting.Proofs.TokenPositions

/-!
What the machine comes to. Each task stands for what the parser does with the tokens that are left,
and the frames for what it does with the outcome; no step changes what a state stands for. So a run
from the start ends with what the parser gives, after steps that are bounded by the tokens.
-/

namespace Scouting

namespace Expression

section
variable {operation? : Token → Option Operation} {parser : List PlacedToken → Parsed Expression}
  {rule : Rule}

theorem length_of_reads (reads : Reads parser rule) {tokens rest : List PlacedToken}
    {value : Expression} (read : parser tokens = .ok (value, rest)) :
    rest.length ≤ tokens.length := by
  obtain ⟨used, rfl, _⟩ := reads read
  rw [List.length_append]
  exact Nat.le_add_left _ _

theorem chainTail_enough (reads : Reads parser rule) {steps others : Nat} {left : Expression}
    {tokens : List PlacedToken} (enough : tokens.length ≤ steps) (also : tokens.length ≤ others) :
    chainTail operation? parser steps left tokens =
      chainTail operation? parser others left tokens := by
  induction steps generalizing others left tokens with
  | zero =>
      obtain rfl := List.length_eq_zero_iff.mp (Nat.le_zero.mp enough)
      cases others <;> rfl
  | succ steps ih =>
      cases tokens with
      | nil => cases others <;> rfl
      | cons placed rest =>
          cases others with
          | zero => cases also
          | succ others =>
              rw [List.length_cons] at enough also
              simp only [chainTail]
              cases operation? placed.token with
              | none => rfl
              | some operation =>
                  cases read : parser rest with
                  | error error => rfl
                  | ok parsed =>
                      have shorter := length_of_reads reads read
                      exact ih (by omega) (by omega)

theorem argumentsTail_enough {stop : Nat} (reads : Reads parser rule) {steps others : Nat}
    {done : List Expression} {tokens : List PlacedToken} (enough : tokens.length < steps)
    (also : tokens.length < others) :
    argumentsTail stop parser steps done tokens = argumentsTail stop parser others done tokens := by
  induction steps generalizing others done tokens with
  | zero => cases enough
  | succ steps ih =>
      cases others with
      | zero => cases also
      | succ others =>
          simp only [argumentsTail]
          cases read : parser tokens with
          | error error => rfl
          | ok parsed =>
              have shorter := length_of_reads reads read
              obtain ⟨value, rest⟩ := parsed
              split
              · rfl
              · rename_i found
                cases found
                rw [List.length_cons] at shorter
                exact ih (by omega) (by omega)
              · rfl
              · rfl

end

namespace Parsing

def unaryAt (stop depth : Nat) : List PlacedToken → Parsed Expression :=
  Expression.unary stop (nestingLimit - depth)

def Level.parse (stop depth : Nat) : Level → List PlacedToken → Parsed Expression
  | sum => chain multiplicative? (unaryAt stop depth)
  | product => unaryAt stop depth

def callOf (function : MathFunction) (name : String) (start : Nat) :
    Parsed (List Expression) → Parsed Expression
  | .error error => .error error
  | .ok (values, rest) =>
    if function.takes values.length then .ok (.call function values, rest)
    else .error ⟨.wrongArgumentCount name, start⟩

/-- What the parser makes of the tokens that are left, for each task. -/
def Task.parse (stop depth : Nat) (tokens : List PlacedToken) : Task → Parsed Expression
  | operands level => chain level.operation? (level.parse stop depth) tokens
  | more level left =>
    chainTail level.operation? (level.parse stop depth) tokens.length left tokens
  | unary => unaryAt stop depth tokens
  | signed => Expression.unary stop (nestingLimit - depth + 1) tokens
  | primary => Expression.primary stop (unaryAt stop depth) tokens
  | named name start =>
    Expression.primary stop (unaryAt stop depth) (⟨.name name, start⟩ :: tokens)
  | arguments function name start =>
    callOf function name start
      (Expression.arguments stop (additive (unaryAt stop depth)) tokens)
  | give value => .ok (value, tokens)
  | refuse fault => .error ⟨fault, positionOf stop tokens⟩
  | raise error => .error error

/-- What the parser makes of an operand and the tokens behind it, for each frame. -/
def Frame.parse (stop depth : Nat) (value : Expression) (tokens : List PlacedToken) :
    Frame → Parsed Expression
  | first level =>
    chainTail level.operation? (level.parse stop depth) tokens.length value tokens
  | right level left operation =>
    chainTail level.operation? (level.parse stop depth) tokens.length
      (.binary operation left value) tokens
  | close => .ok (value, tokens)
  | negate => .ok (.negate value, tokens)
  | group =>
    match tokens with
    | ⟨.sign .rightParen, _⟩ :: rest => .ok (value, rest)
    | tokens => .error ⟨.missingClose, positionOf stop tokens⟩
  | argument function name start done =>
    match tokens with
    | ⟨.sign .comma, _⟩ :: rest =>
      callOf function name start
        (argumentsTail stop (additive (unaryAt stop depth)) (rest.length + 1) (value :: done) rest)
    | ⟨.sign .rightParen, _⟩ :: rest =>
      callOf function name start (.ok ((value :: done).reverse, rest))
    | tokens => .error ⟨.missingSeparator, positionOf stop tokens.tail⟩

/-- What comes of an outcome when every frame that is waiting for it is done. -/
def finish (stop : Nat) : Nat → List Frame → Parsed Expression → Except ExpressionError Expression
  | _, _, .error error => .error error
  | _, [], .ok (value, []) => .ok value
  | _, [], .ok (_, placed :: _) => .error ⟨.trailingInput, placed.position⟩
  | depth, frame :: stack, .ok (value, rest) =>
    finish stop (depth - frame.opens) stack (frame.parse stop depth value rest)

def State.result (stop : Nat) (tokens : List PlacedToken) (state : State) :
    Except ExpressionError Expression :=
  finish stop state.depth state.stack
    (state.task.parse stop state.depth (tokens.drop state.current))

def Outcome.ComesTo (stop : Nat) (tokens : List PlacedToken)
    (result : Except ExpressionError Expression) : Outcome → Prop
  | next state => state.result stop tokens = result
  | finished final => final = result
  | outside => False

section
variable {stop depth : Nat} {tokens : List PlacedToken} {state : State}

theorem finish_error {stack : List Frame} {error : ExpressionError} :
    finish stop depth stack (.error error) = .error error := by
  cases stack <;> rfl

theorem finish_cons {frame : Frame} {stack : List Frame} {parsed : Parsed Expression} :
    finish stop depth (frame :: stack) parsed =
      finish stop (depth - frame.opens) stack (match parsed with
        | .error error => .error error
        | .ok (value, rest) => frame.parse stop depth value rest) := by
  cases parsed with
  | error error => rw [finish_error, finish_error]
  | ok parsed => rw [finish]

theorem parse_operand (level : Level) :
    level.operand.parse stop depth tokens = level.parse stop depth tokens := by
  cases level <;> rfl

theorem exists_reads (level : Level) : ∃ rule, Reads (level.parse stop depth) rule := by
  cases level with
  | sum => exact ⟨_, reads_chain (reads_unary _ _)⟩
  | product => exact ⟨_, reads_unary _ _⟩

/-- What the machine sees: the first of the tokens that are left, behind which it may go on. -/
inductive Sees (stop : Nat) (tokens : List PlacedToken) (current : Nat) : Lexeme → Prop where
  | finished : tokens.drop current = [] → Sees stop tokens current ⟨none, stop⟩
  | token {placed : PlacedToken} : tokens.drop current = placed :: tokens.drop (current + 1) →
      current + 1 < (closed stop tokens).length →
        Sees stop tokens current ⟨some placed.token, placed.position⟩

theorem Sees.position {current : Nat} {lexeme : Lexeme} (sees : Sees stop tokens current lexeme) :
    positionOf stop (tokens.drop current) = lexeme.position := by
  cases sees with
  | finished none => rw [none]; rfl
  | token left further => rw [left]; rfl

theorem callOf_argumentsTail {function : MathFunction} {name : String} {start steps : Nat}
    {done : List Expression} (enough : tokens.length < steps) :
    callOf function name start
        (argumentsTail stop (additive (unaryAt stop depth)) steps done tokens) =
      match additive (unaryAt stop depth) tokens with
      | .error error => .error error
      | .ok (value, rest) =>
        (Frame.argument function name start done).parse stop depth value rest := by
  have reads : Reads (additive (unaryAt stop depth)) _ := reads_additive (reads_unary _ _)
  cases steps with
  | zero => cases enough
  | succ steps =>
      rw [argumentsTail]
      cases read : additive (unaryAt stop depth) tokens with
      | error error => rfl
      | ok parsed =>
          have shorter := length_of_reads reads read
          obtain ⟨value, rest⟩ := parsed
          rcases rest with _ | ⟨⟨token, position⟩, rest⟩
          · rfl
          · cases token with
            | number value => rfl
            | name name => rfl
            | sign mark =>
                cases mark
                case comma =>
                  rw [List.length_cons] at shorter
                  exact congrArg (callOf function name start)
                    (argumentsTail_enough reads (by omega) (Nat.lt_succ_self _))
                all_goals rfl

theorem primary_group {position : Nat} : Expression.primary stop (unaryAt stop depth)
    (⟨.sign .leftParen, position⟩ :: tokens) =
      match additive (unaryAt stop depth) tokens with
      | .error error => .error error
      | .ok (value, rest) => Frame.group.parse stop depth value rest := by
  rw [Expression.primary]
  cases additive (unaryAt stop depth) tokens with
  | error error => rfl
  | ok parsed =>
      obtain ⟨value, rest⟩ := parsed
      rcases rest with _ | ⟨⟨token, position⟩, rest⟩
      · rfl
      · cases token with
        | number value => rfl
        | name name => rfl
        | sign mark => cases mark <;> rfl

theorem comesTo_apply {function : MathFunction} {name : String} {start : Nat}
    {values : List Expression} : (state.apply function name start values).ComesTo stop tokens
      (finish stop state.depth state.stack
        (callOf function name start (.ok (values, tokens.drop state.current)))) := by
  simp only [State.apply, callOf]
  split
  · rfl
  · rfl

section
variable {lexeme : Lexeme} (sees : Sees stop tokens state.current lexeme)
include sees

theorem comesTo_group {value : Expression} :
    (Frame.group.resume (closed stop tokens) lexeme state value).ComesTo stop tokens
      (finish stop state.depth state.stack
        (Frame.group.parse stop state.depth value (tokens.drop state.current))) := by
  obtain ⟨current, depth, stack, task⟩ := state
  cases sees with
  | finished none =>
      rw [none]
      rfl
  | @token placed left further =>
      simp only [Frame.resume, State.advance, if_pos further]
      rw [left]
      obtain ⟨token, position⟩ := placed
      cases token with
      | number value => rfl
      | name name => rfl
      | sign mark => cases mark <;> rfl

theorem comesTo_argument {function : MathFunction} {name : String} {start : Nat}
    {done : List Expression} {value : Expression} :
    ((Frame.argument function name start done).resume (closed stop tokens) lexeme state
      value).ComesTo stop tokens (finish stop state.depth state.stack
        ((Frame.argument function name start done).parse stop state.depth value
          (tokens.drop state.current))) := by
  obtain ⟨current, depth, stack, task⟩ := state
  cases sees with
  | finished none =>
      have past : tokens.drop (current + 1) = [] := by
        rw [List.drop_eq_nil_iff] at none ⊢
        exact Nat.le_succ_of_le none
      simp only [Frame.resume, State.advance]
      rw [none]
      split
      · change finish stop depth stack
          (.error ⟨.missingSeparator, positionOf stop (tokens.drop (current + 1))⟩) = _
        rw [past]
        rfl
      · change finish stop depth stack
          (.error ⟨.missingSeparator, positionOf stop (tokens.drop current)⟩) = _
        rw [none]
        rfl
  | @token placed left further =>
      simp only [Frame.resume, State.advance, if_pos further]
      rw [left]
      obtain ⟨token, position⟩ := placed
      cases token with
      | number value => rfl
      | name name => rfl
      | sign mark =>
          cases mark
          case comma =>
            change finish stop depth (.argument function name start (value :: done) :: stack)
              (additive (unaryAt stop depth) (tokens.drop (current + 1))) = _
            rw [finish_cons, ← callOf_argumentsTail (Nat.lt_succ_self _)]
            rfl
          case rightParen => exact comesTo_apply
          all_goals rfl

theorem comesTo_resume {frame : Frame} {value : Expression} :
    (frame.resume (closed stop tokens) lexeme state value).ComesTo stop tokens
      (finish stop (state.depth - frame.opens) state.stack
        (frame.parse stop state.depth value (tokens.drop state.current))) := by
  cases frame with
  | first level => rfl
  | right level left operation => rfl
  | close => rfl
  | negate => rfl
  | group => exact comesTo_group sees
  | argument function name start done => exact comesTo_argument sees

theorem comesTo_more {level : Level} {value : Expression} :
    (state.more (closed stop tokens) lexeme level value).ComesTo stop tokens
      (finish stop state.depth state.stack
        ((Task.more level value).parse stop state.depth (tokens.drop state.current))) := by
  obtain ⟨current, depth, stack, task⟩ := state
  cases sees with
  | finished none =>
      change finish stop depth stack (.ok (value, tokens.drop current)) =
        finish stop depth stack (Task.parse stop depth (tokens.drop current) _)
      rw [none]
      rfl
  | @token placed left further =>
      simp only [State.more, Option.bind_some, State.advance, if_pos further]
      rw [left]
      cases found : level.operation? placed.token with
      | none =>
          change finish stop depth stack (.ok (value, tokens.drop current)) = _
          rw [left, Task.parse, List.length_cons, chainTail, found]
      | some operation =>
          obtain ⟨rule, reads⟩ := @exists_reads stop depth level
          change finish stop depth (.right level value operation :: stack)
            (level.operand.parse stop depth (tokens.drop (current + 1))) = _
          rw [finish_cons, parse_operand, Task.parse, List.length_cons, chainTail, found]
          cases read : level.parse stop depth (tokens.drop (current + 1)) with
          | error error => rfl
          | ok parsed =>
              have shorter := length_of_reads reads read
              exact congrArg _ (chainTail_enough reads (Nat.le_refl _) shorter)

theorem comesTo_unary : (state.unary lexeme).ComesTo stop tokens
    (finish stop state.depth state.stack
      (Task.unary.parse stop state.depth (tokens.drop state.current))) := by
  have position := sees.position
  obtain ⟨current, depth, stack, task⟩ := state
  rw [State.unary]
  split
  · rename_i deep
    change finish stop depth stack (.error ⟨.tooDeep, lexeme.position⟩) =
      finish stop depth stack
        (Expression.unary stop (nestingLimit - depth) (tokens.drop current))
    rw [Nat.sub_eq_zero_of_le deep, ← position]
    rfl
  · rename_i room
    have left : nestingLimit - (depth + 1) + 1 = nestingLimit - depth := by
      have room : ¬ nestingLimit ≤ depth := room
      omega
    change finish stop (depth + 1) (.close :: stack)
      (Expression.unary stop (nestingLimit - (depth + 1) + 1) (tokens.drop current)) =
        finish stop depth stack
          (Expression.unary stop (nestingLimit - depth) (tokens.drop current))
    rw [finish_cons, left]
    cases Expression.unary stop (nestingLimit - depth) (tokens.drop current) with
    | error error => rfl
    | ok parsed => rfl

theorem comesTo_signed : (state.signed (closed stop tokens) lexeme).ComesTo stop tokens
    (finish stop state.depth state.stack
      (Task.signed.parse stop state.depth (tokens.drop state.current))) := by
  obtain ⟨current, depth, stack, task⟩ := state
  change Outcome.ComesTo stop tokens (finish stop depth stack
    (Expression.unary stop (nestingLimit - depth + 1) (tokens.drop current))) _
  have plain (signless : Expression.unary stop (nestingLimit - depth + 1) (tokens.drop current) =
        Expression.primary stop (unaryAt stop depth) (tokens.drop current)) :
      finish stop depth stack
          (Expression.primary stop (unaryAt stop depth) (tokens.drop current)) =
        finish stop depth stack
          (Expression.unary stop (nestingLimit - depth + 1) (tokens.drop current)) := by
    rw [signless]
  cases sees with
  | finished none => exact plain (by rw [none]; rfl)
  | @token placed left further =>
      simp only [State.signed, State.advance, if_pos further]
      obtain ⟨token, position⟩ := placed
      cases token with
      | number value => exact plain (by rw [left]; rfl)
      | name name => exact plain (by rw [left]; rfl)
      | sign mark =>
          cases mark
          case minus =>
            change finish stop depth (.negate :: stack)
              (unaryAt stop depth (tokens.drop (current + 1))) = _
            rw [finish_cons, left, unary_succ]
            rfl
          case plus =>
            change finish stop depth stack (unaryAt stop depth (tokens.drop (current + 1))) = _
            rw [left]
            rfl
          all_goals exact plain (by rw [left]; rfl)

theorem comesTo_primary : (state.primary (closed stop tokens) lexeme).ComesTo stop tokens
    (finish stop state.depth state.stack
      (Task.primary.parse stop state.depth (tokens.drop state.current))) := by
  obtain ⟨current, depth, stack, task⟩ := state
  change Outcome.ComesTo stop tokens (finish stop depth stack
    (Expression.primary stop (unaryAt stop depth) (tokens.drop current))) _
  cases sees with
  | finished none =>
      rw [none]
      rfl
  | @token placed left further =>
      simp only [State.primary, State.advance, if_pos further]
      rw [left]
      obtain ⟨token, position⟩ := placed
      cases token with
      | number value => rfl
      | name name => rfl
      | sign mark =>
          cases mark
          case leftParen =>
            change finish stop depth (.group :: stack)
              (additive (unaryAt stop depth) (tokens.drop (current + 1))) = _
            rw [finish_cons, primary_group]
            rfl
          all_goals rfl

theorem comesTo_named {name : String} {start : Nat} :
    (state.named (closed stop tokens) lexeme name start).ComesTo stop tokens
      (finish stop state.depth state.stack
        ((Task.named name start).parse stop state.depth (tokens.drop state.current))) := by
  obtain ⟨current, depth, stack, task⟩ := state
  change Outcome.ComesTo stop tokens (finish stop depth stack
    (Expression.primary stop (unaryAt stop depth)
      (⟨.name name, start⟩ :: tokens.drop current))) _
  have plain (stops : ∀ next ∈ (tokens.drop current).head?, endsUnary next.token) :
      Outcome.ComesTo stop tokens (finish stop depth stack
          (Expression.primary stop (unaryAt stop depth)
            (⟨.name name, start⟩ :: tokens.drop current)))
        (if Text.sameLetters (bareName name) "pi" then
          .next ⟨current, depth, stack, .give (.number pi)⟩
        else .next ⟨current, depth, stack, .give (.key name)⟩) := by
    rw [primary_name stops]
    split
    · rfl
    · rfl
  cases sees with
  | finished none =>
      refine plain ?_
      rw [none]
      simp
  | @token placed left further =>
      simp only [State.named, State.advance, if_pos further]
      obtain ⟨token, position⟩ := placed
      have stops (apart : token ≠ .sign .leftParen) :
          ∀ next ∈ (tokens.drop current).head?, endsUnary next.token := by
        intro next first
        rw [left] at first
        cases first
        exact apart
      cases token with
      | number value => exact plain (stops (by simp))
      | name name => exact plain (stops (by simp))
      | sign mark =>
          cases mark
          case leftParen =>
            rw [left, Expression.primary, parseCall]
            cases MathFunction.ofName? (bareName name) with
            | none => rfl
            | some function => rfl
          all_goals exact plain (stops (by simp))

theorem comesTo_arguments {function : MathFunction} {name : String} {start : Nat} :
    (state.arguments (closed stop tokens) lexeme function name start).ComesTo stop tokens
      (finish stop state.depth state.stack
        ((Task.arguments function name start).parse stop state.depth
          (tokens.drop state.current))) := by
  obtain ⟨current, depth, stack, task⟩ := state
  change Outcome.ComesTo stop tokens (finish stop depth stack (callOf function name start
    (Expression.arguments stop (additive (unaryAt stop depth)) (tokens.drop current)))) _
  have plain (opens : Expression.arguments stop (additive (unaryAt stop depth))
        (tokens.drop current) =
      argumentsTail stop (additive (unaryAt stop depth)) ((tokens.drop current).length + 1) []
        (tokens.drop current)) :
      finish stop depth (.argument function name start [] :: stack)
          (additive (unaryAt stop depth) (tokens.drop current)) =
        finish stop depth stack (callOf function name start
          (Expression.arguments stop (additive (unaryAt stop depth))
            (tokens.drop current))) := by
    rw [opens, callOf_argumentsTail (Nat.lt_succ_self _), finish_cons]
    rfl
  cases sees with
  | finished none => exact plain (by rw [none]; rfl)
  | @token placed left further =>
      simp only [State.arguments, State.advance, if_pos further]
      obtain ⟨token, position⟩ := placed
      cases token with
      | number value => exact plain (by rw [left]; rfl)
      | name name => exact plain (by rw [left]; rfl)
      | sign mark =>
          cases mark
          case rightParen =>
            rw [left]
            exact comesTo_apply
          all_goals exact plain (by rw [left]; rfl)

theorem comesTo_perform :
    (perform (closed stop tokens) lexeme state).ComesTo stop tokens (state.result stop tokens) := by
  obtain ⟨current, depth, stack, task⟩ := state
  cases task with
  | operands level =>
      change finish stop depth (.first level :: stack) (level.operand.parse stop depth _) = _
      rw [finish_cons, parse_operand]
      rfl
  | more level value => exact comesTo_more sees
  | unary => exact comesTo_unary sees
  | signed => exact comesTo_signed sees
  | primary => exact comesTo_primary sees
  | named name start => exact comesTo_named sees
  | arguments function name start => exact comesTo_arguments sees
  | give value =>
      change Outcome.ComesTo stop tokens
        (finish stop depth stack (.ok (value, tokens.drop current))) _
      cases stack with
      | nil =>
          cases sees with
          | finished none =>
              rw [none]
              rfl
          | @token placed left further =>
              rw [left]
              rfl
      | cons frame stack =>
          rw [finish_cons]
          exact @comesTo_resume stop tokens ⟨current, depth, stack, .give value⟩ lexeme sees _ _
  | refuse fault =>
      change finish stop depth stack (.error ⟨fault, lexeme.position⟩) =
        finish stop depth stack (.error ⟨fault, positionOf stop (tokens.drop current)⟩)
      rw [sees.position]
  | raise error =>
      change Outcome.ComesTo stop tokens (finish stop depth stack (.error error)) _
      rw [finish_error]
      cases stack with
      | nil => rfl
      | cons frame stack =>
          cases frame <;> exact finish_error

end

theorem comesTo_step (inside : state.current < (closed stop tokens).length) :
    (step (closed stop tokens) state).ComesTo stop tokens (state.result stop tokens) := by
  rw [step]
  rcases closed_getElem? inside with ⟨none, here⟩ | ⟨placed, left, further, here⟩
  · rw [here]
    exact comesTo_perform (.finished none)
  · rw [here]
    exact comesTo_perform (.token left further)

theorem result_run {later : State} (sound : Sound (closed stop tokens) state) {steps : Nat}
    (ran : run (closed stop tokens) steps state = .next later) :
    later.result stop tokens = state.result stop tokens := by
  induction steps generalizing state with
  | zero =>
      cases ran
      rfl
  | succ steps ih =>
      have safe := (lawful_step sound).safe
      have comesTo := @comesTo_step stop tokens state sound.inside
      rw [run] at ran
      cases stepped : step (closed stop tokens) state with
      | next after =>
          rw [stepped] at safe comesTo ran
          exact (ih safe ran).trans comesTo
      | finished result =>
          rw [stepped] at ran
          cases ran
      | outside =>
          rw [stepped] at ran
          cases ran

theorem run_finishes (sound : Sound (closed stop tokens) state) {steps : Nat}
    (enough : potential (closed stop tokens) state < steps) :
    run (closed stop tokens) steps state = .finished (state.result stop tokens) := by
  induction steps generalizing state with
  | zero => cases enough
  | succ steps ih =>
      have lawful := lawful_step sound
      have comesTo := @comesTo_step stop tokens state sound.inside
      rw [run]
      cases stepped : step (closed stop tokens) state with
      | next later =>
          rw [stepped] at comesTo lawful
          have less := (lawful.works later rfl).2
          exact (ih lawful.safe (by omega)).trans (congrArg Outcome.finished comesTo)
      | finished result =>
          rw [stepped] at comesTo
          exact congrArg Outcome.finished comesTo
      | outside =>
          rw [stepped] at comesTo
          exact comesTo.elim

theorem potential_start :
    potential (closed stop tokens) State.start = 11 * tokens.length + 10 := by
  rw [potential, length_closed]
  rfl

theorem result_start : State.start.result stop tokens = ofTokens stop tokens := by
  change finish stop 0 [] (additive (Expression.unary stop nestingLimit) tokens) = _
  rw [ofTokens]
  cases additive (Expression.unary stop nestingLimit) tokens with
  | error error => rfl
  | ok parsed =>
      obtain ⟨value, rest⟩ := parsed
      cases rest <;> rfl

theorem positions_closed : (closed stop tokens).map Lexeme.position =
    tokens.map PlacedToken.position ++ [stop] := by
  simp [closed]

end

end Parsing

open Parsing

/-- Parsing is safe and comes to an end, whatever the text. The text is taken up from front to back,
one or more characters at a time, and its tokens stand at one boundary between characters after the
other. The machine that parses them never leaves them, and stands for the same result all the time;
its counter is the number of unaries that are open, so the same when what was put on the stack is
off it again, and no more than the limit; every step takes up a token or does some of the work that
is waiting at the one before, so that there are no more steps than in proportion to the tokens. What
is wrong is at a boundary, too. -/
theorem parse_safe (source : String) :
    Token.Scans [] source.toList (Token.scan 0 source.toList) ∧
    (∀ tokens, Token.scan 0 source.toList = .ok tokens →
      let tape := closed source.utf8ByteSize tokens
      (tape.map Lexeme.position).Pairwise (· < ·) ∧
      (∀ lexeme ∈ tape, IsBoundary source lexeme.position) ∧
      (∀ steps state, run tape steps .start = .next state →
        state.current < tape.length ∧
        state.result source.utf8ByteSize tokens = parse source ∧
        state.depth = openUnaries state.stack ∧
        (∀ others later, run tape others state = .next later → later.stack = state.stack →
          later.depth = state.depth) ∧
        state.depth ≤ nestingLimit ∧
        state.stack.length ≤ 4 * state.depth + 2 ∧
        ∀ next, step tape state = .next next →
          state.current < next.current ∨
            state.current = next.current ∧ next.work < state.work) ∧
      run tape (11 * tokens.length + 11) .start = .finished (parse source)) ∧
    ∀ error, parse source = .error error →
      IsBoundary source error.position ∧ error.position ≤ source.utf8ByteSize := by
  have parsed : ∀ tokens, Token.scan 0 source.toList = .ok tokens →
      State.start.result source.utf8ByteSize tokens = parse source := by
    intro tokens scanned
    rw [result_start, parse, scanned, Token.byteCount_toList]
  have finishes : ∀ tokens, Token.scan 0 source.toList = .ok tokens →
      run (closed source.utf8ByteSize tokens) (11 * tokens.length + 11) .start =
        .finished (parse source) := by
    intro tokens scanned
    have enough :
        potential (closed source.utf8ByteSize tokens) .start < 11 * tokens.length + 11 := by
      rw [potential_start]
      exact Nat.lt_succ_self _
    rw [run_finishes sound_start enough, parsed tokens scanned]
  refine ⟨Token.scans source.toList, fun tokens scanned => ?_, fun error failed => ?_⟩
  · obtain ⟨increasing, boundaries⟩ := Token.scan_positions scanned
    refine ⟨?_, fun lexeme member => ?_, fun steps state ran => ?_, finishes tokens scanned⟩
    · rw [positions_closed]
      exact increasing
    · refine boundaries lexeme.position ?_
      rw [← positions_closed]
      exact List.mem_map_of_mem member
    · have sound := sound_run sound_start ran
      have same := (result_run sound_start ran).trans (parsed tokens scanned)
      refine ⟨sound.inside, same, sound.depth, ?_, sound.shallow, sound.height, ?_⟩
      · intro others later onward back
        rw [(sound_run sound onward).depth, sound.depth, back]
      · intro next stepped
        have lawful := lawful_step sound
        rw [stepped] at lawful
        exact lawful.progress
  · have boundary : IsBoundary source error.position := by
      cases scanned : Token.scan 0 source.toList with
      | error fault =>
          rw [parse, scanned] at failed
          cases failed
          exact Token.scan_error scanned
      | ok tokens =>
          have safe : Safe (closed source.utf8ByteSize tokens) (.finished (.error error)) := by
            rw [← failed, ← finishes tokens scanned]
            exact safe_run sound_start _
          refine (Token.scan_positions scanned).2 error.position ?_
          rw [← positions_closed]
          exact safe
    exact ⟨boundary, le_of_isBoundary boundary⟩

end Expression

end Scouting

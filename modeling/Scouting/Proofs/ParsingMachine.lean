import Mathlib
import Scouting.Proofs.Grammar

/-!
Parsing step by step. A machine walks along the tokens of a text, which one that marks the end
closes: an index says which comes next, a counter how many unaries are open, and frames on a stack
what is waiting for an operand. The index never leaves the tokens or goes back, the counter is the
number of unaries on the stack, and every step takes up a token or does some of the work that is
waiting; so the machine stops, however the text breaks off.
-/

namespace Scouting

namespace Expression

namespace Parsing

/-- A token and where it stands, or the end of the text. -/
structure Lexeme where
  token : Option Token
  position : Nat

def closed (stop : Nat) (tokens : List PlacedToken) : List Lexeme :=
  tokens.map (fun placed => ⟨some placed.token, placed.position⟩) ++ [⟨none, stop⟩]

/-- Sums of products, and products of unaries. -/
inductive Level where
  | sum
  | product

def Level.operation? : Level → Token → Option Operation
  | sum => additive?
  | product => multiplicative?

/-- What is waiting for an operand. -/
inductive Frame where
  | first (level : Level)
  | right (level : Level) (left : Expression) (operation : Operation)
  | close
  | negate
  | group
  | argument (function : MathFunction) (name : String) (start : Nat) (done : List Expression)

def Frame.opens : Frame → Nat
  | close => 1
  | _ => 0

inductive Task where
  | operands (level : Level)
  | more (level : Level) (left : Expression)
  | unary
  | signed
  | primary
  | named (name : String) (start : Nat)
  | arguments (function : MathFunction) (name : String) (start : Nat)
  | give (value : Expression)
  | refuse (fault : ExpressionFault)
  | raise (error : ExpressionError)

def Level.operand : Level → Task
  | sum => .operands .product
  | product => .unary

structure State where
  current : Nat
  depth : Nat
  stack : List Frame
  task : Task

inductive Outcome where
  | next (state : State)
  | finished (result : Except ExpressionError Expression)
  /-- The index has left the tokens. -/
  | outside

namespace State

def start : State := ⟨0, 0, [], .operands .sum⟩

def turn (state : State) (task : Task) : State := { state with task }

def call (state : State) (frame : Frame) (task : Task) : State :=
  { state with stack := frame :: state.stack, task }

def advance (tape : List Lexeme) (state : State) : State :=
  if state.current + 1 < tape.length then { state with current := state.current + 1 } else state

def fail (state : State) (fault : ExpressionFault) (position : Nat) : Outcome :=
  .next (state.turn (.raise ⟨fault, position⟩))

def apply (state : State) (function : MathFunction) (name : String) (start : Nat)
    (values : List Expression) : Outcome :=
  if function.takes values.length then .next (state.turn (.give (.call function values)))
  else state.fail (.wrongArgumentCount name) start

end State

def Frame.resume (tape : List Lexeme) (lexeme : Lexeme) (state : State) (value : Expression) :
    Frame → Outcome
  | first level => .next (state.turn (.more level value))
  | right level left operation => .next (state.turn (.more level (.binary operation left value)))
  | close => .next ({ state with depth := state.depth - 1 }.turn (.give value))
  | negate => .next (state.turn (.give (.negate value)))
  | group =>
    match lexeme.token with
    | some (.sign .rightParen) => .next ((state.advance tape).turn (.give value))
    | _ => state.fail .missingClose lexeme.position
  | argument function name start done =>
    match lexeme.token with
    | some (.sign .comma) =>
      .next ((state.advance tape).call (.argument function name start (value :: done))
        (.operands .sum))
    | some (.sign .rightParen) =>
      (state.advance tape).apply function name start (value :: done).reverse
    | _ => .next ((state.advance tape).turn (.refuse .missingSeparator))

/-- An error goes past a frame, which closes what it has opened. -/
def Frame.pass (state : State) (error : ExpressionError) (frame : Frame) : State :=
  { state with depth := state.depth - frame.opens }.turn (.raise error)

namespace State

/-- After an operand: another one behind an operation, or what has been joined. -/
def more (tape : List Lexeme) (lexeme : Lexeme) (state : State) (level : Level)
    (left : Expression) : Outcome :=
  match lexeme.token.bind level.operation? with
  | some operation =>
    .next ((state.advance tape).call (.right level left operation) level.operand)
  | none => .next (state.turn (.give left))

def unary (lexeme : Lexeme) (state : State) : Outcome :=
  if nestingLimit ≤ state.depth then state.fail .tooDeep lexeme.position
  else .next ({ state with depth := state.depth + 1 }.call .close .signed)

def signed (tape : List Lexeme) (lexeme : Lexeme) (state : State) : Outcome :=
  match lexeme.token with
  | some (.sign .minus) => .next ((state.advance tape).call .negate .unary)
  | some (.sign .plus) => .next ((state.advance tape).turn .unary)
  | _ => .next (state.turn .primary)

def primary (tape : List Lexeme) (lexeme : Lexeme) (state : State) : Outcome :=
  match lexeme.token with
  | none => state.fail .unexpectedEnd lexeme.position
  | some (.number value) => .next ((state.advance tape).turn (.give (.number value)))
  | some (.name name) => .next ((state.advance tape).turn (.named name lexeme.position))
  | some (.sign .leftParen) => .next ((state.advance tape).call .group (.operands .sum))
  | some (.sign sign) => state.fail (.unexpectedSign sign) lexeme.position

def named (tape : List Lexeme) (lexeme : Lexeme) (state : State) (name : String) (start : Nat) :
    Outcome :=
  match lexeme.token with
  | some (.sign .leftParen) =>
    match MathFunction.ofName? (bareName name) with
    | none => state.fail (.unknownFunction (bareName name)) start
    | some function =>
      .next ((state.advance tape).turn (.arguments function (bareName name) start))
  | _ =>
    if Text.sameLetters (bareName name) "pi" then .next (state.turn (.give (.number pi)))
    else .next (state.turn (.give (.key name)))

def arguments (tape : List Lexeme) (lexeme : Lexeme) (state : State) (function : MathFunction)
    (name : String) (start : Nat) : Outcome :=
  match lexeme.token with
  | some (.sign .rightParen) => (state.advance tape).apply function name start []
  | _ => .next (state.call (.argument function name start []) (.operands .sum))

end State

def perform (tape : List Lexeme) (lexeme : Lexeme) (state : State) : Outcome :=
  match state.task with
  | .operands level => .next (state.call (.first level) level.operand)
  | .more level left => state.more tape lexeme level left
  | .unary => state.unary lexeme
  | .signed => state.signed tape lexeme
  | .primary => state.primary tape lexeme
  | .named name start => state.named tape lexeme name start
  | .arguments function name start => state.arguments tape lexeme function name start
  | .give value =>
    match state.stack with
    | frame :: stack => frame.resume tape lexeme { state with stack } value
    | [] =>
      match lexeme.token with
      | none => .finished (.ok value)
      | some _ => state.fail .trailingInput lexeme.position
  | .refuse fault => state.fail fault lexeme.position
  | .raise error =>
    match state.stack with
    | frame :: stack => .next (frame.pass { state with stack } error)
    | [] => .finished (.error error)

def step (tape : List Lexeme) (state : State) : Outcome :=
  match tape[state.current]? with
  | some lexeme => perform tape lexeme state
  | none => .outside

def run (tape : List Lexeme) : Nat → State → Outcome
  | 0, state => .next state
  | steps + 1, state =>
    match step tape state with
    | .next state => run tape steps state
    | outcome => outcome

/-- The kinds of operands that frames are waiting for. -/
inductive Layer where
  | operands (level : Level)
  | unary
  | inner

def Level.below : Level → Layer
  | sum => .operands .product
  | product => .unary

/-- Is a frame waiting for such an operand? What a plus stands before is inside a unary, and is one
itself. -/
def Frame.Holds : Frame → Layer → Prop
  | first level, layer => layer = level.below
  | right level _ _, layer => layer = level.below
  | close, layer => layer = .inner ∨ layer = .unary
  | negate, layer => layer = .unary
  | group, layer => layer = .operands .sum
  | argument _ _ _ _, layer => layer = .operands .sum

def Frame.makes : Frame → Layer
  | first level => .operands level
  | right level _ _ => .operands level
  | close => .unary
  | negate => .inner
  | group => .inner
  | argument _ _ _ _ => .inner

/-- Do frames stand on one another as the grammar nests, and wait for such an operand? -/
def Fits : Layer → List Frame → Prop
  | layer, [] => layer = .operands .sum
  | layer, frame :: stack => frame.Holds layer ∧ Fits frame.makes stack

theorem Fits.plus {stack : List Frame} (fits : Fits .inner stack) : Fits .unary stack := by
  cases stack with
  | nil => cases fits
  | cons frame stack =>
      obtain ⟨holds, below⟩ := fits
      cases frame with
      | close => exact ⟨Or.inr rfl, below⟩
      | first level => cases level <;> cases holds
      | right level left operation => cases level <;> cases holds
      | negate => cases holds
      | group => cases holds
      | argument function name start done => cases holds

def Task.Fits : Task → List Frame → Prop
  | operands level, stack => Parsing.Fits (.operands level) stack
  | more level _, stack => Parsing.Fits (.operands level) stack
  | unary, stack => Parsing.Fits .unary stack
  | signed, stack => Parsing.Fits .inner stack
  | primary, stack => Parsing.Fits .inner stack
  | named _ _, stack => Parsing.Fits .inner stack
  | arguments _ _ _, stack => Parsing.Fits .inner stack
  | give _, stack => ∃ layer, Parsing.Fits layer stack
  | refuse _, stack => ∃ layer, Parsing.Fits layer stack
  | raise _, stack => ∃ layer, Parsing.Fits layer stack

def openUnaries : List Frame → Nat
  | [] => 0
  | frame :: stack => openUnaries stack + frame.opens

def Layer.room : Layer → Nat
  | operands .sum => 2
  | operands .product => 1
  | unary => 0
  | inner => 3

theorem room_le {frame : Frame} {layer : Layer} (holds : frame.Holds layer) :
    layer.room + 1 ≤ frame.makes.room + 4 * frame.opens := by
  cases frame with
  | first level =>
      obtain rfl : layer = level.below := holds
      cases level <;> exact Nat.le_refl _
  | right level left operation =>
      obtain rfl : layer = level.below := holds
      cases level <;> exact Nat.le_refl _
  | close => rcases holds with rfl | rfl <;> decide
  | negate =>
      obtain rfl : layer = .unary := holds
      decide
  | group =>
      obtain rfl : layer = .operands .sum := holds
      exact Nat.le_refl _
  | argument function name start done =>
      obtain rfl : layer = .operands .sum := holds
      exact Nat.le_refl _

theorem Fits.height {layer : Layer} {stack : List Frame} (fits : Fits layer stack) :
    stack.length + layer.room ≤ 4 * openUnaries stack + 2 := by
  induction stack generalizing layer with
  | nil =>
      obtain rfl : layer = .operands .sum := fits
      decide
  | cons frame stack ih =>
      obtain ⟨holds, below⟩ := fits
      have room := room_le holds
      have lower := ih below
      rw [List.length_cons, openUnaries]
      omega

theorem exists_fits {task : Task} {stack : List Frame} (fits : task.Fits stack) :
    ∃ layer, Fits layer stack := by
  cases task with
  | give value => exact fits
  | refuse fault => exact fits
  | raise error => exact fits
  | _ => exact ⟨_, fits⟩

def Frame.positions : Frame → List Nat
  | argument _ _ start _ => [start]
  | _ => []

def Task.positions : Task → List Nat
  | named _ start => [start]
  | arguments _ _ start => [start]
  | raise error => [error.position]
  | _ => []

def State.positions (state : State) : List Nat :=
  state.task.positions ++ state.stack.flatMap Frame.positions

structure Sound (tape : List Lexeme) (state : State) : Prop where
  inside : state.current < tape.length
  fits : state.task.Fits state.stack
  depth : state.depth = openUnaries state.stack
  shallow : state.depth ≤ nestingLimit
  positions : state.positions ⊆ tape.map Lexeme.position

@[simp]
def Frame.work : Frame → Nat
  | first _ => 2
  | right _ _ _ => 2
  | close => 1
  | negate => 1
  | group => 1
  | argument _ _ _ _ => 2

@[simp]
def Task.work : Task → Nat
  | operands .sum => 10
  | operands .product => 7
  | more _ _ => 2
  | unary => 4
  | signed => 2
  | primary => 1
  | named _ _ => 3
  | arguments _ _ _ => 13
  | give _ => 1
  | refuse _ => 1
  | raise _ => 0

/-- The work that is waiting, at the token at which the machine is. -/
def State.work (state : State) : Nat := (state.stack.map Frame.work).sum + state.task.work

/-- Every token makes as much work as one that opens a group. -/
def potential (tape : List Lexeme) (state : State) : Nat :=
  11 * (tape.length - 1 - state.current) + state.work

/-- Is an outcome a sound state, or else a value or something wrong at one of the tokens? -/
def Safe (tape : List Lexeme) : Outcome → Prop
  | .next next => Sound tape next
  | .finished (.ok _) => True
  | .finished (.error error) => error.position ∈ tape.map Lexeme.position
  | .outside => False

structure Lawful (tape : List Lexeme) (state : State) (outcome : Outcome) : Prop where
  safe : Safe tape outcome
  works : ∀ next, outcome = .next next → state.current ≤ next.current ∧
    potential tape next < potential tape state

theorem Sound.height {tape : List Lexeme} {state : State} (sound : Sound tape state) :
    state.stack.length ≤ 4 * state.depth + 2 := by
  obtain ⟨layer, fits⟩ := exists_fits sound.fits
  have height := fits.height
  rw [← sound.depth] at height
  omega

theorem Lawful.progress {tape : List Lexeme} {state next : State}
    (lawful : Lawful tape state (.next next)) : state.current < next.current ∨
      state.current = next.current ∧ next.work < state.work := by
  obtain ⟨onward, less⟩ := lawful.works next rfl
  rcases Nat.lt_or_eq_of_le onward with further | same
  · exact Or.inl further
  · rw [potential, potential, same] at less
    exact Or.inr ⟨same, by omega⟩

/-- What remains of a state when some work is done: its task, perhaps a frame, or a token. -/
structure Remains (tape : List Lexeme) (state rest : State) (done : Nat) : Prop where
  inside : rest.current < tape.length
  onward : state.current ≤ rest.current
  depth : rest.depth = openUnaries rest.stack
  shallow : rest.depth ≤ nestingLimit
  positions : rest.stack.flatMap Frame.positions ⊆ tape.map Lexeme.position
  done : 11 * (tape.length - 1 - rest.current) + (rest.stack.map Frame.work).sum + done =
    potential tape state

section
variable {tape : List Lexeme} {state rest : State} {done : Nat}

theorem Sound.remains (sound : Sound tape state) :
    Remains tape state state state.task.work where
  inside := sound.inside
  onward := Nat.le_refl _
  depth := sound.depth
  shallow := sound.shallow
  positions := fun _ member => sound.positions (List.mem_append_right _ member)
  done := Nat.add_assoc _ _ _

namespace Remains

variable (remains : Remains tape state rest done)
include remains

theorem turn {task : Task} (fits : task.Fits rest.stack)
    (kept : task.positions ⊆ tape.map Lexeme.position) (less : task.work < done) :
    Lawful tape state (.next (rest.turn task)) := by
  obtain ⟨inside, onward, depth, shallow, earlier, work⟩ := remains
  refine ⟨⟨inside, fits, depth, shallow, List.append_subset.mpr ⟨kept, earlier⟩⟩, ?_⟩
  rintro next ⟨⟩
  refine ⟨onward, ?_⟩
  rw [← work, potential, State.work]
  simp only [State.turn]
  omega

theorem call {frame : Frame} {task : Task} (fits : task.Fits (frame :: rest.stack))
    (opens : frame.opens = 0)
    (kept : task.positions ++ frame.positions ⊆ tape.map Lexeme.position)
    (less : frame.work + task.work < done) :
    Lawful tape state (.next (rest.call frame task)) := by
  obtain ⟨inside, onward, depth, shallow, earlier, work⟩ := remains
  refine ⟨⟨inside, fits, ?_, shallow, ?_⟩, ?_⟩
  · rw [State.call, openUnaries, opens]
    exact depth
  · rw [State.positions, State.call, List.flatMap_cons, ← List.append_assoc]
    exact List.append_subset.mpr ⟨kept, earlier⟩
  · rintro next ⟨⟩
    refine ⟨onward, ?_⟩
    rw [← work, potential, State.work]
    simp only [State.call, List.map_cons, List.sum_cons]
    omega

theorem advance (further : rest.current + 1 < tape.length) :
    Remains tape state { rest with current := rest.current + 1 } (done + 11) := by
  obtain ⟨inside, onward, depth, shallow, earlier, work⟩ := remains
  refine ⟨further, Nat.le_succ_of_le onward, depth, shallow, earlier, ?_⟩
  rw [← work]
  simp only
  omega

theorem fail {fault : ExpressionFault} {position : Nat} (fits : ∃ layer, Fits layer rest.stack)
    (placed : position ∈ tape.map Lexeme.position) (positive : 0 < done) :
    Lawful tape state (rest.fail fault position) :=
  remains.turn fits (List.cons_subset.mpr ⟨placed, List.nil_subset _⟩) positive

theorem apply {function : MathFunction} {name : String} {start : Nat} {values : List Expression}
    (fits : ∃ layer, Fits layer rest.stack) (placed : start ∈ tape.map Lexeme.position)
    (less : 1 < done) : Lawful tape state (rest.apply function name start values) := by
  rw [State.apply]
  split
  · exact remains.turn fits (List.nil_subset _) less
  · exact remains.fail fits placed (Nat.zero_lt_of_lt less)

end Remains

theorem Remains.pop {frame : Frame} {stack : List Frame}
    (remains : Remains tape state { rest with stack := frame :: stack } done) :
    Remains tape state { rest with stack, depth := rest.depth - frame.opens }
      (done + frame.work) := by
  obtain ⟨inside, onward, depth, shallow, kept, work⟩ := remains
  simp only [openUnaries, List.map_cons, List.sum_cons] at depth shallow work
  refine ⟨inside, onward, by simp only; omega, by simp only; omega, ?_, by simp only; omega⟩
  exact fun _ member => kept (List.mem_append_right _ member)

section
variable {lexeme : Lexeme} (here : lexeme.position ∈ tape.map Lexeme.position)
  (before : lexeme.token ≠ none → rest.current + 1 < tape.length)

section
variable (remains : Remains tape state rest done)
include remains

include before in
theorem lawful_more {level : Level} {left : Expression}
    (fits : Fits (.operands level) rest.stack) (enough : 2 ≤ done) :
    Lawful tape state (rest.more tape lexeme level left) := by
  rw [State.more]
  split
  · rename_i operation found
    have further : rest.current + 1 < tape.length := by
      apply before
      intro none
      rw [none] at found
      cases found
    rw [State.advance, if_pos further]
    have onward := remains.advance further
    cases level with
    | sum => exact onward.call ⟨rfl, fits⟩ rfl (List.nil_subset _) (by simp [Level.operand])
    | product =>
        exact onward.call ⟨rfl, fits⟩ rfl (List.nil_subset _) (by simp [Level.operand])
  · exact remains.turn ⟨_, fits⟩ (List.nil_subset _) enough

include here in
theorem lawful_unary (fits : Fits .unary rest.stack) (enough : 4 ≤ done) :
    Lawful tape state (rest.unary lexeme) := by
  rw [State.unary]
  split
  · exact remains.fail ⟨_, fits⟩ here (by omega)
  · rename_i room
    obtain ⟨inside, onward, opened, shallow, kept, work⟩ := remains
    refine ⟨⟨inside, ⟨Or.inl rfl, fits⟩, congrArg (· + 1) opened, Nat.lt_of_not_le room, kept⟩, ?_⟩
    rintro next ⟨⟩
    refine ⟨onward, ?_⟩
    rw [← work, potential, State.work]
    simp only [State.call, List.map_cons, List.sum_cons, Frame.work, Task.work]
    omega

include before in
theorem lawful_signed (fits : Fits .inner rest.stack) (enough : 2 ≤ done) :
    Lawful tape state (rest.signed tape lexeme) := by
  rw [State.signed]
  split
  · rename_i minus
    have further := before (by simp [minus])
    rw [State.advance, if_pos further]
    exact (remains.advance further).call ⟨rfl, fits⟩ rfl (List.nil_subset _) (by simp)
  · rename_i plus
    have further := before (by simp [plus])
    rw [State.advance, if_pos further]
    exact (remains.advance further).turn fits.plus (List.nil_subset _) (by simp)
  · exact remains.turn fits (List.nil_subset _) enough

include here before in
theorem lawful_primary (fits : Fits .inner rest.stack) (enough : 1 ≤ done) :
    Lawful tape state (rest.primary tape lexeme) := by
  rw [State.primary]
  split
  · exact remains.fail ⟨_, fits⟩ here enough
  · rename_i number
    have further := before (by simp [number])
    rw [State.advance, if_pos further]
    exact (remains.advance further).turn ⟨_, fits⟩ (List.nil_subset _) (by simp)
  · rename_i name
    have further := before (by simp [name])
    rw [State.advance, if_pos further]
    exact (remains.advance further).turn fits
      (List.cons_subset.mpr ⟨here, List.nil_subset _⟩) (by simp)
  · rename_i opening
    have further := before (by simp [opening])
    rw [State.advance, if_pos further]
    exact (remains.advance further).call ⟨rfl, fits⟩ rfl (List.nil_subset _) (by simp; omega)
  · exact remains.fail ⟨_, fits⟩ here enough

section
variable {name : String} {start : Nat} (started : start ∈ tape.map Lexeme.position)
include before started

theorem lawful_named (fits : Fits .inner rest.stack) (enough : 3 ≤ done) :
    Lawful tape state (rest.named tape lexeme name start) := by
  rw [State.named]
  split
  · rename_i opening
    have further := before (by simp [opening])
    rw [State.advance, if_pos further]
    split
    · exact remains.fail ⟨_, fits⟩ started (by omega)
    · exact (remains.advance further).turn fits
        (List.cons_subset.mpr ⟨started, List.nil_subset _⟩) (by simp; omega)
  · split
    · exact remains.turn ⟨_, fits⟩ (List.nil_subset _) (by simp; omega)
    · exact remains.turn ⟨_, fits⟩ (List.nil_subset _) (by simp; omega)

theorem lawful_arguments {function : MathFunction} (fits : Fits .inner rest.stack)
    (enough : 13 ≤ done) :
    Lawful tape state (rest.arguments tape lexeme function name start) := by
  rw [State.arguments]
  split
  · rename_i closing
    have further := before (by simp [closing])
    rw [State.advance, if_pos further]
    exact (remains.advance further).apply ⟨_, fits⟩ started (by omega)
  · exact remains.call ⟨rfl, fits⟩ rfl
      (List.cons_subset.mpr ⟨started, List.nil_subset _⟩) (by simp; omega)

end

end

section
variable (rest) {frame : Frame} (fits : Fits frame.makes rest.stack)
include fits

include here before in
theorem lawful_resume {value : Expression}
    (remains : Remains tape state { rest with stack := frame :: rest.stack } 1) :
    Lawful tape state (frame.resume tape lexeme rest value) := by
  have kept := remains.positions
  cases frame with
  | first level => exact remains.pop.turn fits (List.nil_subset _) (by simp)
  | right level left operation => exact remains.pop.turn fits (List.nil_subset _) (by simp)
  | close => exact remains.pop.turn ⟨_, fits⟩ (List.nil_subset _) (by simp)
  | negate => exact remains.pop.turn ⟨_, fits⟩ (List.nil_subset _) (by simp)
  | group =>
      rw [Frame.resume]
      split
      · rename_i closing
        have further := before (by simp [closing])
        rw [State.advance, if_pos further]
        exact (remains.pop.advance further).turn ⟨_, fits⟩ (List.nil_subset _) (by simp)
      · exact remains.pop.fail ⟨_, fits⟩ here (by simp)
  | argument function name start earlier =>
      have started : start ∈ tape.map Lexeme.position := kept List.mem_cons_self
      rw [Frame.resume]
      split
      · rename_i comma
        have further := before (by simp [comma])
        rw [State.advance, if_pos further]
        exact (remains.pop.advance further).call ⟨rfl, fits⟩ rfl
          (List.cons_subset.mpr ⟨started, List.nil_subset _⟩) (by simp)
      · rename_i closing
        have further := before (by simp [closing])
        rw [State.advance, if_pos further]
        exact (remains.pop.advance further).apply ⟨_, fits⟩ started (by simp)
      · rw [State.advance]
        split
        · rename_i further
          exact (remains.pop.advance further).turn ⟨_, fits⟩ (List.nil_subset _) (by simp)
        · exact remains.pop.turn ⟨_, fits⟩ (List.nil_subset _) (by simp)

theorem lawful_pass {error : ExpressionError}
    (remains : Remains tape state { rest with stack := frame :: rest.stack } 0)
    (placed : error.position ∈ tape.map Lexeme.position) :
    Lawful tape state (.next (frame.pass rest error)) := by
  have kept : [error.position] ⊆ tape.map Lexeme.position :=
    List.cons_subset.mpr ⟨placed, List.nil_subset _⟩
  have positive : 0 < 0 + frame.work := by cases frame <;> simp
  exact remains.pop.turn ⟨_, fits⟩ kept positive

end

end

theorem lawful_perform {lexeme : Lexeme} (sound : Sound tape state)
    (here : lexeme.position ∈ tape.map Lexeme.position)
    (before : lexeme.token ≠ none → state.current + 1 < tape.length) :
    Lawful tape state (perform tape lexeme state) := by
  have remains := sound.remains
  have fits := sound.fits
  have kept := sound.positions
  obtain ⟨current, depth, stack, task⟩ := state
  cases task with
  | operands level =>
      cases level with
      | sum => exact remains.call ⟨rfl, fits⟩ rfl (List.nil_subset _) (by simp [Level.operand])
      | product => exact remains.call ⟨rfl, fits⟩ rfl (List.nil_subset _) (by simp [Level.operand])
  | more level left => exact lawful_more before remains fits (Nat.le_refl _)
  | unary => exact lawful_unary here remains fits (Nat.le_refl _)
  | signed => exact lawful_signed before remains fits (Nat.le_refl _)
  | primary => exact lawful_primary here before remains fits (Nat.le_refl _)
  | named name start =>
      exact lawful_named before remains (kept List.mem_cons_self) fits (Nat.le_refl _)
  | arguments function name start =>
      exact lawful_arguments before remains (kept List.mem_cons_self) fits (Nat.le_refl _)
  | give value =>
      cases stack with
      | nil =>
          simp only [perform]
          split
          · exact ⟨trivial, nofun⟩
          · exact remains.fail fits here (by simp)
      | cons frame stack =>
          obtain ⟨layer, fits⟩ := fits
          exact lawful_resume ⟨current, depth, stack, .give value⟩ here before fits.2 remains
  | refuse fault => exact remains.fail fits here (by simp)
  | raise error =>
      have placed : error.position ∈ tape.map Lexeme.position := kept List.mem_cons_self
      cases stack with
      | nil => exact ⟨placed, nofun⟩
      | cons frame stack =>
          obtain ⟨layer, fits⟩ := fits
          exact lawful_pass ⟨current, depth, stack, .raise error⟩ fits.2 remains placed

end

section
variable {stop : Nat} {tokens : List PlacedToken} {state : State}

theorem length_closed (stop : Nat) (tokens : List PlacedToken) :
    (closed stop tokens).length = tokens.length + 1 := by
  simp [closed]

theorem closed_getElem? {current : Nat} (inside : current < (closed stop tokens).length) :
    (tokens.drop current = [] ∧ (closed stop tokens)[current]? = some ⟨none, stop⟩) ∨
      ∃ placed, tokens.drop current = placed :: tokens.drop (current + 1) ∧
        current + 1 < (closed stop tokens).length ∧
        (closed stop tokens)[current]? = some ⟨some placed.token, placed.position⟩ := by
  rw [length_closed] at inside ⊢
  by_cases left : current < tokens.length
  · refine Or.inr ⟨tokens[current], List.drop_eq_getElem_cons left, by omega, ?_⟩
    rw [closed, List.getElem?_append_left (by simpa using left), List.getElem?_map,
      List.getElem?_eq_getElem left]
    rfl
  · obtain rfl : current = tokens.length := by omega
    refine Or.inl ⟨List.drop_length, ?_⟩
    rw [closed, List.getElem?_append_right (by simp)]
    simp

theorem lawful_step (sound : Sound (closed stop tokens) state) :
    Lawful (closed stop tokens) state (step (closed stop tokens) state) := by
  rw [step]
  rcases closed_getElem? sound.inside with ⟨_, here⟩ | ⟨placed, _, further, here⟩
  · rw [here]
    exact lawful_perform sound (List.mem_map_of_mem (List.mem_of_getElem? here)) fun some =>
      absurd rfl some
  · rw [here]
    exact lawful_perform sound (List.mem_map_of_mem (List.mem_of_getElem? here)) fun _ => further

theorem sound_start : Sound (closed stop tokens) State.start where
  inside := by
    rw [length_closed]
    exact Nat.succ_pos _
  fits := rfl
  depth := rfl
  shallow := Nat.zero_le _
  positions := List.nil_subset _

theorem safe_run (sound : Sound (closed stop tokens) state) (steps : Nat) :
    Safe (closed stop tokens) (run (closed stop tokens) steps state) := by
  induction steps generalizing state with
  | zero => exact sound
  | succ steps ih =>
      have safe := (lawful_step sound).safe
      rw [run]
      cases stepped : step (closed stop tokens) state with
      | next later =>
          rw [stepped] at safe
          exact ih safe
      | finished result =>
          rw [stepped] at safe
          exact safe
      | outside =>
          rw [stepped] at safe
          exact safe

theorem sound_run {later : State} (sound : Sound (closed stop tokens) state) {steps : Nat}
    (ran : run (closed stop tokens) steps state = .next later) :
    Sound (closed stop tokens) later := by
  have safe := safe_run sound steps
  rw [ran] at safe
  exact safe

end

end Parsing

end Expression

end Scouting

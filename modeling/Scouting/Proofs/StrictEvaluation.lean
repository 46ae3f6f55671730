import Scouting.Proofs.Agreement
import Scouting.Proofs.Grammar

/-!
Evaluation of expressions is strict: names are looked up as they occur, from left to right, until
one of them has no value or the arithmetic fails. What comes out is finite and so is every part of
it, and a function of an expression that was parsed always has the arguments that it picks.
-/

namespace Scouting

/-- The value of a function whose arguments are picked by their places; none if one of the places
is beyond the last argument. -/
def MathFunction.applyAt? : MathFunction → List Float → Option Float
  | min, values => some (values.foldl Number.smaller Number.infinity)
  | max, values => some (values.foldl Number.larger (-Number.infinity))
  | pow, values => do return (← values[0]?).pow (← values[1]?)
  | sqrt, values => values[0]?.map Float.sqrt
  | abs, values => values[0]?.map Float.abs
  | round, values => values[0]?.map Number.round
  | floor, values => values[0]?.map Number.floor
  | ceil, values => values[0]?.map Number.ceil

theorem MathFunction.applyAt?_of_takes {function : MathFunction} {values : List Float}
    (takes : function.takes values.length) :
    function.applyAt? values = some (function.apply values) := by
  match function, values with
  | min, _ => rfl
  | max, _ => rfl
  | pow, [] => simp [MathFunction.takes] at takes
  | pow, [_] => simp [MathFunction.takes] at takes
  | pow, [_, _] => rfl
  | pow, _ :: _ :: _ :: _ => simp [MathFunction.takes] at takes
  | sqrt, [] | abs, [] | round, [] | floor, [] | ceil, [] => simp [MathFunction.takes] at takes
  | sqrt, [_] | abs, [_] | round, [_] | floor, [_] | ceil, [_] => rfl
  | sqrt, _ :: _ :: _ | abs, _ :: _ :: _ | round, _ :: _ :: _ | floor, _ :: _ :: _
  | ceil, _ :: _ :: _ => simp [MathFunction.takes] at takes

namespace Expression

mutual

def parts : Expression → List Expression
  | number value => [number value]
  | key name => [key name]
  | negate inner => negate inner :: inner.parts
  | binary operation left right => binary operation left right :: (left.parts ++ right.parts)
  | call function arguments => call function arguments :: partsOfAll arguments

def partsOfAll : List Expression → List Expression
  | [] => []
  | first :: rest => first.parts ++ partsOfAll rest

end

theorem mem_parts_self (expression : Expression) : expression ∈ expression.parts := by
  cases expression <;> simp [parts]

theorem partsOfAll_append (front back : List Expression) :
    partsOfAll (front ++ back) = partsOfAll front ++ partsOfAll back := by
  induction front with
  | nil => simp [partsOfAll]
  | cons first rest ih => simp [partsOfAll, ih]

theorem mem_partsOfAll {part : Expression} {arguments : List Expression} :
    part ∈ partsOfAll arguments ↔ ∃ argument ∈ arguments, part ∈ argument.parts := by
  induction arguments with
  | nil => simp [partsOfAll]
  | cons first rest ih => simp [partsOfAll, ih]

mutual

theorem key_mem_parts (expression : Expression) {name : String} (occurs : name ∈ expression.names) :
    key name ∈ expression.parts := by
  cases expression with
  | number value => simp [names] at occurs
  | key other => simpa [names, parts] using occurs
  | negate inner =>
      have within := key_mem_parts inner (by simpa [names] using occurs)
      simp [parts, within]
  | binary operation left right =>
      rcases List.mem_append.mp (by simpa [names] using occurs) with inLeft | inRight
      · simp [parts, key_mem_parts left inLeft]
      · simp [parts, key_mem_parts right inRight]
  | call function arguments =>
      have within := key_mem_partsOfAll arguments (by simpa [names] using occurs)
      simp [parts, within]

theorem key_mem_partsOfAll (arguments : List Expression) {name : String}
    (occurs : name ∈ namesOfAll arguments) : key name ∈ partsOfAll arguments := by
  cases arguments with
  | nil => simp [namesOfAll] at occurs
  | cons first rest =>
      rcases List.mem_append.mp (by simpa [namesOfAll] using occurs) with inFirst | inRest
      · simp [partsOfAll, key_mem_parts first inFirst]
      · simp [partsOfAll, key_mem_partsOfAll rest inRest]

end

def CallsFit (expression : Expression) : Prop :=
  ∀ function arguments, call function arguments ∈ expression.parts →
    function.takes arguments.length

section
variable {unary rule : Rule}

theorem callsFit_chain {operation? : Token → Option Operation}
    (fits : ∀ tokens expression, rule tokens expression → expression.CallsFit)
    {tokens : List Token} {expression : Expression}
    (derived : Chain operation? rule tokens expression) : expression.CallsFit := by
  induction derived with
  | operand first => exact fits _ _ first
  | join _ _ last ih =>
      intro function arguments member
      simp only [parts, List.mem_cons, List.mem_append, reduceCtorEq, false_or] at member
      rcases member with inLeft | inRight
      · exact ih function arguments inLeft
      · exact fits _ _ last function arguments inRight

theorem callsFit_additive
    (fits : ∀ tokens expression, unary tokens expression → expression.CallsFit)
    {tokens : List Token} {expression : Expression} (derived : Additive unary tokens expression) :
    expression.CallsFit :=
  callsFit_chain (fun _ _ product => callsFit_chain fits product) derived

theorem callsFit_arguments
    (fits : ∀ tokens expression, rule tokens expression → expression.CallsFit)
    {tokens : List Token} {values : List Expression} (derived : Arguments rule tokens values) :
    ∀ value ∈ values, value.CallsFit := by
  cases derived with
  | none => nofun
  | listed listed =>
      induction listed with
      | last only =>
          intro value member
          rw [List.mem_singleton.mp member]
          exact fits _ _ only
      | more head _ ih =>
          intro value member
          rcases List.mem_cons.mp member with rfl | later
          · exact fits _ _ head
          · exact ih value later

theorem callsFit_primary
    (fits : ∀ tokens expression, unary tokens expression → expression.CallsFit)
    {tokens : List Token} {expression : Expression} (derived : Primary unary tokens expression) :
    expression.CallsFit := by
  cases derived with
  | number value => simp [CallsFit, parts]
  | pi _ => simp [CallsFit, parts]
  | key _ => simp [CallsFit, parts]
  | call _ inside takes =>
      intro function arguments member
      rcases List.mem_cons.mp member with same | inside'
      · cases same
        exact takes
      · obtain ⟨argument, listed, within⟩ := mem_partsOfAll.mp inside'
        exact callsFit_arguments (fun _ _ => callsFit_additive fits) inside argument listed
          function arguments within
  | group inside => exact callsFit_additive fits inside

theorem callsFit_unary (depth : Nat) :
    ∀ tokens expression, Unary depth tokens expression → expression.CallsFit := by
  induction depth with
  | zero => nofun
  | succ depth ih =>
      intro tokens expression derived
      cases derived with
      | minus inner =>
          intro function arguments member
          simp only [parts, List.mem_cons, reduceCtorEq, false_or] at member
          exact ih _ _ inner function arguments member
      | plus inner => exact ih _ _ inner
      | primary inner => exact callsFit_primary ih inner

end

theorem callsFit_of_parse {source : String} {expression : Expression}
    (parsed : parse source = .ok expression) : expression.CallsFit := by
  rw [parse] at parsed
  split at parsed
  · cases parsed
  · exact callsFit_additive (callsFit_unary nestingLimit) ((ofTokens_eq_ok_iff _).mp parsed)

abbrev Inquiries := List (String × Except StatError Float)

def given (answers : List (String × Float)) : Inquiries :=
  answers.map fun answer => (answer.1, .ok answer.2)

section
variable {σ α β : Type}

/-- A lookup that keeps, besides its own state, what was asked and what was answered. -/
def logged (lookup : String → Run σ Float) (name : String) : Run (σ × Inquiries) Float :=
  ExceptT.mk fun (state, log) =>
    let (answer, after) := (lookup name).run.run state
    (answer, after, log ++ [(name, answer)])

/-- How asking for some names in turn may end, and what was asked and answered by then: all of them
were given a value, one of them was refused one, or the arithmetic failed on the way. -/
inductive Asked (names : List String) : Except StatError α → Inquiries → Prop where
  | all (value : α) (answers : List (String × Float)) : answers.map (·.1) = names →
      Asked names (.ok value) (given answers)
  | refused (error : StatError) (answers : List (String × Float)) {name : String} :
      answers.map (·.1) ++ [name] <+: names →
        Asked names (.error error) (given answers ++ [(name, .error error)])
  | stuck (reason : String) (answers : List (String × Float)) : answers.map (·.1) <+: names →
      Asked names (.error (.missingOperand reason)) (given answers)

theorem given_append (front back : List (String × Float)) :
    given (front ++ back) = given front ++ given back := List.map_append

theorem map_fst_given (answers : List (String × Float)) :
    (given answers).map (·.1) = answers.map (·.1) := by
  simp [given, Function.comp_def]

theorem Asked.after {names more : List String} {outcome : Except StatError α} {asked : Inquiries}
    (later : Asked more outcome asked) {answers : List (String × Float)}
    (first : answers.map (·.1) = names) :
    Asked (names ++ more) outcome (given answers ++ asked) := by
  subst first
  cases later with
  | all value others same =>
      rw [← given_append]
      exact .all value _ (by simp [same])
  | refused error others before =>
      rw [← List.append_assoc, ← given_append]
      refine .refused error _ ?_
      rw [List.map_append, List.append_assoc]
      exact (List.prefix_append_right_inj _).mpr before
  | stuck reason others before =>
      rw [← given_append]
      refine .stuck reason _ ?_
      rw [List.map_append]
      exact (List.prefix_append_right_inj _).mpr before

def AsksFor (names : List String) (action : Run (σ × Inquiries) α) : Prop :=
  ∀ state log, ∃ outcome after asked,
    action.run.run (state, log) = (outcome, after, log ++ asked) ∧ Asked names outcome asked

theorem AsksFor.pure (value : α) : AsksFor [] (pure value : Run (σ × Inquiries) α) := by
  intro state log
  exact ⟨.ok value, state, [], by rw [List.append_nil]; rfl, .all value [] rfl⟩

theorem AsksFor.missing (reason : String) :
    AsksFor [] (throw (.missingOperand reason) : Run (σ × Inquiries) α) := by
  intro state log
  exact ⟨_, state, [], by rw [List.append_nil]; rfl, .stuck reason [] (by simp)⟩

theorem AsksFor.bind {names more : List String} {action : Run (σ × Inquiries) α}
    {next : α → Run (σ × Inquiries) β} (first : AsksFor names action)
    (later : ∀ value, AsksFor more (next value)) : AsksFor (names ++ more) (action >>= next) := by
  intro state log
  obtain ⟨outcome, between, asked, ran, ended⟩ := first state log
  rw [run_bind, ran]
  cases ended with
  | all value answers same =>
      obtain ⟨outcome, after, others, ranNext, endedNext⟩ :=
        later value between (log ++ given answers)
      refine ⟨outcome, after, given answers ++ others, ?_, endedNext.after same⟩
      rw [← List.append_assoc]
      exact ranNext
  | refused error answers before =>
      exact ⟨_, between, _, rfl, .refused error answers (before.trans (List.prefix_append _ _))⟩
  | stuck reason answers before =>
      exact ⟨_, between, _, rfl, .stuck reason answers (before.trans (List.prefix_append _ _))⟩

theorem logged_run {lookup : String → Run σ Float} {name : String} {state after : σ}
    {answer : Except StatError Float} (ran : (lookup name).run.run state = (answer, after))
    (log : Inquiries) :
    (logged lookup name).run.run (state, log) = (answer, after, log ++ [(name, answer)]) := by
  change (let (answer, after) := (lookup name).run.run state
    (answer, after, log ++ [(name, answer)])) = _
  rw [ran]

theorem asksFor_logged (lookup : String → Run σ Float) (name : String) :
    AsksFor [name] (logged lookup name) := by
  intro state log
  rcases ran : (lookup name).run.run state with ⟨error | value, after⟩
  · exact ⟨.error error, after, _, logged_run ran log, .refused error [] (by simp)⟩
  · exact ⟨.ok value, after, _, logged_run ran log, .all value [(name, value)] rfl⟩

theorem asksFor_finite (value : Float) : AsksFor [] (finite value : Run (σ × Inquiries) Float) := by
  rw [finite]
  split
  · exact AsksFor.pure value
  · exact AsksFor.missing _

theorem asksFor_combine (operation : Operation) (left right : Float) :
    AsksFor [] (combine operation left right : Run (σ × Inquiries) Float) := by
  cases operation with
  | add => exact AsksFor.pure _
  | subtract => exact AsksFor.pure _
  | multiply => exact AsksFor.pure _
  | divide =>
      rw [combine]
      split
      · exact AsksFor.missing _
      · exact AsksFor.pure _
  | remainder =>
      rw [combine]
      split
      · exact AsksFor.missing _
      · exact AsksFor.pure _

mutual

theorem asksFor_eval (lookup : String → Run σ Float) (expression : Expression) :
    AsksFor expression.names (expression.eval (logged lookup)) := by
  cases expression with
  | number value =>
      simp only [names, eval]
      exact asksFor_finite value
  | key name =>
      simp only [names, eval]
      simpa using (asksFor_logged lookup name).bind fun value => asksFor_finite value
  | negate inner =>
      simp only [names, eval]
      simpa using (asksFor_eval lookup inner).bind fun value => asksFor_finite (-value)
  | binary operation left right =>
      simp only [names, eval]
      refine (asksFor_eval lookup left).bind fun leftValue => ?_
      simpa using (asksFor_eval lookup right).bind fun rightValue =>
        (asksFor_combine operation leftValue rightValue).bind fun value => asksFor_finite value
  | call function arguments =>
      simp only [names, eval]
      simpa using (asksFor_evalAll lookup arguments).bind
        fun values => asksFor_finite (function.apply values)

theorem asksFor_evalAll (lookup : String → Run σ Float) (arguments : List Expression) :
    AsksFor (namesOfAll arguments) (evalAll (logged lookup) arguments) := by
  cases arguments with
  | nil =>
      simp only [namesOfAll, evalAll]
      exact AsksFor.pure []
  | cons first rest =>
      simp only [namesOfAll, evalAll]
      refine (asksFor_eval lookup first).bind fun value => ?_
      simpa using (asksFor_evalAll lookup rest).bind fun values => AsksFor.pure (value :: values)

end

theorem eval_logged (lookup : String → Run σ Float) (expression : Expression) (state : σ) :
    let (outcome, after, _) := (expression.eval (logged lookup)).run.run (state, [])
    (expression.eval lookup).run.run state = (outcome, after) := by
  have agree : Agree (fun logged plain => logged.1 = plain) (orMissing fun _ => True)
      (expression.eval (logged lookup)) (expression.eval lookup) := by
    refine Agree.eval expression fun name _ => ?_
    rintro ⟨state, log⟩ _ rfl
    rcases ran : (lookup name).run.run state with ⟨answer, after⟩
    exact ⟨answer, _, after, logged_run ran log, rfl, rfl, fun _ _ => Or.inr trivial⟩
  obtain ⟨outcome, ⟨after, log⟩, _, ran, plainRan, rfl, _⟩ := agree (state, []) state rfl
  rw [ran]
  exact plainRan

/-- Does the evaluation of an expression from a state come to that of a part of it, and from which
state? -/
inductive Visits (lookup : String → Run σ Float) : Expression → σ → Expression → σ → Prop where
  | here (expression : Expression) (state : σ) : Visits lookup expression state expression state
  | operand {inner part : Expression} {state there : σ} : Visits lookup inner state part there →
      Visits lookup (negate inner) state part there
  | left {operation : Operation} {left right part : Expression} {state there : σ} :
      Visits lookup left state part there →
        Visits lookup (binary operation left right) state part there
  | right {operation : Operation} {left right part : Expression} {state between there : σ}
      {value : Float} : (left.eval lookup).run.run state = (.ok value, between) →
        Visits lookup right between part there →
          Visits lookup (binary operation left right) state part there
  | argument {function : MathFunction} {earlier later : List Expression}
      {argument part : Expression} {state between there : σ} {values : List Float} :
      (evalAll lookup earlier).run.run state = (.ok values, between) →
        Visits lookup argument between part there →
          Visits lookup (call function (earlier ++ argument :: later)) state part there

variable {lookup : String → Run σ Float}

theorem Visits.mem_parts {expression part : Expression} {state there : σ}
    (visits : Visits lookup expression state part there) : part ∈ expression.parts := by
  induction visits with
  | here expression state => exact expression.mem_parts_self
  | operand _ ih => simp [parts, ih]
  | left _ ih => simp [parts, ih]
  | right _ _ ih => simp [parts, ih]
  | argument _ _ ih => simp [parts, partsOfAll_append, partsOfAll, ih]

theorem finite_eq_ok {value result : Float} {state after : σ}
    (ran : (finite value : Run σ Float).run.run state = (.ok result, after)) :
    result = value ∧ after = state ∧ value.isFinite := by
  rw [finite] at ran
  split at ran
  · rename_i isFinite
    cases ran
    exact ⟨rfl, rfl, isFinite⟩
  · cases ran

theorem evalAll_cons {first : Expression} {rest : List Expression} {value : Float}
    {values : List Float} {state between after : σ}
    (firstRan : (first.eval lookup).run.run state = (.ok value, between))
    (restRan : (evalAll lookup rest).run.run between = (.ok values, after)) :
    (evalAll lookup (first :: rest)).run.run state = (.ok (value :: values), after) := by
  simp only [evalAll]
  rw [run_bind, firstRan]
  change (evalAll lookup rest >>= fun values => Pure.pure (value :: values)).run.run between = _
  rw [run_bind, restRan]
  rfl

theorem evalAll_append {front back : List Expression} {values : List Float} {state after : σ}
    (ran : (evalAll lookup (front ++ back)).run.run state = (.ok values, after)) :
    ∃ first between rest, (evalAll lookup front).run.run state = (.ok first, between) ∧
      (evalAll lookup back).run.run between = (.ok rest, after) := by
  induction front generalizing state values with
  | nil => exact ⟨[], state, values, by simp only [evalAll]; rfl, ran⟩
  | cons head tail ih =>
      simp only [List.cons_append, evalAll] at ran
      obtain ⟨value, between, headRan, restRan⟩ := run_bind_eq_ok ran
      obtain ⟨others, _, tailRan, last⟩ := run_bind_eq_ok restRan
      cases last
      obtain ⟨first, middle, rest, frontRan, backRan⟩ := ih tailRan
      exact ⟨value :: first, middle, rest, evalAll_cons headRan frontRan, backRan⟩

theorem length_of_evalAll {arguments : List Expression} {values : List Float} {state after : σ}
    (ran : (evalAll lookup arguments).run.run state = (.ok values, after)) :
    values.length = arguments.length := by
  induction arguments generalizing state values with
  | nil =>
      simp only [evalAll] at ran
      cases ran
      rfl
  | cons first rest ih =>
      simp only [evalAll] at ran
      obtain ⟨value, between, _, restRan⟩ := run_bind_eq_ok ran
      obtain ⟨others, _, tailRan, last⟩ := run_bind_eq_ok restRan
      cases last
      rw [List.length_cons, List.length_cons, ih tailRan]

theorem Visits.exists_value {expression part : Expression} {state there after : σ} {value : Float}
    (visits : Visits lookup expression state part there)
    (ran : (expression.eval lookup).run.run state = (.ok value, after)) :
    ∃ result later, (part.eval lookup).run.run there = (.ok result, later) := by
  induction visits generalizing value after with
  | here expression state => exact ⟨value, after, ran⟩
  | operand _ ih =>
      simp only [eval] at ran
      obtain ⟨_, _, innerRan, _⟩ := run_bind_eq_ok ran
      exact ih innerRan
  | left _ ih =>
      simp only [eval] at ran
      obtain ⟨_, _, leftRan, _⟩ := run_bind_eq_ok ran
      exact ih leftRan
  | right leftRan _ ih =>
      simp only [eval] at ran
      rw [run_bind, leftRan] at ran
      obtain ⟨_, _, rightRan, _⟩ := run_bind_eq_ok ran
      exact ih rightRan
  | argument earlierRan _ ih =>
      simp only [eval] at ran
      obtain ⟨_, _, allRan, _⟩ := run_bind_eq_ok ran
      obtain ⟨_, _, _, frontRan, backRan⟩ := evalAll_append allRan
      rw [earlierRan] at frontRan
      cases frontRan
      simp only [evalAll] at backRan
      obtain ⟨_, _, argumentRan, _⟩ := run_bind_eq_ok backRan
      exact ih argumentRan

mutual

theorem visits_of_mem_parts (expression : Expression) {part : Expression} {state after : σ}
    {value : Float} (ran : (expression.eval lookup).run.run state = (.ok value, after))
    (member : part ∈ expression.parts) : ∃ there, Visits lookup expression state part there := by
  cases expression with
  | number value =>
      rw [parts, List.mem_singleton] at member
      exact ⟨state, member ▸ .here _ state⟩
  | key name =>
      rw [parts, List.mem_singleton] at member
      exact ⟨state, member ▸ .here _ state⟩
  | negate inner =>
      simp only [eval] at ran
      obtain ⟨_, _, innerRan, _⟩ := run_bind_eq_ok ran
      rcases List.mem_cons.mp member with rfl | within
      · exact ⟨state, .here _ state⟩
      · obtain ⟨there, visits⟩ := visits_of_mem_parts inner innerRan within
        exact ⟨there, .operand visits⟩
  | binary operation left right =>
      simp only [eval] at ran
      obtain ⟨_, _, leftRan, restRan⟩ := run_bind_eq_ok ran
      obtain ⟨_, _, rightRan, _⟩ := run_bind_eq_ok restRan
      rcases List.mem_cons.mp member with rfl | within
      · exact ⟨state, .here _ state⟩
      · rcases List.mem_append.mp within with inLeft | inRight
        · obtain ⟨there, visits⟩ := visits_of_mem_parts left leftRan inLeft
          exact ⟨there, .left visits⟩
        · obtain ⟨there, visits⟩ := visits_of_mem_parts right rightRan inRight
          exact ⟨there, .right leftRan visits⟩
  | call function arguments =>
      simp only [eval] at ran
      obtain ⟨_, _, allRan, _⟩ := run_bind_eq_ok ran
      rcases List.mem_cons.mp member with rfl | within
      · exact ⟨state, .here _ state⟩
      · obtain ⟨front, argument, back, _, _, there, rfl, frontRan, visits⟩ :=
          visits_of_mem_partsOfAll arguments allRan within
        exact ⟨there, .argument frontRan visits⟩

theorem visits_of_mem_partsOfAll (arguments : List Expression) {part : Expression}
    {state after : σ} {values : List Float}
    (ran : (evalAll lookup arguments).run.run state = (.ok values, after))
    (member : part ∈ partsOfAll arguments) :
    ∃ front argument back earlier between there, arguments = front ++ argument :: back ∧
      (evalAll lookup front).run.run state = (.ok earlier, between) ∧
      Visits lookup argument between part there := by
  cases arguments with
  | nil => simp [partsOfAll] at member
  | cons first rest =>
      simp only [evalAll] at ran
      obtain ⟨value, between, firstRan, restRan⟩ := run_bind_eq_ok ran
      obtain ⟨_, _, tailRan, _⟩ := run_bind_eq_ok restRan
      rcases List.mem_append.mp member with inFirst | inRest
      · obtain ⟨there, visits⟩ := visits_of_mem_parts first firstRan inFirst
        exact ⟨[], first, rest, [], state, there, rfl, by simp only [evalAll]; rfl, visits⟩
      · obtain ⟨front, argument, back, earlier, middle, there, rfl, frontRan, visits⟩ :=
          visits_of_mem_partsOfAll rest tailRan inRest
        exact ⟨first :: front, argument, back, value :: earlier, middle, there, rfl,
          evalAll_cons firstRan frontRan, visits⟩

end

theorem isFinite_of_eval {expression : Expression} {value : Float} {state after : σ}
    (ran : (expression.eval lookup).run.run state = (.ok value, after)) : value.isFinite := by
  have checked : ∃ (result : Float) (between : σ),
      (finite result : Run σ Float).run.run between = (.ok value, after) := by
    cases expression with
    | number result =>
        simp only [eval] at ran
        exact ⟨result, state, ran⟩
    | key name =>
        simp only [eval] at ran
        obtain ⟨result, between, _, last⟩ := run_bind_eq_ok ran
        exact ⟨result, between, last⟩
    | negate inner =>
        simp only [eval] at ran
        obtain ⟨result, between, _, last⟩ := run_bind_eq_ok ran
        exact ⟨-result, between, last⟩
    | binary operation left right =>
        simp only [eval] at ran
        obtain ⟨_, _, _, restRan⟩ := run_bind_eq_ok ran
        obtain ⟨_, _, _, combined⟩ := run_bind_eq_ok restRan
        obtain ⟨result, between, _, last⟩ := run_bind_eq_ok combined
        exact ⟨result, between, last⟩
    | call function arguments =>
        simp only [eval] at ran
        obtain ⟨results, between, _, last⟩ := run_bind_eq_ok ran
        exact ⟨function.apply results, between, last⟩
  obtain ⟨result, between, last⟩ := checked
  obtain ⟨rfl, _, isFinite⟩ := finite_eq_ok last
  exact isFinite

def dividesByZero : Operation → Float → Bool
  | .divide, divisor => divisor == 0.0
  | .remainder, divisor => divisor == 0.0
  | _, _ => false

theorem nonzero_of_combine {operation : Operation} {left right value : Float} {state after : σ}
    (ran : (combine operation left right : Run σ Float).run.run state = (.ok value, after)) :
    dividesByZero operation right = false := by
  cases operation with
  | add => rfl
  | subtract => rfl
  | multiply => rfl
  | divide =>
      rw [combine] at ran
      split at ran
      · cases ran
      · rename_i nonzero
        simpa [dividesByZero] using nonzero
  | remainder =>
      rw [combine] at ran
      split at ran
      · cases ran
      · rename_i nonzero
        simpa [dividesByZero] using nonzero

theorem nonzero_of_eval {operation : Operation} {left right : Expression} {value : Float}
    {state after : σ}
    (ran : ((binary operation left right).eval lookup).run.run state = (.ok value, after)) :
    ∃ dividend between divisor later,
      (left.eval lookup).run.run state = (.ok dividend, between) ∧
      (right.eval lookup).run.run between = (.ok divisor, later) ∧
      dividesByZero operation divisor = false := by
  simp only [eval] at ran
  obtain ⟨dividend, between, leftRan, restRan⟩ := run_bind_eq_ok ran
  obtain ⟨divisor, later, rightRan, combined⟩ := run_bind_eq_ok restRan
  obtain ⟨_, _, combineRan, _⟩ := run_bind_eq_ok combined
  exact ⟨dividend, between, divisor, later, leftRan, rightRan, nonzero_of_combine combineRan⟩

theorem exists_answer_of_eval {name : String} {value : Float} {state after : σ}
    (ran : ((key name).eval lookup).run.run state = (.ok value, after)) :
    ∃ answer, ((lookup name).run.run state).1 = .ok answer := by
  simp only [eval] at ran
  obtain ⟨answer, _, lookupRan, _⟩ := run_bind_eq_ok ran
  exact ⟨answer, by rw [lookupRan]⟩

theorem Asked.names_of_ok {names : List String} {value : α} {asked : Inquiries}
    (ended : Asked names (.ok value) asked) : asked.map (·.1) = names := by
  cases ended with
  | all _ _ same => exact (map_fst_given _).trans same

end

/-- What evaluates to a number is finite throughout: every part is evaluated, comes to a finite
number, and divides by nothing that is zero. -/
def FiniteThroughout {σ : Type} (lookup : String → Run σ Float) (expression : Expression)
    (state : σ) : Prop :=
  (∀ part ∈ expression.parts, ∃ there, Visits lookup expression state part there) ∧
  ∀ part there, Visits lookup expression state part there →
    (∃ result later, (part.eval lookup).run.run there = (.ok result, later) ∧ result.isFinite) ∧
    ∀ operation left right, part = binary operation left right →
      ∃ dividend between divisor later,
        (left.eval lookup).run.run there = (.ok dividend, between) ∧
        (right.eval lookup).run.run between = (.ok divisor, later) ∧
        dividesByZero operation divisor = false

theorem finiteThroughout_of_eval {σ : Type} {lookup : String → Run σ Float}
    {expression : Expression} {value : Float} {state after : σ}
    (ran : (expression.eval lookup).run.run state = (.ok value, after)) :
    FiniteThroughout lookup expression state := by
  refine ⟨fun part member => visits_of_mem_parts expression ran member, fun part there visits => ?_⟩
  obtain ⟨result, later, partRan⟩ := visits.exists_value ran
  refine ⟨⟨result, later, partRan, isFinite_of_eval partRan⟩, ?_⟩
  rintro operation left right rfl
  exact nonzero_of_eval partRan

/-- Arithmetic is strict. Whatever the lookup does, the evaluation of an expression that was parsed
asks for its names as they occur, up to the first one that is refused a value or to the point where
the arithmetic fails; on success it has asked for all of them, so for exactly the references. A name
that is always refused makes it fail, wherever it occurs. A value that comes out is finite and so is
every part, with no division by zero, and no function picks an argument that is not there. -/
theorem eval_strict {source : String} {expression : Expression}
    (parsed : parse source = .ok expression) {σ : Type} (lookup : String → Run σ Float)
    (state : σ) :
    ∃ outcome after asked,
      (expression.eval lookup).run.run state = (outcome, after) ∧
      (expression.eval (logged lookup)).run.run (state, []) = (outcome, after, asked) ∧
      Asked expression.names outcome asked ∧
      (∀ value, outcome = .ok value →
        (asked.map (·.1)).eraseDups = expression.references ∧ value.isFinite ∧
          FiniteThroughout lookup expression state) ∧
      (∀ name ∈ expression.names,
        (∀ before, ∃ error, ((lookup name).run.run before).1 = .error error) →
          ∃ error, outcome = .error error) ∧
      ∀ function arguments there values later,
        Visits lookup expression state (call function arguments) there →
          (evalAll lookup arguments).run.run there = (.ok values, later) →
            function.applyAt? values = some (function.apply values) := by
  obtain ⟨outcome, after, asked, loggedRan, ended⟩ := asksFor_eval lookup expression state []
  have ran := eval_logged lookup expression state
  rw [List.nil_append] at loggedRan
  simp only [loggedRan] at ran
  refine ⟨outcome, after, asked, ran, loggedRan, ended, ?_, ?_, ?_⟩
  · rintro value rfl
    refine ⟨?_, isFinite_of_eval ran, finiteThroughout_of_eval ran⟩
    rw [ended.names_of_ok, references]
  · intro name occurs refused
    cases outcome with
    | error error => exact ⟨error, rfl⟩
    | ok value =>
        obtain ⟨there, visits⟩ := visits_of_mem_parts expression ran (key_mem_parts _ occurs)
        obtain ⟨_, _, keyRan⟩ := visits.exists_value ran
        obtain ⟨answer, answered⟩ := exists_answer_of_eval keyRan
        obtain ⟨error, failed⟩ := refused there
        rw [failed] at answered
        cases answered
  · intro function arguments there values later visits evaluated
    have takes := callsFit_of_parse parsed function arguments visits.mem_parts
    rw [← length_of_evalAll evaluated] at takes
    exact MathFunction.applyAt?_of_takes takes

def share : Expression := .binary .divide (.call .min [.key "a", .number 4.0]) (.key "b")

def answerShare (name : String) : Run Unit Float :=
  if name = "a" then pure 3.0 else if name = "b" then pure 2.0 else throw (.unknownKey name)

theorem eval_strict_share : parse "min(a, 4) / b" = .ok share ∧
    ∃ asked, (share.eval (logged answerShare)).run.run ((), []) = (.ok 1.5, (), asked) ∧
      (asked.map (·.1)).eraseDups = share.references ∧ Float.isFinite 1.5 ∧
      FiniteThroughout answerShare share () := by
  have scanned : (Token.scan 0 "min(a, 4) / b".toList).toOption =
      some [⟨.name "min", 0⟩, ⟨.sign .leftParen, 3⟩, ⟨.name "a", 4⟩, ⟨.sign .comma, 5⟩,
        ⟨.number 4.0, 7⟩, ⟨.sign .rightParen, 8⟩, ⟨.sign .slash, 10⟩, ⟨.name "b", 12⟩] := by
    decide +kernel
  have parsed : parse "min(a, 4) / b" = .ok share := by
    rw [parse]
    cases found : Token.scan 0 "min(a, 4) / b".toList with
    | error error =>
        rw [found] at scanned
        cases scanned
    | ok tokens =>
        rw [found] at scanned
        cases scanned
        rfl
  obtain ⟨outcome, after, asked, ran, loggedRan, _, success, _⟩ :=
    eval_strict parsed answerShare ()
  have value : ((share.eval answerShare).run.run ()).1.toOption = some 1.5 := by decide +kernel
  rw [ran] at value
  cases outcome with
  | error error => cases value
  | ok number =>
      cases value
      exact ⟨parsed, asked, loggedRan, success 1.5 rfl⟩

end Expression

end Scouting

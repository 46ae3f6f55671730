import Scouting.Expression.Parser
import Scouting.Proofs.Tokens

/-!
The grammar of expressions. Its rules say which tokens stand for which expression, and the parser
reads an expression off exactly the texts whose tokens stand for it.
-/

namespace Scouting

namespace Expression

/-- Which tokens stand for which expression. -/
abbrev Rule := List Token → Expression → Prop

/-- Operands joined by operations, each to all that is before it. -/
inductive Chain (operation? : Token → Option Operation) (operand : Rule) : Rule where
  | operand {tokens : List Token} {expression : Expression} :
      operand tokens expression → Chain operation? operand tokens expression
  | join {before after : List Token} {sign : Token} {operation : Operation}
      {left right : Expression} : Chain operation? operand before left →
        operation? sign = some operation → operand after right →
          Chain operation? operand (before ++ sign :: after) (.binary operation left right)

def Additive (unary : Rule) : Rule := Chain additive? (Chain multiplicative? unary)

/-- Arguments with a comma between any two of them. -/
inductive Listed (argument : Rule) : List Token → List Expression → Prop where
  | last {tokens : List Token} {value : Expression} : argument tokens value →
      Listed argument tokens [value]
  | more {tokens rest : List Token} {value : Expression} {values : List Expression} :
      argument tokens value → Listed argument rest values →
        Listed argument (tokens ++ .sign .comma :: rest) (value :: values)

inductive Arguments (argument : Rule) : List Token → List Expression → Prop where
  | none : Arguments argument [] []
  | listed {tokens : List Token} {values : List Expression} : Listed argument tokens values →
      Arguments argument tokens values

/-- Is a name a word, in letters of any case and perhaps after `Math.`? -/
def IsWord (word name : String) : Prop :=
  ∃ bare, Text.asciiLower bare = word ∧ (name = bare ∨ name = "Math." ++ bare)

/-- Numbers, names, calls and whole expressions, whose parentheses leave no trace. -/
inductive Primary (unary : Rule) : Rule where
  | number (value : Float) : Primary unary [.number value] (.number value)
  | pi {name : String} : IsWord "pi" name → Primary unary [.name name] (.number Expression.pi)
  | key {name : String} : ¬IsWord "pi" name → Primary unary [.name name] (.key name)
  | call {name : String} {function : MathFunction} {inside : List Token}
      {values : List Expression} : IsWord function.name name →
        Arguments (Additive unary) inside values → function.takes values.length →
          Primary unary (.name name :: .sign .leftParen :: (inside ++ [.sign .rightParen]))
            (.call function values)
  | group {inside : List Token} {expression : Expression} : Additive unary inside expression →
      Primary unary (.sign .leftParen :: (inside ++ [.sign .rightParen])) expression

/-- A primary, or a sign before a unary; a plus leaves no trace. -/
inductive Signed (unary : Rule) : Rule where
  | minus {tokens : List Token} {expression : Expression} : unary tokens expression →
      Signed unary (.sign .minus :: tokens) (.negate expression)
  | plus {tokens : List Token} {expression : Expression} : unary tokens expression →
      Signed unary (.sign .plus :: tokens) expression
  | primary {tokens : List Token} {expression : Expression} : Primary unary tokens expression →
      Signed unary tokens expression

/-- Unaries, of which no more than so many are open at a time. -/
def Unary : Nat → Rule
  | 0 => fun _ _ => False
  | depth + 1 => Signed (Unary depth)

def Reads {α : Type} (parser : List PlacedToken → Parsed α) (rule : List Token → α → Prop) : Prop :=
  ∀ ⦃tokens rest : List PlacedToken⦄ ⦃value : α⦄, parser tokens = .ok (value, rest) →
    ∃ used, tokens = used ++ rest ∧ rule (used.map PlacedToken.token) value

/-- A parser reads what a rule has, if a token follows at which the rule has to stop. -/
def Finds {α : Type} (parser : List PlacedToken → Parsed α) (rule : List Token → α → Prop)
    (stops : Token → Prop) : Prop :=
  ∀ ⦃used rest : List PlacedToken⦄ ⦃value : α⦄, rule (used.map PlacedToken.token) value →
    (∀ next ∈ rest.head?, stops next.token) → parser (used ++ rest) = .ok (value, rest)

theorem Finds.before {α : Type} {parser : List PlacedToken → Parsed α}
    {rule : List Token → α → Prop} {stops : Token → Prop} (finds : Finds parser rule stops)
    {used : List PlacedToken} {value : α} (derived : rule (used.map PlacedToken.token) value)
    (next : PlacedToken) (stop : stops next.token) (rest : List PlacedToken) :
    parser (used ++ next :: rest) = .ok (value, next :: rest) := by
  refine finds derived fun first isFirst => ?_
  cases isFirst
  exact stop

section
variable {operation? : Token → Option Operation} {operand : List PlacedToken → Parsed Expression}
  {rule : Rule}

theorem reads_chainTail (reads : Reads operand rule) {steps : Nat} {left value : Expression}
    {tokens rest : List PlacedToken}
    (found : chainTail operation? operand steps left tokens = .ok (value, rest)) :
    ∃ used, tokens = used ++ rest ∧ ∀ before, Chain operation? rule before left →
      Chain operation? rule (before ++ used.map PlacedToken.token) value := by
  induction steps generalizing left tokens with
  | zero =>
      cases found
      exact ⟨[], rfl, fun before chain => by simpa using chain⟩
  | succ steps ih =>
      cases tokens with
      | nil =>
          cases found
          exact ⟨[], rfl, fun before chain => by simpa using chain⟩
      | cons placed later =>
          rw [chainTail] at found
          split at found
          · cases found
            exact ⟨[], rfl, fun before chain => by simpa using chain⟩
          · rename_i operation isOperation
            split at found
            · cases found
            · rename_i right after operandFound
              obtain ⟨operandUsed, rfl, derived⟩ := reads operandFound
              obtain ⟨used, rfl, grows⟩ := ih found
              refine ⟨placed :: operandUsed ++ used, by simp, fun before chain => ?_⟩
              simpa using grows _ (chain.join isOperation derived)

theorem reads_chain (reads : Reads operand rule) :
    Reads (chain operation? operand) (Chain operation? rule) := by
  intro tokens rest value found
  rw [chain] at found
  split at found
  · cases found
  · rename_i left after operandFound
    obtain ⟨first, rfl, derived⟩ := reads operandFound
    obtain ⟨used, rfl, grows⟩ := reads_chainTail reads found
    exact ⟨first ++ used, by simp, by simpa using grows _ (.operand derived)⟩

theorem chainTail_of_stop {steps : Nat} {value : Expression} {rest : List PlacedToken}
    (stop : ∀ next ∈ rest.head?, operation? next.token = none) :
    chainTail operation? operand steps value rest = .ok (value, rest) := by
  cases steps with
  | zero => rfl
  | succ steps =>
      cases rest with
      | nil => rfl
      | cons next later =>
          have none : operation? next.token = none := stop next rfl
          rw [chainTail, none]

theorem chain_eq_chainTail {stops : Token → Prop} (finds : Finds operand rule stops)
    (joins : ∀ token, (operation? token).isSome → stops token) {used rest : List PlacedToken}
    {value : Expression} (derived : Chain operation? rule (used.map PlacedToken.token) value)
    (stop : ∀ next ∈ rest.head?, stops next.token) :
    ∃ steps, rest.length ≤ steps ∧
      chain operation? operand (used ++ rest) = chainTail operation? operand steps value rest := by
  generalize same : used.map PlacedToken.token = tokens at derived
  induction derived generalizing used rest with
  | operand first =>
      subst same
      exact ⟨rest.length, Nat.le_refl _, by rw [chain, finds first stop]⟩
  | @join before after sign operation left right _ isOperation last ih =>
      obtain ⟨front, tail, rfl, rfl, split⟩ := List.map_eq_append_iff.mp same
      obtain ⟨placed, back, rfl, rfl, rfl⟩ := List.map_eq_cons_iff.mp split
      have stopsHere : ∀ next ∈ (placed :: back ++ rest).head?, stops next.token := by
        intro next first
        cases first
        exact joins _ (by rw [isOperation]; rfl)
      obtain ⟨steps, enough, same⟩ := ih stopsHere rfl
      cases steps with
      | zero => simp at enough
      | succ steps =>
          rw [List.cons_append, List.length_cons, List.length_append] at enough
          refine ⟨steps, by omega, ?_⟩
          rw [List.append_assoc, same, List.cons_append, chainTail, isOperation]
          simp only [finds last stop]

theorem finds_chain {stops : Token → Prop} (finds : Finds operand rule stops)
    (joins : ∀ token, (operation? token).isSome → stops token) :
    Finds (chain operation? operand) (Chain operation? rule)
      fun token => stops token ∧ operation? token = none := by
  intro used rest value derived stop
  obtain ⟨steps, _, same⟩ :=
    chain_eq_chainTail finds joins derived fun next first => (stop next first).1
  rw [same, chainTail_of_stop fun next first => (stop next first).2]

end

section
variable {stop : Nat} {argument : List PlacedToken → Parsed Expression} {rule : Rule}

theorem reads_argumentsTail (reads : Reads argument rule) {steps : Nat}
    {done values : List Expression} {tokens rest : List PlacedToken}
    (found : argumentsTail stop argument steps done tokens = .ok (values, rest)) :
    ∃ used listed close, tokens = used ++ close :: rest ∧ close.token = .sign .rightParen ∧
      Listed rule (used.map PlacedToken.token) listed ∧ values = done.reverse ++ listed := by
  induction steps generalizing done tokens with
  | zero => cases found
  | succ steps ih =>
      rw [argumentsTail] at found
      split at found
      · cases found
      · rename_i value position after read
        obtain ⟨first, rfl, derived⟩ := reads read
        obtain ⟨used, listed, close, rfl, closes, more, rfl⟩ := ih found
        refine ⟨first ++ ⟨.sign .comma, position⟩ :: used, value :: listed, close, by simp, closes,
          ?_, by simp⟩
        simpa using Listed.more derived more
      · rename_i value position after read
        cases found
        obtain ⟨first, rfl, derived⟩ := reads read
        exact ⟨first, [value], ⟨.sign .rightParen, position⟩, rfl, rfl, .last derived, by simp⟩
      · cases found

theorem finds_argumentsTail {stops : Token → Prop} (finds : Finds argument rule stops)
    (comma : stops (.sign .comma)) (paren : stops (.sign .rightParen)) {steps : Nat}
    {done values : List Expression} {used rest : List PlacedToken} {close : PlacedToken}
    (closes : close.token = .sign .rightParen)
    (derived : Listed rule (used.map PlacedToken.token) values) (enough : used.length < steps) :
    argumentsTail stop argument steps done (used ++ close :: rest) =
      .ok (done.reverse ++ values, rest) := by
  obtain ⟨_, position⟩ := close
  subst closes
  generalize same : used.map PlacedToken.token = tokens at derived
  induction derived generalizing used steps done with
  | last only =>
      subst same
      have read := finds.before only ⟨.sign .rightParen, position⟩ paren rest
      cases steps with
      | zero => cases enough
      | succ steps =>
          rw [argumentsTail, read]
          simp
  | @more first later value values head _ ih =>
      obtain ⟨front, tail, rfl, rfl, split⟩ := List.map_eq_append_iff.mp same
      obtain ⟨placed, back, rfl, isComma, rfl⟩ := List.map_eq_cons_iff.mp split
      obtain ⟨_, commaPosition⟩ := placed
      subst isComma
      have read := finds.before head ⟨.sign .comma, commaPosition⟩ comma
        (back ++ ⟨.sign .rightParen, position⟩ :: rest)
      cases steps with
      | zero => cases enough
      | succ steps =>
          rw [List.length_append, List.length_cons] at enough
          have fewer : back.length < steps := by omega
          have later : argumentsTail stop argument steps (value :: done)
              (back ++ ⟨.sign .rightParen, position⟩ :: rest) =
                .ok ((value :: done).reverse ++ values, rest) := ih fewer rfl
          rw [List.append_assoc, List.cons_append, argumentsTail, read]
          simpa using later

def Opens (rule : Rule) : Prop :=
  ∀ ⦃tokens : List Token⦄ ⦃expression : Expression⦄, rule tokens expression →
    ∃ first rest, tokens = first :: rest ∧ first ≠ .sign .rightParen

theorem opens_chain {operation? : Token → Option Operation} (opens : Opens rule) :
    Opens (Chain operation? rule) := by
  intro tokens expression derived
  induction derived with
  | operand first => exact opens first
  | join _ _ _ ih =>
      obtain ⟨first, rest, rfl, other⟩ := ih
      exact ⟨first, _, rfl, other⟩

theorem opens_listed (opens : Opens rule) {tokens : List Token} {values : List Expression}
    (derived : Listed rule tokens values) :
    ∃ first rest, tokens = first :: rest ∧ first ≠ .sign .rightParen := by
  cases derived with
  | last only => exact opens only
  | more head _ =>
      obtain ⟨first, rest, rfl, other⟩ := opens head
      exact ⟨first, _, rfl, other⟩

theorem reads_arguments (reads : Reads argument rule) {tokens rest : List PlacedToken}
    {values : List Expression} (found : arguments stop argument tokens = .ok (values, rest)) :
    ∃ used close, tokens = used ++ close :: rest ∧ close.token = .sign .rightParen ∧
      Arguments rule (used.map PlacedToken.token) values := by
  rw [arguments.eq_def] at found
  split at found
  · rename_i position later
    cases found
    exact ⟨[], ⟨.sign .rightParen, position⟩, rfl, rfl, .none⟩
  · obtain ⟨used, listed, close, rfl, closes, derived, rfl⟩ := reads_argumentsTail reads found
    exact ⟨used, close, rfl, closes, .listed derived⟩

theorem finds_arguments {stops : Token → Prop} (finds : Finds argument rule stops)
    (opens : Opens rule) (comma : stops (.sign .comma)) (paren : stops (.sign .rightParen))
    {values : List Expression} {used rest : List PlacedToken} {close : PlacedToken}
    (closes : close.token = .sign .rightParen)
    (derived : Arguments rule (used.map PlacedToken.token) values) :
    arguments stop argument (used ++ close :: rest) = .ok (values, rest) := by
  generalize same : used.map PlacedToken.token = tokens at derived
  cases derived with
  | none =>
      obtain rfl := List.map_eq_nil_iff.mp same
      obtain ⟨_, position⟩ := close
      subst closes
      rfl
  | listed listed =>
      subst same
      obtain ⟨first, later, starts, other⟩ := opens_listed opens listed
      obtain ⟨placed, more, rfl, rfl, _⟩ := List.map_eq_cons_iff.mp starts
      have enough : (placed :: more).length < ((placed :: more) ++ close :: rest).length + 1 := by
        rw [List.length_append]
        omega
      have found : argumentsTail stop argument _ [] ((placed :: more) ++ close :: rest) =
          .ok ([].reverse ++ values, rest) :=
        finds_argumentsTail finds comma paren closes listed enough
      rw [arguments.eq_def]
      split
      · rename_i starts
        cases starts
        exact absurd rfl other
      · exact found

end

section
variable {word name : String}

theorem toList_math (bare : String) :
    ("Math." ++ bare).toList = 'M' :: 'a' :: 't' :: 'h' :: '.' :: bare.toList := by
  rw [String.toList_append]
  rfl

theorem bareName_math (bare : String) : bareName ("Math." ++ bare) = bare := by
  rw [bareName, toList_math]
  exact String.ofList_toList

theorem bareName_cases (name : String) :
    name = "Math." ++ bareName name ∨ bareName name = name := by
  rw [bareName]
  split
  · rename_i rest same
    refine Or.inl (String.toList_injective ?_)
    rw [same, toList_math, String.toList_ofList]
  · exact Or.inr rfl

theorem isWord_iff (noPoint : '.' ∉ word.toList) :
    IsWord word name ↔ Text.asciiLower (bareName name) = word := by
  constructor
  · rintro ⟨bare, same, rfl | rfl⟩
    · rcases bareName_cases name with prefixed | bare
      · rw [prefixed] at same
        refine absurd ?_ noPoint
        rw [← same, Text.asciiLower, toList_math, String.toList_ofList]
        simp
      · rw [bare, same]
    · rw [bareName_math, same]
  · intro same
    exact ⟨bareName name, same, (bareName_cases name).symm.imp Eq.symm id⟩

theorem isWord_pi_iff : IsWord "pi" name ↔ Text.sameLetters (bareName name) "pi" := by
  have lowered : "pi".toList.map Char.toLower = "pi".toList := by decide
  rw [isWord_iff (by decide), Text.sameLetters, lowered, beq_iff_eq, Text.asciiLower,
    ← String.toList_inj, String.toList_ofList]

theorem isWord_function_iff {function : MathFunction} :
    IsWord function.name name ↔ MathFunction.ofName? (bareName name) = some function := by
  have noPoint : '.' ∉ function.name.toList := by cases function <;> decide
  rw [isWord_iff noPoint, MathFunction.ofName?]
  constructor
  · intro same
    rw [same]
    cases function <;> decide
  · intro found
    have same := List.find?_some found
    exact (beq_iff_eq.mp same).symm

end

section
variable {stop : Nat} {unary : List PlacedToken → Parsed Expression} {rule : Rule}

/-- What may follow a unary: anything that is not taken for the start of a call. -/
def endsUnary (token : Token) : Prop := token ≠ .sign .leftParen

def endsAdditive (token : Token) : Prop :=
  (endsUnary token ∧ multiplicative? token = none) ∧ additive? token = none

theorem reads_additive (reads : Reads unary rule) : Reads (additive unary) (Additive rule) :=
  reads_chain (reads_chain reads)

theorem finds_additive (finds : Finds unary rule endsUnary) :
    Finds (additive unary) (Additive rule) endsAdditive := by
  refine finds_chain (finds_chain finds ?_) ?_
  · rintro token isOperation rfl
    cases isOperation
  · intro token isOperation
    refine ⟨?_, ?_⟩
    · rintro rfl
      cases isOperation
    · rw [additive?.eq_def] at isOperation
      split at isOperation
      · rfl
      · rfl
      · cases isOperation

theorem opens_additive (opens : Opens rule) : Opens (Additive rule) :=
  opens_chain (opens_chain opens)

theorem reads_primary (reads : Reads unary rule) : Reads (primary stop unary) (Primary rule) := by
  intro tokens rest value found
  rw [primary.eq_def] at found
  split at found
  · cases found
  · rename_i number position later
    cases found
    exact ⟨[⟨.number number, position⟩], rfl, .number number⟩
  · rename_i name position later
    split at found
    · rename_i opening inside
      rw [parseCall] at found
      split at found
      · cases found
      · rename_i function known
        split at found
        · cases found
        · rename_i values after read
          split at found
          · rename_i takes
            cases found
            obtain ⟨used, close, rfl, closes, derived⟩ :=
              reads_arguments (reads_additive reads) read
            refine ⟨⟨.name name, position⟩ :: ⟨.sign .leftParen, opening⟩ :: used ++ [close],
              by simp, ?_⟩
            simpa [closes] using Primary.call (isWord_function_iff.mpr known) derived takes
          · cases found
    · refine ⟨[⟨.name name, position⟩], ?_⟩
      split at found
      · rename_i isPi
        cases found
        exact ⟨rfl, .pi (isWord_pi_iff.mpr isPi)⟩
      · rename_i notPi
        cases found
        exact ⟨rfl, .key (mt isWord_pi_iff.mp notPi)⟩
  · rename_i opening inside
    split at found
    · cases found
    · rename_i inner position after read
      cases found
      obtain ⟨used, rfl, derived⟩ := reads_additive reads read
      refine ⟨⟨.sign .leftParen, opening⟩ :: used ++ [⟨.sign .rightParen, position⟩], by simp, ?_⟩
      simpa using Primary.group derived
    · cases found
  · cases found

theorem primary_name {name : String} {position : Nat} {rest : List PlacedToken}
    (stops : ∀ next ∈ rest.head?, endsUnary next.token) :
    primary stop unary (⟨.name name, position⟩ :: rest) =
      if Text.sameLetters (bareName name) "pi" then .ok (.number Expression.pi, rest)
      else .ok (.key name, rest) := by
  rw [primary.eq_def]
  dsimp only
  split
  · exact absurd rfl (stops _ rfl)
  · rfl

theorem finds_primary (stop : Nat) (finds : Finds unary rule endsUnary) (opens : Opens rule) :
    Finds (primary stop unary) (Primary rule) endsUnary := by
  intro used rest value derived stops
  have arguments := finds_additive finds
  have openArguments := opens_additive opens
  have comma : endsAdditive (.sign .comma) := ⟨⟨nofun, rfl⟩, rfl⟩
  have paren : endsAdditive (.sign .rightParen) := ⟨⟨nofun, rfl⟩, rfl⟩
  generalize same : used.map PlacedToken.token = tokens at derived
  cases derived with
  | number number =>
      obtain ⟨⟨_, position⟩, rfl, rfl⟩ := List.map_eq_singleton_iff.mp same
      rfl
  | @pi name isPi =>
      obtain ⟨⟨_, position⟩, rfl, rfl⟩ := List.map_eq_singleton_iff.mp same
      rw [List.singleton_append, primary_name stops, if_pos (isWord_pi_iff.mp isPi)]
  | @key name notPi =>
      obtain ⟨⟨_, position⟩, rfl, rfl⟩ := List.map_eq_singleton_iff.mp same
      rw [List.singleton_append, primary_name stops, if_neg (mt isWord_pi_iff.mpr notPi)]
  | @call name function inside values isName derived takes =>
      obtain ⟨⟨_, position⟩, _, rfl, rfl, afterName⟩ := List.map_eq_cons_iff.mp same
      obtain ⟨⟨_, opening⟩, _, rfl, rfl, afterOpening⟩ := List.map_eq_cons_iff.mp afterName
      obtain ⟨front, _, rfl, rfl, last⟩ := List.map_eq_append_iff.mp afterOpening
      obtain ⟨close, rfl, closes⟩ := List.map_eq_singleton_iff.mp last
      have read : Expression.arguments stop (additive unary) (front ++ close :: rest) =
          .ok (values, rest) :=
        finds_arguments arguments openArguments comma paren closes derived
      simp [primary, parseCall, isWord_function_iff.mp isName, read, takes]
  | @group inside expression derived =>
      obtain ⟨⟨_, opening⟩, _, rfl, rfl, afterOpening⟩ := List.map_eq_cons_iff.mp same
      obtain ⟨front, _, rfl, rfl, last⟩ := List.map_eq_append_iff.mp afterOpening
      obtain ⟨⟨_, position⟩, rfl, rfl⟩ := List.map_eq_singleton_iff.mp last
      have read := arguments.before derived ⟨.sign .rightParen, position⟩ paren rest
      simp [primary, read]

theorem Primary.starts {tokens : List Token} {expression : Expression}
    (derived : Primary rule tokens expression) :
    ∃ first rest, tokens = first :: rest ∧ first ≠ .sign .minus ∧ first ≠ .sign .plus ∧
      first ≠ .sign .rightParen := by
  cases derived with
  | number value => exact ⟨_, _, rfl, nofun, nofun, nofun⟩
  | pi isPi => exact ⟨_, _, rfl, nofun, nofun, nofun⟩
  | key notPi => exact ⟨_, _, rfl, nofun, nofun, nofun⟩
  | call isName inside takes => exact ⟨_, _, rfl, nofun, nofun, nofun⟩
  | group inside => exact ⟨_, _, rfl, nofun, nofun, nofun⟩

end

theorem opens_unary (depth : Nat) : Opens (Unary depth) := by
  intro tokens expression derived
  cases depth with
  | zero => cases derived
  | succ depth =>
      cases derived with
      | minus inner => exact ⟨_, _, rfl, nofun⟩
      | plus inner => exact ⟨_, _, rfl, nofun⟩
      | primary inner =>
          obtain ⟨first, rest, rfl, _, _, other⟩ := inner.starts
          exact ⟨first, rest, rfl, other⟩

theorem unary_succ (stop depth : Nat) (tokens : List PlacedToken) :
    unary stop (depth + 1) tokens = match tokens with
      | ⟨.sign .minus, _⟩ :: rest => match unary stop depth rest with
        | .error error => .error error
        | .ok (inner, rest) => .ok (.negate inner, rest)
      | ⟨.sign .plus, _⟩ :: rest => unary stop depth rest
      | tokens => primary stop (unary stop depth) tokens := by
  rcases tokens with - | ⟨⟨token, position⟩, rest⟩
  · rfl
  · cases token with
    | number value => rfl
    | name name => rfl
    | sign mark => cases mark <;> rfl

theorem reads_unary (stop depth : Nat) : Reads (unary stop depth) (Unary depth) := by
  induction depth with
  | zero =>
      intro tokens rest value found
      cases found
  | succ depth ih =>
      intro tokens rest value found
      rw [unary_succ] at found
      split at found
      · rename_i position later
        split at found
        · cases found
        · rename_i inner after read
          cases found
          obtain ⟨used, rfl, derived⟩ := ih read
          exact ⟨⟨.sign .minus, position⟩ :: used, rfl, .minus derived⟩
      · rename_i position later
        obtain ⟨used, rfl, derived⟩ := ih found
        exact ⟨⟨.sign .plus, position⟩ :: used, rfl, .plus derived⟩
      · obtain ⟨used, rfl, derived⟩ := reads_primary ih found
        exact ⟨used, rfl, .primary derived⟩

theorem finds_unary (stop depth : Nat) : Finds (unary stop depth) (Unary depth) endsUnary := by
  induction depth with
  | zero =>
      intro used rest value derived
      cases derived
  | succ depth ih =>
      intro used rest value derived stops
      generalize same : used.map PlacedToken.token = tokens at derived
      cases derived with
      | minus inner =>
          obtain ⟨⟨_, position⟩, later, rfl, rfl, rfl⟩ := List.map_eq_cons_iff.mp same
          rw [List.cons_append, unary_succ]
          simp only [ih inner stops]
      | plus inner =>
          obtain ⟨⟨_, position⟩, later, rfl, rfl, rfl⟩ := List.map_eq_cons_iff.mp same
          rw [List.cons_append, unary_succ]
          exact ih inner stops
      | primary inner =>
          subst same
          obtain ⟨_, _, starts, notMinus, notPlus, _⟩ := inner.starts
          have found := finds_primary stop ih (opens_unary depth) inner stops
          obtain ⟨placed, later, rfl, rfl, _⟩ := List.map_eq_cons_iff.mp starts
          rw [unary_succ]
          split
          · rename_i same
            cases same
            exact absurd rfl notMinus
          · rename_i same
            cases same
            exact absurd rfl notPlus
          · exact found

/-- Which tokens stand for which expression, with no more unaries open at a time than the limit. -/
def IsExpression : Rule := Additive (Unary nestingLimit)

theorem ofTokens_eq_ok_iff (stop : Nat) {tokens : List PlacedToken} {expression : Expression} :
    ofTokens stop tokens = .ok expression ↔
      IsExpression (tokens.map PlacedToken.token) expression := by
  constructor
  · intro found
    rw [ofTokens] at found
    split at found
    · cases found
    · rename_i read
      cases found
      obtain ⟨used, rfl, derived⟩ := reads_additive (reads_unary stop nestingLimit) read
      rw [List.append_nil]
      exact derived
    · cases found
  · intro derived
    have read : additive (unary stop nestingLimit) (tokens ++ []) = .ok (expression, []) :=
      finds_additive (finds_unary stop nestingLimit) derived nofun
    rw [List.append_nil] at read
    rw [ofTokens, read]

theorem IsExpression.unique {tokens : List Token} {expression other : Expression}
    (derived : IsExpression tokens expression) (also : IsExpression tokens other) :
    expression = other := by
  have positions : (tokens.map fun token => PlacedToken.mk token 0).map PlacedToken.token =
      tokens := by
    simp [Function.comp_def]
  rw [← positions] at derived also
  have found := (ofTokens_eq_ok_iff 0).mpr derived
  rw [(ofTokens_eq_ok_iff 0).mpr also] at found
  cases found
  rfl

end Expression

end Scouting

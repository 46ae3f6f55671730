import Mathlib.Data.List.Forall2
import Scouting.Expression.Basic
import Scouting.Reading

/-!
Runs that agree: computations over possibly different states that, started from related states, come
to the same outcome and to related states. A failure that they come to has to be an allowed one.
-/

namespace Scouting

def StatError.IsMissing : StatError → Prop
  | .missingOperand _ => True
  | _ => False

/-- The failures that are allowed where operands may be missing. -/
def orMissing (allowed : StatError → Prop) (error : StatError) : Prop :=
  error.IsMissing ∨ allowed error

theorem mapM_eq_pure {m : Type → Type} [Monad m] [LawfulMonad m] {ι α : Type} {action : ι → m α}
    {value : ι → α} {items : List ι} (each : ∀ item ∈ items, action item = pure (value item)) :
    items.mapM action = pure (items.map value) := by
  induction items with
  | nil => rfl
  | cons first rest ih =>
      rw [List.mapM_cons, each first List.mem_cons_self, pure_bind,
        ih fun item member => each item (List.mem_cons_of_mem _ member), pure_bind, List.map_cons]

section
variable {ε σ α β : Type}

theorem run_bind (action : ExceptT ε (StateM σ) α) (next : α → ExceptT ε (StateM σ) β)
    (state : σ) :
    (action >>= next).run.run state =
      match action.run.run state with
      | (.ok value, after) => (next value).run.run after
      | (.error error, after) => (.error error, after) := by
  rw [ExceptT.run_bind, StateT.run_bind]
  change (match action.run.run state with | (outcome, after) => _) = _
  rcases action.run.run state with ⟨_ | _, after⟩ <;> rfl

theorem run_bind_eq_ok {action : ExceptT ε (StateM σ) α} {next : α → ExceptT ε (StateM σ) β}
    {state after : σ} {result : β} (ran : (action >>= next).run.run state = (.ok result, after)) :
    ∃ value between, action.run.run state = (.ok value, between) ∧
      (next value).run.run between = (.ok result, after) := by
  rw [run_bind] at ran
  rcases first : action.run.run state with ⟨_ | value, between⟩
  · rw [first] at ran
    cases ran
  · rw [first] at ran
    exact ⟨value, between, rfl, ran⟩

theorem run_tryCatch (action : ExceptT ε (StateM σ) α) (handle : ε → ExceptT ε (StateM σ) α)
    (state : σ) :
    (tryCatch action handle).run.run state =
      match action.run.run state with
      | (.ok value, after) => (.ok value, after)
      | (.error error, after) => (handle error).run.run after := by
  rw [ExceptT.run_tryCatch, StateT.run_bind]
  rcases action.run.run state with ⟨_ | _, after⟩ <;> rfl

end

/-- Runs that agree: from related states they come to the same outcome and to related states, and
fail in allowed ways only. -/
def Agree {σ τ α : Type} (related : σ → τ → Prop) (allowed : StatError → Prop) (left : Run σ α)
    (right : Run τ α) : Prop :=
  ∀ state other, related state other → ∃ outcome after otherAfter,
    left.run.run state = (outcome, after) ∧ right.run.run other = (outcome, otherAfter) ∧
      related after otherAfter ∧ ∀ error, outcome = .error error → allowed error

namespace Agree

variable {σ τ α β : Type} {related : σ → τ → Prop} {allowed : StatError → Prop}

theorem pure (value : α) :
    Agree related allowed (Pure.pure value : Run σ α) (Pure.pure value : Run τ α) := by
  intro state other relation
  exact ⟨.ok value, state, other, rfl, rfl, relation, fun _ same => by cases same⟩

theorem throw {error : StatError} (may : allowed error) :
    Agree related allowed (throw error : Run σ α) (throw error : Run τ α) := by
  intro state other relation
  exact ⟨.error error, state, other, rfl, rfl, relation, fun _ same => by cases same; exact may⟩

theorem missing (reason : String) :
    Agree related (orMissing allowed) (MonadExcept.throw (.missingOperand reason) : Run σ α)
      (MonadExcept.throw (.missingOperand reason) : Run τ α) :=
  throw (Or.inl trivial)

theorem same (action : Run σ α) : Agree Eq (fun _ => True) action action := by
  rintro state _ rfl
  exact ⟨_, _, _, rfl, rfl, rfl, fun _ _ => trivial⟩

theorem eq {left right : Run σ α} (agree : Agree Eq allowed left right) : left = right := by
  refine ExceptT.ext (StateT.ext fun state => ?_)
  obtain ⟨outcome, after, _, ran, otherRan, rfl, _⟩ := agree state state rfl
  exact ran.trans otherRan.symm

theorem mono {more : StatError → Prop} {left : Run σ α} {right : Run τ α}
    (agree : Agree related allowed left right) (weaker : ∀ error, allowed error → more error) :
    Agree related more left right := by
  intro state other relation
  obtain ⟨outcome, after, otherAfter, ran, otherRan, relationAfter, may⟩ :=
    agree state other relation
  exact ⟨outcome, after, otherAfter, ran, otherRan, relationAfter,
    fun error same => weaker error (may error same)⟩

theorem weaken {left : Run σ α} {right : Run τ α} (agree : Agree related allowed left right) :
    Agree related (orMissing allowed) left right :=
  agree.mono fun _ => Or.inr

theorem bind {left : Run σ α} {right : Run τ α} {next : α → Run σ β} {otherNext : α → Run τ β}
    (first : Agree related allowed left right)
    (later : ∀ value, Agree related allowed (next value) (otherNext value)) :
    Agree related allowed (left >>= next) (right >>= otherNext) := by
  intro state other relation
  obtain ⟨outcome, after, otherAfter, ran, otherRan, relationAfter, may⟩ :=
    first state other relation
  rw [run_bind, run_bind, ran, otherRan]
  cases outcome with
  | error error =>
      exact ⟨.error error, after, otherAfter, rfl, rfl, relationAfter, fun other same => by
        cases same
        exact may error rfl⟩
  | ok value => exact later value after otherAfter relationAfter

theorem map {left : Run σ α} {right : Run τ α} (agree : Agree related allowed left right)
    (change : α → β) : Agree related allowed (change <$> left) (change <$> right) := by
  rw [map_eq_pure_bind, map_eq_pure_bind]
  exact agree.bind fun value => pure (change value)

theorem mapM_of_forall₂ {ι κ : Type} {same : ι → κ → Prop} {action : ι → Run σ α}
    {otherAction : κ → Run τ α} {items : List ι} {others : List κ}
    (pairs : List.Forall₂ same items others)
    (each : ∀ item other, same item other →
      Agree related allowed (action item) (otherAction other)) :
    Agree related allowed (items.mapM action) (others.mapM otherAction) := by
  induction pairs with
  | nil => exact pure []
  | cons first _ ih =>
      rw [List.mapM_cons, List.mapM_cons]
      exact (each _ _ first).bind fun value => ih.bind fun values => pure (value :: values)

theorem mapM {ι : Type} {action : ι → Run σ α} {otherAction : ι → Run τ α} {items : List ι}
    (each : ∀ item ∈ items, Agree related allowed (action item) (otherAction item)) :
    Agree related allowed (items.mapM action) (items.mapM otherAction) := by
  have pairs : List.Forall₂ (fun item other => item = other ∧ item ∈ items) items items :=
    List.forall₂_same.mpr fun _ member => ⟨rfl, member⟩
  refine mapM_of_forall₂ pairs ?_
  rintro item _ ⟨rfl, member⟩
  exact each item member

section
variable {lookup : String → Run σ Float} {otherLookup : String → Run τ Float}

theorem finite (value : Float) :
    Agree related (orMissing allowed) (Expression.finite value : Run σ Float)
      (Expression.finite value : Run τ Float) := by
  simp only [Expression.finite]
  split
  · exact pure value
  · exact missing _

theorem combine (operation : Operation) (left right : Float) :
    Agree related (orMissing allowed) (Expression.combine operation left right : Run σ Float)
      (Expression.combine operation left right : Run τ Float) := by
  cases operation with
  | add => exact pure _
  | subtract => exact pure _
  | multiply => exact pure _
  | divide =>
      simp only [Expression.combine]
      split
      · exact missing _
      · exact pure _
  | remainder =>
      simp only [Expression.combine]
      split
      · exact missing _
      · exact pure _

mutual

theorem eval (expression : Expression)
    (names : ∀ name ∈ expression.names,
      Agree related (orMissing allowed) (lookup name) (otherLookup name)) :
    Agree related (orMissing allowed) (expression.eval lookup) (expression.eval otherLookup) := by
  cases expression with
  | number value =>
      simp only [Expression.eval]
      exact finite value
  | key name =>
      simp only [Expression.eval]
      exact (names name (by simp [Expression.names])).bind fun value => finite value
  | negate inner =>
      simp only [Expression.eval]
      exact (eval inner fun name member => names name (by simpa [Expression.names] using member)).bind
        fun value => finite (-value)
  | binary operation left right =>
      simp only [Expression.eval]
      have first := eval left fun name member =>
        names name (by simp [Expression.names, member])
      have second := eval right fun name member =>
        names name (by simp [Expression.names, member])
      exact first.bind fun leftValue => second.bind fun rightValue =>
        (combine operation leftValue rightValue).bind fun value => finite value
  | call function arguments =>
      simp only [Expression.eval]
      exact (evalAll arguments fun name member =>
        names name (by simpa [Expression.names] using member)).bind
          fun values => finite (function.apply values)

theorem evalAll (arguments : List Expression)
    (names : ∀ name ∈ Expression.namesOfAll arguments,
      Agree related (orMissing allowed) (lookup name) (otherLookup name)) :
    Agree related (orMissing allowed) (Expression.evalAll lookup arguments)
      (Expression.evalAll otherLookup arguments) := by
  cases arguments with
  | nil =>
      simp only [Expression.evalAll]
      exact pure []
  | cons first rest =>
      simp only [Expression.evalAll]
      have head := eval first fun name member =>
        names name (by simp [Expression.namesOfAll, member])
      have tail := evalAll rest fun name member =>
        names name (by simp [Expression.namesOfAll, member])
      exact head.bind fun value => tail.bind fun values => pure (value :: values)

end

end

end Agree

end Scouting

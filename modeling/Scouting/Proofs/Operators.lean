import Scouting.Proofs.Agreement
import Scouting.Proofs.Compilation
import Scouting.Stat.Evaluation

/-!
What a stat comes to depends only on what its plan reads: in two environments that agree on the keys
of the plan, at subjects that count as the same, every operator comes to the same outcome. A name
that the plan does not bind fails alike in both.
-/

namespace Scouting

/-- Environments with sources that cannot be told apart by reading some keys, at subjects that count
as the same. -/
structure Aligned {σ τ : Type} (related : σ → τ → Prop) (allowed : StatError → Prop)
    (same : Subject → Subject → Prop) (left right : Environment) (fromLeft : Source σ)
    (fromRight : Source τ) (keys : List Key) : Prop where
  observed : ∀ key ∈ keys, ∀ subject other, same subject other →
    Agree related allowed (left.observe fromLeft key subject) (right.observe fromRight key other)
  aggregated : ∀ key ∈ keys, ∀ values function,
    Agree related allowed (left.catalog.aggregate key values function)
      (right.catalog.aggregate key values function)
  functions : ∀ key ∈ keys, left.defaultFunction key = right.defaultFunction key
  fallback : left.fallback = right.fallback
  team : ∀ subject other, same subject other → subject.team = other.team
  isMatch : ∀ subject other, same subject other → subject.isMatch = other.isMatch
  played : ∀ subject other, same subject other → List.Forall₂ same
    (left.snapshot.matchSubjects subject.team) (right.snapshot.matchSubjects other.team)

/-- Environments that cannot be told apart by looking at all teams. -/
structure AlignedTeams (same : Subject → Subject → Prop) (left right : Environment) : Prop where
  teams : left.snapshot.teams = right.snapshot.teams
  whole : ∀ team, same (Subject.ofTeam team) (Subject.ofTeam team)

theorem Agree.orNone {σ τ α : Type} {related : σ → τ → Prop} {allowed : StatError → Prop}
    {action : Run σ α} {otherAction : Run τ α}
    (agree : Agree related (orMissing allowed) action otherAction) :
    Agree related allowed (Environment.orNone action) (Environment.orNone otherAction) := by
  intro state other relation
  obtain ⟨outcome, after, otherAfter, ran, otherRan, relationAfter, may⟩ :=
    agree.map some state other relation
  rw [Environment.orNone, Environment.orNone, run_tryCatch, run_tryCatch, ran, otherRan]
  rcases outcome with (text | path | reason) | value
  · exact ⟨.error (.unknownKey text), after, otherAfter, rfl, rfl, relationAfter,
      fun error isError => by cases isError; exact (may _ rfl).resolve_left id⟩
  · exact ⟨.error (.circular path), after, otherAfter, rfl, rfl, relationAfter,
      fun error isError => by cases isError; exact (may _ rfl).resolve_left id⟩
  · exact ⟨.ok none, after, otherAfter, rfl, rfl, relationAfter, nofun⟩
  · exact ⟨.ok value, after, otherAfter, rfl, rfl, relationAfter, nofun⟩

namespace Aligned

variable {σ τ : Type} {related : σ → τ → Prop} {allowed : StatError → Prop}
  {same : Subject → Subject → Prop} {left right : Environment} {fromLeft : Source σ}
  {fromRight : Source τ} {keys : List Key}

section
variable (aligned : Aligned related allowed same left right fromLeft fromRight keys)
include aligned

theorem scalarWith {key : Key} (member : key ∈ keys) {subject other : Subject}
    (place : same subject other) (function : AggregateFunction) :
    Agree related (orMissing allowed) (left.scalarWith fromLeft key subject function)
      (right.scalarWith fromRight key other function) := by
  refine (aligned.observed key member subject other place).weaken.bind fun observed => ?_
  refine (aligned.aggregated key member [observed] function).weaken.bind fun aggregate => ?_
  cases aggregate.reading with
  | some number => exact Agree.pure number
  | none => exact Agree.missing _

theorem scalar {key : Key} (member : key ∈ keys) {subject other : Subject}
    (place : same subject other) :
    Agree related (orMissing allowed) (left.scalar fromLeft key subject)
      (right.scalar fromRight key other) := by
  rw [Environment.scalar, Environment.scalar, aligned.functions key member]
  exact aligned.scalarWith member place _

theorem runMath (expression : Expression) {bindings : List (String × Key)}
    (reads : ∀ key ∈ bindings.map (·.2), key ∈ keys)
    (bound : (Plan.math expression bindings).Binds ∨ ∀ name, allowed (.unknownKey name))
    {subject other : Subject} (place : same subject other) :
    Agree related (orMissing allowed) (left.runMath fromLeft expression bindings subject)
      (right.runMath fromRight expression bindings other) := by
  refine Agree.eval expression fun name occurs => ?_
  cases look : bindings.lookup name with
  | some key =>
      obtain ⟨before, after, rfl, _⟩ := List.lookup_eq_some_iff.mp look
      exact aligned.scalar (reads key (by simp)) place
  | none =>
      rcases bound with binds | may
      · obtain ⟨key, _, present⟩ := binds name occurs
        cases look.symm.trans present
      · exact Agree.throw (Or.inr (may name))

theorem runSum {read : List Key} (reads : ∀ key ∈ read, key ∈ keys) {subject other : Subject}
    (place : same subject other) :
    Agree related (orMissing allowed) (left.runSum fromLeft read subject)
      (right.runSum fromRight read other) :=
  (Agree.mapM fun key member => aligned.scalar (reads key member) place).bind
    fun numbers => Agree.pure (Plan.total numbers)

theorem runRatio {numerator denominator : Key} (topRead : numerator ∈ keys)
    (bottomRead : denominator ∈ keys) (percent : Bool) {subject other : Subject}
    (place : same subject other) :
    Agree related (orMissing allowed) (left.runRatio fromLeft numerator denominator percent subject)
      (right.runRatio fromRight numerator denominator percent other) := by
  refine (aligned.scalarWith topRead place .total).bind fun top => ?_
  refine (aligned.scalarWith bottomRead place .total).bind fun bottom => ?_
  generalize (if percent then top + bottom else bottom) = divisor
  dsimp only
  split
  · exact Agree.missing _
  · exact Agree.pure _

theorem runExtreme (extreme : Extreme) {read : List Key} (reads : ∀ key ∈ read, key ∈ keys)
    {subject other : Subject} (place : same subject other) :
    Agree related (orMissing allowed) (left.runExtreme fromLeft extreme read subject)
      (right.runExtreme fromRight extreme read other) := by
  refine Agree.bind (Agree.mapM fun key member => ?_) fun readings => ?_
  · refine (aligned.observed key (reads key member) subject other place).weaken.bind
      fun observed => ?_
    exact (aligned.aggregated key (reads key member) [observed] _).weaken.bind
      fun aggregate => Agree.pure aggregate.reading
  · split
    · exact Agree.pure _
    · exact Agree.missing _

theorem runMap {key : Key} (member : key ∈ keys) (table : List Float) (scale offset : Float)
    {subject other : Subject} (place : same subject other) :
    Agree related (orMissing allowed) (left.runMap fromLeft key table scale offset subject)
      (right.runMap fromRight key table scale offset other) := by
  refine (aligned.observed key member subject other place).weaken.bind fun observed => ?_
  dsimp only
  split
  · exact Agree.pure _
  · exact Agree.missing _

theorem passes {condition : Key} (member : condition ∈ keys) (comparison : Comparison)
    (threshold : Float) {subject other : Subject} (place : same subject other) :
    Agree related (orMissing allowed)
      (left.passes fromLeft condition comparison threshold subject)
      (right.passes fromRight condition comparison threshold other) :=
  (aligned.scalarWith member place .mean).bind
    fun number => Agree.pure (comparison.holds number threshold)

theorem kept {key : Option Key} {condition : Key} (member : condition ∈ keys)
    (reads : ∀ inner ∈ key, inner ∈ keys) (comparison : Comparison) (threshold : Float)
    {subject other : Subject} (place : same subject other) :
    Agree related allowed (left.kept fromLeft key condition comparison threshold subject)
      (right.kept fromRight key condition comparison threshold other) := by
  refine (aligned.passes member comparison threshold place).orNone.bind fun holds => ?_
  split
  · exact Agree.pure _
  · rename_i inner
    exact (aligned.observed inner (reads inner rfl) subject other place).bind
      fun observed => Agree.pure (some observed)
  · exact Agree.pure none

theorem runFilterInMatch {key : Option Key} {condition : Key} (member : condition ∈ keys)
    (reads : ∀ inner ∈ key, inner ∈ keys) (comparison : Comparison) (threshold : Float)
    {subject other : Subject} (place : same subject other) :
    Agree related (orMissing allowed)
      (left.runFilterInMatch fromLeft key condition comparison threshold subject)
      (right.runFilterInMatch fromRight key condition comparison threshold other) := by
  refine (aligned.passes member comparison threshold place).bind fun holds => ?_
  split
  · exact Agree.pure _
  · rename_i inner
    exact aligned.scalar (reads inner rfl) place
  · exact Agree.missing _

theorem runFilterForTeam (function : Option AggregateFunction) {key : Option Key} {condition : Key}
    (member : condition ∈ keys) (reads : ∀ inner ∈ key, inner ∈ keys) (comparison : Comparison)
    (threshold : Float) {subject other : Subject} (place : same subject other) :
    Agree related (orMissing allowed)
      (left.runFilterForTeam fromLeft function key condition comparison threshold subject.team)
      (right.runFilterForTeam fromRight function key condition comparison threshold
        other.team) := by
  have subjects := aligned.played subject other place
  have none : (left.snapshot.matchSubjects subject.team).isEmpty =
      (right.snapshot.matchSubjects other.team).isEmpty := by
    rw [Bool.eq_iff_iff, List.isEmpty_iff_length_eq_zero, List.isEmpty_iff_length_eq_zero,
      subjects.length_eq]
  simp only [Environment.runFilterForTeam, none]
  split
  · exact Agree.missing _
  · refine Agree.bind ((Agree.mapM_of_forall₂ subjects fun _ _ place =>
      aligned.kept member reads comparison threshold place).weaken) fun values => ?_
    cases key with
    | none => exact Agree.pure _
    | some inner =>
        rw [aligned.fallback]
        refine (aligned.aggregated inner (reads inner rfl) _ _).weaken.bind fun aggregate => ?_
        cases aggregate.reading with
        | some number => exact Agree.pure number
        | none => exact Agree.missing _

theorem runWeightedRank (everyone : AlignedTeams same left right) {terms : List WeightedTerm}
    (reads : ∀ term ∈ terms, term.key ∈ keys) {subject other : Subject}
    (place : same subject other) :
    Agree related (orMissing allowed) (left.runWeightedRank fromLeft terms subject.team)
      (right.runWeightedRank fromRight terms other.team) := by
  rw [aligned.team subject other place]
  refine Agree.bind (Agree.mapM fun term member => ?_) fun standings => ?_
  · rw [Environment.standing, Environment.standing, everyone.teams]
    refine Agree.bind (Agree.mapM fun team _ => ?_) fun readings => ?_
    · exact (aligned.scalar (reads term member) (everyone.whole team)).orNone.weaken.bind
        fun number => Agree.pure (team, number)
    · split
      · exact Agree.pure _
      · exact Agree.missing _
  · split
    · exact Agree.pure _
    · exact Agree.missing _

theorem runRepetitions {cycle : Key} (member : cycle ∈ keys)
    (conditions : List (KeyInfo × Float)) (sum denominator : Option KeyInfo)
    {subject other : Subject} (place : same subject other) :
    Agree related (orMissing allowed)
      (left.runRepetitions fromLeft cycle conditions sum denominator subject)
      (right.runRepetitions fromRight cycle conditions sum denominator other) := by
  refine (aligned.observed cycle member subject other place).weaken.bind fun observed => ?_
  dsimp only
  split
  · exact Agree.missing _
  · cases denominator with
    | none => exact Agree.pure _
    | some info =>
        dsimp only
        split
        · exact Agree.missing _
        · exact Agree.pure _

end

theorem run {stat : Stat}
    (aligned : Aligned related allowed same left right fromLeft fromRight stat.plan.keys)
    (bound : stat.plan.Binds ∨ ∀ name, allowed (.unknownKey name))
    (everyone : ∀ terms, stat.plan = .weightedRank terms → AlignedTeams same left right)
    {subject other : Subject} (place : same subject other) :
    Agree related (orMissing allowed) (left.run fromLeft stat subject)
      (right.run fromRight stat other) := by
  obtain ⟨definition, plan⟩ := stat
  dsimp only at aligned bound everyone
  simp only [Environment.run]
  cases plan with
  | math expression bindings =>
      exact aligned.runMath expression (fun _ member => member) bound place
  | sum keys => exact aligned.runSum (fun _ member => member) place
  | ratio numerator denominator =>
      exact aligned.runRatio (by simp [Plan.keys]) (by simp [Plan.keys]) false place
  | percent numerator denominator =>
      exact aligned.runRatio (by simp [Plan.keys]) (by simp [Plan.keys]) true place
  | extreme extreme keys => exact aligned.runExtreme extreme (fun _ member => member) place
  | map key table scale offset =>
      exact aligned.runMap (by simp [Plan.keys]) table scale offset place
  | filter key condition comparison threshold =>
      have conditionRead : condition ∈ (Plan.filter key condition comparison threshold).keys := by
        simp [Plan.keys]
      have keyRead : ∀ inner ∈ key,
          inner ∈ (Plan.filter key condition comparison threshold).keys := by
        intro inner member
        simp [Plan.keys, Option.mem_def.mp member]
      dsimp only
      rw [← aligned.isMatch subject other place]
      split
      · exact aligned.runFilterInMatch conditionRead keyRead comparison threshold place
      · exact aligned.runFilterForTeam _ conditionRead keyRead comparison threshold place
  | weightedRank terms =>
      exact aligned.runWeightedRank (everyone terms rfl)
        (fun term member => List.mem_map_of_mem member) place
  | repetitions cycle conditions sum denominator =>
      exact aligned.runRepetitions (by simp [Plan.keys]) conditions sum denominator place

theorem settle {stat : Stat}
    (aligned : Aligned related allowed same left right fromLeft fromRight stat.plan.keys)
    (bound : stat.plan.Binds ∨ ∀ name, allowed (.unknownKey name))
    (everyone : ∀ terms, stat.plan = .weightedRank terms → AlignedTeams same left right)
    {subject other : Subject} (place : same subject other) :
    Agree related allowed (left.settle fromLeft stat subject)
      (right.settle fromRight stat other) := by
  refine (aligned.run bound everyone place).orNone.bind fun number => ?_
  cases number with
  | some number => exact Agree.pure _
  | none => exact Agree.pure _

theorem compute {stat : Stat}
    (aligned : Aligned related allowed same left right fromLeft fromRight stat.plan.keys)
    (bound : stat.plan.Binds ∨ ∀ name, allowed (.unknownKey name))
    (everyone : ∀ terms, stat.plan = .weightedRank terms → AlignedTeams same left right)
    {subject other : Subject} (place : same subject other)
    (whole : same subject.toTeam other.toTeam) :
    Agree related allowed (left.compute fromLeft stat subject)
      (right.compute fromRight stat other) := by
  simp only [Environment.compute]
  split
  · exact aligned.settle bound everyone whole
  · rw [← aligned.isMatch subject other place]
    split
    · exact aligned.settle bound everyone place
    · exact (Agree.mapM_of_forall₂ (aligned.played subject other place) fun _ _ inMatch =>
        aligned.settle bound everyone inMatch).map Value.list

end Aligned

end Scouting

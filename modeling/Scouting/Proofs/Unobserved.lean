import Scouting.Proofs.TeamReads

/-!
No data in, no data out. Where nothing is observed of any key that a stat reads, the stat is
missing. There is one exception: a filter that counts the matches of a team counts none of them as
zero.
-/

namespace Scouting

/-- Does a run fail for want of an operand, and do nothing else? -/
def Misses {σ α : Type} (action : Run σ α) : Prop :=
  ∃ reason, action = throw (.missingOperand reason)

namespace Misses

variable {σ α β ι : Type}

theorem throw (reason : String) : Misses (throw (.missingOperand reason) : Run σ α) := ⟨reason, rfl⟩

theorem bind {action : Run σ α} (misses : Misses action) (next : α → Run σ β) :
    Misses (action >>= next) := by
  obtain ⟨reason, rfl⟩ := misses
  exact ⟨reason, rfl⟩

theorem mapM {action : ι → Run σ α} {items : List ι} (nonempty : items ≠ [])
    (each : ∀ item ∈ items, Misses (action item)) : Misses (items.mapM action) := by
  cases items with
  | nil => exact absurd rfl nonempty
  | cons first rest =>
      rw [List.mapM_cons]
      exact (each first List.mem_cons_self).bind _

theorem orNone {action : Run σ α} (misses : Misses action) :
    Environment.orNone action = pure none := by
  obtain ⟨reason, rfl⟩ := misses
  rfl

end Misses

namespace Expression

variable {σ : Type} {lookup : String → Run σ Float}

/-- Evaluation comes to a value or misses an operand, and it misses one if there is a name. -/
def Strict {α : Type} (names : List String) (action : Run σ α) : Prop :=
  Misses action ∨ names = [] ∧ ∃ value, action = pure value

theorem strict_finite (value : Float) : Strict [] (finite value : Run σ Float) := by
  rw [finite]
  split
  · exact Or.inr ⟨rfl, value, rfl⟩
  · exact Or.inl (Misses.throw _)

theorem strict_combine (operation : Operation) (left right : Float) :
    Strict [] (combine operation left right : Run σ Float) := by
  cases operation with
  | add => exact Or.inr ⟨rfl, _, rfl⟩
  | subtract => exact Or.inr ⟨rfl, _, rfl⟩
  | multiply => exact Or.inr ⟨rfl, _, rfl⟩
  | divide =>
      rw [combine]
      split
      · exact Or.inl (Misses.throw _)
      · exact Or.inr ⟨rfl, _, rfl⟩
  | remainder =>
      rw [combine]
      split
      · exact Or.inl (Misses.throw _)
      · exact Or.inr ⟨rfl, _, rfl⟩

theorem Strict.bind {α β : Type} {names more : List String} {action : Run σ α}
    {next : α → Run σ β} (first : Strict names action) (later : ∀ value, Strict more (next value)) :
    Strict (names ++ more) (action >>= next) := by
  rcases first with misses | ⟨rfl, value, rfl⟩
  · exact Or.inl (misses.bind next)
  · rw [pure_bind]
    exact later value

mutual

theorem strict_eval (expression : Expression)
    (missing : ∀ name ∈ expression.names, Misses (lookup name)) :
    Strict expression.names (expression.eval lookup) := by
  cases expression with
  | number value =>
      simp only [names, eval]
      exact strict_finite value
  | key name =>
      simp only [eval]
      exact Or.inl ((missing name (by simp [names])).bind _)
  | negate inner =>
      simp only [names, eval]
      have operand := strict_eval inner fun name member =>
        missing name (by simpa [names] using member)
      simpa using operand.bind fun value => strict_finite (-value)
  | binary operation left right =>
      simp only [names, eval]
      have first := strict_eval left fun name member => missing name (by simp [names, member])
      have second := strict_eval right fun name member => missing name (by simp [names, member])
      refine first.bind fun leftValue => ?_
      simpa using second.bind fun rightValue =>
        (strict_combine operation leftValue rightValue).bind fun value => strict_finite value
  | call function arguments =>
      simp only [names, eval]
      have operands := strict_evalAll arguments fun name member =>
        missing name (by simpa [names] using member)
      simpa using operands.bind fun values => strict_finite (function.apply values)

theorem strict_evalAll (arguments : List Expression)
    (missing : ∀ name ∈ namesOfAll arguments, Misses (lookup name)) :
    Strict (namesOfAll arguments) (evalAll lookup arguments) := by
  cases arguments with
  | nil =>
      simp only [namesOfAll, evalAll]
      exact Or.inr ⟨rfl, [], rfl⟩
  | cons first rest =>
      simp only [namesOfAll, evalAll]
      have head := strict_eval first fun name member => missing name (by simp [namesOfAll, member])
      have tail := strict_evalAll rest fun name member =>
        missing name (by simp [namesOfAll, member])
      refine head.bind fun value => ?_
      simpa using tail.bind fun values =>
        (Or.inr ⟨rfl, value :: values, rfl⟩ : Strict [] (pure (value :: values) : Run σ _))

end

end Expression

theorem filterMap_none {ι α : Type} (items : List ι) :
    (items.map fun _ => (none : Option α)).filterMap id = [] := by
  simp

theorem Aggregation.numeric_nil (function : AggregateFunction) :
    numeric function [] = .noData := by
  cases function <;> rfl

theorem KeyInfo.pool_of_flatten_eq_nil (info : KeyInfo) (key : Key) {values : List Value}
    (none : Value.flatten values = []) (function : AggregateFunction) :
    info.pool key values function = .noData := by
  rw [pool]
  split
  · rw [aggregateOption, none]
    exact Aggregation.numeric_nil function
  · simp only [aggregate, none]
    rfl

namespace Environment

def Unobserved (environment : Environment) (key : Key) (subject : Subject) : Prop :=
  ∃ value, environment.observe environment.answers key subject = pure value ∧
    Value.flatten [value] = []

variable {environment : Environment}

theorem exists_observed {key : Key} (known : environment.catalog.Knows key) (subject : Subject) :
    ∃ value, environment.observe environment.answers key subject = pure value := by
  obtain ⟨info, resolved⟩ := known
  simp only [observe, Catalog.read, resolved, ofExcept, pure_bind]
  cases key.space with
  | result => exact ⟨_, rfl⟩
  | official => exact ⟨_, rfl⟩
  | identity => exact ⟨_, rfl⟩
  | smart => exact ⟨_, rfl⟩

theorem aggregate_of_flatten_eq_nil {σ : Type} {key : Key}
    (known : environment.catalog.Knows key) {values : List Value}
    (none : Value.flatten values = []) (function : AggregateFunction) :
    environment.catalog.aggregate key values function = (pure .noData : Run σ Aggregate) := by
  obtain ⟨info, resolved⟩ := known
  rw [Catalog.aggregate_eq resolved, info.pool_of_flatten_eq_nil key none]

section
variable {key : Key} {subject : Subject} (known : environment.catalog.Knows key)
include known

theorem exists_scalar (function : AggregateFunction) :
    Misses (environment.scalarWith environment.answers key subject function) ∨
      ∃ number, environment.scalarWith environment.answers key subject function = pure number := by
  obtain ⟨value, observed⟩ := exists_observed known subject
  obtain ⟨info, resolved⟩ := known
  rw [scalarWith, observed, pure_bind, Catalog.aggregate_eq resolved, pure_bind]
  cases (info.pool key [value] function).reading with
  | some number => exact Or.inr ⟨number, rfl⟩
  | none => exact Or.inl (Misses.throw _)

variable (unobserved : environment.Unobserved key subject)
include unobserved

theorem misses_scalarWith (function : AggregateFunction) :
    Misses (environment.scalarWith environment.answers key subject function) := by
  obtain ⟨value, observed, none⟩ := unobserved
  rw [scalarWith, observed, pure_bind, aggregate_of_flatten_eq_nil known none, pure_bind]
  exact Misses.throw _

theorem misses_scalar : Misses (environment.scalar environment.answers key subject) :=
  misses_scalarWith known unobserved _

end

section
variable {keys : List Key} {subject : Subject}
  (known : ∀ key ∈ keys, environment.catalog.Knows key)
  (unobserved : ∀ key ∈ keys, environment.Unobserved key subject)
include known unobserved

theorem misses_runMath {expression : Expression} {bindings : List (String × Key)}
    (named : expression.names ≠ [])
    (bound : ∀ name ∈ expression.names, ∃ key ∈ keys, bindings.lookup name = some key) :
    Misses (environment.runMath environment.answers expression bindings subject) := by
  rw [runMath]
  refine (Expression.strict_eval expression fun name occurs => ?_).resolve_right
    fun none => named none.1
  obtain ⟨key, member, look⟩ := bound name occurs
  simp only [look]
  exact misses_scalar (known key member) (unobserved key member)

theorem misses_runSum (nonempty : keys ≠ []) :
    Misses (environment.runSum environment.answers keys subject) :=
  (Misses.mapM nonempty fun key member =>
    misses_scalar (known key member) (unobserved key member)).bind _

theorem misses_runExtreme (extreme : Extreme) :
    Misses (environment.runExtreme environment.answers extreme keys subject) := by
  have readings : (keys.mapM fun key => do
      let observed ← environment.observe environment.answers key subject
      return (← environment.catalog.aggregate key [observed] (extremeFunction extreme)).reading) =
        (pure (keys.map fun _ => none) : Run Unit (List (Option Float))) := by
    refine mapM_eq_pure fun key member => ?_
    obtain ⟨value, observed, none⟩ := unobserved key member
    rw [observed, pure_bind, aggregate_of_flatten_eq_nil (known key member) none, pure_bind]
    rfl
  rw [runExtreme, readings, pure_bind, filterMap_none]
  exact Misses.throw _

end

section
variable {key : Key} {subject : Subject} (known : environment.catalog.Knows key)
  (unobserved : environment.Unobserved key subject)
include known unobserved

theorem misses_runRatio (denominator : Key) (percent : Bool) :
    Misses (environment.runRatio environment.answers key denominator percent subject) :=
  (misses_scalarWith known unobserved .total).bind _

omit known in
theorem misses_runMap (table : List Float) (scale offset : Float) :
    Misses (environment.runMap environment.answers key table scale offset subject) := by
  obtain ⟨value, observed, none⟩ := unobserved
  simp only [runMap, observed, pure_bind, none]
  exact Misses.throw _

omit known in
theorem misses_runRepetitions (conditions : List (KeyInfo × Float))
    (sum denominator : Option KeyInfo) :
    Misses (environment.runRepetitions environment.answers key conditions sum denominator
      subject) := by
  obtain ⟨value, observed, none⟩ := unobserved
  simp only [runRepetitions, observed, pure_bind, none]
  exact (Misses.throw _).bind _

theorem misses_runFilterInMatch (inner : Option Key) (comparison : Comparison)
    (threshold : Float) :
    Misses (environment.runFilterInMatch environment.answers inner key comparison threshold
      subject) :=
  ((misses_scalarWith known unobserved .mean).bind _).bind _

theorem kept_eq_none (inner : Option Key) (comparison : Comparison) (threshold : Float) :
    environment.kept environment.answers inner key comparison threshold subject = pure none := by
  have failed := ((misses_scalarWith known unobserved .mean).bind
    fun number => pure (comparison.holds number threshold)).orNone
  rw [kept, passes, failed]
  rfl

end

section
variable {condition : Key} (known : environment.catalog.Knows condition) {team : Nat}
  (unobserved : ∀ subject ∈ environment.snapshot.matchSubjects team,
    environment.Unobserved condition subject)
  (function : Option AggregateFunction) (comparison : Comparison) (threshold : Float)

theorem misses_filter_of_no_matches (inner : Option Key)
    (unplayed : environment.snapshot.matchSubjects team = []) :
    Misses (environment.runFilterForTeam environment.answers function inner condition comparison
      threshold team) := by
  simp only [runFilterForTeam, unplayed]
  exact (Misses.throw _).bind _

include known unobserved

theorem mapM_kept_eq_none (inner : Option Key) :
    (environment.snapshot.matchSubjects team).mapM
        (environment.kept environment.answers inner condition comparison threshold) =
      pure ((environment.snapshot.matchSubjects team).map fun _ => none) :=
  mapM_eq_pure fun subject member =>
    kept_eq_none known (unobserved subject member) inner comparison threshold

theorem runFilterForTeam_eq_zero (played : environment.snapshot.matchSubjects team ≠ []) :
    environment.runFilterForTeam environment.answers function none condition comparison threshold
      team = pure 0.0 := by
  have some : (environment.snapshot.matchSubjects team).isEmpty = false := by simpa using played
  simp only [runFilterForTeam, some, mapM_kept_eq_none known unobserved, pure_bind, filterMap_none]
  rfl

theorem misses_runFilterForTeam {inner : Key} (innerKnown : environment.catalog.Knows inner) :
    Misses (environment.runFilterForTeam environment.answers function (some inner) condition
      comparison threshold team) := by
  by_cases unplayed : environment.snapshot.matchSubjects team = []
  · exact misses_filter_of_no_matches function comparison threshold (some inner) unplayed
  · have some : (environment.snapshot.matchSubjects team).isEmpty = false := by simpa using unplayed
    simp only [runFilterForTeam, some, mapM_kept_eq_none known unobserved, pure_bind,
      filterMap_none, aggregate_of_flatten_eq_nil innerKnown Value.flatten_nil]
    exact Misses.throw _

end

theorem join_lookup_map (reading : Nat → Option Float) (team : Nat) (teams : List Nat) :
    ((teams.map fun other => (other, reading other)).lookup team).join =
      if team ∈ teams then reading team else none := by
  induction teams with
  | nil => rfl
  | cons first rest ih =>
      rw [List.map_cons, List.lookup_cons]
      by_cases same : team = first
      · simp [same]
      · rw [beq_false_of_ne same]
        simp [same, ih]

theorem standing_eq {term : WeightedTerm} {reading : Nat → Option Float}
    (readings : ∀ other : Nat,
      orNone (environment.scalar environment.answers term.key (Subject.ofTeam other)) =
        pure (reading other)) (team : Nat) :
    environment.standing environment.answers team term =
      match if team ∈ environment.snapshot.teams then reading team else none with
      | some own => pure {
          own, all := environment.snapshot.teams.filterMap reading, weight := term.weight,
          negative := term.negative }
      | none => throw (.missingOperand term.key.text) := by
  have all : (environment.snapshot.teams.mapM fun other => do
      return (other, ← orNone (environment.scalar environment.answers term.key
        (Subject.ofTeam other)))) =
      (pure (environment.snapshot.teams.map fun other => (other, reading other)) :
        Run Unit (List (Nat × Option Float))) :=
    mapM_eq_pure fun other _ => by rw [readings other, pure_bind]
  rw [standing, all, pure_bind, join_lookup_map, List.filterMap_map]
  rfl

theorem misses_runWeightedRank {terms : List WeightedTerm} (nonempty : terms ≠ [])
    (known : ∀ term ∈ terms, environment.catalog.Knows term.key) {team : Nat}
    (unobserved : ∀ term ∈ terms, environment.Unobserved term.key (Subject.ofTeam team)) :
    Misses (environment.runWeightedRank environment.answers terms team) := by
  refine (Misses.mapM nonempty fun term member => ?_).bind _
  have each : ∀ other : Nat, ∃ reading : Option Float,
      orNone (environment.scalar environment.answers term.key (Subject.ofTeam other)) =
        pure reading := by
    intro other
    rcases exists_scalar (known term member) (environment.defaultFunction term.key) with
      misses | ⟨number, comes⟩
    · exact ⟨none, misses.orNone⟩
    · exact ⟨some number, by rw [scalar, comes]; rfl⟩
  obtain ⟨reading, readings⟩ := Classical.axiomOfChoice each
  have own : reading team = none := Environment.pure_injective
    ((readings team).symm.trans (misses_scalar (known term member) (unobserved term member)).orNone)
  rw [standing_eq readings, own, ite_self]
  exact Misses.throw _

end Environment

namespace Snapshot

/-- Where a plan reads its keys for a subject: there, but for a filter of a team as a whole in each
of its matches. -/
def placesRead (snapshot : Snapshot) (plan : Plan) (subject : Subject) : List Subject :=
  match plan with
  | .filter .. => if subject.isMatch then [subject] else snapshot.matchSubjects subject.team
  | _ => [subject]

def countsMatches (snapshot : Snapshot) (plan : Plan) (subject : Subject) : Bool :=
  match plan with
  | .filter none _ _ _ => !subject.isMatch && !(snapshot.matchSubjects subject.team).isEmpty
  | _ => false

end Snapshot

namespace Environment

variable {environment : Environment} {stat : Stat} {subject : Subject}

theorem run_filter_unobserved (definition : StatDefinition) {key : Option Key} {condition : Key}
    (known : ∀ read ∈ key.toList ++ [condition], environment.catalog.Knows read)
    (comparison : Comparison) (threshold : Float)
    (nowhere : ∀ place ∈
      environment.snapshot.placesRead (.filter key condition comparison threshold) subject,
        environment.Unobserved condition place) :
    if environment.snapshot.countsMatches (.filter key condition comparison threshold) subject then
      environment.run environment.answers ⟨definition, .filter key condition comparison threshold⟩
        subject = pure 0.0
    else Misses (environment.run environment.answers
      ⟨definition, .filter key condition comparison threshold⟩ subject) := by
  have condKnown : environment.catalog.Knows condition := known condition (by simp)
  cases inMatch : subject.isMatch with
  | true =>
      have here := nowhere subject (by simp [Snapshot.placesRead, inMatch])
      have notCounted : environment.snapshot.countsMatches
          (.filter key condition comparison threshold) subject = false := by
        cases key <;> simp [Snapshot.countsMatches, inMatch]
      simpa [run, inMatch, notCounted] using
        misses_runFilterInMatch condKnown here key comparison threshold
  | false =>
      have inMatches : ∀ place ∈ environment.snapshot.matchSubjects subject.team,
          environment.Unobserved condition place := by
        simpa [Snapshot.placesRead, inMatch] using nowhere
      simp only [run, inMatch, Bool.false_eq_true, if_false]
      cases key with
      | some inner =>
          exact misses_runFilterForTeam condKnown inMatches definition.function comparison
            threshold (known inner (by simp))
      | none =>
          by_cases unplayed : environment.snapshot.matchSubjects subject.team = []
          · simpa [Snapshot.countsMatches, unplayed] using misses_filter_of_no_matches
              definition.function comparison threshold none unplayed
          · simpa [Snapshot.countsMatches, inMatch, unplayed] using runFilterForTeam_eq_zero
              condKnown inMatches definition.function comparison threshold unplayed

theorem run_unobserved (grounds : environment.catalog.Grounds stat.plan)
    (reads : stat.plan.keys ≠ [])
    (named : ∀ expression bindings, stat.plan = .math expression bindings →
      expression.names ≠ [])
    (whole : ∀ terms, stat.plan = .weightedRank terms → subject = subject.toTeam)
    (unobserved : ∀ key ∈ stat.plan.keys,
      ∀ place ∈ environment.snapshot.placesRead stat.plan subject,
        environment.Unobserved key place) :
    if environment.snapshot.countsMatches stat.plan subject then
      environment.run environment.answers stat subject = pure 0.0
    else Misses (environment.run environment.answers stat subject) := by
  obtain ⟨known, bound⟩ := grounds
  obtain ⟨definition, plan⟩ := stat
  dsimp only at known bound reads named whole unobserved ⊢
  cases plan with
  | math expression bindings =>
      have here := fun key member => unobserved key member subject (List.mem_singleton_self _)
      exact misses_runMath known here (named expression bindings rfl) bound
  | sum keys =>
      have here := fun key member => unobserved key member subject (List.mem_singleton_self _)
      exact misses_runSum known here reads
  | extreme extreme keys =>
      have here := fun key member => unobserved key member subject (List.mem_singleton_self _)
      exact misses_runExtreme known here extreme
  | ratio numerator denominator =>
      have here := unobserved numerator List.mem_cons_self subject (List.mem_singleton_self _)
      exact misses_runRatio (known numerator List.mem_cons_self) here denominator false
  | percent numerator denominator =>
      have here := unobserved numerator List.mem_cons_self subject (List.mem_singleton_self _)
      exact misses_runRatio (known numerator List.mem_cons_self) here denominator true
  | map key table scale offset =>
      have here := unobserved key List.mem_cons_self subject (List.mem_singleton_self _)
      exact misses_runMap here table scale offset
  | repetitions cycle conditions sum denominator =>
      have here := unobserved cycle List.mem_cons_self subject (List.mem_singleton_self _)
      exact misses_runRepetitions here conditions sum denominator
  | weightedRank terms =>
      have here : ∀ term ∈ terms,
          environment.Unobserved term.key (Subject.ofTeam subject.team) := by
        intro term member
        have atTeam := unobserved term.key (List.mem_map_of_mem member) subject
          (List.mem_singleton_self _)
        rwa [whole terms rfl] at atTeam
      refine misses_runWeightedRank (fun none => reads (by rw [none]; rfl)) ?_ here
      exact fun term member => known term.key (List.mem_map_of_mem member)
  | filter key condition comparison threshold =>
      exact run_filter_unobserved definition known comparison threshold
        (unobserved condition (by simp [Plan.keys]))

theorem compute_inScope {σ : Type} (environment : Environment) (source : Source σ)
    (inScope : stat.isTeamScoped ∨ subject.isMatch) :
    environment.compute source stat subject =
      environment.settle source stat (stat.scope subject) := by
  rw [compute, Stat.scope]
  by_cases once : stat.isTeamScoped
  · rw [if_pos once, if_pos once]
  · rw [if_neg once, if_neg once, if_pos (inScope.resolve_left once)]

theorem settle_unobserved (grounds : environment.catalog.Grounds stat.plan)
    (reads : stat.plan.keys ≠ [])
    (named : ∀ expression bindings, stat.plan = .math expression bindings →
      expression.names ≠ [])
    (whole : ∀ terms, stat.plan = .weightedRank terms → subject = subject.toTeam)
    (unobserved : ∀ key ∈ stat.plan.keys,
      ∀ place ∈ environment.snapshot.placesRead stat.plan subject,
        environment.Unobserved key place) :
    environment.settle environment.answers stat subject =
      pure (if environment.snapshot.countsMatches stat.plan subject then .number 0.0
        else .missing) := by
  have ran := run_unobserved grounds reads named whole unobserved
  rw [settle]
  split at ran
  · rename_i counts
    rw [ran, if_pos counts]
    rfl
  · rename_i counts
    rw [ran.orNone, if_neg counts]
    rfl

end Environment

namespace Event

variable {event : Event} {stat : Stat}

theorem observe_of_read (sound : event.environment.Sound) {key : Key} {subject : Subject}
    {value : Value} (reads : event.read key subject none = .ok value) :
    event.environment.observe event.environment.answers key subject = pure value := by
  rw [read_answers sound] at reads
  funext state
  exact Prod.ext reads rfl

theorem unobserved_of_read (sound : event.environment.Sound) {key : Key} {subject : Subject}
    {value : Value} (reads : event.read key subject none = .ok value) (none : value.leaves = []) :
    event.environment.Unobserved key subject :=
  ⟨value, observe_of_read sound reads, by simpa using none⟩

theorem read_settled (sound : event.environment.Sound) (member : stat ∈ event.stats.stats)
    {subject : Subject} (inScope : stat.isTeamScoped ∨ subject.isMatch) {value : Value}
    (settled : event.environment.settle event.environment.answers stat (stat.scope subject) =
      pure value) : event.read stat.key subject none = .ok value := by
  have found : event.environment.stats.find? stat.key = some stat :=
    StatSet.find?_of_mem sound.unique member
  have computed := (sound.compute_answers found subject).symm.trans
    (event.environment.compute_inScope event.environment.answers inScope)
  rw [read_stat sound member, Environment.pure_injective (computed.trans settled)]

theorem Reachable.names_ne_nil (reachable : event.Reachable) (member : stat ∈ event.stats.stats)
    (reads : stat.plan.keys ≠ []) {expression : Expression} {bindings : List (String × Key)}
    (isMath : stat.plan = .math expression bindings) : expression.names ≠ [] := by
  obtain ⟨catalog, planned, _⟩ := reachable.compiled member
  rw [isMath] at planned reads
  have references := Catalog.names_of_math planned
  intro none
  rw [Expression.references, none] at references
  have empty : bindings = [] := by simpa using references
  exact reads (by rw [empty]; rfl)

theorem Reachable.isTeamScoped_of_ranks (reachable : event.Reachable)
    (member : stat ∈ event.stats.stats) {terms : List WeightedTerm}
    (ranks : stat.plan = .weightedRank terms) : stat.isTeamScoped := by
  obtain ⟨catalog, planned, _⟩ := reachable.compiled member
  have kind := Catalog.kind_of_plan planned
  rw [ranks] at kind
  simp [Stat.isTeamScoped, StatDefinition.isTeamScoped, ← kind, Plan.kind]

/-- A stat whose plan reads some key is missing where nothing is observed of any key that it reads,
be it in a match or for a team as a whole. A filter without a key is the exception: for a team as a
whole it counts matches, and among some matches it counts zero. -/
theorem missing_of_unobserved (reachable : event.Reachable) (member : stat ∈ event.stats.stats)
    (reads : stat.plan.keys ≠ []) {subject : Subject}
    (inScope : stat.isTeamScoped ∨ subject.isMatch)
    (unobserved : ∀ key ∈ stat.plan.keys,
      ∀ place ∈ event.snapshot.placesRead stat.plan (stat.scope subject),
        ∃ value, event.read key place none = .ok value ∧ value.leaves = []) :
    event.read stat.key subject none =
      .ok (if event.snapshot.countsMatches stat.plan (stat.scope subject) then .number 0.0
        else .missing) := by
  have sound := reachable.sound
  have found : event.environment.stats.find? stat.key = some stat :=
    StatSet.find?_of_mem sound.unique member
  have whole : ∀ terms, stat.plan = .weightedRank terms →
      stat.scope subject = (stat.scope subject).toTeam := by
    intro terms ranks
    rw [Stat.scope, if_pos (reachable.isTeamScoped_of_ranks member ranks)]
    rfl
  have nothing : ∀ key ∈ stat.plan.keys,
      ∀ place ∈ event.snapshot.placesRead stat.plan (stat.scope subject),
        event.environment.Unobserved key place := by
    intro key inPlan place isRead
    obtain ⟨value, comes, none⟩ := unobserved key inPlan place isRead
    exact unobserved_of_read sound comes none
  have settled := Environment.settle_unobserved (sound.grounded stat member) reads
    (fun _ _ isMath => reachable.names_ne_nil member reads isMath) whole nothing
  have computed := (sound.compute_answers found subject).symm.trans
    (event.environment.compute_inScope event.environment.answers inScope)
  have answer : event.environment.answer stat.key subject = _ :=
    Environment.pure_injective (computed.trans settled)
  rw [read_stat sound member, answer]
  rfl

def blank : Event :=
  let above (key : Option String) : Operator := .filter key "auto" .greater (.integer 0)
  ofInputs [⟨7, some "a_qm1", none, .played, false, "", false, none, none, none, Dictionary.empty,
      none, none⟩]
    { small.config with
      definitions :=
        [⟨"double", "", .sum ["auto", "auto"], false, false, none⟩,
          ⟨"count", "", above none, false, true, none⟩,
          ⟨"average", "", above (some "auto"), false, true, none⟩] }
    OfficialResults.empty Settings.standard

theorem blank_reachable : blank.Reachable := Reachable.ofInputs _ _ _ _

theorem missing_of_unobserved_blank :
    (∀ stat ∈ blank.stats.stats, stat.plan.keys ≠ [] ∧ ∀ key ∈ stat.plan.keys,
      ∃ value, blank.read key (Subject.inMatch 7 "a_qm1") none = .ok value ∧ value.leaves = []) ∧
    blank.read (Key.smart "double") (Subject.inMatch 7 "a_qm1") none = .ok .missing ∧
    blank.read (Key.smart "average") (Subject.ofTeam 7) none = .ok .missing := by
  have nothing : ∀ stat ∈ blank.stats.stats, stat.plan.keys ≠ [] ∧ ∀ key ∈ stat.plan.keys,
      ∃ value, blank.read key (Subject.inMatch 7 "a_qm1") none = .ok value ∧ value.leaves = [] := by
    intro stat member
    have reads : ∀ stat ∈ blank.stats.stats, stat.plan.keys ≠ [] ∧
        ∀ key ∈ stat.plan.keys, key = Key.result "auto" := by
      decide +kernel
    refine ⟨(reads stat member).1, fun key inPlan => ?_⟩
    obtain rfl := (reads stat member).2 key inPlan
    have none : (blank.read (Key.result "auto") (Subject.inMatch 7 "a_qm1") none).toOption.map
        (fun value => value.leaves.isEmpty) = some true := by
      decide +kernel
    cases found : blank.read (Key.result "auto") (Subject.inMatch 7 "a_qm1") .none with
    | error error => simp [found, Except.toOption] at none
    | ok value => exact ⟨value, rfl, by simpa [found, Except.toOption] using none⟩
  have places : ∀ subject ∈ [Subject.inMatch 7 "a_qm1", Subject.ofTeam 7],
      ∀ stat ∈ blank.stats.stats, stat.isTeamScoped ∨ subject.isMatch →
        ∀ place ∈ blank.snapshot.placesRead stat.plan (stat.scope subject),
          place = Subject.inMatch 7 "a_qm1" := by
    decide +kernel
  have once : ∀ stat ∈ blank.stats.stats, stat.key = Key.smart "average" → stat.isTeamScoped := by
    decide +kernel
  have listed : blank.stats.stats.map Stat.key =
      [Key.smart "double", Key.smart "count", Key.smart "average"] := by
    decide +kernel
  have counts : ∀ stat ∈ blank.stats.stats, stat.key ≠ Key.smart "count" →
      ∀ subject ∈ [Subject.inMatch 7 "a_qm1", Subject.ofTeam 7],
        blank.snapshot.countsMatches stat.plan (stat.scope subject) = false := by
    decide +kernel
  have missing {stat : Stat} (member : stat ∈ blank.stats.stats)
      (notCount : stat.key ≠ Key.smart "count") {subject : Subject}
      (given : subject ∈ [Subject.inMatch 7 "a_qm1", Subject.ofTeam 7])
      (inScope : stat.isTeamScoped ∨ subject.isMatch) :
      blank.read stat.key subject none = .ok .missing := by
    obtain ⟨reads, unobserved⟩ := nothing stat member
    have here : ∀ key ∈ stat.plan.keys,
        ∀ place ∈ blank.snapshot.placesRead stat.plan (stat.scope subject),
          ∃ value, blank.read key place none = .ok value ∧ value.leaves = [] := by
      intro key inPlan place isRead
      obtain rfl := places subject given stat member inScope place isRead
      exact unobserved key inPlan
    simpa [counts stat member notCount subject given] using
      missing_of_unobserved blank_reachable member reads inScope here
  obtain ⟨double, doubleMember, isDouble⟩ :
      ∃ stat ∈ blank.stats.stats, stat.key = Key.smart "double" :=
    List.mem_map.mp (by simp [listed])
  obtain ⟨average, averageMember, isAverage⟩ :
      ∃ stat ∈ blank.stats.stats, stat.key = Key.smart "average" :=
    List.mem_map.mp (by simp [listed])
  refine ⟨nothing, ?_, ?_⟩
  · rw [← isDouble]
    exact missing doubleMember (by simp [isDouble, Key.smart, Key.plain]) (by simp) (Or.inr rfl)
  · rw [← isAverage]
    exact missing averageMember (by simp [isAverage, Key.smart, Key.plain]) (by simp)
      (Or.inl (once average averageMember isAverage))

/-- A count is zero where nothing was observed that could be counted. -/
theorem blank_counted :
    (∃ stat ∈ blank.stats.stats, stat.key = Key.smart "count" ∧ stat.isTeamScoped ∧
      stat.plan.keys = [Key.result "auto"]) ∧
    blank.snapshot.matchKeys 7 = ["a_qm1"] ∧
    ([Subject.inMatch 7 "a_qm1", Subject.ofTeam 7].mapM fun subject =>
      blank.read (Key.result "auto") subject none).toOption.map
        (fun values => (Value.flatten values).isEmpty) = some true ∧
    (blank.read (Key.smart "count") (Subject.ofTeam 7) none).toOption.map Value.reading =
      some (some 0.0) := by
  decide +kernel

end Event

end Scouting

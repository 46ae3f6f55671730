import Scouting.Proofs.Unobserved

/-!
Keys that are narrowed to an option. Every operator but one works on the indicators by which the
option is counted. A map does so as well for fields that pick options, but reads a truth value as it
is whichever of its two options the key names, and reads a number as it is where options were given
to a field that counts.
-/

namespace Scouting

namespace Value

theorem mem_flatten {leaf : Value} {values : List Value} :
    leaf ∈ flatten values ↔ ∃ value ∈ values, leaf ∈ value.leaves := by
  rw [flatten_eq_flatMap, List.mem_flatMap]

def ofReading (reading : Option Float) : Value := (reading.map Value.number).getD .missing

theorem ofReading_eq_missing {reading : Option Float} :
    ofReading reading = .missing ↔ reading = none := by
  cases reading <;> simp [ofReading]

end Value

namespace Aggregation

/-- The numbers by which an option is counted: of each observation that may choose it, one if it does
and zero if it does not. -/
def indicators (option : Nat) (values : List Value) : List Float :=
  ((Value.flatten values).filterMap (chooses option)).map indicator

theorem numeric_indicator {function : AggregateFunction} (notSpread : function ≠ .stddev)
    (chosen : Bool) : numeric function [indicator chosen] = .number (indicator chosen) := by
  cases function with
  | stddev => exact absurd rfl notSpread
  | _ => cases chosen <;> rfl

end Aggregation

namespace KeyInfo

/-- Is a value something that may be observed for a key? -/
def Observes (info : KeyInfo) (value : Value) : Prop :=
  ∃ recorded, value ∈ (info.observe recorded).leaves

theorem observes_of_entry {info : KeyInfo} {entry : CycleEntry} {leaf : Value}
    (member : leaf ∈ (info.observeEntry entry).leaves) : info.Observes leaf := by
  rw [observeEntry] at member
  split at member
  · rename_i recorded _
    exact ⟨recorded, member⟩
  · simp at member

theorem atIndex_none (value : Value) : atIndex value none = value := by
  cases value <;> rfl

theorem observes_of_record {info : KeyInfo} {record : Record} {leaf : Value}
    (member : leaf ∈ (info.observeRecord record none).leaves) : info.Observes leaf := by
  rw [observeRecord] at member
  split at member
  · split at member
    · rw [observeEntries, Value.leaves_list] at member
      obtain ⟨value, inEntries, within⟩ := Value.mem_flatten.mp member
      obtain ⟨entry, _, rfl⟩ := List.mem_map.mp inEntries
      exact observes_of_entry within
    · simp at member
  · split at member
    · rename_i recorded _
      refine ⟨recorded, ?_⟩
      rwa [atIndex_none] at member
    · simp at member

theorem observes_of_readResult {info : KeyInfo} {snapshot : Snapshot} {subject : Subject}
    {leaf : Value} (member : leaf ∈ (snapshot.readResult info subject none).leaves) :
    info.Observes leaf := by
  have ofRecord : ∀ record, leaf ∈ (info.observeRecord? record none).leaves →
      info.Observes leaf := by
    intro record within
    cases record with
    | none => simp [observeRecord?] at within
    | some record => exact observes_of_record within
  rw [Snapshot.readResult] at member
  split at member
  · exact ofRecord _ member
  · split at member
    · exact ofRecord _ member
    · rw [Value.leaves_list] at member
      obtain ⟨value, inMatches, within⟩ := Value.mem_flatten.mp member
      obtain ⟨record, _, rfl⟩ := List.mem_map.mp inMatches
      exact observes_of_record within

def suits : FieldKind → Value → Bool
  | .select, .choice _ | .dropdown, .choice _ | .multiselect, .choice _ => true
  | .multiselect, .flags _ => true
  | .boolean, .bool _ => true
  | .cycle, .cycles _ => true
  | .string, .text _ | .text, .text _ => true
  | .counter, .number _ | .multicounter, .number _ | .number, .number _ | .slider, .number _ => true
  | _, _ => false

theorem chosen_eq (info : KeyInfo) (recorded : Recorded) :
    info.chosen recorded = .missing ∨ ∃ index, info.chosen recorded = .choice index := by
  simp only [chosen]
  split
  · split
    · exact Or.inr ⟨_, rfl⟩
    · exact Or.inl rfl
  · split
    · exact Or.inr ⟨_, rfl⟩
    · exact Or.inl rfl
  · exact Or.inl rfl

theorem counted_eq (recorded : Recorded) :
    counted recorded = .missing ∨ ∃ number, counted recorded = .number number := by
  simp only [counted]
  split
  · exact Or.inr ⟨_, rfl⟩
  · exact Or.inr ⟨_, rfl⟩
  · exact Or.inr ⟨_, rfl⟩
  · split
    · exact Or.inr ⟨_, rfl⟩
    · exact Or.inl rfl
  · exact Or.inl rfl

theorem suits_of_observes {info : KeyInfo} {value : Value} (observes : info.Observes value) :
    suits info.kind value := by
  obtain ⟨recorded, member⟩ := observes
  have ofChosen : value ∈ (info.chosen recorded).leaves → ∃ index, value = .choice index := by
    intro within
    rcases info.chosen_eq recorded with missing | ⟨index, picked⟩
    · simp [missing] at within
    · exact ⟨index, by simpa [picked, Value.leaves] using within⟩
  have ofCounted : value ∈ (counted recorded).leaves → ∃ number, value = .number number := by
    intro within
    rcases counted_eq recorded with missing | ⟨number, found⟩
    · simp [missing] at within
    · exact ⟨number, by simpa [found, Value.leaves] using within⟩
  cases kind : info.kind <;> simp only [observe, kind] at member
  case select | dropdown =>
    obtain ⟨index, rfl⟩ := ofChosen member
    rfl
  case multiselect =>
    split at member
    · obtain rfl := List.mem_singleton.mp (by simpa [Value.leaves] using member)
      rfl
    · obtain ⟨index, rfl⟩ := ofChosen member
      rfl
  case counter | multicounter | number | slider =>
    obtain ⟨number, rfl⟩ := ofCounted member
    rfl
  all_goals
    split at member <;> simp only [Value.leaves, List.mem_singleton, List.not_mem_nil] at member
    all_goals
      subst member
      rfl

theorem observe_ne_list (info : KeyInfo) (recorded : Recorded) (items : List Value) :
    info.observe recorded ≠ .list items := by
  intro same
  have ofChosen : info.chosen recorded ≠ .list items := by
    rcases info.chosen_eq recorded with missing | ⟨index, picked⟩
    · simp [missing]
    · simp [picked]
  have ofCounted : counted recorded ≠ .list items := by
    rcases counted_eq recorded with missing | ⟨number, found⟩
    · simp [missing]
    · simp [found]
  cases kind : info.kind <;> simp only [observe, kind] at same
  case select | dropdown => exact ofChosen same
  case counter | multicounter | number | slider => exact ofCounted same
  case multiselect =>
    split at same
    · cases same
    · exact ofChosen same
  all_goals
    split at same <;> cases same

theorem indicators_observe (info : KeyInfo) (recorded : Recorded) (option : Nat) :
    Aggregation.indicators option [info.observe recorded] =
      ((Aggregation.chooses option (info.observe recorded)).map Aggregation.indicator).toList := by
  have single := info.observe_ne_list recorded
  generalize info.observe recorded = value at single ⊢
  rw [Aggregation.indicators, Value.flatten_cons, Value.flatten_nil, List.append_nil]
  cases value with
  | list items => exact absurd rfl (single items)
  | _ => rfl

def mapNumber (info : KeyInfo) (option : Nat) (value : Value) : Option Float :=
  match info.kind with
  | .select | .dropdown | .multiselect =>
    (Aggregation.chooses option value).map Aggregation.indicator
  | .boolean => (Aggregation.chooses 1 value).map Aggregation.indicator
  | _ => value.reading

theorem mapped_of_observes {info : KeyInfo} {value : Value} (observes : info.Observes value)
    (option : Nat) (table : List Float) (scale offset : Float) :
    Plan.mapped (some option) table scale offset value =
      (info.mapNumber option value).map fun number => number * scale + offset := by
  have suits := suits_of_observes observes
  cases kind : info.kind <;> rw [kind] at suits <;> simp only [mapNumber, kind]
  case select | dropdown | multiselect =>
    cases value <;> first | rfl | cases suits
  case boolean =>
    cases value with
    | bool truth => cases truth <;> rfl
    | _ => cases suits
  all_goals
    cases value <;> first | rfl | cases suits

/-- The numbers that a map works on for a key that is narrowed to an option. -/
def mapNumbers (info : KeyInfo) (option : Nat) (values : List Value) : List Float :=
  (Value.flatten values).filterMap (info.mapNumber option)

section
variable {info : KeyInfo} {values : List Value}

theorem mapNumbers_eq_indicators {option : Nat}
    (picks : info.kind.isEnumerated ∨ info.kind = .boolean ∧ option = 1) :
    info.mapNumbers option values = Aggregation.indicators option values := by
  rw [Aggregation.indicators, List.map_filterMap]
  refine List.filterMap_congr fun value _ => ?_
  rcases picks with enumerated | ⟨boolean, rfl⟩
  · cases kind : info.kind <;> rw [kind] at enumerated
    case select | dropdown | multiselect => simp only [mapNumber, kind]
    all_goals cases enumerated
  · simp only [mapNumber, boolean]

variable (observed : ∀ leaf ∈ Value.flatten values, info.Observes leaf)
include observed

theorem mapNumbers_of_false (boolean : info.kind = .boolean) :
    info.mapNumbers 0 values = ((Value.flatten values).filterMap (Aggregation.chooses 0)).map
      fun chosen => Aggregation.indicator !chosen := by
  rw [List.map_filterMap]
  refine List.filterMap_congr fun value member => ?_
  have suits := suits_of_observes (observed value member)
  rw [boolean] at suits
  cases value with
  | bool truth => cases truth <;> simp [mapNumber, boolean, Aggregation.chooses]
  | _ => cases suits

theorem indicators_of_unpicked (unpicked : info.kind.isEnumerated = false)
    (notBoolean : info.kind ≠ .boolean) (option : Nat) :
    Aggregation.indicators option values = [] ∧
      info.mapNumbers option values = (Value.flatten values).filterMap Value.reading := by
  constructor
  · rw [Aggregation.indicators, List.map_eq_nil_iff, List.filterMap_eq_nil_iff]
    intro value member
    have suits := suits_of_observes (observed value member)
    cases kind : info.kind <;> rw [kind] at suits unpicked
    case boolean => exact absurd kind notBoolean
    case select | dropdown | multiselect => cases unpicked
    all_goals cases value <;> first | rfl | cases suits
  · refine List.filterMap_congr fun value _ => ?_
    cases kind : info.kind <;> rw [kind] at unpicked <;> simp only [mapNumber, kind]
    case boolean => exact absurd kind notBoolean
    all_goals cases unpicked

end

end KeyInfo

namespace Environment

variable {σ : Type} {environment : Environment} {source : Source σ} {stat : Stat}
  {subject : Subject}

theorem settle_of_orNone {reading : Option Float}
    (ran : orNone (environment.run source stat subject) = pure reading) :
    environment.settle source stat subject = pure (Value.ofReading reading) := by
  rw [settle, ran, pure_bind]
  cases reading with
  | some number => rfl
  | none => rfl

theorem settle_map {key : Key} {table : List Float} {scale offset : Float}
    (plan : stat.plan = .map key table scale offset) {observed : Value}
    (observes : environment.observe source key subject = pure observed) :
    environment.settle source stat subject = pure (Value.ofReading (Aggregation.mean
      (observed.leaves.filterMap (Plan.mapped key.option table scale offset)))) := by
  refine settle_of_orNone ?_
  simp only [run, plan, runMap, observes, pure_bind, Value.flatten_cons, Value.flatten_nil,
    List.append_nil]
  cases Aggregation.mean _ with
  | some number => rfl
  | none => rfl

end Environment

namespace Event

variable {event : Event} {key : Key} {info : KeyInfo} {option : Nat}

section
variable (resolved : event.catalog.resolve key = .ok info)
include resolved

theorem observe_result {σ : Type} (source : Source σ) (field : key.space = .result)
    (subject : Subject) : event.environment.observe source key subject =
      pure (event.snapshot.readResult info subject none) := by
  simp only [Environment.observe, environment, Catalog.read, resolved, ofExcept, pure_bind, field]

theorem aggregate_narrowed {σ : Type} (narrowed : key.option = some option) (values : List Value)
    (function : AggregateFunction) :
    (event.catalog.aggregate key values function : Run σ Aggregate) =
      pure (Aggregation.numeric function (Aggregation.indicators option values)) := by
  rw [Catalog.aggregate_eq resolved]
  simp only [KeyInfo.pool, narrowed]
  rfl

theorem scalarWith_narrowed {σ : Type} (source : Source σ) (field : key.space = .result)
    (narrowed : key.option = some option) (subject : Subject) (function : AggregateFunction) :
    event.environment.scalarWith source key subject function =
      match (Aggregation.numeric function (Aggregation.indicators option
        [event.snapshot.readResult info subject none])).reading with
      | some number => pure number
      | none => throw (.missingOperand key.text) := by
  rw [Environment.scalarWith, observe_result resolved source field, pure_bind]
  change (event.catalog.aggregate key _ function >>= fun _ => _) = _
  rw [aggregate_narrowed resolved narrowed]
  exact pure_bind _ _

theorem settle_map_narrowed (field : key.space = .result) (narrowed : key.option = some option)
    {stat : Stat} {table : List Float} {scale offset : Float}
    (plan : stat.plan = .map key table scale offset) (subject : Subject) :
    event.environment.settle event.environment.answers stat subject =
      pure (Value.ofReading (Aggregation.mean ((info.mapNumbers option
        [event.snapshot.readResult info subject none]).map
          fun number => number * scale + offset))) := by
  have numbers : (event.snapshot.readResult info subject none).leaves.filterMap
        (Plan.mapped key.option table scale offset) =
      (info.mapNumbers option [event.snapshot.readResult info subject none]).map
        fun number => number * scale + offset := by
    rw [KeyInfo.mapNumbers, List.map_filterMap, narrowed, Value.flatten_cons, Value.flatten_nil,
      List.append_nil]
    exact List.filterMap_congr fun value member => KeyInfo.mapped_of_observes
      (KeyInfo.observes_of_readResult member) option table scale offset
  rw [Environment.settle_map plan (observe_result resolved _ field subject), numbers]

theorem read_map (sound : event.environment.Sound) (field : key.space = .result)
    (narrowed : key.option = some option) {stat : Stat} (member : stat ∈ event.stats.stats)
    {table : List Float} {scale offset : Float} (plan : stat.plan = .map key table scale offset)
    (subject : Subject) :
    let value := fun subject => Value.ofReading (Aggregation.mean ((info.mapNumbers option
      [event.snapshot.readResult info subject none]).map fun number => number * scale + offset))
    event.read stat.key subject none = .ok
      (if stat.isTeamScoped then value subject.toTeam
      else if subject.isMatch then value subject
      else .list ((event.snapshot.matchSubjects subject.team).map value)) := by
  intro value
  have settled := settle_map_narrowed resolved field narrowed plan
  have found : event.environment.stats.find? stat.key = some stat :=
    StatSet.find?_of_mem sound.unique member
  have computed := sound.compute_answers found subject
  rw [read_stat sound member]
  refine congrArg Except.ok (Environment.pure_injective (computed.symm.trans ?_))
  simp only [Environment.compute]
  split
  · exact settled subject.toTeam
  · split
    · exact settled subject
    · rw [mapM_eq_pure fun subject _ => settled subject]
      rfl

end

/-- An option means the same to every operator but a map. Whatever reads a field that is narrowed to
an option (the references of a formula, a sum, a ratio and a weighted rank, the condition of a
filter and what it keeps, the smallest and the greatest) works on the indicators by which the option
is counted; of one observation that is the indicator itself. A map works on them as well, in every
scope, for a field that picks options and for a truth value narrowed to true. Narrowed to false it
takes the opposite, and a field that counts it reads as it is, although nothing chooses an option. -/
theorem narrowed_alike (reachable : event.Reachable)
    (resolved : event.catalog.resolve key = .ok info) (field : key.space = .result)
    (narrowed : key.option = some option) :
    let seen := fun subject => event.snapshot.readResult info subject none
    let linear := fun scale offset number : Float => number * scale + offset
    (∀ {σ : Type} (source : Source σ) subject function,
      event.environment.scalarWith source key subject function =
        match (Aggregation.numeric function
          (Aggregation.indicators option [seen subject])).reading with
        | some number => pure number
        | none => throw (.missingOperand key.text)) ∧
    (∀ {σ : Type} values function, (event.catalog.aggregate key values function : Run σ Aggregate) =
      pure (Aggregation.numeric function (Aggregation.indicators option values))) ∧
    (∀ recorded function, function ≠ .stddev →
      (Aggregation.numeric function
        (Aggregation.indicators option [info.observe recorded])).reading =
          (Aggregation.chooses option (info.observe recorded)).map Aggregation.indicator) ∧
    (∀ stat ∈ event.stats.stats, ∀ table scale offset, stat.plan = .map key table scale offset →
      ∀ subject,
        let value := fun subject => Value.ofReading (Aggregation.mean
          ((info.mapNumbers option [seen subject]).map (linear scale offset)))
        event.read stat.key subject none = .ok
          (if stat.isTeamScoped then value subject.toTeam
          else if subject.isMatch then value subject
          else .list ((event.snapshot.matchSubjects subject.team).map value))) ∧
    ∀ subject,
      (info.kind.isEnumerated ∨ info.kind = .boolean ∧ option = 1 →
        info.mapNumbers option [seen subject] = Aggregation.indicators option [seen subject]) ∧
      (info.kind = .boolean ∧ option = 0 →
        info.mapNumbers option [seen subject] =
          ((Value.flatten [seen subject]).filterMap (Aggregation.chooses option)).map
            fun chosen => Aggregation.indicator !chosen) ∧
      (info.kind.isEnumerated = false ∧ info.kind ≠ .boolean →
        Aggregation.indicators option [seen subject] = [] ∧
          info.mapNumbers option [seen subject] =
            (Value.flatten [seen subject]).filterMap Value.reading) := by
  intro seen linear
  have observed : ∀ subject, ∀ leaf ∈ Value.flatten [seen subject], info.Observes leaf := by
    intro subject leaf member
    simp only [Value.flatten_cons, Value.flatten_nil, List.append_nil] at member
    exact KeyInfo.observes_of_readResult member
  refine ⟨fun source subject function => scalarWith_narrowed resolved source field narrowed subject
    function, fun values function => aggregate_narrowed resolved narrowed values function, ?_, ?_,
    fun subject => ⟨KeyInfo.mapNumbers_eq_indicators, ?_, ?_⟩⟩
  · intro recorded function notSpread
    rw [KeyInfo.indicators_observe]
    cases Aggregation.chooses option (info.observe recorded) with
    | none => rw [Option.map_none, Option.toList_none, Aggregation.numeric_nil]; rfl
    | some chosen =>
        rw [Option.map_some, Option.toList_some, Aggregation.numeric_indicator notSpread]
        rfl
  · intro stat member table scale offset plan subject
    exact read_map resolved reachable.sound field narrowed member plan subject
  · rintro ⟨boolean, rfl⟩
    exact KeyInfo.mapNumbers_of_false (observed subject) boolean
  · rintro ⟨unpicked, notBoolean⟩
    exact KeyInfo.indicators_of_unpicked (observed subject) unpicked notBoolean option

def parked : Event :=
  let field (id : String) (kind : FieldKind) (options : List String) : FieldDefinition :=
    ⟨id, id, kind, .played, options, none, .uniform false, none⟩
  let fields := Dictionary.ofList [("park", Recorded.bool true), ("climb", Recorded.integer 1)]
  ofInputs
    [⟨7, some "a_qm1", none, .played, false, "", false, none, none, none, fields, none, none⟩]
    { Configuration.empty with
      fields := [field "park" .boolean [], field "climb" .select ["low", "high"]]
      definitions :=
        [⟨"high", "", .map "result.climb.1" [] 2.0 1.0, false, false, none⟩,
          ⟨"off", "", .map "result.park.0" [] 1.0 0.0, false, false, none⟩,
          ⟨"sum", "", .sum ["result.park.0"], false, false, none⟩] }
    OfficialResults.empty Settings.standard

theorem parked_reachable : parked.Reachable := Reachable.ofInputs _ _ _ _

theorem narrowed_alike_parked :
    ∃ info stat table scale offset,
      parked.catalog.resolve ⟨.result, "climb", some 1⟩ = .ok info ∧ info.kind.isEnumerated ∧
      stat ∈ parked.stats.stats ∧ stat.key = Key.smart "high" ∧
      stat.plan = .map ⟨.result, "climb", some 1⟩ table scale offset ∧
      parked.read (Key.smart "high") (Subject.inMatch 7 "a_qm1") none =
        .ok (Value.ofReading (Aggregation.mean
          ((Aggregation.indicators 1 [parked.snapshot.readResult info
            (Subject.inMatch 7 "a_qm1") none]).map fun number => number * scale + offset))) := by
  have kind : (parked.catalog.resolve ⟨.result, "climb", some 1⟩).toOption.map KeyInfo.kind =
      some .select := by
    decide +kernel
  have maps : ∃ stat ∈ parked.stats.stats, stat.key = Key.smart "high" ∧
      stat.isTeamScoped = false ∧ stat.plan.kind = .map ∧
      stat.plan.keys = [⟨.result, "climb", some 1⟩] := by
    decide +kernel
  obtain ⟨stat, member, named, perMatch, isMap, reads⟩ := maps
  cases plan : stat.plan with
  | map key table scale offset =>
      rw [plan, Plan.keys, List.cons.injEq] at reads
      obtain ⟨rfl, _⟩ := reads
      cases resolved : parked.catalog.resolve ⟨.result, "climb", some 1⟩ with
      | error error => simp [resolved, Except.toOption] at kind
      | ok info =>
          have select : info.kind = .select := by simpa [resolved, Except.toOption] using kind
          obtain ⟨_, _, _, evaluated, works⟩ :=
            narrowed_alike parked_reachable resolved rfl rfl
          have enumerated : info.kind.isEnumerated := by rw [select]; rfl
          have number := (works (Subject.inMatch 7 "a_qm1")).1 (Or.inl enumerated)
          have value := evaluated stat member table scale offset plan (Subject.inMatch 7 "a_qm1")
          rw [perMatch] at value
          refine ⟨info, stat, table, scale, offset, rfl, enumerated, member, named, plan, ?_⟩
          rw [← named, ← number]
          exact value
  | _ => simp [plan, Plan.kind] at isMap

/-- Where a truth value is true, a map reads one for the option for false; counting that option and
summing it comes to zero. -/
theorem false_mapped_as_true :
    (∃ stat ∈ parked.stats.stats, stat.key = Key.smart "off" ∧ stat.plan.kind = .map ∧
      stat.plan.keys = [⟨.result, "park", some 0⟩]) ∧
    (parked.read (Key.smart "off") (Subject.inMatch 7 "a_qm1") none).toOption.map Value.reading =
      some (some 1.0) ∧
    (parked.read (Key.smart "sum") (Subject.inMatch 7 "a_qm1") none).toOption.map Value.reading =
      some (some 0.0) ∧
    Aggregation.chooses 0 (.bool true) = some false ∧
    (parked.stat ⟨.result, "park", some 0⟩ (some (Subject.inMatch 7 "a_qm1"))
      (some .mean)).toOption = some (.number 0.0) := by
  decide +kernel

end Event

end Scouting

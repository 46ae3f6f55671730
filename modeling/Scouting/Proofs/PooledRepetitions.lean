import Scouting.Proofs.ExactCounts
import Scouting.Proofs.MappedObservations
import Scouting.Proofs.Rescoping

/-!
Repetitions counted for a team as a whole, and match by match. A team's repetitions are those of its
matches one after the other, so pooling them counts the same ones: the count for the team is the sum
of the counts in its matches.
-/

namespace Scouting

theorem KeyInfo.kind_of_cycle {info : KeyInfo} (isCycle : info.valueKind = .cycle) :
    info.kind = .cycle := by
  simp only [valueKind] at isCycle
  split at isCycle <;> first | assumption | cases isCycle

namespace Plan

def countMeeting (conditions : List (KeyInfo × Float)) (observed : Value) : Nat :=
  ((repetitionsOf observed.leaves).filter (meets conditions)).length

def counted (conditions : List (KeyInfo × Float)) (observed : Value) : Value :=
  if observed.leaves.isEmpty then .missing
  else .number (Float.ofNat (countMeeting conditions observed))

variable {conditions : List (KeyInfo × Float)}

theorem amount_none {entries : List CycleEntry} (few : entries.length < 2 ^ 53) :
    amount none entries = Float.ofNat entries.length := by
  have one : (1.0 : Float) = Float.ofNat 1 := rfl
  have ones : (entries.map fun _ => (1.0 : Float)) = (entries.map fun _ => 1).map Float.ofNat := by
    rw [List.map_map, one]
    rfl
  have length : (entries.map fun _ => 1).sum = entries.length := by simp
  rw [amount, ones, total_ofNat (by rwa [length]), length]

theorem countMeeting_list (values : List Value) :
    countMeeting conditions (.list values) = (values.map (countMeeting conditions)).sum := by
  induction values with
  | nil => rfl
  | cons value rest ih =>
      rw [List.map_cons, List.sum_cons, ← ih]
      simp [countMeeting, repetitionsOf, List.flatMap_append]

theorem countMeeting_le {value : Value} {values : List Value} (member : value ∈ values) :
    countMeeting conditions value ≤ countMeeting conditions (.list values) := by
  rw [countMeeting_list]
  exact List.single_le_sum (by simp) _ (List.mem_map_of_mem member)

theorem countMeeting_of_unobserved {observed : Value} (none : observed.leaves.isEmpty) :
    countMeeting conditions observed = 0 := by
  rw [countMeeting, List.isEmpty_iff.mp none]
  rfl

theorem isMissing_counted (observed : Value) :
    (counted conditions observed).isMissing = observed.leaves.isEmpty := by
  rw [counted]
  cases observed.leaves.isEmpty <;> rfl

theorem readings_counted (values : List Value) :
    (values.map (counted conditions)).filterMap Value.reading =
      ((values.filter fun value => !value.leaves.isEmpty).map (countMeeting conditions)).map
        Float.ofNat := by
  induction values with
  | nil => rfl
  | cons value rest ih =>
      cases observed : value.leaves.isEmpty with
      | true =>
          rw [List.map_cons, counted, if_pos observed, List.filterMap_cons_none rfl, ih,
            List.filter_cons_of_neg (by simp [observed])]
      | false =>
          have number : (counted conditions value).reading =
              some (Float.ofNat (countMeeting conditions value)) := by
            rw [counted, if_neg (by simp [observed])]
            rfl
          rw [List.map_cons, List.filterMap_cons_some number, ih,
            List.filter_cons_of_pos (by simp [observed])]
          rfl

theorem sum_observed (values : List Value) :
    ((values.filter fun value => !value.leaves.isEmpty).map (countMeeting conditions)).sum =
      countMeeting conditions (.list values) := by
  rw [countMeeting_list]
  induction values with
  | nil => rfl
  | cons value rest ih =>
      cases observed : value.leaves.isEmpty with
      | true => simpa [observed, countMeeting_of_unobserved observed] using ih
      | false => simpa [observed] using ih

theorem counted_list {values : List Value}
    (few : countMeeting conditions (.list values) < 2 ^ 53) :
    counted conditions (.list values) =
      if (values.map (counted conditions)).all Value.isMissing then .missing
      else .number (Number.sum ((values.map (counted conditions)).filterMap Value.reading)) := by
  have flatten : Value.leaves (.list values) = [] ↔ ∀ value ∈ values, value.leaves = [] := by
    rw [Value.leaves_list, Value.flatten_eq_flatMap, List.flatMap_eq_nil_iff]
  have none : (values.map (counted conditions)).all Value.isMissing =
      (Value.leaves (.list values)).isEmpty := by
    rw [Bool.eq_iff_iff, List.isEmpty_iff, flatten]
    simp [List.all_map, isMissing_counted]
  rw [none, readings_counted, counted]
  split
  · rfl
  · rename_i some
    have observed : ((values.filter fun value => !value.leaves.isEmpty).map
        (countMeeting conditions)) ≠ [] := by
      intro empty
      refine some (List.isEmpty_iff.mpr (flatten.mpr fun value member => ?_))
      simpa using List.filter_eq_nil_iff.mp (List.map_eq_nil_iff.mp empty) value member
    rw [Number.sum_ofNat observed (by rwa [sum_observed]), sum_observed]

end Plan

theorem Catalog.valueKind_of_repetitions {catalog : Catalog} {operator : Operator} {cycle : Key}
    {conditions : List (KeyInfo × Float)} {sum denominator : Option KeyInfo}
    (found : catalog.plan operator = .ok (.repetitions cycle conditions sum denominator)) :
    ∃ info, catalog.resolve cycle = .ok info ∧ info.valueKind = .cycle := by
  have kind := kind_of_plan found
  cases operator with
  | repetitions reference conditions sum denominator =>
      simp only [plan, repetitionsPlan, bind_eq_ok] at found
      obtain ⟨⟨key, info⟩, referred, accepted⟩ := found
      by_cases isCycle : info.valueKind = .cycle
      · simp only [isCycle, ne_eq, not_true, if_false, bind_eq_ok, pure_eq_ok] at accepted
        obtain ⟨_, _, _, _, _, _, same⟩ := accepted
        cases same
        exact ⟨info, reference_known referred, isCycle⟩
      · simp only [ne_eq, isCycle, not_false_eq_true, if_true] at accepted
        cases accepted
  | _ => cases kind

theorem Catalog.plan_of_counting {catalog : Catalog} {reference : String}
    {conditions : Dictionary String Json} {plan : Plan}
    (found : catalog.plan (.repetitions reference conditions none none) = .ok plan) :
    ∃ cycle checked, plan = .repetitions cycle checked none none := by
  simp only [Catalog.plan, repetitionsPlan, counterInCycle, bind_eq_ok] at found
  obtain ⟨⟨key, info⟩, _, accepted⟩ := found
  split at accepted
  · cases accepted
  · simp only [bind_eq_ok, pure_eq_ok] at accepted
    obtain ⟨_, _, _, rfl, _, rfl, rfl⟩ := accepted
    exact ⟨_, _, rfl⟩

theorem Environment.settle_repetitions {σ : Type} {environment : Environment} {source : Source σ}
    {stat : Stat} {cycle : Key} {conditions : List (KeyInfo × Float)}
    (plan : stat.plan = .repetitions cycle conditions none none) {subject : Subject}
    {observed : Value} (observes : environment.observe source cycle subject = pure observed)
    (few : Plan.countMeeting conditions observed < 2 ^ 53) :
    environment.settle source stat subject = pure (Plan.counted conditions observed) := by
  simp only [settle, run, plan, runRepetitions, observes, pure_bind, Value.flatten_cons,
    Value.flatten_nil, List.append_nil, Plan.amount_none few]
  rw [Plan.counted, Plan.countMeeting]
  split
  · rfl
  · rfl

namespace Event

variable {event : Event} {key : Key} {info : KeyInfo}

theorem kind_of_official_ne_cycle (results : OfficialResults) (id : String) :
    (results.info id).kind ≠ .cycle := by
  change ((results.sample? id).map FieldKind.infer).getD .number ≠ .cycle
  cases results.sample? id with
  | none => nofun
  | some recorded => cases recorded <;> nofun

theorem Reachable.space_of_cycle (reachable : event.Reachable)
    (resolved : event.catalog.resolve key = .ok info) (isCycle : info.kind = .cycle) :
    key.space = .result := by
  have space : info.key.space = key.space := by
    rw [Catalog.key_of_resolve resolved]
    rfl
  by_cases smart : key.space = .smart
  · rw [reachable.kind_of_stat smart resolved] at isCycle
    cases isCycle
  rcases reachable.written smart resolved with ⟨field, inField⟩ | ⟨official, id, rfl⟩ | isIdentity
  · rw [← space, Catalog.key_of_mem_infos inField]
    rfl
  · exact absurd isCycle (kind_of_official_ne_cycle official id)
  · have others : ∀ info ∈ identityInfos, info.kind ≠ .cycle := by decide
    exact absurd isCycle (others info isIdentity)

theorem Reachable.isTeamScoped_of_repeats (reachable : event.Reachable) {stat : Stat}
    (member : stat ∈ event.stats.stats) {cycle : Key} {conditions : List (KeyInfo × Float)}
    {sum denominator : Option KeyInfo}
    (plan : stat.plan = .repetitions cycle conditions sum denominator) (once : Bool) :
    (stat.rescoped stat.definition.id once).isTeamScoped = once := by
  obtain ⟨catalog, planned, _⟩ := reachable.compiled member
  have kind := Catalog.kind_of_plan planned
  rw [plan] at kind
  simp [Stat.isTeamScoped, Stat.rescoped, StatDefinition.rescoped, StatDefinition.isTeamScoped,
    ← kind, Plan.kind]

section
variable (reachable : event.Reachable) {stat : Stat} (member : stat ∈ event.stats.stats)
  {cycle : Key} {conditions : List (KeyInfo × Float)}
  (plan : stat.plan = .repetitions cycle conditions none none)
  (resolved : event.catalog.resolve cycle = .ok info)
include reachable member plan resolved

theorem Reachable.space_of_repeats : cycle.space = .result := by
  obtain ⟨catalog, planned, kept⟩ := reachable.compiled member
  rw [plan] at planned
  obtain ⟨other, known, isCycle⟩ := Catalog.valueKind_of_repetitions planned
  obtain rfl : other = info := Except.ok.inj (known.symm.trans (kept resolved))
  exact reachable.space_of_cycle resolved (KeyInfo.kind_of_cycle isCycle)

theorem Reachable.read_repetitions {once : Bool} {subject place : Subject}
    (scope : (stat.rescoped stat.definition.id once).scope subject = place)
    (inScope : once ∨ subject.isMatch)
    (few : Plan.countMeeting conditions (event.snapshot.readResult info place none) < 2 ^ 53) :
    (event.rescoped stat.definition.id once).read stat.key subject none =
      .ok (Plan.counted conditions (event.snapshot.readResult info place none)) := by
  have sound : (event.rescoped stat.definition.id once).environment.Sound :=
    reachable.rescoped.sound
  have kept : stat.rescoped stat.definition.id once ∈
      (event.rescoped stat.definition.id once).stats.stats := List.mem_map_of_mem member
  have seen : (event.rescoped stat.definition.id once).read cycle place none =
      .ok (event.snapshot.readResult info place none) := by
    have known : (event.rescoped stat.definition.id once).catalog.resolve cycle = .ok info :=
      resolved
    exact read_result known (reachable.space_of_repeats member plan resolved) place none
  have counts : (stat.rescoped stat.definition.id once).plan =
    .repetitions cycle conditions none none := plan
  have settled := Environment.settle_repetitions counts (observe_of_read sound seen) few
  have key : (stat.rescoped stat.definition.id once).key = stat.key := Stat.key_rescoped
  rw [← scope] at settled ⊢
  rw [← key]
  refine read_settled sound kept ?_ settled
  rwa [reachable.isTeamScoped_of_repeats member plan once]

end

/-- Pooling counted repetitions. Take a stat that counts the repetitions of a column that is
recorded in matches, and the same stat computed in each match and computed once for a team. For any
team, the stat in each match is missing or a count, the stat once for the team is the sum of those
that are there, and it is missing exactly if there are none: if the stat is missing in all of the
team's matches, or the team has no matches. That there are fewer repetitions to count than two to
the fifty-third is what makes counting exact. -/
theorem repetitions_pooled (reachable : event.Reachable) {stat : Stat}
    (member : stat ∈ event.stats.stats) {cycle : Key} {conditions : List (KeyInfo × Float)}
    (plan : stat.plan = .repetitions cycle conditions none none)
    (resolved : event.catalog.resolve cycle = .ok info) (played : info.mode = .played) (team : Nat)
    (few : Plan.countMeeting conditions
      (event.snapshot.readResult info (Subject.ofTeam team) none) < 2 ^ 53) :
    let inEach := event.rescoped stat.definition.id false
    let forTeam := event.rescoped stat.definition.id true
    ∃ value : String → Value,
      (∀ matchKey ∈ event.snapshot.matchKeys team,
        inEach.read stat.key (Subject.inMatch team matchKey) none = .ok (value matchKey) ∧
        (value matchKey = .missing ∨
          ∃ count : Nat, value matchKey = .number (Float.ofNat count))) ∧
      let values := (event.snapshot.matchKeys team).map value
      inEach.read stat.key (Subject.ofTeam team) none = .ok (.list values) ∧
      forTeam.read stat.key (Subject.ofTeam team) none =
        .ok (if values.all Value.isMissing then .missing
          else .number (Number.sum (values.filterMap Value.reading))) := by
  intro inEach forTeam
  have perMatch := reachable.isTeamScoped_of_repeats member plan false
  have once := reachable.isTeamScoped_of_repeats member plan true
  let seen (matchKey : String) : Value :=
    event.snapshot.readResult info (Subject.inMatch team matchKey) none
  have whole : event.snapshot.readResult info (Subject.ofTeam team) none =
      .list ((event.snapshot.matchKeys team).map seen) :=
    event.snapshot.readResult_ofTeam played team none
  have read : ∀ matchKey ∈ event.snapshot.matchKeys team,
      inEach.read stat.key (Subject.inMatch team matchKey) none =
        .ok (Plan.counted conditions (seen matchKey)) := by
    intro matchKey listed
    have inMatches : seen matchKey ∈ (event.snapshot.matchKeys team).map seen :=
      List.mem_map_of_mem listed
    refine reachable.read_repetitions member plan resolved ?_ (Or.inr rfl) ?_
    · simp [Stat.scope, perMatch]
    · exact Nat.lt_of_le_of_lt (Plan.countMeeting_le inMatches) (whole ▸ few)
  refine ⟨fun matchKey => Plan.counted conditions (seen matchKey),
    fun matchKey listed => ⟨read matchKey listed, ?_⟩, ?_, ?_⟩
  · simp only [Plan.counted]
    split
    · exact Or.inl rfl
    · exact Or.inr ⟨_, rfl⟩
  · have sound : inEach.environment.Sound := reachable.rescoped.sound
    have kept : stat.rescoped stat.definition.id false ∈ inEach.stats.stats :=
      List.mem_map_of_mem member
    have key : (stat.rescoped stat.definition.id false).key = stat.key := Stat.key_rescoped
    rw [← key] at read ⊢
    exact read_ofTeam sound kept perMatch read
  · have scope : (stat.rescoped stat.definition.id true).scope (Subject.ofTeam team) =
        Subject.ofTeam team := by
      rw [Stat.scope, if_pos once]
      rfl
    have count := reachable.read_repetitions member plan resolved scope (Or.inl rfl) few
    rw [whole] at few count
    rw [Plan.counted_list few, List.map_map] at count
    exact count

theorem definition_of_ofInputs {records : List Record} {config : Configuration}
    {official : OfficialResults} {settings : Settings} {stat : Stat}
    (member : stat ∈ (ofInputs records config official settings).stats.stats) :
    stat.definition ∈ config.definitions := by
  have kept : (ofInputs records config official settings).stats.stats = _ :=
    StatSet.stats_ofList (Validation.stats_nodup _ _)
  rw [kept] at member
  obtain ⟨definition, first, compiles⟩ :=
    Validation.mem_candidates.mp (Validation.mem_stats.mp member).1
  obtain ⟨_, before, after, same, _⟩ := first
  rw [(Catalog.compile_eq_ok compiles).1, same]
  simp

def shots : Event :=
  let field (id : String) (kind : FieldKind) (cycle : Option String) : FieldDefinition :=
    ⟨id, id, kind, .played, [], none, .uniform false, cycle⟩
  let shot (hit : Bool) : CycleEntry := [("hit", .bool hit)]
  let record (matchKey : String) (entries : List CycleEntry) : Record :=
    ⟨7, some matchKey, none, .played, false, "", false, none, none, none,
      Dictionary.ofList [("shots", .cycles entries)], none, none⟩
  ofInputs [record "a_qm1" [shot true, shot false], record "a_qm2" [shot true]]
    { Configuration.empty with
      fields := [field "shots" .cycle none, field "hit" .boolean (some "shots")]
      definitions :=
        [⟨"hits", "", .repetitions "shots" (Dictionary.ofList [("hit", .bool true)]) none none,
          false, true, none⟩] }
    OfficialResults.empty Settings.standard

theorem matchKeys_shots : shots.snapshot.matchKeys 7 = ["a_qm1", "a_qm2"] :=
  Snapshot.matchKeys_eq_keys (by decide +kernel) (by decide +kernel)

theorem repetitions_pooled_shots :
    ∃ stat ∈ shots.stats.stats, ∃ cycle conditions info,
      stat.plan = .repetitions cycle conditions none none ∧
      shots.catalog.resolve cycle = .ok info ∧ info.mode = .played ∧
      Plan.countMeeting conditions
        (shots.snapshot.readResult info (Subject.ofTeam 7) none) < 2 ^ 53 ∧
      ∃ value : String → Value,
        let values := ["a_qm1", "a_qm2"].map value
        (shots.rescoped stat.definition.id false).read stat.key (Subject.ofTeam 7) none =
          .ok (.list values) ∧
        (shots.rescoped stat.definition.id true).read stat.key (Subject.ofTeam 7) none =
          .ok (if values.all Value.isMissing then .missing
            else .number (Number.sum (values.filterMap Value.reading))) := by
  have reads : ∃ stat ∈ shots.stats.stats, stat.plan.keys = [Key.result "shots"] := by
    decide +kernel
  have column : (shots.catalog.resolve (Key.result "shots")).toOption.map (fun info =>
      (info.mode, ["a_qm1", "a_qm2"].map fun matchKey => (Plan.repetitionsOf
        (shots.snapshot.readResult info (Subject.inMatch 7 matchKey) none).leaves).length)) =
          some (.played, [2, 1]) := by
    decide +kernel
  have reachable : shots.Reachable := Reachable.ofInputs _ _ _ _
  obtain ⟨stat, member, keys⟩ := reads
  obtain ⟨cycle, conditions, plan⟩ : ∃ cycle conditions,
      stat.plan = .repetitions cycle conditions none none := by
    obtain ⟨catalog, planned, _⟩ := reachable.compiled member
    have defined := definition_of_ofInputs member
    rw [List.mem_singleton.mp defined] at planned
    exact Catalog.plan_of_counting planned
  rw [plan] at keys
  obtain rfl : cycle = Key.result "shots" := List.head_eq_of_cons_eq keys
  cases resolved : shots.catalog.resolve (Key.result "shots") with
  | error error => simp [resolved, Except.toOption] at column
  | ok info =>
      simp only [resolved, Except.toOption, Option.map_some, Option.some.injEq, Prod.mk.injEq,
        List.map_cons, List.map_nil, List.cons.injEq, and_true] at column
      obtain ⟨played, two, one⟩ := column
      have few : Plan.countMeeting conditions
          (shots.snapshot.readResult info (Subject.ofTeam 7) none) < 2 ^ 53 := by
        have first := two ▸ List.length_filter_le (Plan.meets conditions) _
        have second := one ▸ List.length_filter_le (Plan.meets conditions) _
        rw [shots.snapshot.readResult_ofTeam played, matchKeys_shots, Plan.countMeeting_list]
        exact Nat.lt_of_le_of_lt (Nat.add_le_add first (Nat.add_le_add second le_rfl))
          (show 2 + (1 + 0) < 2 ^ 53 by decide)
      obtain ⟨value, _, pooled⟩ :=
        repetitions_pooled reachable member plan resolved played 7 few
      rw [matchKeys_shots] at pooled
      exact ⟨stat, member, _, conditions, info, plan, resolved, played, few, value, pooled⟩

end Event

end Scouting

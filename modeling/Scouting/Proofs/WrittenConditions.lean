import Scouting.Proofs.Misreadings

/-!
Conditions that are written as values. Unless it is misread, a condition selects what was recorded
as it is written: a repetition passes it, and so does a match with nothing else recorded in it.
-/

namespace Scouting

theorem Plan.meets_of_reading {conditions : List (KeyInfo × Float)} {entry : CycleEntry}
    (met : ∀ condition ∈ conditions, ∃ recorded,
      entry.lookup condition.1.key.id = some recorded ∧
      (condition.1.observe recorded).reading = some condition.2 ∧ condition.2 == condition.2) :
    meets conditions entry := by
  refine List.all_eq_true.mpr fun condition member => ?_
  obtain ⟨recorded, found, reading, same⟩ := met condition member
  rw [KeyInfo.observeEntry, found]
  simp only [reading]
  exact same

theorem Environment.passes_of_lone {σ : Type} {environment : Environment} {source : Source σ}
    {condition : Key} {info : KeyInfo} {subject : Subject} {observed value : Value} {target : Float}
    (resolved : environment.catalog.resolve condition = .ok info) (whole : condition.option = none)
    (observes : environment.observe source condition subject = pure observed)
    (lone : observed.leaves = [value]) (fits : info.Fits value)
    (reading : value.reading = some target) (same : target == target) :
    environment.passes source condition .equal target subject = pure true := by
  have mean := KeyInfo.reading_aggregate_lone fits reading lone
  simp only [passes, scalarWith, observes, pure_bind, Catalog.aggregate_eq resolved, KeyInfo.pool,
    whole, mean, Comparison.holds, same]

namespace Catalog

variable {catalog : Catalog}

theorem reference_of_kept {kept : Catalog} {text : String} {key : Key} {info : KeyInfo}
    (fewer : ∀ {key info}, kept.resolve key = .ok info → catalog.resolve key = .ok info)
    (known : kept.Knows key) (found : catalog.reference text = .ok (key, info)) :
    kept.reference text = .ok (key, info) := by
  have isSome {key : Key} (whole : key.option = none) (inKept : (kept.find? key).isSome) :
      (catalog.find? key).isSome := by
    obtain ⟨info, resolved⟩ := knows_of_find? whole inKept
    have found := find?_of_knows ⟨info, fewer resolved⟩
    rwa [Key.base_of_whole whole] at found
  simp only [reference, bind_eq_ok, asReference_eq_ok, pure_eq_ok] at found ⊢
  obtain ⟨_, meant, _, resolved, same⟩ := found
  cases same
  obtain ⟨other, keptResolved⟩ := known
  obtain rfl : other = info := Except.ok.inj ((fewer keptResolved).symm.trans resolved)
  refine ⟨key, ?_, other, keptResolved, rfl⟩
  simp only [resolveReference] at meant ⊢
  split at meant
  · rename_i pointed
    rw [if_pos pointed]
    simp only [parse, bind_eq_ok, pure_eq_ok] at meant ⊢
    obtain ⟨parsed, isKey, _, _, rfl⟩ := meant
    exact ⟨parsed, isKey, other, keptResolved, rfl⟩
  · rename_i plain
    rw [if_neg plain]
    split at meant
    · rename_i first
      cases meant
      obtain ⟨_, before, after, listed, passed⟩ := List.find?_eq_some_iff_append.mp first
      have whole : ∀ other ∈ before ++ key :: after, other.option = none := by
        intro other member
        rw [← listed] at member
        obtain ⟨_, _, rfl⟩ := List.mem_map.mp member
        rfl
      have present := find?_of_knows ⟨_, keptResolved⟩
      rw [Key.base_of_whole (whole key (by simp))] at present
      have alsoFirst : (implied.map fun space => Key.plain space (Text.trimmed text)).find?
          (fun key => (kept.find? key).isSome) = some key := by
        refine List.find?_eq_some_iff_append.mpr ⟨present, before, after, listed, ?_⟩
        intro earlier member
        have absent : (catalog.find? earlier).isSome = false := by simpa using passed earlier member
        rw [Bool.not_eq_true', Bool.eq_false_iff]
        intro inKept
        have there := isSome (whole earlier (List.mem_append_left _ member)) inKept
        exact Bool.eq_false_iff.mp absent there
      rw [alsoFirst]
    · cases meant

theorem filter_of_plan {key : Option String} {text : String} {comparison : Comparison}
    {value : Json} {plan : Plan}
    (found : catalog.plan (.filter key text comparison value) = .ok plan) :
    ∃ inner condition info target, plan = .filter inner condition comparison target ∧
      catalog.reference text = .ok (condition, info) ∧ info.target value = .ok target ∧
      (key = none → inner = none) := by
  simp only [Catalog.plan, filterPlan, bind_eq_ok] at found
  obtain ⟨⟨condition, info⟩, referred, accepted⟩ := found
  split at accepted
  · cases accepted
  · simp only [bind_eq_ok, pure_eq_ok] at accepted
    obtain ⟨inner, kept, target, written, rfl⟩ := accepted
    refine ⟨inner, condition, info, target, rfl, referred, written, ?_⟩
    rintro rfl
    exact (pure_eq_ok.mp kept).symm

theorem conditions_of_plan {reference : String} {given : Dictionary String Json}
    {sum denominator : Option String} {plan : Plan}
    (found : catalog.plan (.repetitions reference given sum denominator) = .ok plan) :
    ∃ cycle conditions counted whole, plan = .repetitions cycle conditions counted whole ∧
      (∀ written ∈ given.entries, ∃ condition ∈ conditions,
        catalog.inCycle cycle written.1 = .ok condition.1 ∧
        condition.1.target written.2 = .ok condition.2) ∧
      ∀ condition ∈ conditions, ∃ written ∈ given.entries,
        catalog.inCycle cycle written.1 = .ok condition.1 ∧
        condition.1.target written.2 = .ok condition.2 := by
  simp only [Catalog.plan, repetitionsPlan, bind_eq_ok] at found
  obtain ⟨⟨cycle, info⟩, _, accepted⟩ := found
  split at accepted
  · cases accepted
  · simp only [bind_eq_ok, pure_eq_ok] at accepted
    obtain ⟨conditions, checked, counted, _, whole, _, rfl⟩ := accepted
    refine ⟨cycle, conditions, counted, whole, rfl, ?_, ?_⟩
    · intro written member
      obtain ⟨condition, inConditions, compiled⟩ := exists_result_of_mapM checked member
      simp only [bind_eq_ok, pure_eq_ok] at compiled
      obtain ⟨input, inCycle, target, isTarget, rfl⟩ := compiled
      exact ⟨_, inConditions, inCycle, isTarget⟩
    · intro condition member
      obtain ⟨written, inGiven, compiled⟩ := exists_of_mem_mapM checked member
      simp only [bind_eq_ok, pure_eq_ok] at compiled
      obtain ⟨input, inCycle, target, isTarget, rfl⟩ := compiled
      exact ⟨written, inGiven, inCycle, isTarget⟩

theorem inCycle_of_kept {kept : Catalog} {cycle : Key} {text : String} {info : KeyInfo}
    (fewer : ∀ {key info}, kept.resolve key = .ok info → catalog.resolve key = .ok info)
    (inputs : ∀ {key info}, catalog.resolve key = .ok info → info.cycle ≠ none →
      kept.resolve key = .ok info)
    (found : catalog.inCycle cycle text = .ok info) : kept.inCycle cycle text = .ok info := by
  simp only [inCycle, bind_eq_ok] at found ⊢
  obtain ⟨⟨key, input⟩, referred, accepted⟩ := found
  split at accepted
  · rename_i inside
    have known := inputs (reference_known referred) fun outside => by
      rw [outside] at inside
      cases inside
    refine ⟨(key, input), reference_of_kept fewer ⟨input, known⟩ referred, ?_⟩
    rw [if_pos inside]
    exact accepted
  · cases accepted

end Catalog

theorem Validation.resolve_of_registered {definitions : List StatDefinition} {catalog : Catalog}
    (noStats : HasNoStats catalog) {key : Key} {info : KeyInfo}
    (resolved : (registered definitions catalog).resolve key = .ok info)
    (isInput : info.cycle ≠ none) :
    (ofDefinitions definitions catalog).catalog.resolve key = .ok info := by
  obtain ⟨found, admitted⟩ := Catalog.resolve_eq_ok.mp resolved
  have kept : key.base ∉ (excluded definitions catalog).keys := by
    intro bad
    obtain ⟨definition, first, same⟩ :=
      isFirst_of_registered noStats (smart_of_excluded bad) (by rw [found]; rfl)
    rw [← same, registered, find?_register_of_mem (accept_nodup [] definitions)
      (mem_accept_iff_isFirst.mpr first)] at found
    cases found
    exact isInput rfl
  refine Catalog.resolve_eq_ok.mpr ⟨?_, admitted⟩
  rw [ofDefinitions_eq]
  simp only [Catalog.find?_remove, if_neg kept, found]

namespace Event

variable {event : Event} {stat : Stat}

theorem Reachable.compiled_inputs (reachable : event.Reachable)
    (member : stat ∈ event.stats.stats) :
    ∃ catalog : Catalog, catalog.plan stat.definition.operator = .ok stat.plan ∧
      (∀ {key info}, event.catalog.resolve key = .ok info → catalog.resolve key = .ok info) ∧
      ∀ {key info}, catalog.resolve key = .ok info → info.cycle ≠ none →
        event.catalog.resolve key = .ok info := by
  obtain ⟨definitions, fields, official, known, kept⟩ := reachable.validated
  rw [kept] at member
  obtain ⟨_, _, compiles⟩ := Validation.mem_candidates.mp (Validation.mem_stats.mp member).1
  rw [known]
  exact ⟨_, Catalog.plan_of_compile compiles, Validation.resolve_registered,
    Validation.resolve_of_registered (Validation.hasNoStats_ofFields fields official)⟩

/-- Does a repetition hold what is written for the input that a condition names? -/
def HoldsWritten (event : Event) (cycle : Key) (entry : CycleEntry) (written : String × Json) :
    Prop :=
  ∃ info recorded, event.catalog.inCycle cycle written.1 = .ok info ∧
    entry.lookup info.key.id = some recorded ∧ info.Holds written.2 recorded

theorem read_of_passes (sound : event.environment.Sound) (member : stat ∈ event.stats.stats)
    {condition : Key} {comparison : Comparison} {target : Float} {subject : Subject}
    (plan : stat.plan = .filter none condition comparison target)
    (passes : event.environment.passes event.environment.answers condition comparison target
      subject = pure true) (perMatch : stat.isTeamScoped = false) (isMatch : subject.isMatch) :
    event.read stat.key subject none = .ok (.number 1.0) := by
  have scope : stat.scope subject = subject := by
    rw [Stat.scope, perMatch]
    rfl
  have ran : event.environment.run event.environment.answers stat subject = pure 1.0 := by
    simp only [Environment.run, plan, isMatch, if_true, Environment.runFilterInMatch, passes,
      pure_bind]
  have kept : Environment.orNone (event.environment.run event.environment.answers stat subject) =
      pure (some 1.0) := by
    rw [ran]
    rfl
  refine read_settled sound member (Or.inr isMatch) ?_
  rw [scope]
  exact Environment.settle_of_orNone kept

/-- What a condition is written as selects what was recorded as the same. A value that can be
recorded for a field and be a condition on it is one and the same number in both, unless it is
misread. So a repetition passes where each condition is written as what it holds, and a filter for
equality lets a match pass whose one observation was recorded as the filter is written: without a
key, it is one. -/
theorem written_selects (reachable : event.Reachable) :
    (∀ (info : KeyInfo) (value : Json) (recorded : Recorded) (observed target : Float),
      Recorded.ofJson? value = some recorded →
      (info.observe recorded).reading = some observed → info.target value = .ok target →
      (observed = target ↔ ¬info.Misread value)) ∧
    (∀ stat ∈ event.stats.stats, ∀ reference given sum denominator,
      stat.definition.operator = .repetitions reference given sum denominator →
      ∃ cycle conditions counted whole, stat.plan = .repetitions cycle conditions counted whole ∧
        (∀ written ∈ given.entries, ∃ info target,
          event.catalog.inCycle cycle written.1 = .ok info ∧ info.target written.2 = .ok target) ∧
        ∀ entry, (∀ written ∈ given.entries, event.HoldsWritten cycle entry written) →
          Plan.meets conditions entry) ∧
    ∀ stat ∈ event.stats.stats, ∀ key text value,
      stat.definition.operator = .filter key text .equal value →
      ∃ inner condition info target, stat.plan = .filter inner condition .equal target ∧
        event.catalog.reference text = .ok (condition, info) ∧ info.target value = .ok target ∧
        (condition.option = none → ∀ subject observed recorded,
          event.read condition subject none = .ok observed →
          observed.leaves = [info.observe recorded] → info.Holds value recorded →
          event.environment.passes event.environment.answers condition .equal target subject =
            pure true ∧
          (key = none → stat.isTeamScoped = false → subject.isMatch →
            event.read stat.key subject none = .ok (.number 1.0))) := by
  refine ⟨fun _ _ _ _ _ stored reading written =>
    KeyInfo.observed_eq_target_iff stored reading written, ?_, ?_⟩
  · intro stat member reference given sum denominator operator
    obtain ⟨catalog, planned, fewer, inputs⟩ := reachable.compiled_inputs member
    rw [operator] at planned
    obtain ⟨cycle, conditions, counted, whole, plan, compiled, checked⟩ :=
      Catalog.conditions_of_plan planned
    refine ⟨cycle, conditions, counted, whole, plan, ?_, ?_⟩
    · intro written inGiven
      obtain ⟨condition, _, input, target⟩ := compiled written inGiven
      exact ⟨condition.1, condition.2, Catalog.inCycle_of_kept fewer inputs input, target⟩
    · intro entry held
      apply Plan.meets_of_reading
      intro condition inConditions
      obtain ⟨written, inGiven, input, target⟩ := checked condition inConditions
      obtain ⟨info, recorded, named, found, holds⟩ := held written inGiven
      have alsoNamed := Catalog.inCycle_of_kept fewer inputs input
      obtain rfl : info = condition.1 := Except.ok.inj (named.symm.trans alsoNamed)
      exact ⟨recorded, found, holds.reading target⟩
  · intro stat member key text value operator
    have sound := reachable.sound
    obtain ⟨catalog, planned, fewer⟩ := reachable.compiled member
    rw [operator] at planned
    obtain ⟨inner, condition, info, target, plan, referred, written, keyless⟩ :=
      Catalog.filter_of_plan planned
    have known := (sound.grounded stat member).known condition (by simp [plan, Plan.keys])
    have kept := Catalog.reference_of_kept fewer known referred
    refine ⟨inner, condition, info, target, plan, kept, written, ?_⟩
    intro whole subject observed recorded reads lone holds
    have resolved := Catalog.reference_known kept
    obtain ⟨reading, same⟩ := holds.reading written
    have fits : info.Fits (info.observe recorded) :=
      fits_of_read reachable resolved reads (by rw [lone]; exact List.mem_singleton_self _)
    have passes := Environment.passes_of_lone resolved whole (observe_of_read sound reads) lone fits
      reading same
    refine ⟨passes, ?_⟩
    rintro rfl perMatch isMatch
    obtain rfl := keyless rfl
    exact read_of_passes sound member plan passes perMatch isMatch

def aimed : Event :=
  let field (id : String) (kind : FieldKind) (options : List String) (cycle : Option String) :
      FieldDefinition :=
    ⟨id, id, kind, .played, options, none, .uniform false, cycle⟩
  let shot : CycleEntry := [("goal", .text "high"), ("hit", .bool true)]
  let fields := Dictionary.ofList
    [("shots", Recorded.cycles [shot]), ("climb", Recorded.text "hang")]
  ofInputs
    [⟨7, some "a_qm1", none, .played, false, "", false, none, none, none, fields, none, none⟩]
    { Configuration.empty with
      fields := [field "shots" .cycle [] none, field "goal" .select ["Low", "High"] (some "shots"),
        field "hit" .boolean [] (some "shots"), field "climb" .select ["None", "Hang"] none]
      definitions :=
        [⟨"hits", "", .repetitions "shots"
            (Dictionary.ofList [("goal", .text "high"), ("hit", .bool true)]) none none,
          false, false, none⟩,
          ⟨"hung", "", .filter none "climb" .equal (.text "hang"), false, false, none⟩] }
    OfficialResults.empty Settings.standard

theorem holdsWritten_aimed :
    ∀ written ∈ (Dictionary.ofList [("goal", Json.text "high"), ("hit", .bool true)]).entries,
      aimed.HoldsWritten (Key.result "shots") [("goal", .text "high"), ("hit", .bool true)]
        written := by
  have entries : (Dictionary.ofList [("goal", Json.text "high"), ("hit", .bool true)]).entries =
      [("goal", .text "high"), ("hit", .bool true)] := rfl
  have goal : (aimed.catalog.inCycle (Key.result "shots") "goal").toOption.map (fun info =>
      (info.key.id, info.kind, (info.observe (.text "high")).reading.map Float.isNaN)) =
        some ("goal", .select, some false) := by
    decide +kernel
  have hit : (aimed.catalog.inCycle (Key.result "shots") "hit").toOption.map (fun info =>
      (info.key.id, (info.observe (.bool true)).reading.map Float.isNaN)) =
        some ("hit", some false) := by
    decide +kernel
  rw [entries]
  intro written member
  rcases List.mem_cons.mp member with rfl | inRest
  · obtain ⟨info, input, facts⟩ := toOption_map_eq_some.mp goal
    simp only [Prod.mk.injEq, Option.map_eq_some_iff] at facts
    obtain ⟨id, kind, isNumber⟩ := facts
    refine ⟨info, .text "high", input, by rw [id]; rfl, rfl, isNumber, ?_⟩
    rintro (_ | ⟨counts, _, _, _⟩)
    rw [kind] at counts
    cases counts
  · obtain rfl := List.mem_singleton.mp inRest
    obtain ⟨info, input, facts⟩ := toOption_map_eq_some.mp hit
    simp only [Prod.mk.injEq, Option.map_eq_some_iff] at facts
    obtain ⟨id, isNumber⟩ := facts
    refine ⟨info, .bool true, input, by rw [id]; rfl, rfl, isNumber, ?_⟩
    rintro ⟨⟩

theorem observed_aimed {info : KeyInfo}
    (named : aimed.catalog.reference "climb" = .ok (Key.result "climb", info)) :
    (aimed.snapshot.readResult info (Subject.inMatch 7 "a_qm1") none).leaves =
        [info.observe (.text "hang")] ∧ info.Holds (.text "hang") (.text "hang") := by
  have facts : (aimed.catalog.reference "climb").toOption.map (fun named =>
      (named.2.key.id, named.2.kind, named.2.mode, named.2.cycle,
        (named.2.observe (.text "hang")).reading.map Float.isNaN)) =
      some ("climb", .select, .played, none, some false) := by
    decide +kernel
  obtain ⟨_, same, facts⟩ := toOption_map_eq_some.mp facts
  obtain rfl := Except.ok.inj (named.symm.trans same)
  simp only [Prod.mk.injEq, Option.map_eq_some_iff] at facts
  obtain ⟨id, kind, mode, cycle, number, reading, isNumber⟩ := facts
  have climbed : (aimed.snapshot.playedRecord? 7 "a_qm1").bind
      (fun record => record.fields.find? "climb") = some (.text "hang") := rfl
  obtain ⟨record, found, climb⟩ := Option.bind_eq_some_iff.mp climbed
  constructor
  · simp only [Snapshot.readResult, mode, Subject.inMatch, found, KeyInfo.observeRecord?,
      KeyInfo.observeRecord, cycle, id, climb, KeyInfo.atIndex_none]
    exact Value.leaves_of_reading reading
  · refine ⟨rfl, ⟨number, reading, isNumber⟩, ?_⟩
    rintro (_ | ⟨counts, _, _, _⟩)
    rw [kind] at counts
    cases counts

theorem written_selects_aimed :
    (∃ stat ∈ aimed.stats.stats, ∃ cycle conditions counted whole,
      stat.plan = .repetitions cycle conditions counted whole ∧
      Plan.meets conditions [("goal", .text "high"), ("hit", .bool true)]) ∧
    aimed.read (Key.smart "hung") (Subject.inMatch 7 "a_qm1") none = .ok (.number 1.0) := by
  have reachable : aimed.Reachable := Reachable.ofInputs _ _ _ _
  obtain ⟨_, repetitions, filters⟩ := written_selects reachable
  have present : (∃ stat ∈ aimed.stats.stats, stat.key = Key.smart "hits" ∧
        stat.plan.keys = [Key.result "shots"]) ∧
      ∃ stat ∈ aimed.stats.stats, stat.key = Key.smart "hung" ∧
        stat.plan.keys = [Key.result "climb"] ∧ stat.isTeamScoped = false := by
    decide +kernel
  obtain ⟨⟨hits, isHits, hitsKey, hitsReads⟩, hung, isHung, hungKey, hungReads, perMatch⟩ := present
  constructor
  · have operator : hits.definition.operator = .repetitions "shots"
        (Dictionary.ofList [("goal", .text "high"), ("hit", .bool true)]) none none := by
      rcases List.mem_cons.mp (definition_of_ofInputs isHits) with same | other
      · rw [same]
      · rw [Stat.key, List.mem_singleton.mp other] at hitsKey
        exact absurd hitsKey (by decide)
    obtain ⟨cycle, conditions, counted, whole, plan, _, meets⟩ :=
      repetitions hits isHits _ _ _ _ operator
    rw [plan] at hitsReads
    obtain rfl : cycle = Key.result "shots" := List.head_eq_of_cons_eq hitsReads
    exact ⟨hits, isHits, _, conditions, counted, whole, plan, meets _ holdsWritten_aimed⟩
  · have operator : hung.definition.operator = .filter none "climb" .equal (.text "hang") := by
      rcases List.mem_cons.mp (definition_of_ofInputs isHung) with same | other
      · rw [Stat.key, same] at hungKey
        exact absurd hungKey (by decide)
      · rw [List.mem_singleton.mp other]
    obtain ⟨inner, condition, info, target, plan, named, _, passes⟩ :=
      filters hung isHung _ _ _ operator
    rw [plan] at hungReads
    obtain rfl : condition = Key.result "climb" := by
      cases inner with
      | none => exact List.head_eq_of_cons_eq hungReads
      | some inner => cases hungReads
    have reads := read_result (Catalog.reference_known named) rfl (Subject.inMatch 7 "a_qm1") none
    obtain ⟨lone, holds⟩ := observed_aimed named
    rw [← hungKey]
    exact (passes rfl _ _ (.text "hang") reads lone holds).2 rfl perMatch rfl

def tallied : Event :=
  let field (id : String) (kind : FieldKind) (cycle : Option String) : FieldDefinition :=
    ⟨id, id, kind, .played, [], none, .uniform false, cycle⟩
  let fields := Dictionary.ofList [("shots", Recorded.cycles [[("hit", .integer 2)]])]
  ofInputs
    [⟨7, some "a_qm1", none, .played, false, "", false, none, none, none, fields, none, none⟩]
    { Configuration.empty with
      fields := [field "shots" .cycle none, field "hit" .boolean (some "shots")]
      definitions :=
        [⟨"hits", "", .repetitions "shots" (Dictionary.ofList [("hit", .integer 2)]) none none,
          false, false, none⟩] }
    OfficialResults.empty Settings.standard

/-- Two is recorded as true, and a condition for two passes it over. -/
theorem two_passed_over :
    (∃ info, tallied.catalog.inCycle (Key.result "shots") "hit" = .ok info ∧
      Recorded.ofJson? (.integer 2) = some (.integer 2) ∧
      (info.observe (.integer 2)).reading = some 1.0 ∧
      info.target (.integer 2) = .ok 2.0 ∧ (1.0 : Float) ≠ 2.0) ∧
    (tallied.read (Key.smart "hits") (Subject.inMatch 7 "a_qm1") none).toOption.bind
      Value.reading = some 0.0 := by
  have facts : (tallied.catalog.inCycle (Key.result "shots") "hit").toOption.map
      (fun info => (info.observe (.integer 2)).reading) = some (some 1.0) := by
    decide +kernel
  constructor
  · obtain ⟨info, input, reading⟩ := toOption_map_eq_some.mp facts
    exact ⟨info, input, rfl, reading, rfl, by decide +kernel⟩
  · decide +kernel

end Event

end Scouting

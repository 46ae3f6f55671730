import Scouting.Proofs.Listing
import Scouting.Proofs.NarrowedKeys

/-!
What maps make of observations. Validation checks the size of a map's table by the kind of its key,
evaluation goes by the shape of each observation. The two agree for every observation but one shape:
several options picked at once, under a key that is not narrowed to one of them, find no entry in a
table that has one for each option, and are passed over.
-/

namespace Scouting

theorem Aggregation.ofReading_mean_eq_missing {numbers : List Float} :
    Value.ofReading (mean numbers) = .missing ↔ numbers = [] := by
  rw [Value.ofReading_eq_missing]
  cases numbers with
  | nil => exact ⟨fun _ => rfl, fun _ => rfl⟩
  | cons first rest => simp [mean]

namespace KeyInfo

theorem kind_of_flags {kind : FieldKind} {flags : List Bool} (suits : suits kind (.flags flags)) :
    kind = .multiselect := by
  cases kind <;> first | rfl | cases suits

/-- May a value be read for a key? -/
structure Fits (info : KeyInfo) (value : Value) : Prop where
  /-- The shape suits the kind of the key. -/
  shape : suits info.kind value
  /-- An option that is chosen is declared. -/
  declared : ∀ index, value = .choice index → index < info.options.length

/-- Is this a shape that observations of a kind of value have? -/
def HasShape (value : Value) : ValueKind → Prop
  | .boolean => ∃ truth, value = .bool truth
  | .numeric => ∃ number, value = .number number
  | .enumerated _ => (∃ index, value = .choice index) ∨ ∃ flags, value = .flags flags
  | .text => ∃ text, value = .text text
  | .cycle => ∃ entries, value = .cycles entries

theorem hasShape_of_suits {info : KeyInfo} {value : Value} (suits : suits info.kind value) :
    HasShape value info.valueKind := by
  simp only [valueKind]
  cases kind : info.kind <;> rw [kind] at suits <;> cases value <;>
    first
    | cases suits; done
    | simp [HasShape]

theorem options_of_valueKind {info : KeyInfo} {options : Nat}
    (kind : info.valueKind = .enumerated options) : options = info.options.length := by
  simp only [valueKind] at kind
  split at kind <;> cases kind <;> rfl

theorem chosen_declared {info : KeyInfo} {recorded : Recorded} {index : Nat}
    (picked : info.chosen recorded = .choice index) : index < info.options.length := by
  simp only [chosen] at picked
  split at picked
  · split at picked
    · rename_i declared
      cases picked
      exact declared
    · cases picked
  · split at picked
    · rename_i found
      cases picked
      exact (List.findIdx?_eq_some_iff_getElem.mp found).1
    · cases picked
  · cases picked

theorem fits_of_observes {info : KeyInfo} {value : Value} (observes : info.Observes value) :
    info.Fits value := by
  refine ⟨suits_of_observes observes, ?_⟩
  rintro index rfl
  have suits := suits_of_observes observes
  obtain ⟨recorded, member⟩ := observes
  have ofChosen : Value.choice index ∈ (info.chosen recorded).leaves →
      index < info.options.length := by
    intro within
    rcases info.chosen_eq recorded with missing | ⟨other, picked⟩
    · simp [missing] at within
    · obtain rfl : index = other := by simpa [picked, Value.leaves] using within
      exact chosen_declared picked
  cases kind : info.kind <;> rw [kind] at suits <;> simp only [observe, kind] at member
  case select | dropdown => exact ofChosen member
  case multiselect =>
    split at member
    · simp [Value.leaves] at member
    · exact ofChosen member
  all_goals cases suits

end KeyInfo

namespace Catalog

theorem mem_of_find?_foldl_insert {catalog : Catalog} {infos : List KeyInfo} {key : Key}
    {info : KeyInfo} (found : (infos.foldl insert catalog).find? key = some info) :
    info ∈ infos ∨ catalog.find? key = some info := by
  induction infos generalizing catalog with
  | nil => exact Or.inr found
  | cons first rest ih =>
      rcases ih found with later | here
      · exact Or.inl (List.mem_cons_of_mem _ later)
      · rw [find?_insert] at here
        split at here
        · cases here
          exact Or.inl List.mem_cons_self
        · exact Or.inr here

theorem mem_of_find?_ofFields {fields : List FieldDefinition} {official : OfficialResults}
    {key : Key} {info : KeyInfo} (found : (ofFields fields official).find? key = some info) :
    (∃ field ∈ fields, info ∈ field.infos) ∨ (∃ id, official.info id = info) ∨
      info ∈ identityInfos := by
  rcases mem_of_find?_foldl_insert found with listed | nothing
  · simp only [List.mem_append, List.mem_flatMap, List.mem_map] at listed
    rcases listed with (ofField | ⟨id, _, same⟩) | isIdentity
    · exact Or.inl ofField
    · exact Or.inr (Or.inl ⟨id, same⟩)
    · exact Or.inr (Or.inr isIdentity)
  · cases nothing

theorem table_of_plan {catalog : Catalog} {operator : Operator} {key : Key} {table : List Float}
    {scale offset : Float} (found : catalog.plan operator = .ok (.map key table scale offset)) :
    ∃ info needed, catalog.resolve key = .ok info ∧ tableSize? key info = .ok needed ∧
      ∀ size ∈ needed, table.length = size := by
  have kind := kind_of_plan found
  cases operator with
  | map reference values factor shift =>
      simp only [plan, mapPlan, bind_eq_ok] at found
      obtain ⟨⟨other, info⟩, referred, needed, sized, accepted⟩ := found
      cases needed with
      | none =>
          cases pure_eq_ok.mp accepted
          exact ⟨info, none, reference_known referred, sized, by simp⟩
      | some size =>
          by_cases fits : values.length = size
          · simp only [fits, ne_eq, not_true, if_false] at accepted
            cases pure_eq_ok.mp accepted
            exact ⟨info, some size, reference_known referred, sized, by simpa using fits⟩
          · simp only [ne_eq, fits, not_false_eq_true, if_true] at accepted
            cases accepted
  | _ => cases kind

end Catalog

/-- Are these several options, under a key that is not narrowed to one? -/
def Plan.PassedOver (option : Option Nat) (value : Value) : Prop :=
  option = none ∧ ∃ flags, value = .flags flags

theorem Plan.mapped_isSome_iff {info : KeyInfo} {key : Key} {needed : Option Nat}
    {table : List Float} (sized : Catalog.tableSize? key info = .ok needed)
    (enough : ∀ size ∈ needed, table.length = size) {value : Value} (fits : info.Fits value)
    (scale offset : Float) :
    (mapped key.option table scale offset value).isSome ↔ ¬PassedOver key.option value := by
  obtain ⟨suits, declared⟩ := fits
  have shape := KeyInfo.hasShape_of_suits suits
  cases kind : info.valueKind with
  | text =>
      simp only [Catalog.tableSize?, kind] at sized
      cases sized
  | numeric =>
      rw [kind] at shape
      obtain ⟨number, rfl⟩ := shape
      simp [mapped, Value.reading, PassedOver]
  | cycle =>
      rw [kind] at shape
      obtain ⟨entries, rfl⟩ := shape
      simp [mapped, Value.reading, PassedOver]
  | boolean =>
      rw [kind] at shape
      obtain ⟨truth, rfl⟩ := shape
      cases option : key.option with
      | some index => simp [mapped, Value.reading, PassedOver]
      | none =>
          simp only [Catalog.tableSize?, kind, option] at sized
          cases sized
          have two := enough 2 rfl
          have filled : table.isEmpty = false := by
            cases table with
            | nil => cases two
            | cons first rest => rfl
          have entry : truth.toNat < table.length := by
            cases truth <;> simp [two]
          simp [mapped, PassedOver, filled, entry]
  | enumerated options =>
      obtain rfl := KeyInfo.options_of_valueKind kind
      rw [kind] at shape
      obtain ⟨index, rfl⟩ | ⟨flags, rfl⟩ := shape
      · cases option : key.option with
        | some other => simp [mapped, PassedOver]
        | none =>
            simp only [Catalog.tableSize?, kind, option] at sized
            cases sized
            have size := enough info.options.length rfl
            simp [mapped, PassedOver, size, declared index rfl]
      · cases key.option with
        | some other => simp [mapped, PassedOver]
        | none => simp [mapped, Value.reading, PassedOver]

namespace Event

variable {event : Event} {key : Key} {info : KeyInfo}

theorem Reachable.kind_of_stat (reachable : event.Reachable) (smart : key.space = .smart)
    (resolved : event.catalog.resolve key = .ok info) : info.kind = .number := by
  obtain ⟨definitions, fields, official, known, _⟩ := reachable.validated
  rw [known] at resolved
  obtain ⟨stat, member, same⟩ := Validation.stats_present
    (Validation.hasNoStats_ofFields fields official) smart ⟨info, resolved⟩
  have found := (Catalog.resolve_eq_ok.mp resolved).1
  rw [← same, Validation.find?_stat member] at found
  cases found
  rfl

theorem Reachable.written (reachable : event.Reachable) (notStat : key.space ≠ .smart)
    (resolved : event.catalog.resolve key = .ok info) :
    (∃ field : FieldDefinition, info ∈ field.infos) ∨
      (∃ (official : OfficialResults) (id : String), official.info id = info) ∨
      info ∈ identityInfos := by
  obtain ⟨definitions, fields, official, known, _⟩ := reachable.validated
  rw [known] at resolved
  have found := (Catalog.resolve_eq_ok.mp resolved).1
  have other : key.base.space ≠ .smart := notStat
  rw [Validation.find?_ofDefinitions other] at found
  exact (Catalog.mem_of_find?_ofFields found).imp (fun ⟨field, _, inField⟩ => ⟨field, inField⟩)
    (Or.imp_left fun ⟨id, same⟩ => ⟨official, id, same⟩)

theorem Reachable.mem_identityInfos (reachable : event.Reachable) (identity : key.space = .identity)
    (resolved : event.catalog.resolve key = .ok info) : info ∈ identityInfos := by
  have space : info.key.space = .identity := by
    rw [Catalog.key_of_resolve resolved]
    exact identity
  rcases reachable.written (by simp [identity]) resolved with
    ⟨field, inField⟩ | ⟨official, id, rfl⟩ | isIdentity
  · rw [Catalog.key_of_mem_infos inField] at space
    cases space
  · cases space
  · exact isIdentity

theorem fits_of_official {results : OfficialResults} {subject : Subject} {leaf : Value}
    (member : leaf ∈ (results.read info subject).leaves) : info.Fits leaf := by
  have ofRecorded {recorded : Recorded} (within : leaf ∈ (info.observe recorded).leaves) :
      info.Fits leaf := KeyInfo.fits_of_observes ⟨recorded, within⟩
  simp only [OfficialResults.read] at member
  split at member
  · split at member
    · exact ofRecorded member
    · simp at member
  · split at member
    · exact ofRecorded member
    · simp at member
    · rw [Value.leaves_list] at member
      obtain ⟨value, inMatches, within⟩ := Value.mem_flatten.mp member
      obtain ⟨entry, _, rfl⟩ := List.mem_map.mp inMatches
      exact ofRecorded within

theorem fits_number {number : Float} (kind : info.kind = .number) : info.Fits (.number number) :=
  ⟨by rw [kind]; rfl, by simp⟩

theorem fits_named? {text : Option String} {leaf : Value} (kind : info.kind = .string)
    (member : leaf ∈ (Snapshot.named? text).leaves) : info.Fits leaf := by
  cases text with
  | none => simp [Snapshot.named?] at member
  | some text =>
      simp only [Snapshot.named?, Option.map_some, Option.getD_some, Snapshot.named] at member
      split at member
      · simp at member
      · obtain rfl : leaf = .text text := by simpa [Value.leaves] using member
        exact ⟨by rw [kind]; rfl, by simp⟩

theorem fits_of_identity {snapshot : Snapshot} {subject : Subject} {leaf : Value}
    (known : info ∈ identityInfos)
    (member : leaf ∈ (snapshot.readIdentity info.key.id subject).leaves) : info.Fits leaf := by
  simp only [identityInfos, List.mem_cons, List.not_mem_nil, or_false] at known
  rcases known with rfl | rfl | rfl | rfl | rfl | rfl | rfl | rfl
  all_goals try exact fits_named? rfl member
  · change leaf ∈ (Value.number (Float.ofNat subject.team)).leaves at member
    obtain rfl := List.mem_singleton.mp (by simpa [Value.leaves] using member)
    exact fits_number rfl
  · simp only [KeyInfo.simple, Key.plain, Snapshot.readIdentity] at member
    split at member
    · obtain rfl := List.mem_singleton.mp (by simpa [Value.leaves] using member)
      exact fits_number rfl
    · simp at member

theorem fits_of_read (reachable : event.Reachable) (resolved : event.catalog.resolve key = .ok info)
    {subject : Subject} {value leaf : Value} (reads : event.read key subject none = .ok value)
    (member : leaf ∈ value.leaves) : info.Fits leaf := by
  cases space : key.space with
  | result =>
      rw [read_result resolved space] at reads
      cases reads
      exact KeyInfo.fits_of_observes (KeyInfo.observes_of_readResult member)
  | official =>
      rw [read_official resolved space] at reads
      cases reads
      exact fits_of_official member
  | identity =>
      rw [read_identity resolved space] at reads
      cases reads
      have id : key.id = info.key.id := by
        rw [Catalog.key_of_resolve resolved]
        rfl
      rw [id] at member
      exact fits_of_identity (reachable.mem_identityInfos space resolved) member
  | smart =>
      rw [read_smart reachable.sound resolved space] at reads
      cases reads
      obtain ⟨stat, found⟩ := reachable.sound.present key space ⟨info, resolved⟩
      have base : event.environment.stats.find? key.base = some stat := found
      obtain ⟨number, rfl⟩ := reachable.sound.exists_number_of_answer base member
      exact fits_number (reachable.kind_of_stat space resolved)

theorem read_map_of_observed (sound : event.environment.Sound) {stat : Stat}
    (member : stat ∈ event.stats.stats) {table : List Float} {scale offset : Float}
    (plan : stat.plan = .map key table scale offset) {subject : Subject}
    (inScope : stat.isTeamScoped ∨ subject.isMatch) {observed : Value}
    (reads : event.read key (stat.scope subject) none = .ok observed) :
    event.read stat.key subject none = .ok (Value.ofReading (Aggregation.mean
      (observed.leaves.filterMap (Plan.mapped key.option table scale offset)))) :=
  read_settled sound member inScope (Environment.settle_map plan (observe_of_read sound reads))

/-- What an accepted map makes of observations. Each observation of its key becomes a number, for
every kind of key, narrowed to an option or not, save for one shape: several options picked at once
are passed over where the key has several options to pick and is not narrowed to one. The stat is
the mean of these numbers, and it is missing exactly if all observations are passed over, so for
every other key exactly if there are none. -/
theorem map_of_observations (reachable : event.Reachable) {stat : Stat}
    (member : stat ∈ event.stats.stats) {table : List Float} {scale offset : Float}
    (plan : stat.plan = .map key table scale offset) {subject : Subject}
    (inScope : stat.isTeamScoped ∨ subject.isMatch) :
    ∃ info observed, event.catalog.resolve key = .ok info ∧
      event.read key (stat.scope subject) none = .ok observed ∧
      (∀ leaf ∈ observed.leaves,
        ((Plan.mapped key.option table scale offset leaf).isSome ↔
          ¬Plan.PassedOver key.option leaf) ∧
        (Plan.PassedOver key.option leaf → info.kind = .multiselect)) ∧
      event.read stat.key subject none = .ok (Value.ofReading (Aggregation.mean
        (observed.leaves.filterMap (Plan.mapped key.option table scale offset)))) ∧
      (event.read stat.key subject none = .ok .missing ↔
        ∀ leaf ∈ observed.leaves, Plan.PassedOver key.option leaf) := by
  have sound := reachable.sound
  obtain ⟨catalog, planned, kept⟩ := reachable.compiled member
  rw [plan] at planned
  obtain ⟨checked, needed, known, sized, enough⟩ := Catalog.table_of_plan planned
  obtain ⟨info, resolved⟩ := (sound.grounded stat member).known key (by simp [plan, Plan.keys])
  obtain rfl : checked = info := by
    rw [kept resolved] at known
    exact (Except.ok.inj known).symm
  obtain ⟨observed, reads, _⟩ := readIn_settles sound ⟨checked, resolved⟩ (stat.scope subject) none
  have value := read_map_of_observed sound member plan inScope reads
  have fits : ∀ leaf ∈ observed.leaves, checked.Fits leaf := fun leaf observes =>
    fits_of_read reachable resolved reads observes
  have mapped : ∀ leaf ∈ observed.leaves,
      ((Plan.mapped key.option table scale offset leaf).isSome ↔
        ¬Plan.PassedOver key.option leaf) := fun leaf observes =>
    Plan.mapped_isSome_iff sized enough (fits leaf observes) scale offset
  refine ⟨checked, observed, resolved, reads, fun leaf observes => ⟨mapped leaf observes, ?_⟩,
    value, ?_⟩
  · rintro ⟨_, flags, rfl⟩
    exact KeyInfo.kind_of_flags (fits _ observes).shape
  · rw [value, Except.ok.injEq, Aggregation.ofReading_mean_eq_missing,
      List.filterMap_eq_nil_iff]
    refine forall₂_congr fun leaf observes => ?_
    rw [← Option.not_isSome_iff_eq_none, mapped leaf observes, not_not]

def tagged : Event :=
  let field (id : String) (kind : FieldKind) : FieldDefinition :=
    ⟨id, id, kind, .played, ["a", "b"], none, .uniform false, none⟩
  let fields := Dictionary.ofList
    [("climb", Recorded.integer 1), ("tags", Recorded.flags [true, false])]
  ofInputs
    [⟨7, some "a_qm1", none, .played, false, "", false, none, none, none, fields, none, none⟩]
    { Configuration.empty with
      fields := [field "climb" .select, field "tags" .multiselect]
      definitions :=
        [⟨"level", "", .map "climb" [3.0, 5.0] 1.0 0.0, false, false, none⟩,
          ⟨"points", "", .map "tags" [3.0, 5.0] 1.0 0.0, false, false, none⟩] }
    OfficialResults.empty Settings.standard

theorem map_of_observations_tagged :
    ∃ stat ∈ tagged.stats.stats, ∃ table scale offset info observed,
      stat.plan = .map (Key.result "climb") table scale offset ∧
      tagged.catalog.resolve (Key.result "climb") = .ok info ∧
      tagged.read (Key.result "climb") (Subject.inMatch 7 "a_qm1") none = .ok observed ∧
      (∀ leaf ∈ observed.leaves, (Plan.mapped none table scale offset leaf).isSome) ∧
      tagged.read stat.key (Subject.inMatch 7 "a_qm1") none = .ok (Value.ofReading (Aggregation.mean
        (observed.leaves.filterMap (Plan.mapped none table scale offset)))) := by
  have maps : ∃ stat ∈ tagged.stats.stats, stat.isTeamScoped = false ∧ stat.plan.kind = .map ∧
      stat.plan.keys = [Key.result "climb"] := by
    decide +kernel
  have select : (tagged.catalog.resolve (Key.result "climb")).toOption.map KeyInfo.kind =
      some .select := by
    decide +kernel
  obtain ⟨stat, member, perMatch, isMap, reads⟩ := maps
  cases plan : stat.plan with
  | map key table scale offset =>
      rw [plan, Plan.keys, List.cons.injEq] at reads
      obtain ⟨rfl, _⟩ := reads
      have reachable : tagged.Reachable := Reachable.ofInputs _ _ _ _
      have inScope : stat.isTeamScoped ∨ (Subject.inMatch 7 "a_qm1").isMatch := Or.inr rfl
      have scope : stat.scope (Subject.inMatch 7 "a_qm1") = Subject.inMatch 7 "a_qm1" := by
        simp [Stat.scope, perMatch]
      obtain ⟨info, observed, resolved, read, mapped, value, _⟩ :=
        map_of_observations reachable member plan inScope
      rw [scope] at read
      refine ⟨stat, member, table, scale, offset, info, observed, plan, resolved, read, ?_, value⟩
      intro leaf observes
      obtain ⟨kept, several⟩ := mapped leaf observes
      refine kept.mpr fun passedOver => ?_
      simp [resolved, Except.toOption, several passedOver] at select
  | _ => simp [plan, Plan.kind] at isMap

/-- An option is picked, and the table has an entry for it, but the map comes to nothing. -/
theorem flags_passed_over :
    (∃ stat ∈ tagged.stats.stats, stat.key = Key.smart "points" ∧ stat.plan.kind = .map ∧
      stat.plan.keys = [Key.result "tags"]) ∧
    (tagged.read (Key.result "tags") (Subject.inMatch 7 "a_qm1") none).toOption.map
      (fun observed => observed.leaves.length) = some 1 ∧
    (tagged.read (Key.smart "points") (Subject.inMatch 7 "a_qm1") none).toOption.map
      Value.isMissing = some true := by
  decide +kernel

end Event

end Scouting

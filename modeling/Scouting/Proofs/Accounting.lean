import Scouting.Proofs.LoadedEvent

/-!
Accounting for the stats of a configuration. From the entries of a document to the stats that can be
used, each stage passes an item on or reports it under its id, so that no entry is lost and none is
reported twice.
-/

namespace Scouting

section
variable {ι κ μ : Type}

/-- Each item of a list goes on as a result, in order, or has one report under its name. There are no
other results and no other reports. -/
inductive Accounted (name : ι → String) (becomes : ι → κ → Prop) :
    List ι → List κ → List Exclusion → Prop where
  | nil : Accounted name becomes [] [] []
  | kept {item : ι} {items : List ι} {result : κ} {results : List κ} {reports : List Exclusion} :
      becomes item result → Accounted name becomes items results reports →
        Accounted name becomes (item :: items) (result :: results) reports
  | reported {item : ι} {items : List ι} {results : List κ} {report : Exclusion}
      {others reports : List Exclusion} :
      report.id = name item → Accounted name becomes items results others →
        reports.Perm (report :: others) → Accounted name becomes (item :: items) results reports

namespace Accounted

variable {name : ι → String} {becomes : ι → κ → Prop} {items : List ι} {results : List κ}
  {reports others : List Exclusion}

theorem length_eq (accounted : Accounted name becomes items results reports) :
    results.length + reports.length = items.length := by
  induction accounted with
  | nil => rfl
  | kept _ _ ih =>
      rw [List.length_cons, List.length_cons, ← ih]
      omega
  | reported _ _ perm ih =>
      rw [perm.length_eq, List.length_cons, List.length_cons, ← ih]
      omega

theorem trans {finals : List μ} {nextName : κ → String} {next : κ → μ → Prop}
    {whole : ι → μ → Prop} (first : Accounted name becomes items results reports)
    (second : Accounted nextName next results finals others)
    (named : ∀ item result, becomes item result → nextName result = name item)
    (composed : ∀ item result final, becomes item result → next result final → whole item final) :
    Accounted name whole items finals (reports ++ others) := by
  induction first generalizing finals others with
  | nil =>
      cases second
      exact nil
  | kept goesOn _ ih =>
      cases second with
      | kept goesOnAgain rest => exact kept (composed _ _ _ goesOn goesOnAgain) (ih rest)
      | reported own rest perm =>
          refine reported (own.trans (named _ _ goesOn)) (ih rest) ?_
          exact (perm.append_left _).trans List.perm_middle
  | reported own _ perm ih => exact reported own (ih second) (perm.append_right _)

theorem filterMap {result? : ι → Option κ} {report? : ι → Option Exclusion}
    (one : ∀ item,
      (∃ result, result? item = some result ∧ report? item = none ∧ becomes item result) ∨
      ∃ report, result? item = none ∧ report? item = some report ∧ report.id = name item)
    (items : List ι) :
    Accounted name becomes items (items.filterMap result?) (items.filterMap report?) := by
  induction items with
  | nil => exact nil
  | cons first rest ih =>
      rcases one first with ⟨result, passes, silent, goesOn⟩ | ⟨report, stops, reports, own⟩
      · rw [List.filterMap_cons_some passes, List.filterMap_cons_none silent]
        exact kept goesOn ih
      · rw [List.filterMap_cons_none stops, List.filterMap_cons_some reports]
        exact reported own ih (List.Perm.refl _)

theorem filter {keep : ι → Bool}
    (same : (reports.map Exclusion.id).Perm ((items.filter fun item => !keep item).map name)) :
    Accounted name Eq items (items.filter keep) reports := by
  induction items generalizing reports with
  | nil =>
      rw [List.map_eq_nil_iff.mp same.eq_nil]
      exact nil
  | cons first rest ih =>
      cases keeps : keep first with
      | true =>
          rw [List.filter_cons_of_pos keeps]
          rw [List.filter_cons_of_neg (by simp [keeps])] at same
          exact kept rfl (ih same)
      | false =>
          rw [List.filter_cons_of_neg (by simp [keeps])]
          rw [List.filter_cons_of_pos (by simp [keeps]), List.map_cons] at same
          obtain ⟨report, member, own⟩ :=
            List.mem_map.mp (same.mem_iff.mpr List.mem_cons_self)
          obtain ⟨before, after, rfl⟩ := List.append_of_mem member
          have front : (before ++ report :: after).Perm (report :: (before ++ after)) :=
            List.perm_middle
          have others := (front.map Exclusion.id).symm.trans same
          rw [List.map_cons, own] at others
          exact reported own (ih others.cons_inv) front

end Accounted

end

namespace Validation

theorem accounted_accept (earlier definitions : List StatDefinition) :
    Accounted StatDefinition.id Eq definitions (accept earlier definitions).1
      (accept earlier definitions).2 := by
  induction definitions generalizing earlier with
  | nil => exact Accounted.nil
  | cons first rest ih =>
      simp only [accept]
      cases first.refusal? earlier with
      | none => exact Accounted.kept rfl (ih _)
      | some fault => exact Accounted.reported rfl (ih _) (List.Perm.refl _)

theorem accounted_compiled (catalog : Catalog) (accepted : List StatDefinition) :
    Accounted StatDefinition.id (fun definition stat => stat.definition = definition) accepted
      (compiled catalog accepted) (accepted.filterMap (uncompiled? catalog)) := by
  refine Accounted.filterMap (fun definition => ?_) accepted
  cases outcome : catalog.compile definition with
  | ok stat =>
      exact Or.inl ⟨stat, rfl, by rw [uncompiled?, outcome], (Catalog.compile_eq_ok outcome).1⟩
  | error fault =>
      exact Or.inr ⟨⟨definition.id, fault⟩, rfl, by rw [uncompiled?, outcome], rfl⟩

/-- One lot of exclusions grows into another by stats that were not excluded before, each once and
with one report under its id. -/
def Grows (stats : List Stat) (before after : Excluded) : Prop :=
  ∃ (added : List Key) (reports : List Exclusion),
    after = ⟨before.keys ++ added, before.reports ++ reports⟩ ∧
    reports.map Exclusion.id = added.map Key.id ∧ added.Nodup ∧
    ∀ key ∈ added, key ∉ before.keys ∧ key ∈ stats.map Stat.key

namespace Grows

variable {stats : List Stat} {before between after : Excluded}

theorem refl (stats : List Stat) (excluded : Excluded) : Grows stats excluded excluded :=
  ⟨[], [], by simp, rfl, List.nodup_nil, nofun⟩

theorem trans (first : Grows stats before between) (second : Grows stats between after) :
    Grows stats before after := by
  obtain ⟨added, reports, rfl, ids, once, fresh⟩ := first
  obtain ⟨later, others, rfl, laterIds, laterOnce, laterFresh⟩ := second
  refine ⟨added ++ later, reports ++ others, by simp, ?_, ?_, fun key member => ?_⟩
  · rw [List.map_append, List.map_append, ids, laterIds]
  · refine List.nodup_append.mpr ⟨once, laterOnce, fun key isAdded other isLater same => ?_⟩
    exact (laterFresh other isLater).1 (List.mem_append_right _ (same ▸ isAdded))
  · rcases List.mem_append.mp member with isAdded | isLater
    · exact fresh key isAdded
    · obtain ⟨notBetween, isStat⟩ := laterFresh key isLater
      exact ⟨fun old => notBetween (List.mem_append_left _ old), isStat⟩

theorem foldl {ι : Type} {step : Excluded → ι → Excluded} {items : List ι}
    (grows : ∀ excluded, ∀ item ∈ items, Grows stats excluded (step excluded item))
    (start : Excluded) : Grows stats start (items.foldl step start) :=
  List.foldlRecOn (motive := Grows stats start) _ _ (refl stats start)
    fun _ soFar item member => soFar.trans (grows _ item member)

end Grows

section
variable {stats : List Stat}

theorem grows_excludeOnCycle (path : List String) (excluded : Excluded) {key : Key}
    (isStat : key ∈ stats.map Stat.key) :
    Grows stats excluded (excludeOnCycle path excluded key) := by
  rw [excludeOnCycle]
  split
  · exact Grows.refl stats excluded
  · rename_i fresh
    exact ⟨[key], [⟨key.id, .circular path⟩], rfl, rfl, List.nodup_singleton key, by
      simpa using ⟨fresh, by simpa using isStat⟩⟩

theorem grows_excludeCycles {cycles : List (List Key)}
    (onStats : ∀ cycle ∈ cycles, ∀ key ∈ cycle.dropLast, key ∈ stats.map Stat.key)
    (start : Excluded) : Grows stats start (cycles.foldl excludeCycle start) :=
  Grows.foldl (fun excluded cycle known => Grows.foldl (fun excluded key member =>
    grows_excludeOnCycle _ excluded (onStats cycle known key member)) excluded) start

theorem tainted_sublist (stats : List Stat) (keys : List Key) :
    ((tainted stats keys).map (·.1)).Sublist ((remaining stats keys).map Stat.key) := by
  rw [tainted]
  induction remaining stats keys with
  | nil => exact List.Sublist.refl _
  | cons stat rest ih =>
      rw [List.filterMap_cons]
      cases stat.dependencies.find? (· ∈ keys) with
      | none => exact ih.cons _
      | some dependency => exact ih.cons_cons _

theorem tainted_nodup (unique : (stats.map Stat.key).Nodup) (keys : List Key) :
    ((tainted stats keys).map (·.1)).Nodup :=
  unique.sublist ((tainted_sublist stats keys).trans (List.filter_sublist.map Stat.key))

theorem grows_spread (unique : (stats.map Stat.key).Nodup) (excluded : Excluded) :
    Grows stats excluded (spread stats excluded) := by
  fun_induction spread stats excluded with
  | case1 excluded done => exact Grows.refl stats excluded
  | case2 excluded more found =>
      rename_i ih
      refine Grows.trans ⟨_, _, rfl, ?_, tainted_nodup unique excluded.keys,
        fun key member => ?_⟩ ih
      · rw [List.map_map, List.map_map]
        rfl
      · obtain ⟨entry, isFound, rfl⟩ := List.mem_map.mp member
        obtain ⟨stat, inStats, same, fresh⟩ := mem_tainted isFound
        exact ⟨same ▸ fresh, List.mem_map.mpr ⟨stat, inStats, same⟩⟩

end

section
variable {definitions : List StatDefinition} {catalog : Catalog}

theorem grows_excluded (definitions : List StatDefinition) (catalog : Catalog) :
    Grows (candidates definitions catalog) (uncompiled definitions catalog)
      (excluded definitions catalog) := by
  have cycles : Grows (candidates definitions catalog) (uncompiled definitions catalog)
      (withCycles definitions catalog) := by
    refine grows_excludeCycles (fun cycle known key member => ?_) _
    obtain ⟨stat, candidate, same⟩ := isCandidate_of_onCycle ⟨cycle, known, member⟩
    exact List.mem_map.mpr ⟨stat, candidate, same⟩
  exact cycles.trans (grows_spread (candidates_nodup definitions catalog) _)

theorem accounted_remaining (definitions : List StatDefinition) (catalog : Catalog) :
    ∃ reports, (excluded definitions catalog).reports =
        (uncompiled definitions catalog).reports ++ reports ∧
      Accounted (fun stat : Stat => stat.definition.id) Eq (candidates definitions catalog)
        (remaining (candidates definitions catalog) (excluded definitions catalog).keys)
        reports := by
  obtain ⟨added, reports, all, ids, once, fresh⟩ := grows_excluded definitions catalog
  have keys : (excluded definitions catalog).keys =
      (uncompiled definitions catalog).keys ++ added := congrArg Excluded.keys all
  refine ⟨reports, congrArg Excluded.reports all, Accounted.filter ?_⟩
  have perm : added.Perm (((candidates definitions catalog).filter fun stat =>
      !decide (stat.key ∉ (excluded definitions catalog).keys)).map Stat.key) := by
    refine (List.perm_ext_iff_of_nodup once ((candidates_nodup definitions catalog).sublist
      (List.filter_sublist.map _))).mpr fun key => ⟨fun isAdded => ?_, fun isExcluded => ?_⟩
    · obtain ⟨stat, candidate, rfl⟩ := List.mem_map.mp (fresh key isAdded).2
      exact List.mem_map_of_mem (List.mem_filter.mpr ⟨candidate, by simp [keys, isAdded]⟩)
    · obtain ⟨stat, member, rfl⟩ := List.mem_map.mp isExcluded
      obtain ⟨candidate, bad⟩ := List.mem_filter.mp member
      have among : stat.key ∈ (uncompiled definitions catalog).keys ++ added := by
        simpa [keys] using bad
      exact (List.mem_append.mp among).resolve_left (not_uncompiled_of_candidate candidate)
  rw [ids]
  exact (perm.map Key.id).trans (List.Perm.of_eq List.map_map)

theorem accounted_ofDefinitions (definitions : List StatDefinition) (catalog : Catalog) :
    Accounted StatDefinition.id (fun definition stat => stat.definition = definition) definitions
      (ofDefinitions definitions catalog).stats (ofDefinitions definitions catalog).exclusions := by
  obtain ⟨reports, all, last⟩ := accounted_remaining definitions catalog
  have compiles : Accounted StatDefinition.id (fun definition stat => stat.definition = definition)
      definitions (candidates definitions catalog) (uncompiled definitions catalog).reports :=
    (accounted_accept [] definitions).trans (accounted_compiled (registered definitions catalog) _)
      (fun _ _ same => same ▸ rfl) fun _ _ _ same becomes => becomes.trans same.symm
  rw [ofDefinitions_eq]
  simp only [all]
  exact compiles.trans last (fun _ _ same => congrArg StatDefinition.id same)
    fun _ _ _ becomes same => same ▸ becomes

end

end Validation

namespace Configuration

theorem entryId_of_ofJson? {entry : Json} {definition : StatDefinition}
    (decodes : StatDefinition.ofJson? entry = some definition) :
    definition.id = entryId entry := by
  simp only [StatDefinition.ofJson?, Option.bind_eq_bind, Option.bind_eq_some_iff,
    Option.pure_def, Option.some.injEq] at decodes
  obtain ⟨members, isObject, _, _, id, isText, _, _, _, _, _, _, _, _, _, _, rfl⟩ := decodes
  cases entry with
  | object _ =>
      obtain rfl := Option.some.inj isObject
      rw [Json.required] at isText
      rw [entryId, Json.member?, isText, Option.getD_some]
  | null | bool _ | integer _ | float _ | text _ | array _ => cases isObject

theorem accounted_decoded (entries : List Json) :
    Accounted entryId (fun entry definition => StatDefinition.ofJson? entry = some definition)
      entries (entries.filterMap StatDefinition.ofJson?)
      (((entries.filter fun entry => (StatDefinition.ofJson? entry).isNone).map entryId).map
        fun id => ⟨id, .malformed⟩) := by
  induction entries with
  | nil => exact Accounted.nil
  | cons first rest ih =>
      cases decodes : StatDefinition.ofJson? first with
      | none =>
          rw [List.filterMap_cons_none decodes, List.filter_cons_of_pos (by simp [decodes])]
          exact Accounted.reported rfl ih (List.Perm.refl _)
      | some definition =>
          rw [List.filterMap_cons_some decodes, List.filter_cons_of_neg (by simp [decodes])]
          exact Accounted.kept decodes ih

theorem definitions_of_ofJson? {members : List (String × Json)} {config : Configuration}
    (absent : members.lookup statsMember = none) (decoded : ofJson? (.object members) = some config) :
    config.definitions = [] := by
  simp only [ofJson?, Json.structure?, Option.bind_eq_bind, Option.bind_eq_some_iff,
    Option.pure_def, Option.some.injEq] at decoded
  obtain ⟨_, rfl, _, _, _, _, definitions, read, _, _, rfl⟩ := decoded
  rw [Json.withDefault, absent] at read
  exact (Option.some.inj read).symm

theorem decode_eq_ok {members : List (String × Json)} {config : Configuration}
    (decoded : decode (.object members) = .ok config) :
    ∃ entries, statEntries ((members.lookup statsMember).getD .null) = .ok entries ∧
      config.definitions = entries.filterMap StatDefinition.ofJson? ∧
      config.rejected =
        (entries.filter fun entry => (StatDefinition.ofJson? entry).isNone).map entryId := by
  simp only [decode, partStats] at decoded
  split at decoded
  · cases decoded
  · rename_i rest decodedRest
    simp only [bind_eq_ok, pure_eq_ok] at decoded
    obtain ⟨entries, listed, rfl⟩ := decoded
    refine ⟨entries, listed, ?_, rfl⟩
    have absent : (members.filter (·.1 != statsMember)).lookup statsMember = none := by
      rw [Entries.lookup_filter_ne, if_pos rfl]
    rw [withEntries, definitions_of_ofJson? absent decodedRest, List.nil_append]

end Configuration

namespace Event

variable {members : List (String × Json)} {config : Configuration}

/-- Every stat that a configuration declares is accounted for: each entry of its array of stats,
in order, is a stat that can be used or has one report under the id that it gives, and there are no
other stats and no other reports. -/
theorem stats_accounted (decoded : Configuration.decode (.object members) = .ok config)
    (records : List Record) (official : OfficialResults) (settings : Settings) :
    let event := ofInputs records config official settings
    ∃ entries,
      Configuration.statEntries ((members.lookup Configuration.statsMember).getD .null) =
        .ok entries ∧
      event.stats.size + event.exclusions.length = entries.length ∧
      Accounted Configuration.entryId
        (fun entry stat => StatDefinition.ofJson? entry = some stat.definition) entries
        event.stats.stats event.exclusions := by
  intro event
  obtain ⟨entries, listed, definitions, rejected⟩ := Configuration.decode_eq_ok decoded
  have usable : event.stats.stats = (Validation.ofDefinitions config.definitions
      (Catalog.ofFields config.fields official)).stats :=
    StatSet.stats_ofList (Validation.stats_nodup _ _)
  have accounted : Accounted Configuration.entryId
      (fun entry stat => StatDefinition.ofJson? entry = some stat.definition) entries
      event.stats.stats event.exclusions := by
    have first := Configuration.accounted_decoded entries
    rw [← definitions, ← rejected] at first
    rw [usable]
    exact first.trans (Validation.accounted_ofDefinitions _ _)
      (fun _ _ => Configuration.entryId_of_ofJson?) fun _ _ _ decodes same => same ▸ decodes
  exact ⟨entries, listed, accounted.length_eq, accounted⟩

def faulty : List (String × Json) :=
  let sum (id reference : String) : Json :=
    .object [("id", .text id), ("type", .text "sum"), ("keys", .array [.text reference])]
  let field : Json :=
    .object [("id", .text "auto"), ("name", .text "Auto"), ("type", .text "number")]
  [("fields", .array [field]),
    (Configuration.statsMember, .array [.integer 3, .object [("id", .text "bare")],
      sum "two words" "auto", sum "good" "auto", sum "good" "auto", sum "lost" "nowhere",
      sum "left" "right", sum "right" "left", sum "late" "left"])]

theorem stats_accounted_faulty :
    ∃ config, Configuration.decode (.object faulty) = .ok config ∧
      let event := ofInputs [] config OfficialResults.empty Settings.standard
      event.stats.stats.map (·.definition.id) = ["good"] ∧
      event.exclusions.map Exclusion.id =
        ["<no id>", "bare", "two words", "good", "lost", "left", "right", "late"] ∧
      ∃ entries,
        Configuration.statEntries ((faulty.lookup Configuration.statsMember).getD .null) =
          .ok entries ∧
        event.stats.size + event.exclusions.length = entries.length ∧
        Accounted Configuration.entryId
          (fun entry stat => StatDefinition.ofJson? entry = some stat.definition) entries
          event.stats.stats event.exclusions := by
  have outcome : ((Configuration.decode (.object faulty)).toOption.map fun config =>
      let event := ofInputs [] config OfficialResults.empty Settings.standard
      (event.stats.stats.map (·.definition.id), event.exclusions.map Exclusion.id)) =
      some (["good"],
        ["<no id>", "bare", "two words", "good", "lost", "left", "right", "late"]) := by
    decide +kernel
  cases decoded : Configuration.decode (.object faulty) with
  | error error =>
      rw [decoded] at outcome
      cases outcome
  | ok config =>
      rw [decoded] at outcome
      obtain ⟨stats, exclusions⟩ := Prod.mk.inj (Option.some.inj outcome)
      exact ⟨config, rfl, stats, exclusions,
        stats_accounted decoded [] OfficialResults.empty Settings.standard⟩

end Event

end Scouting

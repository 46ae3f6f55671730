import Scouting.Event
import Scouting.Proofs.Remembering
import Scouting.Proofs.Validation

/-!
Loaded events. Validation leaves only stats that can be evaluated, and neither records that arrive
or change nor a new snapshot put that at risk.
-/

namespace Scouting

namespace StatSet

theorem insertInto_fresh {stat : Stat} {stats : List Stat} (fresh : stat.key ∉ stats.map Stat.key) :
    insertInto stat stats = stats ++ [stat] := by
  induction stats with
  | nil => rfl
  | cons first rest ih =>
      simp only [List.map_cons, List.mem_cons, not_or] at fresh
      rw [insertInto, if_neg (Ne.symm fresh.1), ih fresh.2, List.cons_append]

theorem stats_ofList {stats : List Stat} (unique : (stats.map Stat.key).Nodup) :
    (ofList stats).stats = stats := by
  suffices kept : ∀ sorted : List Stat, ((sorted ++ stats).map Stat.key).Nodup →
      stats.foldl (fun sorted stat => insertInto stat sorted) sorted = sorted ++ stats from
    kept [] unique
  clear unique
  induction stats with
  | nil => simp
  | cons first rest ih =>
      intro sorted unique
      have fresh : first.key ∉ sorted.map Stat.key := by
        simp only [List.map_append, List.map_cons, List.nodup_append] at unique
        exact fun member => unique.2.2 _ member _ List.mem_cons_self rfl
      rw [List.foldl_cons, insertInto_fresh fresh, ih _ (by simpa using unique)]
      simp

theorem exists_find? {set : StatSet} {stat : Stat} (member : stat ∈ set.stats) {key : Key}
    (same : stat.key = key.base) : ∃ found, set.find? key = some found := by
  refine Option.isSome_iff_exists.mp (List.find?_isSome.mpr ⟨stat, member, ?_⟩)
  simpa using same

theorem find?_of_mem {set : StatSet} (unique : (set.stats.map Stat.key).Nodup) {stat : Stat}
    (member : stat ∈ set.stats) : set.find? stat.key = some stat := by
  have base : stat.key = stat.key.base := rfl
  obtain ⟨found, look⟩ := exists_find? member base
  have same : found.key = stat.key.base := by simpa using List.find?_some look
  rw [look, List.inj_on_of_nodup_map unique (List.mem_of_find?_eq_some look) member same]

end StatSet

namespace Validation

variable {definitions : List StatDefinition} {catalog : Catalog}

theorem smart_of_excluded {key : Key} (bad : key ∈ (excluded definitions catalog).keys) :
    key.space = .smart := by
  obtain ⟨base, start, path⟩ := spread_reaches _ _ key bad
  rcases Relation.ReflTransGen.cases_head path with rfl | ⟨_, ⟨stat, _, rfl, _⟩, _⟩
  · rcases mem_withCycles.mp start with failed | onCycle
    · obtain ⟨definition, _, rfl⟩ := List.mem_map.mp (List.mem_filter.mp failed).1
      rfl
    · obtain ⟨stat, _, rfl⟩ := isCandidate_of_onCycle onCycle
      rfl
  · rfl

theorem stats_grounded {stat : Stat} (member : stat ∈ (ofDefinitions definitions catalog).stats) :
    (ofDefinitions definitions catalog).catalog.Grounds stat.plan := by
  obtain ⟨candidate, kept⟩ := mem_stats.mp member
  obtain ⟨definition, _, compiles⟩ := mem_candidates.mp candidate
  have grounds := (Catalog.compile_eq_ok compiles).2
  refine ⟨fun key inPlan => ?_, grounds.bound⟩
  rw [ofDefinitions_eq]
  refine Catalog.knows_remove.mpr ⟨fun bad => ?_, grounds.known key inPlan⟩
  have smart : key.base.space = .smart := smart_of_excluded bad
  have dependency := Stat.base_mem_dependencies inPlan smart
  exact not_excluded_of_reads ⟨stat, candidate, rfl, dependency⟩ kept bad

theorem stats_present (noStats : HasNoStats catalog) {key : Key} (smart : key.space = .smart)
    (known : (ofDefinitions definitions catalog).catalog.Knows key) :
    ∃ stat ∈ (ofDefinitions definitions catalog).stats, stat.key = key.base := by
  rw [ofDefinitions_eq] at known
  obtain ⟨kept, registered⟩ := Catalog.knows_remove.mp known
  obtain ⟨definition, first, same⟩ :=
    isFirst_of_registered noStats (show key.base.space = .smart from smart)
      (Catalog.find?_of_knows registered)
  rw [← same] at kept ⊢
  rcases isFirst_compiles catalog first with fails | ⟨stat, candidate, keyed⟩
  · exact absurd (excluded_of_fails fails) kept
  · exact ⟨stat, mem_stats.mpr ⟨candidate, keyed ▸ kept⟩, keyed⟩

theorem stats_known {stat : Stat} (member : stat ∈ (ofDefinitions definitions catalog).stats) :
    (ofDefinitions definitions catalog).catalog.Knows stat.key := by
  obtain ⟨candidate, kept⟩ := mem_stats.mp member
  obtain ⟨definition, first, compiles⟩ := mem_candidates.mp candidate
  have accepted := mem_accept_iff_isFirst.mpr first
  have isSmart : Key.smart definition.id = stat.key := by
    rw [Stat.key, (Catalog.compile_eq_ok compiles).1]
  have found := (find?_register catalog _ stat.key).mpr (Or.inr ⟨definition, accepted, isSmart⟩)
  exact Catalog.knows_remove.mpr ⟨kept, Catalog.knows_of_find? rfl found⟩

theorem stats_ranked (definitions : List StatDefinition) (catalog : Catalog) :
    ∃ rank : Key → Nat, ∀ stat ∈ (ofDefinitions definitions catalog).stats,
      ∀ key ∈ stat.dependencies, rank key < rank stat.key := by
  obtain ⟨rank, descends⟩ := exists_rank_kept definitions catalog
  refine ⟨rank, fun stat member key dependency => ?_⟩
  obtain ⟨candidate, kept⟩ := mem_stats.mp member
  exact descends stat.key key ⟨stat, candidate, rfl, dependency⟩ kept

theorem resolve_registered {key : Key} {info : KeyInfo}
    (resolved : (ofDefinitions definitions catalog).catalog.resolve key = .ok info) :
    (registered definitions catalog).resolve key = .ok info := by
  obtain ⟨found, admitted⟩ := Catalog.resolve_eq_ok.mp resolved
  rw [ofDefinitions_eq, Catalog.find?_remove] at found
  split at found
  · cases found
  · exact Catalog.resolve_eq_ok.mpr ⟨found, admitted⟩

theorem stats_nodup (definitions : List StatDefinition) (catalog : Catalog) :
    ((ofDefinitions definitions catalog).stats.map Stat.key).Nodup := by
  rw [ofDefinitions_eq]
  exact (candidates_nodup definitions catalog).sublist (List.filter_sublist.map _)

end Validation

namespace Event

/-- The events to be had from inputs, by any changes of the records and any new snapshots. -/
inductive Reachable : Event → Prop where
  | ofInputs (records : List Record) (config : Configuration) (official : OfficialResults)
      (settings : Settings) : Reachable (ofInputs records config official settings)
  | insert {event : Event} (record : Record) : Reachable event → Reachable (event.insert record).2
  | setIgnored {event later : Event} (id : Nat) (ignored : Bool) :
      Reachable event → event.setIgnored id ignored = .ok later → Reachable later
  | setUnsure {event later : Event} (id : Nat) (unsure : Bool) (reason : String) :
      Reachable event → event.setUnsure id unsure reason = .ok later → Reachable later
  | rebuild {event : Event} : Reachable event → Reachable event.rebuild

theorem sound_ofInputs (records : List Record) (config : Configuration) (official : OfficialResults)
    (settings : Settings) : (ofInputs records config official settings).environment.Sound := by
  have kept : (ofInputs records config official settings).environment.stats.stats =
      (Validation.ofDefinitions config.definitions
        (Catalog.ofFields config.fields official)).stats :=
    StatSet.stats_ofList (Validation.stats_nodup _ _)
  constructor
  · rw [kept]
    exact Validation.stats_nodup _ _
  · intro stat member
    rw [kept] at member
    exact Validation.stats_known member
  · intro key smart known
    obtain ⟨stat, member, same⟩ :=
      Validation.stats_present (Validation.hasNoStats_ofFields _ _) smart known
    exact StatSet.exists_find? (kept ▸ member) same
  · intro stat member
    rw [kept] at member
    exact Validation.stats_grounded member
  · rw [kept]
    exact Validation.stats_ranked _ _

theorem Reachable.sound {event : Event} (reachable : event.Reachable) :
    event.environment.Sound := by
  induction reachable with
  | ofInputs records config official settings =>
      exact sound_ofInputs records config official settings
  | insert record _ ih => exact ih.transfer rfl rfl
  | setIgnored id ignored _ changed ih =>
      simp only [Event.setIgnored, bind_eq_ok, pure_eq_ok] at changed
      obtain ⟨store, _, rfl⟩ := changed
      exact ih.transfer rfl rfl
  | setUnsure id unsure reason _ changed ih =>
      simp only [Event.setUnsure, bind_eq_ok, pure_eq_ok] at changed
      obtain ⟨store, _, rfl⟩ := changed
      exact ih.transfer rfl rfl
  | rebuild _ ih => exact ih.transfer rfl rfl

theorem Reachable.validated {event : Event} (reachable : event.Reachable) :
    ∃ definitions fields official,
      event.catalog =
        (Validation.ofDefinitions definitions (Catalog.ofFields fields official)).catalog ∧
      event.stats.stats =
        (Validation.ofDefinitions definitions (Catalog.ofFields fields official)).stats := by
  induction reachable with
  | ofInputs records config official settings =>
      exact ⟨config.definitions, config.fields, official, rfl,
        StatSet.stats_ofList (Validation.stats_nodup _ _)⟩
  | insert record _ ih => exact ih
  | setIgnored id ignored _ changed ih =>
      simp only [Event.setIgnored, bind_eq_ok, pure_eq_ok] at changed
      obtain ⟨store, _, rfl⟩ := changed
      exact ih
  | setUnsure id unsure reason _ changed ih =>
      simp only [Event.setUnsure, bind_eq_ok, pure_eq_ok] at changed
      obtain ⟨store, _, rfl⟩ := changed
      exact ih
  | rebuild _ ih => exact ih

theorem Reachable.compiled {event : Event} (reachable : event.Reachable) {stat : Stat}
    (member : stat ∈ event.stats.stats) :
    ∃ catalog : Catalog, catalog.plan stat.definition.operator = .ok stat.plan ∧
      ∀ {key info}, event.catalog.resolve key = .ok info → catalog.resolve key = .ok info := by
  obtain ⟨definitions, fields, official, known, kept⟩ := reachable.validated
  rw [kept] at member
  obtain ⟨_, _, compiles⟩ := Validation.mem_candidates.mp (Validation.mem_stats.mp member).1
  refine ⟨_, Catalog.plan_of_compile compiles, fun resolved => ?_⟩
  rw [known] at resolved
  exact Validation.resolve_registered resolved

/-- A small event: a team that was recorded in one match, a counter there and one in the pit, a stat
in each match and one for a team as a whole, and an official value of the match. -/
def small : Event :=
  let counter (id : String) (mode : Mode) : FieldDefinition :=
    ⟨id, id, .counter, mode, [], none, .uniform false, none⟩
  let ofMatch {α : Type} (value : α) : Dictionary String α := Dictionary.ofList [("a_qm1", value)]
  let fields := Dictionary.ofList [("auto", Recorded.integer 3)]
  let points := Dictionary.ofList [("points", Recorded.integer 2)]
  ofInputs [⟨7, some "a_qm1", none, .played, false, "", false, none, none, none, fields, none, none⟩]
    { Configuration.empty with
      fields := [counter "auto" .played, counter "weight" .pit]
      definitions :=
        [⟨"double", "", .sum ["auto", "auto"], false, false, none⟩,
          ⟨"place", "", .weightedRank [⟨"double", 1.0⟩], false, false, none⟩] }
    { OfficialResults.empty with perMatch := ofMatch (Dictionary.ofList [(7, points)]) }
    Settings.standard

theorem small_reachable : small.Reachable := Reachable.ofInputs _ _ _ _

theorem small_resolves {key : Key} {mode : Mode}
    (found : (small.catalog.resolve key).toOption.map KeyInfo.mode = some mode) :
    ∃ info, small.catalog.resolve key = .ok info ∧ info.mode = mode :=
  toOption_map_eq_some.mp found

end Event

end Scouting

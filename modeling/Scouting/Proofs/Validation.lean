import Mathlib.Data.List.Infix
import Mathlib.Data.List.Nodup
import Scouting.Proofs.Exclusion

/-!
What a validation comes to. A stat that compiles on its own is kept if and only if it reads, directly
or through other stats, none that does not compile and none that lies on a dependency cycle.
-/

namespace Scouting

namespace Stat

theorem smart_of_mem_dependencies {stat : Stat} {key : Key} (member : key ∈ stat.dependencies) :
    Key.smart key.id = key := by
  obtain ⟨read, inKeys, rfl⟩ := List.mem_map.mp member
  have smart : read.space = .smart := by simpa using (List.mem_filter.mp inKeys).2
  simp [Key.smart, Key.plain, Key.base, smart]

end Stat

namespace Validation

section
variable (definitions : List StatDefinition) (catalog : Catalog)

/-- The catalog in which the first definition of each identifier is registered. -/
def registered : Catalog := register catalog (accept [] definitions).1

/-- The stats of the definitions that compile on their own, once these are registered. -/
def candidates : List Stat := compiled (registered definitions catalog) (accept [] definitions).1

def FailsToCompile (key : Key) : Prop := ∃ definition : StatDefinition,
  definition.IsFirst definitions ∧ Key.smart definition.id = key ∧
    ∃ fault, (registered definitions catalog).compile definition = .error fault

def uncompiled : Excluded where
  keys := (definitions.map fun definition => Key.smart definition.id).filter fun key =>
    key ∉ (candidates definitions catalog).map Stat.key
  reports := (accept [] definitions).2 ++
    (accept [] definitions).1.filterMap (uncompiled? (registered definitions catalog))

def withCycles : Excluded :=
  (Dependencies.ofStats (candidates definitions catalog)).cycles.foldl excludeCycle
    (uncompiled definitions catalog)

def excluded : Excluded := spread (candidates definitions catalog) (withCycles definitions catalog)

theorem ofDefinitions_eq : ofDefinitions definitions catalog =
    { stats := remaining (candidates definitions catalog) (excluded definitions catalog).keys
      exclusions := (excluded definitions catalog).reports
      catalog := (registered definitions catalog).remove (excluded definitions catalog).keys } :=
  rfl

end

section
variable {definitions : List StatDefinition} {catalog : Catalog}

theorem mem_candidates {stat : Stat} : stat ∈ candidates definitions catalog ↔
    ∃ definition : StatDefinition, definition.IsFirst definitions ∧
      (registered definitions catalog).compile definition = .ok stat := by
  simp only [candidates, compiled, List.mem_filterMap, mem_accept_iff_isFirst]
  refine exists_congr fun definition => and_congr_right fun _ => ?_
  cases (registered definitions catalog).compile definition <;> simp [Except.toOption]

theorem mem_stats {stat : Stat} : stat ∈ (ofDefinitions definitions catalog).stats ↔
    stat ∈ candidates definitions catalog ∧ stat.key ∉ (excluded definitions catalog).keys := by
  simp [ofDefinitions_eq, remaining]

theorem compiled_cons_of_ok {first : StatDefinition} {stat : Stat}
    (compiles : catalog.compile first = .ok stat) (rest : List StatDefinition) :
    compiled catalog (first :: rest) = stat :: compiled catalog rest := by
  rw [compiled, List.filterMap_cons, compiles]
  rfl

theorem compiled_cons_of_error {first : StatDefinition} {fault : Fault}
    (fails : catalog.compile first = .error fault) (rest : List StatDefinition) :
    compiled catalog (first :: rest) = compiled catalog rest := by
  rw [compiled, List.filterMap_cons, fails]
  rfl

theorem definitions_of_compiled (accepted : List StatDefinition) :
    ((compiled catalog accepted).map Stat.definition).Sublist accepted := by
  induction accepted with
  | nil => exact List.Sublist.refl _
  | cons first rest ih =>
      cases outcome : catalog.compile first with
      | error fault =>
          rw [compiled_cons_of_error outcome]
          exact ih.cons first
      | ok stat =>
          rw [compiled_cons_of_ok outcome, List.map_cons, (Catalog.compile_eq_ok outcome).1]
          exact ih.cons_cons first

theorem candidates_sublist (definitions : List StatDefinition) (catalog : Catalog) :
    ((candidates definitions catalog).map Stat.definition).Sublist definitions :=
  (definitions_of_compiled _).trans (accept_sublist [] definitions)

theorem candidates_nodup (definitions : List StatDefinition) (catalog : Catalog) :
    ((candidates definitions catalog).map Stat.key).Nodup := by
  have ids : (((candidates definitions catalog).map Stat.definition).map
      StatDefinition.id).Nodup :=
    (accept_nodup [] definitions).sublist ((definitions_of_compiled _).map _)
  have keys := List.Nodup.map (f := Key.smart) (fun _ _ => smart_injective) ids
  rw [List.map_map, List.map_map] at keys
  exact keys

theorem isFirst_compiles (catalog : Catalog) {definition : StatDefinition}
    (first : definition.IsFirst definitions) :
    FailsToCompile definitions catalog (Key.smart definition.id) ∨
      ∃ stat ∈ candidates definitions catalog, stat.key = Key.smart definition.id := by
  cases outcome : (registered definitions catalog).compile definition with
  | error fault => exact Or.inl ⟨definition, first, rfl, fault, outcome⟩
  | ok stat =>
      refine Or.inr ⟨stat, mem_candidates.mpr ⟨definition, first, outcome⟩, ?_⟩
      rw [Stat.key, (Catalog.compile_eq_ok outcome).1]

theorem not_candidate_of_fails {key : Key} (fails : FailsToCompile definitions catalog key) :
    key ∉ (candidates definitions catalog).map Stat.key := by
  obtain ⟨definition, first, rfl, fault, failed⟩ := fails
  intro candidate
  obtain ⟨stat, member, same⟩ := List.mem_map.mp candidate
  obtain ⟨other, otherFirst, compiles⟩ := mem_candidates.mp member
  have sameId : other.id = definition.id := by
    rw [Stat.key, (Catalog.compile_eq_ok compiles).1] at same
    exact smart_injective same
  have equal : other = definition := List.inj_on_of_nodup_map (accept_nodup [] definitions)
    (mem_accept_iff_isFirst.mpr otherFirst) (mem_accept_iff_isFirst.mpr first) sameId
  rw [equal, failed] at compiles
  cases compiles

theorem mem_uncompiled_of_fails {key : Key} (fails : FailsToCompile definitions catalog key) :
    key ∈ (uncompiled definitions catalog).keys := by
  have absent := not_candidate_of_fails fails
  obtain ⟨definition, ⟨_, before, after, rfl, _⟩, rfl, _⟩ := fails
  refine List.mem_filter.mpr ⟨by simp, by simpa using absent⟩

theorem not_uncompiled_of_candidate {stat : Stat}
    (member : stat ∈ candidates definitions catalog) :
    stat.key ∉ (uncompiled definitions catalog).keys := by
  intro bad
  have absent := (List.mem_filter.mp bad).2
  exact absurd (List.mem_map_of_mem member) (by simpa using absent)

theorem mem_withCycles {key : Key} : key ∈ (withCycles definitions catalog).keys ↔
    key ∈ (uncompiled definitions catalog).keys ∨
      (Dependencies.ofStats (candidates definitions catalog)).OnCycle key :=
  mem_foldl_excludeCycle

theorem withCycles_subset_excluded :
    (withCycles definitions catalog).keys ⊆ (excluded definitions catalog).keys :=
  subset_spread _ _

theorem excluded_of_fails {key : Key} (fails : FailsToCompile definitions catalog key) :
    key ∈ (excluded definitions catalog).keys :=
  withCycles_subset_excluded (mem_withCycles.mpr (Or.inl (mem_uncompiled_of_fails fails)))

theorem reads_itself_of_onCycle {stats : List Stat} {key : Key}
    (onCycle : (Dependencies.ofStats stats).OnCycle key) :
    Relation.TransGen (Reads stats) key key := by
  obtain ⟨cycle, member, onWalk⟩ := onCycle
  exact ((Dependencies.closed_of_mem_cycles member).mono
    fun _ _ => Dependencies.reads_of_edge).reaches_itself (List.mem_of_mem_dropLast onWalk)

theorem not_excluded_of_reads {source target : Key}
    (reads : Reads (candidates definitions catalog) source target)
    (kept : source ∉ (excluded definitions catalog).keys) :
    target ∉ (excluded definitions catalog).keys := by
  obtain ⟨stat, member, rfl, dependency⟩ := reads
  exact spread_closed _ _ stat member kept target dependency

theorem not_excluded_of_reaches {source target : Key}
    (path : Relation.ReflTransGen (Reads (candidates definitions catalog)) source target)
    (kept : source ∉ (excluded definitions catalog).keys) :
    target ∉ (excluded definitions catalog).keys := by
  induction path with
  | refl => exact kept
  | tail _ last ih => exact not_excluded_of_reads last ih

theorem exists_rank_kept (definitions : List StatDefinition) (catalog : Catalog) :
    ∃ rank : Key → Nat, ∀ source target,
      Reads (candidates definitions catalog) source target →
        source ∉ (excluded definitions catalog).keys → rank target < rank source := by
  obtain ⟨rank, descends⟩ :=
    Dependencies.exists_rank (Dependencies.ofStats (candidates definitions catalog))
  refine ⟨rank, fun source target reads kept => ?_⟩
  have off : ∀ key, key ∉ (excluded definitions catalog).keys →
      ¬(Dependencies.ofStats (candidates definitions catalog)).OnCycle key :=
    fun key outside onCycle =>
      outside (withCycles_subset_excluded (mem_withCycles.mpr (Or.inr onCycle)))
  exact descends source target
    (Dependencies.edge_of_reads (candidates_nodup definitions catalog) reads) (off source kept)
    (off target (not_excluded_of_reads reads kept))

theorem kept_not_cyclic {key : Key} (kept : key ∉ (excluded definitions catalog).keys) :
    ¬Relation.TransGen (Reads (candidates definitions catalog)) key key := by
  obtain ⟨rank, descends⟩ := exists_rank_kept definitions catalog
  have below : ∀ target, Relation.TransGen (Reads (candidates definitions catalog)) key target →
      rank target < rank key := by
    intro target path
    induction path with
    | single reads => exact descends _ _ reads kept
    | tail path last ih =>
        exact (descends _ _ last (not_excluded_of_reaches path.to_reflTransGen kept)).trans ih
  exact fun cyclic => absurd (below key cyclic) (lt_irrefl _)

def HasNoStats (catalog : Catalog) : Prop :=
  ∀ key : Key, key.space = .smart → catalog.find? key = none

theorem isFirst_of_registered (noStats : HasNoStats catalog) {key : Key} (smart : key.space = .smart)
    (known : ((registered definitions catalog).find? key).isSome) :
    ∃ definition : StatDefinition, definition.IsFirst definitions ∧
      Key.smart definition.id = key := by
  rcases (find?_register catalog _ key).mp known with old | ⟨definition, accepted, same⟩
  · simp [noStats key smart] at old
  · exact ⟨definition, mem_accept_iff_isFirst.mp accepted, same⟩

theorem isFirst_of_reads (noStats : HasNoStats catalog) {source target : Key}
    (reads : Reads (candidates definitions catalog) source target) :
    ∃ definition : StatDefinition, definition.IsFirst definitions ∧
      Key.smart definition.id = target := by
  obtain ⟨stat, member, _, dependency⟩ := reads
  obtain ⟨_, _, compiles⟩ := mem_candidates.mp member
  obtain ⟨key, inKeys, rfl⟩ := List.mem_map.mp dependency
  obtain ⟨read, smart⟩ := List.mem_filter.mp inKeys
  have known := (Catalog.compile_eq_ok compiles).2.known key read
  exact isFirst_of_registered noStats (by simpa [Key.base] using smart) (Catalog.find?_of_knows known)

theorem excluded_iff (noStats : HasNoStats catalog) {stat : Stat}
    (candidate : stat ∈ candidates definitions catalog) :
    stat.key ∈ (excluded definitions catalog).keys ↔
      ∃ key, Relation.ReflTransGen (Reads (candidates definitions catalog)) stat.key key ∧
        (FailsToCompile definitions catalog key ∨
          Relation.TransGen (Reads (candidates definitions catalog)) key key) := by
  constructor
  · intro isExcluded
    obtain ⟨base, early, path⟩ := spread_reaches _ _ stat.key isExcluded
    refine ⟨base, path, ?_⟩
    rcases mem_withCycles.mp early with bad | onCycle
    · refine Or.inl ?_
      rcases Relation.ReflTransGen.cases_tail path with same | ⟨_, _, reads⟩
      · exact absurd (same ▸ bad) (not_uncompiled_of_candidate candidate)
      · obtain ⟨definition, first, rfl⟩ := isFirst_of_reads noStats reads
        rcases isFirst_compiles catalog first with fails | ⟨other, member, same⟩
        · exact fails
        · exact absurd (same ▸ bad) (not_uncompiled_of_candidate member)
    · exact Or.inr (reads_itself_of_onCycle onCycle)
  · rintro ⟨key, path, bad⟩
    by_contra kept
    have keyKept := not_excluded_of_reaches path kept
    rcases bad with fails | cyclic
    · exact keyKept (excluded_of_fails fails)
    · exact kept_not_cyclic keyKept cyclic

theorem isCandidate_of_onCycle {key : Key}
    (onCycle : (Dependencies.ofStats (candidates definitions catalog)).OnCycle key) :
    ∃ stat ∈ candidates definitions catalog, stat.key = key := by
  obtain ⟨_, ⟨stat, member, same, _⟩, _⟩ :=
    Relation.TransGen.head'_iff.mp (reads_itself_of_onCycle onCycle)
  exact ⟨stat, member, same⟩

theorem reported_of_onCycle {key : Key}
    (onCycle : (Dependencies.ofStats (candidates definitions catalog)).OnCycle key) :
    ∃ path, (⟨key.id, .circular path⟩ : Exclusion) ∈
      (ofDefinitions definitions catalog).exclusions := by
  have reports := foldl_excludeCycle_reports
    (Dependencies.ofStats (candidates definitions catalog)).cycles (uncompiled definitions catalog)
  obtain ⟨stat, candidate, rfl⟩ := isCandidate_of_onCycle onCycle
  rcases reports.complete stat.key (mem_withCycles.mpr (Or.inr onCycle)) with bad | ⟨path, reported⟩
  · exact absurd bad (not_uncompiled_of_candidate candidate)
  · exact ⟨path, (mem_spread_reports _ _).1 reported⟩

theorem reported_of_closedWalk {walk : List Key}
    (closed : ClosedWalk (Reads (candidates definitions catalog)) walk) :
    ∃ key ∈ walk, ∃ path, (⟨key.id, .circular path⟩ : Exclusion) ∈
      (ofDefinitions definitions catalog).exclusions := by
  obtain ⟨rank, descends⟩ :=
    Dependencies.exists_rank (Dependencies.ofStats (candidates definitions catalog))
  have unique := candidates_nodup definitions catalog
  suffices found : ∃ key ∈ walk,
      (Dependencies.ofStats (candidates definitions catalog)).OnCycle key by
    obtain ⟨key, member, onCycle⟩ := found
    exact ⟨key, member, reported_of_onCycle onCycle⟩
  by_contra off
  simp only [not_exists, not_and] at off
  exact ClosedWalk.not_descending ⟨closed.follows.imp_of_mem_imp fun source target start stop reads =>
    descends source target (Dependencies.edge_of_reads unique reads) (off source start)
      (off target stop), closed.closes, closed.moves⟩

theorem not_circular_of_uncompiled {report : Exclusion}
    (member : report ∈ (uncompiled definitions catalog).reports) (path : List String) :
    report.fault ≠ .circular path := by
  rcases List.mem_append.mp member with refused | failed
  · rcases fault_of_mem_refused refused with same | same <;> simp [same]
  · obtain ⟨definition, _, located⟩ := List.mem_filterMap.mp failed
    simp only [uncompiled?] at located
    split at located
    · cases located
    · rename_i fault outcome
      cases located
      rintro rfl
      exact BlamesNoCycle.compile _ definition path outcome

theorem smart_of_reads {stats : List Stat} {source target : Key}
    (reads : Reads stats source target) : Key.smart target.id = target := by
  obtain ⟨stat, _, _, dependency⟩ := reads
  exact stat.smart_of_mem_dependencies dependency

theorem closed_of_reported {id : String} {path : List String}
    (reported : (⟨id, .circular path⟩ : Exclusion) ∈
      (ofDefinitions definitions catalog).exclusions) :
    ClosedWalk (Reads (candidates definitions catalog)) (path.map Key.smart) ∧ id ∈ path := by
  rcases (mem_spread_reports _ _).2 _ reported with early | ⟨_, same⟩
  · rcases (foldl_excludeCycle_reports _ _).sound _ early with first | ⟨cycle, found, key, on, same⟩
    · exact absurd rfl (not_circular_of_uncompiled first path)
    · obtain ⟨rfl, rfl⟩ : id = key.id ∧ path = cycle.map Key.id := by simpa using same
      have closed : ClosedWalk (Reads (candidates definitions catalog)) cycle :=
        (Dependencies.closed_of_mem_cycles found).mono fun _ _ => Dependencies.reads_of_edge
      have keys : (cycle.map Key.id).map Key.smart = cycle := by
        rw [List.map_map]
        refine (List.map_congr_left fun other member => ?_).trans (List.map_id cycle)
        obtain ⟨_, _, reads⟩ := Relation.TransGen.tail'_iff.mp (closed.reaches_itself member)
        exact smart_of_reads reads
      rw [keys]
      exact ⟨closed, List.mem_map_of_mem (List.mem_of_mem_dropLast on)⟩
  · cases same

theorem reads_candidates_of_reads_stats {source target : Key}
    (reads : Reads (ofDefinitions definitions catalog).stats source target) :
    Reads (candidates definitions catalog) source target ∧
      source ∉ (excluded definitions catalog).keys := by
  obtain ⟨stat, member, rfl, dependency⟩ := reads
  obtain ⟨candidate, kept⟩ := mem_stats.mp member
  exact ⟨⟨stat, candidate, rfl, dependency⟩, kept⟩

theorem stats_acyclic (key : Key) :
    ¬Relation.TransGen (Reads (ofDefinitions definitions catalog).stats) key key := by
  intro cyclic
  obtain ⟨_, first, _⟩ := Relation.TransGen.head'_iff.mp cyclic
  exact kept_not_cyclic (reads_candidates_of_reads_stats first).2
    (Relation.TransGen.mono (fun _ _ reads => (reads_candidates_of_reads_stats reads).1) _ _ cyclic)

theorem stats_closed (noStats : HasNoStats catalog) {source target : Key}
    (reads : Reads (ofDefinitions definitions catalog).stats source target) :
    ∃ stat ∈ (ofDefinitions definitions catalog).stats, stat.key = target := by
  obtain ⟨read, kept⟩ := reads_candidates_of_reads_stats reads
  have targetKept := not_excluded_of_reads read kept
  obtain ⟨definition, first, rfl⟩ := isFirst_of_reads noStats read
  rcases isFirst_compiles catalog first with fails | ⟨stat, candidate, same⟩
  · exact absurd (excluded_of_fails fails) targetKept
  · exact ⟨stat, mem_stats.mpr ⟨candidate, same ▸ targetKept⟩, same⟩

theorem hasNoStats_ofFields (fields : List FieldDefinition) (official : OfficialResults) :
    HasNoStats (Catalog.ofFields fields official) :=
  fun _ smart => Catalog.find?_ofFields_smart fields official smart

end

/-- A validation keeps exactly the stats that compile on their own and do not come to read one that
fails to compile or that lies on a dependency cycle. What it keeps is closed under reading, free of
cycles and in the order of the definitions; every cycle has a stat that is reported for it, and every
path that is reported is a closed walk. -/
theorem ofDefinitions_exact (definitions : List StatDefinition) (fields : List FieldDefinition)
    (official : OfficialResults) :
    let catalog := Catalog.ofFields fields official
    let validation := ofDefinitions definitions catalog
    let reads := Reads (candidates definitions catalog)
    (∀ key : Key, key.space = .smart → (((registered definitions catalog).find? key).isSome ↔
      ∃ definition : StatDefinition, definition.IsFirst definitions ∧
        Key.smart definition.id = key)) ∧
    (∀ stat, stat ∈ candidates definitions catalog ↔
      ∃ definition : StatDefinition, definition.IsFirst definitions ∧
        (registered definitions catalog).compile definition = .ok stat) ∧
    (∀ stat, stat ∈ validation.stats ↔ stat ∈ candidates definitions catalog ∧
      ∀ key, Relation.ReflTransGen reads stat.key key →
        ¬FailsToCompile definitions catalog key ∧ ¬Relation.TransGen reads key key) ∧
    (∀ key, ¬Relation.TransGen (Reads validation.stats) key key) ∧
    (∀ source target, Reads validation.stats source target →
      ∃ stat ∈ validation.stats, stat.key = target) ∧
    (validation.stats.map Stat.definition).Sublist definitions ∧
    (∀ walk, ClosedWalk reads walk → ∃ key ∈ walk, ∃ path,
      (⟨key.id, .circular path⟩ : Exclusion) ∈ validation.exclusions) ∧
    ∀ id path, (⟨id, .circular path⟩ : Exclusion) ∈ validation.exclusions →
      ClosedWalk reads (path.map Key.smart) ∧ id ∈ path := by
  intro catalog validation reads
  have noStats : HasNoStats catalog := hasNoStats_ofFields fields official
  refine ⟨?_, fun stat => mem_candidates, ?_, stats_acyclic, fun source target => stats_closed noStats,
    ?_, fun walk => reported_of_closedWalk, fun id path => closed_of_reported⟩
  · intro key smart
    constructor
    · exact isFirst_of_registered noStats smart
    · rintro ⟨definition, first, rfl⟩
      exact (find?_register catalog _ _).mpr
        (Or.inr ⟨definition, mem_accept_iff_isFirst.mpr first, rfl⟩)
  · intro stat
    rw [mem_stats]
    refine and_congr_right fun candidate => ?_
    rw [excluded_iff noStats candidate]
    push Not
    exact Iff.rfl
  · exact ((List.filter_sublist.map Stat.definition).trans
      (candidates_sublist definitions catalog))

end Validation

end Scouting

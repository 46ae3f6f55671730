import Scouting.Stat.Compilation
import Scouting.Stat.Dependency

/-!
Validation of the stats of a configuration. Every stat is checked, so that every fault is reported
at once. Excluded are stats with a bad or repeated id, stats that do not compile, stats on a
dependency cycle, and stats that read an excluded one.
-/

namespace Scouting

def StatDefinition.refusal? (definition : StatDefinition) (earlier : List StatDefinition) :
    Option Fault :=
  if !isIdentifier definition.id then some .badId
  else if earlier.any (·.id == definition.id) then some .duplicateId
  else none

namespace Validation

def accept (earlier : List StatDefinition) :
    List StatDefinition → List StatDefinition × List Exclusion
  | [] => ([], [])
  | definition :: rest =>
    let (accepted, refused) := accept (definition :: earlier) rest
    match definition.refusal? earlier with
    | none => (definition :: accepted, refused)
    | some fault => (accepted, ⟨definition.id, fault⟩ :: refused)

def register (catalog : Catalog) (definitions : List StatDefinition) : Catalog :=
  definitions.foldl (fun catalog definition => catalog.insert definition.info) catalog

def compiled (catalog : Catalog) (definitions : List StatDefinition) : List Stat :=
  definitions.filterMap fun definition => (catalog.compile definition).toOption

def uncompiled? (catalog : Catalog) (definition : StatDefinition) : Option Exclusion :=
  match catalog.compile definition with
  | .ok _ => none
  | .error fault => some ⟨definition.id, fault⟩

/-- What is excluded so far: keys, and what is reported about them in order. -/
structure Excluded where
  keys : List Key
  reports : List Exclusion

/-- Excludes a stat on a cycle, unless it is excluded already. -/
def excludeOnCycle (path : List String) (excluded : Excluded) (key : Key) : Excluded :=
  if key ∈ excluded.keys then excluded
  else ⟨excluded.keys ++ [key], excluded.reports ++ [⟨key.id, .circular path⟩]⟩

def excludeCycle (excluded : Excluded) (cycle : List Key) : Excluded :=
  cycle.dropLast.foldl (excludeOnCycle (cycle.map Key.id)) excluded

def remaining (stats : List Stat) (keys : List Key) : List Stat :=
  stats.filter fun stat => stat.key ∉ keys

def tainted (stats : List Stat) (keys : List Key) : List (Key × Key) :=
  (remaining stats keys).filterMap fun stat =>
    (stat.dependencies.find? (· ∈ keys)).map fun dependency => (stat.key, dependency)

theorem mem_tainted {stats : List Stat} {keys : List Key} {entry : Key × Key}
    (member : entry ∈ tainted stats keys) :
    ∃ stat ∈ stats, stat.key = entry.1 ∧ stat.key ∉ keys := by
  obtain ⟨stat, inRemaining, found⟩ := List.mem_filterMap.mp member
  obtain ⟨dependency, _, same⟩ := Option.map_eq_some_iff.mp found
  have ⟨inStats, fresh⟩ := List.mem_filter.mp inRemaining
  exact ⟨stat, inStats, by simp [← same], by simpa using fresh⟩

theorem length_remaining_lt {stats : List Stat} {keys : List Key}
    (some : tainted stats keys ≠ []) :
    (remaining stats (keys ++ (tainted stats keys).map (·.1))).length <
      (remaining stats keys).length := by
  obtain ⟨entry, member⟩ := List.exists_mem_of_ne_nil _ some
  obtain ⟨stat, inStats, same, fresh⟩ := mem_tainted member
  have split : remaining stats (keys ++ (tainted stats keys).map (·.1)) =
      (remaining stats keys).filter fun other => other.key ∉ (tainted stats keys).map (·.1) := by
    simp only [remaining, List.filter_filter, List.mem_append, not_or]
    refine List.filter_congr fun other _ => ?_
    simp [Bool.and_comm]
  rw [split]
  refine List.length_filter_lt_length_iff_exists.mpr ⟨stat, ?_, ?_⟩
  · simpa [remaining, inStats] using fresh
  · have : stat.key ∈ (tainted stats keys).map (·.1) := List.mem_map.mpr ⟨entry, member, same.symm⟩
    simpa using this

def spread (stats : List Stat) (excluded : Excluded) : Excluded :=
  if _ : tainted stats excluded.keys = [] then excluded
  else
    let found := tainted stats excluded.keys
    spread stats
      ⟨excluded.keys ++ found.map (·.1),
        excluded.reports ++ found.map fun entry => ⟨entry.1.id, .dependsOnExcluded entry.2.id⟩⟩
termination_by (remaining stats excluded.keys).length
decreasing_by exact length_remaining_lt (by assumption)

end Validation

structure Validation where
  /-- The stats that can be used, in configuration order. -/
  stats : List Stat
  exclusions : List Exclusion
  /-- The catalog, in which the stats that can be used are registered. -/
  catalog : Catalog

namespace Validation

def ofDefinitions (definitions : List StatDefinition) (catalog : Catalog) : Validation :=
  let (accepted, refused) := accept [] definitions
  let registered := register catalog accepted
  let stats := compiled registered accepted
  let failed := (definitions.map fun definition => Key.smart definition.id).filter fun key =>
    key ∉ stats.map Stat.key
  let start : Excluded := ⟨failed, refused ++ accepted.filterMap (uncompiled? registered)⟩
  let excluded := spread stats ((Dependencies.ofStats stats).cycles.foldl excludeCycle start)
  { stats := remaining stats excluded.keys
    exclusions := excluded.reports
    catalog := registered.remove excluded.keys }

def isValid (validation : Validation) : Bool := validation.exclusions.isEmpty

def excludedIds (validation : Validation) : List String :=
  ((validation.exclusions.map Exclusion.id).mergeSort fun left right => left ≤ right).eraseReps

end Validation

end Scouting

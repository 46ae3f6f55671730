import Scouting.Proofs.Acceptance
import Scouting.Proofs.DependencyCycles

/-!
Which stats a validation excludes: those that do not compile, those on a dependency cycle, and
whatever reads one of these, directly or through other stats. Nothing else is excluded, although the
search for cycles does not report every cycle.
-/

namespace Scouting

def Reads (stats : List Stat) (source target : Key) : Prop :=
  ∃ stat ∈ stats, stat.key = source ∧ target ∈ stat.dependencies

namespace Dependencies

theorem reads_of_edge {stats : List Stat} {source target : Key}
    (edge : (ofStats stats).Edge source target) : Reads stats source target := by
  cases look : (ofStats stats).lookup source with
  | none => simp [Edge, look] at edge
  | some dependencies =>
      obtain ⟨before, after, split, _⟩ := List.lookup_eq_some_iff.mp look
      have member : (source, dependencies) ∈ ofStats stats := by simp [split]
      obtain ⟨stat, inStats, same⟩ := List.mem_map.mp member
      obtain ⟨rfl, rfl⟩ := Prod.mk.inj same
      exact ⟨stat, inStats, rfl, by simpa [Edge, look] using edge⟩

theorem edge_of_reads {stats : List Stat} (unique : (stats.map Stat.key).Nodup)
    {source target : Key} (reads : Reads stats source target) :
    (ofStats stats).Edge source target := by
  obtain ⟨stat, member, rfl, dependency⟩ := reads
  induction stats with
  | nil => cases member
  | cons first rest ih =>
      obtain ⟨fresh, others⟩ := List.nodup_cons.mp unique
      rcases List.mem_cons.mp member with rfl | later
      · simpa [Edge, ofStats] using dependency
      · have different : stat.key ≠ first.key := fun same =>
          fresh (same ▸ List.mem_map_of_mem later)
        simpa [Edge, ofStats, List.lookup_cons, beq_eq_false_iff_ne.mpr different] using
          ih others later

end Dependencies

namespace Validation

theorem mem_foldl_excludeOnCycle {path : List String} {keys : List Key} {excluded : Excluded}
    {key : Key} :
    key ∈ (keys.foldl (excludeOnCycle path) excluded).keys ↔ key ∈ excluded.keys ∨ key ∈ keys := by
  induction keys generalizing excluded with
  | nil => simp
  | cons first rest ih =>
      rw [List.foldl_cons, ih, excludeOnCycle]
      split <;> grind

theorem mem_foldl_excludeCycle {cycles : List (List Key)} {excluded : Excluded} {key : Key} :
    key ∈ (cycles.foldl excludeCycle excluded).keys ↔
      key ∈ excluded.keys ∨ ∃ cycle ∈ cycles, key ∈ cycle.dropLast := by
  induction cycles generalizing excluded with
  | nil => simp
  | cons first rest ih =>
      rw [List.foldl_cons, ih, excludeCycle, mem_foldl_excludeOnCycle, or_assoc]
      simp

/-- What is reported of stats on cycles: each stat with a cycle that it is on. -/
structure ReportsCycles (start : Excluded) (cycles : List (List Key)) (excluded : Excluded) :
    Prop where
  kept : start.reports ⊆ excluded.reports
  sound : ∀ report ∈ excluded.reports, report ∈ start.reports ∨
    ∃ cycle ∈ cycles, ∃ key ∈ cycle.dropLast, report = ⟨key.id, .circular (cycle.map Key.id)⟩
  complete : ∀ key ∈ excluded.keys, key ∈ start.keys ∨
    ∃ path, (⟨key.id, .circular path⟩ : Exclusion) ∈ excluded.reports

theorem ReportsCycles.excludeOnCycle {start excluded : Excluded} {cycles : List (List Key)}
    (reports : ReportsCycles start cycles excluded) {cycle : List Key} (known : cycle ∈ cycles)
    {key : Key} (member : key ∈ cycle.dropLast) :
    ReportsCycles start cycles (excludeOnCycle (cycle.map Key.id) excluded key) := by
  rw [Validation.excludeOnCycle]
  split
  · exact reports
  · refine ⟨?_, ?_, ?_⟩
    · exact fun report old => List.mem_append_left _ (reports.kept old)
    · intro report inReports
      rcases List.mem_append.mp inReports with old | new
      · exact reports.sound report old
      · exact Or.inr ⟨cycle, known, key, member, List.mem_singleton.mp new⟩
    · intro other inKeys
      rcases List.mem_append.mp inKeys with old | new
      · rcases reports.complete other old with early | ⟨path, reported⟩
        · exact Or.inl early
        · exact Or.inr ⟨path, List.mem_append_left _ reported⟩
      · rw [List.mem_singleton.mp new]
        exact Or.inr ⟨cycle.map Key.id, by simp⟩

theorem foldl_excludeCycle_reports (cycles : List (List Key)) (start : Excluded) :
    ReportsCycles start cycles (cycles.foldl excludeCycle start) := by
  have initial : ReportsCycles start cycles start :=
    ⟨List.Subset.refl _, fun _ => Or.inl, fun _ => Or.inl⟩
  refine List.foldlRecOn (motive := ReportsCycles start cycles) _ _ initial ?_
  intro between reports cycle known
  refine List.foldlRecOn (motive := ReportsCycles start cycles) _ _ reports ?_
  intro excluded soFar key member
  exact soFar.excludeOnCycle known member

theorem subset_spread (stats : List Stat) (excluded : Excluded) :
    excluded.keys ⊆ (spread stats excluded).keys := by
  fun_induction spread stats excluded with
  | case1 excluded done => exact List.Subset.refl _
  | case2 excluded more found =>
      rename_i ih
      exact fun key member => ih (List.mem_append_left _ member)

theorem spread_closed (stats : List Stat) (excluded : Excluded) :
    ∀ stat ∈ stats, stat.key ∉ (spread stats excluded).keys →
      ∀ key ∈ stat.dependencies, key ∉ (spread stats excluded).keys := by
  fun_induction spread stats excluded with
  | case1 excluded done =>
      intro stat member kept key dependency bad
      have clean := List.filterMap_eq_nil_iff.mp done stat (by simpa [remaining, member] using kept)
      rw [Option.map_eq_none_iff, List.find?_eq_none] at clean
      exact clean key dependency (by simpa using bad)
  | case2 excluded more found =>
      rename_i ih
      exact ih

theorem spread_reaches (stats : List Stat) (excluded : Excluded) :
    ∀ key ∈ (spread stats excluded).keys,
      ∃ base ∈ excluded.keys, Relation.ReflTransGen (Reads stats) key base := by
  fun_induction spread stats excluded with
  | case1 excluded done =>
      exact fun key member => ⟨key, member, Relation.ReflTransGen.refl⟩
  | case2 excluded more found =>
      rename_i ih
      intro key member
      obtain ⟨base, inRound, path⟩ := ih key member
      rcases List.mem_append.mp inRound with old | new
      · exact ⟨base, old, path⟩
      · obtain ⟨entry, isFound, rfl⟩ := List.mem_map.mp new
        obtain ⟨stat, inRemaining, located⟩ := List.mem_filterMap.mp isFound
        obtain ⟨dependency, first, rfl⟩ := Option.map_eq_some_iff.mp located
        have bad : dependency ∈ excluded.keys := by simpa using List.find?_some first
        refine ⟨dependency, bad, path.tail ⟨stat, (List.mem_filter.mp inRemaining).1, rfl, ?_⟩⟩
        exact List.mem_of_find?_eq_some first

theorem mem_spread_reports (stats : List Stat) (excluded : Excluded) :
    excluded.reports ⊆ (spread stats excluded).reports ∧
      ∀ report ∈ (spread stats excluded).reports,
        report ∈ excluded.reports ∨ ∃ id, report.fault = .dependsOnExcluded id := by
  fun_induction spread stats excluded with
  | case1 excluded done =>
      exact ⟨List.Subset.refl _, fun _ => Or.inl⟩
  | case2 excluded more found =>
      rename_i ih
      refine ⟨fun report member => ih.1 (List.mem_append_left _ member), ?_⟩
      intro report member
      rcases ih.2 report member with inRound | depends
      · rcases List.mem_append.mp inRound with old | new
        · exact Or.inl old
        · obtain ⟨entry, _, rfl⟩ := List.mem_map.mp new
          exact Or.inr ⟨_, rfl⟩
      · exact Or.inr depends

end Validation

end Scouting

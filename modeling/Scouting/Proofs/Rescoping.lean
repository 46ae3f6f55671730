import Scouting.Proofs.LoadedEvent

/-!
Stats that are computed once for a team, and the same stats computed in each match. Validation does
not look at the difference: the event with one definition rescoped has the stats, the exclusions and
the keys that it had.
-/

namespace Scouting

def StatDefinition.rescoped (id : String) (once : Bool) (definition : StatDefinition) :
    StatDefinition :=
  if definition.id = id then { definition with oncePerTeam := once } else definition

def Stat.rescoped (id : String) (once : Bool) (stat : Stat) : Stat :=
  { stat with definition := stat.definition.rescoped id once }

section
variable {id : String} {once : Bool}

namespace StatDefinition

variable {definition : StatDefinition}

@[simp] theorem id_rescoped : (definition.rescoped id once).id = definition.id := by
  rw [rescoped]
  split <;> rfl

@[simp] theorem info_rescoped : (definition.rescoped id once).info = definition.info := by
  rw [rescoped]
  split <;> rfl

@[simp] theorem operator_rescoped :
    (definition.rescoped id once).operator = definition.operator := by
  rw [rescoped]
  split <;> rfl

end StatDefinition

namespace Stat

variable {stat : Stat}

@[simp] theorem key_rescoped : (stat.rescoped id once).key = stat.key := by
  simp [key, rescoped]

@[simp] theorem plan_rescoped : (stat.rescoped id once).plan = stat.plan := rfl

@[simp] theorem dependencies_rescoped :
    (stat.rescoped id once).dependencies = stat.dependencies := rfl

end Stat

theorem Catalog.compile_rescoped (catalog : Catalog) (definition : StatDefinition) :
    catalog.compile (definition.rescoped id once) =
      (catalog.compile definition).map (Stat.rescoped id once) := by
  simp only [compile, StatDefinition.operator_rescoped]
  cases catalog.plan definition.operator <;> rfl

namespace Validation

theorem accept_rescoped (earlier definitions : List StatDefinition) :
    accept (earlier.map (StatDefinition.rescoped id once))
        (definitions.map (StatDefinition.rescoped id once)) =
      ((accept earlier definitions).1.map (StatDefinition.rescoped id once),
        (accept earlier definitions).2) := by
  induction definitions generalizing earlier with
  | nil => rfl
  | cons definition rest ih =>
      have refusal : (definition.rescoped id once).refusal?
          (earlier.map (StatDefinition.rescoped id once)) = definition.refusal? earlier := by
        simp [StatDefinition.refusal?, List.any_map, Function.comp_def]
      rw [List.map_cons, accept, ← List.map_cons, ih, accept, refusal, StatDefinition.id_rescoped]
      cases definition.refusal? earlier <;> rfl

theorem register_rescoped (catalog : Catalog) (definitions : List StatDefinition) :
    register catalog (definitions.map (StatDefinition.rescoped id once)) =
      register catalog definitions := by
  simp [register, List.foldl_map]

theorem compiled_rescoped (catalog : Catalog) (definitions : List StatDefinition) :
    compiled catalog (definitions.map (StatDefinition.rescoped id once)) =
      (compiled catalog definitions).map (Stat.rescoped id once) := by
  rw [compiled, compiled, List.filterMap_map, List.map_filterMap]
  refine List.filterMap_congr fun definition _ => ?_
  rw [Function.comp_apply, Catalog.compile_rescoped]
  cases catalog.compile definition <;> rfl

theorem uncompiled?_rescoped (catalog : Catalog) (definition : StatDefinition) :
    uncompiled? catalog (definition.rescoped id once) = uncompiled? catalog definition := by
  rw [uncompiled?, uncompiled?, Catalog.compile_rescoped, StatDefinition.id_rescoped]
  cases catalog.compile definition <;> rfl

theorem remaining_rescoped (stats : List Stat) (keys : List Key) :
    remaining (stats.map (Stat.rescoped id once)) keys =
      (remaining stats keys).map (Stat.rescoped id once) := by
  simp [remaining, List.filter_map, Function.comp_def]

theorem tainted_rescoped (stats : List Stat) (keys : List Key) :
    tainted (stats.map (Stat.rescoped id once)) keys = tainted stats keys := by
  simp [tainted, remaining_rescoped, List.filterMap_map, Function.comp_def]

theorem spread_rescoped (stats : List Stat) (excluded : Excluded) :
    spread (stats.map (Stat.rescoped id once)) excluded = spread stats excluded := by
  fun_induction spread stats excluded with
  | case1 excluded none => rw [spread, dif_pos (by rw [tainted_rescoped, none])]
  | case2 excluded some found ih =>
      rw [spread, dif_neg (by rwa [tainted_rescoped]), tainted_rescoped]
      exact ih

theorem ofStats_rescoped (stats : List Stat) :
    Dependencies.ofStats (stats.map (Stat.rescoped id once)) = Dependencies.ofStats stats := by
  simp [Dependencies.ofStats]

theorem ofDefinitions_rescoped (definitions : List StatDefinition) (catalog : Catalog) :
    ofDefinitions (definitions.map (StatDefinition.rescoped id once)) catalog =
      { ofDefinitions definitions catalog with
        stats := (ofDefinitions definitions catalog).stats.map (Stat.rescoped id once) } := by
  have accepted : accept [] (definitions.map (StatDefinition.rescoped id once)) = _ :=
    accept_rescoped [] definitions
  simp only [ofDefinitions, accepted, register_rescoped, compiled_rescoped, ofStats_rescoped,
    spread_rescoped, remaining_rescoped, List.map_map, List.filterMap_map, Function.comp_def,
    StatDefinition.id_rescoped, Stat.key_rescoped, uncompiled?_rescoped]

end Validation

namespace StatSet

variable (set : StatSet)

def rescoped (id : String) (once : Bool) : StatSet := ⟨set.stats.map (Stat.rescoped id once)⟩

theorem ofList_rescoped {stats : List Stat} (unique : (stats.map Stat.key).Nodup) :
    ofList (stats.map (Stat.rescoped id once)) = (ofList stats).rescoped id once := by
  have same : (stats.map (Stat.rescoped id once)).map Stat.key = stats.map Stat.key := by
    simp
  have others : ((stats.map (Stat.rescoped id once)).map Stat.key).Nodup := same ▸ unique
  rw [rescoped, stats_ofList unique]
  exact congrArg StatSet.mk (stats_ofList others)

end StatSet

namespace Event

/-- The event with one stat computed once for a team, or in each match, and else the same. -/
def rescoped (event : Event) (id : String) (once : Bool) : Event :=
  { event with
    config := { event.config with
      definitions := event.config.definitions.map (StatDefinition.rescoped id once) }
    stats := event.stats.rescoped id once }

theorem rescoped_ofInputs (records : List Record) (config : Configuration)
    (official : OfficialResults) (settings : Settings) :
    ofInputs records { config with
        definitions := config.definitions.map (StatDefinition.rescoped id once) }
      official settings =
      (ofInputs records config official settings).rescoped id once := by
  simp only [ofInputs, Validation.ofDefinitions_rescoped,
    StatSet.ofList_rescoped (Validation.stats_nodup _ _)]
  rfl

theorem Reachable.rescoped {event : Event} (reachable : event.Reachable) :
    (event.rescoped id once).Reachable := by
  induction reachable with
  | ofInputs records config official settings =>
      rw [← rescoped_ofInputs]
      exact Reachable.ofInputs _ _ _ _
  | insert record _ ih => exact ih.insert record
  | setIgnored record ignored _ changed ih =>
      simp only [Event.setIgnored, bind_eq_ok, pure_eq_ok] at changed
      obtain ⟨store, stored, rfl⟩ := changed
      refine ih.setIgnored record ignored ?_
      simp only [Event.setIgnored, bind_eq_ok, pure_eq_ok]
      exact ⟨store, stored, rfl⟩
  | setUnsure record unsure reason _ changed ih =>
      simp only [Event.setUnsure, bind_eq_ok, pure_eq_ok] at changed
      obtain ⟨store, stored, rfl⟩ := changed
      refine ih.setUnsure record unsure reason ?_
      simp only [Event.setUnsure, bind_eq_ok, pure_eq_ok]
      exact ⟨store, stored, rfl⟩
  | rebuild _ ih => exact ih.rebuild

end Event

end

end Scouting

import Scouting.Stat.Plan

/-!
Dependencies between stats. A depth-first search from every stat finds cycles: whenever it comes
back to a stat on its way, the way from there on is a closed walk.
-/

namespace Scouting

abbrev Dependencies := List (Key × List Key)

namespace Dependencies

def ofStats (stats : List Stat) : Dependencies :=
  stats.map fun stat => (stat.key, stat.dependencies)

def off (graph : Dependencies) (way : List Key) : Dependencies :=
  graph.filter fun node => node.1 ∉ way

theorem length_off_lt {graph : Dependencies} {way : List Key} {key : Key}
    (known : key ∈ graph.map (·.1)) (fresh : key ∉ way) :
    (graph.off (way ++ [key])).length < (graph.off way).length := by
  obtain ⟨node, member, rfl⟩ := List.mem_map.mp known
  have same :
      graph.off (way ++ [node.1]) = (graph.off way).filter fun other => other.1 ≠ node.1 := by
    simp [off, List.filter_filter, List.mem_append, not_or, and_comm]
  rw [same]
  refine List.length_filter_lt_length_iff_exists.mpr ⟨node, ?_, by simp⟩
  simpa [off, member] using fresh

/-- What a search has come to: the stats that are done with, and the closed walks found. -/
structure Search where
  finished : List Key
  cycles : List (List Key)

def searchFrom (graph : Dependencies) (way : List Key) (key : Key) (search : Search) : Search :=
  if _ : key ∈ way then
    { search with cycles := search.cycles ++ [way.dropWhile (· ≠ key) ++ [key]] }
  else if key ∈ search.finished then search
  else if _ : key ∈ graph.map (·.1) then
    let next := (graph.lookup key).getD []
    let search := next.foldl
      (fun search dependency => searchFrom graph (way ++ [key]) dependency search) search
    { search with finished := key :: search.finished }
  else { search with finished := key :: search.finished }
termination_by (graph.off way).length
decreasing_by exact length_off_lt (by assumption) (by assumption)

def cycles (graph : Dependencies) : List (List Key) :=
  ((graph.map (·.1)).foldl (fun search key => graph.searchFrom [] key search) ⟨[], []⟩).cycles

end Dependencies

end Scouting

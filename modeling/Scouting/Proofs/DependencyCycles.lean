import Mathlib.Data.List.Chain
import Mathlib.Logic.Relation
import Scouting.Stat.Dependency

/-!
The search for dependency cycles. Every walk that it reports follows dependencies and ends where it
starts. The search passes over stats that it is done with, so not every cycle is reported; but the
stats off the reported walks can be ranked, each above all that it reads, so no cycle is without a
reported stat.
-/

namespace Scouting

/-- A walk along edges that ends where it starts. -/
structure ClosedWalk (edge : Key → Key → Prop) (walk : List Key) : Prop where
  follows : walk.IsChain edge
  closes : walk.head? = walk.getLast?
  moves : 2 ≤ walk.length

namespace ClosedWalk

theorem mono {edge other : Key → Key → Prop} {walk : List Key} (closed : ClosedWalk edge walk)
    (within : ∀ source target, edge source target → other source target) :
    ClosedWalk other walk :=
  ⟨closed.follows.imp within, closed.closes, closed.moves⟩

theorem reaches_itself {edge : Key → Key → Prop} {walk : List Key} (closed : ClosedWalk edge walk)
    {key : Key} (member : key ∈ walk) : Relation.TransGen edge key key := by
  have ordered : walk.Pairwise (Relation.TransGen edge) :=
    List.isChain_iff_pairwise.mp (closed.follows.imp fun _ _ => Relation.TransGen.single)
  have closes := closed.closes
  have moves := closed.moves
  obtain ⟨front, back, rfl⟩ := List.append_of_mem member
  obtain ⟨_, later, across⟩ := List.pairwise_append.mp ordered
  have toBack := (List.pairwise_cons.mp later).1
  cases front with
  | nil =>
      rcases List.eq_nil_or_concat back with rfl | ⟨rest, last, rfl⟩
      · simp at moves
      · have same : key = last := by simpa [List.getLast?_cons] using closes
        exact same ▸ toBack last (by simp)
  | cons first others =>
      have fromFirst : Relation.TransGen edge first key := across first (by simp) key (by simp)
      rcases List.eq_nil_or_concat back with rfl | ⟨rest, last, rfl⟩
      · have same : first = key := by
          simpa [List.getLast?_cons, List.getLast?_append] using closes
        exact same ▸ fromFirst
      · have same : first = last := by
          simpa [List.getLast?_cons, List.getLast?_append] using closes
        exact (same ▸ toBack last (by simp)).trans fromFirst

theorem not_descending {rank : Key → Nat} {walk : List Key} :
    ¬ClosedWalk (fun source target => rank target < rank source) walk := by
  intro closed
  obtain ⟨key, member⟩ :=
    List.exists_mem_of_length_pos (Nat.lt_of_lt_of_le Nat.two_pos closed.moves)
  have falls : ∀ target,
      Relation.TransGen (fun source target => rank target < rank source) key target →
        rank target < rank key := by
    intro target path
    induction path with
    | single step => exact step
    | tail _ step ih => exact step.trans ih
  exact absurd (falls key (closed.reaches_itself member)) (Nat.lt_irrefl _)

end ClosedWalk

namespace Dependencies

def Edge (graph : Dependencies) (source target : Key) : Prop :=
  target ∈ (graph.lookup source).getD []

namespace Search

def Marks (search : Search) (key : Key) : Prop := ∃ cycle ∈ search.cycles, key ∈ cycle.dropLast

def Settles (search : Search) (key : Key) : Prop := key ∈ search.finished ∨ search.Marks key

/-- Whatever a finished stat reads was finished before it, or is on a walk that was found. -/
def Ordered (graph : Dependencies) (search : Search) : Prop :=
  ∀ later key earlier, search.finished = later ++ key :: earlier →
    ∀ target, graph.Edge key target → target ∈ earlier ∨ search.Marks target

/-- Nothing that was found is forgotten. -/
structure Grows (before after : Search) : Prop where
  finished : before.finished ⊆ after.finished
  cycles : before.cycles ⊆ after.cycles

theorem Grows.refl (search : Search) : Grows search search :=
  ⟨List.Subset.refl _, List.Subset.refl _⟩

theorem Grows.trans {before between after : Search} (first : Grows before between)
    (second : Grows between after) : Grows before after :=
  ⟨fun _ member => second.finished (first.finished member),
    fun _ member => second.cycles (first.cycles member)⟩

theorem Marks.grow {before after : Search} {key : Key} (marked : before.Marks key)
    (grows : Grows before after) : after.Marks key := by
  obtain ⟨cycle, member, onCycle⟩ := marked
  exact ⟨cycle, grows.cycles member, onCycle⟩

theorem Settles.grow {before after : Search} {key : Key} (settled : before.Settles key)
    (grows : Grows before after) : after.Settles key := by
  rcases settled with finished | marked
  · exact Or.inl (grows.finished finished)
  · exact Or.inr (marked.grow grows)

theorem Ordered.withCycle {graph : Dependencies} {search : Search}
    (ordered : search.Ordered graph) (cycle : List Key) :
    Ordered graph { search with cycles := search.cycles ++ [cycle] } := by
  intro later key earlier split target edge
  rcases ordered later key earlier split target edge with before | ⟨found, member, onCycle⟩
  · exact Or.inl before
  · exact Or.inr ⟨found, List.mem_append_left _ member, onCycle⟩

theorem Ordered.finish {graph : Dependencies} {search : Search} (ordered : search.Ordered graph)
    {key : Key} (settled : ∀ target, graph.Edge key target → search.Settles target) :
    Ordered graph { search with finished := key :: search.finished } := by
  intro later other earlier split target edge
  cases later with
  | nil =>
      obtain ⟨rfl, rfl⟩ : key = other ∧ search.finished = earlier := by simpa using split
      exact settled target edge
  | cons first rest =>
      obtain ⟨_, inOld⟩ : key = first ∧ search.finished = rest ++ other :: earlier := by
        simpa using split
      exact ordered rest other earlier inOld target edge

theorem foldl_visits (graph : Dependencies) (visit : Search → Key → Search)
    (step : ∀ search key, search.Ordered graph →
      (visit search key).Ordered graph ∧ Grows search (visit search key) ∧
        (visit search key).Settles key)
    (keys : List Key) (search : Search) (ordered : search.Ordered graph) :
    (keys.foldl visit search).Ordered graph ∧ Grows search (keys.foldl visit search) ∧
      ∀ key ∈ keys, (keys.foldl visit search).Settles key := by
  induction keys generalizing search with
  | nil => exact ⟨ordered, Grows.refl search, by simp⟩
  | cons first rest ih =>
      obtain ⟨orderedFirst, growsFirst, settledFirst⟩ := step search first ordered
      obtain ⟨orderedRest, growsRest, settledRest⟩ := ih (visit search first) orderedFirst
      refine ⟨orderedRest, growsFirst.trans growsRest, ?_⟩
      intro key member
      rcases List.mem_cons.mp member with rfl | later
      · exact settledFirst.grow growsRest
      · exact settledRest key later

end Search

open Search

theorem dropWhile_ne_of_mem {way : List Key} {key : Key} (member : key ∈ way) :
    ∃ front back, way = front ++ key :: back ∧ way.dropWhile (· ≠ key) = key :: back := by
  obtain ⟨front, back, rfl, absent⟩ := List.eq_append_cons_of_mem member
  refine ⟨front, back, rfl, ?_⟩
  rw [List.dropWhile_append_of_pos]
  · simp
  · intro other inFront
    simp only [ne_eq, decide_not, Bool.not_eq_eq_eq_not, Bool.not_true, decide_eq_false_iff_not]
    rintro rfl
    exact absent inFront

theorem lookup_eq_none {graph : Dependencies} {key : Key} (unknown : key ∉ graph.map (·.1)) :
    graph.lookup key = none := by
  refine List.lookup_eq_none_iff.mpr fun node member => ?_
  simp only [bne_iff_ne, ne_eq]
  rintro rfl
  exact unknown (List.mem_map_of_mem member)

theorem searchFrom_visits (graph : Dependencies) (way : List Key) (key : Key) (search : Search)
    (ordered : search.Ordered graph) :
    (graph.searchFrom way key search).Ordered graph ∧
      Grows search (graph.searchFrom way key search) ∧
        (graph.searchFrom way key search).Settles key := by
  induction way, key, search using searchFrom.induct graph with
  | case1 way key search onWay =>
      rw [searchFrom, dif_pos onWay]
      refine ⟨ordered.withCycle _, ⟨List.Subset.refl _, List.subset_append_left _ _⟩, Or.inr ?_⟩
      obtain ⟨_, back, _, rest⟩ := dropWhile_ne_of_mem onWay
      refine ⟨way.dropWhile (· ≠ key) ++ [key], by simp, ?_⟩
      rw [List.dropLast_concat, rest]
      exact List.mem_cons_self
  | case2 way key search offWay finished =>
      rw [searchFrom, dif_neg offWay, if_pos finished]
      exact ⟨ordered, Grows.refl search, Or.inl finished⟩
  | case3 way key search offWay unfinished known ih =>
      rw [searchFrom, dif_neg offWay, if_neg unfinished, dif_pos known]
      obtain ⟨orderedAfter, grows, settled⟩ :=
        foldl_visits graph
          (fun search dependency => graph.searchFrom (way ++ [key]) dependency search)
          ih ((graph.lookup key).getD []) search ordered
      exact ⟨orderedAfter.finish settled,
        ⟨fun _ member => List.mem_cons_of_mem _ (grows.finished member), grows.cycles⟩,
        Or.inl List.mem_cons_self⟩
  | case4 way key search offWay unfinished unknown =>
      rw [searchFrom, dif_neg offWay, if_neg unfinished, dif_neg unknown]
      refine ⟨ordered.finish ?_, ⟨List.subset_cons_self _ _, List.Subset.refl _⟩,
        Or.inl List.mem_cons_self⟩
      intro target edge
      simp [Edge, lookup_eq_none unknown] at edge

theorem searchFrom_closed (graph : Dependencies) (way : List Key) (key : Key) (search : Search)
    (follows : (way ++ [key]).IsChain graph.Edge)
    (closed : ∀ cycle ∈ search.cycles, ClosedWalk graph.Edge cycle) :
    ∀ cycle ∈ (graph.searchFrom way key search).cycles, ClosedWalk graph.Edge cycle := by
  induction way, key, search using searchFrom.induct graph with
  | case1 way key search onWay =>
      rw [searchFrom, dif_pos onWay]
      intro cycle member
      rcases List.mem_append.mp member with old | new
      · exact closed cycle old
      · rw [List.mem_singleton.mp new]
        obtain ⟨front, back, split, rest⟩ := dropWhile_ne_of_mem onWay
        rw [rest]
        rw [split, List.append_assoc] at follows
        exact ⟨follows.right_of_append, by simp [List.getLast?_cons], by simp⟩
  | case2 way key search offWay finished =>
      rwa [searchFrom, dif_neg offWay, if_pos finished]
  | case3 way key search offWay unfinished known ih =>
      rw [searchFrom, dif_neg offWay, if_neg unfinished, dif_pos known]
      refine List.foldlRecOn (motive := fun search : Search =>
        ∀ cycle ∈ search.cycles, ClosedWalk graph.Edge cycle) _ _ closed ?_
      intro between closedBetween dependency member
      refine ih between dependency ?_ closedBetween
      refine List.isChain_append.mpr ⟨follows, List.isChain_singleton _, ?_⟩
      intro last isLast first isFirst
      obtain rfl : key = last := by simpa using isLast
      obtain rfl : dependency = first := by simpa using isFirst
      exact member
  | case4 way key search offWay unfinished unknown =>
      rwa [searchFrom, dif_neg offWay, if_neg unfinished, dif_neg unknown]

/-- Is a stat on a reported walk? -/
def OnCycle (graph : Dependencies) (key : Key) : Prop := ∃ cycle ∈ graph.cycles, key ∈ cycle.dropLast

theorem closed_of_mem_cycles {graph : Dependencies} {cycle : List Key}
    (member : cycle ∈ graph.cycles) : ClosedWalk graph.Edge cycle := by
  have closed : ∀ cycle ∈ graph.cycles, ClosedWalk graph.Edge cycle := by
    rw [cycles]
    refine List.foldlRecOn (motive := fun search : Search =>
      ∀ cycle ∈ search.cycles, ClosedWalk graph.Edge cycle) _ _ (by simp) ?_
    intro search closed key _
    exact searchFrom_closed graph [] key search (List.isChain_singleton key) closed
  exact closed cycle member

theorem exists_rank (graph : Dependencies) : ∃ rank : Key → Nat, ∀ source target,
    graph.Edge source target → ¬graph.OnCycle source → ¬graph.OnCycle target →
      rank target < rank source := by
  obtain ⟨ordered, _, settled⟩ := foldl_visits graph
    (fun search key => graph.searchFrom [] key search)
    (fun search key => searchFrom_visits graph [] key search)
    (graph.map (·.1)) ⟨[], []⟩ (by intro later key earlier split; simp at split)
  generalize final : (graph.map (·.1)).foldl
    (fun search key => graph.searchFrom [] key search) ⟨[], []⟩ = search at ordered settled
  have marks : ∀ key, search.Marks key ↔ graph.OnCycle key := by
    intro key
    simp only [OnCycle, cycles, final, Marks]
  refine ⟨fun key => search.finished.reverse.idxOf key, ?_⟩
  intro source target edge sourceOff targetOff
  have known : source ∈ graph.map (·.1) := by
    by_contra unknown
    simp [Edge, lookup_eq_none unknown] at edge
  have finished : source ∈ search.finished :=
    (settled source known).resolve_right (mt (marks source).mp sourceOff)
  obtain ⟨earlier, later, split, absent⟩ :=
    List.eq_append_cons_of_mem (List.mem_reverse.mpr finished)
  have order : search.finished = later.reverse ++ source :: earlier.reverse := by
    rw [← List.reverse_reverse search.finished, split]
    simp
  have before : target ∈ earlier := by
    rcases ordered _ source _ order target edge with member | marked
    · exact List.mem_reverse.mp member
    · exact absurd ((marks target).mp marked) targetOff
  simp only [split, List.idxOf_append_of_notMem absent, List.idxOf_append_of_mem before,
    List.idxOf_cons_self]
  exact List.idxOf_lt_length_of_mem before

end Dependencies

end Scouting

import Scouting.Proofs.Answers
import Scouting.Proofs.Increasing

/-!
Nested values. An aggregate comes from the observations that values hold, in their order, and from
nothing else: neither from how they are grouped into lists, nor from what is missing. Values can be
regrouped into others exactly if both hold the same observations in the same order, and flattening
lists every observation once, in the order of the paths that lead to them.
-/

namespace Scouting

namespace Value

def IsObservation : Value → Prop
  | missing => False
  | list _ => False
  | _ => True

/-- What stands at the end of a path, each index of which goes into a list. -/
def reach? : Value → List Nat → Option Value
  | value, [] => some value
  | list items, index :: path => items[index]?.bind fun item => item.reach? path
  | _, _ :: _ => none

/-- Are these the paths that lead to observations, each once and in order, and the observations that
stand at their ends? -/
structure Enumerates (value : Value) (paths : List (List Nat)) (observations : List Value) :
    Prop where
  ascending : paths.Pairwise (· < ·)
  complete : ∀ path, path ∈ paths ↔
    ∃ observation, value.reach? path = some observation ∧ observation.IsObservation
  found : paths.map value.reach? = observations.map some

section
variable {value : Value} {rest : List Value} {paths later : List (List Nat)}
  {observations others : List Value}

theorem enumerates_nothing (nothing : value = missing ∨ value = list []) :
    Enumerates value [] [] where
  ascending := List.Pairwise.nil
  complete path := by rcases nothing with rfl | rfl <;> cases path <;> simp [reach?, IsObservation]
  found := rfl

theorem enumerates_observation (isObservation : value.IsObservation) :
    Enumerates value [[]] [value] where
  ascending := List.pairwise_singleton _ _
  complete path := by
    cases path with
    | nil => simp [reach?, isObservation]
    | cons index path =>
        have stuck : value.reach? (index :: path) = none := by
          cases value with
          | list items => exact isObservation.elim
          | _ => rfl
        simp [stuck]
  found := rfl

theorem Enumerates.ne_nil (enumerates : Enumerates (list rest) later others) {path : List Nat}
    (member : path ∈ later) : path ≠ [] := by
  rintro rfl
  obtain ⟨_, reached, isObservation⟩ := (enumerates.complete []).mp member
  cases reached
  exact isObservation

theorem reach?_modifyHead {path : List Nat} (nonempty : path ≠ []) :
    (list (value :: rest)).reach? (path.modifyHead (· + 1)) = (list rest).reach? path := by
  cases path with
  | nil => exact absurd rfl nonempty
  | cons index path => rfl

theorem modifyHead_lt {left right : List Nat} (below : left < right) :
    left.modifyHead (· + 1) < right.modifyHead (· + 1) := by
  cases right with
  | nil => exact absurd below (List.not_lt_nil left)
  | cons other another =>
      cases left with
      | nil => exact List.nil_lt_cons _ _
      | cons index path => simpa [List.cons_lt_cons_iff] using below

theorem Enumerates.cons (first : Enumerates value paths observations)
    (following : Enumerates (list rest) later others) :
    Enumerates (list (value :: rest))
      (paths.map (0 :: ·) ++ later.map (List.modifyHead (· + 1))) (observations ++ others) where
  ascending := by
    rw [List.pairwise_append, List.pairwise_map, List.pairwise_map]
    refine ⟨first.ascending.imp fun below => ?_, following.ascending.imp modifyHead_lt, ?_⟩
    · simpa [List.cons_lt_cons_iff] using below
    · intro front inFront back inBack
      obtain ⟨path, _, rfl⟩ := List.mem_map.mp inFront
      obtain ⟨other, member, rfl⟩ := List.mem_map.mp inBack
      cases other with
      | nil => exact absurd rfl (following.ne_nil member)
      | cons index other => simp [List.cons_lt_cons_iff]
  complete path := by
    rw [List.mem_append, List.mem_map, List.mem_map]
    constructor
    · rintro (⟨path, member, rfl⟩ | ⟨path, member, rfl⟩)
      · exact (first.complete path).mp member
      · rw [reach?_modifyHead (following.ne_nil member)]
        exact (following.complete path).mp member
    · intro reached
      rcases path with _ | ⟨_ | index, path⟩
      · obtain ⟨_, ⟨⟩, isObservation⟩ := reached
        exact isObservation.elim
      · exact Or.inl ⟨path, (first.complete path).mpr reached, rfl⟩
      · exact Or.inr ⟨index :: path, (following.complete (index :: path)).mpr reached, rfl⟩
  found := by
    rw [List.map_append, List.map_append, List.map_map, List.map_map, ← first.found,
      ← following.found]
    congr 1
    exact List.map_congr_left fun path member => reach?_modifyHead (following.ne_nil member)

theorem Enumerates.unique {another : List (List Nat)}
    (enumerates : Enumerates value paths observations) (also : Enumerates value another others) :
    observations = others := by
  have same : paths = another := by
    refine eq_of_increasing (fun left right => List.lt_asymm) enumerates.ascending also.ascending ?_
    exact fun path => (enumerates.complete path).trans (also.complete path).symm
  refine List.map_injective_iff.mpr (Option.some_injective Value) ?_
  rw [← enumerates.found, ← also.found, same]

end

mutual

theorem enumerates_leaves (value : Value) : ∃ paths, Enumerates value paths value.leaves := by
  cases value with
  | missing => exact ⟨[], leaves_missing ▸ enumerates_nothing (Or.inl rfl)⟩
  | list items =>
      rw [leaves_list]
      exact enumerates_flatten items
  | _ =>
      simp only [leaves]
      exact ⟨[[]], enumerates_observation trivial⟩

theorem enumerates_flatten (values : List Value) :
    ∃ paths, Enumerates (list values) paths (flatten values) := by
  cases values with
  | nil => exact ⟨[], flatten_nil ▸ enumerates_nothing (Or.inr rfl)⟩
  | cons value rest =>
      rw [flatten_cons]
      obtain ⟨paths, first⟩ := enumerates_leaves value
      obtain ⟨later, following⟩ := enumerates_flatten rest
      exact ⟨_, first.cons following⟩

end

theorem enumerates_iff {values observations : List Value} :
    (∃ paths, Enumerates (list values) paths observations) ↔ observations = flatten values := by
  obtain ⟨paths, enumerates⟩ := enumerates_flatten values
  constructor
  · rintro ⟨_, also⟩
    exact also.unique enumerates
  · rintro rfl
    exact ⟨paths, enumerates⟩

/-- Can values become others by regrouping? A missing value may be put in, values that stand in a
row may be put into a list of their own, which is empty if they are none, and either may be undone.
What a list holds may be regrouped as well. -/
inductive Regrouped : List Value → List Value → Prop where
  | missing (front back : List Value) : Regrouped (front ++ back) (front ++ .missing :: back)
  | group (front items back : List Value) :
      Regrouped (front ++ items ++ back) (front ++ .list items :: back)
  | inside (front back : List Value) {items others : List Value} : Regrouped items others →
      Regrouped (front ++ .list items :: back) (front ++ .list others :: back)
  | refl (values : List Value) : Regrouped values values
  | symm {values others : List Value} : Regrouped values others → Regrouped others values
  | trans {values others further : List Value} : Regrouped values others →
      Regrouped others further → Regrouped values further

theorem Regrouped.flatten_eq {values others : List Value} (regrouped : Regrouped values others) :
    flatten values = flatten others := by
  induction regrouped with
  | missing front back => simp [flatten_append]
  | group front items back => simp [flatten_append]
  | inside front back _ ih => simp [flatten_append, ih]
  | refl values => rfl
  | symm _ ih => exact ih.symm
  | trans _ _ ih also => exact ih.trans also

theorem Regrouped.between (front back : List Value) {values others : List Value}
    (regrouped : Regrouped values others) :
    Regrouped (front ++ values ++ back) (front ++ others ++ back) := by
  induction regrouped with
  | missing before after => simpa using missing (front ++ before) (after ++ back)
  | group before items after => simpa using group (front ++ before) items (after ++ back)
  | inside before after regrouped _ =>
      simpa using inside (front ++ before) (after ++ back) regrouped
  | refl values => exact refl _
  | symm _ ih => exact ih.symm
  | trans _ _ ih also => exact ih.trans also

mutual

theorem regrouped_leaves (value : Value) : Regrouped [value] value.leaves := by
  cases value with
  | missing =>
      rw [leaves_missing]
      exact (Regrouped.missing [] []).symm
  | list items =>
      have ungrouped : Regrouped [list items] items := by
        simpa using (Regrouped.group [] items []).symm
      rw [leaves_list]
      exact ungrouped.trans (regrouped_flatten items)
  | _ =>
      simp only [leaves]
      exact Regrouped.refl _

theorem regrouped_flatten (values : List Value) : Regrouped values (flatten values) := by
  cases values with
  | nil =>
      rw [flatten_nil]
      exact Regrouped.refl []
  | cons value rest =>
      have first : Regrouped (value :: rest) (value.leaves ++ rest) := by
        simpa using (regrouped_leaves value).between [] rest
      have following : Regrouped (value.leaves ++ rest) (value.leaves ++ flatten rest) := by
        simpa using (regrouped_flatten rest).between value.leaves []
      rw [flatten_cons]
      exact first.trans following

end

theorem regrouped_iff {values others : List Value} :
    Regrouped values others ↔ flatten values = flatten others := by
  constructor
  · exact Regrouped.flatten_eq
  · intro same
    have first := regrouped_flatten values
    rw [same] at first
    exact first.trans (regrouped_flatten others).symm

end Value

section
variable {values others : List Value} (same : Value.flatten values = Value.flatten others)
include same

theorem aggregate_of_flatten_eq (function : AggregateFunction) (kind : ValueKind) :
    aggregate values function kind = aggregate others function kind := by
  simp only [aggregate, same]

theorem aggregateOption_of_flatten_eq (function : AggregateFunction) (option : Nat) :
    aggregateOption values function option = aggregateOption others function option := by
  simp only [aggregateOption, same]

end

/-- Aggregates see only the observations that values hold, in their order. Values can be regrouped
into others exactly if both hold the same observations in the same order, and then all their
aggregates are the same, of the values as they are and of how often they choose an option. What two
lists of values hold together is what the first holds and then what the second holds: what stands at
the end of every path to an observation, once, in the order of the paths. -/
theorem aggregate_ignores_nesting (values others : List Value) :
    (Value.Regrouped values others ↔ Value.flatten values = Value.flatten others) ∧
    (Value.Regrouped values others → ∀ function,
      (∀ kind, aggregate values function kind = aggregate others function kind) ∧
      ∀ option, aggregateOption values function option = aggregateOption others function option) ∧
    Value.flatten (values ++ others) = Value.flatten values ++ Value.flatten others ∧
    ∀ observations, (∃ paths, Value.Enumerates (.list (values ++ others)) paths observations) ↔
      observations = Value.flatten values ++ Value.flatten others := by
  refine ⟨Value.regrouped_iff, fun regrouped function => ?_, Value.flatten_append values others,
    fun observations => ?_⟩
  · have same := regrouped.flatten_eq
    exact ⟨aggregate_of_flatten_eq same function, aggregateOption_of_flatten_eq same function⟩
  · rw [← Value.flatten_append]
    exact Value.enumerates_iff

def byTeam : List Value :=
  [.list [.choice 2, .choice 1], .list [.flags [false, false, true], .list []]]

theorem aggregate_ignores_nesting_byTeam :
    let others := [.missing, .choice 2, .choice 1, .list [.flags [false, false, true]]]
    Value.Regrouped byTeam others ∧
      aggregate byTeam .total (.enumerated 3) = aggregate others .total (.enumerated 3) ∧
      aggregate others .total (.enumerated 3) = .counts [0, 1, 2] ∧
      aggregateOption byTeam .total 2 = aggregateOption others .total 2 ∧
      aggregateOption others .total 2 = .number 2.0 := by
  intro others
  have ungrouped : Value.Regrouped byTeam
      [.choice 2, .choice 1, .list [.flags [false, false, true], .list []]] :=
    (Value.Regrouped.group [] [.choice 2, .choice 1] _).symm
  have emptied : Value.Regrouped
      [.choice 2, .choice 1, .list [.flags [false, false, true], .list []]]
      [.choice 2, .choice 1, .list [.flags [false, false, true]]] :=
    (Value.Regrouped.inside [.choice 2, .choice 1] []
      (.group [.flags [false, false, true]] [] [])).symm
  have regrouped : Value.Regrouped byTeam others :=
    (ungrouped.trans emptied).trans (.missing [] _)
  obtain ⟨_, alike, _⟩ := aggregate_ignores_nesting byTeam others
  obtain ⟨wholes, options⟩ := alike regrouped .total
  exact ⟨regrouped, wholes (.enumerated 3), by decide +kernel, options 2, by decide +kernel⟩

end Scouting

import Scouting.Proofs.PicklistEdits

/-!
Where a team is put. It stands right behind the first occurrence of the team that it is to follow,
or in front. However often and wherever it stood before, it is in the list once, the other entries
keep their order, and no other list changes.
-/

namespace Scouting.Picklists

section
variable {team anchor : String} {teams : List String}

theorem placeAfter_first {before rest : List String} (first : anchor ∉ before) :
    placeAfter team anchor (before ++ anchor :: rest) = before ++ anchor :: team :: rest := by
  induction before with
  | nil => exact if_pos rfl
  | cons other before ih =>
      have different : other ≠ anchor := List.ne_of_not_mem_cons first |>.symm
      have later : anchor ∉ before := List.not_mem_of_not_mem_cons first
      rw [List.cons_append, placeAfter, if_neg different, ih later, List.cons_append]

theorem placeAfter_of_mem (team : String) (listed : anchor ∈ teams) :
    ∃ before rest, anchor ∉ before ∧ teams = before ++ anchor :: rest ∧
      placeAfter team anchor teams = before ++ anchor :: team :: rest := by
  obtain ⟨before, rest, rfl, first⟩ := List.eq_append_cons_of_mem listed
  exact ⟨before, rest, first, rfl, placeAfter_first first⟩

/-- Does a team stand in front, or right behind the first occurrence of another? -/
def StandsBehind (team : String) (teams : List String) : Option String → Prop
  | none => teams.head? = some team
  | some anchor => ∃ before rest, anchor ∉ before ∧ teams = before ++ anchor :: team :: rest

/-- Does a list come about by putting a team in its place, once, and leaving all others alone? -/
structure Places (team : String) (after : Option String) (teams placed : List String) : Prop where
  once : placed.count team = 1
  stands : StandsBehind team placed after
  others : placed.filter (· ≠ team) = teams.filter (· ≠ team)

theorem places_front : Places team none teams (team :: teams.filter (· ≠ team)) where
  once := by
    have gone : team ∉ teams.filter (· ≠ team) := by simp
    rw [List.count_cons_self, List.count_eq_zero.mpr gone]
  stands := rfl
  others := by simp

theorem places_behind (apart : anchor ≠ team) (listed : anchor ∈ teams) :
    Places team (some anchor) teams (placeAfter team anchor (teams.filter (· ≠ team))) := by
  have stays : anchor ∈ teams.filter (· ≠ team) := by simp [apart, listed]
  obtain ⟨before, rest, first, split, placed⟩ := placeAfter_of_mem team stays
  have gone : team ∉ before ++ anchor :: rest := by
    rw [← split]
    simp
  rw [placed]
  refine ⟨?_, ⟨before, rest, first, rfl⟩, ?_⟩
  · have count := List.count_eq_zero.mpr gone
    rw [List.count_append, List.count_cons_of_ne apart] at count ⊢
    rw [List.count_cons_self]
    omega
  · calc (before ++ anchor :: team :: rest).filter (· ≠ team)
      _ = (before ++ anchor :: rest).filter (· ≠ team) := by simp [apart]
      _ = teams.filter (· ≠ team) := by
        rw [← split, List.filter_filter]
        simp

end

variable {picklists : Picklists} {name team : String} {after : Option String}

/-- Is there a place for a team: a list, in which the team that it is to follow is listed? -/
def HasPlace (picklists : Picklists) (name : String) (after : Option String) : Prop :=
  ∃ teams, picklists.get? name = some teams ∧ ∀ anchor ∈ after, anchor ∈ teams

theorem places_of_hasPlace (apart : after ≠ some team) (place : picklists.HasPlace name after) :
    ∃ teams placed, picklists.get? name = some teams ∧ Places team after teams placed ∧
      picklists.perform (insertAfter name team after) =
        (.ok (), picklists.replace name placed) := by
  obtain ⟨teams, found, listed⟩ := place
  cases after with
  | none => exact ⟨teams, _, found, places_front, perform_insertAfter_front found⟩
  | some anchor =>
      have different : anchor ≠ team := fun same => apart (congrArg some same)
      have isListed : anchor ∈ teams := listed anchor rfl
      have outcome := perform_insertAfter_listed different found
      rw [if_pos isListed] at outcome
      exact ⟨teams, _, found, places_behind different isListed, outcome⟩

theorem hasPlace_of_placed (apart : after ≠ some team) {later : Picklists}
    (placed : picklists.perform (insertAfter name team after) = (.ok (), later)) :
    picklists.HasPlace name after := by
  cases found : picklists.get? name with
  | none =>
      rw [perform_insertAfter_missing apart found] at placed
      cases placed
  | some teams =>
      refine ⟨teams, found, ?_⟩
      rintro anchor rfl
      rw [perform_insertAfter_listed (fun same => apart (congrArg some same)) found] at placed
      split at placed
      · assumption
      · cases placed

/-- Putting a team into a list succeeds where there is a place for it, and where it is to follow
itself, which changes nothing. Otherwise the list then has the team once, in front or right behind
the first occurrence of the one that it is to follow; the remaining entries are those that were
there before, in their old order, and every other list is what it was. -/
theorem insertAfter_places (picklists : Picklists) (name team : String) (after : Option String) :
    ((∃ later, picklists.perform (insertAfter name team after) = (.ok (), later)) ↔
      after = some team ∨ picklists.HasPlace name after) ∧
    ∀ later, picklists.perform (insertAfter name team after) = (.ok (), later) →
      if after = some team then later = picklists
      else
        (∃ teams placed, picklists.get? name = some teams ∧ later.get? name = some placed ∧
          Places team after teams placed) ∧
        ∀ other, other ≠ name → later.get? other = picklists.get? other := by
  by_cases self : after = some team
  · obtain rfl := self
    have outcome := perform_insertAfter_self picklists name team
    refine ⟨⟨fun _ => Or.inl rfl, fun _ => ⟨picklists, outcome⟩⟩, fun later placed => ?_⟩
    rw [outcome] at placed
    cases placed
    rw [if_pos rfl]
  · refine ⟨⟨?_, ?_⟩, fun later outcome => ?_⟩
    · rintro ⟨later, outcome⟩
      exact Or.inr (hasPlace_of_placed self outcome)
    · intro may
      obtain ⟨teams, placed, _, _, outcome⟩ := places_of_hasPlace self (may.resolve_left self)
      exact ⟨_, outcome⟩
    · obtain ⟨teams, placed, found, places, again⟩ :=
        places_of_hasPlace self (hasPlace_of_placed self outcome)
      rw [again] at outcome
      cases outcome
      rw [if_neg self]
      refine ⟨⟨teams, placed, found, ?_, places⟩, fun other different => ?_⟩
      · rw [get?_replace, if_pos rfl]
      · rw [get?_replace, if_neg different]

def repetitive : Picklists :=
  (empty.replace "first" ["2", "1", "2", "3", "1"]).replace "second" ["2"]

theorem insertAfter_places_repetitive :
    ∃ later, repetitive.perform (insertAfter "first" "2" (some "1")) = (.ok (), later) ∧
      (∃ placed, later.get? "first" = some placed ∧ placed = ["1", "2", "3", "1"] ∧
        Places "2" (some "1") ["2", "1", "2", "3", "1"] placed) ∧
      later.get? "second" = some ["2"] := by
  obtain ⟨succeeds, places⟩ := insertAfter_places repetitive "first" "2" (some "1")
  obtain ⟨later, outcome⟩ :=
    succeeds.mpr (Or.inr ⟨["2", "1", "2", "3", "1"], by decide, by decide⟩)
  have placed := places later outcome
  rw [if_neg (by decide)] at placed
  obtain ⟨⟨teams, placed, found, listed, isPlaced⟩, others⟩ := placed
  obtain rfl : ["2", "1", "2", "3", "1"] = teams :=
    Option.some.inj ((show repetitive.get? "first" = _ by decide).symm.trans found)
  have same : later.get? "first" = some ["1", "2", "3", "1"] := by
    have after : later = (repetitive.perform (insertAfter "first" "2" (some "1"))).2 :=
      (congrArg Prod.snd outcome).symm
    rw [after]
    decide
  refine ⟨later, outcome, ⟨placed, listed, Option.some.inj (listed.symm.trans same), isPlaced⟩, ?_⟩
  exact (others "second" (by decide)).trans (by decide)

end Scouting.Picklists

import Scouting.Proofs.PicklistEdits

/-!
No team twice in a list. Whatever is done to picklists keeps it so, also where it fails halfway, and
with it every run of operations. A team that is taken out of a list is then gone from it, and a team
that is crossed out twice is picked exactly if it was before.
-/

namespace Scouting.Picklists

def Unrepeated (picklists : Picklists) : Prop := ∀ teams ∈ picklists.lists.values, teams.Nodup

theorem nodup_placeAfter {team anchor : String} {teams : List String} (nodup : teams.Nodup)
    (absent : team ∉ teams) : (placeAfter team anchor teams).Nodup := by
  have perm : (placeAfter team anchor teams).Perm teams ∨
      (placeAfter team anchor teams).Perm (team :: teams) := by
    clear nodup absent
    induction teams with
    | nil => exact Or.inl .nil
    | cons first rest ih =>
        rw [placeAfter]
        split
        · exact Or.inr (List.Perm.swap team first rest)
        · rcases ih with same | more
          · exact Or.inl (same.cons first)
          · exact Or.inr ((more.cons first).trans (List.Perm.swap team first rest))
  rcases perm with same | more
  · exact same.nodup_iff.mpr nodup
  · exact more.nodup_iff.mpr (List.nodup_cons.mpr ⟨absent, nodup⟩)

namespace Unrepeated

variable {picklists : Picklists} (unrepeated : picklists.Unrepeated)
include unrepeated

theorem nodup_of_get? {name : String} {teams : List String}
    (found : picklists.get? name = some teams) : teams.Nodup := by
  obtain ⟨before, after, entries, _⟩ := List.lookup_eq_some_iff.mp found
  exact unrepeated teams (List.mem_map.mpr ⟨(name, teams), by simp [entries], rfl⟩)

theorem nodup_picked : picklists.picked.Nodup := by
  cases found : picklists.get? pickedName with
  | none => simp [picked, found]
  | some teams => simpa [picked, found] using unrepeated.nodup_of_get? found

theorem replace (name : String) {teams : List String} (nodup : teams.Nodup) :
    (picklists.replace name teams).Unrepeated := by
  intro others member
  obtain ⟨entry, inserted, rfl⟩ := List.mem_map.mp member
  rcases Entries.mem_insert inserted with rfl | old
  · exact nodup
  · exact unrepeated entry.2 (List.mem_map_of_mem old)

theorem filter (keep : String × List String → Bool) :
    (⟨picklists.lists.filter keep⟩ : Picklists).Unrepeated := by
  intro teams member
  obtain ⟨entry, kept, rfl⟩ := List.mem_map.mp member
  exact unrepeated entry.2 (List.mem_map_of_mem (List.mem_filter.mp kept).1)

theorem crossOut (team : String) : (picklists.crossOut team).2.Unrepeated := by
  have nodup := unrepeated.nodup_picked
  rw [Picklists.crossOut]
  split
  · exact unrepeated.replace pickedName (nodup.erase team)
  · rename_i absent
    have last := List.perm_append_singleton team picklists.picked
    exact unrepeated.replace pickedName (last.nodup_iff.mpr (List.nodup_cons.mpr ⟨absent, nodup⟩))

theorem isPicked_crossOut (team other : String) :
    (picklists.crossOut team).2.isPicked other =
      if other = team then !picklists.isPicked team else picklists.isPicked other := by
  have own (teams : List String) : (picklists.replace pickedName teams).picked = teams := by
    simp [picked]
  have gone : team ∉ picklists.picked.erase team := unrepeated.nodup_picked.not_mem_erase
  rw [Picklists.crossOut]
  by_cases listed : team ∈ picklists.picked
  · rw [if_pos listed]
    by_cases same : other = team
    · simp [isPicked, own, same, gone, listed]
    · simp [isPicked, own, same, List.mem_erase_of_ne same]
  · rw [if_neg listed]
    by_cases same : other = team
    · simp [isPicked, own, same, listed]
    · simp [isPicked, own, same]

omit unrepeated in
theorem crossOut_fst (team : String) : (picklists.crossOut team).1 = !picklists.isPicked team := by
  rw [Picklists.crossOut]
  split
  · rename_i listed
    simp [isPicked, listed]
  · rename_i absent
    simp [isPicked, absent]

theorem isPicked_crossOut_twice (team other : String) :
    ((picklists.crossOut team).2.crossOut team).2.isPicked other = picklists.isPicked other := by
  rw [(unrepeated.crossOut team).isPicked_crossOut, unrepeated.isPicked_crossOut,
    unrepeated.isPicked_crossOut, if_pos rfl]
  split
  · rename_i same
    rw [same, Bool.not_not]
  · rfl

end Unrepeated

section
variable {α β : Type}

/-- Does an edit of lists without repeats leave none, and return only what has a property? -/
def KeepsUnrepeated (edit : Edit α) (property : α → Prop) : Prop :=
  ∀ picklists : Picklists, picklists.Unrepeated →
    (picklists.perform edit).2.Unrepeated ∧
      ∀ value, (picklists.perform edit).1 = .ok value → property value

namespace KeepsUnrepeated

theorem bind {edit : Edit α} {next : α → Edit β} {property : α → Prop} {result : β → Prop}
    (first : KeepsUnrepeated edit property)
    (later : ∀ value, property value → KeepsUnrepeated (next value) result) :
    KeepsUnrepeated (edit >>= next) result := by
  intro picklists unrepeated
  have ⟨between, returned⟩ := first picklists unrepeated
  rw [perform_bind]
  rcases outcome : picklists.perform edit with ⟨error | value, after⟩
  · rw [outcome] at between
    exact ⟨between, nofun⟩
  · rw [outcome] at between returned
    exact later value (returned value rfl) after between

theorem pure {value : α} {property : α → Prop} (holds : property value) :
    KeepsUnrepeated (Pure.pure value) property := by
  intro picklists unrepeated
  refine ⟨unrepeated, ?_⟩
  rintro _ ⟨⟩
  exact holds

theorem throw (error : PicklistError) (property : α → Prop) :
    KeepsUnrepeated (MonadExcept.throw error) property :=
  fun _ unrepeated => ⟨unrepeated, nofun⟩

theorem get : KeepsUnrepeated (MonadState.get : Edit Picklists) fun _ => True :=
  fun _ unrepeated => ⟨unrepeated, fun _ _ => trivial⟩

theorem replace (name : String) {teams : List String} (nodup : teams.Nodup) :
    KeepsUnrepeated (modify (·.replace name teams)) fun _ => True :=
  fun _ unrepeated => ⟨unrepeated.replace name nodup, fun _ _ => trivial⟩

theorem erase (name : String) : KeepsUnrepeated (modify (·.erase name)) fun _ => True :=
  fun _ unrepeated => ⟨unrepeated.filter _, fun _ _ => trivial⟩

theorem teamsOf (name : String) : KeepsUnrepeated (teamsOf name) List.Nodup := by
  intro picklists unrepeated
  rw [perform_teamsOf]
  cases found : picklists.get? name with
  | none => exact ⟨unrepeated, nofun⟩
  | some teams =>
      refine ⟨unrepeated, ?_⟩
      rintro _ ⟨⟩
      exact unrepeated.nodup_of_get? found

theorem create (name : String) : KeepsUnrepeated (create name) fun _ => True := by
  refine get.bind fun picklists _ => ?_
  split
  · exact throw _ _
  · exact replace name List.nodup_nil

theorem delete (name : String) : KeepsUnrepeated (delete name) List.Nodup :=
  (teamsOf name).bind fun _ nodup => (erase name).bind fun _ _ => pure nodup

theorem rename (old new : String) : KeepsUnrepeated (rename old new) fun _ => True := by
  refine get.bind fun picklists _ => ?_
  split
  · exact throw _ _
  · exact (delete old).bind fun teams nodup => replace new nodup

theorem insertAfter (name team : String) (after : Option String) :
    KeepsUnrepeated (insertAfter name team after) fun _ => True := by
  rw [Picklists.insertAfter]
  split
  · exact pure trivial
  · refine (teamsOf name).bind fun teams nodup => ?_
    have others : (teams.filter (· ≠ team)).Nodup := nodup.filter _
    have absent : team ∉ teams.filter (· ≠ team) := by simp
    refine (replace name others).bind fun _ _ => ?_
    cases after with
    | none => exact replace name (List.nodup_cons.mpr ⟨absent, others⟩)
    | some anchor =>
        dsimp only
        split
        · exact replace name (nodup_placeAfter others absent)
        · exact throw _ _

theorem removeTeam (name team : String) :
    KeepsUnrepeated (removeTeam name team) fun _ => True := by
  refine (teamsOf name).bind fun teams nodup => ?_
  split
  · exact replace name (nodup.erase team)
  · exact throw _ _

theorem operation (operation : Operation) : KeepsUnrepeated operation.edit fun _ => True := by
  cases operation with
  | create name => exact create name
  | rename old new => exact rename old new
  | delete name => exact (delete name).bind fun _ _ => pure trivial
  | insertAfter name team after => exact insertAfter name team after
  | removeTeam name team => exact removeTeam name team

end KeepsUnrepeated

end

theorem perform_removeTeam (picklists : Picklists) (name team : String) :
    picklists.perform (removeTeam name team) =
      match picklists.get? name with
      | none => (.error (.notFound name), picklists)
      | some teams =>
        if team ∈ teams then (.ok (), picklists.replace name (teams.erase team))
        else (.error (.notListed name team), picklists) := by
  rw [removeTeam, perform_bind, perform_teamsOf]
  cases picklists.get? name with
  | none => rfl
  | some teams =>
      dsimp only
      split
      · rfl
      · rfl

theorem Unrepeated.not_mem_of_removed {picklists later : Picklists}
    (unrepeated : picklists.Unrepeated) {name team : String}
    (removed : picklists.perform (removeTeam name team) = (.ok (), later)) :
    ∃ teams, later.get? name = some teams ∧ team ∉ teams := by
  rw [perform_removeTeam] at removed
  cases found : picklists.get? name with
  | none =>
      rw [found] at removed
      cases removed
  | some teams =>
      simp only [found] at removed
      split at removed
      · cases removed
        refine ⟨teams.erase team, by simp, ?_⟩
        exact (unrepeated.nodup_of_get? found).not_mem_erase
      · cases removed

/-- Anything that can be done to picklists. -/
inductive Step where
  | operation (operation : Operation)
  | replace (name : String) (teams : List String)
  | crossOut (team : String)
  | pruneEmpty

def step (picklists : Picklists) : Step → Picklists
  | .operation operation => (picklists.perform operation.edit).2
  | .replace name teams => picklists.replace name teams
  | .crossOut team => (picklists.crossOut team).2
  | .pruneEmpty => picklists.pruneEmpty.2

def run (picklists : Picklists) (steps : List Step) : Picklists := steps.foldl step picklists

theorem Unrepeated.step {picklists : Picklists} (unrepeated : picklists.Unrepeated) {step : Step}
    (given : ∀ name teams, step = .replace name teams → teams.Nodup) :
    (picklists.step step).Unrepeated := by
  cases step with
  | operation operation => exact (KeepsUnrepeated.operation operation picklists unrepeated).1
  | replace name teams => exact unrepeated.replace name (given name teams rfl)
  | crossOut team => exact unrepeated.crossOut team
  | pruneEmpty => exact unrepeated.filter _

theorem Unrepeated.run {picklists : Picklists} (unrepeated : picklists.Unrepeated)
    {steps : List Step}
    (given : ∀ name teams, Step.replace name teams ∈ steps → teams.Nodup) :
    (picklists.run steps).Unrepeated := by
  refine List.foldlRecOn (motive := Unrepeated) _ _ unrepeated fun _ soFar step member => ?_
  refine soFar.step ?_
  rintro name teams rfl
  exact given name teams member

/-- Lists that start without repeats, and are only ever replaced by such lists, never come to name a
team twice, whatever is done to them. At any time, a team that is taken out of a list is gone from
it, crossing a team out tells whether it is picked then, and doing so twice leaves the picked teams
as they were. -/
theorem unrepeated_throughout {picklists : Picklists} (unrepeated : picklists.Unrepeated)
    {steps : List Step}
    (given : ∀ name teams, Step.replace name teams ∈ steps → teams.Nodup) :
    let after := picklists.run steps
    (∀ name teams, after.get? name = some teams → teams.Nodup) ∧
    (∀ name team later, after.perform (removeTeam name team) = (.ok (), later) →
      ∃ teams, later.get? name = some teams ∧ team ∉ teams) ∧
    (∀ team, (after.crossOut team).1 = (after.crossOut team).2.isPicked team) ∧
    ∀ team other,
      ((after.crossOut team).2.crossOut team).2.isPicked other = after.isPicked other := by
  intro after
  have kept : after.Unrepeated := unrepeated.run given
  refine ⟨fun name teams => kept.nodup_of_get?, fun name team later => kept.not_mem_of_removed,
    fun team => ?_, kept.isPicked_crossOut_twice⟩
  rw [Unrepeated.crossOut_fst, kept.isPicked_crossOut, if_pos rfl]

theorem unrepeated_throughout_sample :
    let steps : List Step :=
      [.operation (.insertAfter "first" "3" (some "1")),
        .operation (.insertAfter "first" "2" (some "9")),
        .crossOut "3", .operation (.rename pickedName "gone"), .crossOut "1",
        .replace "second" ["5", "4"], .pruneEmpty]
    sample.Unrepeated ∧
    (∀ name teams, Step.replace name teams ∈ steps → teams.Nodup) ∧
    (sample.run steps).get? "first" = some ["1", "3"] ∧
    (∃ later, (sample.run steps).perform (removeTeam "first" "3") = (.ok (), later) ∧
      ∃ teams, later.get? "first" = some teams ∧ "3" ∉ teams) ∧
    ((sample.run steps).crossOut "1").1 = ((sample.run steps).crossOut "1").2.isPicked "1" := by
  intro steps
  have unrepeated : sample.Unrepeated := by
    have values : sample.lists.values = [["1", "2", "3"], []] := by decide
    rw [Unrepeated, values]
    decide
  have given : ∀ name teams, Step.replace name teams ∈ steps → teams.Nodup := by
    intro name teams member
    simp only [steps, List.mem_cons, reduceCtorEq, Step.replace.injEq, List.not_mem_nil, or_false,
      false_or] at member
    rw [member.2]
    decide
  obtain ⟨_, gone, tells, _⟩ := unrepeated_throughout unrepeated given
  exact ⟨unrepeated, given, by decide, ⟨_, rfl, gone "first" "3" _ rfl⟩, tells "1"⟩

end Scouting.Picklists

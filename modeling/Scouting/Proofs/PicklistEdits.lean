import Scouting.Picklists

/-!
Edits of picklists that fail. All but one look before they change anything, so that a failure leaves
the lists as they were. A team that is to stand behind another is taken out of its list first; if the
other team is not listed, it stays out.
-/

namespace Scouting.Picklists

theorem ext_get? {left right : Picklists} (same : ∀ name, left.get? name = right.get? name) :
    left = right :=
  congrArg Picklists.mk (Dictionary.ext_find? same)

theorem replace_of_get? {picklists : Picklists} {name : String} {teams : List String}
    (found : picklists.get? name = some teams) : picklists.replace name teams = picklists := by
  refine ext_get? fun other => ?_
  rw [get?_replace]
  split
  · rename_i same
    rw [same, found]
  · rfl

theorem replace_replace (picklists : Picklists) (name : String) (teams others : List String) :
    (picklists.replace name teams).replace name others = picklists.replace name others := by
  refine ext_get? fun other => ?_
  simp only [get?_replace]
  split
  · rfl
  · rfl

section
variable {α β : Type}

theorem perform_bind (edit : Edit α) (next : α → Edit β) (picklists : Picklists) :
    picklists.perform (edit >>= next) =
      match picklists.perform edit with
      | (.ok value, after) => after.perform (next value)
      | (.error error, after) => (.error error, after) := by
  change (ExceptT.bindCont next (picklists.perform edit).1).run (picklists.perform edit).2 = _
  rcases picklists.perform edit with ⟨error | value, after⟩
  · rfl
  · rfl

/-- Does an edit leave the lists as they were wherever it fails? -/
def AllOrNothing (edit : Edit α) : Prop :=
  ∀ (picklists : Picklists) error after, picklists.perform edit = (.error error, after) →
    after = picklists

def ReadsOnly (edit : Edit α) : Prop :=
  ∀ picklists : Picklists, (picklists.perform edit).2 = picklists

def NeverFails (edit : Edit α) : Prop := ∀ picklists : Picklists, ∃ value after,
  picklists.perform edit = (.ok value, after)

theorem ReadsOnly.allOrNothing {edit : Edit α} (reads : ReadsOnly edit) : AllOrNothing edit := by
  intro picklists error after failed
  have same := reads picklists
  rwa [failed] at same

theorem NeverFails.allOrNothing {edit : Edit α} (succeeds : NeverFails edit) :
    AllOrNothing edit := by
  intro picklists error after failed
  obtain ⟨value, changed, outcome⟩ := succeeds picklists
  rw [failed] at outcome
  cases outcome

theorem ReadsOnly.bind {edit : Edit α} {next : α → Edit β} (reads : ReadsOnly edit)
    (later : ∀ value, AllOrNothing (next value)) : AllOrNothing (edit >>= next) := by
  intro picklists error after failed
  have same := reads picklists
  rw [perform_bind] at failed
  rcases first : picklists.perform edit with ⟨early | value, between⟩
  · rw [first] at same failed
    cases failed
    exact same
  · rw [first] at same failed
    obtain rfl : between = picklists := same
    exact later value between error after failed

theorem AllOrNothing.bind {edit : Edit α} {next : α → Edit β} (whole : AllOrNothing edit)
    (later : ∀ value, NeverFails (next value)) : AllOrNothing (edit >>= next) := by
  intro picklists error after failed
  rw [perform_bind] at failed
  rcases first : picklists.perform edit with ⟨early | value, between⟩
  · rw [first] at failed
    cases failed
    exact whole picklists error after first
  · rw [first] at failed
    obtain ⟨result, changed, outcome⟩ := later value between
    simp only [failed] at outcome
    cases outcome

theorem readsOnly_get : ReadsOnly get := fun _ => rfl

theorem readsOnly_throw (error : PicklistError) : ReadsOnly (throw error : Edit α) := fun _ => rfl

theorem neverFails_modify (change : Picklists → Picklists) :
    NeverFails (modify change : Edit Unit) :=
  fun picklists => ⟨(), change picklists, rfl⟩

end

theorem perform_teamsOf (picklists : Picklists) (name : String) :
    picklists.perform (teamsOf name) =
      match picklists.get? name with
      | some teams => (.ok teams, picklists)
      | none => (.error (.notFound name), picklists) := by
  rw [teamsOf, perform_bind]
  change picklists.perform (match picklists.get? name with
    | some teams => pure teams
    | none => throw (.notFound name)) = _
  cases picklists.get? name with
  | none => rfl
  | some teams => rfl

theorem readsOnly_teamsOf (name : String) : ReadsOnly (teamsOf name) := by
  intro picklists
  rw [perform_teamsOf]
  split
  · rfl
  · rfl

theorem allOrNothing_create (name : String) : AllOrNothing (create name) := by
  refine readsOnly_get.bind fun picklists => ?_
  split
  · exact (readsOnly_throw _).allOrNothing
  · exact (neverFails_modify _).allOrNothing

theorem allOrNothing_delete (name : String) : AllOrNothing (delete name) :=
  (readsOnly_teamsOf name).bind fun teams =>
    (neverFails_modify _).allOrNothing.bind fun _ picklists => ⟨teams, picklists, rfl⟩

theorem allOrNothing_rename (old new : String) : AllOrNothing (rename old new) := by
  refine readsOnly_get.bind fun picklists => ?_
  split
  · exact (readsOnly_throw _).allOrNothing
  · exact (allOrNothing_delete old).bind fun teams => neverFails_modify _

theorem allOrNothing_removeTeam (name team : String) : AllOrNothing (removeTeam name team) := by
  refine (readsOnly_teamsOf name).bind fun teams => ?_
  split
  · exact (neverFails_modify _).allOrNothing
  · exact (readsOnly_throw _).allOrNothing

theorem perform_insertAfter_self (picklists : Picklists) (name team : String) :
    picklists.perform (insertAfter name team (some team)) = (.ok (), picklists) := by
  rw [insertAfter, if_pos rfl]
  rfl

theorem perform_insertAfter_missing {picklists : Picklists} {name team : String}
    {after : Option String} (apart : after ≠ some team)
    (missing : picklists.get? name = none) :
    picklists.perform (insertAfter name team after) = (.error (.notFound name), picklists) := by
  rw [insertAfter, if_neg apart, perform_bind, perform_teamsOf, missing]

theorem perform_insertAfter_front {picklists : Picklists} {name team : String}
    {teams : List String} (found : picklists.get? name = some teams) :
    picklists.perform (insertAfter name team none) =
      (.ok (), picklists.replace name (team :: teams.filter (· ≠ team))) := by
  rw [insertAfter, if_neg nofun, perform_bind, perform_teamsOf, found]
  exact congrArg (Prod.mk _) (replace_replace _ _ _ _)

theorem perform_insertAfter_listed {picklists : Picklists} {name team anchor : String}
    {teams : List String} (apart : anchor ≠ team) (found : picklists.get? name = some teams) :
    picklists.perform (insertAfter name team (some anchor)) =
      if anchor ∈ teams then
        (.ok (), picklists.replace name (placeAfter team anchor (teams.filter (· ≠ team))))
      else
        (.error (.notListed name anchor), picklists.replace name (teams.filter (· ≠ team))) := by
  have stays : anchor ∈ teams.filter (· ≠ team) ↔ anchor ∈ teams := by simp [apart]
  rw [insertAfter, if_neg (by simpa using apart), perform_bind, perform_teamsOf, found]
  by_cases listed : anchor ∈ teams
  · simp only [if_pos (stays.mpr listed), if_pos listed]
    exact congrArg (Prod.mk _) (replace_replace _ _ _ _)
  · simp only [if_neg (mt stays.mp listed), if_neg listed]
    rfl

/-- What can be done to picklists and may fail. -/
inductive Operation where
  | create (name : String)
  | rename (old new : String)
  | delete (name : String)
  | insertAfter (name team : String) (after : Option String)
  | removeTeam (name team : String)

namespace Operation

/-- An operation as an edit, less what it returns. -/
def edit : Operation → Edit Unit
  | create name => Picklists.create name
  | rename old new => Picklists.rename old new
  | delete name => discard (Picklists.delete name)
  | insertAfter name team after => Picklists.insertAfter name team after
  | removeTeam name team => Picklists.removeTeam name team

/-- Is a listed team to stand behind one that is not listed? -/
def Strands (picklists : Picklists) : Operation → Prop
  | insertAfter name team (some anchor) =>
    ∃ teams, picklists.get? name = some teams ∧ team ∈ teams ∧ anchor ∉ teams
  | _ => False

end Operation

theorem unchanged_insertAfter {name team : String} {after : Option String}
    {picklists changed : Picklists} {error : PicklistError}
    (failed : picklists.perform (insertAfter name team after) = (.error error, changed))
    (settled : ¬(Operation.insertAfter name team after).Strands picklists) :
    changed = picklists := by
  by_cases self : after = some team
  · rw [self, perform_insertAfter_self] at failed
    cases failed
  · cases found : picklists.get? name with
    | none =>
        rw [perform_insertAfter_missing self found] at failed
        cases failed
        rfl
    | some teams =>
        cases after with
        | none =>
            rw [perform_insertAfter_front found] at failed
            cases failed
        | some anchor =>
            have different : anchor ≠ team := fun same => self (congrArg some same)
            rw [perform_insertAfter_listed different found] at failed
            split at failed
            · cases failed
            · rename_i unlisted
              obtain rfl := (Prod.mk.inj failed).2
              have absent : team ∉ teams := fun listed => settled ⟨teams, found, listed, unlisted⟩
              have whole : teams.filter (· ≠ team) = teams := by
                refine List.filter_eq_self.mpr fun other member => ?_
                simpa using ne_of_mem_of_not_mem member absent
              rw [whole]
              exact replace_of_get? found

/-- An operation that fails leaves all lists as they were. The one exception is a listed team that is
to stand behind one that is not listed: it is lost from its list, and nothing else is. -/
theorem failed_operation (operation : Operation) (picklists : Picklists) :
    (∀ error after, picklists.perform operation.edit = (.error error, after) →
      ¬operation.Strands picklists → after = picklists) ∧
    ∀ name team anchor, operation = .insertAfter name team (some anchor) →
      operation.Strands picklists →
        ∃ after, picklists.perform operation.edit = (.error (.notListed name anchor), after) ∧
          after ≠ picklists ∧
          (∀ teams, picklists.get? name = some teams →
            after.get? name = some (teams.filter (· ≠ team))) ∧
          ∀ other, other ≠ name → after.get? other = picklists.get? other := by
  constructor
  · intro error after failed settled
    cases operation with
    | create name => exact allOrNothing_create name picklists error after failed
    | rename old new => exact allOrNothing_rename old new picklists error after failed
    | delete name =>
        refine AllOrNothing.bind (allOrNothing_delete name) (fun _ lists => ?_) picklists error
          after failed
        exact ⟨(), lists, rfl⟩
    | insertAfter name team anchor => exact unchanged_insertAfter failed settled
    | removeTeam name team => exact allOrNothing_removeTeam name team picklists error after failed
  · rintro name team anchor rfl ⟨teams, found, listed, unlisted⟩
    have apart : anchor ≠ team := fun same => unlisted (same ▸ listed)
    have outcome := perform_insertAfter_listed apart found
    rw [if_neg unlisted] at outcome
    refine ⟨_, outcome, fun same => ?_, fun others again => ?_, fun other different => ?_⟩
    · have kept := get?_replace picklists name name (teams.filter (· ≠ team))
      rw [same, if_pos rfl, found] at kept
      have member : team ∈ teams.filter (· ≠ team) := Option.some.inj kept ▸ listed
      simp at member
    · obtain rfl := Option.some.inj (found.symm.trans again)
      rw [get?_replace, if_pos rfl]
    · rw [get?_replace, if_neg different]

def sample : Picklists := (empty.replace "first" ["1", "2", "3"]).replace "second" []

theorem failed_operation_sample :
    (∃ after, sample.perform (rename "first" "second") =
      (.error (.alreadyExists "second"), after) ∧ after = sample) ∧
    (∃ after, sample.perform (insertAfter "first" "4" (some "9")) =
      (.error (.notListed "first" "9"), after) ∧ after = sample) ∧
    ∃ after, sample.perform (insertAfter "first" "2" (some "9")) =
      (.error (.notListed "first" "9"), after) ∧ after ≠ sample ∧
      after.get? "first" = some ["1", "3"] ∧ after.get? "second" = some [] := by
  have strands : (Operation.insertAfter "first" "2" (some "9")).Strands sample :=
    ⟨["1", "2", "3"], by decide, by decide, by decide⟩
  have settled : ¬(Operation.insertAfter "first" "4" (some "9")).Strands sample := by
    rintro ⟨teams, found, listed, -⟩
    obtain rfl : ["1", "2", "3"] = teams :=
      Option.some.inj ((show sample.get? "first" = some ["1", "2", "3"] by decide).symm.trans found)
    revert listed
    decide
  obtain ⟨after, outcome, changed, others, rest⟩ :=
    (failed_operation (.insertAfter "first" "2" (some "9")) sample).2 "first" "2" "9" rfl strands
  refine ⟨⟨_, rfl, ?_⟩, ⟨_, rfl, ?_⟩, after, outcome, changed, ?_, ?_⟩
  · exact (failed_operation (.rename "first" "second") sample).1 _ _ rfl id
  · exact (failed_operation (.insertAfter "first" "4" (some "9")) sample).1 _ _ rfl settled
  · exact others ["1", "2", "3"] (by decide)
  · exact (rest "second" (by decide)).trans (by decide)

/-- A failed move takes a team out of its list. -/
theorem team_lost :
    (sample.perform (insertAfter "first" "2" (some "9"))).1 = .error (.notListed "first" "9") ∧
    sample.get? "first" = some ["1", "2", "3"] ∧
    (sample.perform (insertAfter "first" "2" (some "9"))).2.get? "first" = some ["1", "3"] :=
  ⟨rfl, by decide, by decide⟩

end Scouting.Picklists

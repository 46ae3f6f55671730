import Scouting.Proofs.OrderOfArrival

/-!
Changes to a loaded event. Whatever is done to it, its answers are those of an event loaded from the
records that were there when the last snapshot was taken. Records keep their ids and all but their
flags, and doubt about a record shows in no answer.
-/

namespace Scouting

namespace Record

def withIgnored (ignored : Bool) (record : Record) : Record := { record with ignored }

def withUnsure (unsure : Bool) (reason : String) (record : Record) : Record :=
  { record with unsure, unsureReason := if unsure then reason else "" }

def unflagged (record : Record) : Record :=
  { record with ignored := false, unsure := false, unsureReason := "" }

def undoubted (record : Record) : Record := { record with unsure := false, unsureReason := "" }

theorem observed_undoubted (record : Option Record) :
    (record.map undoubted).map observed = record.map observed := by
  cases record with
  | none => rfl
  | some record => rfl

end Record

/-- What can be done to an event once it is loaded. -/
inductive Change where
  | insert (record : Record)
  | setIgnored (id : Nat) (ignored : Bool)
  | setUnsure (id : Nat) (unsure : Bool) (reason : String)
  | rebuild

namespace Change

def isRebuild : Change → Bool
  | rebuild => true
  | _ => false

def isDoubt : Change → Bool
  | setUnsure .. => true
  | _ => false

def inserted? : Change → Option Record
  | insert record => some record
  | _ => none

/-- What a change makes of the records; an id that no record has leaves them as they are. -/
def onRecords : Change → List Record → List Record
  | insert record, records => records ++ [record]
  | setIgnored id ignored, records => records.modify id (Record.withIgnored ignored)
  | setUnsure id unsure reason, records => records.modify id (Record.withUnsure unsure reason)
  | rebuild, records => records

/-- The changes up to the last new snapshot. -/
def throughRebuild (changes : List Change) : List Change :=
  changes.rdropWhile fun change => !change.isRebuild

theorem throughRebuild_append (changes : List Change) (change : Change) :
    throughRebuild (changes ++ [change]) =
      if change.isRebuild then changes ++ [change] else throughRebuild changes := by
  cases rebuilds : change.isRebuild with
  | true => simp [throughRebuild, rebuilds]
  | false => simp [throughRebuild, rebuilds]

theorem throughRebuild_filter {test : Change → Bool} (kept : test rebuild)
    (changes : List Change) :
    throughRebuild (changes.filter test) = (throughRebuild changes).filter test := by
  induction changes using List.reverseRecOn with
  | nil => rfl
  | append_singleton changes change ih =>
      rw [throughRebuild_append, List.filter_append]
      cases tested : test change with
      | true =>
          rw [List.filter_cons_of_pos tested, List.filter_nil, throughRebuild_append, ih]
          split
          · rw [List.filter_append, List.filter_cons_of_pos tested, List.filter_nil]
          · rfl
      | false =>
          have pending : change.isRebuild = false := by
            cases change with
            | rebuild =>
                rw [kept] at tested
                cases tested
            | _ => rfl
          rw [List.filter_cons_of_neg (by simp [tested]), List.filter_nil, List.append_nil, ih,
            pending]
          rfl

end Change

theorem map_modify {α β : Type} (view : α → β) {change : α → α} (shown : β → β)
    (same : ∀ item, view (change item) = shown (view item)) (items : List α) (place : Nat) :
    (items.modify place change).map view = (items.map view).modify place shown := by
  refine List.ext_getElem? fun other => ?_
  simp only [List.getElem?_map, List.getElem?_modify]
  cases items[other]? with
  | none => rfl
  | some item =>
      refine congrArg some ?_
      split
      · exact same item
      · rfl

theorem map_modify_eq_map {α β : Type} (view : α → β) {change : α → α}
    (same : ∀ item, view (change item) = view item) (items : List α) (place : Nat) :
    (items.modify place change).map view = items.map view := by
  rw [map_modify view id same, List.modify_id]

namespace Change

theorem unflagged_onRecords (change : Change) (records : List Record) :
    (change.onRecords records).map Record.unflagged =
      (records ++ change.inserted?.toList).map Record.unflagged := by
  cases change with
  | insert record => rfl
  | setIgnored id ignored =>
      have kept : ∀ record, (Record.withIgnored ignored record).unflagged = record.unflagged :=
        fun _ => rfl
      rw [onRecords, map_modify_eq_map Record.unflagged kept]
      simp [inserted?]
  | setUnsure id unsure reason =>
      have kept : ∀ record, (Record.withUnsure unsure reason record).unflagged =
          record.unflagged := fun _ => rfl
      rw [onRecords, map_modify_eq_map Record.unflagged kept]
      simp [inserted?]
  | rebuild => simp [onRecords, inserted?]

theorem undoubted_of_isDoubt {change : Change} (doubt : change.isDoubt) (records : List Record) :
    (change.onRecords records).map Record.undoubted = records.map Record.undoubted := by
  cases change with
  | setUnsure id unsure reason =>
      have kept : ∀ record, (Record.withUnsure unsure reason record).undoubted =
          record.undoubted := fun _ => rfl
      rw [onRecords, map_modify_eq_map Record.undoubted kept]
  | _ => cases doubt

theorem undoubted_onRecords (change : Change) {records others : List Record}
    (same : records.map Record.undoubted = others.map Record.undoubted) :
    (change.onRecords records).map Record.undoubted =
      (change.onRecords others).map Record.undoubted := by
  cases change with
  | insert record => simp only [onRecords, List.map_append, same]
  | setIgnored id ignored =>
      have shown : ∀ record, (Record.withIgnored ignored record).undoubted =
          Record.withIgnored ignored record.undoubted := fun _ => rfl
      rw [onRecords, onRecords, map_modify Record.undoubted _ shown,
        map_modify Record.undoubted _ shown, same]
  | setUnsure id unsure reason =>
      rw [undoubted_of_isDoubt rfl, undoubted_of_isDoubt rfl, same]
  | rebuild => exact same

end Change

namespace Snapshot

theorem map_counting (previous : Option Record) (records : List Record) :
    (counting previous records).map Record.undoubted =
      counting (previous.map Record.undoubted) (records.map Record.undoubted) := by
  induction records generalizing previous with
  | nil => rfl
  | cons arrival rest ih =>
      have first : (latest previous arrival).undoubted =
          latest (previous.map Record.undoubted) arrival.undoubted := by
        cases previous with
        | none => rfl
        | some record => exact apply_ite Record.undoubted _ _ _
      rw [counting, List.foldl_cons]
      refine (ih (some (latest previous arrival))).trans ?_
      rw [Option.map_some, first]
      rfl

section
variable {records others : List Record}
  (same : records.map Record.undoubted = others.map Record.undoubted)
include same

theorem counting_undoubted {test : Record → Bool}
    (blind : ∀ record : Record, test record.undoubted = test record) :
    (counting none (records.filter test)).map Record.observed =
      (counting none (others.filter test)).map Record.observed := by
  have kept (records : List Record) : (records.filter test).map Record.undoubted =
      (records.map Record.undoubted).filter test := by
    rw [List.filter_map]
    exact congrArg _ (List.filter_congr fun record _ => (blind record).symm)
  rw [← Record.observed_undoubted, ← Record.observed_undoubted (counting none (others.filter test)),
    map_counting, map_counting, kept, kept, same]

theorem looksAlike_undoubted (infos : List TeamInfo) (team : Nat) :
    (ofStore ⟨records⟩ infos).LooksAlike (ofStore ⟨others⟩ infos) team where
  info := by rw [info?, info?, infos_ofStore, infos_ofStore]
  pit := by
    rw [pitRecord?_ofStore, pitRecord?_ofStore]
    exact counting_undoubted same fun _ => rfl
  played := by
    intro matchKey
    rw [playedRecord?_ofStore, playedRecord?_ofStore]
    exact counting_undoubted same fun _ => rfl

theorem teams_undoubted (infos : List TeamInfo) :
    (ofStore ⟨records⟩ infos).teams = (ofStore ⟨others⟩ infos).teams := by
  have named (records : List Record) (team : Nat) :
      (∃ record ∈ records, record.ignored = false ∧ record.names team) ↔
        ∃ record ∈ records.map Record.undoubted, record.ignored = false ∧ record.names team := by
    simp only [List.mem_map, exists_exists_and_eq_and]
    rfl
  refine eq_of_increasing (fun _ _ => Nat.lt_asymm) (teams_increasing _) (teams_increasing _) ?_
  intro team
  rw [mem_teams_ofStore, mem_teams_ofStore, named records, named others, same]

end

end Snapshot

namespace Event

def change (event : Event) : Change → Event
  | .insert record => (event.insert record).2
  | .setIgnored id ignored => (event.setIgnored id ignored).toOption.getD event
  | .setUnsure id unsure reason => (event.setUnsure id unsure reason).toOption.getD event
  | .rebuild => event.rebuild

def run (event : Event) (changes : List Change) : Event := changes.foldl change event

theorem run_append (event : Event) (changes : List Change) (last : Change) :
    event.run (changes ++ [last]) = (event.run changes).change last := by
  rw [run, List.foldl_append]
  rfl

theorem setIgnored_eq (event : Event) (id : Nat) (ignored : Bool) :
    event.setIgnored id ignored =
      if id < event.store.size then
        .ok { event with store := ⟨(Change.setIgnored id ignored).onRecords event.store.records⟩ }
      else .error (.unknownRecord id) := by
  simp only [setIgnored, Store.setIgnored, Store.modify]
  split
  · rfl
  · rfl

theorem setUnsure_eq (event : Event) (id : Nat) (unsure : Bool) (reason : String) :
    event.setUnsure id unsure reason =
      if id < event.store.size then
        .ok { event with
          store := ⟨(Change.setUnsure id unsure reason).onRecords event.store.records⟩ }
      else .error (.unknownRecord id) := by
  simp only [setUnsure, Store.setUnsure, Store.modify]
  split
  · rfl
  · rfl

theorem change_eq (event : Event) (change : Change) :
    event.change change =
      { event with
        store := ⟨change.onRecords event.store.records⟩
        snapshot := if change.isRebuild then Snapshot.ofStore event.store event.config.teams
          else event.snapshot } := by
  cases change with
  | insert record => rfl
  | rebuild => rfl
  | setIgnored id ignored =>
      rw [Event.change, setIgnored_eq]
      split
      · rfl
      · rename_i unknown
        rw [Change.onRecords, List.modify_eq_self (Nat.le_of_not_lt unknown)]
        rfl
  | setUnsure id unsure reason =>
      rw [Event.change, setUnsure_eq]
      split
      · rfl
      · rename_i unknown
        rw [Change.onRecords, List.modify_eq_self (Nat.le_of_not_lt unknown)]
        rfl

theorem records_change (event : Event) (change : Change) :
    (event.change change).store.records = change.onRecords event.store.records := by
  rw [change_eq]

/-- What changes do to an event: a record is numbered by how many there were before it, each change
does to the records what it says, and one of an unknown record is refused and does nothing. -/
structure TakesChanges (event : Event) : Prop where
  number : ∀ record, (event.insert record).1 = event.store.size
  records : ∀ change, (event.change change).store.records = change.onRecords event.store.records
  setIgnored : ∀ id ignored, event.setIgnored id ignored =
    if id < event.store.size then .ok (event.change (.setIgnored id ignored))
    else .error (.unknownRecord id)
  setUnsure : ∀ id unsure reason, event.setUnsure id unsure reason =
    if id < event.store.size then .ok (event.change (.setUnsure id unsure reason))
    else .error (.unknownRecord id)
  ignoredUnknown : ∀ id ignored, event.store.size ≤ id →
    event.change (.setIgnored id ignored) = event
  unsureUnknown : ∀ id unsure reason, event.store.size ≤ id →
    event.change (.setUnsure id unsure reason) = event

theorem takesChanges (event : Event) : event.TakesChanges where
  number _ := rfl
  records := records_change event
  setIgnored id ignored := by
    rw [change_eq, setIgnored_eq]
    rfl
  setUnsure id unsure reason := by
    rw [change_eq, setUnsure_eq]
    rfl
  ignoredUnknown id ignored unknown := by
    rw [Event.change, setIgnored_eq, if_neg (Nat.not_lt.mpr unknown)]
    rfl
  unsureUnknown id unsure reason unknown := by
    rw [Event.change, setUnsure_eq, if_neg (Nat.not_lt.mpr unknown)]
    rfl

section
variable (start : Event)

theorem unflagged_run (changes : List Change) :
    (start.run changes).store.records.map Record.unflagged =
      (start.store.records ++ changes.filterMap Change.inserted?).map Record.unflagged := by
  induction changes using List.reverseRecOn with
  | nil => simp [run]
  | append_singleton changes last ih =>
      rw [run_append, records_change, Change.unflagged_onRecords, List.map_append, ih,
        List.filterMap_append, ← List.map_append, List.append_assoc]
      cases last with
      | insert record => rfl
      | _ => rfl

theorem undoubted_run (changes : List Change) :
    (start.run changes).store.records.map Record.undoubted =
      (start.run (changes.filter fun change => !change.isDoubt)).store.records.map
        Record.undoubted := by
  induction changes using List.reverseRecOn with
  | nil => rfl
  | append_singleton changes last ih =>
      rw [run_append, records_change, List.filter_append]
      cases doubt : last.isDoubt with
      | true =>
          rw [Change.undoubted_of_isDoubt doubt, ih, List.filter_cons_of_neg (by simp [doubt]),
            List.filter_nil, List.append_nil]
      | false =>
          rw [List.filter_cons_of_pos (by simp [doubt]), List.filter_nil, run_append,
            records_change, Change.undoubted_onRecords last ih]

end

section
variable (records : List Record) (config : Configuration) (official : OfficialResults)
  (settings : Settings)

/-- The event that is loaded from the records there at the last new snapshot of a run. -/
def reloaded (changes : List Change) : Event :=
  ofInputs ((ofInputs records config official settings).run
    (Change.throughRebuild changes)).store.records config official settings

theorem run_eq (changes : List Change) :
    (ofInputs records config official settings).run changes =
      { reloaded records config official settings changes with
        store := ((ofInputs records config official settings).run changes).store } := by
  induction changes using List.reverseRecOn with
  | nil => rfl
  | append_singleton changes last ih =>
      rw [run_append, change_eq, reloaded, Change.throughRebuild_append]
      cases rebuilds : last.isRebuild with
      | true =>
          cases last with
          | rebuild =>
              rw [if_pos rfl, if_pos rfl, run_append, change_eq, ih]
              rfl
          | _ => cases rebuilds
      | false =>
          rw [if_neg (by simp), if_neg (by simp), ih]
          rfl

end

theorem answersAlike_of_store (event : Event) (store : Store) :
    AnswersAlike { event with store } event :=
  ⟨rfl, fun _ _ _ => rfl, fun _ _ _ => rfl, fun _ _ _ => rfl, fun _ _ _ => rfl⟩

section
variable (records : List Record) (config : Configuration) (official : OfficialResults)
  (settings : Settings) (changes : List Change)

theorem answersAlike_reloaded :
    AnswersAlike ((ofInputs records config official settings).run changes)
      (reloaded records config official settings changes) := by
  rw [run_eq]
  exact answersAlike_of_store _ _

theorem reloaded_undoubted :
    AnswersAlike (reloaded records config official settings changes)
      (reloaded records config official settings
        (changes.filter fun change => !change.isDoubt)) := by
  have same := undoubted_run (ofInputs records config official settings)
    (Change.throughRebuild changes)
  rw [reloaded, reloaded, Change.throughRebuild_filter rfl]
  exact answersAlike_of_snapshots (Snapshot.teams_undoubted same config.teams)
    (Snapshot.looksAlike_undoubted same config.teams)

/-- A changed event and its records. It answers as if it were loaded from the records that were
there when the last snapshot was taken, and as if no doubt about a record had been noted. Its
records are those loaded and then those inserted, in this order, with nothing but their flags
changed, and it goes on taking changes as any event does. -/
theorem answers_of_reloaded :
    AnswersAlike ((ofInputs records config official settings).run changes)
      (reloaded records config official settings changes) ∧
    ((ofInputs records config official settings).run changes).snapshot =
      (reloaded records config official settings changes).snapshot ∧
    AnswersAlike ((ofInputs records config official settings).run changes)
      ((ofInputs records config official settings).run
        (changes.filter fun change => !change.isDoubt)) ∧
    ((ofInputs records config official settings).run changes).store.records.map Record.unflagged =
      (records ++ changes.filterMap Change.inserted?).map Record.unflagged ∧
    ((ofInputs records config official settings).run changes).TakesChanges := by
  have reload := answersAlike_reloaded records config official settings
  refine ⟨reload changes, ?_, ?_, unflagged_run _ changes, takesChanges _⟩
  · have same := congrArg Event.snapshot (run_eq records config official settings changes)
    exact same
  · have undoubted := reloaded_undoubted records config official settings changes
    exact ((reload changes).trans undoubted).trans (reload _).symm

end

end Event

end Scouting

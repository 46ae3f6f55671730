import Scouting.Proofs.PooledRepetitions

/-!
Reading the repetitions of a cycle one at a time. What is read at an index is what stands there when
all repetitions are read at once, in a match and, match by match in play order, for a team. Reading
one index after another goes through a whole column: no repetition is left out, moved or merged.
-/

namespace Scouting

/-- The repetitions that are recorded for a column, where an empty array has none. Anything else
does not have the shape of a column. -/
def Recorded.column? : Recorded → Option (List CycleEntry)
  | cycles entries => some entries
  | flags [] => some []
  | _ => none

namespace KeyInfo

variable {info : KeyInfo}

theorem observeEntries_some (entries : List CycleEntry) (index : Nat) :
    info.observeEntries entries (some index) =
      (entries.map info.observeEntry)[index]?.getD .missing := by
  rw [observeEntries, List.getElem?_map]
  cases entries[index]? with
  | none => rfl
  | some entry => rfl

theorem atIndex_some (entries : List CycleEntry) (index : Nat) :
    atIndex (.cycles entries) (some index) =
      (entries[index]?.map fun entry => Value.cycles [entry]).getD .missing := by
  rw [atIndex]
  cases entries[index]? with
  | none => rfl
  | some entry => rfl

theorem observe_of_cycle (kind : info.kind = .cycle) (recorded : Recorded) :
    info.observe recorded = (recorded.column?.map Value.cycles).getD .missing := by
  simp only [observe, kind]
  cases recorded with
  | cycles entries => rfl
  | flags values => cases values <;> rfl
  | _ => rfl

end KeyInfo

namespace Snapshot

variable {snapshot : Snapshot} {info : KeyInfo} {subject : Subject} {matchKey : String}

def recorded? (snapshot : Snapshot) (subject : Subject) (id : String) : Option Recorded :=
  (snapshot.subjectRecord? subject).bind (·.fields.find? id)

section
variable (played : info.mode = .played) (inMatch : subject.matchKey = some matchKey)
  (index : Option Nat)
include played inMatch

theorem readResult_inMatch : snapshot.readResult info subject index =
    info.observeRecord? (snapshot.subjectRecord? subject) index := by
  simp only [readResult, played, subjectRecord?, inMatch, Option.bind_some]

theorem readResult_inside {column : String} (inside : info.cycle = some column) :
    snapshot.readResult info subject index =
      ((snapshot.recorded? subject column).map fun recorded =>
        info.observeEntries recorded.entries index).getD .missing := by
  rw [readResult_inMatch played inMatch, recorded?]
  cases snapshot.subjectRecord? subject with
  | none => rfl
  | some record =>
      simp only [KeyInfo.observeRecord?, KeyInfo.observeRecord, inside, Option.bind_some]
      cases record.fields.find? column with
      | none => rfl
      | some recorded => rfl

theorem readResult_column (kind : info.kind = .cycle) (outside : info.cycle = none) :
    snapshot.readResult info subject index =
      (((snapshot.recorded? subject info.key.id).bind Recorded.column?).map fun entries =>
        KeyInfo.atIndex (.cycles entries) index).getD .missing := by
  rw [readResult_inMatch played inMatch, recorded?]
  cases snapshot.subjectRecord? subject with
  | none => rfl
  | some record =>
      simp only [KeyInfo.observeRecord?, KeyInfo.observeRecord, outside, Option.bind_some]
      cases record.fields.find? info.key.id with
      | none => rfl
      | some recorded =>
          simp only [Option.bind_some, KeyInfo.observe_of_cycle kind]
          cases recorded.column? with
          | none => cases index <;> rfl
          | some entries => rfl

end

end Snapshot

/-- Does reading at one index after another, from some index on, give these values and then nothing?
-/
inductive ReadsInTurn (read : Nat → Except StatError Value) : Nat → List Value → Prop where
  | done {index : Nat} : read index = .ok .missing → ReadsInTurn read index []
  | next {index : Nat} {value : Value} {rest : List Value} : read index = .ok value →
      value.isMissing = false → ReadsInTurn read (index + 1) rest →
        ReadsInTurn read index (value :: rest)

theorem readsInTurn_of_getElem? {read : Nat → Except StatError Value} {entries : List CycleEntry}
    (each : ∀ index, read index =
      .ok ((entries[index]?.map fun entry => Value.cycles [entry]).getD .missing)) :
    ReadsInTurn read 0 (entries.map fun entry => .cycles [entry]) := by
  suffices fromHere : ∀ front back, entries = front ++ back →
      ReadsInTurn read front.length (back.map fun entry => .cycles [entry]) from
    fromHere [] entries rfl
  intro front back split
  induction back generalizing front with
  | nil =>
      refine .done ((each front.length).trans ?_)
      rw [split, List.append_nil, List.getElem?_length]
      rfl
  | cons entry back ih =>
      have here : entries[front.length]? = some entry := by
        rw [split, List.getElem?_append_right (Nat.le_refl _), Nat.sub_self]
        rfl
      have later := ih (front ++ [entry]) (by rw [split, List.append_assoc]; rfl)
      rw [List.length_append] at later
      have value : read front.length = .ok (.cycles [entry]) := by
        rw [each, here]
        rfl
      exact .next value rfl later

theorem Plan.repetitionsOf_single (entries : List CycleEntry) :
    repetitionsOf (entries.map fun entry => .cycles [entry]) = entries := by
  rw [repetitionsOf, List.flatMap_map]
  exact List.flatMap_singleton' entries

namespace Event

variable {event : Event} {key : Key} {info : KeyInfo}

/-- Reading repetitions one at a time, by a key of a match. Inside a column, the value at an index
is the item at that index of the list that is read without one, and nothing is read past its end or
where no column is recorded. A column itself, read at one index after another, gives values of one
repetition each, which together are the column as it is recorded and read without an index; what is
written in its place without being a column counts as not recorded. For a team as a whole, with and
without an index, these are the values of its matches in play order. -/
theorem repetition_reads (resolved : event.catalog.resolve key = .ok info)
    (space : key.space = .result) (played : info.mode = .played) :
    (∀ subject matchKey, subject.matchKey = some matchKey → ∀ column, info.cycle = some column →
      match event.snapshot.recorded? subject column with
      | some recorded =>
        let items := recorded.entries.map info.observeEntry
        event.read key subject none = .ok (.list items) ∧
          ∀ index, event.read key subject (some index) = .ok (items[index]?.getD .missing)
      | none => ∀ index, event.read key subject index = .ok .missing) ∧
    (∀ subject matchKey, subject.matchKey = some matchKey →
      info.kind = .cycle → info.cycle = none →
      match (event.snapshot.recorded? subject key.id).bind Recorded.column? with
      | some entries => ∃ values,
        ReadsInTurn (fun index => event.read key subject (some index)) 0 values ∧
          (∀ value ∈ values, ∃ entry, value = .cycles [entry]) ∧
          Plan.repetitionsOf values = entries ∧
          event.read key subject none = .ok (.cycles entries)
      | none => ∀ index, event.read key subject index = .ok .missing) ∧
    ∀ team, (event.snapshot.matchKeys team).Pairwise (PlayOrder.before · ·) ∧
      ∀ index, event.read key (Subject.ofTeam team) index =
        Value.list <$> (event.snapshot.matchKeys team).mapM fun matchKey =>
          event.read key (Subject.inMatch team matchKey) index := by
  have reads := read_result resolved space
  refine ⟨?_, ?_, ?_⟩
  · intro subject matchKey inMatch column inside
    have inColumn (index : Option Nat) : event.snapshot.readResult info subject index = _ :=
      Snapshot.readResult_inside played inMatch index inside
    cases recorded : event.snapshot.recorded? subject column with
    | none =>
        intro index
        rw [reads, inColumn, recorded]
        rfl
    | some repetitions =>
        refine ⟨?_, fun index => ?_⟩
        · rw [reads, inColumn, recorded]
          rfl
        · rw [reads, inColumn, recorded, ← KeyInfo.observeEntries_some]
          rfl
  · intro subject matchKey inMatch kind outside
    have id : info.key.id = key.id := by
      rw [Catalog.key_of_resolve resolved, Key.base]
    have column (index : Option Nat) : event.snapshot.readResult info subject index = _ :=
      Snapshot.readResult_column played inMatch index kind outside
    rw [id] at column
    cases recorded : (event.snapshot.recorded? subject key.id).bind Recorded.column? with
    | none =>
        intro index
        rw [reads, column, recorded]
        rfl
    | some entries =>
        refine ⟨entries.map fun entry => .cycles [entry], readsInTurn_of_getElem? ?_, ?_,
          Plan.repetitionsOf_single entries, ?_⟩
        · intro index
          rw [reads, column, recorded, ← KeyInfo.atIndex_some]
          rfl
        · intro value member
          obtain ⟨entry, _, rfl⟩ := List.mem_map.mp member
          exact ⟨entry, rfl⟩
        · rw [reads, column, recorded]
          rfl
  · intro team
    refine ⟨(event.snapshot.matchKeys_increasing team).imp And.left, fun index => ?_⟩
    rw [mapM_eq_pure fun matchKey _ => reads (Subject.inMatch team matchKey) index, reads,
      Snapshot.readResult_ofTeam _ played]
    rfl

theorem repetition_reads_shots :
    let place := Subject.inMatch 7 "a_qm1"
    shots.read (Key.result "hit") place none = .ok (.list [.bool true, .bool false]) ∧
    shots.read (Key.result "hit") place (some 1) = .ok (.bool false) ∧
    shots.read (Key.result "hit") place (some 2) = .ok .missing ∧
    (∃ values,
      ReadsInTurn (fun index => shots.read (Key.result "shots") place (some index)) 0 values ∧
      Plan.repetitionsOf values = [[("hit", .bool true)], [("hit", .bool false)]]) ∧
    shots.read (Key.result "hit") (Subject.ofTeam 7) (some 1) =
      Value.list <$> ["a_qm1", "a_qm2"].mapM fun matchKey =>
        shots.read (Key.result "hit") (Subject.inMatch 7 matchKey) (some 1) := by
  intro place
  have recorded : shots.snapshot.recorded? place "shots" =
      some (.cycles [[("hit", .bool true)], [("hit", .bool false)]]) := rfl
  obtain ⟨hit, knowsHit, isInput⟩ := toOption_map_eq_some.mp
    (show (shots.catalog.resolve (Key.result "hit")).toOption.map (fun info =>
      (info.mode, info.kind, info.key.id, info.cycle)) =
        some (.played, .boolean, "hit", some "shots") by decide +kernel)
  obtain ⟨column, knowsColumn, isColumn⟩ := toOption_map_eq_some.mp
    (show (shots.catalog.resolve (Key.result "shots")).toOption.map (fun info =>
      (info.mode, info.kind, info.cycle)) = some (.played, .cycle, none) by decide +kernel)
  simp only [Prod.mk.injEq] at isInput isColumn
  obtain ⟨hitPlayed, hitKind, hitId, inside⟩ := isInput
  obtain ⟨columnPlayed, columnKind, outside⟩ := isColumn
  obtain ⟨inMatch, _, ofTeam⟩ := repetition_reads knowsHit rfl hitPlayed
  obtain ⟨_, inTurn, _⟩ := repetition_reads knowsColumn rfl columnPlayed
  have items := inMatch place "a_qm1" rfl "shots" inside
  have values := inTurn place "a_qm1" rfl columnKind outside
  have entries : (shots.snapshot.recorded? place (Key.result "shots").id).bind Recorded.column? =
      some [[("hit", .bool true)], [("hit", .bool false)]] := rfl
  rw [recorded] at items
  rw [entries] at values
  obtain ⟨read, turn, _, whole, _⟩ := values
  have observed : (Recorded.entries (.cycles [[("hit", .bool true)], [("hit", .bool false)]])).map
      hit.observeEntry = [.bool true, .bool false] := by
    simp [Recorded.entries, KeyInfo.observeEntry, KeyInfo.observe, hitKind, hitId]
  simp only [observed] at items
  have team := (ofTeam 7).2 (some 1)
  rw [matchKeys_shots] at team
  exact ⟨items.1, items.2 1, items.2 2, ⟨read, turn, whole⟩, team⟩

end Event

end Scouting

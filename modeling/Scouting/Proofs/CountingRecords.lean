import Mathlib
import Scouting.Proofs.Increasing
import Scouting.Proofs.PlayOrder

/-!
The records that count. Of the records that are not ignored and are about one team in one match, or
about one team in the pit, the one that was touched last counts, and of equally recent ones the one
that arrived last.
-/

namespace Scouting

namespace Instant

def place (instant : Instant) : ℤ ×ₗ ℕ := toLex (instant.second, instant.nanosecond)

theorem notAfter_iff {left right : Instant} : left.notAfter right ↔ left.place ≤ right.place := by
  simp [notAfter, place, Prod.Lex.toLex_le_toLex]

end Instant

namespace Record

/-- When a record was touched last: when it was modified, or else created. A record without a time
comes before every time. -/
def touched (record : Record) : WithBot (ℤ ×ₗ ℕ) :=
  match record.modified, record.created with
  | some modified, _ => modified.place
  | none, some created => created.place
  | none, none => ⊥

theorem touched_eq (record : Record) : record.touched =
    match record.lastTouched with
    | some instant => (instant.place : WithBot (ℤ ×ₗ ℕ))
    | none => ⊥ := by
  simp only [touched, lastTouched]
  cases record.modified with
  | some modified => rfl
  | none =>
      cases record.created with
      | some created => rfl
      | none => rfl

theorem touchedNotAfter_iff {left right : Record} :
    left.touchedNotAfter right ↔ left.touched ≤ right.touched := by
  rw [touched_eq, touched_eq, touchedNotAfter]
  cases left.lastTouched with
  | none => simp
  | some instant =>
      cases right.lastTouched with
      | none => simp
      | some other => simp [Instant.notAfter_iff, WithBot.coe_le_coe]

def isPlayedBy (team : Nat) (matchKey : String) (record : Record) : Bool :=
  record.mode == .played && record.team == team && record.matchKey == some matchKey

def isPitOf (team : Nat) (record : Record) : Bool := record.mode == .pit && record.team == team

def names (team : Nat) (record : Record) : Bool :=
  record.team == team && (record.mode == .pit || record.matchKey.isSome)

end Record

/-- Was a record touched last among some, and does it stand behind those touched at the same
time? -/
def IsLatest (records : List Record) (record : Record) : Prop :=
  ∃ before after, records = before ++ record :: after ∧
    (∀ earlier ∈ before, earlier.touched ≤ record.touched) ∧
    ∀ later ∈ after, later.touched < record.touched

theorem IsLatest.greatest {records : List Record} {record : Record}
    (isLatest : IsLatest records record) :
    record ∈ records ∧ ∀ other ∈ records, other.touched ≤ record.touched := by
  obtain ⟨before, after, rfl, notAfter, earlier⟩ := isLatest
  refine ⟨by simp, fun other member => ?_⟩
  rcases List.mem_append.mp member with front | back
  · exact notAfter other front
  · rcases List.mem_cons.mp back with rfl | behind
    · exact le_rfl
    · exact (earlier other behind).le

theorem IsLatest.not_behind {before between after : List Record} {record other : Record}
    (notAfter : ∀ earlier ∈ before ++ record :: between, earlier.touched ≤ other.touched)
    (earlier : ∀ later ∈ between ++ other :: after, later.touched < record.touched) : False := by
  have below := notAfter record (by simp)
  exact absurd (earlier other (by simp)) (not_lt.mpr below)

theorem IsLatest.unique {records : List Record} {record other : Record}
    (isLatest : IsLatest records record) (also : IsLatest records other) : record = other := by
  obtain ⟨before, after, rfl, notAfter, earlier⟩ := isLatest
  obtain ⟨front, back, same, otherNotAfter, otherEarlier⟩ := also
  rcases List.append_eq_append_iff.mp same with ⟨between, rfl, rest⟩ | ⟨between, rfl, rest⟩
  · cases between with
    | nil => exact (List.cons.inj rest).1
    | cons first between =>
        obtain ⟨rfl, rfl⟩ := List.cons.inj rest
        exact (not_behind otherNotAfter earlier).elim
  · cases between with
    | nil => exact (List.cons.inj rest).1.symm
    | cons first between =>
        obtain ⟨rfl, rfl⟩ := List.cons.inj rest
        exact (not_behind notAfter otherEarlier).elim

namespace Snapshot

/-- The record that counts out of several, in order of arrival, and the one that counted before. -/
def counting (previous : Option Record) (records : List Record) : Option Record :=
  records.foldl (fun previous arrival => some (latest previous arrival)) previous

theorem counting_append (previous : Option Record) (records : List Record) (arrival : Record) :
    counting previous (records ++ [arrival]) =
      some (latest (counting previous records) arrival) := by
  rw [counting, List.foldl_append]
  rfl

theorem isLatest_append {records : List Record} {record arrival : Record}
    (isLatest : IsLatest records record) :
    IsLatest (records ++ [arrival]) (latest (some record) arrival) := by
  simp only [latest, Record.touchedNotAfter_iff]
  split
  · rename_i below
    obtain ⟨_, greatest⟩ := isLatest.greatest
    exact ⟨records, [], rfl, fun other member => (greatest other member).trans below, by simp⟩
  · rename_i above
    obtain ⟨before, after, rfl, notAfter, earlier⟩ := isLatest
    refine ⟨before, after ++ [arrival], by simp, notAfter, fun other member => ?_⟩
    rcases List.mem_append.mp member with behind | last
    · exact earlier other behind
    · rw [List.mem_singleton.mp last]
      exact not_le.mp above

theorem exists_counting {records : List Record} (nonempty : records ≠ []) :
    ∃ record, counting none records = some record ∧ IsLatest records record := by
  induction records using List.reverseRecOn with
  | nil => exact absurd rfl nonempty
  | append_singleton records arrival ih =>
      rw [counting_append]
      by_cases alone : records = []
      · have first : latest (counting none records) arrival = arrival := by
          rw [alone, counting, List.foldl_nil, latest]
        rw [first, alone]
        exact ⟨arrival, rfl, [], [], rfl, by simp, by simp⟩
      · obtain ⟨record, counts, isLatest⟩ := ih alone
        rw [counts]
        exact ⟨_, rfl, isLatest_append isLatest⟩

theorem counting_eq_none_iff {records : List Record} :
    counting none records = none ↔ records = [] := by
  constructor
  · intro absent
    by_contra nonempty
    obtain ⟨record, counts, _⟩ := exists_counting nonempty
    rw [absent] at counts
    cases counts
  · rintro rfl
    rfl

theorem counting_eq_some_iff {records : List Record} {record : Record} :
    counting none records = some record ↔ IsLatest records record := by
  constructor
  · intro counts
    have nonempty : records ≠ [] := fun none => by
      rw [counting_eq_none_iff.mpr none] at counts
      cases counts
    obtain ⟨other, also, isLatest⟩ := exists_counting nonempty
    rw [counts] at also
    cases also
    exact isLatest
  · intro isLatest
    have nonempty : records ≠ [] := by
      obtain ⟨before, after, rfl, _⟩ := isLatest
      simp
    obtain ⟨other, counts, also⟩ := exists_counting nonempty
    rw [counts, also.unique isLatest]

theorem look_foldl {look : Snapshot → Option Record} {test : Record → Bool}
    (step : ∀ snapshot record, look (take snapshot record) =
      if test record then some (latest (look snapshot) record) else look snapshot)
    (records : List Record) (snapshot : Snapshot) :
    look (records.foldl take snapshot) = counting (look snapshot) (records.filter test) := by
  induction records generalizing snapshot with
  | nil => rfl
  | cons record rest ih =>
      rw [List.foldl_cons, ih, step, List.filter_cons]
      split
      · rfl
      · rfl

theorem playedRecord?_take (snapshot : Snapshot) (record : Record) (team : Nat)
    (matchKey : String) : (snapshot.take record).playedRecord? team matchKey =
      if record.isPlayedBy team matchKey then
        some (latest (snapshot.playedRecord? team matchKey) record)
      else snapshot.playedRecord? team matchKey := by
  simp only [take, Record.isPlayedBy]
  split
  · rename_i pit
    simp [pit, playedRecord?]
  · rename_i own played inMatch
    have ofTeam : ((snapshot.played.find? record.team).getD Dictionary.empty).find? =
        snapshot.playedRecord? record.team := by
      funext matchKey
      rw [playedRecord?]
      cases snapshot.played.find? record.team with
      | none => rfl
      | some records => rfl
    simp only [playedRecord?, recordIn, Dictionary.find?_insert, ofTeam]
    by_cases sameTeam : team = record.team
    · by_cases sameMatch : matchKey = own
      · simp [sameTeam, sameMatch, played, inMatch]
      · simp [sameTeam, sameMatch, Ne.symm sameMatch, inMatch, ofTeam, playedRecord?]
    · simp [sameTeam, Ne.symm sameTeam]
  · rename_i played outside
    simp [outside, playedRecord?]

theorem pitRecord?_take (snapshot : Snapshot) (record : Record) (team : Nat) :
    (snapshot.take record).pitRecord? team =
      if record.isPitOf team then some (latest (snapshot.pitRecord? team) record)
      else snapshot.pitRecord? team := by
  simp only [take, Record.isPitOf]
  split
  · rename_i pit
    simp only [pitRecord?, recordIn, Dictionary.find?_insert]
    by_cases sameTeam : team = record.team
    · simp [sameTeam, pit]
    · simp [sameTeam, Ne.symm sameTeam]
  · rename_i played _
    simp [played, pitRecord?]
  · rename_i played _
    simp [played, pitRecord?]

section
variable {snapshot : Snapshot} {team : Nat}

theorem mem_matchKeys {matchKey : String} :
    matchKey ∈ snapshot.matchKeys team ↔
      ∃ record, snapshot.playedRecord? team matchKey = some record := by
  simp only [matchKeys, playedRecord?]
  cases snapshot.played.find? team with
  | none => simp
  | some records =>
      dsimp only
      rw [(inPlayOrder_perm id records.keys).mem_iff, Dictionary.mem_keys]
      rfl

theorem matchKeys_eq_keys {snapshot : Snapshot} {keys : List String}
    (found : (snapshot.played.find? team).map Dictionary.keys = some keys)
    (inOrder : keys.Pairwise fun left right =>
      (PlayOrder.ofKey left).le (PlayOrder.ofKey right)) : snapshot.matchKeys team = keys := by
  obtain ⟨records, played, rfl⟩ := Option.map_eq_some_iff.mp found
  rw [matchKeys, played]
  exact List.mergeSort_of_pairwise inOrder

theorem matchKeys_increasing (snapshot : Snapshot) (team : Nat) :
    (snapshot.matchKeys team).Pairwise fun left right =>
      PlayOrder.before left right ∧ ¬PlayOrder.before right left := by
  simp only [matchKeys]
  split
  · rename_i records found
    have distinct := (inPlayOrder_perm id records.keys).nodup_iff.mpr Dictionary.keys_nodup
    refine ((inPlayOrder_sorted id records.keys).and distinct).imp ?_
    rintro left right ⟨before, different⟩
    exact ⟨before, fun after => different (PlayOrder.before_antisymm before after)⟩
  · exact List.Pairwise.nil

theorem mem_teams : team ∈ snapshot.teams ↔
    team ∈ snapshot.infos.keys ∨ team ∈ snapshot.played.keys ∨ team ∈ snapshot.pits.keys := by
  rw [teams, mem_eraseReps, List.mem_mergeSort, List.append_assoc, List.mem_append,
    List.mem_append]

theorem mem_teams_ofTeams {infos : List TeamInfo} :
    team ∈ (ofTeams infos).teams ↔ team ∈ infos.map TeamInfo.number := by
  have none {α : Type} : team ∉ (Dictionary.empty : Dictionary Nat α).keys := List.not_mem_nil
  rw [mem_teams, ofTeams, Dictionary.mem_keys_ofList, List.map_map, or_iff_left]
  · rfl
  · exact fun either => either.elim none none

theorem mem_teams_take {record : Record} :
    team ∈ (snapshot.take record).teams ↔ team ∈ snapshot.teams ∨ record.names team := by
  simp only [mem_teams, take, Record.names]
  split
  · rename_i pit
    simp only [recordIn, Dictionary.mem_keys_insert, pit]
    grind
  · rename_i own played inMatch
    simp only [Dictionary.mem_keys_insert, inMatch]
    grind
  · rename_i played outside
    simp only [played, outside]
    grind

theorem mem_teams_foldl {records : List Record} :
    team ∈ (records.foldl take snapshot).teams ↔
      team ∈ snapshot.teams ∨ ∃ record ∈ records, record.names team := by
  induction records generalizing snapshot with
  | nil => simp
  | cons record rest ih =>
      rw [List.foldl_cons, ih, mem_teams_take, or_assoc, List.exists_mem_cons_iff]

end

section
variable (store : Store) (infos : List TeamInfo)

theorem look_ofStore (look : Snapshot → Option Record) (test : Record → Bool)
    (step : ∀ snapshot record, look (take snapshot record) =
      if test record then some (latest (look snapshot) record) else look snapshot)
    (start : look (ofTeams infos) = none) :
    look (ofStore store infos) =
      counting none (store.records.filter fun record => !record.ignored && test record) := by
  rw [ofStore, look_foldl step, start, List.filter_filter]
  congr 2
  funext record
  exact Bool.and_comm _ _

theorem playedRecord?_ofStore (team : Nat) (matchKey : String) :
    (ofStore store infos).playedRecord? team matchKey =
      counting none (store.records.filter fun record =>
        !record.ignored && record.isPlayedBy team matchKey) :=
  look_ofStore store infos (·.playedRecord? team matchKey) (Record.isPlayedBy team matchKey)
    (fun snapshot record => playedRecord?_take snapshot record team matchKey) rfl

theorem pitRecord?_ofStore (team : Nat) : (ofStore store infos).pitRecord? team =
    counting none (store.records.filter fun record => !record.ignored && record.isPitOf team) :=
  look_ofStore store infos (·.pitRecord? team) (Record.isPitOf team)
    (fun snapshot record => pitRecord?_take snapshot record team) rfl

theorem counting_eq_none_of_store {test : Record → Bool} :
    counting none (store.records.filter fun record => !record.ignored && test record) = none ↔
      ∀ record ∈ store.records, test record → record.ignored := by
  rw [counting_eq_none_iff, List.filter_eq_nil_iff]
  refine forall₂_congr fun record _ => ?_
  cases record.ignored with
  | false => simp
  | true => simp

theorem mem_teams_ofStore (team : Nat) : team ∈ (ofStore store infos).teams ↔
    team ∈ infos.map TeamInfo.number ∨
      ∃ record ∈ store.records, record.ignored = false ∧ record.names team := by
  rw [ofStore, mem_teams_foldl, mem_teams_ofTeams]
  simp [and_assoc]

end

/-- What a snapshot makes of a store. For a team in a match, and for a team in the pit, the record
that counts is the latest one among those that are not ignored, and there is none just when all are
ignored. A team's matches are those with such a record, in play order, and the teams are those that
are configured or named by a record that is not ignored, by number. Ignored records might as well
not be there. -/
theorem ofStore_counts (store : Store) (infos : List TeamInfo) :
    let snapshot := ofStore store infos
    (∀ team matchKey record, snapshot.playedRecord? team matchKey = some record ↔
      IsLatest (store.records.filter fun record =>
        !record.ignored && record.isPlayedBy team matchKey) record) ∧
    (∀ team matchKey, snapshot.playedRecord? team matchKey = none ↔
      ∀ record ∈ store.records, record.isPlayedBy team matchKey → record.ignored) ∧
    (∀ team record, snapshot.pitRecord? team = some record ↔
      IsLatest (store.records.filter fun record =>
        !record.ignored && record.isPitOf team) record) ∧
    (∀ team, snapshot.pitRecord? team = none ↔
      ∀ record ∈ store.records, record.isPitOf team → record.ignored) ∧
    (∀ team matchKey, matchKey ∈ snapshot.matchKeys team ↔
      ∃ record ∈ store.records, record.ignored = false ∧ record.isPlayedBy team matchKey) ∧
    (∀ team, (snapshot.matchKeys team).Pairwise fun left right =>
      PlayOrder.before left right ∧ ¬PlayOrder.before right left) ∧
    (∀ team, team ∈ snapshot.teams ↔ team ∈ infos.map TeamInfo.number ∨
      ∃ record ∈ store.records, record.ignored = false ∧ record.names team) ∧
    snapshot.teams.Pairwise (· < ·) ∧
    snapshot = ofStore ⟨store.records.filter fun record => !record.ignored⟩ infos := by
  intro snapshot
  have played := playedRecord?_ofStore store infos
  have pit := pitRecord?_ofStore store infos
  have absent (team : Nat) (matchKey : String) : snapshot.playedRecord? team matchKey = none ↔
      ∀ record ∈ store.records, record.isPlayedBy team matchKey → record.ignored := by
    rw [played, counting_eq_none_of_store]
  refine ⟨fun team matchKey record => ?_, absent, fun team record => ?_, fun team => ?_,
    fun team matchKey => ?_, snapshot.matchKeys_increasing, mem_teams_ofStore store infos,
    snapshot.teams_increasing, ?_⟩
  · rw [played, counting_eq_some_iff]
  · rw [pit, counting_eq_some_iff]
  · rw [pit, counting_eq_none_of_store]
  · rw [mem_matchKeys, ← Option.ne_none_iff_exists', ne_eq, absent]
    simp [and_comm]
  · simp only [snapshot, ofStore, List.filter_filter, Bool.and_self]

end Snapshot

end Scouting

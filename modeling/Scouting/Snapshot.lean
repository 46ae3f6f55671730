import Scouting.Configuration
import Scouting.PlayOrder
import Scouting.Store

/-!
Snapshots: what can be read at one time. For every team and match, and for every team in the pit, a
snapshot holds the record that counts: the one last touched among those not ignored, and of equally
recent ones the one that arrived last.
-/

namespace Scouting

structure Snapshot where
  /-- The records that are not ignored, in order of arrival. -/
  records : List Record
  /-- The record that counts for a team in a match, by team and by match key. -/
  played : Dictionary Nat (Dictionary String Record)
  /-- The record that counts for a team in the pit. -/
  pits : Dictionary Nat Record
  infos : Dictionary Nat TeamInfo

namespace Snapshot

def ofTeams (teams : List TeamInfo) : Snapshot where
  records := []
  played := Dictionary.empty
  pits := Dictionary.empty
  infos := Dictionary.ofList (teams.map fun info => (info.number, info))

/-- The record that counts out of the one that counted before, if any, and a later arrival. -/
def latest (previous : Option Record) (arrival : Record) : Record :=
  match previous with
  | some record => if record.touchedNotAfter arrival then arrival else record
  | none => arrival

/-- Lets a record count for its key in place of an earlier one that was not touched after it. -/
def recordIn {κ : Type} [LT κ] [DecidableLT κ] [DecidableEq κ] [LE κ] [Std.IsLinearOrder κ]
    [Std.LawfulOrderLT κ] (map : Dictionary κ Record) (key : κ) (arrival : Record) :
    Dictionary κ Record :=
  map.insert key (latest (map.find? key) arrival)

def take (snapshot : Snapshot) (record : Record) : Snapshot :=
  let snapshot := { snapshot with records := snapshot.records ++ [record] }
  match record.mode, record.matchKey with
  | .pit, _ => { snapshot with pits := recordIn snapshot.pits record.team record }
  | .played, some matchKey =>
    let ofTeam := (snapshot.played.find? record.team).getD Dictionary.empty
    { snapshot with
      played := snapshot.played.insert record.team (recordIn ofTeam matchKey record) }
  | .played, none => snapshot

def ofStore (store : Store) (teams : List TeamInfo) : Snapshot :=
  (store.records.filter fun record => !record.ignored).foldl take (ofTeams teams)

def teams (snapshot : Snapshot) : List Nat :=
  ((snapshot.infos.keys ++ snapshot.played.keys ++ snapshot.pits.keys).mergeSort
    fun left right => left ≤ right).eraseReps

def info? (snapshot : Snapshot) (team : Nat) : Option TeamInfo := snapshot.infos.find? team

/-- The record that counts for a team in a match. -/
def playedRecord? (snapshot : Snapshot) (team : Nat) (matchKey : String) : Option Record :=
  (snapshot.played.find? team).bind (·.find? matchKey)

/-- The record that counts for a team in the pit. -/
def pitRecord? (snapshot : Snapshot) (team : Nat) : Option Record := snapshot.pits.find? team

def matchKeys (snapshot : Snapshot) (team : Nat) : List String :=
  match snapshot.played.find? team with
  | some records => inPlayOrder id records.keys
  | none => []

def matchSubjects (snapshot : Snapshot) (team : Nat) : List Subject :=
  (snapshot.matchKeys team).map fun matchKey =>
    { team, matchKey := some matchKey
      position := (snapshot.playedRecord? team matchKey).bind Record.position }

/-- The record that counts for a subject. -/
def recordFor? (snapshot : Snapshot) (subject : Subject) (mode : Mode) : Option Record :=
  match mode, subject.matchKey with
  | .pit, _ => snapshot.pitRecord? subject.team
  | .played, some matchKey => snapshot.playedRecord? subject.team matchKey
  | .played, none => none

def size (snapshot : Snapshot) : Nat := snapshot.records.length

def isEmpty (snapshot : Snapshot) : Bool := snapshot.records.isEmpty

end Snapshot

end Scouting

import Scouting.Proofs.Agreement
import Scouting.Proofs.Compilation

/-!
Where a subject is read: a position that is not given is that of the record which counts for the
subject. Subjects at the same place cannot be told apart by reading.
-/

namespace Scouting

namespace Snapshot

def place (snapshot : Snapshot) (subject : Subject) : Subject :=
  { subject with
    position := subject.position.or ((snapshot.subjectRecord? subject).bind Record.position) }

def SamePlace (snapshot : Snapshot) (subject other : Subject) : Prop :=
  snapshot.place subject = snapshot.place other

variable {snapshot : Snapshot} {subject other : Subject}

theorem SamePlace.refl (snapshot : Snapshot) (subject : Subject) :
    snapshot.SamePlace subject subject :=
  rfl

theorem SamePlace.team (place : snapshot.SamePlace subject other) : subject.team = other.team :=
  (Subject.mk.inj place).1

theorem SamePlace.matchKey (place : snapshot.SamePlace subject other) :
    subject.matchKey = other.matchKey :=
  (Subject.mk.inj place).2.1

theorem SamePlace.isMatch (place : snapshot.SamePlace subject other) :
    subject.isMatch = other.isMatch := by
  rw [Subject.isMatch, Subject.isMatch, place.matchKey]

theorem SamePlace.toTeam (place : snapshot.SamePlace subject other) :
    subject.toTeam = other.toTeam := by
  rw [Subject.toTeam, Subject.toTeam, place.team]

theorem SamePlace.subjectRecord? (place : snapshot.SamePlace subject other) :
    snapshot.subjectRecord? subject = snapshot.subjectRecord? other := by
  rw [Snapshot.subjectRecord?, Snapshot.subjectRecord?, place.team, place.matchKey]

theorem samePlace_listed (team : Nat) (matchKey : String) :
    snapshot.SamePlace
      { team, matchKey := some matchKey
        position := (snapshot.playedRecord? team matchKey).bind Record.position }
      (Subject.inMatch team matchKey) := by
  simp only [SamePlace, place, Snapshot.subjectRecord?, Subject.inMatch, Option.bind_some,
    Option.or_self, Option.none_or]

theorem SamePlace.readResult (place : snapshot.SamePlace subject other) (info : KeyInfo)
    (index : Option Nat) :
    snapshot.readResult info subject index = snapshot.readResult info other index := by
  rw [Snapshot.readResult, Snapshot.readResult, place.team, place.matchKey]

theorem SamePlace.readOfficial (place : snapshot.SamePlace subject other)
    (official : OfficialResults) (info : KeyInfo) :
    official.read info subject = official.read info other := by
  rw [OfficialResults.read, OfficialResults.read, place.team, place.matchKey]

theorem SamePlace.readIdentity (place : snapshot.SamePlace subject other) (id : String) :
    snapshot.readIdentity id subject = snapshot.readIdentity id other := by
  have position := (Subject.mk.inj place).2.2
  rw [place.subjectRecord?] at position
  simp only [Snapshot.readIdentity, place.team, place.matchKey, position, place.subjectRecord?]

end Snapshot

/-- What values of a key come to by a function: those of its option, or of the key as a whole. -/
def KeyInfo.pool (info : KeyInfo) (key : Key) (values : List Value) (function : AggregateFunction) :
    Aggregate :=
  match key.option with
  | some option => aggregateOption values function option
  | none => aggregate values function info.valueKind

namespace Catalog

variable {σ τ : Type} {related : σ → τ → Prop} {allowed : StatError → Prop} {catalog : Catalog}
  {key : Key}

theorem resolve_agree (known : catalog.Knows key ∨ ∀ text, allowed (.unknownKey text)) :
    Agree related allowed (ofExcept (catalog.resolve key) : Run σ KeyInfo)
      (ofExcept (catalog.resolve key) : Run τ KeyInfo) := by
  rcases known with ⟨info, resolved⟩ | may
  · rw [resolved]
    exact Agree.pure info
  · rw [resolve]
    split
    · exact Agree.pure _
    · exact Agree.throw (may key.text)

theorem read_agree (known : catalog.Knows key ∨ ∀ text, allowed (.unknownKey text))
    {snapshot : Snapshot} {source : Source σ} {otherSource : Source τ} {subject other : Subject}
    (place : snapshot.SamePlace subject other)
    (smart : key.space = .smart →
      Agree related allowed (source key.base subject) (otherSource key.base other))
    (index : Option Nat) :
    Agree related allowed (catalog.read snapshot source key subject index)
      (catalog.read snapshot otherSource key other index) := by
  refine (resolve_agree known).bind fun info => ?_
  cases space : key.space with
  | result =>
      rw [place.readResult]
      exact Agree.pure _
  | official =>
      rw [place.readOfficial]
      exact Agree.pure _
  | identity =>
      rw [place.readIdentity]
      exact Agree.pure _
  | smart => exact smart space

theorem aggregate_eq {info : KeyInfo} (resolved : catalog.resolve key = .ok info)
    (values : List Value) (function : AggregateFunction) :
    (catalog.aggregate key values function : Run σ Aggregate) =
      pure (info.pool key values function) := by
  simp only [aggregate, KeyInfo.pool, resolved, ofExcept, pure_bind]
  cases key.option with
  | some option => rfl
  | none => rfl

theorem aggregate_agree (known : catalog.Knows key ∨ ∀ text, allowed (.unknownKey text))
    (values : List Value) (function : AggregateFunction) :
    Agree related allowed (catalog.aggregate key values function : Run σ Aggregate)
      (catalog.aggregate key values function : Run τ Aggregate) := by
  refine (resolve_agree known).bind fun info => ?_
  cases key.option with
  | some option => exact Agree.pure _
  | none => exact Agree.pure _

end Catalog

end Scouting

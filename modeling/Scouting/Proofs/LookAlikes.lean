import Scouting.Proofs.TeamReads
import Scouting.Ranking

/-!
Snapshots that look alike for a team: whatever reading can tell of the team's records is the same.
Where a stat reads only teams that look alike, it has the same answer in both snapshots.
-/

namespace Scouting

namespace Record

def observed (record : Record) : RecordedValues × Option Nat × Option String :=
  (record.fields, record.position, record.scouter)

variable {record other : Option Record} (alike : record.map observed = other.map observed)
include alike

theorem position_of_observed : record.bind position = other.bind position := by
  have positions (record : Option Record) :
      record.bind position = (record.map observed).bind (·.2.1) := by
    cases record with
    | none => rfl
    | some record => rfl
  rw [positions record, positions other, alike]

theorem scouter_of_observed : record.bind scouter = other.bind scouter := by
  have scouters (record : Option Record) :
      record.bind scouter = (record.map observed).bind (·.2.2) := by
    cases record with
    | none => rfl
    | some record => rfl
  rw [scouters record, scouters other, alike]

theorem observeRecord?_of_observed (info : KeyInfo) (index : Option Nat) :
    info.observeRecord? record index = info.observeRecord? other index := by
  rcases record with _ | record <;> rcases other with _ | other
  · rfl
  · cases alike
  · cases alike
  · have fields : record.fields = other.fields := (Prod.mk.inj (Option.some.inj alike)).1
    simp only [KeyInfo.observeRecord?, KeyInfo.observeRecord, fields]

end Record

namespace Snapshot

/-- Can a team not be told apart in two snapshots? -/
structure LooksAlike (left right : Snapshot) (team : Nat) : Prop where
  info : left.info? team = right.info? team
  pit : (left.pitRecord? team).map Record.observed = (right.pitRecord? team).map Record.observed
  played : ∀ matchKey, (left.playedRecord? team matchKey).map Record.observed =
    (right.playedRecord? team matchKey).map Record.observed

namespace LooksAlike

section
variable {left right : Snapshot} {team : Nat} (alike : left.LooksAlike right team)
include alike

theorem matchKeys : left.matchKeys team = right.matchKeys team := by
  refine eq_of_increasing (fun first second before after => before.2 after.1)
    (left.matchKeys_increasing team) (right.matchKeys_increasing team) fun matchKey => ?_
  rw [mem_matchKeys, mem_matchKeys, ← Option.isSome_iff_exists, ← Option.isSome_iff_exists,
    ← Option.isSome_map, alike.played matchKey, Option.isSome_map]

theorem matchSubjects : left.matchSubjects team = right.matchSubjects team := by
  rw [Snapshot.matchSubjects, Snapshot.matchSubjects, alike.matchKeys]
  refine List.map_congr_left fun matchKey _ => ?_
  rw [Record.position_of_observed (alike.played matchKey)]

end

variable {left right : Snapshot} {subject : Subject} (alike : left.LooksAlike right subject.team)
include alike

theorem readResult (info : KeyInfo) (index : Option Nat) :
    left.readResult info subject index = right.readResult info subject index := by
  obtain ⟨team, matchKey, position⟩ := subject
  cases mode : info.mode with
  | pit =>
      simp only [Snapshot.readResult, mode]
      exact Record.observeRecord?_of_observed alike.pit info index
  | played =>
      have inMatch (matchKey : String) :=
        Record.observeRecord?_of_observed (alike.played matchKey) info index
      cases matchKey with
      | some matchKey =>
          simp only [Snapshot.readResult, mode]
          exact inMatch matchKey
      | none =>
          have whole (snapshot : Snapshot) :
              snapshot.readResult info ⟨team, none, position⟩ index =
                snapshot.readResult info (Subject.ofTeam team) index := rfl
          rw [whole, whole, readResult_ofTeam _ mode, readResult_ofTeam _ mode, alike.matchKeys]
          simp only [Snapshot.readResult, mode, Subject.inMatch, inMatch]

theorem readIdentity (id : String) :
    left.readIdentity id subject = right.readIdentity id subject := by
  have recorded : (left.subjectRecord? subject).map Record.observed =
      (right.subjectRecord? subject).map Record.observed := by
    rw [Snapshot.subjectRecord?, Snapshot.subjectRecord?]
    cases subject.matchKey with
    | none => rfl
    | some matchKey => exact alike.played matchKey
  simp only [Snapshot.readIdentity, alike.info, Record.position_of_observed recorded,
    Record.scouter_of_observed recorded]

end LooksAlike

end Snapshot

/-- Environments that differ in their snapshots only, and there not for some of the teams. Of the
needed stats, those that compare all teams may be there only if no team differs. -/
structure Environment.LooksAlike (left right : Environment) (alike : Nat → Prop)
    (needed : Key → Prop) : Prop where
  stats : left.stats = right.stats
  catalog : left.catalog = right.catalog
  fallback : left.fallback = right.fallback
  teams : ∀ team, alike team → left.snapshot.LooksAlike right.snapshot team
  closed : ∀ stat ∈ left.stats.stats, needed stat.key → ∀ key ∈ stat.dependencies, needed key
  everyone : ∀ stat ∈ left.stats.stats, needed stat.key → ∀ terms,
    stat.plan = .weightedRank terms →
      left.snapshot.teams = right.snapshot.teams ∧ ∀ team, alike team

namespace Environment.LooksAlike

variable {left right : Environment} {alike : Nat → Prop} {needed : Key → Prop}
  (looks : left.LooksAlike right alike needed)
include looks

theorem defaultFunction_eq (key : Key) : left.defaultFunction key = right.defaultFunction key := by
  rw [defaultFunction, defaultFunction, looks.stats, looks.fallback]

theorem read_eq {key : Key} {subject : Subject} (member : alike subject.team)
    (smart : key.space = .smart → left.catalog.Knows key →
      left.answer key.base subject = right.answer key.base subject) (index : Option Nat) :
    left.catalog.read left.snapshot left.answers key subject index =
      right.catalog.read right.snapshot right.answers key subject index := by
  have alike := looks.teams subject.team member
  rw [← looks.catalog]
  simp only [Catalog.read]
  cases resolved : left.catalog.resolve key with
  | error failure => rfl
  | ok info =>
      simp only [ofExcept, pure_bind]
      cases space : key.space with
      | result => exact congrArg pure (alike.readResult info index)
      | official => rfl
      | identity => exact congrArg pure (alike.readIdentity key.id)
      | smart => exact congrArg pure (smart space ⟨info, resolved⟩)

theorem aligned {stat : Stat}
    (answers : ∀ key ∈ stat.dependencies, ∀ subject : Subject, alike subject.team →
      left.answer key subject = right.answer key subject) :
    Aligned Eq (fun _ => True) (fun subject other => subject = other ∧ alike subject.team)
      left right left.answers right.answers stat.plan.keys where
  observed := by
    rintro key inPlan subject _ ⟨rfl, ofTeam⟩
    have same := looks.read_eq ofTeam (fun smart _ =>
      answers key.base (Stat.base_mem_dependencies inPlan smart) subject ofTeam) none
    rw [observe, same]
    exact Agree.same _
  aggregated := by
    intro key inPlan values function
    rw [← looks.catalog]
    exact Agree.same _
  functions := fun key _ => looks.defaultFunction_eq key
  fallback := looks.fallback
  team := by
    rintro subject _ ⟨rfl, _⟩
    rfl
  isMatch := by
    rintro subject _ ⟨rfl, _⟩
    rfl
  played := by
    rintro subject _ ⟨rfl, ofTeam⟩
    rw [(looks.teams subject.team ofTeam).matchSubjects]
    refine List.forall₂_same.mpr fun inMatch listed => ⟨rfl, ?_⟩
    obtain ⟨matchKey, _, rfl⟩ := List.mem_map.mp listed
    exact ofTeam

theorem answer_eq (sound : left.Sound) (also : right.Sound) {key : Key} {stat : Stat}
    (found : left.stats.find? key = some stat) (need : needed stat.key) {subject : Subject}
    (ofTeam : alike subject.team) : left.answer key subject = right.answer key subject := by
  obtain ⟨rank, ranked⟩ := sound.ranked
  induction height : rank stat.key using Nat.strongRecOn generalizing key stat subject with
  | ind height ih =>
      subst height
      have member := List.mem_of_find?_eq_some found
      have answers : ∀ key ∈ stat.dependencies, ∀ subject : Subject, alike subject.team →
          left.answer key subject = right.answer key subject := by
        intro key dependency subject ofTeam
        obtain ⟨read, readFound, rfl⟩ := sound.dependency member dependency
        exact ih (rank read.key) (ranked stat member read.key dependency) readFound
          (looks.closed stat member need read.key dependency) ofTeam rfl
      have everyone : ∀ terms, stat.plan = .weightedRank terms →
          AlignedTeams (fun subject other => subject = other ∧ alike subject.team) left right := by
        intro terms ranks
        obtain ⟨teams, all⟩ := looks.everyone stat member need terms ranks
        exact ⟨teams, fun team => ⟨rfl, all team⟩⟩
      have computed := ((looks.aligned answers).compute
        (.inl (sound.grounded stat member).bound) everyone ⟨rfl, ofTeam⟩ ⟨rfl, ofTeam⟩).eq
      have alsoFound : right.stats.find? key = some stat := by
        rw [← looks.stats]
        exact found
      refine pure_injective ?_
      rw [← sound.compute_answers found, computed, also.compute_answers alsoFound]

end Environment.LooksAlike

namespace Event

section
variable {left right : Event} {alike : Nat → Prop} {needed : Key → Prop}
  (looks : left.environment.LooksAlike right.environment alike needed)
include looks

theorem catalog_eq_of_alike : left.catalog = right.catalog := looks.catalog

theorem defaultFunction_eq_of_alike (key : Key) :
    left.defaultFunction key = right.defaultFunction key :=
  looks.defaultFunction_eq key

variable (sound : left.environment.Sound) (also : right.environment.Sound)
  {key : Key} (need : key.space = .smart → needed key.base)
include sound also need

theorem read_eq_of_alike {subject : Subject} (ofTeam : alike subject.team) (index : Option Nat) :
    left.read key subject index = right.read key subject index := by
  have smart (space : key.space = .smart) (known : left.catalog.Knows key) :
      left.environment.answer key.base subject = right.environment.answer key.base subject := by
    obtain ⟨stat, found⟩ := sound.present key space known
    have base : stat.key = key.base := by simpa using List.find?_some found
    have foundBase : left.environment.stats.find? key.base = some stat := found
    exact looks.answer_eq sound also foundBase (base ▸ need space) ofTeam
  rw [read_answers sound, read_answers also]
  exact congrArg (fun run : Run Unit Value => (run.run.run ()).1)
    (looks.read_eq ofTeam smart index)

theorem readings_of_alike (known : left.catalog.Knows key) :
    ∃ (info : KeyInfo) (reading other : Subject → Value),
    left.catalog.resolve key = .ok info ∧ right.catalog.resolve key = .ok info ∧
    (∀ subject, left.environment.Settles (left.readIn key subject none) (reading subject)) ∧
    (∀ subject, right.environment.Settles (right.readIn key subject none) (other subject)) ∧
    ∀ subject, alike subject.team → reading subject = other subject := by
  have catalogs := catalog_eq_of_alike looks
  obtain ⟨reading, read⟩ := exists_reading sound known none
  obtain ⟨other, otherRead⟩ := exists_reading also (catalogs ▸ known) none
  obtain ⟨info, resolved⟩ := known
  refine ⟨info, reading, other, resolved, catalogs ▸ resolved, fun subject => (read subject).2,
    fun subject => (otherRead subject).2, fun subject ofTeam => ?_⟩
  have same := read_eq_of_alike looks sound also need ofTeam none
  rw [(read subject).1, (otherRead subject).1] at same
  exact Except.ok.inj same

theorem stat_eq_of_alike (subject : Option Subject) (function : Option AggregateFunction)
    (pool : left.pooled subject = right.pooled subject)
    (ofTeams : ∀ pooled ∈ left.pooled subject, alike pooled.team) :
    left.stat key subject function = right.stat key subject function := by
  have catalogs := catalog_eq_of_alike looks
  by_cases known : left.catalog.Knows key
  · obtain ⟨info, reading, other, resolved, alsoResolved, settles, alsoSettles, same⟩ :=
      readings_of_alike looks sound also need known
    have pooled : (left.pooled subject).map reading = (right.pooled subject).map other := by
      rw [← pool]
      exact List.map_congr_left fun subject member => same subject (ofTeams subject member)
    rw [stat_eq resolved settles, stat_eq alsoResolved alsoSettles, pooled,
      defaultFunction_eq_of_alike looks key]
  · have refused := Catalog.resolve_eq_error known
    have alsoRefused : right.catalog.resolve key = _ := catalogs ▸ refused
    rw [stat_refused refused, stat_refused alsoRefused]

theorem teamStats_eq_of_alike {teams : List Nat} (ofTeams : ∀ team ∈ teams, alike team)
    (function : Option AggregateFunction) :
    left.teamStats key teams function = right.teamStats key teams function := by
  have catalogs := catalog_eq_of_alike looks
  by_cases known : left.catalog.Knows key
  · obtain ⟨info, reading, other, resolved, alsoResolved, settles, alsoSettles, same⟩ :=
      readings_of_alike looks sound also need known
    rw [teamStats_eq resolved settles, teamStats_eq alsoResolved alsoSettles,
      defaultFunction_eq_of_alike looks key]
    refine congrArg Except.ok (List.map_congr_left fun team member => ?_)
    rw [same (Subject.ofTeam team) (ofTeams team member)]
  · have refused := Catalog.resolve_eq_error known
    have alsoRefused : right.catalog.resolve key = _ := catalogs ▸ refused
    rw [teamStats_refused refused, teamStats_refused alsoRefused]

theorem ranking_eq_of_alike {teams : List Nat} (ofTeams : ∀ team ∈ teams, alike team)
    (function : Option AggregateFunction) :
    left.ranking key teams function = right.ranking key teams function := by
  have catalogs := catalog_eq_of_alike looks
  simp only [ranking, isNegative, catalogs, defaultFunction_eq_of_alike looks key,
    teamStats_eq_of_alike looks sound also need ofTeams]

end

/-- Do two events give the same answers, whatever is asked? -/
structure AnswersAlike (left right : Event) : Prop where
  teams : left.teams = right.teams
  read : ∀ key subject index, left.read key subject index = right.read key subject index
  stat : ∀ key subject function, left.stat key subject function = right.stat key subject function
  teamStats : ∀ key teams function,
    left.teamStats key teams function = right.teamStats key teams function
  ranking : ∀ key teams function,
    left.ranking key teams function = right.ranking key teams function

namespace AnswersAlike

theorem symm {left right : Event} (alike : AnswersAlike left right) : AnswersAlike right left where
  teams := alike.teams.symm
  read key subject index := (alike.read key subject index).symm
  stat key subject function := (alike.stat key subject function).symm
  teamStats key teams function := (alike.teamStats key teams function).symm
  ranking key teams function := (alike.ranking key teams function).symm

theorem trans {left middle right : Event} (first : AnswersAlike left middle)
    (second : AnswersAlike middle right) : AnswersAlike left right where
  teams := first.teams.trans second.teams
  read key subject index := (first.read key subject index).trans (second.read key subject index)
  stat key subject function :=
    (first.stat key subject function).trans (second.stat key subject function)
  teamStats key teams function :=
    (first.teamStats key teams function).trans (second.teamStats key teams function)
  ranking key teams function :=
    (first.ranking key teams function).trans (second.ranking key teams function)

end AnswersAlike

theorem answersAlike_of_snapshots {records others : List Record} {config : Configuration}
    {official : OfficialResults} {settings : Settings}
    (teams : (Snapshot.ofStore ⟨records⟩ config.teams).teams =
      (Snapshot.ofStore ⟨others⟩ config.teams).teams)
    (alike : ∀ team, (Snapshot.ofStore ⟨records⟩ config.teams).LooksAlike
      (Snapshot.ofStore ⟨others⟩ config.teams) team) :
    AnswersAlike (ofInputs records config official settings)
      (ofInputs others config official settings) := by
  have looks : (ofInputs records config official settings).environment.LooksAlike
      (ofInputs others config official settings).environment (fun _ => True) fun _ => True :=
    { stats := rfl
      catalog := rfl
      fallback := rfl
      teams := fun team _ => alike team
      closed := fun _ _ _ _ _ => trivial
      everyone := fun _ _ _ _ _ => ⟨teams, fun _ => trivial⟩ }
  have sound := sound_ofInputs records config official settings
  have also := sound_ofInputs others config official settings
  refine ⟨teams, fun key subject index => ?_, fun key subject function => ?_,
    fun key teams function => ?_, fun key teams function => ?_⟩
  · exact read_eq_of_alike looks sound also (fun _ => trivial) trivial index
  · refine stat_eq_of_alike looks sound also (fun _ => trivial) subject function ?_
      fun _ _ => trivial
    cases subject with
    | some subject => rfl
    | none => exact congrArg (List.map Subject.ofTeam) teams
  · exact teamStats_eq_of_alike looks sound also (fun _ => trivial) (fun _ _ => trivial) function
  · exact ranking_eq_of_alike looks sound also (fun _ => trivial) (fun _ _ => trivial) function

end Event

end Scouting

import Scouting.Proofs.Changes

/-!
Teams are separate: what is recorded about other teams makes no difference to a team's numbers. Only
a weighted rank compares teams, so the exception is for keys that come to need one.
-/

namespace Scouting

namespace Snapshot

theorem records_take (snapshot : Snapshot) (record : Record) :
    (snapshot.take record).records = snapshot.records ++ [record] := by
  simp only [take]
  split
  · rfl
  · rfl
  · rfl

theorem records_foldl (records : List Record) (snapshot : Snapshot) :
    (records.foldl take snapshot).records = snapshot.records ++ records := by
  induction records generalizing snapshot with
  | nil => simp
  | cons record rest ih =>
      rw [List.foldl_cons, ih, records_take, List.append_assoc, List.singleton_append]

theorem records_ofStore (store : Store) (infos : List TeamInfo) :
    (ofStore store infos).records = store.records.filter fun record => !record.ignored := by
  rw [ofStore, records_foldl]
  exact List.nil_append _

section
variable {records others : List Record} {team : Nat}
  (same : (records.filter fun record => !record.ignored && record.team == team) =
    others.filter fun record => !record.ignored && record.team == team)
include same

theorem filter_ofTeam {test : Record → Bool}
    (own : ∀ record : Record, test record → record.team = team) :
    (records.filter fun record => !record.ignored && test record) =
      others.filter fun record => !record.ignored && test record := by
  have narrowed (records : List Record) :
      (records.filter fun record => !record.ignored && test record) =
        (records.filter fun record => !record.ignored && record.team == team).filter test := by
    rw [List.filter_filter]
    refine List.filter_congr fun record _ => ?_
    cases tested : test record with
    | false => simp
    | true => simp [own record tested]
  rw [narrowed, narrowed, same]

theorem looksAlike_of_records (infos : List TeamInfo) :
    (ofStore ⟨records⟩ infos).LooksAlike (ofStore ⟨others⟩ infos) team where
  info := by rw [info?, info?, infos_ofStore, infos_ofStore]
  pit := by
    have own : ∀ record : Record, record.isPitOf team → record.team = team := by
      simp [Record.isPitOf]
    rw [pitRecord?_ofStore, pitRecord?_ofStore]
    rw [filter_ofTeam same own]
  played := by
    intro matchKey
    have own : ∀ record : Record, record.isPlayedBy team matchKey → record.team = team := by
      simp +contextual [Record.isPlayedBy]
    rw [playedRecord?_ofStore, playedRecord?_ofStore]
    rw [filter_ofTeam same own]

end

theorem looksAlike_of_snapshots {store other : Store} {infos : List TeamInfo} {team : Nat}
    (same : ((ofStore store infos).records.filter fun record => record.team == team) =
      (ofStore other infos).records.filter fun record => record.team == team) :
    (ofStore store infos).LooksAlike (ofStore other infos) team := by
  refine looksAlike_of_records ?_ infos
  rw [records_ofStore, records_ofStore, List.filter_filter, List.filter_filter] at same
  simpa only [Bool.and_comm] using same

end Snapshot

def Plan.comparesTeams : Plan → Bool
  | weightedRank _ => true
  | _ => false

namespace Event

/-- Is an event to be had from some configuration, official results and settings, by any records and
any changes? -/
def IsLoadedWith (config : Configuration) (official : OfficialResults) (settings : Settings)
    (event : Event) : Prop :=
  ∃ records changes, event = (ofInputs records config official settings).run changes

theorem IsLoadedWith.exists_counted {config : Configuration} {official : OfficialResults}
    {settings : Settings} {event : Event} (loaded : event.IsLoadedWith config official settings) :
    ∃ counted : List Record,
      AnswersAlike event (ofInputs counted config official settings) ∧
      event.snapshot = Snapshot.ofStore ⟨counted⟩ config.teams ∧
      event.stats = (ofInputs counted config official settings).stats := by
  obtain ⟨records, changes, rfl⟩ := loaded
  have snapshots := congrArg Event.snapshot (run_eq records config official settings changes)
  have stats := congrArg Event.stats (run_eq records config official settings changes)
  exact ⟨_, answersAlike_reloaded records config official settings changes, snapshots, stats⟩

/-- Does a key need no stat that compares teams, whether it is one itself or through others? -/
def ComparesNoTeams (event : Event) (key : Key) : Prop :=
  ∀ stat ∈ event.stats.stats, Relation.ReflTransGen (Reads event.stats.stats) key.base stat.key →
    stat.plan.comparesTeams = false

/-- What a team comes to depends on its own records alone. In two events of one configuration, of
the same official results and settings, whose snapshots hold the same records of a team in the same
order, a key that needs no weighted rank has the same values and the same aggregates for the team,
as a whole and in every match, whatever is recorded about other teams. -/
theorem answers_of_team {config : Configuration} {official : OfficialResults} {settings : Settings}
    {left right : Event} (loaded : left.IsLoadedWith config official settings)
    (also : right.IsLoadedWith config official settings) {team : Nat}
    (same : (left.snapshot.records.filter fun record => record.team == team) =
      right.snapshot.records.filter fun record => record.team == team)
    {key : Key} (separate : left.ComparesNoTeams key) {subject : Subject}
    (ofTeam : subject.team = team) :
    (∀ index, left.read key subject index = right.read key subject index) ∧
    ∀ function, left.stat key (some subject) function = right.stat key (some subject) function := by
  obtain ⟨counted, answers, snapshot, stats⟩ := loaded.exists_counted
  obtain ⟨others, otherAnswers, otherSnapshot, _⟩ := also.exists_counted
  rw [snapshot, otherSnapshot] at same
  rw [ComparesNoTeams, stats] at separate
  have looks : (ofInputs counted config official settings).environment.LooksAlike
      (ofInputs others config official settings).environment (fun other => other = team)
      (Relation.ReflTransGen (Reads (ofInputs counted config official settings).stats.stats)
        key.base) :=
    { stats := rfl
      catalog := rfl
      fallback := rfl
      teams := fun other isTeam => isTeam ▸ Snapshot.looksAlike_of_snapshots same
      closed := fun stat member reached _ dependency =>
        reached.tail ⟨stat, member, rfl, dependency⟩
      everyone := fun stat member reached terms ranks => by
        have alone := separate stat member reached
        rw [ranks] at alone
        cases alone }
  have sound := sound_ofInputs counted config official settings
  have otherSound := sound_ofInputs others config official settings
  refine ⟨fun index => ?_, fun function => ?_⟩
  · rw [answers.read, otherAnswers.read]
    exact read_eq_of_alike looks sound otherSound (fun _ => .refl) ofTeam index
  · rw [answers.stat, otherAnswers.stat]
    refine stat_eq_of_alike looks sound otherSound (fun _ => .refl) (some subject) function rfl ?_
    simpa [pooled] using ofTeam

theorem answers_of_team_small :
    let left := ofInputs [counted 0 3] small.config OfficialResults.empty Settings.standard
    let right := left.run [.insert { counted 5 4 with team := 9 }, .rebuild]
    left.IsLoadedWith small.config OfficialResults.empty Settings.standard ∧
    right.IsLoadedWith small.config OfficialResults.empty Settings.standard ∧
    ((left.snapshot.records.filter fun record => record.team == 7) =
      right.snapshot.records.filter fun record => record.team == 7) ∧
    left.ComparesNoTeams (Key.smart "double") ∧
    left.snapshot.matchKeys 9 = [] ∧ right.snapshot.matchKeys 9 = ["a_qm1"] ∧
    ∀ function, left.stat (Key.smart "double") (some (Subject.ofTeam 7)) function =
      right.stat (Key.smart "double") (some (Subject.ofTeam 7)) function := by
  intro left right
  have loaded : left.IsLoadedWith small.config OfficialResults.empty Settings.standard :=
    ⟨[counted 0 3], [], rfl⟩
  have also : right.IsLoadedWith small.config OfficialResults.empty Settings.standard :=
    ⟨[counted 0 3], _, rfl⟩
  have same : (left.snapshot.records.filter fun record => record.team == 7) =
      right.snapshot.records.filter fun record => record.team == 7 := rfl
  have stats : left.stats.stats.map
      (fun stat => (stat.key, stat.dependencies, stat.plan.comparesTeams)) =
        [(Key.smart "double", [], false),
          (Key.smart "place", [Key.smart "double"], true)] := by
    decide +kernel
  have only {stat : Stat} (member : stat ∈ left.stats.stats)
      (double : stat.key = Key.smart "double") :
      stat.dependencies = [] ∧ stat.plan.comparesTeams = false := by
    have listed := List.mem_map_of_mem
      (f := fun stat : Stat => (stat.key, stat.dependencies, stat.plan.comparesTeams)) member
    rw [stats] at listed
    simpa [double, Key.smart, Key.plain] using listed
  have separate : left.ComparesNoTeams (Key.smart "double") := by
    intro stat member reached
    rcases Relation.ReflTransGen.cases_head reached with isDouble | ⟨next, ⟨reader, read⟩, _⟩
    · exact (only member isDouble.symm).2
    · have none := (only read.1 read.2.1).1
      rw [none] at read
      cases read.2.2
  refine ⟨loaded, also, same, separate, by decide +kernel, by decide +kernel, ?_⟩
  have subject : (Subject.ofTeam 7).team = 7 := rfl
  exact (answers_of_team loaded also same separate subject).2

end Event

end Scouting

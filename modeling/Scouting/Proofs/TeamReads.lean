import Scouting.Proofs.Answers
import Scouting.Proofs.CountingRecords

/-!
Reading a team as a whole. What is observed match by match is read for a team as the list of what is
read in each of its matches; what is observed once for a team is read alike in all of them.
-/

namespace Scouting

namespace Snapshot

variable (snapshot : Snapshot)

theorem readResult_ofTeam {info : KeyInfo} (played : info.mode = .played) (team : Nat)
    (index : Option Nat) :
    snapshot.readResult info (Subject.ofTeam team) index =
      .list ((snapshot.matchKeys team).map fun matchKey =>
        snapshot.readResult info (Subject.inMatch team matchKey) index) := by
  have each : ∀ matchKeys : List String, (∀ matchKey ∈ matchKeys,
      ∃ record, snapshot.playedRecord? team matchKey = some record) →
      ((matchKeys.filterMap (snapshot.playedRecord? team)).map fun record =>
          info.observeRecord record index) =
        matchKeys.map fun matchKey =>
          info.observeRecord? (snapshot.playedRecord? team matchKey) index := by
    intro matchKeys recorded
    induction matchKeys with
    | nil => rfl
    | cons first rest ih =>
        obtain ⟨record, found⟩ := recorded first List.mem_cons_self
        rw [List.filterMap_cons_some found, List.map_cons, List.map_cons, found,
          ih fun later member => recorded later (List.mem_cons_of_mem _ member)]
        rfl
  simp only [readResult, played, Subject.ofTeam, Subject.inMatch]
  rw [each _ fun matchKey member => mem_matchKeys.mp member]

end Snapshot

namespace OfficialResults

variable (results : OfficialResults)

def matchesWith (team : Nat) (id : String) : List String :=
  (results.matchValues team id).map (·.1)

theorem matchesWith_eq (team : Nat) (id : String) :
    results.matchesWith team id = inPlayOrder (fun matchKey => matchKey)
      (results.perMatch.keys.filter fun matchKey =>
        (results.matchValue? matchKey team id).isSome) := by
  rw [matchesWith, matchValues, map_inPlayOrder _ (fun matchKey => matchKey) _ fun _ => rfl,
    List.map_filterMap, ← List.filterMap_eq_filter]
  congr 2
  funext matchKey
  cases found : results.matchValue? matchKey team id with
  | none => simp [Option.guard, found]
  | some recorded => simp [Option.guard, found]

theorem mem_matchesWith {team : Nat} {id matchKey : String} :
    matchKey ∈ results.matchesWith team id ↔
      (results.matchValue? matchKey team id).isSome := by
  rw [matchesWith_eq, (inPlayOrder_perm _ _).mem_iff, List.mem_filter, and_iff_right_iff_imp]
  intro imported
  obtain ⟨recorded, found⟩ := Option.isSome_iff_exists.mp imported
  obtain ⟨ofMatch, inMatch, _⟩ := Option.bind_eq_some_iff.mp found
  obtain ⟨ofTeams, inMatches, _⟩ := Option.bind_eq_some_iff.mp inMatch
  exact Dictionary.mem_keys.mpr ⟨ofTeams, inMatches⟩

theorem matchesWith_nodup (team : Nat) (id : String) : (results.matchesWith team id).Nodup := by
  rw [matchesWith_eq]
  exact (inPlayOrder_perm _ _).nodup_iff.mpr (Dictionary.keys_nodup.filter _)

theorem matchesWith_sorted (team : Nat) (id : String) :
    (results.matchesWith team id).Pairwise fun left right => PlayOrder.before left right := by
  rw [matchesWith_eq]
  exact inPlayOrder_sorted _ _

theorem read_ofTeam {info : KeyInfo} {team : Nat}
    (absent : results.teamValue? team info.key.id = none) :
    results.read info (Subject.ofTeam team) =
      if results.matchesWith team info.key.id = [] then .missing
      else .list ((results.matchesWith team info.key.id).map fun matchKey =>
        results.read info (Subject.inMatch team matchKey)) := by
  have each : (results.matchValues team info.key.id).map (fun entry => info.observe entry.2) =
      (results.matchesWith team info.key.id).map fun matchKey =>
        results.read info (Subject.inMatch team matchKey) := by
    rw [matchesWith, List.map_map]
    refine List.map_congr_left fun entry member => ?_
    obtain ⟨matchKey, _, imported⟩ :=
      List.mem_filterMap.mp ((inPlayOrder_perm _ _).mem_iff.mp member)
    obtain ⟨recorded, found, rfl⟩ := Option.map_eq_some_iff.mp imported
    simp [read, Subject.inMatch, found]
  rw [← each]
  simp only [matchesWith, List.map_eq_nil_iff]
  simp only [read, Subject.ofTeam, absent]
  cases results.matchValues team info.key.id with
  | nil => simp
  | cons first rest => simp

end OfficialResults

namespace Environment

variable {environment : Environment} {key : Key} {stat : Stat}

theorem settle_number {subject : Subject} {value : Value}
    (settled : environment.settle environment.answers stat subject = pure value) :
    value = .missing ∨ ∃ number, value = .number number := by
  have ran : (environment.settle environment.answers stat subject).run.run () = (.ok value, ()) := by
    rw [settled]
    rfl
  rw [settle, run_bind] at ran
  split at ran
  · rename_i outcome _ _
    cases outcome with
    | some number =>
        cases ran
        exact Or.inr ⟨number, rfl⟩
    | none =>
        cases ran
        exact Or.inl rfl
  · cases ran

namespace Sound

variable (sound : environment.Sound) (found : environment.stats.find? key = some stat)
include sound found

theorem answer_samePlace {subject other : Subject}
    (place : environment.snapshot.SamePlace subject other) :
    environment.answer key subject = environment.answer key other :=
  (sound.source_settles found (rfl : environment.snapshot.SamePlace subject subject)).unique
    (sound.source_settles found place)

theorem answer_toTeam (once : stat.isTeamScoped) (subject : Subject) :
    environment.answer key subject = environment.answer key subject.toTeam := by
  refine pure_injective ?_
  rw [← sound.compute_answers found, ← sound.compute_answers found, compute, compute,
    if_pos once, if_pos once]
  rfl

theorem settle_answers (perMatch : stat.isTeamScoped = false) {subject : Subject}
    (inMatch : subject.isMatch) :
    environment.settle environment.answers stat subject =
      pure (environment.answer key subject) := by
  rw [← sound.compute_answers found, compute, if_neg (by simp [perMatch]), if_pos inMatch]

theorem answer_whole (perMatch : stat.isTeamScoped = false) {subject : Subject}
    (whole : subject.isMatch = false) :
    environment.answer key subject =
      .list ((environment.snapshot.matchSubjects subject.team).map (environment.answer key)) := by
  have settled : (environment.snapshot.matchSubjects subject.team).mapM
      (environment.settle environment.answers stat) =
        pure ((environment.snapshot.matchSubjects subject.team).map (environment.answer key)) := by
    refine mapM_eq_pure fun place member => ?_
    obtain ⟨matchKey, _, rfl⟩ := List.mem_map.mp member
    exact sound.settle_answers found perMatch rfl
  refine pure_injective ?_
  rw [← sound.compute_answers found, compute, if_neg (by simp [perMatch]), if_neg (by simp [whole])]
  exact (congrArg (Value.list <$> ·) settled).trans (map_pure _ _)

theorem answer_ofTeam (perMatch : stat.isTeamScoped = false) (team : Nat) :
    environment.answer key (Subject.ofTeam team) =
      .list ((environment.snapshot.matchKeys team).map fun matchKey =>
        environment.answer key (Subject.inMatch team matchKey)) := by
  rw [sound.answer_whole found perMatch rfl, Snapshot.matchSubjects, List.map_map]
  exact congrArg Value.list (List.map_congr_left fun matchKey _ =>
    sound.answer_samePlace found (Snapshot.samePlace_listed team matchKey))

theorem exists_number_of_answer {subject : Subject} {leaf : Value}
    (member : leaf ∈ (environment.answer key subject).leaves) :
    ∃ number, leaf = .number number := by
  have ofSettled {place : Subject} {value : Value}
      (settled : environment.settle environment.answers stat place = pure value)
      (within : leaf ∈ value.leaves) : ∃ number, leaf = .number number := by
    rcases settle_number settled with rfl | ⟨number, rfl⟩
    · simp at within
    · exact ⟨number, by simpa [Value.leaves] using within⟩
  by_cases once : stat.isTeamScoped
  · have computed := sound.compute_answers found subject
    rw [compute, if_pos once] at computed
    exact ofSettled computed member
  rw [Bool.not_eq_true] at once
  by_cases inMatch : subject.isMatch
  · exact ofSettled (sound.settle_answers found once inMatch) member
  · rw [Bool.not_eq_true] at inMatch
    rw [sound.answer_whole found once inMatch, Value.leaves_list, Value.flatten_eq_flatMap,
      List.mem_flatMap] at member
    obtain ⟨value, inMatches, within⟩ := member
    obtain ⟨place, listed, rfl⟩ := List.mem_map.mp inMatches
    obtain ⟨matchKey, _, rfl⟩ := List.mem_map.mp listed
    exact ofSettled (sound.settle_answers found once rfl) within

end Sound

end Environment

namespace Event

variable {event : Event} {key : Key} {info : KeyInfo}

theorem read_result (resolved : event.catalog.resolve key = .ok info) (space : key.space = .result)
    (subject : Subject) (index : Option Nat) :
    event.read key subject index = .ok (event.snapshot.readResult info subject index) := by
  simp only [read, readIn, Catalog.read, resolved, ofExcept, space]
  rfl

theorem read_official (resolved : event.catalog.resolve key = .ok info)
    (space : key.space = .official) (subject : Subject) (index : Option Nat) :
    event.read key subject index = .ok (event.catalog.official.read info subject) := by
  simp only [read, readIn, Catalog.read, resolved, ofExcept, space]
  rfl

theorem read_identity (resolved : event.catalog.resolve key = .ok info)
    (space : key.space = .identity) (subject : Subject) (index : Option Nat) :
    event.read key subject index = .ok (event.snapshot.readIdentity key.id subject) := by
  simp only [read, readIn, Catalog.read, resolved, ofExcept, space]
  rfl

theorem read_smart (sound : event.environment.Sound)
    (resolved : event.catalog.resolve key = .ok info) (space : key.space = .smart)
    (subject : Subject) (index : Option Nat) :
    event.read key subject index = .ok (event.environment.answer key.base subject) := by
  obtain ⟨stat, found⟩ := sound.present key space ⟨info, resolved⟩
  have base : event.environment.stats.find? key.base = some stat := found
  have settles := sound.source_settles base (rfl : event.snapshot.SamePlace subject subject)
  simp only [read, readIn, Catalog.read, resolved, ofExcept, space, pure_bind]
  exact settles.evaluate

theorem read_answers (sound : event.environment.Sound) (key : Key) (subject : Subject)
    (index : Option Nat) :
    event.read key subject index = ((event.catalog.read event.snapshot event.environment.answers
      key subject index).run.run ()).1 := by
  cases resolved : event.catalog.resolve key with
  | error failure =>
      simp only [read, readIn, Catalog.read, resolved, ofExcept]
      rfl
  | ok info =>
      simp only [Catalog.read, resolved, ofExcept, pure_bind]
      cases space : key.space with
      | result => exact read_result resolved space subject index
      | official => exact read_official resolved space subject index
      | identity => exact read_identity resolved space subject index
      | smart => exact read_smart sound resolved space subject index

theorem read_stat (sound : event.environment.Sound) {stat : Stat}
    (member : stat ∈ event.stats.stats) (subject : Subject) (index : Option Nat) :
    event.read stat.key subject index = .ok (event.environment.answer stat.key subject) := by
  obtain ⟨_, resolved⟩ := sound.known stat member
  exact read_smart sound resolved rfl subject index

theorem read_ofTeam (sound : event.environment.Sound) {stat : Stat}
    (member : stat ∈ event.stats.stats) (perMatch : stat.isTeamScoped = false) {team : Nat}
    {index : Option Nat} {value : String → Value}
    (each : ∀ matchKey ∈ event.snapshot.matchKeys team,
      event.read stat.key (Subject.inMatch team matchKey) index = .ok (value matchKey)) :
    event.read stat.key (Subject.ofTeam team) index =
      .ok (.list ((event.snapshot.matchKeys team).map value)) := by
  have found : event.environment.stats.find? stat.key = some stat :=
    StatSet.find?_of_mem sound.unique member
  rw [read_stat sound member, sound.answer_ofTeam found perMatch]
  refine congrArg (fun items => Except.ok (Value.list items)) (List.map_congr_left ?_)
  intro matchKey listed
  have answer := each matchKey listed
  rw [read_stat sound member] at answer
  exact Except.ok.inj answer

/-- Reading a team as a whole. A key of a match, scouted or derived, is read as the list of its
values in the team's matches; a key of the pit and a stat with one value for a team are read alike
in every match; and an official value that is imported by match only is read as the list of the
values of exactly these matches, in play order. -/
theorem team_reads (reachable : event.Reachable) (team : Nat) (index : Option Nat) :
    (∀ key info, event.catalog.resolve key = .ok info → key.space = .result →
      info.mode = .played →
        event.read key (Subject.ofTeam team) index =
          Value.list <$> (event.snapshot.matchKeys team).mapM fun matchKey =>
            event.read key (Subject.inMatch team matchKey) index) ∧
    (∀ stat ∈ event.stats.stats, stat.isTeamScoped = false →
      event.read stat.key (Subject.ofTeam team) index =
        (Value.list <$> (event.snapshot.matchKeys team).mapM fun matchKey =>
          event.read stat.key (Subject.inMatch team matchKey) index) ∧
      ∀ matchKey, ∃ value, event.read stat.key (Subject.inMatch team matchKey) index = .ok value ∧
        (value = .missing ∨ ∃ number, value = .number number)) ∧
    (∀ stat ∈ event.stats.stats, stat.isTeamScoped → ∀ matchKey,
      event.read stat.key (Subject.inMatch team matchKey) index =
        event.read stat.key (Subject.ofTeam team) index) ∧
    (∀ key info, event.catalog.resolve key = .ok info → key.space = .result → info.mode = .pit →
      ∀ matchKey, event.read key (Subject.inMatch team matchKey) index =
        event.read key (Subject.ofTeam team) index) ∧
    ∀ key info, event.catalog.resolve key = .ok info → key.space = .official →
      event.catalog.official.teamValue? team key.id = none →
        ∃ imported : List String, imported.Nodup ∧
          (∀ matchKey, matchKey ∈ imported ↔
            (event.catalog.official.matchValue? matchKey team key.id).isSome) ∧
          (imported.Pairwise fun left right => PlayOrder.before left right) ∧
          event.read key (Subject.ofTeam team) index =
            if imported = [] then .ok .missing
            else Value.list <$> imported.mapM fun matchKey =>
              event.read key (Subject.inMatch team matchKey) index := by
  have sound := reachable.sound
  refine ⟨?_, ?_, ?_, ?_, ?_⟩
  · intro key info resolved space played
    rw [mapM_eq_pure fun matchKey _ =>
        read_result resolved space (Subject.inMatch team matchKey) index,
      read_result resolved space, Snapshot.readResult_ofTeam _ played]
    rfl
  · intro stat member perMatch
    have found : event.environment.stats.find? stat.key = some stat :=
      StatSet.find?_of_mem sound.unique member
    refine ⟨?_, fun matchKey => ⟨_, read_stat sound member _ index, ?_⟩⟩
    · rw [mapM_eq_pure fun matchKey _ =>
          read_stat sound member (Subject.inMatch team matchKey) index,
        read_stat sound member, sound.answer_ofTeam found perMatch]
      rfl
    · exact Environment.settle_number (sound.settle_answers found perMatch rfl)
  · intro stat member once matchKey
    have found : event.environment.stats.find? stat.key = some stat :=
      StatSet.find?_of_mem sound.unique member
    rw [read_stat sound member, read_stat sound member, sound.answer_toTeam found once]
    rfl
  · intro key info resolved space pit matchKey
    rw [read_result resolved space, read_result resolved space]
    simp only [Snapshot.readResult, pit]
    rfl
  · intro key info resolved space absent
    have id : info.key.id = key.id := by
      rw [Catalog.key_of_resolve resolved, Key.base]
    refine ⟨event.catalog.official.matchesWith team key.id,
      event.catalog.official.matchesWith_nodup team key.id,
      fun _ => event.catalog.official.mem_matchesWith,
      event.catalog.official.matchesWith_sorted team key.id, ?_⟩
    rw [read_official resolved space, OfficialResults.read_ofTeam _ (by rwa [id]), id,
      mapM_eq_pure fun matchKey _ =>
        read_official resolved space (Subject.inMatch team matchKey) index]
    split
    · rfl
    · rfl

def rematch : Event :=
  let record (matchKey : String) (auto : Int) : Record :=
    ⟨7, some matchKey, none, .played, false, "", false, none, none, none,
      Dictionary.ofList [("auto", .integer auto)], none, none⟩
  ofInputs [record "a_qm1" 3, record "a_qm2" 4] small.config small.catalog.official
    Settings.standard

theorem rematch_reachable : rematch.Reachable := Reachable.ofInputs _ _ _ _

theorem matchKeys_rematch : rematch.snapshot.matchKeys 7 = ["a_qm1", "a_qm2"] :=
  Snapshot.matchKeys_eq_keys (by decide +kernel) (by decide +kernel)

theorem team_reads_rematch :
    (rematch.read (Key.result "auto") (Subject.ofTeam 7) none =
      Value.list <$> ["a_qm1", "a_qm2"].mapM fun matchKey =>
        rematch.read (Key.result "auto") (Subject.inMatch 7 matchKey) none) ∧
    (rematch.read (Key.smart "double") (Subject.ofTeam 7) none =
      Value.list <$> ["a_qm1", "a_qm2"].mapM fun matchKey =>
        rematch.read (Key.smart "double") (Subject.inMatch 7 matchKey) none) ∧
    rematch.read (Key.smart "place") (Subject.inMatch 7 "a_qm2") none =
      rematch.read (Key.smart "place") (Subject.ofTeam 7) none ∧
    rematch.read (Key.result "weight") (Subject.inMatch 7 "a_qm2") none =
      rematch.read (Key.result "weight") (Subject.ofTeam 7) none ∧
    ∃ imported : List String, "a_qm1" ∈ imported ∧
      rematch.read (Key.plain .official "points") (Subject.ofTeam 7) none =
        Value.list <$> imported.mapM fun matchKey =>
          rematch.read (Key.plain .official "points") (Subject.inMatch 7 matchKey) none := by
  obtain ⟨played, perMatch, once, pit, official⟩ := team_reads rematch_reachable 7 none
  obtain ⟨auto, knowsAuto, autoPlayed⟩ := toOption_map_eq_some.mp
    (show (rematch.catalog.resolve (Key.result "auto")).toOption.map KeyInfo.mode =
      some .played by decide +kernel)
  obtain ⟨weight, knowsWeight, weightPit⟩ := toOption_map_eq_some.mp
    (show (rematch.catalog.resolve (Key.result "weight")).toOption.map KeyInfo.mode =
      some .pit by decide +kernel)
  obtain ⟨points, knowsPoints, _⟩ := toOption_map_eq_some.mp
    (show (rematch.catalog.resolve (Key.plain .official "points")).toOption.map KeyInfo.mode =
      some .played by decide +kernel)
  have stats : rematch.stats.stats.map (fun stat => (stat.key, stat.isTeamScoped)) =
      [(Key.smart "double", false), (Key.smart "place", true)] := by
    decide +kernel
  have listed : ∀ entry ∈ [(Key.smart "double", false), (Key.smart "place", true)],
      ∃ stat ∈ rematch.stats.stats, (stat.key, stat.isTeamScoped) = entry := by
    rw [← stats]
    exact fun entry member => List.mem_map.mp member
  rw [matchKeys_rematch] at played perMatch
  refine ⟨played _ auto knowsAuto rfl autoPlayed, ?_, ?_,
    pit _ weight knowsWeight rfl weightPit "a_qm2", ?_⟩
  · obtain ⟨stat, member, same⟩ := listed (Key.smart "double", false) (by simp)
    obtain ⟨key, scope⟩ := Prod.mk.inj same
    exact key ▸ (perMatch stat member scope).1
  · obtain ⟨stat, member, same⟩ := listed (Key.smart "place", true) (by simp)
    obtain ⟨key, scope⟩ := Prod.mk.inj same
    exact key ▸ once stat member scope "a_qm2"
  · obtain ⟨imported, _, holds, _, reads⟩ := official _ points knowsPoints rfl (by decide +kernel)
    have member : "a_qm1" ∈ imported := (holds "a_qm1").mpr (by decide +kernel)
    rw [if_neg (List.ne_nil_of_mem member)] at reads
    exact ⟨imported, member, reads⟩

end Event

end Scouting

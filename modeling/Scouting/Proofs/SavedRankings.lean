import Scouting.Command
import Scouting.Proofs.CountingRecords
import Scouting.Proofs.KeyText
import Scouting.Proofs.Numerals
import Scouting.Proofs.RepeatedRanking
import Scouting.Proofs.Sessions

/-!
Rankings that are saved as picklists. Nothing is written before the ranking is made. A list that is
saved leaves the other lists as they were, and ranking the teams of that list later ranks exactly
the teams of the ranking, in its order.
-/

namespace Scouting

open Text

theorem Command.listedTeam?_toString {team : Nat} (below : team < bound32) :
    listedTeam? (toString team) = some team := by
  have numeral := isNumeral_toString team
  have noBlank : ∀ char ∈ (toString team).toList, isBlank char = false := by
    intro char member
    have code := numeral.code member
    exact Token.isBlank_eq_false (by omega)
  rw [listedTeam?, trim_of_no_blank noBlank, readNatural_numeral numeral below]

theorem exists_of_mem_mapM_some {α β : Type} {decode : α → Option β} {items : List α}
    {values : List β} (decodes : items.mapM decode = some values) {value : β}
    (member : value ∈ values) : ∃ item ∈ items, decode item = some value := by
  induction items generalizing values with
  | nil =>
      cases decodes
      cases member
  | cons first rest ih =>
      rw [List.mapM_cons] at decodes
      obtain ⟨head, isHead, decodes⟩ := Option.bind_eq_some_iff.mp decodes
      obtain ⟨others, areOthers, decodes⟩ := Option.bind_eq_some_iff.mp decodes
      cases decodes
      rcases List.mem_cons.mp member with rfl | later
      · exact ⟨first, List.mem_cons_self, isHead⟩
      · obtain ⟨item, inRest, decoded⟩ := ih areOthers later
        exact ⟨item, List.mem_cons_of_mem _ inRest, decoded⟩

theorem lt_of_required {members : List (String × Json)} {name : String} {team : Nat}
    (decodes : Json.required members name Subject.team? = some team) : team < bound32 := by
  obtain ⟨json, _, isTeam⟩ := Option.bind_eq_some_iff.mp decodes
  exact lt_of_natural? isTeam

namespace Record

theorem team_lt_of_ofJson? {json : Json} {record : Record} (decodes : ofJson? json = some record) :
    record.team < bound32 := by
  obtain ⟨members, _, decodes⟩ := Option.bind_eq_some_iff.mp decodes
  obtain ⟨team, isTeam, decodes⟩ := Option.bind_eq_some_iff.mp decodes
  iterate 12 obtain ⟨_, _, decodes⟩ := Option.bind_eq_some_iff.mp decodes
  cases decodes
  exact lt_of_required isTeam

theorem team_withMatchKey (record : Record) : record.withMatchKey.team = record.team := by
  rw [withMatchKey]
  split
  · rfl
  · rfl

theorem eq_of_checked {record checked : Record} (accepted : record.checked = .ok checked) :
    checked = record := by
  rw [Record.checked.eq_def] at accepted
  split at accepted
  · cases accepted
  · cases accepted
  · exact (Except.ok.inj accepted).symm

theorem team_lt {json : Json} {record : Record} (decodes : decode json = .ok record) :
    record.team < bound32 := by
  rw [decode] at decodes
  cases shaped : ofJson? json with
  | none =>
      rw [shaped] at decodes
      cases decodes
  | some written =>
      rw [shaped] at decodes
      rw [eq_of_checked decodes, team_withMatchKey]
      exact team_lt_of_ofJson? shaped

theorem team_lt_of_decodeAll {json : Json} {records : List Record}
    (decodes : decodeAll json = .ok records) : ∀ record ∈ records, record.team < bound32 := by
  obtain ⟨items, _, decodes⟩ := bind_eq_ok.mp decodes
  have kept : items.filterMap (fun item => (decode item).toOption) = records := by
    dsimp only at decodes
    split at decodes
    · cases decodes
    · exact pure_eq_ok.mp decodes
  intro record member
  obtain ⟨item, _, taken⟩ := List.mem_filterMap.mp (kept ▸ member)
  cases decoded : decode item with
  | error error =>
      rw [decoded] at taken
      cases taken
  | ok other =>
      rw [decoded] at taken
      cases taken
      exact team_lt decoded

end Record

theorem TeamInfo.number_lt {json : Json} {info : TeamInfo} (decodes : ofJson? json = some info) :
    info.number < bound32 := by
  obtain ⟨members, _, decodes⟩ := Option.bind_eq_some_iff.mp decodes
  obtain ⟨number, isTeam, decodes⟩ := Option.bind_eq_some_iff.mp decodes
  iterate 4 obtain ⟨_, _, decodes⟩ := Option.bind_eq_some_iff.mp decodes
  cases decodes
  exact lt_of_required isTeam

namespace Configuration

theorem number_lt_of_ofJson? {json : Json} {config : Configuration}
    (decodes : ofJson? json = some config) : ∀ info ∈ config.teams, info.number < bound32 := by
  obtain ⟨members, _, decodes⟩ := Option.bind_eq_some_iff.mp decodes
  iterate 3 obtain ⟨_, _, decodes⟩ := Option.bind_eq_some_iff.mp decodes
  obtain ⟨teams, areTeams, decodes⟩ := Option.bind_eq_some_iff.mp decodes
  cases decodes
  intro info member
  rw [Json.withDefault] at areTeams
  cases given : members.lookup "teams" with
  | none =>
      rw [given] at areTeams
      cases areTeams
      cases member
  | some json =>
      rw [given] at areTeams
      cases json with
      | array items =>
          obtain ⟨item, _, decoded⟩ := exists_of_mem_mapM_some areTeams member
          exact TeamInfo.number_lt decoded
      | null | bool | integer | float | text | object => cases areTeams

theorem number_lt_of_decode {json : Json} {config : Configuration}
    (decodes : decode json = .ok config) : ∀ info ∈ config.teams, info.number < bound32 := by
  rw [decode] at decodes
  cases shaped : ofJson? (partStats json).2 with
  | none =>
      simp only [shaped] at decodes
      cases decodes
  | some written =>
      simp only [shaped] at decodes
      obtain ⟨entries, _, decodes⟩ := bind_eq_ok.mp decodes
      cases pure_eq_ok.mp decodes
      intro info member
      exact number_lt_of_ofJson? shaped info member

end Configuration

theorem Event.team_lt {records : List Record} {config : Configuration}
    (recorded : ∀ record ∈ records, record.team < bound32)
    (configured : ∀ info ∈ config.teams, info.number < bound32) (official : OfficialResults)
    (settings : Settings) : ∀ team ∈ (ofInputs records config official settings).teams,
      team < bound32 := by
  intro team member
  rcases (Snapshot.mem_teams_ofStore _ _ team).mp member with
    inConfig | ⟨record, inRecords, _, names⟩
  · obtain ⟨info, listed, rfl⟩ := List.mem_map.mp inConfig
    exact configured info listed
  · have same : record.team = team := by
      simp only [Record.names, Bool.and_eq_true, beq_iff_eq] at names
      exact names.1
    exact same ▸ recorded record inRecords

theorem Ranking.mem_order {event : Event} {key : Key} {teams : List Nat}
    {function : Option AggregateFunction} {ranking : Ranking}
    (ranked : event.ranking key teams function = .ok ranking) :
    ∀ team ∈ ranking.order, team ∈ teams := by
  obtain ⟨negative, _, ranked⟩ := bind_eq_ok.mp ranked
  obtain ⟨values, _, ranked⟩ := bind_eq_ok.mp ranked
  cases ranked
  intro team member
  obtain ⟨entry, inEntries, rfl⟩ := List.mem_map.mp member
  have listed := (Ranking.arrange_perm _ _).mem_iff.mp inEntries
  rw [← List.map_uncurry_zip_eq_zipWith] at listed
  obtain ⟨pair, inPairs, rfl⟩ := List.mem_map.mp listed
  exact (List.of_mem_zip inPairs).1

namespace Command

open Session

/-- What a rank request comes to before anything is printed or written. -/
structure Prepared where
  event : Event
  picklists : Picklists
  key : Key
  teams : List Nat
  ranking : Ranking

def selectTeams (request : RankRequest) (event : Event) : Session (Picklists × List Nat) := do
  let picklists ← within ("Failed to read picklists from " ++ request.picklists)
    (readPicklists request.picklists)
  return (picklists, ← chooseTeams request event picklists)

def prepare (request : RankRequest) (select : Event → Session (Picklists × List Nat)) :
    Session Prepared := do
  checkRank request
  let event ← loadEvent request.sources
  let key ← within ("Cannot rank by '" ++ request.key ++ "'")
    (ofLookup (event.parseKey request.key))
  let (picklists, teams) ← select event
  let ranking ← ofLookup (event.ranking key teams request.function)
  return ⟨event, picklists, key, teams, ranking⟩

def present (request : RankRequest) (prepared : Prepared) : Session Unit := do
  print (Report.ranking prepared.event prepared.ranking request.top)
  savePicklist request prepared.picklists prepared.ranking
  writeRanking request prepared.ranking

theorem runRank_eq (request : RankRequest) :
    runRank request = prepare request (selectTeams request) >>= present request := by
  simp only [runRank, prepare, selectTeams, present, bind_assoc, pure_bind]

section
variable {request : RankRequest}

theorem quiet_checkRank : Quiet (checkRank request) := by
  refine Quiet.unless fun _ => Quiet.unless fun _ => Quiet.unless fun _ => ?_
  dsimp only
  split
  · exact quiet_fail _
  · exact quiet_pure ()

theorem quiet_loadRecords (path : String) : Quiet (loadRecords path) :=
  ((quiet_readJson path).bind fun _ => quiet_ofInput _).within _

theorem quiet_loadConfig (path : String) : Quiet (loadConfig path) :=
  ((quiet_readJson path).bind fun _ => quiet_ofInput _).within _

theorem quiet_loadOfficial (path : Option String) : Quiet (loadOfficial path) := by
  cases path with
  | none => exact quiet_pure OfficialResults.empty
  | some path => exact ((quiet_readJson path).bind fun _ => quiet_ofInput _).within _

theorem quiet_loadSettings (path : Option String) : Quiet (loadSettings path) := by
  cases path with
  | none => exact quiet_pure Settings.standard
  | some path => exact (quiet_readSettings path).within _

theorem quiet_loadEvent (sources : Sources) : Quiet (loadEvent sources) :=
  (quiet_loadRecords _).bind fun _ => (quiet_loadConfig _).bind fun _ =>
    (quiet_loadOfficial _).bind fun _ => (quiet_loadSettings _).bind fun _ => quiet_pure _

theorem quiet_chooseTeams (event : Event) (picklists : Picklists) :
    Quiet (chooseTeams request event picklists) := by
  rw [chooseTeams]
  split
  · split
    · exact quiet_pure _
    · exact quiet_fail _
  · exact quiet_pure _

theorem quiet_selectTeams (event : Event) : Quiet (selectTeams request event) :=
  ((quiet_readPicklists _).within _).bind fun picklists =>
    (quiet_chooseTeams event picklists).bind fun _ => quiet_pure _

theorem quiet_prepare {select : Event → Session (Picklists × List Nat)}
    (quiet : ∀ event, Quiet (select event)) : Quiet (prepare request select) :=
  quiet_checkRank.bind fun _ => (quiet_loadEvent _).bind fun event =>
    ((quiet_ofLookup _).within _).bind fun _ => (quiet event).bind fun _ =>
      (quiet_ofLookup _).bind fun _ => quiet_pure _

variable {folder : Folder}

theorem outcome_prepare_eq_ok {select : Event → Session (Picklists × List Nat)}
    (quiet : ∀ event, Quiet (select event)) {prepared : Prepared}
    (done : folder.outcome (prepare request select) = .ok prepared) :
    folder.outcome (loadEvent request.sources) = .ok prepared.event ∧
      folder.outcome (select prepared.event) = .ok (prepared.picklists, prepared.teams) ∧
      prepared.event.ranking prepared.key prepared.teams request.function =
        .ok prepared.ranking := by
  rw [prepare, outcome_bind folder quiet_checkRank] at done
  obtain ⟨_, _, done⟩ := bind_eq_ok.mp done
  rw [outcome_bind folder (quiet_loadEvent _)] at done
  obtain ⟨event, loaded, done⟩ := bind_eq_ok.mp done
  rw [outcome_bind folder ((quiet_ofLookup _).within _)] at done
  obtain ⟨key, _, done⟩ := bind_eq_ok.mp done
  rw [outcome_bind folder (quiet event)] at done
  obtain ⟨⟨picklists, teams⟩, selected, done⟩ := bind_eq_ok.mp done
  rw [outcome_bind folder (quiet_ofLookup _)] at done
  obtain ⟨ranking, ranked, done⟩ := bind_eq_ok.mp done
  cases done
  exact ⟨loaded, selected, outcome_ofLookup_eq_ok.mp ranked⟩

theorem team_lt_of_loadEvent {sources : Sources} {event : Event}
    (loaded : folder.outcome (loadEvent sources) = .ok event) :
    ∀ team ∈ event.teams, team < bound32 := by
  rw [loadEvent, outcome_bind folder (quiet_loadRecords _)] at loaded
  obtain ⟨records, recorded, loaded⟩ := bind_eq_ok.mp loaded
  rw [outcome_bind folder (quiet_loadConfig _)] at loaded
  obtain ⟨config, configured, loaded⟩ := bind_eq_ok.mp loaded
  rw [outcome_bind folder (quiet_loadOfficial _)] at loaded
  obtain ⟨official, _, loaded⟩ := bind_eq_ok.mp loaded
  rw [outcome_bind folder (quiet_loadSettings _)] at loaded
  obtain ⟨settings, _, loaded⟩ := bind_eq_ok.mp loaded
  cases loaded
  rw [loadRecords, outcome_within_eq_ok, outcome_bind folder (quiet_readJson _)] at recorded
  obtain ⟨_, _, recorded⟩ := bind_eq_ok.mp recorded
  rw [loadConfig, outcome_within_eq_ok, outcome_bind folder (quiet_readJson _)] at configured
  obtain ⟨_, _, configured⟩ := bind_eq_ok.mp configured
  exact Event.team_lt (Record.team_lt_of_decodeAll (outcome_ofInput_eq_ok.mp recorded))
    (Configuration.number_lt_of_decode (outcome_ofInput_eq_ok.mp configured)) official settings

theorem lt_of_listedTeam? {entry : String} {team : Nat} (listed : listedTeam? entry = some team) :
    team < bound32 :=
  (readNatural_eq_some_iff.mp listed).1

theorem outcome_selectTeams_eq_ok {event : Event} {picklists : Picklists} {teams : List Nat}
    (selected : folder.outcome (selectTeams request event) = .ok (picklists, teams)) :
    folder.outcome (readPicklists request.picklists) = .ok picklists ∧
      folder.outcome (chooseTeams request event picklists) = .ok teams := by
  rw [selectTeams, outcome_bind folder ((quiet_readPicklists _).within _)] at selected
  obtain ⟨read, isRead, selected⟩ := bind_eq_ok.mp selected
  rw [outcome_bind folder (quiet_chooseTeams event read)] at selected
  obtain ⟨chosen, isChosen, selected⟩ := bind_eq_ok.mp selected
  cases selected
  exact ⟨outcome_within_eq_ok.mp isRead, isChosen⟩

theorem team_lt_of_chooseTeams (numbers : ∀ team ∈ request.teams, team < bound32) {event : Event}
    (loaded : ∀ team ∈ event.teams, team < bound32) {picklists : Picklists} {teams : List Nat}
    (chosen : folder.outcome (chooseTeams request event picklists) = .ok teams) :
    ∀ team ∈ teams, team < bound32 := by
  rw [chooseTeams] at chosen
  split at chosen
  · split at chosen
    · cases chosen
      intro team member
      obtain ⟨entry, _, listed⟩ := List.mem_filterMap.mp member
      exact lt_of_listedTeam? listed
    · cases chosen
  · cases chosen
    split
    · exact loaded
    · exact numbers

theorem outcome_prepare_congr {select other : Event → Session (Picklists × List Nat)}
    (quiet : ∀ event, Quiet (select event)) (otherQuiet : ∀ event, Quiet (other event))
    (same : ∀ event, folder.outcome (select event) = folder.outcome (other event)) :
    folder.outcome (prepare request select) = folder.outcome (prepare request other) := by
  rw [prepare, prepare, outcome_bind folder quiet_checkRank, outcome_bind folder quiet_checkRank]
  refine bind_congr fun _ => ?_
  rw [outcome_bind folder (quiet_loadEvent _), outcome_bind folder (quiet_loadEvent _)]
  refine bind_congr fun event => ?_
  rw [outcome_bind folder ((quiet_ofLookup _).within _),
    outcome_bind folder ((quiet_ofLookup _).within _)]
  refine bind_congr fun key => ?_
  rw [outcome_bind folder (quiet event), outcome_bind folder (otherQuiet event), same event]

theorem outcome_selectTeams_saved {name : String} (fromList : request.fromList = some name)
    {picklists : Picklists}
    (read : folder.outcome (readPicklists request.picklists) = .ok picklists)
    {teams : List Nat} (numbers : ∀ team ∈ teams, team < bound32)
    (listed : picklists.get? name = some (teams.map toString)) (event : Event) :
    folder.outcome (selectTeams request event) = .ok (picklists, teams) := by
  have same : (teams.map toString).filterMap listedTeam? = teams := by
    rw [List.filterMap_map]
    refine (List.filterMap_congr fun team member => ?_).trans List.filterMap_some
    exact listedTeam?_toString (numbers team member)
  have chosen : folder.outcome (chooseTeams request event picklists) = .ok teams := by
    simp only [chooseTeams, fromList, listed, same]
    rfl
  rw [selectTeams, outcome_bind folder ((quiet_readPicklists _).within _),
    outcome_within_eq_ok.mpr read]
  change folder.outcome (chooseTeams request event picklists >>= fun teams =>
    pure (picklists, teams)) = _
  rw [outcome_bind folder (quiet_chooseTeams event picklists), chosen]
  rfl

theorem place_of_present {name : String} (save : request.save = some name)
    (elsewhere : ∀ path ∈ request.output, Folder.normal path ≠ Folder.normal request.picklists)
    {prepared : Prepared} {console after : Console}
    (done : (present request prepared).run.run console = (.ok (), after)) :
    after.folder.place request.picklists =
      .file (prepared.picklists.replace name prepared.ranking.toPicklist).toJson.pretty := by
  rw [present] at done
  obtain ⟨_, printed, _, done⟩ := run_bind_eq_ok done
  obtain ⟨_, saved, saves, done⟩ := run_bind_eq_ok done
  rw [savePicklist, save] at saves
  have stands := (writeJson_eq_ok (run_within_eq_ok.mp saves)).2
  rw [writeRanking] at done
  cases output : request.output with
  | none =>
      rw [output] at done
      cases done
      exact stands
  | some path =>
      rw [output] at done
      rw [(writeJson_eq_ok (run_within_eq_ok.mp done)).1]
      exact Folder.place_write_of_ne stands (elsewhere path output) _

end

/-- A ranking that is saved under a name binds that name in the picklists and nothing else, and a
later command that ranks the list of that name ranks the teams of the ranking in its order. A
command that fails before it has a ranking leaves the folder as it was. -/
theorem ranking_saved {request : RankRequest} (numbers : ∀ team ∈ request.teams, team < bound32)
    (folder : Folder) :
    runRank request = prepare request (selectTeams request) >>= present request ∧
    (∀ failure, folder.outcome (prepare request (selectTeams request)) = .error failure →
      runIn (.rank request) folder = (.error failure, ⟨folder, [], []⟩)) ∧
    ∀ name, request.save = some name →
      (∀ path ∈ request.output, Folder.normal path ≠ Folder.normal request.picklists) →
      ∀ console, runIn (.rank request) folder = (.ok (), console) →
        ∃ prepared before after,
          folder.outcome (prepare request (selectTeams request)) = .ok prepared ∧
          prepared.event.ranking prepared.key prepared.teams request.function =
            .ok prepared.ranking ∧
          folder.outcome (readPicklists request.picklists) = .ok before ∧
          ((∀ content, folder.place request.picklists ≠ .file content) →
            before = Picklists.empty) ∧
          console.folder.outcome (readPicklists request.picklists) = .ok after ∧
          (∀ other, after.get? other =
            if other = name then some (prepared.ranking.order.map toString)
            else before.get? other) ∧
          ∀ later, later.fromList = some name → later.picklists = request.picklists →
            runIn (.rank later) console.folder =
              ((prepare later fun _ => pure (after, prepared.ranking.order)) >>=
                present later).run.run ⟨console.folder, [], []⟩ := by
  have prepares : Quiet (prepare request (selectTeams request)) := quiet_prepare quiet_selectTeams
  refine ⟨runRank_eq request, fun failure failed => ?_,
    fun name save elsewhere console done => ?_⟩
  · rw [runIn, run, runRank_eq, run_bind, prepares.run, failed]
  · rw [runIn, run, runRank_eq] at done
    obtain ⟨prepared, between, ran, done⟩ := run_bind_eq_ok done
    rw [prepares.run] at ran
    obtain ⟨prepares, rfl⟩ := Prod.mk.inj ran
    obtain ⟨loaded, selected, ranked⟩ := outcome_prepare_eq_ok quiet_selectTeams prepares
    obtain ⟨read, chosen⟩ := outcome_selectTeams_eq_ok selected
    have stands := place_of_present save elsewhere done
    have reads : console.folder.outcome (readPicklists request.picklists) =
        .ok (prepared.picklists.replace name prepared.ranking.toPicklist) := by
      rw [outcome_readPicklists, stands]
      dsimp only
      rw [Picklists.read_pretty]
    refine ⟨prepared, prepared.picklists,
      prepared.picklists.replace name prepared.ranking.toPicklist, prepares, ranked, read,
      fun absent => ?_, reads, fun other => Picklists.get?_replace .., ?_⟩
    · rw [outcome_readPicklists] at read
      cases place : folder.place request.picklists with
      | file content => exact absurd place (absent content)
      | folder =>
          rw [place] at read
          cases read
      | absent | insideFile =>
          rw [place] at read
          exact (Except.ok.inj read).symm
    · intro later fromList path
      have below : ∀ team ∈ prepared.ranking.order, team < bound32 := by
        intro team member
        exact team_lt_of_chooseTeams numbers (team_lt_of_loadEvent loaded) chosen team
          (Ranking.mem_order ranked team member)
      rw [← path] at reads
      have listed := Picklists.get?_replace prepared.picklists name name prepared.ranking.toPicklist
      rw [if_pos rfl] at listed
      have constant : ∀ event : Event, Quiet (pure (prepared.picklists.replace name
          prepared.ranking.toPicklist, prepared.ranking.order) : Session (Picklists × List Nat)) :=
        fun _ => quiet_pure _
      rw [runIn, run, runRank_eq, run_bind, run_bind, (quiet_prepare quiet_selectTeams).run,
        (quiet_prepare constant).run, outcome_prepare_congr quiet_selectTeams constant]
      intro event
      exact outcome_selectTeams_saved fromList reads below listed event

theorem runIn_of_toBool {command : Command} {folder : Folder}
    (succeeds : (runIn command folder).1.toBool) :
    runIn command folder = (.ok (), (runIn command folder).2) := by
  rcases ran : runIn command folder with ⟨failure | value, console⟩
  · rw [ran] at succeeds
    cases succeeds
  · rfl

def firstPicks : RankRequest where
  sources := ⟨"records.json", "config.json", none, none⟩
  key := "result.auto"
  teams := [3, 7]
  fromList := none
  picklists := "picklists.json"
  save := some "first \"picks\""
  function := none
  top := none
  output := some "ranking.json"

def desk : Folder :=
  Folder.ofFiles
    [("records.json",
        "[\x7b\"team\": 7, \"match_key\": \"e_qm1\", \"fields\": \x7b\"auto\": 2\x7d\x7d]"),
      ("config.json",
        "\x7b\"fields\": [\x7b\"id\": \"auto\", \"name\": \"Auto\", \"type\": \"number\"\x7d]\x7d"),
      ("picklists.json", "\x7b\"kept\": [\"9\"]\x7d")]

theorem ranking_saved_first :
    (∀ team ∈ firstPicks.teams, team < bound32) ∧
    ∃ console prepared after, runIn (.rank firstPicks) desk = (.ok (), console) ∧
      desk.outcome (prepare firstPicks (selectTeams firstPicks)) = .ok prepared ∧
      prepared.ranking.order = [7, 3] ∧
      console.folder.outcome (readPicklists "picklists.json") = .ok after ∧
      after.get? "first \"picks\"" = some ["7", "3"] ∧ after.get? "kept" = some ["9"] := by
  have numbers : ∀ team ∈ firstPicks.teams, team < bound32 := by
    decide
  have done := runIn_of_toBool (by decide +kernel : (runIn (.rank firstPicks) desk).1.toBool)
  have elsewhere : ∀ path ∈ firstPicks.output,
      Folder.normal path ≠ Folder.normal firstPicks.picklists := by
    decide +kernel
  have order : (desk.outcome (prepare firstPicks (selectTeams firstPicks))).toOption.map
      (·.ranking.order) = some [7, 3] := by
    decide +kernel
  have kept : (desk.outcome (readPicklists "picklists.json")).toOption.bind (·.get? "kept") =
      some ["9"] := by
    decide +kernel
  have different : "kept" ≠ "first \"picks\"" := by
    decide +kernel
  have texts : [7, 3].map toString = ["7", "3"] := by
    decide +kernel
  obtain ⟨prepared, before, after, prepares, _, read, _, reads, bound, _⟩ :=
    (ranking_saved numbers desk).2.2 "first \"picks\"" rfl elsewhere _ done
  rw [prepares] at order
  have same : prepared.ranking.order = [7, 3] := Option.some.inj order
  refine ⟨numbers, _, prepared, after, done, prepares, same, reads, ?_, ?_⟩
  · rw [bound, if_pos rfl, same, texts]
  · have held : desk.outcome (readPicklists "picklists.json") = .ok before := read
    rw [held] at kept
    rw [bound, if_neg different]
    exact kept

end Command

end Scouting

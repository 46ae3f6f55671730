import Scouting.Proofs.LookAlikes
import Scouting.Proofs.Polarity
import Scouting.Proofs.RankingOrder

/-!
Turning the polarity of a key turns its ranking round and does nothing else to it. A weighted rank
does look at polarities, but only at those of what it reads, and no stat reads itself: what a key
comes to is found without ever asking for its own polarity.
-/

namespace Scouting

theorem StatSet.find?_sameBut {key : Key} {left right : StatSet}
    (same : List.Forall₂ (Stat.SameBut key) left.stats right.stats) (sought : Key) :
    Option.Rel (Stat.SameBut key) (left.find? sought) (right.find? sought) := by
  obtain ⟨stats⟩ := left
  obtain ⟨others⟩ := right
  dsimp only at same
  simp only [StatSet.find?]
  induction same with
  | nil => exact .none
  | cons first _ ih =>
      rw [List.find?_cons, List.find?_cons, first.key_eq]
      split
      · exact .some first
      · exact ih

namespace WeightedTerm

theorem eq_of_sameBut {key : Key} {terms others : List WeightedTerm}
    (same : List.Forall₂ (WeightedTerm.SameBut key) terms others)
    (unread : ∀ term ∈ terms, term.key.base ≠ key) : others = terms := by
  induction same with
  | nil => rfl
  | cons first _ ih =>
      have head := first.resolve_right fun turned => unread _ List.mem_cons_self turned.1
      rw [head, ih fun term member => unread term (List.mem_cons_of_mem _ member)]

end WeightedTerm

namespace Plan

theorem meets_sameBut {key : Key} {conditions others : List (KeyInfo × Float)}
    (same : List.Forall₂ (SameCondition key) conditions others) :
    meets others = meets conditions := by
  funext entry
  induction same with
  | nil => rfl
  | cons first _ ih =>
      have observed := first.1.congr (KeyInfo.observeEntry · entry) fun _ _ => rfl
      simp only [meets, List.all_cons] at ih ⊢
      rw [ih, first.2, observed]

theorem amount_sameBut {key : Key} {input other : Option KeyInfo}
    (same : Option.Rel (KeyInfo.SameBut key) input other) : amount other = amount input := by
  cases same with
  | none => rfl
  | some infos =>
      have observed := infos.congr entryNumber fun _ _ => rfl
      funext entries
      simp only [amount, observed]

end Plan

namespace Environment

variable {σ : Type} {key : Key}

theorem runRepetitions_sameBut (environment : Environment) (source : Source σ) (cycle : Key)
    {conditions others : List (KeyInfo × Float)}
    {sum otherSum denominator otherDenominator : Option KeyInfo}
    (same : List.Forall₂ (Plan.SameCondition key) conditions others)
    (sums : Option.Rel (KeyInfo.SameBut key) sum otherSum)
    (denominators : Option.Rel (KeyInfo.SameBut key) denominator otherDenominator) :
    environment.runRepetitions source cycle others otherSum otherDenominator =
      environment.runRepetitions source cycle conditions sum denominator := by
  funext subject
  cases denominators with
  | none =>
      simp only [runRepetitions, Plan.meets_sameBut same, Plan.amount_sameBut sums]
  | some infos =>
      simp only [runRepetitions, Plan.meets_sameBut same, Plan.amount_sameBut sums,
        Plan.amount_sameBut (.some infos), infos.key_eq]

theorem run_sameBut (environment : Environment) (source : Source σ) {stat other : Stat}
    (same : stat.SameBut key other) (unread : ∀ read ∈ stat.plan.keys, read.base ≠ key) :
    environment.run source other = environment.run source stat := by
  obtain ⟨definition, plan⟩ := stat
  obtain ⟨otherDefinition, otherPlan⟩ := other
  have function : otherDefinition.function = definition.function := same.function_eq
  obtain ⟨_, plans⟩ := same
  funext subject
  cases plans with
  | refl => simp only [run, function]
  | weightedRank terms =>
      have terms := WeightedTerm.eq_of_sameBut terms fun term member =>
        unread term.key (List.mem_map_of_mem member)
      simp only [run, terms]
  | repetitions cycle conditions sum denominator =>
      simp only [run, runRepetitions_sameBut environment source cycle conditions sum denominator]

theorem compute_sameBut (environment : Environment) (source : Source σ) {stat other : Stat}
    (same : stat.SameBut key other) (unread : ∀ read ∈ stat.plan.keys, read.base ≠ key) :
    environment.compute source other = environment.compute source stat := by
  have settled : environment.settle source other = environment.settle source stat := by
    funext subject
    rw [settle, settle, run_sameBut environment source same unread]
  funext subject
  rw [compute, compute, same.isTeamScoped_eq, settled]

/-- Are two environments the same, but for the polarity of one key? -/
structure SameBut (key : Key) (left right : Environment) : Prop where
  stats : List.Forall₂ (Stat.SameBut key) left.stats.stats right.stats.stats
  snapshot : right.snapshot = left.snapshot
  catalog : left.catalog.SameBut key right.catalog
  fallback : right.fallback = left.fallback

namespace SameBut

variable {left right : Environment} (same : left.SameBut key right)
include same

theorem defaultFunction_eq (sought : Key) :
    left.defaultFunction sought = right.defaultFunction sought := by
  have stats := StatSet.find?_sameBut same.stats sought
  rw [defaultFunction, defaultFunction, same.fallback]
  generalize left.stats.find? sought = stat at stats ⊢
  generalize right.stats.find? sought = other at stats ⊢
  cases stats with
  | none => rfl
  | some stats => rw [Option.bind_some, Option.bind_some, stats.function_eq]

theorem exists_stat {sought : Key} {stat : Stat} (found : left.stats.find? sought = some stat) :
    ∃ other, right.stats.find? sought = some other ∧ stat.SameBut key other := by
  have stats := StatSet.find?_sameBut same.stats sought
  rw [found] at stats
  generalize right.stats.find? sought = other at stats ⊢
  cases stats with
  | some stats => exact ⟨_, rfl, stats⟩

theorem aggregate_eq (sought : Key) (values : List Value) (function : AggregateFunction) :
    (left.catalog.aggregate sought values function : Run σ Aggregate) =
      right.catalog.aggregate sought values function := by
  have infos := same.catalog.resolve sought
  rw [Catalog.aggregate, Catalog.aggregate]
  generalize left.catalog.resolve sought = info at infos ⊢
  generalize right.catalog.resolve sought = other at infos ⊢
  cases infos with
  | error => rfl
  | ok infos => simp only [ofExcept, pure_bind, infos.2.valueKind_eq]

theorem readOfficial_eq (info : KeyInfo) (subject : Subject) :
    left.catalog.official.read info subject = right.catalog.official.read info subject := by
  simp only [OfficialResults.read, OfficialResults.teamValue?, OfficialResults.matchValue?,
    OfficialResults.matchValues, same.catalog.perTeam, same.catalog.perMatch]

theorem read_eq {sought : Key} {subject : Subject}
    (smart : sought.space = .smart → left.catalog.Knows sought →
      left.answer sought.base subject = right.answer sought.base subject) (index : Option Nat) :
    left.catalog.read left.snapshot left.answers sought subject index =
      right.catalog.read right.snapshot right.answers sought subject index := by
  rw [Catalog.read, Catalog.read, same.snapshot]
  cases resolved : left.catalog.resolve sought with
  | error failure =>
      rw [same.catalog.resolve_eq_error resolved]
      rfl
  | ok info =>
      obtain ⟨other, alsoResolved, infos⟩ := same.catalog.exists_resolved resolved
      simp only [alsoResolved, ofExcept, pure_bind]
      cases space : sought.space with
      | result =>
          exact congrArg pure (infos.congr
            (left.snapshot.readResult · subject index) fun _ _ => rfl).symm
      | official =>
          rw [same.readOfficial_eq]
          exact congrArg pure (infos.congr
            (right.catalog.official.read · subject) fun _ _ => rfl).symm
      | identity => rfl
      | smart => exact congrArg pure (smart space ⟨info, resolved⟩)

theorem aligned {stat : Stat}
    (answers : ∀ read ∈ stat.dependencies, ∀ subject,
      left.answer read subject = right.answer read subject) :
    Aligned Eq (fun _ => True) Eq left right left.answers right.answers stat.plan.keys where
  observed := by
    rintro read inPlan subject _ rfl
    have reads := same.read_eq (fun smart _ =>
      answers read.base (Stat.base_mem_dependencies inPlan smart) subject) none
    rw [observe, reads]
    exact Agree.same _
  aggregated := by
    intro read _ values function
    rw [same.aggregate_eq]
    exact Agree.same _
  functions := fun read _ => same.defaultFunction_eq read
  fallback := same.fallback.symm
  team := by
    rintro subject _ rfl
    rfl
  isMatch := by
    rintro subject _ rfl
    rfl
  played := by
    rintro subject _ rfl
    rw [same.snapshot]
    exact List.forall₂_same.mpr fun _ _ => rfl

theorem answer_eq (sound : left.Sound) (also : right.Sound) (isSmart : key.space = .smart)
    {rank : Key → Nat} (ranked : ∀ stat ∈ left.stats.stats, ∀ read ∈ stat.dependencies,
      rank read < rank stat.key) {sought : Key} {stat : Stat}
    (found : left.stats.find? sought = some stat) (below : rank stat.key ≤ rank key)
    (subject : Subject) : left.answer sought subject = right.answer sought subject := by
  induction height : rank stat.key using Nat.strongRecOn generalizing sought stat subject with
  | ind height ih =>
      subst height
      have member := List.mem_of_find?_eq_some found
      have answers : ∀ read ∈ stat.dependencies, ∀ subject,
          left.answer read subject = right.answer read subject := by
        intro read dependency subject
        have lower := ranked stat member read dependency
        obtain ⟨_, readFound, rfl⟩ := sound.dependency member dependency
        exact ih _ lower readFound (Nat.le_trans (Nat.le_of_lt lower) below) subject rfl
      have unread : ∀ read ∈ stat.plan.keys, read.base ≠ key := by
        rintro read inPlan rfl
        have smart : read.space = .smart := isSmart
        have dependency := Stat.base_mem_dependencies inPlan smart
        exact Nat.not_lt.mpr below (ranked stat member read.base dependency)
      have everyone : ∀ terms, stat.plan = .weightedRank terms →
          AlignedTeams Eq left right :=
        fun _ _ => ⟨congrArg Snapshot.teams same.snapshot.symm, fun _ => rfl⟩
      have computed := ((same.aligned answers).compute (.inl (sound.grounded stat member).bound) everyone
        (rfl : subject = subject) rfl).eq
      obtain ⟨other, alsoFound, stats⟩ := same.exists_stat found
      refine pure_injective ?_
      rw [← sound.compute_answers found, computed, ← also.compute_answers alsoFound,
        compute_sameBut right _ stats unread]

end SameBut

end Environment

namespace Event

section
variable {left right : Event} {key : Key}
  (same : left.environment.SameBut key.base right.environment)
  (sound : left.environment.Sound) (also : right.environment.Sound)
include same sound also

theorem read_eq_of_polarity (subject : Subject) (index : Option Nat) :
    left.read key subject index = right.read key subject index := by
  have smart (space : key.space = .smart) (known : left.catalog.Knows key) :
      left.environment.answer key.base subject = right.environment.answer key.base subject := by
    obtain ⟨stat, found⟩ := sound.present key space known
    obtain ⟨rank, ranked⟩ := sound.ranked
    have keyed : stat.key = key.base := by simpa using List.find?_some found
    have base : left.environment.stats.find? key.base = some stat := found
    exact same.answer_eq sound also space ranked base (Nat.le_of_eq (congrArg rank keyed)) subject
  rw [read_answers sound, read_answers also]
  exact congrArg (fun run : Run Unit Value => (run.run.run ()).1) (same.read_eq smart index)

theorem teamStats_eq_of_polarity (teams : List Nat) (function : Option AggregateFunction) :
    right.teamStats key teams function = left.teamStats key teams function := by
  cases resolved : left.catalog.resolve key with
  | error failure =>
      have alsoUnknown : right.catalog.resolve key = .error failure :=
        same.catalog.resolve_eq_error resolved
      rw [teamStats_refused resolved, teamStats_refused alsoUnknown]
  | ok info =>
      obtain ⟨other, alsoResolved, infos⟩ := same.catalog.exists_resolved resolved
      obtain ⟨reading, read⟩ := exists_reading sound ⟨info, resolved⟩ none
      obtain ⟨otherReading, otherRead⟩ := exists_reading also ⟨other, alsoResolved⟩ none
      have functions : left.defaultFunction key = right.defaultFunction key :=
        same.defaultFunction_eq key
      rw [teamStats_eq resolved fun subject => (read subject).2,
        teamStats_eq alsoResolved fun subject => (otherRead subject).2, functions]
      refine congrArg Except.ok (List.map_congr_left fun team _ => ?_)
      have readings := read_eq_of_polarity same sound also (Subject.ofTeam team) none
      rw [(read _).1, (otherRead _).1] at readings
      rw [Except.ok.inj readings]
      exact infos.congr (KeyInfo.pool · key _ _) fun _ _ => rfl

theorem ranking_of_polarity {info other : KeyInfo} (resolved : left.catalog.resolve key = .ok info)
    (alsoResolved : right.catalog.resolve key = .ok other)
    (lower : info.isNegative key.option = false) (turned : other.isNegative key.option = true)
    (teams : List Nat) (function : Option AggregateFunction) :
    ∃ (ranking : Ranking) (valued rest : List RankedTeam),
      left.ranking key teams function = .ok ranking ∧ ranking.entries = valued ++ rest ∧
      (∀ entry ∈ valued, entry.value.reading.isSome) ∧
      (∀ entry ∈ rest, entry.value.reading = none) ∧
      right.ranking key teams function =
        .ok { ranking with negative := true, entries := valued.reverse ++ rest } := by
  have functions : left.defaultFunction key = right.defaultFunction key :=
    same.defaultFunction_eq key
  obtain ⟨reading, read⟩ := exists_reading sound ⟨info, resolved⟩ none
  have found := teamStats_eq resolved (fun subject => (read subject).2) teams
    (some (function.getD (left.defaultFunction key)))
  have alsoFound := (teamStats_eq_of_polarity same sound also teams _).trans found
  rw [functions] at alsoFound
  have ranked := ranking_entries resolved found
  have alsoRanked := ranking_entries alsoResolved alsoFound
  rw [lower] at ranked
  rw [turned, ← functions] at alsoRanked
  exact ⟨_, _, _, ranked, rfl, fun _ member => (Ranking.mem_valued.mp member).2,
    fun _ member => (Ranking.mem_unvalued.mp member).2, alsoRanked⟩

end

theorem environment_sameBut {key : Key} {config other : Configuration}
    {official results : OfficialResults} (configs : config.SameBut key other)
    (imports : official.SameBut key results) (records : List Record) (settings : Settings) :
    (ofInputs records config official settings).environment.SameBut key
      (ofInputs records other results settings).environment := by
  have validations := Validation.ofDefinitions_sameBut configs.definitions
    (Catalog.ofFields_sameBut configs.fields imports)
  refine ⟨?_, ?_, validations.catalog, rfl⟩
  · simp only [environment, ofInputs, StatSet.stats_ofList (Validation.stats_nodup _ _)]
    exact validations.stats
  · simp only [environment, ofInputs, configs.teams]

/-- The polarity of a key only turns its ranking round. In the events of inputs that are the same
but for the polarity of one key, the same stats are excluded for the same reasons, the key is known
in both or in neither, and it comes to the same for all teams. Where lower values are better, it
ranks the teams that have a value in reverse, and the teams that have none as before. -/
theorem ranking_reversed (key : Key) {config other : Configuration}
    {official results : OfficialResults} (configs : config.SameBut key.base other)
    (imports : official.SameBut key.base results) (records : List Record) (settings : Settings) :
    let event := ofInputs records config official settings
    let turned := ofInputs records other results settings
    turned.exclusions = event.exclusions ∧
    (turned.catalog.Knows key ↔ event.catalog.Knows key) ∧
    (∀ teams function, turned.teamStats key teams function = event.teamStats key teams function) ∧
    (event.isNegative key = .ok false → turned.isNegative key = .ok true → ∀ teams function,
      ∃ (ranking : Ranking) (valued rest : List RankedTeam),
        event.ranking key teams function = .ok ranking ∧ ranking.entries = valued ++ rest ∧
        (∀ entry ∈ valued, entry.value.reading.isSome) ∧
        (∀ entry ∈ rest, entry.value.reading = none) ∧
        turned.ranking key teams function =
          .ok { ranking with negative := true, entries := valued.reverse ++ rest }) := by
  intro event turned
  have same := environment_sameBut configs imports records settings
  have sound : event.environment.Sound := sound_ofInputs records config official settings
  have also : turned.environment.Sound := sound_ofInputs records other results settings
  have validations := Validation.ofDefinitions_sameBut configs.definitions
    (Catalog.ofFields_sameBut configs.fields imports)
  refine ⟨?_, same.catalog.knows_iff key, teamStats_eq_of_polarity same sound also,
    fun lower higher teams function => ?_⟩
  · exact congrArg₂ (· ++ ·) (by rw [undecoded, undecoded, configs.rejected])
      validations.exclusions
  · simp only [isNegative, bind_eq_ok, pure_eq_ok] at lower higher
    obtain ⟨info, resolved, lower⟩ := lower
    obtain ⟨turnedInfo, alsoResolved, higher⟩ := higher
    exact ranking_of_polarity same sound also resolved alsoResolved lower higher teams function

def doubled (negative : Bool) : Configuration :=
  { Configuration.empty with
    fields := [⟨"time", "time", .counter, .played, [], none, .uniform false, none⟩]
    definitions :=
      [⟨"double", "", .sum ["time", "time"], negative, false, none⟩,
        ⟨"place", "", .weightedRank [⟨"double", 1.0⟩], false, false, none⟩] }

theorem doubled_sameBut :
    (doubled false).SameBut (Key.smart "double").base (doubled true) where
  fields := .cons (.refl _) .nil
  definitions := .cons (Or.inr ⟨rfl, true, rfl⟩) (.cons (Or.inl rfl) .nil)
  rejected := rfl
  teams := rfl

theorem ranking_reversed_doubled :
    let record (team : Nat) (value : Int) : Record :=
      ⟨team, some "a_qm1", none, .played, false, "", false, none, none, none,
        Dictionary.ofList [("time", .integer value)], none, none⟩
    let event := ofInputs [record 1 5, record 2 9] (doubled false) OfficialResults.empty
      Settings.standard
    let turned := ofInputs [record 1 5, record 2 9] (doubled true) OfficialResults.empty
      Settings.standard
    turned.exclusions = event.exclusions ∧ turned.catalog.Knows (Key.smart "double") ∧
    turned.teamStats (Key.smart "double") [1, 2, 3] none =
      event.teamStats (Key.smart "double") [1, 2, 3] none ∧
    ∃ (ranking : Ranking) (valued rest : List RankedTeam),
      event.ranking (Key.smart "double") [1, 2, 3] none = .ok ranking ∧
      ranking.entries = valued ++ rest ∧
      turned.ranking (Key.smart "double") [1, 2, 3] none =
        .ok { ranking with negative := true, entries := valued.reverse ++ rest } := by
  intro record event turned
  have lower : event.isNegative (Key.smart "double") = .ok false := by decide +kernel
  have higher : turned.isNegative (Key.smart "double") = .ok true := by decide +kernel
  obtain ⟨excluded, _, stats, ranked⟩ := ranking_reversed (Key.smart "double") doubled_sameBut
    (.refl _ OfficialResults.empty) [record 1 5, record 2 9] Settings.standard
  obtain ⟨info, resolved, _⟩ := bind_eq_ok.mp higher
  obtain ⟨ranking, valued, rest, found, entries, _, _, also⟩ := ranked lower higher [1, 2, 3] none
  exact ⟨excluded, ⟨info, resolved⟩, stats [1, 2, 3] none, ranking, valued, rest, found, entries,
    also⟩

end Event

end Scouting

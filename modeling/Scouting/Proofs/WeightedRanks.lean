import Scouting.Proofs.ExactStandings
import Scouting.Proofs.Magnitudes
import Scouting.Proofs.NarrowedKeys

/-!
Weighted ranks of teams. A team has a score among the teams of the event if it has a number for
every term and some weight counts. Where arithmetic is exact, the score lies between minus one and
one, and teams that are at least as good in every term score at least as high.
-/

namespace Scouting

theorem Misses.mapM_of_mem {σ α ι : Type} {action : ι → Run σ α} {items : List ι}
    (each : ∀ item ∈ items, Misses (action item) ∨ ∃ value, action item = pure value) {item : ι}
    (member : item ∈ items) (misses : Misses (action item)) : Misses (items.mapM action) := by
  induction items with
  | nil => cases member
  | cons first rest ih =>
      rw [List.mapM_cons]
      rcases List.mem_cons.mp member with rfl | inRest
      · exact misses.bind _
      rcases each first List.mem_cons_self with fails | ⟨value, comes⟩
      · exact fails.bind _
      · rw [comes, pure_bind]
        exact (ih (fun other listed => each other (List.mem_cons_of_mem _ listed)) inRest).bind _

theorem Catalog.isNegative_of_weightedRank {catalog : Catalog} {operator : Operator}
    {terms : List WeightedTerm} (found : catalog.plan operator = .ok (.weightedRank terms))
    {term : WeightedTerm} (listed : term ∈ terms) :
    ∃ info, catalog.resolve term.key = .ok info ∧
      info.isNegative term.key.option = term.negative := by
  have kind := kind_of_plan found
  cases operator with
  | weightedRank references =>
      simp only [plan, weightedRankPlan] at found
      split at found
      · cases found
      · simp only [bind_eq_ok, pure_eq_ok, Plan.weightedRank.injEq] at found
        obtain ⟨compiled, referred, rfl⟩ := found
        obtain ⟨reference, _, termFound⟩ := exists_of_mem_mapM referred listed
        simp only [weightedTerm, bind_eq_ok, pure_eq_ok] at termFound
        obtain ⟨key, _, info, resolved, rfl⟩ := termFound
        exact ⟨info, asReference_eq_ok.mp resolved, rfl⟩
  | _ => cases kind

namespace Standing

theorem map_id (standing : Standing Float) : standing.map id = standing := by
  rw [map, List.map_id]
  rfl

end Standing

namespace Event

variable (event : Event)

/-- The number that a key comes to for a team, by the function that the key is aggregated with. -/
def scalar? (key : Key) (team : Nat) : Option Float :=
  (event.stat key (some (Subject.ofTeam team)) none).toOption.bind Aggregate.reading

def Stands (team : Nat) (term : WeightedTerm) : Prop :=
  team ∈ event.teams ∧ (event.scalar? term.key team).isSome

instance (team : Nat) (term : WeightedTerm) : Decidable (event.Stands team term) :=
  inferInstanceAs (Decidable (_ ∧ _))

/-- Where a team stands in a term, among all teams that have a number for it. -/
def standing (team : Nat) (term : WeightedTerm) : Standing Float where
  own := (event.scalar? term.key team).getD 0.0
  all := event.teams.filterMap (event.scalar? term.key)
  weight := term.weight
  negative := term.negative

variable {α : Type} [LT α] [DecidableLT α] [BEq α] [OfNat α 0] [OfNat α 1] [Add α] [Sub α] [Mul α]
  [Div α] [Neg α]

/-- The weighted mean of where a team stands, in the arithmetic of the numbers as which doubles are
read. -/
def score (read : Float → α) (terms : List WeightedTerm) (team : Nat) : Option α :=
  if ∀ term ∈ terms, event.Stands team term then
    Standing.mean (terms.map fun term => (event.standing team term).map read)
  else none

variable {event} {terms : List WeightedTerm} {team : Nat} {read : Float → α}

theorem mean_of_score {found : α} (scored : event.score read terms team = some found) :
    (∀ term ∈ terms, event.Stands team term) ∧
      Standing.mean (terms.map fun term => (event.standing team term).map read) = some found :=
  Option.ite_none_right_eq_some.mp scored

theorem score_tied {other : Nat} {found otherFound : α}
    (scored : event.score read terms team = some found)
    (otherScored : event.score read terms other = some otherFound)
    (tied : ∀ term ∈ terms,
      read (event.standing team term).own = read (event.standing other term).own) :
    found = otherFound := by
  have same : (terms.map fun term => (event.standing team term).map read) =
      terms.map fun term => (event.standing other term).map read := by
    refine List.map_congr_left fun term listed => ?_
    simp only [Standing.map, tied term listed]
    rfl
  have mean := (mean_of_score scored).2
  rw [same, (mean_of_score otherScored).2] at mean
  exact (Option.some.inj mean).symm

theorem score_eq_none_iff {Weightless : WeightedTerm → Prop}
    (weightless : Standing.mean (terms.map fun term => (event.standing team term).map read) = none ↔
      ∀ term ∈ terms, Weightless term) :
    event.score read terms team = none ↔ team ∉ event.teams ∨
      (∃ term ∈ terms, event.scalar? term.key team = none) ∨ ∀ term ∈ terms, Weightless term := by
  rw [score]
  split
  · rename_i stands
    rw [weightless]
    constructor
    · exact fun all => Or.inr (Or.inr all)
    · rintro (outside | ⟨term, listed, none⟩ | all)
      · exact fun term listed => absurd (stands term listed).1 outside
      · exact absurd (stands term listed).2 (by simp [none])
      · exact all
  · rename_i lacking
    obtain ⟨term, listed, lacks⟩ : ∃ term ∈ terms, ¬event.Stands team term := by
      simpa using lacking
    refine iff_of_true rfl ?_
    rcases not_and_or.mp lacks with outside | none
    · exact Or.inl outside
    · exact Or.inr (Or.inl ⟨term, listed, by simpa using none⟩)

theorem own_mem_all {term : WeightedTerm} (stands : event.Stands team term) :
    (event.standing team term).own ∈ (event.standing team term).all := by
  obtain ⟨inEvent, comes⟩ := stands
  obtain ⟨number, own⟩ := Option.isSome_iff_exists.mp comes
  simp only [standing, own, Option.getD_some]
  exact List.mem_filterMap.mpr ⟨team, inEvent, own⟩

section
variable (sound : event.environment.Sound)
include sound

theorem scalar_cases {key : Key} (known : event.catalog.Knows key) (team : Nat) :
    (∃ number, event.scalar? key team = some number ∧
      event.environment.scalar event.environment.answers key (Subject.ofTeam team) =
        pure number) ∨
    event.scalar? key team = none ∧
      Misses (event.environment.scalar event.environment.answers key (Subject.ofTeam team)) := by
  obtain ⟨reading, read⟩ := exists_reading sound known none
  obtain ⟨info, resolved⟩ := known
  have aggregated := stat_eq resolved (fun subject => (read subject).2)
    (some (Subject.ofTeam team)) none
  have observed := observe_of_read sound (read (Subject.ofTeam team)).1
  have catalog : event.environment.catalog.resolve key = .ok info := resolved
  rw [scalar?, aggregated, Environment.scalar, Environment.scalarWith, observed, pure_bind,
    Catalog.aggregate_eq catalog, pure_bind]
  simp only [Except.toOption, Option.bind_some, pooled, List.map_cons, List.map_nil,
    Option.getD_none, defaultFunction]
  cases (info.pool key [reading (Subject.ofTeam team)]
    (event.environment.defaultFunction key)).reading with
  | some number => exact Or.inl ⟨number, rfl, rfl⟩
  | none => exact Or.inr ⟨rfl, Misses.throw _⟩

theorem standing_cases {term : WeightedTerm} (known : event.catalog.Knows term.key) (team : Nat) :
    (event.Stands team term ∧ event.environment.standing event.environment.answers team term =
      pure (event.standing team term)) ∨
    ¬event.Stands team term ∧
      Misses (event.environment.standing event.environment.answers team term) := by
  have readings : ∀ other : Nat, Environment.orNone (event.environment.scalar
      event.environment.answers term.key (Subject.ofTeam other)) =
        pure (event.scalar? term.key other) := by
    intro other
    rcases scalar_cases sound known other with ⟨number, same, comes⟩ | ⟨same, misses⟩
    · rw [same, comes]
      rfl
    · rw [same, misses.orNone]
  have found := Environment.standing_eq readings team
  split at found
  · rename_i number own
    obtain ⟨inEvent, own⟩ := Option.ite_none_right_eq_some.mp own
    refine Or.inl ⟨⟨inEvent, by rw [own]; rfl⟩, ?_⟩
    rw [found, standing, own]
    rfl
  · rename_i none
    refine Or.inr ⟨?_, found ▸ Misses.throw _⟩
    rintro ⟨inEvent, comes⟩
    change (if team ∈ event.teams then _ else _) = _ at none
    rw [if_pos inEvent] at none
    simp [none] at comes

theorem orNone_runWeightedRank (known : ∀ term ∈ terms, event.catalog.Knows term.key)
    (team : Nat) :
    Environment.orNone
        (event.environment.runWeightedRank event.environment.answers terms team) =
      pure (event.score id terms team) := by
  rw [score, Environment.runWeightedRank]
  by_cases stands : ∀ term ∈ terms, event.Stands team term
  · have all : terms.mapM (event.environment.standing event.environment.answers team) =
        pure (terms.map (event.standing team)) :=
      mapM_eq_pure fun term listed => ((standing_cases sound (known term listed) team).resolve_right
        fun lacks => lacks.1 (stands term listed)).2
    rw [if_pos stands, all]
    simp only [pure_bind, Standing.map_id]
    cases Standing.mean (terms.map (event.standing team)) with
    | some number => rfl
    | none => rfl
  · rw [if_neg stands]
    obtain ⟨term, listed, lacks⟩ : ∃ term ∈ terms, ¬event.Stands team term := by simpa using stands
    have misses := ((standing_cases sound (known term listed) team).resolve_left
      fun stands => lacks stands.1).2
    refine (Misses.bind (Misses.mapM_of_mem (fun other listed => ?_) listed misses) _).orNone
    rcases standing_cases sound (known other listed) team with ⟨_, comes⟩ | ⟨_, fails⟩
    · exact Or.inr ⟨_, comes⟩
    · exact Or.inl fails

end

section
variable {K : Type} [Field K] [LinearOrder K] [IsStrictOrderedRing K] {value : Float → K}

theorem score_bounds {found : K} (scored : event.score value terms team = some found) :
    -1 ≤ found ∧ found ≤ 1 ∧ ((∀ term ∈ terms, 0 ≤ value term.weight) → 0 ≤ found) := by
  obtain ⟨stands, mean⟩ := mean_of_score scored
  have member : ∀ standing ∈ terms.map fun term => (event.standing team term).map value,
      standing.own ∈ standing.all := by
    simp only [List.forall_mem_map]
    exact fun term listed => List.mem_map_of_mem (own_mem_all (stands term listed))
  obtain ⟨least, most⟩ := Standing.mean_bounds mean member
  refine ⟨least, most, fun unsigned => Standing.mean_nonneg mean member ?_⟩
  simp only [List.forall_mem_map]
  exact unsigned

section
variable {other : Nat} {found otherFound : K}
  (scored : event.score value terms team = some found)
  (otherScored : event.score value terms other = some otherFound)
include scored otherScored

theorem score_mono (unsigned : ∀ term ∈ terms, 0 ≤ value term.weight)
    (better : ∀ term ∈ terms, Standing.AtLeastAsGood term.negative
      (value (event.standing team term).own) (value (event.standing other term).own)) :
    otherFound ≤ found :=
  Standing.mean_mono (mean_of_score scored).2 (mean_of_score otherScored).2
    (fun _ _ => by simp only [Standing.map, standing])
    (fun _ _ => by simp only [Standing.map, standing])
    (fun _ _ => by simp only [Standing.map, standing]) unsigned better

end

end

section
variable (reachable : event.Reachable) {stat : Stat} (member : stat ∈ event.stats.stats)
  (ranks : stat.plan = .weightedRank terms)
include reachable member ranks

theorem Reachable.knows_of_ranks {term : WeightedTerm} (listed : term ∈ terms) :
    event.catalog.Knows term.key := by
  have grounds := (reachable.sound.grounded stat member).known term.key
  rw [ranks] at grounds
  exact grounds (List.mem_map_of_mem listed)

theorem Reachable.isNegative_of_ranks {term : WeightedTerm} (listed : term ∈ terms) :
    event.isNegative term.key = .ok term.negative := by
  obtain ⟨info, resolved⟩ := reachable.knows_of_ranks member ranks listed
  obtain ⟨catalog, planned, kept⟩ := reachable.compiled member
  rw [ranks] at planned
  obtain ⟨compiled, alsoResolved, negative⟩ := Catalog.isNegative_of_weightedRank planned listed
  obtain rfl : compiled = info := Except.ok.inj (alsoResolved.symm.trans (kept resolved))
  rw [isNegative, resolved, ← negative]
  rfl

theorem Reachable.read_ranks (subject : Subject) : event.read stat.key subject none =
    .ok (Value.ofReading (event.score id terms subject.team)) := by
  have sound := reachable.sound
  have once := reachable.isTeamScoped_of_ranks member ranks
  have comes := orNone_runWeightedRank sound
    (fun term listed => reachable.knows_of_ranks member ranks listed) subject.team
  refine read_settled sound member (Or.inl once) (Environment.settle_of_orNone ?_)
  rw [Stat.scope, if_pos once, Environment.run, ranks]
  exact comes

end

/-- Weighted ranks. A term counts downwards where its key does. The value for a team, in a match as
for all of them, is the score of the team in doubles; and it is missing exactly if the team is no
team of the event, lacks a number for some term, or all weights are zero. In exact arithmetic,
however doubles are read as numbers, a team has no score in the same cases, a score lies between
minus one and one, and it is at least zero if no weight is negative. If none is, a team that is at
least as good as another one in every term scores at least as high, and teams that are tied in all
terms score the same. -/
theorem weighted_ranks (reachable : event.Reachable) {stat : Stat}
    (member : stat ∈ event.stats.stats) (ranks : stat.plan = .weightedRank terms) :
    (∀ term ∈ terms, event.isNegative term.key = .ok term.negative) ∧
    (∀ subject : Subject,
      event.read stat.key subject none =
        .ok (Value.ofReading (event.score id terms subject.team)) ∧
      (event.read stat.key subject none = .ok .missing ↔ subject.team ∉ event.teams ∨
        (∃ term ∈ terms, event.scalar? term.key subject.team = none) ∨
          ∀ term ∈ terms, term.weight == 0)) ∧
    ∀ (K : Type) [Field K] [LinearOrder K] [IsStrictOrderedRing K] (value : Float → K),
      (∀ team, event.score value terms team = none ↔ team ∉ event.teams ∨
        (∃ term ∈ terms, event.scalar? term.key team = none) ∨
          ∀ term ∈ terms, value term.weight = 0) ∧
      (∀ team score, event.score value terms team = some score →
        -1 ≤ score ∧ score ≤ 1 ∧ ((∀ term ∈ terms, 0 ≤ value term.weight) → 0 ≤ score)) ∧
      ∀ team other score otherScore, event.score value terms team = some score →
        event.score value terms other = some otherScore →
        ((∀ term ∈ terms, 0 ≤ value term.weight) →
          (∀ term ∈ terms, Standing.AtLeastAsGood term.negative
            (value (event.standing team term).own) (value (event.standing other term).own)) →
          otherScore ≤ score) ∧
        ((∀ term ∈ terms, value (event.standing team term).own =
            value (event.standing other term).own) → score = otherScore) := by
  refine ⟨fun term listed => reachable.isNegative_of_ranks member ranks listed,
    fun subject => ?_, fun K _ _ _ value => ⟨?_, ?_, ?_⟩⟩
  · have reads := reachable.read_ranks member ranks subject
    refine ⟨reads, ?_⟩
    rw [reads, Except.ok.injEq, Value.ofReading_eq_missing]
    refine score_eq_none_iff ?_
    rw [Standing.mean_eq_none_iff_beq]
    simp only [List.forall_mem_map]
    rfl
  · refine fun team => score_eq_none_iff ?_
    rw [Standing.mean_eq_none_iff]
    simp only [List.forall_mem_map]
    rfl
  · exact fun team score scored => score_bounds scored
  · exact fun team other score otherScore scored otherScored =>
      ⟨score_mono scored otherScored, score_tied scored otherScored⟩

def rated : Event :=
  let record (team : Nat) (value : Int) : Record :=
    ⟨team, some "a_qm1", none, .played, false, "", false, none, none, none,
      Dictionary.ofList [("auto", .integer value)], none, none⟩
  ofInputs [record 7 1, record 9 5]
    { Configuration.empty with
      fields := [⟨"auto", "auto", .counter, .played, [], none, .uniform false, none⟩]
      definitions := [⟨"place", "", .weightedRank [⟨"auto", 1.0⟩], false, false, none⟩] }
    OfficialResults.empty Settings.standard

theorem rated_reachable : rated.Reachable := Reachable.ofInputs _ _ _ _

theorem mem_teams_rated : 7 ∈ rated.teams ∧ 9 ∈ rated.teams :=
  ⟨(Snapshot.mem_teams_ofStore _ _ 7).mpr (Or.inr ⟨_, List.mem_cons_self, rfl, rfl⟩),
    (Snapshot.mem_teams_ofStore _ _ 9).mpr
      (Or.inr ⟨_, List.mem_cons_of_mem _ List.mem_cons_self, rfl, rfl⟩)⟩

def rating (number : Float) : ℚ := if number == 5.0 then 5 else 1

theorem rating_values : rating 1.0 = 1 ∧ rating 5.0 = 5 :=
  ⟨if_neg (by decide), if_pos (by decide)⟩

theorem weighted_ranks_rated : ∃ stat ∈ rated.stats.stats, ∃ terms,
    stat.key = Key.smart "place" ∧ stat.plan = .weightedRank terms ∧
      rated.read (Key.smart "place") (Subject.ofTeam 8) none = .ok .missing ∧
      (∃ score, rated.score id terms 9 = some score ∧
        rated.read (Key.smart "place") (Subject.ofTeam 9) none = .ok (.number score)) ∧
      ∃ low high, rated.score rating terms 7 = some low ∧ rated.score rating terms 9 = some high ∧
        0 ≤ low ∧ low ≤ high ∧ high ≤ 1 := by
  have ranks : ∃ stat ∈ rated.stats.stats, stat.key = Key.smart "place" ∧
      stat.plan.kind = .weightedRank ∧ stat.plan.keys = [Key.result "auto"] ∧
      (match stat.plan with
        | .weightedRank terms => terms.map WeightedTerm.weight
        | _ => []) = [1.0] := by
    decide +kernel
  have seven : rated.scalar? (Key.result "auto") 7 = some 1.0 := by decide +kernel
  have eight : rated.scalar? (Key.result "auto") 8 = none := by decide +kernel
  have nine : rated.scalar? (Key.result "auto") 9 = some 5.0 := by decide +kernel
  have polarity : rated.isNegative (Key.result "auto") = .ok false := by decide +kernel
  obtain ⟨stat, member, place, isRank, keys, weights⟩ := ranks
  cases plan : stat.plan with
  | weightedRank terms =>
      rw [plan] at keys weights
      obtain ⟨⟨key, weight, negative⟩, rfl, isAuto⟩ := List.map_eq_singleton_iff.mp keys
      obtain rfl : key = Key.result "auto" := isAuto
      obtain rfl : weight = 1.0 := List.singleton_inj.mp weights
      obtain ⟨polarities, reads, exact⟩ := weighted_ranks rated_reachable member plan
      obtain rfl : negative = false :=
        Except.ok.inj ((polarities _ List.mem_cons_self).symm.trans polarity)
      rw [place] at reads
      obtain ⟨missing_iff, bounds, compared⟩ := exact ℚ rating
      simp only [List.mem_singleton, forall_eq, exists_eq_left] at reads missing_iff bounds compared
      obtain ⟨low, lowScored⟩ := Option.ne_none_iff_exists'.mp (mt (missing_iff 7).mp (by
        simp [mem_teams_rated, seven, rating_values]))
      obtain ⟨high, highScored⟩ := Option.ne_none_iff_exists'.mp (mt (missing_iff 9).mp (by
        simp [mem_teams_rated, nine, rating_values]))
      obtain ⟨_, _, lowest⟩ := bounds 7 low lowScored
      obtain ⟨_, highest, _⟩ := bounds 9 high highScored
      have better := (compared 9 7 high low highScored lowScored).1
      simp only [standing, seven, nine, Option.getD_some, rating_values] at lowest better
      refine ⟨stat, member, _, place, plan, (reads (Subject.ofTeam 8)).2.mpr (Or.inr (Or.inl eight)),
        ?_, low, high, lowScored, highScored, lowest zero_le_one, better zero_le_one ?_, highest⟩
      · have comes := mt (reads (Subject.ofTeam 9)).2.mp (by
          simp only [mem_teams_rated.2, not_true_eq_false, Subject.ofTeam, nine, reduceCtorEq,
            false_or]
          decide)
        have read := (reads (Subject.ofTeam 9)).1
        rw [read] at comes
        obtain ⟨score, scored⟩ := Option.ne_none_iff_exists'.mp fun none =>
          comes (congrArg (Except.ok ∘ Value.ofReading) none)
        exact ⟨score, scored, read.trans (congrArg (Except.ok ∘ Value.ofReading) scored)⟩
      · norm_num [Standing.AtLeastAsGood]
  | _ => simp [plan, Plan.kind] at isRank

end Event

end Scouting

import Scouting.Proofs.RankingOrder

/-!
Answers that are sure to come. Once a key is known, nothing is left to end its evaluation but the
sorts, of a median's numbers or of a ranking's. They end unless there are many numbers, one of them
is no number, and two others differ.
-/

namespace Scouting

namespace Number

/-- Many numbers, of which one is none and two differ. -/
structure Scattered (numbers : List Float) : Prop where
  many : insertionLimit < numbers.length
  unclear : ∃ number ∈ numbers, number.isNaN = true
  unequal : ∃ left ∈ numbers, ∃ right ∈ numbers, left < right

theorem Scattered.of_perm {numbers others : List Float} (scattered : Scattered numbers)
    (perm : numbers.Perm others) : Scattered others := by
  obtain ⟨many, ⟨number, listed, isNaN⟩, left, leftIn, right, rightIn, below⟩ := scattered
  exact ⟨perm.length_eq ▸ many, ⟨number, perm.mem_iff.mp listed, isNaN⟩, left,
    perm.mem_iff.mp leftIn, right, perm.mem_iff.mp rightIn, below⟩

theorem not_lt_of_isNaN {number : Float} (isNaN : number.isNaN = true) (other : Float) :
    ¬other < number ∧ ¬number < other :=
  ⟨fun below => Bool.false_ne_true ((isNaN_of_lt below).2.symm.trans isNaN),
    fun below => Bool.false_ne_true ((isNaN_of_lt below).1.symm.trans isNaN)⟩

theorem sortable_iff {numbers : List Float} :
    Sortable (fun left right => !decide (left < right)) numbers ↔ ¬Scattered numbers := by
  constructor
  · rintro sortable ⟨many, ⟨number, listed, isNaN⟩, left, leftIn, right, rightIn, below⟩
    have lined := sortable.resolve_left (Nat.not_le.mpr many)
    have front : !decide (left < number) := by simpa using (not_lt_of_isNaN isNaN left).1
    have back : !decide (number < right) := by simpa using (not_lt_of_isNaN isNaN right).2
    have inOrder := lined.trans left leftIn number listed right rightIn front back
    simp [below] at inOrder
  · intro tidy
    refine or_iff_not_imp_left.mpr fun many => ?_
    by_cases unclear : ∃ number ∈ numbers, number.isNaN = true
    · have level : ∀ left ∈ numbers, ∀ right ∈ numbers, !decide (left < right) := by
        intro left leftIn right rightIn
        by_contra below
        exact tidy ⟨Nat.not_le.mp many, unclear, left, leftIn, right, rightIn, by simpa using below⟩
      exact ⟨fun left leftIn right rightIn => Or.inl (level left leftIn right rightIn),
        fun first firstIn _ _ third thirdIn _ _ => level first firstIn third thirdIn⟩
    · refine linesUp_falling fun number listed => Bool.eq_false_iff.mpr fun isNaN => ?_
      exact unclear ⟨number, listed, isNaN⟩

end Number

/-- Do the values sort that an aggregate is taken of? Only a median sorts them. -/
def AggregateFunction.Sorts (function : AggregateFunction) (values : List Value) : Prop :=
  function = .median →
    Sortable (fun left right => !decide (right < left))
      ((Value.flatten values).filterMap Value.reading)

namespace Ranking

theorem sorts_arrange {negative : Bool} {entries : List RankedTeam} :
    Sorts (arrange negative entries) ↔ ¬Number.Scattered (numbers entries) := by
  have perm : (numbers (arrange negative entries)).Perm (numbers entries) :=
    (arrange_perm negative entries).filterMap _
  rw [Sorts, Number.sortable_iff]
  exact not_congr ⟨fun scattered => scattered.of_perm perm,
    fun scattered => scattered.of_perm perm.symm⟩

end Ranking

namespace Event

variable {event : Event} {key : Key}

/-- The functions by which stats aggregate what they read, where their kind does not fix one. -/
def functions (event : Event) : List AggregateFunction :=
  event.settings.function :: event.stats.stats.filterMap fun stat => stat.definition.function

theorem defaultFunction_mem_functions (event : Event) (key : Key) :
    event.defaultFunction key ∈ event.functions := by
  simp only [defaultFunction, Environment.defaultFunction, environment, functions]
  cases found : (event.stats.find? key).bind fun stat => stat.definition.function with
  | none => exact List.mem_cons_self
  | some function =>
      obtain ⟨stat, look, asks⟩ := Option.bind_eq_some_iff.mp found
      exact List.mem_cons_of_mem _
        (List.mem_filterMap.mpr ⟨stat, List.mem_of_find?_eq_some look, asks⟩)

/-- Do all values sort that a function could be asked to aggregate? What is aggregated, for a stat
or an answer, is what a known key reads as for one subject or for several. -/
def Sorts (event : Event) (function : AggregateFunction) : Prop :=
  ∀ key, event.catalog.Knows key → ∀ (subjects : List Subject) (values : List Value),
    (subjects.mapM fun subject => event.read key subject none) = .ok values →
      function.Sorts values

theorem sorts_of_comparable (comparable : ∀ key, event.catalog.Knows key → ∀ subject value,
    event.read key subject none = .ok value → ∀ leaf ∈ value.leaves, ∀ number,
      leaf.reading = some number → number.isNaN = false) (function : AggregateFunction) :
    event.Sorts function := by
  intro key known subjects values reads _
  refine Or.inr (Number.linesUp_rising fun number member => ?_)
  obtain ⟨leaf, inValues, read⟩ := List.mem_filterMap.mp member
  rw [Value.flatten_eq_flatMap] at inValues
  obtain ⟨value, listed, isLeaf⟩ := List.mem_flatMap.mp inValues
  obtain ⟨subject, _, found⟩ := exists_of_mem_mapM reads listed
  exact comparable key known subject value found leaf isLeaf number read

section
variable {info : KeyInfo} (resolved : event.catalog.resolve key = .ok info)
  {reading : Subject → Value}
  (settles : ∀ subject, event.environment.Settles (event.readIn key subject none)
    (reading subject))
include resolved settles

theorem exists_ranking (teams : List Nat) (function : Option AggregateFunction) :
    ∃ aggregates ranking, event.teamStats key teams function = .ok aggregates ∧
      event.ranking key teams function = .ok ranking ∧
      (Ranking.Sorts ranking.entries ↔
        ¬Number.Scattered (aggregates.filterMap Aggregate.reading)) := by
  obtain ⟨value, stat, ranked⟩ := exists_value resolved settles function
  have stats : event.teamStats key teams function = .ok (teams.map value) := by
    rw [teamStats_eq resolved settles]
    refine congrArg Except.ok (List.map_congr_left fun team _ => ?_)
    exact Except.ok.inj ((stat_eq resolved settles (some (Subject.ofTeam team)) function).symm.trans
      (stat team))
  have numbers : Ranking.numbers (teams.map fun team => ⟨team, value team⟩) =
      (teams.map value).filterMap Aggregate.reading := by
    rw [Ranking.numbers, List.filterMap_map, List.filterMap_map]
    rfl
  exact ⟨_, _, stats, ranked teams, by rw [← numbers, Ranking.sorts_arrange]⟩

omit resolved settles in
theorem ranking?_eq_some {teams : List Nat} {function : Option AggregateFunction}
    {ranking : Ranking} (found : event.ranking key teams function = .ok ranking)
    (sorts : Ranking.Sorts ranking.entries) :
    event.ranking? key teams function = some (.ok ranking) := by
  simp only [ranking?, found, if_pos sorts]

omit resolved settles in
theorem ranking?_eq_none {teams : List Nat} {function : Option AggregateFunction}
    {ranking : Ranking} (found : event.ranking key teams function = .ok ranking)
    (stuck : ¬Ranking.Sorts ranking.entries) : event.ranking? key teams function = none := by
  simp only [ranking?, found, if_neg stuck]

end

/-- Validation is enough for evaluation, where numbers sort. In the event of any inputs, a key that
is not known is refused by whatever is asked, and nothing else is. A known key gets all its answers:
it can be read for every subject, for several in one evaluation too, so that no failure hides as a
missing value; it can be aggregated and ranked by. A ranking may only give up where its numbers are
scattered. -/
theorem answers_if_sorts (records : List Record) (config : Configuration)
    (official : OfficialResults) (settings : Settings) (key : Key)
    (function : Option AggregateFunction) :
    let event := ofInputs records config official settings
    (¬event.catalog.Knows key →
      (∀ subject index, event.read key subject index = .error (.unknownKey key.text)) ∧
      (∀ subject, event.stat key subject function = .error (.unknownKey key.text)) ∧
      ∀ teams, event.teamStats key teams function = .error (.unknownKey key.text) ∧
        event.ranking? key teams function = some (.error (.unknownKey key.text))) ∧
    (event.catalog.Knows key →
      (∀ other ∈ function.toList ++ event.functions, event.Sorts other) →
        (∀ subject index, ∃ value, event.read key subject index = .ok value) ∧
        (∀ (subjects : List Subject) (index : Option Nat), ∃ values, Environment.evaluate
          (subjects.mapM fun subject => event.readIn key subject index) = .ok values) ∧
        (∀ subject, ∃ values aggregate,
          ((event.pooled subject).mapM fun pooled => event.read key pooled none) = .ok values ∧
          (function.getD (event.defaultFunction key)).Sorts values ∧
          event.stat key subject function = .ok aggregate) ∧
        ∀ teams, ∃ aggregates ranking,
          event.teamStats key teams function = .ok aggregates ∧
          event.ranking key teams function = .ok ranking ∧
          (¬Number.Scattered (aggregates.filterMap Aggregate.reading) →
            event.ranking? key teams function = some (.ok ranking)) ∧
          (Number.Scattered (aggregates.filterMap Aggregate.reading) →
            event.ranking? key teams function = none)) := by
  intro event
  have sound : event.environment.Sound := sound_ofInputs records config official settings
  refine ⟨fun unknown => ?_, fun known sorts => ?_⟩
  · have refused := Catalog.resolve_eq_error unknown
    have notRanked (teams : List Nat) :
        event.ranking key teams function = .error (.unknownKey key.text) := by
      simp only [ranking, isNegative, refused]
      rfl
    refine ⟨fun subject index => ?_, fun subject => stat_refused refused subject function,
      fun teams => ⟨teamStats_refused refused teams function, ?_⟩⟩
    · rw [read, Environment.evaluate, readIn_unknown unknown]
    · simp only [ranking?, notRanked]
  · have readings := fun index => exists_reading sound known index
    obtain ⟨reading, read⟩ := readings none
    have sorted := sorts (function.getD (event.defaultFunction key)) (by
      cases function with
      | none => exact List.mem_append_right _ (defaultFunction_mem_functions event key)
      | some function => simp)
    obtain ⟨info, resolved⟩ := known
    have settles := fun subject => (read subject).2
    refine ⟨fun subject index => ?_, fun subjects index => ?_, fun subject => ?_, fun teams => ?_⟩
    · obtain ⟨reading, read⟩ := readings index
      exact ⟨_, (read subject).1⟩
    · obtain ⟨reading, read⟩ := readings index
      exact ⟨_, (Environment.Settles.mapM fun subject _ => (read subject).2).evaluate⟩
    · have values := mapM_eq_pure fun pooled (_ : pooled ∈ event.pooled subject) => (read pooled).1
      exact ⟨_, _, values, sorted key ⟨info, resolved⟩ _ _ values,
        stat_eq resolved settles subject function⟩
    · obtain ⟨aggregates, ranking, stats, ranked, sorts⟩ :=
        exists_ranking resolved settles teams function
      exact ⟨aggregates, ranking, stats, ranked, fun tidy => ranking?_eq_some ranked (sorts.mpr tidy),
        fun scattered => ranking?_eq_none ranked fun sorted => sorts.mp sorted scattered⟩

theorem answers_if_sorts_small : small.catalog.Knows (Key.smart "double") ∧
    (∀ other ∈ [.total] ++ small.functions, small.Sorts other) ∧
    (∃ values, Environment.evaluate ([7, 9].map Subject.ofTeam |>.mapM fun subject =>
      small.readIn (Key.smart "double") subject none) = .ok values) ∧
    ∃ aggregates ranking,
      small.teamStats (Key.smart "double") [7, 9] (some .total) = .ok aggregates ∧
      aggregates = [.number 6.0, .noData] ∧
      small.ranking (Key.smart "double") [7, 9] (some .total) = .ok ranking ∧
      small.ranking? (Key.smart "double") [7, 9] (some .total) = some (.ok ranking) := by
  have known : small.catalog.Knows (Key.smart "double") :=
    (small_resolves (show (small.catalog.resolve (Key.smart "double")).toOption.map
      KeyInfo.mode = some .played by decide +kernel)).imp fun _ found => found.1
  have noMedian : .median ∉ [.total] ++ small.functions := by decide +kernel
  have sorts : ∀ other ∈ [.total] ++ small.functions, small.Sorts other :=
    fun other member _ _ _ _ _ isMedian => absurd (isMedian ▸ member) noMedian
  have numbers : (small.teamStats (Key.smart "double") [7, 9] (some .total)).toOption =
      some [.number 6.0, .noData] := by
    decide +kernel
  obtain ⟨_, shared, _, ranks⟩ :=
    (answers_if_sorts _ _ _ _ (Key.smart "double") (some .total)).2 known sorts
  obtain ⟨aggregates, ranking, stats, ranked, comes, _⟩ := ranks [7, 9]
  obtain rfl : aggregates = [.number 6.0, .noData] := by
    rw [show small.teamStats (Key.smart "double") [7, 9] (some .total) = .ok aggregates from stats]
      at numbers
    exact Option.some.inj numbers
  refine ⟨known, sorts, shared _ none, _, ranking, stats, rfl, ranked, comes fun scattered => ?_⟩
  exact absurd scattered.many (by decide)

/-- An event with as many teams as are no longer sorted by insertion. Their numbers are zero, but
for two of them that are one, and a text between these that stands for no number. -/
def crowded : Event :=
  let record (team : Nat) (value : Recorded) : Record :=
    ⟨team, none, none, .pit, false, "", false, none, none, none,
      Dictionary.ofList [("auto", value)], none, none⟩
  let value (team : Nat) : Recorded :=
    if team = 11 then .text "nan" else .integer (if team = 2 ∨ team = 12 then 1 else 0)
  ofInputs ((List.range' 1 21).map fun team => record team (value team))
    { Configuration.empty with
      fields := [⟨"auto", "auto", .number, .pit, [], none, .uniform false, none⟩] }
    OfficialResults.empty Settings.standard

/-- One text that stands for no number is enough for a ranking of all teams not to come. -/
theorem crowded_gives_up : crowded.catalog.Knows (Key.result "auto") ∧
    (∃ aggregates,
      crowded.teamStats (Key.result "auto") (List.range' 1 21) none = .ok aggregates) ∧
    crowded.ranking? (Key.result "auto") (List.range' 1 21) none = none := by
  have known : crowded.catalog.Knows (Key.result "auto") :=
    (toOption_map_eq_some.mp (show (crowded.catalog.resolve (Key.result "auto")).toOption.map
      KeyInfo.mode = some .pit by decide +kernel)).imp fun _ found => found.1
  obtain ⟨reading, read⟩ := exists_reading (Reachable.ofInputs _ _ _ _).sound known none
  obtain ⟨info, resolved⟩ := known
  obtain ⟨aggregates, ranking, stats, ranked, sorts⟩ :=
    exists_ranking resolved (fun subject => (read subject).2) (List.range' 1 21) none
  have numbers : (crowded.teamStats (Key.result "auto") (List.range' 1 21) none).toOption.map
      (List.filterMap Aggregate.reading) =
        some ((List.range' 1 21).map fun team =>
          if team = 11 then 0.0 / 0.0 else if team = 2 ∨ team = 12 then 1.0 else 0.0) := by
    decide +kernel
  rw [stats] at numbers
  refine ⟨⟨info, resolved⟩, ⟨aggregates, stats⟩, ranking?_eq_none ranked fun sorted => ?_⟩
  refine sorts.mp sorted ((Option.some.inj numbers).symm ▸ ?_)
  exact ⟨by decide, ⟨_, List.mem_map_of_mem (show 11 ∈ List.range' 1 21 by decide), by decide⟩,
    _, List.mem_map_of_mem (show 1 ∈ List.range' 1 21 by decide),
    _, List.mem_map_of_mem (show 2 ∈ List.range' 1 21 by decide), by decide⟩

end Event

end Scouting

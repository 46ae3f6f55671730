import Scouting.Proofs.Answers
import Scouting.Proofs.Arithmetic
import Scouting.Proofs.NumberOrder
import Scouting.Proofs.StableSorting
import Scouting.Ranking

/-!
The order of rankings. Teams with a number come first, the best of them in front; equal ones keep
their order, or the reverse of it where lower is better. The other teams follow, by number.
-/

namespace Scouting

theorem Aggregate.isNaN_reading {aggregate : Aggregate}
    (comparable : ∀ value, aggregate = .number value → value.isNaN = false) {number : Float}
    (read : aggregate.reading = some number) : number.isNaN = false := by
  cases aggregate with
  | number value =>
      cases read
      exact comparable _ rfl
  | bool value =>
      obtain rfl := Option.some.inj read
      cases value with
      | true => decide
      | false => decide
  | choice index =>
      cases read
      exact Number.isNaN_ofNat index
  | noData => cases read
  | counts values => cases read
  | text value => cases read

namespace RankedTeam

/-- Has a team the number, or one that cannot be told apart from it? -/
def isAt (number : Float) (entry : RankedTeam) : Bool := entry.value.reading.any (· == number)

/-- May one team stand before another, for all that their numbers say? -/
def MayPrecede (negative : Bool) (left right : RankedTeam) : Prop :=
  ∀ number other, left.value.reading = some number → right.value.reading = some other →
    if negative then number ≤ other else other ≤ number

end RankedTeam

namespace Ranking

/-- An arrangement of teams: the ranked ones, then the rest. -/
structure Arranges (negative : Bool) (given ranked rest : List RankedTeam) : Prop where
  perm : (ranked ++ rest).Perm given
  haveNumbers : ∀ entry ∈ ranked, entry.value.reading.isSome
  haveNone : ∀ entry ∈ rest, entry.value.reading = none
  bestFirst : ranked.Pairwise (RankedTeam.MayPrecede negative)
  ties : ∀ number, ranked.filter (RankedTeam.isAt number) =
    if negative then (given.filter (RankedTeam.isAt number)).reverse
    else given.filter (RankedTeam.isAt number)
  byTeam : rest.Pairwise fun left right => left.team ≤ right.team

section
variable {entries : List RankedTeam}

theorem withReading?_eq_some {entry : RankedTeam} {pair : RankedTeam × Float} :
    withReading? entry = some pair ↔ entry = pair.1 ∧ pair.1.value.reading = some pair.2 := by
  obtain ⟨team, number⟩ := pair
  rw [withReading?, Option.map_eq_some_iff]
  constructor
  · rintro ⟨_, read, same⟩
    cases same
    exact ⟨rfl, read⟩
  · rintro ⟨rfl, read⟩
    exact ⟨number, read, rfl⟩

theorem mem_withReading {pair : RankedTeam × Float}
    (member : pair ∈ entries.filterMap withReading?) :
    pair.1 ∈ entries ∧ pair.1.value.reading = some pair.2 := by
  obtain ⟨entry, listed, paired⟩ := List.mem_filterMap.mp member
  obtain ⟨same, read⟩ := withReading?_eq_some.mp paired
  exact ⟨same ▸ listed, read⟩

theorem map_withReading (entries : List RankedTeam) :
    (entries.filterMap withReading?).map (·.1) =
      entries.filter fun entry => entry.value.reading.isSome := by
  induction entries with
  | nil => rfl
  | cons entry rest ih =>
      cases read : entry.value.reading with
      | none => simp [withReading?, read, ih]
      | some number => simp [withReading?, read, ih]

theorem descending_perm (entries : List RankedTeam) :
    (descending entries).Perm (entries.filter fun entry => entry.value.reading.isSome) := by
  rw [← map_withReading]
  exact (sortedBy_perm _ _).map _

theorem arrange_perm (negative : Bool) (entries : List RankedTeam) :
    (arrange negative entries).Perm entries := by
  have numbered : (valued negative entries).Perm
      (entries.filter fun entry => entry.value.reading.isSome) := by
    simp only [valued]
    split
    · exact (List.reverse_perm _).trans (descending_perm entries)
    · exact descending_perm entries
  have others : (unvalued entries).Perm
      (entries.filter fun entry => !entry.value.reading.isSome) := by
    simp only [Option.not_isSome]
    exact sortedBy_perm _ _
  exact (numbered.append others).trans (List.filter_append_perm _ _)

theorem mem_descending {entry : RankedTeam} :
    entry ∈ descending entries ↔ entry ∈ entries ∧ entry.value.reading.isSome := by
  rw [(descending_perm entries).mem_iff, List.mem_filter]

theorem mem_valued {negative : Bool} {entry : RankedTeam} :
    entry ∈ valued negative entries ↔ entry ∈ entries ∧ entry.value.reading.isSome := by
  rw [valued, ← mem_descending]
  split
  · exact List.mem_reverse
  · exact Iff.rfl

theorem mem_unvalued {entry : RankedTeam} :
    entry ∈ unvalued entries ↔ entry ∈ entries ∧ entry.value.reading = none := by
  rw [unvalued, (sortedBy_perm _ _).mem_iff, List.mem_filter, Option.isNone_iff_eq_none]

theorem linesUp_teams (entries : List RankedTeam) :
    LinesUp (fun left right : RankedTeam => decide (left.team ≤ right.team)) entries where
  total left _ right _ := by simpa using Nat.le_total left.team right.team
  trans _ _ _ _ _ _ := by simpa using Nat.le_trans

section
variable (comparable : ∀ entry ∈ entries, ∀ number, entry.value.reading = some number →
  number.isNaN = false)
include comparable

theorem comparable_pair {pair : RankedTeam × Float}
    (member : pair ∈ entries.filterMap withReading?) : pair.2.isNaN = false := by
  obtain ⟨listed, read⟩ := mem_withReading member
  exact comparable pair.1 listed pair.2 read

theorem linesUp_withReading :
    LinesUp (fun left right : RankedTeam × Float => !decide (left.2 < right.2))
      (entries.filterMap withReading?) := by
  refine LinesUp.of_map (Number.linesUp_falling fun number member => ?_)
  obtain ⟨pair, listed, rfl⟩ := List.mem_map.mp member
  exact comparable_pair comparable listed

theorem descending_sorted : (descending entries).Pairwise (RankedTeam.MayPrecede false) := by
  refine List.pairwise_map.mpr ((sortedBy_sorted (linesUp_withReading comparable)).imp_of_mem
    fun {left right} leftIn rightIn inOrder => ?_)
  intro number other read otherRead
  have leftMember := (sortedBy_perm _ _).mem_iff.mp leftIn
  have rightMember := (sortedBy_perm _ _).mem_iff.mp rightIn
  obtain rfl := Option.some.inj ((mem_withReading leftMember).2.symm.trans read)
  obtain rfl := Option.some.inj ((mem_withReading rightMember).2.symm.trans otherRead)
  have isLeft := comparable_pair comparable leftMember
  have isRight := comparable_pair comparable rightMember
  exact (Number.le_iff_place isRight isLeft).mpr ((Number.not_lt_iff_place isLeft isRight).mp inOrder)

theorem filter_descending (number : Float) : (descending entries).filter (RankedTeam.isAt number) =
    entries.filter (RankedTeam.isAt number) := by
  have kept : (sortedBy (fun left right : RankedTeam × Float => !decide (left.2 < right.2))
        (entries.filterMap withReading?)).filter (RankedTeam.isAt number ∘ (·.1)) =
      (entries.filterMap withReading?).filter (RankedTeam.isAt number ∘ (·.1)) := by
    refine filter_sortedBy fun left leftIn right rightIn leftAt rightAt => ?_
    rw [Function.comp_apply] at leftAt rightAt
    have isLeft := comparable_pair comparable leftIn
    have isRight := comparable_pair comparable rightIn
    rw [RankedTeam.isAt, (mem_withReading leftIn).2, Option.any_some] at leftAt
    rw [RankedTeam.isAt, (mem_withReading rightIn).2, Option.any_some] at rightAt
    have isNumber := (Number.isNaN_of_beq leftAt).2
    rw [Number.beq_iff_place isLeft isNumber] at leftAt
    rw [Number.beq_iff_place isRight isNumber] at rightAt
    rw [Number.not_lt_iff_place isLeft isRight, leftAt, rightAt]
  have numbered : ∀ entry ∈ entries,
      (entry.isAt number && entry.value.reading.isSome) = entry.isAt number := by
    intro entry _
    cases read : entry.value.reading with
    | none => simp [RankedTeam.isAt, read]
    | some value => simp [RankedTeam.isAt, read]
  rw [descending, List.filter_map, kept, ← List.filter_map, map_withReading,
    List.filter_filter, List.filter_congr numbered]

theorem arranges (negative : Bool) :
    Arranges negative entries (valued negative entries) (unvalued entries) where
  perm := arrange_perm negative entries
  haveNumbers := fun _ member => (mem_valued.mp member).2
  haveNone := fun _ member => (mem_unvalued.mp member).2
  bestFirst := by
    have sorted := descending_sorted comparable
    cases negative with
    | false => exact sorted
    | true =>
        refine List.pairwise_reverse.mpr (sorted.imp fun inOrder number other read otherRead => ?_)
        simpa using inOrder other number otherRead read
  ties := by
    intro number
    have kept := filter_descending comparable number
    cases negative with
    | false => exact kept
    | true => exact List.filter_reverse.trans (congrArg List.reverse kept)
  byTeam := (sortedBy_sorted (linesUp_teams _)).imp of_decide_eq_true

end

end

end Ranking

namespace Event

variable {event : Event} {key : Key}

theorem ranking_entries {info : KeyInfo} (resolved : event.catalog.resolve key = .ok info)
    {teams : List Nat} {function : Option AggregateFunction} {value : Nat → Aggregate}
    (found : event.teamStats key teams (some (function.getD (event.defaultFunction key))) =
      .ok (teams.map value)) :
    event.ranking key teams function =
      .ok ⟨key, function.getD (event.defaultFunction key), info.isNegative key.option,
        Ranking.arrange (info.isNegative key.option)
          (teams.map fun team => ⟨team, value team⟩)⟩ := by
  have paired : teams.zipWith RankedTeam.mk (teams.map value) =
      teams.map fun team => ⟨team, value team⟩ := by
    rw [List.zipWith_map_right, List.zipWith_self]
  simp only [ranking, isNegative, resolved, found]
  rw [← paired]
  rfl

section
variable {info : KeyInfo} (resolved : event.catalog.resolve key = .ok info)
  {reading : Subject → Value}
  (settles : ∀ subject, event.environment.Settles (event.readIn key subject none)
    (reading subject))
include resolved settles

theorem exists_value (function : Option AggregateFunction) :
    ∃ value : Nat → Aggregate,
      (∀ team, event.stat key (some (Subject.ofTeam team)) function = .ok (value team)) ∧
      ∀ teams, event.ranking key teams function =
        .ok ⟨key, function.getD (event.defaultFunction key), info.isNegative key.option,
          Ranking.arrange (info.isNegative key.option)
            (teams.map fun team => ⟨team, value team⟩)⟩ :=
  ⟨_, fun team => stat_eq resolved settles (some (Subject.ofTeam team)) function,
    fun teams => ranking_entries resolved (teamStats_eq resolved settles teams _)⟩

omit resolved settles in
theorem isNaN_of_entries {teams : List Nat} {function : Option AggregateFunction}
    {value : Nat → Aggregate}
    (stat : ∀ team, event.stat key (some (Subject.ofTeam team)) function = .ok (value team))
    (comparable : ∀ team ∈ teams, ∀ number,
      event.stat key (some (Subject.ofTeam team)) function = .ok (.number number) →
        number.isNaN = false) :
    ∀ entry ∈ teams.map fun team => RankedTeam.mk team (value team), ∀ number,
      entry.value.reading = some number → number.isNaN = false := by
  intro entry member number read
  obtain ⟨team, listed, rfl⟩ := List.mem_map.mp member
  refine Aggregate.isNaN_reading (fun own same => ?_) read
  exact comparable team listed own ((stat team).trans (congrArg Except.ok same))

theorem arranges_of_comparable {teams : List Nat} {function : Option AggregateFunction}
    (comparable : ∀ team ∈ teams, ∀ number,
      event.stat key (some (Subject.ofTeam team)) function = .ok (.number number) →
        number.isNaN = false) :
    ∃ ranking given ranked rest,
      event.ranking key teams function = .ok ranking ∧
      event.isNegative key = .ok ranking.negative ∧
      (teams.mapM fun team =>
        RankedTeam.mk team <$> event.stat key (some (Subject.ofTeam team)) function) = .ok given ∧
      ranking.entries = ranked ++ rest ∧
      Ranking.Arranges ranking.negative given ranked rest := by
  obtain ⟨value, stat, ranked⟩ := exists_value resolved settles function
  refine ⟨_, _, _, _, ranked teams, ?_, ?_, rfl,
    Ranking.arranges (isNaN_of_entries stat comparable) _⟩
  · simp only [isNegative, resolved]
    rfl
  · exact mapM_eq_pure fun team _ => by
      rw [stat]
      rfl

end

/-- Where every number can be compared, a ranking is an arrangement of the teams with the values
that each of them gets on its own: by descending number, or by ascending number if lower is better,
with the teams that have none at the end. -/
theorem ranking_arranges (reachable : event.Reachable) (known : event.catalog.Knows key)
    (teams : List Nat) (function : Option AggregateFunction)
    (comparable : ∀ team ∈ teams, ∀ number,
      event.stat key (some (Subject.ofTeam team)) function = .ok (.number number) →
        number.isNaN = false) :
    (∃ ranking given ranked rest,
      event.ranking key teams function = .ok ranking ∧
      event.isNegative key = .ok ranking.negative ∧
      (teams.mapM fun team =>
        RankedTeam.mk team <$> event.stat key (some (Subject.ofTeam team)) function) = .ok given ∧
      ranking.entries = ranked ++ rest ∧
      Ranking.Arranges ranking.negative given ranked rest) ∧
    event.rank key teams =
      Ranking.order <$> event.ranking key teams (some (event.defaultFunction key)) := by
  obtain ⟨reading, read⟩ := exists_reading reachable.sound known none
  obtain ⟨info, resolved⟩ := known
  exact ⟨arranges_of_comparable resolved (fun subject => (read subject).2) comparable, rfl⟩

theorem ranking_arranges_small :
    (∀ team ∈ [9, 7, 7], ∀ number,
      small.stat (Key.smart "double") (some (Subject.ofTeam team)) (some .total) =
        .ok (.number number) → number.isNaN = false) ∧
    (∃ ranking given ranked rest,
      small.ranking (Key.smart "double") [9, 7, 7] (some .total) = .ok ranking ∧
      small.isNegative (Key.smart "double") = .ok ranking.negative ∧
      ([9, 7, 7].mapM fun team => RankedTeam.mk team <$>
        small.stat (Key.smart "double") (some (Subject.ofTeam team)) (some .total)) = .ok given ∧
      ranking.entries = ranked ++ rest ∧
      Ranking.Arranges ranking.negative given ranked rest) ∧
    small.rank (Key.smart "double") [9, 7, 7] = Ranking.order <$>
      small.ranking (Key.smart "double") [9, 7, 7]
        (some (small.defaultFunction (Key.smart "double"))) := by
  have resolves := small_resolves (show
    (small.catalog.resolve (Key.smart "double")).toOption.map KeyInfo.mode = some .played by
      decide +kernel)
  have known : small.catalog.Knows (Key.smart "double") := resolves.imp fun _ found => found.1
  have outside : (small.stat (Key.smart "double") (some (Subject.ofTeam 9))
      (some .total)).toOption = some .noData := by
    decide +kernel
  have inside : (small.stat (Key.smart "double") (some (Subject.ofTeam 7))
      (some .total)).toOption = some (.number 6.0) := by
    decide +kernel
  have comparable : ∀ team ∈ [9, 7, 7], ∀ number,
      small.stat (Key.smart "double") (some (Subject.ofTeam team)) (some .total) =
        .ok (.number number) → number.isNaN = false := by
    intro team member number found
    simp only [List.mem_cons, List.not_mem_nil, or_false, or_self] at member
    rcases member with rfl | rfl
    · rw [found] at outside
      cases outside
    · rw [found] at inside
      cases inside
      decide
  exact ⟨comparable, ranking_arranges small_reachable known [9, 7, 7] (some .total) comparable⟩

end Event

end Scouting

import Scouting.Proofs.RankingOrder

/-!
Rankings of teams in the order of a ranking. Where more is better, the order stays. Where less is
better, the teams with a number are reversed once more, so that every group of equal teams is turned
round while the groups stay in place; the ranking after that turns the groups back.
-/

namespace Scouting

namespace RankedTeam

def level (entry : RankedTeam) : WithTop (ℤ ×ₗ ℤ ×ₗ ℤ) :=
  match entry.value.reading with
  | some number => Number.place number
  | none => ⊤

theorem level_of_some {entry : RankedTeam} {number : Float}
    (read : entry.value.reading = some number) : entry.level = Number.place number := by
  rw [level, read]

theorem level_eq_top {entry : RankedTeam} : entry.level = ⊤ ↔ entry.value.reading = none := by
  cases read : entry.value.reading with
  | none => simp [level, read]
  | some number => simp [level, read]

noncomputable def upTo (left right : RankedTeam) : Bool := decide (left.level ≤ right.level)

theorem eitherWay_upTo {entry other : RankedTeam} :
    eitherWay upTo entry other ↔ other.level = entry.level := by
  rw [eitherWay, Bool.and_eq_true, upTo, upTo, decide_eq_true_iff, decide_eq_true_iff,
    le_antisymm_iff, and_comm]

theorem isAt_iff_level {entry : RankedTeam}
    (comparable : ∀ number, entry.value.reading = some number → number.isNaN = false)
    (number : Float) :
    entry.isAt number ↔ number.isNaN = false ∧ entry.level = Number.place number := by
  cases read : entry.value.reading with
  | none => simp [isAt, level, read]
  | some own =>
      rw [isAt, read, Option.any_some, level_of_some read, WithTop.coe_inj]
      constructor
      · intro same
        have isNumber := (Number.isNaN_of_beq same).2
        exact ⟨isNumber, (Number.beq_iff_place (comparable own read) isNumber).mp same⟩
      · rintro ⟨isNumber, same⟩
        exact (Number.beq_iff_place (comparable own read) isNumber).mpr same

end RankedTeam

namespace Ranking

section
variable {entries ranked rest : List RankedTeam}

theorem filterMap_withReading {pairs : List (RankedTeam × Float)}
    (reads : ∀ pair ∈ pairs, pair.1.value.reading = some pair.2) :
    (pairs.map (·.1)).filterMap withReading? = pairs := by
  induction pairs with
  | nil => rfl
  | cons pair others ih =>
      have first : withReading? pair.1 = some pair :=
        withReading?_eq_some.mpr ⟨rfl, reads pair List.mem_cons_self⟩
      rw [List.map_cons, List.filterMap_cons_some first,
        ih fun other member => reads other (List.mem_cons_of_mem _ member)]

theorem descending_append (none : ∀ entry ∈ rest, entry.value.reading = .none) :
    descending (ranked ++ rest) = descending ranked := by
  have nothing : rest.filterMap withReading? = [] :=
    List.filterMap_eq_nil_iff.mpr fun entry member => by simp [withReading?, none entry member]
  rw [descending, List.filterMap_append, nothing, List.append_nil, descending]

theorem filter_isNone_of_numbers (numbers : ∀ entry ∈ ranked, entry.value.reading.isSome) :
    (ranked.filter fun entry => entry.value.reading.isNone) = [] := by
  refine List.filter_eq_nil_iff.mpr fun entry member => ?_
  simpa using Option.isSome_iff_ne_none.mp (numbers entry member)

theorem filter_isNone_unvalued (entries : List RankedTeam) :
    ((unvalued entries).filter fun entry => entry.value.reading.isNone) = unvalued entries :=
  List.filter_eq_self.mpr fun entry member => by simp [(mem_unvalued.mp member).2]

theorem filter_isNone_arrange (negative : Bool) (entries : List RankedTeam) :
    ((arrange negative entries).filter fun entry => entry.value.reading.isNone) =
      unvalued entries := by
  rw [arrange, List.filter_append, filter_isNone_unvalued,
    filter_isNone_of_numbers fun entry member => (mem_valued.mp member).2, List.nil_append]

theorem unvalued_arrange (negative : Bool) (entries : List RankedTeam) :
    unvalued (arrange negative entries) = unvalued entries := by
  rw [unvalued, filter_isNone_arrange, unvalued, sortedBy_sortedBy (linesUp_teams _)]

theorem map_order_arrange {negative : Bool} {teams : List Nat} {value : Nat → Aggregate} :
    ((arrange negative (teams.map fun team => RankedTeam.mk team (value team))).map
        RankedTeam.team).map (fun team => RankedTeam.mk team (value team)) =
      arrange negative (teams.map fun team => RankedTeam.mk team (value team)) := by
  rw [List.map_map]
  refine (List.map_congr_left fun entry member => ?_).trans (List.map_id _)
  obtain ⟨team, _, rfl⟩ := List.mem_map.mp ((arrange_perm negative _).mem_iff.mp member)
  rfl

theorem descending_arrange (negative : Bool) (entries : List RankedTeam) :
    descending (arrange negative entries) = descending (valued negative entries) :=
  descending_append fun _ member => (mem_unvalued.mp member).2

end

section
variable {entries : List RankedTeam} (comparable : ∀ entry ∈ entries, ∀ number,
  entry.value.reading = some number → number.isNaN = false)
include comparable

theorem descending_descending : descending (descending entries) = descending entries := by
  have reads : ∀ pair ∈ sortedBy (fun left right : RankedTeam × Float => !decide (left.2 < right.2))
      (entries.filterMap withReading?), pair.1.value.reading = some pair.2 :=
    fun pair member => (mem_withReading ((sortedBy_perm _ _).mem_iff.mp member)).2
  rw [descending, descending, filterMap_withReading reads,
    sortedBy_sortedBy (linesUp_withReading comparable)]

theorem arrange_arrange_false : arrange false (arrange false entries) = arrange false entries := by
  have valuedAgain : valued false (arrange false entries) = valued false entries :=
    (descending_arrange false entries).trans (descending_descending comparable)
  rw [arrange, valuedAgain, unvalued_arrange, arrange]

theorem comparable_arrange (negative : Bool) : ∀ entry ∈ arrange negative entries, ∀ number,
    entry.value.reading = some number → number.isNaN = false :=
  fun entry member => comparable entry ((arrange_perm negative entries).mem_iff.mp member)

theorem arrange_ascends :
    (arrange true entries).Pairwise fun left right => left.level ≤ right.level := by
  obtain ⟨_, haveNumbers, haveNone, bestFirst, _, _⟩ := arranges comparable true
  have atEnd : ∀ entry ∈ unvalued entries, entry.level = ⊤ :=
    fun entry member => RankedTeam.level_eq_top.mpr (haveNone entry member)
  refine List.pairwise_append.mpr ⟨bestFirst.imp_of_mem fun leftIn rightIn inOrder => ?_,
    List.pairwise_of_forall_mem_list fun left leftIn right rightIn => ?_,
    fun left _ right rightIn => ?_⟩
  · obtain ⟨number, read⟩ := Option.isSome_iff_exists.mp (haveNumbers _ leftIn)
    obtain ⟨other, otherRead⟩ := Option.isSome_iff_exists.mp (haveNumbers _ rightIn)
    rw [RankedTeam.level_of_some read, RankedTeam.level_of_some otherRead, WithTop.coe_le_coe,
      ← Number.le_iff_place (comparable _ (mem_valued.mp leftIn).1 _ read)
        (comparable _ (mem_valued.mp rightIn).1 _ otherRead)]
    exact inOrder number other read otherRead
  · rw [atEnd left leftIn, atEnd right rightIn]
  · rw [atEnd right rightIn]
    exact le_top

theorem filter_isAt_arrange (number : Float) :
    (arrange true entries).filter (RankedTeam.isAt number) =
      (entries.filter (RankedTeam.isAt number)).reverse := by
  have noneAtEnd : (unvalued entries).filter (RankedTeam.isAt number) = [] := by
    refine List.filter_eq_nil_iff.mpr fun entry member => ?_
    simp [RankedTeam.isAt, (mem_unvalued.mp member).2]
  rw [arrange, List.filter_append, noneAtEnd, List.append_nil]
  exact (arranges comparable true).ties number

theorem eq_of_groups {others : List RankedTeam} (perm : others.Perm entries)
    (ascends : entries.Pairwise fun left right => left.level ≤ right.level)
    (otherAscends : others.Pairwise fun left right => left.level ≤ right.level)
    (groups : ∀ number, others.filter (RankedTeam.isAt number) =
      entries.filter (RankedTeam.isAt number))
    (rest : (others.filter fun entry => entry.value.reading.isNone) =
      entries.filter fun entry => entry.value.reading.isNone) : others = entries := by
  have loops : ∀ entry ∈ entries, RankedTeam.upTo entry entry :=
    fun entry _ => decide_eq_true (le_refl entry.level)
  refine eq_of_sorted loops perm (ascends.imp decide_eq_true) (otherAscends.imp decide_eq_true)
    fun entry member => ?_
  cases read : entry.value.reading with
  | none =>
      have alike : eitherWay RankedTeam.upTo entry = fun other => other.value.reading.isNone := by
        funext other
        rw [Bool.eq_iff_iff, RankedTeam.eitherWay_upTo, RankedTeam.level_eq_top.mpr read,
          RankedTeam.level_eq_top, Option.isNone_iff_eq_none]
      rw [alike, rest]
  | some number =>
      have alike : ∀ other ∈ entries,
          eitherWay RankedTeam.upTo entry other = other.isAt number := by
        intro other otherIn
        rw [Bool.eq_iff_iff, RankedTeam.eitherWay_upTo,
          RankedTeam.isAt_iff_level (comparable other otherIn), RankedTeam.level_of_some read]
        exact (and_iff_right (comparable entry member number read)).symm
      rw [List.filter_congr alike,
        List.filter_congr fun other otherIn => alike other (perm.mem_iff.mp otherIn)]
      exact groups number

end

/-- One ranking has the teams of another with every group of equal ones turned round: at each place
stands a team with the same number, or with none in both. -/
structure TurnsTies (first second : List RankedTeam) : Prop where
  inPlace : List.Forall₂ (fun left right => ∀ number, left.isAt number = right.isAt number)
    first second
  ties : ∀ number, second.filter (RankedTeam.isAt number) =
    (first.filter (RankedTeam.isAt number)).reverse
  rest : (second.filter fun entry => entry.value.reading.isNone) =
    first.filter fun entry => entry.value.reading.isNone

section
variable {entries : List RankedTeam} (comparable : ∀ entry ∈ entries, ∀ number,
  entry.value.reading = some number → number.isNaN = false)
include comparable

theorem turnsTies_arrange :
    TurnsTies (arrange true entries) (arrange true (arrange true entries)) where
  inPlace := by
    have again := comparable_arrange comparable true
    have perm := (arranges again true).perm
    have levels : (arrange true entries).map RankedTeam.level =
        (arrange true (arrange true entries)).map RankedTeam.level := by
      refine List.Perm.eq_of_pairwise (fun left right _ _ => le_antisymm)
        (List.pairwise_map.mpr (arrange_ascends comparable))
        (List.pairwise_map.mpr (arrange_ascends again)) (perm.symm.map _)
    rw [← List.forall₂_eq_eq_eq, List.forall₂_map_left_iff, List.forall₂_map_right_iff,
      List.forall₂_iff_zip] at levels
    refine List.forall₂_iff_zip.mpr ⟨levels.1, fun {left right} paired number => ?_⟩
    obtain ⟨leftIn, rightIn⟩ := List.of_mem_zip paired
    rw [Bool.eq_iff_iff, RankedTeam.isAt_iff_level (again left leftIn),
      RankedTeam.isAt_iff_level (again right (perm.mem_iff.mp rightIn)), levels.2 paired]
  ties := filter_isAt_arrange (comparable_arrange comparable true)
  rest := by rw [filter_isNone_arrange, filter_isNone_arrange, unvalued_arrange]

theorem arrange_arrange_eq_iff : arrange true (arrange true entries) = arrange true entries ↔
    ∀ number, ((arrange true entries).filter (RankedTeam.isAt number)).Palindrome := by
  have again := comparable_arrange comparable true
  have turned := turnsTies_arrange comparable
  constructor
  · intro same number
    have turnedRound := turned.ties number
    rw [same] at turnedRound
    exact List.Palindrome.iff_reverse_eq.mpr turnedRound.symm
  · intro palindromes
    refine eq_of_groups again (arranges again true).perm (arrange_ascends comparable)
      (arrange_ascends again) (fun number => ?_) turned.rest
    rw [turned.ties, List.Palindrome.iff_reverse_eq.mp (palindromes number)]

theorem arrange_arrange_arrange :
    arrange true (arrange true (arrange true entries)) = arrange true entries := by
  have again := comparable_arrange comparable true
  have thrice := comparable_arrange again true
  have turned := turnsTies_arrange comparable
  have back := turnsTies_arrange again
  refine eq_of_groups again ((arranges thrice true).perm.trans (arranges again true).perm)
    (arrange_ascends comparable) (arrange_ascends thrice) (fun number => ?_)
    (back.rest.trans turned.rest)
  rw [back.ties, turned.ties, List.reverse_reverse]

end

end Ranking

namespace Event

variable {event : Event} {key : Key}

section
variable {info : KeyInfo} (resolved : event.catalog.resolve key = .ok info)
  {reading : Subject → Value}
  (settles : ∀ subject, event.environment.Settles (event.readIn key subject none)
    (reading subject))
include resolved settles

variable {function : Option AggregateFunction} {teams others : List Nat} {ranking other : Ranking}

theorem ranking_eq_of_order (found : event.ranking key teams function = .ok ranking)
    (otherFound : event.ranking key others function = .ok other)
    (same : ranking.order = other.order) : ranking = other := by
  obtain ⟨value, _, ranked⟩ := exists_value resolved settles function
  rw [ranked] at found otherFound
  obtain rfl := Except.ok.inj found
  obtain rfl := Except.ok.inj otherFound
  have entries := congrArg (List.map fun team => RankedTeam.mk team (value team)) same
  simp only [Ranking.order, Ranking.map_order_arrange] at entries
  rw [entries]

omit resolved settles in
theorem rank_rank (found : event.ranking key teams none = .ok ranking)
    (again : event.ranking key ranking.order none = .ok ranking) :
    (event.rank key teams >>= event.rank key) = event.rank key teams := by
  have once : event.rank key teams = .ok ranking.order := by
    rw [rank, found]
    rfl
  rw [once]
  exact congrArg (Ranking.order <$> ·) again

theorem ranking_order (found : event.ranking key teams function = .ok ranking) :
    event.ranking key ranking.order function =
      .ok { ranking with entries := Ranking.arrange ranking.negative ranking.entries } := by
  obtain ⟨value, _, ranked⟩ := exists_value resolved settles function
  rw [ranked] at found
  obtain rfl := Except.ok.inj found
  rw [ranked, Ranking.order, Ranking.map_order_arrange]

end

/-- Teams whose numbers can be compared can be ranked in the order of a ranking by the same key.
Where more is better, this gives the same ranking again. Where less is better, it turns every group
of equal teams round and leaves the rest as it is, so that the order stays only if each group reads
the same both ways; ranking the teams in the new order gives the first ranking back. -/
theorem ranking_again (reachable : event.Reachable) (known : event.catalog.Knows key)
    (teams : List Nat) (function : Option AggregateFunction)
    (comparable : ∀ team ∈ teams, ∀ number,
      event.stat key (some (Subject.ofTeam team)) function = .ok (.number number) →
        number.isNaN = false) :
    ∃ ranking again,
      event.ranking key teams function = .ok ranking ∧
      event.isNegative key = .ok ranking.negative ∧
      event.ranking key ranking.order function = .ok again ∧
      (ranking.negative = false → again = ranking ∧
        (function = none → (event.rank key teams >>= event.rank key) = event.rank key teams)) ∧
      (ranking.negative = true →
        Ranking.TurnsTies ranking.entries again.entries ∧
        (again.order = ranking.order ↔
          ∀ number, (ranking.entries.filter (RankedTeam.isAt number)).Palindrome) ∧
        event.ranking key again.order function = .ok ranking) := by
  obtain ⟨reading, read⟩ := exists_reading reachable.sound known none
  obtain ⟨info, resolved⟩ := known
  have settles := fun subject => (read subject).2
  obtain ⟨value, stat, ranked⟩ := exists_value resolved settles function
  have numbers := isNaN_of_entries stat comparable
  have found := ranked teams
  have foundAgain := ranking_order resolved settles found
  refine ⟨_, _, found, ?_, foundAgain, fun positive => ?_, fun negative => ?_⟩
  · simp only [isNegative, resolved]
    rfl
  · simp only at positive
    simp only [positive] at found foundAgain ⊢
    rw [Ranking.arrange_arrange_false numbers] at foundAgain ⊢
    refine ⟨rfl, ?_⟩
    rintro rfl
    exact rank_rank found foundAgain
  · have foundThird := ranking_order resolved settles foundAgain
    simp only at negative
    simp only [negative] at found foundAgain foundThird ⊢
    refine ⟨Ranking.turnsTies_arrange numbers, ?_, ?_⟩
    · rw [← Ranking.arrange_arrange_eq_iff numbers]
      constructor
      · intro same
        exact congrArg Ranking.entries
          (ranking_eq_of_order resolved settles foundAgain found same)
      · intro same
        rw [same]
    · rw [foundThird, Ranking.arrange_arrange_arrange numbers]

/-- An event in which lower values are better: two teams with equal ones, one with a higher one, and
one with a text that stands for no number. -/
def tied : Event :=
  let record (team : Nat) (value : Recorded) : Record :=
    ⟨team, some "a_qm1", none, .played, false, "", false, none, none, none,
      Dictionary.ofList [("time", value)], none, none⟩
  ofInputs
    [record 1 (.integer 5), record 2 (.integer 5), record 3 (.integer 9), record 4 (.text "nan")]
    { Configuration.empty with
      fields := [⟨"time", "time", .counter, .played, [], none, .uniform true, none⟩] }
    OfficialResults.empty Settings.standard

theorem tied_reachable : tied.Reachable := Reachable.ofInputs _ _ _ _

theorem ranking_again_tied :
    tied.catalog.Knows (Key.result "time") ∧
    ∃ ranking again,
      tied.ranking (Key.result "time") [1, 2, 3, 8] none = .ok ranking ∧
      tied.ranking (Key.result "time") ranking.order none = .ok again ∧
      Ranking.TurnsTies ranking.entries again.entries ∧
      (again.order = ranking.order ↔
        ∀ number, (ranking.entries.filter (RankedTeam.isAt number)).Palindrome) ∧
      tied.ranking (Key.result "time") again.order none = .ok ranking := by
  have lower : tied.isNegative (Key.result "time") = .ok true := by decide +kernel
  have known : tied.catalog.Knows (Key.result "time") := by
    cases resolved : tied.catalog.resolve (Key.result "time") with
    | ok info => exact ⟨info, resolved⟩
    | error error =>
        rw [isNegative, resolved] at lower
        cases lower
  have stats : ([1, 2, 3, 8].map fun team => (tied.stat (Key.result "time")
      (some (Subject.ofTeam team)) none).toOption) =
        [some (.number 5.0), some (.number 5.0), some (.number 9.0), some .noData] := by
    decide +kernel
  have comparable : ∀ team ∈ [1, 2, 3, 8], ∀ number,
      tied.stat (Key.result "time") (some (Subject.ofTeam team)) none = .ok (.number number) →
        number.isNaN = false := by
    intro team member number found
    have listed : (tied.stat (Key.result "time") (some (Subject.ofTeam team)) none).toOption ∈
        [some (.number 5.0), some (.number 5.0), some (.number 9.0), some .noData] :=
      stats ▸ List.mem_map_of_mem member
    simp only [found, Except.toOption, List.mem_cons, Option.some.injEq, Aggregate.number.injEq,
      List.not_mem_nil, reduceCtorEq, or_false] at listed
    rcases listed with rfl | rfl | rfl
    · decide
    · decide
    · decide
  obtain ⟨ranking, again, found, negative, foundAgain, _, turned⟩ :=
    ranking_again tied_reachable known [1, 2, 3, 8] none comparable
  have isNegative : ranking.negative = true := Except.ok.inj (negative.symm.trans lower)
  exact ⟨known, ranking, again, found, foundAgain, turned isNegative⟩

/-- Ranking by a key for which less is better is not the end of it: equal teams change places, and
so do all teams where one of them has no number. -/
theorem tied_ranked :
    tied.isNegative (Key.result "time") = .ok true ∧
    (tied.rank (Key.result "time") [1, 2, 3]).toOption = some [2, 1, 3] ∧
    (tied.rank (Key.result "time") [2, 1, 3]).toOption = some [1, 2, 3] ∧
    (tied.rank (Key.result "time") [1, 4, 3]).toOption = some [3, 4, 1] ∧
    (tied.rank (Key.result "time") [3, 4, 1]).toOption = some [1, 4, 3] := by
  decide +kernel

end Event

end Scouting

import Mathlib.Data.List.Forall2
import Scouting.Proofs.Listing

/-!
Inputs that are the same but for whether lower values of one key are better. No check of a
definition looks at that, so the same stats are excluded for the same reasons, and what the others
compile to differs in the terms of weighted ranks and in what is known about the inputs of cycles.
-/

namespace Scouting

/-- Checks with related results, or with the same failure. -/
inductive SameOutcome {ε α β : Type} (related : α → β → Prop) : Except ε α → Except ε β → Prop
  | ok {value : α} {other : β} : related value other → SameOutcome related (.ok value) (.ok other)
  | error (failure : ε) : SameOutcome related (.error failure) (.error failure)

namespace SameOutcome

variable {ε α β γ δ : Type} {related : α → β → Prop} {further : γ → δ → Prop}

theorem of_eq {left right : Except ε α} (same : left = right) : SameOutcome Eq left right := by
  subst same
  cases left with
  | ok value => exact ok rfl
  | error failure => exact error failure

theorem eq {left right : Except ε α} (same : SameOutcome Eq left right) : left = right := by
  cases same with
  | ok values => rw [values]
  | error failure => rfl

theorem exists_of_ok {left : Except ε α} {right : Except ε β}
    (same : SameOutcome related left right) {value : α} (found : left = .ok value) :
    ∃ other, right = .ok other ∧ related value other := by
  cases same with
  | ok values =>
      cases found
      exact ⟨_, rfl, values⟩
  | error failure => cases found

theorem mono {more : α → β → Prop} {left : Except ε α} {right : Except ε β}
    (same : SameOutcome related left right)
    (weaker : ∀ value other, related value other → more value other) :
    SameOutcome more left right := by
  cases same with
  | ok values => exact ok (weaker _ _ values)
  | error failure => exact error failure

theorem bind {left : Except ε α} {right : Except ε β} {next : α → Except ε γ}
    {otherNext : β → Except ε δ} (first : SameOutcome related left right)
    (later : ∀ value other, related value other →
      SameOutcome further (next value) (otherNext other)) :
    SameOutcome further (left >>= next) (right >>= otherNext) := by
  cases first with
  | ok values => exact later _ _ values
  | error failure => exact error failure

theorem pure {value : α} {other : β} (values : related value other) :
    SameOutcome related (Pure.pure value : Except ε α) (Pure.pure other : Except ε β) :=
  ok values

theorem throw (failure : ε) :
    SameOutcome related (throw failure : Except ε α) (throw failure : Except ε β) :=
  error failure

theorem mapM {ι : Type} {action : ι → Except ε α} {otherAction : ι → Except ε β}
    (each : ∀ item, SameOutcome related (action item) (otherAction item)) (items : List ι) :
    SameOutcome (List.Forall₂ related) (items.mapM action) (items.mapM otherAction) := by
  induction items with
  | nil => exact pure .nil
  | cons item rest ih =>
      rw [List.mapM_cons, List.mapM_cons]
      exact (each item).bind fun _ _ head => ih.bind fun _ _ tail => pure (.cons head tail)

theorem asReference {left : Except StatError α} {right : Except StatError β}
    (same : SameOutcome related left right) :
    SameOutcome related (asReference left) (asReference right) := by
  cases same with
  | ok values => exact ok values
  | error failure => exact error _

end SameOutcome

section
variable {α β γ : Type} {related : α → β → Prop} {items : List α} {others : List β}
  (pairs : List.Forall₂ related items others)
include pairs

theorem map_eq_of_forall₂ {change : α → γ} {otherChange : β → γ}
    (each : ∀ item other, related item other → otherChange other = change item) :
    others.map otherChange = items.map change := by
  induction pairs with
  | nil => rfl
  | cons first _ ih => rw [List.map_cons, List.map_cons, each _ _ first, ih]

theorem filterMap_eq_of_forall₂ {change : α → Option γ} {otherChange : β → Option γ}
    (each : ∀ item other, related item other → otherChange other = change item) :
    others.filterMap otherChange = items.filterMap change := by
  induction pairs with
  | nil => rfl
  | cons first _ ih => rw [List.filterMap_cons, List.filterMap_cons, each _ _ first, ih]

end

namespace KeyInfo

/-- Is the same known about a key, but for the polarity of one key? -/
def SameBut (key : Key) (info other : KeyInfo) : Prop :=
  other = info ∨ info.key = key ∧ ∃ polarity, other = { info with polarity }

namespace SameBut

variable {key : Key} {info other : KeyInfo}

theorem refl (key : Key) (info : KeyInfo) : info.SameBut key info := Or.inl rfl

theorem congr (same : info.SameBut key other) {α : Type} (find : KeyInfo → α)
    (blind : ∀ info polarity, find { info with polarity } = find info) :
    find other = find info := by
  rcases same with rfl | ⟨_, polarity, rfl⟩
  · rfl
  · exact blind info polarity

theorem key_eq (same : info.SameBut key other) : other.key = info.key :=
  same.congr KeyInfo.key fun _ _ => rfl

theorem valueKind_eq (same : info.SameBut key other) : other.valueKind = info.valueKind :=
  same.congr valueKind fun _ _ => rfl

end SameBut

end KeyInfo

def StatDefinition.SameBut (key : Key) (definition other : StatDefinition) : Prop :=
  other = definition ∨
    Key.smart definition.id = key ∧ ∃ negative, other = { definition with negative }

namespace StatDefinition.SameBut

variable {key : Key} {definition other : StatDefinition}

theorem congr (same : definition.SameBut key other) {α : Type} (find : StatDefinition → α)
    (blind : ∀ definition negative, find { definition with negative } = find definition) :
    find other = find definition := by
  rcases same with rfl | ⟨_, negative, rfl⟩
  · rfl
  · exact blind definition negative

theorem info (same : definition.SameBut key other) : definition.info.SameBut key other.info := by
  rcases same with rfl | ⟨isKey, negative, rfl⟩
  · exact Or.inl rfl
  · exact Or.inr ⟨isKey, _, rfl⟩

end StatDefinition.SameBut

def WeightedTerm.SameBut (key : Key) (term other : WeightedTerm) : Prop :=
  other = term ∨ term.key.base = key ∧ ∃ negative, other = { term with negative }

def Plan.SameCondition (key : Key) (condition other : KeyInfo × Float) : Prop :=
  condition.1.SameBut key other.1 ∧ other.2 = condition.2

/-- Are two plans the same, but for the polarity of one key? -/
inductive Plan.SameBut (key : Key) : Plan → Plan → Prop
  | refl (plan : Plan) : SameBut key plan plan
  | weightedRank {terms others : List WeightedTerm} :
      List.Forall₂ (WeightedTerm.SameBut key) terms others →
        SameBut key (.weightedRank terms) (.weightedRank others)
  | repetitions (cycle : Key) {conditions others : List (KeyInfo × Float)}
      {sum otherSum denominator otherDenominator : Option KeyInfo} :
      List.Forall₂ (SameCondition key) conditions others →
      Option.Rel (KeyInfo.SameBut key) sum otherSum →
      Option.Rel (KeyInfo.SameBut key) denominator otherDenominator →
        SameBut key (.repetitions cycle conditions sum denominator)
          (.repetitions cycle others otherSum otherDenominator)

theorem Plan.SameBut.keys_eq {key : Key} {plan other : Plan} (same : plan.SameBut key other) :
    other.keys = plan.keys := by
  cases same with
  | refl => rfl
  | weightedRank terms =>
      refine map_eq_of_forall₂ terms fun term other terms => ?_
      rcases terms with rfl | ⟨_, _, rfl⟩
      · rfl
      · rfl
  | repetitions => rfl

namespace Stat

/-- Are two stats the same, but for the polarity of one key? -/
structure SameBut (key : Key) (stat other : Stat) : Prop where
  definition : stat.definition.SameBut key other.definition
  plan : stat.plan.SameBut key other.plan

namespace SameBut

variable {key : Key} {stat other : Stat} (same : stat.SameBut key other)
include same

theorem key_eq : other.key = stat.key :=
  same.definition.congr (fun definition => Key.smart definition.id) fun _ _ => rfl

theorem dependencies_eq : other.dependencies = stat.dependencies := by
  rw [dependencies, dependencies, same.plan.keys_eq]

theorem isTeamScoped_eq : other.isTeamScoped = stat.isTeamScoped :=
  same.definition.congr StatDefinition.isTeamScoped fun _ _ => rfl

theorem function_eq : other.definition.function = stat.definition.function :=
  same.definition.congr StatDefinition.function fun _ _ => rfl

end SameBut

end Stat

namespace Catalog

/-- Is the same known about all keys, but for the polarity of one key? -/
structure SameBut (key : Key) (left right : Catalog) : Prop where
  find? : ∀ other, Option.Rel (KeyInfo.SameBut key) (left.find? other) (right.find? other)
  perTeam : right.official.perTeam = left.official.perTeam
  perMatch : right.official.perMatch = left.official.perMatch

namespace SameBut

variable {key : Key} {left right : Catalog}

theorem insert (same : left.SameBut key right) {info other : KeyInfo}
    (infos : info.SameBut key other) : (left.insert info).SameBut key (right.insert other) := by
  refine ⟨fun sought => ?_, same.perTeam, same.perMatch⟩
  rw [find?_insert, find?_insert, infos.key_eq]
  split
  · exact .some infos
  · exact same.find? sought

theorem foldl_insert (same : left.SameBut key right) {infos others : List KeyInfo}
    (pairs : List.Forall₂ (KeyInfo.SameBut key) infos others) :
    (infos.foldl Catalog.insert left).SameBut key (others.foldl Catalog.insert right) :=
  List.rel_foldl (fun _ _ same _ _ infos => same.insert infos) same pairs

theorem remove (same : left.SameBut key right) (keys : List Key) :
    (left.remove keys).SameBut key (right.remove keys) := by
  refine ⟨fun sought => ?_, ?_, ?_⟩
  · rw [find?_remove, find?_remove]
    split
    · exact .none
    · exact same.find? sought
  · rw [official_remove, official_remove, same.perTeam]
  · rw [official_remove, official_remove, same.perMatch]

section
variable (same : left.SameBut key right)
include same

theorem isSome_find? (sought : Key) : (right.find? sought).isSome = (left.find? sought).isSome := by
  have infos := same.find? sought
  generalize left.find? sought = info at infos ⊢
  generalize right.find? sought = other at infos ⊢
  cases infos with
  | none => rfl
  | some => rfl

theorem resolve (sought : Key) :
    SameOutcome (fun info other => info.key = sought.base ∧ info.SameBut key other)
      (left.resolve sought) (right.resolve sought) := by
  have infos := same.find? sought.base
  have keyed : ∀ info, left.find? sought.base = some info → info.key = sought.base :=
    fun _ => info_key_of_find?
  rw [Catalog.resolve, Catalog.resolve]
  generalize left.find? sought.base = info at infos keyed ⊢
  generalize right.find? sought.base = other at infos ⊢
  cases infos with
  | none => exact .error _
  | @some info other infos =>
      have admits : admits other sought = admits info sought :=
        infos.congr (Catalog.admits · sought) fun _ _ => rfl
      rw [Option.filter_some, Option.filter_some, admits]
      cases Catalog.admits info sought with
      | true => exact .ok ⟨keyed info rfl, infos⟩
      | false => exact .error _

theorem exists_resolved {sought : Key} {info : KeyInfo}
    (resolved : left.resolve sought = .ok info) :
    ∃ other, right.resolve sought = .ok other ∧ info.SameBut key other := by
  obtain ⟨other, alsoResolved, _, infos⟩ := (same.resolve sought).exists_of_ok resolved
  exact ⟨other, alsoResolved, infos⟩

theorem resolve_eq_error {sought : Key} {failure : StatError}
    (unknown : left.resolve sought = .error failure) : right.resolve sought = .error failure := by
  have infos := same.resolve sought
  rw [unknown] at infos
  generalize right.resolve sought = other at infos ⊢
  cases infos
  rfl

theorem knows_iff (sought : Key) : right.Knows sought ↔ left.Knows sought := by
  rw [Knows, Knows]
  cases outcome : left.resolve sought with
  | ok info =>
      obtain ⟨other, alsoResolved, _⟩ := same.exists_resolved outcome
      exact ⟨fun _ => ⟨info, rfl⟩, fun _ => ⟨other, alsoResolved⟩⟩
  | error failure => rw [same.resolve_eq_error outcome]

theorem parse_eq : left.parse = right.parse := by
  refine funext fun text => SameOutcome.eq ((SameOutcome.of_eq rfl).bind ?_)
  rintro sought _ rfl
  exact (same.resolve sought).bind fun _ _ _ => .pure rfl

theorem resolveReference_eq (text : String) :
    left.resolveReference text = right.resolveReference text := by
  simp only [resolveReference, parse_eq same, isSome_find? same]

theorem reference (text : String) :
    SameOutcome (fun found other => other.1 = found.1 ∧ found.2.SameBut key other.2)
      (left.reference text) (right.reference text) := by
  refine (SameOutcome.of_eq (same.resolveReference_eq text)).asReference.bind ?_
  rintro sought _ rfl
  exact (same.resolve sought).asReference.bind fun _ _ infos => .pure ⟨rfl, infos.2⟩

theorem numericKey_eq : left.numericKey = right.numericKey := by
  refine funext fun text => SameOutcome.eq ((same.reference text).bind ?_)
  rintro ⟨sought, info⟩ ⟨_, other⟩ ⟨rfl, infos⟩
  dsimp only
  rw [infos.valueKind_eq]
  exact .of_eq rfl

theorem numericKeys_eq : left.numericKeys = right.numericKeys := by
  funext texts
  rw [numericKeys, numericKeys, same.numericKey_eq]

theorem numericKey?_eq (text : Option String) : left.numericKey? text = right.numericKey? text := by
  cases text with
  | none => rfl
  | some text => simp only [numericKey?, same.numericKey_eq]

theorem filterPlan_eq (filtered : Option String) (condition : String) (comparison : Comparison)
    (value : Json) :
    left.filterPlan filtered condition comparison value =
      right.filterPlan filtered condition comparison value := by
  refine SameOutcome.eq ((same.reference condition).bind ?_)
  rintro ⟨condition, info⟩ ⟨_, other⟩ ⟨rfl, infos⟩
  have target : other.target value = info.target value :=
    infos.congr (KeyInfo.target · value) fun _ _ => rfl
  dsimp only
  rw [infos.valueKind_eq, same.numericKey?_eq, target]
  exact .of_eq rfl

theorem mapPlan_eq (text : String) (table : List Float) (scale offset : Float) :
    left.mapPlan text table scale offset = right.mapPlan text table scale offset := by
  refine SameOutcome.eq ((same.reference text).bind ?_)
  rintro ⟨_, info⟩ ⟨sought, other⟩ ⟨rfl, infos⟩
  have size : tableSize? sought other = tableSize? sought info := by
    rw [tableSize?, tableSize?, infos.valueKind_eq]
  dsimp only
  rw [size]
  exact .of_eq rfl

theorem mathPlan_eq (source : String) : left.mathPlan source = right.mathPlan source := by
  simp only [mathPlan, same.numericKey_eq]

theorem weightedTerm (term : WeightedReference) :
    SameOutcome (WeightedTerm.SameBut key) (left.weightedTerm term) (right.weightedTerm term) := by
  refine (SameOutcome.of_eq (congrFun same.numericKey_eq term.reference)).bind ?_
  rintro sought _ rfl
  refine (same.resolve sought).asReference.bind fun info other infos => .pure ?_
  obtain ⟨isKey, rfl | ⟨turned, polarity, rfl⟩⟩ := infos
  · exact Or.inl rfl
  · exact Or.inr ⟨isKey ▸ turned, _, rfl⟩

theorem weightedRankPlan (terms : List WeightedReference) :
    SameOutcome (Plan.SameBut key) (left.weightedRankPlan terms)
      (right.weightedRankPlan terms) := by
  rw [Catalog.weightedRankPlan, Catalog.weightedRankPlan]
  split
  · exact .throw _
  · exact (SameOutcome.mapM same.weightedTerm terms).bind
      fun _ _ terms => .pure (.weightedRank terms)

theorem inCycle (cycle : Key) (text : String) :
    SameOutcome (KeyInfo.SameBut key) (left.inCycle cycle text) (right.inCycle cycle text) := by
  refine (same.reference text).bind ?_
  rintro ⟨sought, info⟩ ⟨_, other⟩ ⟨rfl, infos⟩
  have recorded : other.cycle = info.cycle := infos.congr KeyInfo.cycle fun _ _ => rfl
  dsimp only
  rw [recorded]
  split
  · exact .pure infos
  · exact .throw _

theorem counterInCycle (cycle : Key) (text : Option String) :
    SameOutcome (Option.Rel (KeyInfo.SameBut key)) (left.counterInCycle cycle text)
      (right.counterInCycle cycle text) := by
  cases text with
  | none => exact .pure .none
  | some text =>
      refine (same.inCycle cycle text).bind fun info other infos => ?_
      rw [infos.valueKind_eq, infos.key_eq]
      split
      · exact .pure (.some infos)
      · exact .throw _

theorem repetitionsPlan (cycle : String) (conditions : Dictionary String Json)
    (sum denominator : Option String) :
    SameOutcome (Plan.SameBut key) (left.repetitionsPlan cycle conditions sum denominator)
      (right.repetitionsPlan cycle conditions sum denominator) := by
  refine (same.reference cycle).bind ?_
  rintro ⟨cycle, info⟩ ⟨_, other⟩ ⟨rfl, infos⟩
  dsimp only
  rw [infos.valueKind_eq]
  split
  · exact .throw _
  · refine (SameOutcome.mapM (fun entry => ?_) conditions.entries).bind fun _ _ conditions =>
      (same.counterInCycle _ sum).bind fun _ _ sum =>
        (same.counterInCycle _ denominator).bind fun _ _ denominator =>
          .pure (.repetitions _ conditions sum denominator)
    refine (same.inCycle _ entry.1).bind fun input other inputs => ?_
    have target : other.target entry.2 = input.target entry.2 :=
      inputs.congr (KeyInfo.target · entry.2) fun _ _ => rfl
    rw [target]
    refine (SameOutcome.of_eq rfl).bind ?_
    rintro number _ rfl
    exact .pure ⟨inputs, rfl⟩

theorem plan (operator : Operator) :
    SameOutcome (Plan.SameBut key) (left.plan operator) (right.plan operator) := by
  have whole {found other : Checked Plan} (equal : found = other) :
      SameOutcome (Plan.SameBut key) found other :=
    (SameOutcome.of_eq equal).mono fun plan _ equal => equal ▸ .refl plan
  cases operator with
  | filter filtered condition comparison value =>
      exact whole (same.filterPlan_eq filtered condition comparison value)
  | map mapped table scale offset => exact whole (same.mapPlan_eq mapped table scale offset)
  | math source => exact whole (same.mathPlan_eq source)
  | weightedRank terms => exact same.weightedRankPlan terms
  | repetitions cycle conditions sum denominator =>
      exact same.repetitionsPlan cycle conditions sum denominator
  | extreme extreme keys => exact whole (by simp only [Catalog.plan, same.numericKeys_eq])
  | sum keys => exact whole (by simp only [Catalog.plan, same.numericKeys_eq])
  | ratio numerator denominator =>
      exact whole (by simp only [Catalog.plan, same.numericKey_eq])
  | percent numerator denominator =>
      exact whole (by simp only [Catalog.plan, same.numericKey_eq])

theorem compile {definition other : StatDefinition} (definitions : definition.SameBut key other) :
    SameOutcome (Stat.SameBut key) (left.compile definition) (right.compile other) := by
  have operator : other.operator = definition.operator :=
    definitions.congr StatDefinition.operator fun _ _ => rfl
  rw [Catalog.compile, Catalog.compile, operator]
  exact (same.plan definition.operator).bind fun _ _ plans => .pure ⟨definitions, plans⟩

end

end SameBut

end Catalog

namespace Validation

variable {key : Key}

section
variable {definitions others : List StatDefinition}
  (same : List.Forall₂ (StatDefinition.SameBut key) definitions others)
include same

theorem accept_sameBut (earlier former : List StatDefinition)
    (before : former.map StatDefinition.id = earlier.map StatDefinition.id) :
    List.Forall₂ (StatDefinition.SameBut key) (accept earlier definitions).1
        (accept former others).1 ∧
      (accept former others).2 = (accept earlier definitions).2 := by
  induction same generalizing earlier former with
  | nil => exact ⟨.nil, rfl⟩
  | @cons first other _ _ firsts _ ih =>
      have id : other.id = first.id := firsts.congr StatDefinition.id fun _ _ => rfl
      have refusal : other.refusal? former = first.refusal? earlier := by
        have repeated (earlier : List StatDefinition) : earlier.any (·.id == first.id) =
            (earlier.map StatDefinition.id).any (· == first.id) := by
          rw [List.any_map]
          rfl
        rw [StatDefinition.refusal?, StatDefinition.refusal?, id, repeated, repeated, before]
      have earlierIds : (other :: former).map StatDefinition.id =
          (first :: earlier).map StatDefinition.id := by
        rw [List.map_cons, List.map_cons, id, before]
      obtain ⟨accepted, refused⟩ := ih _ _ earlierIds
      simp only [accept, refusal, id]
      cases first.refusal? earlier with
      | none => exact ⟨.cons firsts accepted, refused⟩
      | some fault => exact ⟨accepted, by rw [refused]⟩

end

section
variable {left right : Catalog} (same : left.SameBut key right)
include same

theorem register_sameBut {definitions others : List StatDefinition}
    (pairs : List.Forall₂ (StatDefinition.SameBut key) definitions others) :
    (register left definitions).SameBut key (register right others) :=
  List.rel_foldl (fun _ _ same _ _ definitions => same.insert definitions.info) same pairs

theorem compiled_sameBut {definitions others : List StatDefinition}
    (pairs : List.Forall₂ (StatDefinition.SameBut key) definitions others) :
    List.Forall₂ (Stat.SameBut key) (compiled left definitions) (compiled right others) := by
  refine List.rel_filterMap (fun definition other definitions => ?_) pairs
  have stats := same.compile definitions
  generalize left.compile definition = stat at stats ⊢
  generalize right.compile other = turned at stats ⊢
  cases stats with
  | ok stats => exact .some stats
  | error => exact .none

theorem uncompiled?_sameBut {definition other : StatDefinition}
    (definitions : definition.SameBut key other) :
    uncompiled? right other = uncompiled? left definition := by
  have id : other.id = definition.id := definitions.congr StatDefinition.id fun _ _ => rfl
  have stats := same.compile definitions
  rw [uncompiled?, uncompiled?, id]
  generalize left.compile definition = stat at stats ⊢
  generalize right.compile other = turned at stats ⊢
  cases stats with
  | ok => rfl
  | error => rfl

end

section
variable {stats others : List Stat} (same : List.Forall₂ (Stat.SameBut key) stats others)
include same

theorem ofStats_sameBut : Dependencies.ofStats others = Dependencies.ofStats stats :=
  map_eq_of_forall₂ same fun _ _ stats => by rw [stats.key_eq, stats.dependencies_eq]

theorem remaining_sameBut (keys : List Key) :
    List.Forall₂ (Stat.SameBut key) (remaining stats keys) (remaining others keys) :=
  List.rel_filter (fun _ _ stats => by simp only [stats.key_eq]) same

theorem tainted_sameBut : tainted others = tainted stats := by
  funext keys
  exact filterMap_eq_of_forall₂ (remaining_sameBut same keys) fun _ _ stats => by
    rw [stats.key_eq, stats.dependencies_eq]

theorem spread_sameBut (excluded : Excluded) : spread others excluded = spread stats excluded := by
  induction excluded using spread.induct stats with
  | case1 excluded none =>
      have left := spread.eq_1 stats excluded
      rw [dif_pos none] at left
      rw [left, spread, tainted_sameBut same, dif_pos none]
  | case2 excluded some _ ih =>
      have left := spread.eq_1 stats excluded
      rw [dif_neg some] at left
      rw [left, ← ih, spread, tainted_sameBut same, dif_neg some]

end

/-- Do two validations exclude the same, and differ otherwise in the polarity of one key only? -/
structure SameBut (key : Key) (left right : Validation) : Prop where
  stats : List.Forall₂ (Stat.SameBut key) left.stats right.stats
  exclusions : right.exclusions = left.exclusions
  catalog : left.catalog.SameBut key right.catalog

theorem ofDefinitions_sameBut {definitions others : List StatDefinition} {left right : Catalog}
    (pairs : List.Forall₂ (StatDefinition.SameBut key) definitions others)
    (same : left.SameBut key right) :
    SameBut key (ofDefinitions definitions left) (ofDefinitions others right) := by
  obtain ⟨accepted, refused⟩ := accept_sameBut pairs [] [] rfl
  have registered : (registered definitions left).SameBut key (registered others right) :=
    register_sameBut same accepted
  have candidates : List.Forall₂ (Stat.SameBut key) (candidates definitions left)
      (candidates others right) := compiled_sameBut registered accepted
  have uncompiled : uncompiled others right = uncompiled definitions left := by
    have reports := filterMap_eq_of_forall₂ accepted fun _ _ definitions =>
      uncompiled?_sameBut registered definitions
    have written := map_eq_of_forall₂ pairs fun _ _ definitions =>
      definitions.congr (fun definition => Key.smart definition.id) fun _ _ => rfl
    have compiled := map_eq_of_forall₂ candidates fun _ _ stats => stats.key_eq
    rw [Validation.uncompiled, Validation.uncompiled, refused, reports, written, compiled]
  have excluded : excluded others right = excluded definitions left := by
    rw [Validation.excluded, Validation.excluded, withCycles, withCycles, uncompiled,
      ofStats_sameBut candidates, spread_sameBut candidates]
  rw [ofDefinitions_eq, ofDefinitions_eq, excluded]
  exact ⟨remaining_sameBut candidates _, rfl, registered.remove _⟩

end Validation

namespace FieldDefinition

/-- Are two fields the same, but for the polarity of one key? A field that is read as a whole or by
its options has one key, and a field of counters has one for each. -/
inductive SameBut (key : Key) : FieldDefinition → FieldDefinition → Prop
  | refl (field : FieldDefinition) : SameBut key field field
  | whole {field : FieldDefinition} (polarity : Polarity) : field.kind ≠ .multicounter →
      Key.result field.id = key → SameBut key field { field with polarity }
  | counters {field : FieldDefinition} (polarity : Polarity) : field.kind = .multicounter →
      (∀ index option, field.options[index]? = some option →
        Key.result (field.counterId option) ≠ key →
          polarity.isNegative (some index) = field.polarity.isNegative (some index)) →
      SameBut key field { field with polarity }

theorem infos_of_whole {field : FieldDefinition} (whole : field.kind ≠ .multicounter) :
    field.infos = [⟨Key.result field.id, field.name, field.kind, field.keyOptions, field.polarity,
      field.mode, field.cycle⟩] := by
  rw [infos]
  split
  · contradiction
  · rfl

theorem SameBut.infos {key : Key} {field other : FieldDefinition} (same : field.SameBut key other) :
    List.Forall₂ (KeyInfo.SameBut key) field.infos other.infos := by
  cases same with
  | refl => exact List.forall₂_same.mpr fun info _ => .refl key info
  | whole polarity whole isKey =>
      have turned : ({ field with polarity } : FieldDefinition).kind ≠ .multicounter := whole
      rw [infos_of_whole whole, infos_of_whole turned]
      exact .cons (Or.inr ⟨isKey, polarity, rfl⟩) .nil
  | counters polarity counters others =>
      simp only [FieldDefinition.infos, counters, List.mapIdx_eq_zipIdx_map,
        List.forall₂_map_left_iff, List.forall₂_map_right_iff]
      refine List.forall₂_same.mpr fun entry member => ?_
      by_cases isKey : Key.result (field.counterId entry.1) = key
      · exact Or.inr ⟨isKey, _, rfl⟩
      · have same := others entry.2 entry.1 (List.mem_zipIdx_iff_getElem?.mp member) isKey
        refine Or.inl ?_
        simp only [counterInfo, same]
        rfl

end FieldDefinition

namespace OfficialResults

/-- Are two imports the same, but for the polarity of one key? -/
structure SameBut (key : Key) (left right : OfficialResults) : Prop where
  fields : List.Forall₂ (fun entry other => other = entry ∨
    Key.plain .official entry.1 = key ∧ ∃ negative, other = (entry.1, { entry.2 with negative }))
    left.fields.entries right.fields.entries
  perTeam : right.perTeam = left.perTeam
  perMatch : right.perMatch = left.perMatch

theorem SameBut.refl (key : Key) (results : OfficialResults) : results.SameBut key results :=
  ⟨List.forall₂_same.mpr fun _ _ => Or.inl rfl, rfl, rfl⟩

namespace SameBut

variable {key : Key} {left right : OfficialResults} (same : left.SameBut key right)
include same

theorem leaves_eq : right.leaves = left.leaves := by
  rw [leaves, leaves, same.perTeam, same.perMatch]

theorem ids_eq : right.ids = left.ids := by
  have described : right.fields.keys = left.fields.keys := by
    refine map_eq_of_forall₂ same.fields fun entry other entries => ?_
    rcases entries with rfl | ⟨_, _, rfl⟩
    · rfl
    · rfl
  rw [ids, ids, described, same.leaves_eq]

theorem find? (id : String) :
    Option.Rel (fun field other => other = field ∨
      Key.plain .official id = key ∧ ∃ negative, other = { field with negative })
      (left.fields.find? id) (right.fields.find? id) := by
  have pairs := same.fields
  rw [Dictionary.find?, Dictionary.find?]
  generalize left.fields.entries = entries at pairs ⊢
  generalize right.fields.entries = others at pairs ⊢
  induction pairs with
  | nil => exact .none
  | cons first _ ih =>
      rw [Entries.lookup_cons, Entries.lookup_cons]
      rcases first with rfl | ⟨isKey, negative, rfl⟩
      · split
        · exact .some (Or.inl rfl)
        · exact ih
      · split
        · rename_i atFirst
          exact .some (Or.inr ⟨atFirst ▸ isKey, negative, rfl⟩)
        · exact ih

theorem info (id : String) : (left.info id).SameBut key (right.info id) := by
  have fields := same.find? id
  rw [OfficialResults.info, OfficialResults.info, sample?, sample?, same.leaves_eq]
  generalize left.fields.find? id = field at fields ⊢
  generalize right.fields.find? id = other at fields ⊢
  cases fields with
  | none => exact .refl key _
  | some fields =>
      rcases fields with rfl | ⟨isKey, negative, rfl⟩
      · exact .refl key _
      · exact Or.inr ⟨isKey, _, rfl⟩

end SameBut

end OfficialResults

namespace Configuration

/-- Are two configurations the same, but for the polarity of one key? -/
structure SameBut (key : Key) (config other : Configuration) : Prop where
  fields : List.Forall₂ (FieldDefinition.SameBut key) config.fields other.fields
  definitions : List.Forall₂ (StatDefinition.SameBut key) config.definitions other.definitions
  rejected : other.rejected = config.rejected
  teams : other.teams = config.teams

end Configuration

theorem Catalog.ofFields_sameBut {key : Key} {fields others : List FieldDefinition}
    {official results : OfficialResults}
    (pairs : List.Forall₂ (FieldDefinition.SameBut key) fields others)
    (imports : official.SameBut key results) :
    (ofFields fields official).SameBut key (ofFields others results) := by
  have empty : (⟨[], [], official⟩ : Catalog).SameBut key ⟨[], [], results⟩ :=
    ⟨fun _ => .none, imports.perTeam, imports.perMatch⟩
  refine empty.foldl_insert (List.rel_append (List.rel_append ?_ ?_) ?_)
  · exact List.rel_flatMap pairs fun _ _ fields => fields.infos
  · rw [imports.ids_eq, List.forall₂_map_left_iff, List.forall₂_map_right_iff]
    exact List.forall₂_same.mpr fun id _ => imports.info id
  · exact List.forall₂_same.mpr fun info _ => .refl key info

end Scouting

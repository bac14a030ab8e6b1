import CiCoordinator.PlanningCore.Model

/- The witness closure of selected obligations. -/

namespace CiCoordinator.PlanningCore

open Library Kernel ValidationContract RepoContext Dictionary List

/-- The witness of a group of requirements runs at their strongest depth. -/
def assembleWitness (entry : Text × List SelectedObligation) : Py SelectedWitness := do
  let requiredBy ← sortedByText id (entry.2.map fun item => item.obligationId)
  match ValidationDepth.strongest (entry.2.map fun item => item.depth) with
  | none => .error (.valueError (ascii "max() iterable argument is empty"))
  | some depth => SelectedWitness.create entry.1 depth requiredBy

/-- Requirements are grouped by witness, and the witnesses are listed by identity. -/
def assembleWitnesses (requirements : List (Text × SelectedObligation)) : Py (List SelectedWitness) := do
  let ordered ← sortedByText Prod.fst (Dictionary.group requirements).entries
  collect assembleWitness ordered

/-- Each selected obligation requires its own witnesses. -/
def requirementsOf (selected : List SelectedObligation) : List (Text × SelectedObligation) :=
  selected.flatMap fun item => item.requiredWitnessIds.map fun witnessId => (witnessId, item)

/-- The selected obligations that require a witness. -/
def requiring (selected : List SelectedObligation) (witnessId : Text) : List SelectedObligation :=
  selected.filter fun item => witnessId ∈ item.requiredWitnessIds

/-- Witnesses close selected obligations when they are exactly the required ones, each at the strongest depth that
requires it. -/
structure Closes (selected : List SelectedObligation) (witnesses : List SelectedWitness) : Prop where
  ordered : CanonicalTexts (witnesses.map fun item => item.witnessId)
  required : ∀ item ∈ selected, ∀ witnessId ∈ item.requiredWitnessIds, ∃ witness ∈ witnesses, witness.witnessId = witnessId
  requiredBy : ∀ witness ∈ witnesses, ∀ obligationId, obligationId ∈ witness.requiredByObligationIds ↔
    ∃ item ∈ selected, item.obligationId = obligationId ∧ witness.witnessId ∈ item.requiredWitnessIds
  strong : ∀ witness ∈ witnesses, ∀ item ∈ selected, witness.witnessId ∈ item.requiredWitnessIds →
    item.depth.rank ≤ witness.depth.rank
  attained : ∀ witness ∈ witnesses, ∃ item ∈ selected, witness.witnessId ∈ item.requiredWitnessIds ∧
    item.depth = witness.depth

/-- A selected obligation that keeps the requirements of another and is at least as deep. -/
def Covers (candidate source : SelectedObligation) : Prop :=
  candidate.obligationId = source.obligationId ∧ candidate.requiredWitnessIds = source.requiredWitnessIds ∧
    source.depth.rank ≤ candidate.depth.rank

/-- A selected witness that keeps the reverse edges of another and is at least as deep. -/
def WitnessCovers (candidate source : SelectedWitness) : Prop :=
  candidate.witnessId = source.witnessId ∧ source.depth.rank ≤ candidate.depth.rank ∧
    source.requiredByObligationIds ⊆ candidate.requiredByObligationIds

/-- Deeper selections have deeper witnesses with more reverse edges. -/
theorem Closes.covers {left right : List SelectedObligation} {leftWitnesses rightWitnesses : List SelectedWitness}
    (leftCloses : Closes left leftWitnesses) (rightCloses : Closes right rightWitnesses)
    (covers : ∀ source ∈ left, ∃ item ∈ right, Covers item source) :
    ∀ source ∈ leftWitnesses, ∃ witness ∈ rightWitnesses, WitnessCovers witness source := by
  intro source member
  obtain ⟨strong, strongMember, strongRequired, strongDepth⟩ := leftCloses.attained source member
  obtain ⟨item, inside, -, itemRequired, itemDepth⟩ := covers strong strongMember
  have requires : source.witnessId ∈ item.requiredWitnessIds := itemRequired ▸ strongRequired
  obtain ⟨witness, witnessMember, same⟩ := rightCloses.required item inside source.witnessId requires
  refine ⟨witness, witnessMember, same, ?_, ?_⟩
  · have bound := rightCloses.strong witness witnessMember item inside (same ▸ requires)
    rw [← strongDepth]
    exact itemDepth.trans bound
  · intro obligationId listed
    obtain ⟨origin, originMember, rfl, originRequired⟩ := (leftCloses.requiredBy source member obligationId).mp listed
    obtain ⟨cover, coverMember, coverIdentity, coverRequired, -⟩ := covers origin originMember
    refine (rightCloses.requiredBy witness witnessMember _).mpr ⟨cover, coverMember, coverIdentity, ?_⟩
    rw [same, coverRequired]
    exact originRequired

theorem strongest_spec {depths : List ValidationDepth} (nonempty : depths ≠ []) :
    ∃ depth ∈ depths, ValidationDepth.strongest depths = some depth ∧ ∀ other ∈ depths, other.rank ≤ depth.rank := by
  obtain ⟨first, rest, rfl⟩ := exists_cons_of_ne_nil nonempty
  have general : ∀ (rest : List ValidationDepth) (first : ValidationDepth), rest.foldl ValidationDepth.max first ∈ first :: rest ∧
        ∀ other ∈ first :: rest, other.rank ≤ (rest.foldl ValidationDepth.max first).rank := by
    intro rest
    induction rest with
    | nil => simp
    | cons second rest ih =>
      intro first
      obtain ⟨member, bound⟩ := ih (first.max second)
      have either := ValidationDepth.max_eq first second
      have rank := ValidationDepth.rank_max first second
      rw [foldl_cons]
      constructor
      · rcases mem_cons.mp member with equal | later
        · rw [equal]
          rcases either with left | right
          · simp [left]
          · simp [right]
        · simp [later]
      · intro other contained
        have merged := bound (first.max second) mem_cons_self
        rw [rank] at merged
        rcases mem_cons.mp contained with rfl | contained
        · exact (Nat.le_max_left _ _).trans merged
        · rcases mem_cons.mp contained with rfl | contained
          · exact (Nat.le_max_right _ _).trans merged
          · exact bound other (mem_cons_of_mem _ contained)
  obtain ⟨member, bound⟩ := general rest first
  exact ⟨_, member, rfl, bound⟩

variable {witnessId : Text}

theorem mem_requirementsOf {selected : List SelectedObligation} {item : SelectedObligation} :
    (witnessId, item) ∈ requirementsOf selected ↔ item ∈ selected ∧ witnessId ∈ item.requiredWitnessIds := by
  simp only [requirementsOf, mem_flatMap, mem_map, Prod.mk.injEq]
  constructor
  · rintro ⟨other, member, id, required, rfl, rfl⟩
    exact ⟨member, required⟩
  · rintro ⟨member, required⟩
    exact ⟨item, member, witnessId, required, rfl, rfl⟩

/-- The requirements of a witness keep the order of the selected obligations. -/
theorem valuesOf_requirementsOf (selected : List SelectedObligation) (witnessId : Text) :
    valuesOf witnessId (requirementsOf selected) = requiring selected witnessId := by
  have single : ∀ item : SelectedObligation, ∀ ids : List Text, ids.Nodup →
      valuesOf witnessId (ids.map fun id => (id, item)) = if witnessId ∈ ids then [item] else [] := by
    intro item ids
    induction ids with
    | nil => simp [valuesOf]
    | cons id rest ih =>
      intro distinct
      rw [nodup_cons] at distinct
      have tail := ih distinct.2
      by_cases same : id = witnessId
      · have absent : witnessId ∉ rest := same ▸ distinct.1
        simp only [valuesOf, absent, if_false] at tail
        simp [valuesOf, same, tail]
      · have different : witnessId ≠ id := Ne.symm same
        simp only [valuesOf] at tail
        simp [valuesOf, same, different, tail]
  induction selected with
  | nil => rfl
  | cons item rest ih =>
    have split : valuesOf witnessId (requirementsOf (item :: rest)) =
        valuesOf witnessId (item.requiredWitnessIds.map fun id => (id, item)) ++ valuesOf witnessId (requirementsOf rest) := by
      simp [requirementsOf, valuesOf]
    rw [split, ih, single item _ item.facts.2.2.2.2.nodup, requiring, requiring, filter_cons]
    split <;> simp_all

/-- A witness required by obligations in canonical order can be assembled. -/
theorem assembleWitness_total {selected : List SelectedObligation} (canonical : CanonicalTexts (selected.map (·.obligationId)))
    (required : ∃ item ∈ selected, witnessId ∈ item.requiredWitnessIds) :
    ∃ witness, assembleWitness (witnessId, requiring selected witnessId) = .ok witness ∧ witness.witnessId = witnessId ∧
      witness.requiredByObligationIds = ((requiring selected witnessId).map (·.obligationId)) ∧
      ValidationDepth.strongest ((requiring selected witnessId).map (·.depth)) = some witness.depth := by
  set group := requiring selected witnessId
  obtain ⟨item, member, contained⟩ := required
  have inGroup : item ∈ group := mem_filter.mpr ⟨member, by simpa using contained⟩
  have groupCanonical : CanonicalTexts (group.map (·.obligationId)) :=
    canonical.sublist (filter_sublist.map _)
  have ordered : sortedByText id (group.map (·.obligationId)) = .ok (group.map (·.obligationId)) :=
    sortedByText_of_canonical (by simpa using groupCanonical)
  have depthsNonempty : group.map (·.depth) ≠ [] := by
    simpa using ne_nil_of_mem inGroup
  obtain ⟨depth, -, strongest, -⟩ := strongest_spec depthsNonempty
  have admitted : SelectedWitnessFields.postInit ⟨witnessId, depth, group.map (·.obligationId)⟩ = .ok () := by
    have witnessFacts := item.facts
    simp only [SelectedWitnessFields.postInit, bind_unit_eq_ok, requireNonEmptyString_eq_ok, requireSortedUniqueStrings_eq_ok]
    refine ⟨⟨?_, witnessFacts.2.2.2.2.1 witnessId contained⟩, ?_, ?_, groupCanonical⟩
    · rintro rfl
      exact witnessFacts.2.2.2.1 contained
    · intro _
      simpa using ne_nil_of_mem inGroup
    · intro empty
      obtain ⟨other, -, equal⟩ := mem_map.mp empty
      exact other.facts.1 equal
  refine ⟨⟨_, admitted⟩, ?_, rfl, rfl, strongest⟩
  simp only [assembleWitness, ordered, ok_bind_eq, strongest, SelectedWitness.create]
  exact construct_ok admitted

/-- The closure of canonical obligations exists and closes them. -/
theorem assembleWitnesses_total {selected : List SelectedObligation}
    (canonical : CanonicalTexts (selected.map (·.obligationId))) :
    ∃ witnesses, assembleWitnesses (requirementsOf selected) = .ok witnesses ∧ Closes selected witnesses := by
  have entry : ∀ pair ∈ (Dictionary.group (requirementsOf selected)).entries,
      pair.2 = requiring selected pair.1 ∧ ∃ item ∈ selected, pair.1 ∈ item.requiredWitnessIds := by
    intro pair member
    obtain ⟨values, nonempty⟩ := Dictionary.get?_group.mp (Dictionary.get?_eq_some_iff.mpr member)
    rw [valuesOf_requirementsOf] at values
    obtain ⟨item, contained⟩ := exists_mem_of_ne_nil _ nonempty
    rw [← values] at contained
    obtain ⟨inside, required⟩ := mem_filter.mp contained
    exact ⟨values.symm, item, inside, by simpa using required⟩
  have scalar : ∀ pair ∈ (Dictionary.group (requirementsOf selected)).entries, pair.1.scalar = true := by
    intro pair member
    obtain ⟨-, item, -, required⟩ := entry pair member
    exact item.facts.2.2.2.2.1 pair.1 required
  have total : ∃ witnesses, collect assembleWitness
      (sortBy (fun pair => Text.utf16 pair.1) (Dictionary.group (requirementsOf selected)).entries) = .ok witnesses := by
    refine collect_total fun pair member => ?_
    obtain ⟨values, required⟩ := entry pair (mem_sortBy.mp member)
    obtain ⟨witness, assembled, -⟩ := assembleWitness_total canonical required
    rw [← values] at assembled
    exact ⟨witness, assembled⟩
  obtain ⟨witnesses, computed⟩ := total
  have assembledFrom : ∀ pair witness, pair ∈ (Dictionary.group (requirementsOf selected)).entries →
      assembleWitness pair = .ok witness → witness.witnessId = pair.1 ∧
        witness.requiredByObligationIds = ((requiring selected pair.1).map (·.obligationId)) ∧
        ValidationDepth.strongest ((requiring selected pair.1).map (·.depth)) = some witness.depth := by
    intro pair witness member assembled
    obtain ⟨values, required⟩ := entry pair member
    obtain ⟨other, otherAssembled, facts⟩ := assembleWitness_total canonical required
    rw [← values, assembled] at otherAssembled
    cases otherAssembled
    exact facts
  have origin : ∀ witness ∈ witnesses, ∃ pair ∈ (Dictionary.group (requirementsOf selected)).entries,
      assembleWitness pair = .ok witness := by
    intro witness member
    obtain ⟨pair, pairMember, assembled⟩ := exists_of_mem_collect computed member
    exact ⟨pair, mem_sortBy.mp pairMember, assembled⟩
  refine ⟨witnesses, ?_, ?_, ?_, ?_, ?_, ?_⟩
  · simp only [assembleWitnesses, sortedByText_of_scalar scalar, ok_bind_eq, computed]
  · have ids : (witnesses.map (·.witnessId)) =
        (sortBy (fun pair => Text.utf16 pair.1) (Dictionary.group (requirementsOf selected)).entries).map Prod.fst :=
      map_collect computed fun pair member witness assembled =>
        (assembledFrom pair witness (mem_sortBy.mp member) assembled).1
    rw [ids]
    exact canonical_sortBy (Dictionary.group (requirementsOf selected)).distinct scalar
  · intro item member witnessId required
    have present : witnessId ∈ (Dictionary.group (requirementsOf selected)).keys :=
      mem_keys_group.mpr ⟨item, mem_requirementsOf.mpr ⟨member, required⟩⟩
    obtain ⟨pair, pairMember, rfl⟩ := mem_map.mp present
    obtain ⟨witness, contained, assembled⟩ := mem_collect_of_mem computed (mem_sortBy.mpr pairMember)
    exact ⟨witness, contained, (assembledFrom pair witness pairMember assembled).1⟩
  · intro witness member obligationId
    obtain ⟨pair, pairMember, assembled⟩ := origin witness member
    obtain ⟨identity, requiredBy, -⟩ := assembledFrom pair witness pairMember assembled
    rw [requiredBy, identity]
    simp only [requiring, mem_map, mem_filter, decide_eq_true_eq]
    constructor
    · rintro ⟨item, ⟨inside, required⟩, equal⟩
      exact ⟨item, inside, equal, required⟩
    · rintro ⟨item, inside, equal, required⟩
      exact ⟨item, ⟨inside, required⟩, equal⟩
  · intro witness member item inside required
    obtain ⟨pair, pairMember, assembled⟩ := origin witness member
    obtain ⟨identity, -, strongest⟩ := assembledFrom pair witness pairMember assembled
    rw [identity] at required
    have inGroup : item.depth ∈ (requiring selected pair.1).map (·.depth) :=
      mem_map_of_mem (mem_filter.mpr ⟨inside, by simpa using required⟩)
    obtain ⟨depth, -, found, bound⟩ := strongest_spec (ne_nil_of_mem inGroup)
    rw [strongest, Option.some.injEq] at found
    rw [found]
    exact bound item.depth inGroup
  · intro witness member
    obtain ⟨pair, pairMember, assembled⟩ := origin witness member
    obtain ⟨identity, -, strongest⟩ := assembledFrom pair witness pairMember assembled
    obtain ⟨-, item, inside, required⟩ := entry pair pairMember
    have inGroup : item.depth ∈ (requiring selected pair.1).map (·.depth) :=
      mem_map_of_mem (mem_filter.mpr ⟨inside, by simpa using required⟩)
    obtain ⟨depth, attained, found, -⟩ := strongest_spec (ne_nil_of_mem inGroup)
    rw [strongest, Option.some.injEq] at found
    obtain ⟨strong, strongMember, equal⟩ := mem_map.mp attained
    obtain ⟨strongInside, strongRequired⟩ := mem_filter.mp strongMember
    exact ⟨strong, strongInside, by simpa [identity] using strongRequired, equal.trans found.symm⟩

/-- A witness closes its requirements when it names who requires it and runs at the strongest depth that does. -/
structure ClosesAt (selected : List SelectedObligation) (witness : SelectedWitness) : Prop where
  requiredBy : ∀ obligationId, obligationId ∈ witness.requiredByObligationIds ↔
    ∃ item ∈ selected, item.obligationId = obligationId ∧ witness.witnessId ∈ item.requiredWitnessIds
  strong : ∀ item ∈ selected, witness.witnessId ∈ item.requiredWitnessIds → item.depth.rank ≤ witness.depth.rank
  attained : ∃ item ∈ selected, witness.witnessId ∈ item.requiredWitnessIds ∧ item.depth = witness.depth

/-- Selected obligations leave one choice for each witness. -/
theorem ClosesAt.unique {selected : List SelectedObligation} {first second : SelectedWitness}
    (firstCloses : ClosesAt selected first) (secondCloses : ClosesAt selected second)
    (same : first.witnessId = second.witnessId) : first = second := by
  have depth : first.depth = second.depth := by
    obtain ⟨strong, strongMember, strongRequired, strongDepth⟩ := firstCloses.attained
    obtain ⟨other, otherMember, otherRequired, otherDepth⟩ := secondCloses.attained
    have below := secondCloses.strong strong strongMember (same ▸ strongRequired)
    have above := firstCloses.strong other otherMember (same ▸ otherRequired)
    rw [strongDepth] at below
    rw [otherDepth] at above
    exact ValidationDepth.rank_injective (Nat.le_antisymm below above)
  have requiredBy : first.requiredByObligationIds = second.requiredByObligationIds := by
    refine CanonicalTexts.ext first.facts.2.2.2.2 second.facts.2.2.2.2 fun obligationId => ?_
    rw [firstCloses.requiredBy, secondCloses.requiredBy, same]
  apply SelectedWitness.ext_fields
  obtain ⟨⟨firstId, firstDepth, firstRequired⟩, firstAdmitted⟩ := first
  obtain ⟨⟨secondId, secondDepth, secondRequired⟩, secondAdmitted⟩ := second
  simp only at same depth requiredBy
  simp [same, depth, requiredBy]

namespace Closes

variable {selected : List SelectedObligation} {left right : List SelectedWitness}

theorem closesAt (closes : Closes selected left) {witness : SelectedWitness} (member : witness ∈ left) :
    ClosesAt selected witness :=
  ⟨closes.requiredBy witness member, closes.strong witness member, closes.attained witness member⟩

theorem subset (leftCloses : Closes selected left) (rightCloses : Closes selected right) : left ⊆ right := by
  intro witness member
  obtain ⟨item, inside, required, -⟩ := leftCloses.attained witness member
  obtain ⟨other, otherMember, same⟩ := rightCloses.required item inside witness.witnessId required
  rw [(leftCloses.closesAt member).unique (rightCloses.closesAt otherMember) same.symm]
  exact otherMember

/-- Selected obligations have at most one closure. -/
theorem unique (leftCloses : Closes selected left) (rightCloses : Closes selected right) : left = right :=
  Increasing.ext (Increasing.map_iff.mp leftCloses.ordered.2) (Increasing.map_iff.mp rightCloses.ordered.2)
    fun _ => ⟨fun member => leftCloses.subset rightCloses member, fun member => rightCloses.subset leftCloses member⟩

end Closes

/-- The edges that the constructor of a plan collects. -/
theorem mem_reverseEdges {selected : List SelectedObligation} {obligationId : Text} :
    (witnessId, obligationId) ∈ (selected.flatMap fun obligation =>
      obligation.requiredWitnessIds.map fun witnessId => (witnessId, obligation.obligationId)) ↔
      ∃ item ∈ selected, item.obligationId = obligationId ∧ witnessId ∈ item.requiredWitnessIds := by
  simp only [mem_flatMap, mem_map, Prod.mk.injEq]
  constructor
  · rintro ⟨item, member, id, required, rfl, rfl⟩
    exact ⟨item, member, rfl, required⟩
  · rintro ⟨item, member, rfl, required⟩
    exact ⟨item, member, witnessId, required, rfl, rfl⟩

/-- The depths that the constructor of a plan compares a witness with. -/
theorem mem_requiringDepths {selected : List SelectedObligation}
    (distinct : (selected.map (·.obligationId)).Nodup) {witness : SelectedWitness}
    (requiredBy : ∀ obligationId, obligationId ∈ witness.requiredByObligationIds ↔
      ∃ item ∈ selected, item.obligationId = obligationId ∧ witness.witnessId ∈ item.requiredWitnessIds)
    {depth : ValidationDepth} :
    depth ∈ witness.requiredByObligationIds.filterMap (Dictionary.comprehend (selected.map fun item =>
        (item.obligationId, item.depth))).get? ↔
      ∃ item ∈ selected, witness.witnessId ∈ item.requiredWitnessIds ∧ item.depth = depth := by
  have depthOf : ∀ item ∈ selected, (Dictionary.comprehend (selected.map fun item =>
      (item.obligationId, item.depth))).get? item.obligationId = some item.depth := by
    intro item inside
    refine Dictionary.get?_comprehend_of_mem ?_ (mem_map.mpr ⟨item, inside, rfl⟩)
    simpa [Function.comp_def] using distinct
  rw [mem_filterMap]
  constructor
  · rintro ⟨obligationId, listed, found⟩
    obtain ⟨item, inside, rfl, required⟩ := (requiredBy obligationId).mp listed
    rw [depthOf item inside] at found
    exact ⟨item, inside, required, Option.some.inj found⟩
  · rintro ⟨item, inside, required, rfl⟩
    exact ⟨item.obligationId, (requiredBy _).mpr ⟨item, inside, rfl, required⟩, depthOf item inside⟩

/-- The strongest of some depths is the one that bounds them and is among them. -/
theorem strongest_eq_some {depths : List ValidationDepth} {depth : ValidationDepth} :
    some depth = ValidationDepth.strongest depths ↔ depth ∈ depths ∧ ∀ other ∈ depths, other.rank ≤ depth.rank := by
  constructor
  · intro found
    have nonempty : depths ≠ [] := by
      rintro rfl
      cases found
    obtain ⟨strongest, member, equal, bound⟩ := strongest_spec nonempty
    rw [equal, Option.some.injEq] at found
    exact found ▸ ⟨member, bound⟩
  · rintro ⟨member, bound⟩
    obtain ⟨strongest, attained, equal, limit⟩ := strongest_spec (ne_nil_of_mem member)
    rw [equal, Option.some.injEq]
    exact ValidationDepth.rank_injective (Nat.le_antisymm (limit _ member) (bound _ attained))

/-- The constructor of a plan accepts a list of witnesses exactly when it has every required witness and each of its
witnesses closes its requirements. -/
theorem validateWitnessClosure_iff {selected : List SelectedObligation} {witnesses : List SelectedWitness}
    (distinct : (selected.map (·.obligationId)).Nodup) :
    validateWitnessClosure selected witnesses = .ok () ↔
      (∀ item ∈ selected, ∀ witnessId ∈ item.requiredWitnessIds, ∃ witness ∈ witnesses, witness.witnessId = witnessId) ∧
        ∀ witness ∈ witnesses, ClosesAt selected witness := by
  have edges : ∀ witness : SelectedWitness, SameMembers witness.requiredByObligationIds
      (((Dictionary.group (selected.flatMap fun obligation => obligation.requiredWitnessIds.map fun witnessId =>
        (witnessId, obligation.obligationId))).get? witness.witnessId).getD []) ↔
      ∀ obligationId, obligationId ∈ witness.requiredByObligationIds ↔
        ∃ item ∈ selected, item.obligationId = obligationId ∧ witness.witnessId ∈ item.requiredWitnessIds := by
    intro witness
    simp only [Dictionary.getD_get?_group, SameMembers, subset_def, mem_valuesOf, mem_reverseEdges]
    exact ⟨fun both obligationId => ⟨fun listed => both.1 listed, fun listed => both.2 listed⟩,
      fun same => ⟨fun listed => (same _).mp listed, fun listed => (same _).mpr listed⟩⟩
  simp only [validateWitnessClosure, bind_unit_eq_ok, forEach_eq_ok, raiseIf_eq_ok, not_not, edges]
  constructor
  · rintro ⟨⟨-, grouped⟩, each⟩
    constructor
    · intro item member witnessId required
      exact mem_map.mp (grouped (mem_keys_group.mpr ⟨item.obligationId, mem_reverseEdges.mpr ⟨item, member, rfl, required⟩⟩))
    · intro witness member
      obtain ⟨-, requiredBy, depth⟩ := each witness member
      obtain ⟨attained, bound⟩ := strongest_eq_some.mp depth
      exact ⟨requiredBy, fun item inside required => bound _ ((mem_requiringDepths distinct requiredBy).mpr
        ⟨item, inside, required, rfl⟩), (mem_requiringDepths distinct requiredBy).mp attained⟩
  · rintro ⟨required, each⟩
    refine ⟨⟨?_, ?_⟩, fun witness member => ⟨?_, (each witness member).requiredBy, ?_⟩⟩
    · intro witnessId listed
      obtain ⟨witness, member, rfl⟩ := mem_map.mp listed
      obtain ⟨item, inside, requires, -⟩ := (each witness member).attained
      exact mem_keys_group.mpr ⟨item.obligationId, mem_reverseEdges.mpr ⟨item, inside, rfl, requires⟩⟩
    · intro witnessId grouped
      obtain ⟨obligationId, edge⟩ := mem_keys_group.mp grouped
      obtain ⟨item, inside, -, requires⟩ := mem_reverseEdges.mp edge
      exact mem_map.mpr (required item inside witnessId requires)
    · intro obligationId listed
      obtain ⟨item, inside, rfl, -⟩ := ((each witness member).requiredBy obligationId).mp listed
      exact mem_map_of_mem inside
    · have requiredBy := (each witness member).requiredBy
      refine strongest_eq_some.mpr ⟨(mem_requiringDepths distinct requiredBy).mpr (each witness member).attained, ?_⟩
      intro depth contained
      obtain ⟨item, inside, requires, rfl⟩ := (mem_requiringDepths distinct requiredBy).mp contained
      exact (each witness member).strong item inside requires

/-- The constructor of a plan accepts the witnesses that close its selection. -/
theorem validateWitnessClosure_of_closes {selected : List SelectedObligation} {witnesses : List SelectedWitness}
    (canonical : CanonicalTexts (selected.map (·.obligationId))) (closes : Closes selected witnesses) :
    validateWitnessClosure selected witnesses = .ok () :=
  (validateWitnessClosure_iff canonical.nodup).mpr ⟨closes.required, fun _ member => closes.closesAt member⟩

/-- A plan with digest coordinates, canonical members and closing witnesses can be sealed. -/
theorem DeterministicPlan.seal_total (fields : DeterministicPlanFields)
    (digests : ∀ digest ∈ [fields.configEpochId, fields.repoEpochHash, fields.inputHash, fields.diffHash,
      fields.compiledPolicyHash, fields.policyHash, fields.dependencyGraphHash, fields.catalogHash],
      isSha256Hex digest = true)
    (selected : CanonicalTexts (fields.selectedObligations.map (·.obligationId)))
    (omitted : CanonicalTexts (fields.omittedObligations.map (·.obligationId)))
    (disjoint : ∀ item ∈ fields.selectedObligations, item.obligationId ∉ fields.omittedObligations.map (·.obligationId))
    (closes : Closes fields.selectedObligations fields.selectedWitnesses) :
    ∃ plan id, DeterministicPlan.seal fields = .ok plan ∧ plan.toDeterministicPlanFields = { fields with planId := id } := by
  simp only [mem_cons, not_mem_nil, or_false, forall_eq_or_imp, forall_eq] at digests
  obtain ⟨config, repo, input, diff, compiled, policy, graph, catalog⟩ := digests
  have passed : admissible fields.identityMapping = true :=
    admissible_identityMapping (scalar_of_isSha256Hex config) (scalar_of_isSha256Hex repo)
      (scalar_of_isSha256Hex input) (scalar_of_isSha256Hex diff) (scalar_of_isSha256Hex compiled)
      (scalar_of_isSha256Hex policy) (scalar_of_isSha256Hex graph) (scalar_of_isSha256Hex catalog)
  obtain ⟨id, identified, nonempty, idScalar⟩ := DeterministicPlanFields.expectedId_total passed
  have admitted : DeterministicPlanFields.postInit { fields with planId := id } = .ok () := by
    simp only [DeterministicPlanFields.postInit, bind_eq_ok, exists_unit_iff, requireNonEmptyString_eq_ok, forEach_eq_ok,
      requireSha256_eq_ok, requireOrderedIds_eq_ok, raiseIf_eq_ok, not_not, mem_cons, not_mem_nil, or_false,
      forall_eq_or_imp, forall_eq, not_exists, not_and]
    exact ⟨⟨nonempty, idScalar⟩, ⟨config, repo, input, diff, compiled, policy, graph, catalog⟩, selected,
      closes.ordered, omitted, disjoint, validateWitnessClosure_of_closes selected closes, id, identified, rfl⟩
  refine ⟨⟨_, admitted⟩, id, ?_, rfl⟩
  simp only [DeterministicPlan.seal, identified, ok_bind_eq]
  exact construct_ok admitted

/-- The identities of selected obligations. -/
abbrev idsOf (selected : List SelectedObligation) : List Text :=
  selected.map fun item => item.obligationId

/-- The identities of omitted obligations. -/
abbrev omittedIdsOf (omitted : List OmittedObligation) : List Text :=
  omitted.map fun item => item.obligationId

variable (catalog : ValidationCatalog)

/-- The identities of a catalog. -/
abbrev catalogIds : List Text :=
  catalog.obligations.map fun item => item.obligationId

/-- Each selected obligation repeats a catalog obligation at a depth that its witnesses support. -/
def Closable (selected : List SelectedObligation) : Prop :=
  ∀ item ∈ selected, ∃ obligation ∈ catalog.obligations, obligation.obligationId = item.obligationId ∧
    obligation.requiredWitnessIds = item.requiredWitnessIds ∧ Supports catalog obligation item.depth

variable {catalog : ValidationCatalog}

theorem mem_obligationKeys {id : Text} : id ∈ catalog.obligationsById.keys ↔ id ∈ catalogIds catalog := by
  simp [ValidationCatalog.obligationsById, mem_keys_indexBy]

/-- The obligation that a selected one repeats. -/
theorem Closable.required {selected : List SelectedObligation}
    (closable : Closable catalog selected) {item : SelectedObligation} (member : item ∈ selected)
    {obligation : ValidationObligation} (inside : obligation ∈ catalog.obligations)
    (same : obligation.obligationId = item.obligationId) : item.requiredWitnessIds = obligation.requiredWitnessIds := by
  obtain ⟨other, otherMember, identity, required, -⟩ := closable item member
  rw [ValidationCatalog.obligation_unique inside otherMember (same.trans identity.symm), required]

/-- Every obligation of the catalog can be selected at any depth. -/
theorem create_total (obligation : ValidationObligation) (depth : ValidationDepth) :
    ∃ item, SelectedObligation.create obligation.obligationId depth obligation.requiredWitnessIds = .ok item ∧
      item.toSelectedObligationFields = ⟨obligation.obligationId, depth, obligation.requiredWitnessIds⟩ := by
  have facts := obligation.facts
  have admitted : SelectedObligationFields.postInit ⟨obligation.obligationId, depth, obligation.requiredWitnessIds⟩ = .ok () := by
    simp only [SelectedObligationFields.postInit, bind_unit_eq_ok, requireNonEmptyString_eq_ok, requireSortedUniqueStrings_eq_ok]
    refine ⟨⟨ne_nil_of_isIdentifier facts.identifier, scalar_of_isIdentifier facts.identifier⟩,
      fun _ => facts.witnessesNonempty, ?_, facts.witnesses⟩
    intro empty
    exact ne_nil_of_isIdentifier (facts.witnessIdentifiers [] empty) rfl
  exact ⟨⟨_, admitted⟩, construct_ok admitted, rfl⟩

/-- Selecting every obligation of a catalog at chosen depths. -/
theorem selectAll_total (catalog : ValidationCatalog) (depthOf : ValidationObligation → ValidationDepth) :
    ∃ selected, collect (fun obligation : ValidationObligation =>
        SelectedObligation.create obligation.obligationId (depthOf obligation) obligation.requiredWitnessIds)
      catalog.obligations = .ok selected ∧ idsOf selected = catalogIds catalog ∧
      ∀ item ∈ selected, ∃ obligation ∈ catalog.obligations, item.toSelectedObligationFields =
        ⟨obligation.obligationId, depthOf obligation, obligation.requiredWitnessIds⟩ := by
  obtain ⟨selected, computed⟩ := collect_total fun obligation (_ : obligation ∈ catalog.obligations) =>
    (create_total obligation (depthOf obligation)).imp fun item created => created.1
  refine ⟨selected, computed, ?_, ?_⟩
  · refine map_collect computed fun obligation _ item created => ?_
    rw [SelectedObligation.create_eq_ok.mp created]
  · intro item member
    obtain ⟨obligation, inside, created⟩ := exists_of_mem_collect computed member
    exact ⟨obligation, inside, SelectedObligation.create_eq_ok.mp created⟩

theorem closable_of_depths {selected : List SelectedObligation} {depthOf : ValidationObligation → ValidationDepth}
    (supports : ∀ obligation ∈ catalog.obligations, Supports catalog obligation (depthOf obligation))
    (repeats : ∀ item ∈ selected, ∃ obligation ∈ catalog.obligations, item.toSelectedObligationFields =
      ⟨obligation.obligationId, depthOf obligation, obligation.requiredWitnessIds⟩) : Closable catalog selected := by
  intro item member
  obtain ⟨obligation, inside, equal⟩ := repeats item member
  refine ⟨obligation, inside, by rw [equal], by rw [equal], ?_⟩
  rw [equal]
  exact supports obligation inside

end CiCoordinator.PlanningCore

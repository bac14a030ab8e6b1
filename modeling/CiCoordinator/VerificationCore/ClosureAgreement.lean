import CiCoordinator.VerificationCore.PlannerAgreement

/- The agreement of the planner's and the verifier's witness closures. -/

namespace CiCoordinator.VerificationCore

open Library Kernel ValidationContract List
open PlanningCore Dictionary

section Assembly

variable {selected other : List SelectedObligation}

theorem requiring_perm (same : selected.Perm other) (witnessId : Text) :
    (requiring selected witnessId).Perm (requiring other witnessId) :=
  same.filter _

/-- The strongest depth does not depend on the order of the depths. -/
theorem strongest_perm {left right : List ValidationDepth} (same : left.Perm right) :
    ValidationDepth.strongest left = ValidationDepth.strongest right := by
  by_cases none : left = []
  · obtain rfl := none
    rw [nil_perm.mp same]
  · obtain ⟨depth, member, found, bound⟩ := strongest_spec none
    rw [found]
    exact strongest_eq_some.mpr ⟨same.mem_iff.mp member, fun other inside => bound other (same.mem_iff.mpr inside)⟩

/-- A witness does not depend on the order of its requirements. -/
theorem assembleWitness_perm {witnessId : Text} {left right : List SelectedObligation} (same : left.Perm right) :
    assembleWitness (witnessId, left) = assembleWitness (witnessId, right) := by
  have scalar : ∀ items : List SelectedObligation, ∀ text ∈ idsOf items, text.scalar = true := by
    intro items text listed
    obtain ⟨item, -, rfl⟩ := mem_map.mp listed
    exact item.facts.2.1
  have sorted : ∀ items, sortedByText id (idsOf items) = .ok (sortBy Text.utf16 (idsOf items)) := fun items =>
    sortedByText_of_scalar (scalar items)
  have ids : sortBy Text.utf16 (idsOf left) = sortBy Text.utf16 (idsOf right) :=
    sortBy_congr (separates_utf16 (scalar left)) (same.map _)
  unfold assembleWitness
  rw [sorted left, sorted right, ids, strongest_perm (same.map (·.depth))]

/-- The requirements in the order of their witnesses. -/
theorem sortedRequirements (selected : List SelectedObligation) :
    sortedByText Prod.fst (Dictionary.group (requirementsOf selected)).entries =
      .ok ((sortBy Text.utf16 (Dictionary.group (requirementsOf selected)).keys).map fun witnessId =>
        (witnessId, requiring selected witnessId)) := by
  have entries : (Dictionary.group (requirementsOf selected)).entries =
      (Dictionary.group (requirementsOf selected)).keys.map fun witnessId => (witnessId, requiring selected witnessId) := by
    rw [Dictionary.keys, map_map]
    refine (map_id _).symm.trans (map_congr_left fun pair member => ?_)
    obtain ⟨values, -⟩ := get?_group.mp (get?_eq_some_iff.mpr member)
    rw [valuesOf_requirementsOf] at values
    simp only [id_eq, Function.comp_apply, values]
  have scalar : ∀ pair ∈ (Dictionary.group (requirementsOf selected)).entries, pair.1.scalar = true := by
    intro pair member
    obtain ⟨item, edge⟩ := mem_keys_group.mp (mem_map_of_mem member)
    exact item.facts.2.2.2.2.1 pair.1 (mem_requirementsOf.mp edge).2
  have sorted : (sortBy Text.utf16 (Dictionary.group (requirementsOf selected)).keys).map
      (fun witnessId => (witnessId, requiring selected witnessId)) =
        sortBy (fun pair => pair.1.utf16) (Dictionary.group (requirementsOf selected)).entries := by
    rw [entries]
    exact @map_sortBy _ _ _ _ Text.utf16 (fun pair : Text × List SelectedObligation => pair.1.utf16)
      (fun witnessId => (witnessId, requiring selected witnessId)) (fun _ => rfl) _
  rw [sortedByText_of_scalar scalar, sorted]

/-- The assembled witnesses do not depend on the order of the selection. -/
theorem assembleWitnesses_perm (same : selected.Perm other) :
    assembleWitnesses (requirementsOf selected) = assembleWitnesses (requirementsOf other) := by
  have keys : (Dictionary.group (requirementsOf selected)).keys.Perm (Dictionary.group (requirementsOf other)).keys := by
    refine (perm_ext_iff_of_nodup (Dictionary.distinct _) (Dictionary.distinct _)).mpr fun witnessId => ?_
    change witnessId ∈ (Dictionary.group _).keys ↔ witnessId ∈ (Dictionary.group _).keys
    simp only [mem_keys_group, mem_requirementsOf, same.mem_iff]
  have scalar : ∀ witnessId ∈ (Dictionary.group (requirementsOf selected)).keys, witnessId.scalar = true := by
    intro witnessId listed
    obtain ⟨item, edge⟩ := mem_keys_group.mp listed
    exact item.facts.2.2.2.2.1 witnessId (mem_requirementsOf.mp edge).2
  unfold assembleWitnesses
  rw [sortedRequirements, sortedRequirements, ok_bind_eq, ok_bind_eq, sortBy_congr (separates_utf16 scalar) keys]
  exact collect_map_congr fun witnessId _ => assembleWitness_perm (requiring_perm same witnessId)

end Assembly

section Agreement

variable {catalog : ValidationCatalog} {selected other : List SelectedObligation}

/-- Selected obligations are drawn from a catalog when each repeats an obligation of it with its requirements. -/
def DrawnFrom (catalog : ValidationCatalog) (selected : List SelectedObligation) : Prop :=
  ∀ item ∈ selected, ∃ obligation ∈ catalog.obligations, obligation.obligationId = item.obligationId ∧
    obligation.requiredWitnessIds = item.requiredWitnessIds

variable {item : SelectedObligation} {witnesses : List SelectedWitness}

theorem drawn_of_closable (closable : Closable catalog selected) : DrawnFrom catalog selected := by
  intro item member
  obtain ⟨obligation, inside, identity, required, -⟩ := closable item member
  exact ⟨obligation, inside, identity, required⟩

/-- The error of both closures. -/
def unsupportedDepth : PyError :=
  .valueError (ascii "selected depth is unsupported by a required witness")

/-- The required witnesses of an obligation support its depth. -/
def DepthSupported (catalog : ValidationCatalog) (item : SelectedObligation) : Prop :=
  ∀ witnessId ∈ item.requiredWitnessIds,
    ∃ witness, catalog.witnessesById.get? witnessId = some witness ∧ item.depth ∈ witness.supportedDepths

/-- A drawn selection is closable when the witnesses of its obligations support their depths. -/
theorem DrawnFrom.closable_iff (drawn : DrawnFrom catalog selected) :
    Closable catalog selected ↔ ∀ item ∈ selected, DepthSupported catalog item := by
  constructor
  · intro closable item member witnessId required
    obtain ⟨obligation, inside, identity, same, supports⟩ := closable item member
    exact supports witnessId (same ▸ required)
  · intro supported item member
    obtain ⟨obligation, inside, identity, same⟩ := drawn item member
    exact ⟨obligation, inside, identity, same, fun witnessId required => supported item member witnessId (same ▸ required)⟩

/-- The witness that a drawn obligation requires is in the catalog. -/
theorem DrawnFrom.witness (drawn : DrawnFrom catalog selected) {item : SelectedObligation} (member : item ∈ selected)
    {witnessId : Text} (required : witnessId ∈ item.requiredWitnessIds) :
    ∃ witness, catalog.witnessesById.get? witnessId = some witness := by
  obtain ⟨obligation, inside, -, same⟩ := drawn item member
  obtain ⟨witness, found, -⟩ := catalog.facts.required obligation inside witnessId (same ▸ required)
  exact ⟨witness, found⟩

/-- Checks of the depth at every required witness raise exactly when one does not support it. -/
theorem depthChecks {check : Text → Py Unit}
    (each : ∀ witnessId ∈ item.requiredWitnessIds, ∃ witness, catalog.witnessesById.get? witnessId = some witness ∧
      check witnessId = raiseIf (item.depth ∉ witness.supportedDepths) unsupportedDepth) :
    (DepthSupported catalog item → forEach check item.requiredWitnessIds = .ok ()) ∧
      (¬ DepthSupported catalog item → forEach check item.requiredWitnessIds = .error unsupportedDepth) := by
  constructor
  · intro supported
    refine forEach_eq_ok.mpr fun witnessId required => ?_
    obtain ⟨witness, found, checked⟩ := each witnessId required
    obtain ⟨other, otherFound, depth⟩ := supported witnessId required
    obtain rfl := Option.some.inj (found.symm.trans otherFound)
    rw [checked, raiseIf_eq_ok, not_not]
    exact depth
  · intro unsupported
    unfold DepthSupported at unsupported
    push Not at unsupported
    obtain ⟨witnessId, required, missing⟩ := unsupported
    refine forEach_error (fun other listed => ?_) ⟨witnessId, required, ?_⟩
    · obtain ⟨witness, -, checked⟩ := each other listed
      rw [checked]
      by_cases depth : item.depth ∈ witness.supportedDepths
      · exact .inl (raiseIf_eq_ok.mpr (not_not.mpr depth))
      · exact .inr (raiseIf_eq_error.mpr ⟨depth, rfl⟩)
    · obtain ⟨witness, found, checked⟩ := each witnessId required
      rw [checked]
      exact raiseIf_eq_error.mpr ⟨missing witness found, rfl⟩

/-- The planner's step for one obligation: its requirements in the catalog. -/
def requirementsInCatalog (catalog : ValidationCatalog) (item : SelectedObligation) :
    Py (List (Text × SelectedObligation)) :=
  match catalog.obligationsById.get? item.obligationId with
  | none => .error (.valueError (ascii "selected obligation is absent from the validation catalog"))
  | some obligation => do
    forEach (fun witnessId =>
        match catalog.witnessesById.get? witnessId with
        | none => .error .keyError
        | some witness =>
          valueErrorIf (item.depth ∉ witness.supportedDepths)
            (ascii "selected depth is unsupported by a required witness"))
      obligation.requiredWitnessIds
    return obligation.requiredWitnessIds.map fun witnessId => (witnessId, item)

theorem planner_closeSelectedWitnesses_eq (catalog : ValidationCatalog) (selected : List SelectedObligation) :
    PlanningCore.closeSelectedWitnesses catalog selected =
      (collect (requirementsInCatalog catalog) selected >>= fun requirements => assembleWitnesses requirements.flatten) :=
  rfl

/-- The verifier's step for one obligation: its requirements repeat the catalog. -/
def checkRequirements (catalog : ValidationCatalog) (item : SelectedObligation) : Py Unit := do
  valueErrorIf ((catalog.obligationsById.get? item.obligationId).map (fun found => found.requiredWitnessIds) ≠
      some item.requiredWitnessIds)
    (ascii "selected obligation requirements must match the validation catalog")
  forEach (fun witnessId =>
      valueErrorIf (((catalog.witnessesById.get? witnessId).any fun witness =>
          item.depth ∈ witness.supportedDepths) = false)
        (ascii "selected depth is unsupported by a required witness"))
    item.requiredWitnessIds

theorem verifier_closeSelectedWitnesses_eq (catalog : ValidationCatalog) (selected : List SelectedObligation) :
    closeSelectedWitnesses catalog selected =
      (forEach (checkRequirements catalog) selected >>= fun _ => assembleWitnesses (requirementsOf selected)) :=
  rfl

section

variable (drawn : DrawnFrom catalog selected)
include drawn

/-- A drawn obligation has its requirements in the catalog at every supported depth. -/
theorem DrawnFrom.requirements (member : item ∈ selected) : (DepthSupported catalog item →
      requirementsInCatalog catalog item = .ok (item.requiredWitnessIds.map fun witnessId => (witnessId, item))) ∧
    (¬ DepthSupported catalog item → requirementsInCatalog catalog item = .error unsupportedDepth) := by
  obtain ⟨obligation, inside, identity, same⟩ := drawn item member
  have checks := @depthChecks catalog item (fun witnessId =>
    match catalog.witnessesById.get? witnessId with
    | none => .error .keyError
    | some witness =>
      valueErrorIf (item.depth ∉ witness.supportedDepths)
        (ascii "selected depth is unsupported by a required witness")) fun witnessId required => by
    obtain ⟨witness, found⟩ := drawn.witness member required
    exact ⟨witness, found, by simp only [found]; rfl⟩
  unfold requirementsInCatalog
  rw [ValidationCatalog.obligationsById_eq_some.mpr ⟨inside, identity⟩]
  simp only [same]
  constructor
  · intro supported
    rw [checks.1 supported]
    rfl
  · intro unsupported
    rw [checks.2 unsupported]
    rfl

/-- A drawn obligation passes the verifier's check at every supported depth. -/
theorem DrawnFrom.check (member : item ∈ selected) : (DepthSupported catalog item → checkRequirements catalog item = .ok ()) ∧
      (¬ DepthSupported catalog item → checkRequirements catalog item = .error unsupportedDepth) := by
  obtain ⟨obligation, inside, identity, same⟩ := drawn item member
  have repeated : (catalog.obligationsById.get? item.obligationId).map (·.requiredWitnessIds) = some item.requiredWitnessIds := by
    rw [ValidationCatalog.obligationsById_eq_some.mpr ⟨inside, identity⟩, Option.map_some, same]
  have passed : valueErrorIf ((catalog.obligationsById.get? item.obligationId).map
      (·.requiredWitnessIds) ≠ some item.requiredWitnessIds)
      (ascii "selected obligation requirements must match the validation catalog") = .ok () :=
    raiseIf_eq_ok.mpr (not_not.mpr repeated)
  unfold checkRequirements
  rw [passed, ok_bind_eq]
  refine depthChecks fun witnessId required => ?_
  obtain ⟨witness, found⟩ := drawn.witness member required
  refine ⟨witness, found, ?_⟩
  rw [found]
  by_cases depth : item.depth ∈ witness.supportedDepths
  · simp [raiseIf, depth]
  · simp [raiseIf, depth, unsupportedDepth]

/-- The planner assembles closable selections and raises on all other drawn ones. -/
theorem planner_closeSelectedWitnesses : (Closable catalog selected →
      PlanningCore.closeSelectedWitnesses catalog selected = assembleWitnesses (requirementsOf selected)) ∧
    (¬ Closable catalog selected → PlanningCore.closeSelectedWitnesses catalog selected = .error unsupportedDepth) := by
  rw [drawn.closable_iff, planner_closeSelectedWitnesses_eq]
  constructor
  · intro supported
    rw [collect_eq_map fun item member => (drawn.requirements member).1 (supported item member), ok_bind_eq, ← flatMap_def]
    rfl
  · intro unsupported
    push Not at unsupported
    obtain ⟨item, member, missing⟩ := unsupported
    rw [collect_error (fun other inside => ?_) ⟨item, member, (drawn.requirements member).2 missing⟩]
    · rfl
    · by_cases supported : DepthSupported catalog other
      · exact .inl ⟨_, (drawn.requirements inside).1 supported⟩
      · exact .inr ((drawn.requirements inside).2 supported)

/-- The verifier assembles closable selections and raises on all other drawn ones. -/
theorem verifier_closeSelectedWitnesses : (Closable catalog selected →
      closeSelectedWitnesses catalog selected = assembleWitnesses (requirementsOf selected)) ∧
    (¬ Closable catalog selected → closeSelectedWitnesses catalog selected = .error unsupportedDepth) := by
  rw [drawn.closable_iff, verifier_closeSelectedWitnesses_eq]
  constructor
  · intro supported
    have checked : forEach (checkRequirements catalog) selected = .ok () :=
      forEach_eq_ok.mpr fun item member => (drawn.check member).1 (supported item member)
    rw [checked]
    rfl
  · intro unsupported
    push Not at unsupported
    obtain ⟨item, member, missing⟩ := unsupported
    rw [forEach_error (fun other inside => ?_) ⟨item, member, (drawn.check member).2 missing⟩]
    · rfl
    · by_cases supported : DepthSupported catalog other
      · exact .inl ((drawn.check inside).1 supported)
      · exact .inr ((drawn.check inside).2 supported)

/-- Both closures return the same on a drawn selection, errors included. -/
theorem DrawnFrom.agree : PlanningCore.closeSelectedWitnesses catalog selected = closeSelectedWitnesses catalog selected := by
  by_cases closable : Closable catalog selected
  · rw [(planner_closeSelectedWitnesses drawn).1 closable, (verifier_closeSelectedWitnesses drawn).1 closable]
  · rw [(planner_closeSelectedWitnesses drawn).2 closable, (verifier_closeSelectedWitnesses drawn).2 closable]

/-- The closure of a drawn selection does not depend on its order. -/
theorem DrawnFrom.order (same : selected.Perm other) :
    closeSelectedWitnesses catalog selected = closeSelectedWitnesses catalog other := by
  have otherDrawn : DrawnFrom catalog other := fun item member => drawn item (same.mem_iff.mpr member)
  have closable : Closable catalog selected ↔ Closable catalog other := by
    rw [drawn.closable_iff, otherDrawn.closable_iff]
    exact forall_congr' fun item => by rw [same.mem_iff]
  by_cases closes : Closable catalog selected
  · rw [(verifier_closeSelectedWitnesses drawn).1 closes, (verifier_closeSelectedWitnesses otherDrawn).1 (closable.mp closes),
      assembleWitnesses_perm same]
  · rw [(verifier_closeSelectedWitnesses drawn).2 closes, (verifier_closeSelectedWitnesses otherDrawn).2 (mt closable.mpr closes)]

end

/-- Witnesses close a selection whatever its order. -/
theorem closes_perm (same : selected.Perm other) (closes : Closes selected witnesses) : Closes other witnesses := by
  refine ⟨closes.ordered, ?_, ?_, ?_, ?_⟩
  · exact fun item member => closes.required item (same.mem_iff.mpr member)
  · intro witness member obligationId
    rw [closes.requiredBy witness member]
    simp only [same.mem_iff]
  · exact fun witness member item inside => closes.strong witness member item (same.mem_iff.mpr inside)
  · intro witness member
    obtain ⟨item, inside, required⟩ := closes.attained witness member
    exact ⟨item, same.mem_iff.mp inside, required⟩

/-- Distinct obligations that are closable are closed by the result. -/
theorem closeSelectedWitnesses_of_distinct (distinct : (idsOf selected).Nodup) (closable : Closable catalog selected) :
    ∃ witnesses, closeSelectedWitnesses catalog selected = .ok witnesses ∧ Closes selected witnesses := by
  have scalar : ∀ item ∈ selected, item.obligationId.scalar = true := fun item _ => item.facts.2.1
  have same := sortBy_perm (fun item : SelectedObligation => item.obligationId.utf16) selected
  have sortedClosable : Closable catalog (sortBy (fun item : SelectedObligation => item.obligationId.utf16) selected) :=
    fun item member => closable item (mem_sortBy.mp member)
  obtain ⟨witnesses, computed, closes⟩ :=
    closeSelectedWitnesses_total (canonical_sortBy distinct scalar) sortedClosable
  refine ⟨witnesses, ?_, closes_perm same closes⟩
  rw [(drawn_of_closable closable).order same.symm, computed]

/-- Assembled witnesses list each obligation that requires them once. -/
theorem requiring_distinct (assembled : assembleWitnesses (requirementsOf selected) = .ok witnesses)
    (member : item ∈ selected) {witnessId : Text} (required : witnessId ∈ item.requiredWitnessIds) :
    (idsOf (requiring selected witnessId)).Nodup := by
  have present : witnessId ∈ (Dictionary.group (requirementsOf selected)).keys :=
    mem_keys_group.mpr ⟨item, mem_requirementsOf.mpr ⟨member, required⟩⟩
  unfold assembleWitnesses at assembled
  rw [sortedRequirements, ok_bind_eq] at assembled
  obtain ⟨witness, -, computed⟩ :=
    mem_collect_of_mem assembled (mem_map.mpr ⟨witnessId, mem_sortBy.mpr present, rfl⟩)
  unfold assembleWitness at computed
  rw [bind_eq_ok] at computed
  obtain ⟨requiredBy, ordered, built⟩ := computed
  obtain ⟨-, rfl⟩ := sortedByText_eq_ok.mp ordered
  split at built
  · cases built
  · have created := SelectedWitness.create_eq_ok.mp built
    have canonical := witness.facts.2.2.2.2
    rw [created] at canonical
    exact ((sortBy_perm _ _).nodup_iff).mp canonical.nodup

/-- A selection that has a closure repeats no obligation, because a repeated one would require its witnesses twice. -/
theorem distinct_of_assembled (drawn : DrawnFrom catalog selected)
    (assembled : assembleWitnesses (requirementsOf selected) = .ok witnesses) : (idsOf selected).Nodup := by
  rw [nodup_iff_count_le_one]
  intro obligationId
  by_cases listed : obligationId ∈ idsOf selected
  · obtain ⟨item, member, rfl⟩ := mem_map.mp listed
    obtain ⟨witnessId, required⟩ := exists_mem_of_ne_nil _ item.facts.2.2.1
    have alone := nodup_iff_count_le_one.mp (requiring_distinct assembled member required) item.obligationId
    -- Every selected obligation of this identity requires the witness, so none is left out of the count.
    have same : (idsOf selected).count item.obligationId = (idsOf (requiring selected witnessId)).count item.obligationId := by
      simp only [List.count, countP_map, requiring, countP_filter]
      refine countP_congr fun other inside => ?_
      simp only [Function.comp_apply, beq_iff_eq, Bool.and_eq_true, decide_eq_true_eq]
      constructor
      · intro equal
        refine ⟨equal, ?_⟩
        obtain ⟨obligation, obligationMember, identity, requirements⟩ := drawn item member
        obtain ⟨origin, originMember, originIdentity, originRequirements⟩ := drawn other inside
        obtain rfl := ValidationCatalog.obligation_unique obligationMember originMember
          (identity.trans (equal.symm.trans originIdentity.symm))
        rw [← originRequirements, requirements]
        exact required
      · exact fun both => both.1
    rw [same]
    exact alone
  · rw [count_eq_zero.mpr listed]
    exact Nat.zero_le 1

/-- What a drawn selection is closed by. -/
theorem DrawnFrom.closeSelectedWitnesses_iff (drawn : DrawnFrom catalog selected) :
    closeSelectedWitnesses catalog selected = .ok witnesses ↔
      (idsOf selected).Nodup ∧ Closable catalog selected ∧ Closes selected witnesses := by
  constructor
  · intro computed
    have closable : Closable catalog selected := by
      by_contra closes
      rw [(verifier_closeSelectedWitnesses drawn).2 closes] at computed
      cases computed
    have assembled := computed
    rw [(verifier_closeSelectedWitnesses drawn).1 closable] at assembled
    have distinct := distinct_of_assembled drawn assembled
    obtain ⟨others, otherComputed, closes⟩ := closeSelectedWitnesses_of_distinct distinct closable
    rw [computed, Except.ok.injEq] at otherComputed
    exact ⟨distinct, closable, otherComputed ▸ closes⟩
  · rintro ⟨distinct, closable, closes⟩
    obtain ⟨others, computed, otherCloses⟩ := closeSelectedWitnesses_of_distinct distinct closable
    rw [computed, closes.unique otherCloses]

end Agreement

/-- On every selection drawn from a catalog, in any order, both closures return the same. They return exactly when no
obligation is repeated and every required witness supports its depth; the constructor of a plan then accepts the
result, and every other list that it accepts has the same members. -/
theorem closeSelectedWitnesses_agree {catalog : ValidationCatalog} {selected : List SelectedObligation}
    (drawn : DrawnFrom catalog selected) :
    (∀ other, selected.Perm other →
      PlanningCore.closeSelectedWitnesses catalog other = closeSelectedWitnesses catalog selected ∧
        closeSelectedWitnesses catalog other = closeSelectedWitnesses catalog selected) ∧
    ((∃ witnesses, closeSelectedWitnesses catalog selected = .ok witnesses) ↔
      (idsOf selected).Nodup ∧ ∀ item ∈ selected, DepthSupported catalog item) ∧
    ∀ witnesses, closeSelectedWitnesses catalog selected = .ok witnesses →
      validateWitnessClosure selected witnesses = .ok () ∧
        ∀ others, validateWitnessClosure selected others = .ok () → SameMembers others witnesses ∧
          (CanonicalTexts (others.map fun item => item.witnessId) → others = witnesses) := by
  refine ⟨fun other same => ?_, ?_, fun witnesses computed => ?_⟩
  · have otherDrawn : DrawnFrom catalog other := fun item member => drawn item (same.mem_iff.mpr member)
    exact ⟨by rw [otherDrawn.agree, drawn.order same], (drawn.order same).symm⟩
  · rw [← drawn.closable_iff]
    constructor
    · rintro ⟨witnesses, computed⟩
      obtain ⟨distinct, closable, -⟩ := drawn.closeSelectedWitnesses_iff.mp computed
      exact ⟨distinct, closable⟩
    · rintro ⟨distinct, closable⟩
      obtain ⟨witnesses, computed, -⟩ := closeSelectedWitnesses_of_distinct distinct closable
      exact ⟨witnesses, computed⟩
  · obtain ⟨distinct, -, closes⟩ := drawn.closeSelectedWitnesses_iff.mp computed
    refine ⟨(validateWitnessClosure_iff distinct).mpr ⟨closes.required, fun _ member => closes.closesAt member⟩, ?_⟩
    intro others accepted
    obtain ⟨required, each⟩ := (validateWitnessClosure_iff distinct).mp accepted
    constructor
    · constructor
      · intro witness member
        obtain ⟨item, inside, requires, -⟩ := (each witness member).attained
        obtain ⟨chosen, chosenMember, same⟩ := closes.required item inside witness.witnessId requires
        rw [(each witness member).unique (closes.closesAt chosenMember) same.symm]
        exact chosenMember
      · intro witness member
        obtain ⟨item, inside, requires, -⟩ := closes.attained witness member
        obtain ⟨chosen, chosenMember, same⟩ := required item inside witness.witnessId requires
        rw [(closes.closesAt member).unique (each chosen chosenMember) same.symm]
        exact chosenMember
    · intro canonical
      have othersClose : Closes selected others :=
        ⟨canonical, required, fun witness member => (each witness member).requiredBy,
          fun witness member => (each witness member).strong, fun witness member => (each witness member).attained⟩
      exact othersClose.unique closes

namespace Sample

/-- The documentation check at full depth, before the lint check at smoke depth. -/
def selection : List SelectedObligation :=
  [⟨⟨ascii "lint", .smoke, [ascii "checker"]⟩, by decide +kernel⟩, ⟨⟨ascii "docs", .full, [ascii "checker"]⟩, by decide +kernel⟩]

theorem selection_drawn : DrawnFrom catalog selection := by
  unfold DrawnFrom
  decide +kernel

theorem selection_supported : ∀ item ∈ selection, DepthSupported catalog item := by
  have found : catalog.witnessesById.get? (ascii "checker") = some checker := by decide +kernel
  have each : ∀ item ∈ selection, item.requiredWitnessIds = [ascii "checker"] ∧ item.depth ∈ checker.supportedDepths := by
    decide +kernel
  intro item member witnessId required
  obtain ⟨same, depth⟩ := each item member
  rw [same, mem_singleton] at required
  exact ⟨checker, required ▸ found, depth⟩

end Sample

/-- Two obligations out of order have a closure. -/
theorem closeSelectedWitnesses_agree_unordered :
    ∃ witnesses, closeSelectedWitnesses Sample.catalog Sample.selection = .ok witnesses ∧
      validateWitnessClosure Sample.selection witnesses = .ok () := by
  obtain ⟨-, closes, unique⟩ := closeSelectedWitnesses_agree Sample.selection_drawn
  obtain ⟨witnesses, computed⟩ := closes.mpr ⟨by decide +kernel, Sample.selection_supported⟩
  exact ⟨witnesses, computed, (unique witnesses computed).1⟩

end CiCoordinator.VerificationCore

import CiCoordinator.RepoContext.PlanningInput
import CiCoordinator.ValidationContract.Catalog

/- The deterministic plan and its parts. -/

namespace CiCoordinator.PlanningCore

open Library Kernel ValidationContract RepoContext List Text

variable (value : Text)

/-- A nonempty text without surrogates. -/
def isNonEmptyScalar : Bool :=
  value ≠ [] && value.scalar

def requireNonEmptyString (fieldName : Text) : Py Unit :=
  valueErrorIf (isNonEmptyScalar value = false) (fieldName ++ ascii " must be a non-empty Unicode scalar string")

def requireSha256 (fieldName : Text) : Py Unit :=
  valueErrorIf (isSha256Hex value = false) (fieldName ++ ascii " must be lowercase SHA-256 hexadecimal")

def requireSortedUniqueStrings (values : List Text) (fieldName : Text) (requireNonEmpty : Bool) : Py Unit := do
  valueErrorIf (requireNonEmpty = true ∧ values = []) (fieldName ++ ascii " must not be empty")
  valueErrorIf (∃ value ∈ values, isNonEmptyScalar value = false)
    (fieldName ++ ascii " must contain non-empty Unicode scalar strings")
  requireSorted values (fieldName ++ ascii " must be sorted and unique by ECMAScript UTF-16 order")

def requireOrderedIds (values : List Text) (fieldName : Text) : Py Unit :=
  requireSorted values (fieldName ++ ascii " must be ordered and unique by identity")

structure SelectedObligationFields where
  obligationId : Text
  depth : ValidationDepth
  requiredWitnessIds : List Text
  deriving DecidableEq

def SelectedObligationFields.postInit (self : SelectedObligationFields) : Py Unit := do
  requireNonEmptyString self.obligationId (ascii "obligation_id")
  requireSortedUniqueStrings self.requiredWitnessIds (ascii "required_witness_ids") true

/-- An obligation selected at a depth. -/
structure SelectedObligation extends SelectedObligationFields where
  admitted : toSelectedObligationFields.postInit = .ok ()
  deriving DecidableEq

namespace SelectedObligation

def create (obligationId : Text) (depth : ValidationDepth) (requiredWitnessIds : List Text) : Py SelectedObligation :=
  construct (SelectedObligationFields.postInit ⟨obligationId, depth, requiredWitnessIds⟩) fun admitted => ⟨_, admitted⟩

def toIdentityMapping (self : SelectedObligation) : Json :=
  .obj [(ascii "obligationId", .str self.obligationId), (ascii "depth", .str self.depth.text),
    (ascii "requiredWitnessIds", .arr (self.requiredWitnessIds.map .str))]

end SelectedObligation

structure SelectedWitnessFields where
  witnessId : Text
  depth : ValidationDepth
  requiredByObligationIds : List Text
  deriving DecidableEq

def SelectedWitnessFields.postInit (self : SelectedWitnessFields) : Py Unit := do
  requireNonEmptyString self.witnessId (ascii "witness_id")
  requireSortedUniqueStrings self.requiredByObligationIds (ascii "required_by_obligation_ids") true

/-- A witness selected at the strongest depth that requires it. -/
structure SelectedWitness extends SelectedWitnessFields where
  admitted : toSelectedWitnessFields.postInit = .ok ()
  deriving DecidableEq

namespace SelectedWitness

def create (witnessId : Text) (depth : ValidationDepth) (requiredByObligationIds : List Text) : Py SelectedWitness :=
  construct (SelectedWitnessFields.postInit ⟨witnessId, depth, requiredByObligationIds⟩) fun admitted => ⟨_, admitted⟩

def toIdentityMapping (self : SelectedWitness) : Json :=
  .obj [(ascii "witnessId", .str self.witnessId), (ascii "depth", .str self.depth.text),
    (ascii "requiredByObligationIds", .arr (self.requiredByObligationIds.map .str))]

end SelectedWitness

/-- The predicates that an omission proof asserts; the planner asserts all of them. -/
structure OmissionPredicates where
  knownDiff : Bool := true
  graphFresh : Bool := true
  surfaceKnown : Bool := true
  noImpactIntersection : Bool := true
  noGlobalRiskFile : Bool := true
  omissionAllowedByPolicy : Bool := true
  deriving DecidableEq

def OmissionPredicates.toIdentityMapping (self : OmissionPredicates) : Json :=
  .obj [(ascii "knownDiff", .bool self.knownDiff), (ascii "graphFresh", .bool self.graphFresh),
    (ascii "surfaceKnown", .bool self.surfaceKnown), (ascii "noImpactIntersection", .bool self.noImpactIntersection),
    (ascii "noGlobalRiskFile", .bool self.noGlobalRiskFile),
    (ascii "omissionAllowedByPolicy", .bool self.omissionAllowedByPolicy)]

structure OmissionProofFields where
  obligationId : Text
  ruleId : Text
  repoEpochHash : Text
  diffHash : Text
  policyHash : Text
  graphHash : Text
  catalogHash : Text
  predicates : OmissionPredicates
  assumptions : List Text
  invalidatesWhen : List Text
  deriving DecidableEq

def OmissionProofFields.postInit (self : OmissionProofFields) : Py Unit := do
  requireNonEmptyString self.obligationId (ascii "obligation_id")
  requireNonEmptyString self.ruleId (ascii "rule_id")
  forEach (fun (entry : Text × Text) => requireSha256 entry.2 entry.1)
    [(ascii "repo_epoch_hash", self.repoEpochHash), (ascii "diff_hash", self.diffHash),
      (ascii "policy_hash", self.policyHash), (ascii "graph_hash", self.graphHash),
      (ascii "catalog_hash", self.catalogHash)]
  requireSortedUniqueStrings self.assumptions (ascii "assumptions") false
  requireSortedUniqueStrings self.invalidatesWhen (ascii "invalidates_when") false

/-- The coordinates and assumptions under which an obligation is omitted. -/
structure OmissionProof extends OmissionProofFields where
  admitted : toOmissionProofFields.postInit = .ok ()
  deriving DecidableEq

def OmissionProof.toIdentityMapping (self : OmissionProof) : Json :=
  .obj [(ascii "obligationId", .str self.obligationId), (ascii "ruleId", .str self.ruleId),
    (ascii "repoEpochHash", .str self.repoEpochHash), (ascii "diffHash", .str self.diffHash),
    (ascii "policyHash", .str self.policyHash), (ascii "graphHash", .str self.graphHash),
    (ascii "catalogHash", .str self.catalogHash), (ascii "predicates", self.predicates.toIdentityMapping),
    (ascii "assumptions", .arr (self.assumptions.map .str)),
    (ascii "invalidatesWhen", .arr (self.invalidatesWhen.map .str))]

structure OmittedObligationFields where
  obligationId : Text
  requiredWitnessIds : List Text
  proof : OmissionProof
  deriving DecidableEq

def OmittedObligationFields.postInit (self : OmittedObligationFields) : Py Unit := do
  valueErrorIf (self.obligationId ≠ self.proof.obligationId)
    (ascii "omitted obligation id must match proof obligation id")
  requireSortedUniqueStrings self.requiredWitnessIds (ascii "required_witness_ids") true

/-- An obligation that a plan does not run. -/
structure OmittedObligation extends OmittedObligationFields where
  admitted : toOmittedObligationFields.postInit = .ok ()
  deriving DecidableEq

def OmittedObligation.toIdentityMapping (self : OmittedObligation) : Json :=
  .obj [(ascii "obligationId", .str self.obligationId),
    (ascii "requiredWitnessIds", .arr (self.requiredWitnessIds.map .str)), (ascii "proof", self.proof.toIdentityMapping)]

structure PlanFallbackFields where
  timeoutSeconds : Int
  triggered : Bool
  reason : Option Text
  deriving DecidableEq

def PlanFallbackFields.postInit (self : PlanFallbackFields) : Py Unit := do
  valueErrorIf (¬ (1 ≤ self.timeoutSeconds ∧ self.timeoutSeconds ≤ 3600))
    (ascii "timeout_seconds must be an integer in [1, 3600]")
  valueErrorIf (self.triggered ≠ self.reason.isSome) (ascii "fallback reason presence must equal triggered")
  match self.reason with
  | none => pure ()
  | some reason => requireNonEmptyString reason (ascii "reason")

/-- Whether a plan falls back to full CI; the inventory of triggers is the same for every plan. -/
structure PlanFallback extends PlanFallbackFields where
  admitted : toPlanFallbackFields.postInit = .ok ()
  deriving DecidableEq

namespace PlanFallback

def create (timeoutSeconds : Int) (triggered : Bool) (reason : Option Text) : Py PlanFallback :=
  construct (PlanFallbackFields.postInit ⟨timeoutSeconds, triggered, reason⟩) fun admitted => ⟨_, admitted⟩

def toIdentityMapping (self : PlanFallback) : Json :=
  .obj [(ascii "kind", .str (ascii "full-ci")), (ascii "timeoutSeconds", .int self.timeoutSeconds),
    (ascii "triggerOn", .arr [.str (ascii "timeout"), .str (ascii "invalid-plan"), .str (ascii "stale-input"),
      .str (ascii "verifier-error")]),
    (ascii "triggered", .bool self.triggered), (ascii "reason", optionalText self.reason)]

end PlanFallback

inductive PlanEvidenceKind where
  | selected
  | omitted
  | fallback
  deriving DecidableEq

def PlanEvidenceKind.text : PlanEvidenceKind → Text
  | .selected => ascii "selected"
  | .omitted => ascii "omitted"
  | .fallback => ascii "fallback"

structure PlanEvidenceFields where
  kind : PlanEvidenceKind
  obligationId : Option Text
  message : Text
  deriving DecidableEq

def PlanEvidenceFields.postInit (self : PlanEvidenceFields) : Py Unit := do
  match self.obligationId with
  | none => pure ()
  | some obligationId => requireNonEmptyString obligationId (ascii "obligation_id")
  requireNonEmptyString self.message (ascii "message")

/-- The recorded reason of a planning decision. -/
structure PlanEvidence extends PlanEvidenceFields where
  admitted : toPlanEvidenceFields.postInit = .ok ()
  deriving DecidableEq

namespace PlanEvidence

def create (kind : PlanEvidenceKind) (obligationId : Option Text) (message : Text) : Py PlanEvidence :=
  construct (PlanEvidenceFields.postInit ⟨kind, obligationId, message⟩) fun admitted => ⟨_, admitted⟩

def toIdentityMapping (self : PlanEvidence) : Json :=
  .obj [(ascii "kind", .str self.kind.text), (ascii "obligationId", optionalText self.obligationId),
    (ascii "message", .str self.message)]

end PlanEvidence

/-- Selected witnesses must be exactly the required ones, at the strongest depth that requires them. -/
def validateWitnessClosure (selectedObligations : List SelectedObligation) (selectedWitnesses : List SelectedWitness) :
    Py Unit := do
  let selectedIds := selectedObligations.map fun item => item.obligationId
  let selectedDepths : Dictionary Text ValidationDepth := Dictionary.comprehend (selectedObligations.map fun item => (item.obligationId, item.depth))
  let requiredByWitness : Dictionary Text (List Text) := Dictionary.group (selectedObligations.flatMap fun obligation =>
    obligation.requiredWitnessIds.map fun witnessId => (witnessId, obligation.obligationId))
  valueErrorIf (¬ SameMembers (selectedWitnesses.map fun item => item.witnessId) requiredByWitness.keys)
    (ascii "selected witnesses must exactly close obligation requirements")
  forEach (fun (witness : SelectedWitness) => do
      valueErrorIf (¬ witness.requiredByObligationIds ⊆ selectedIds)
        (ascii "witness coverage references an unselected obligation")
      valueErrorIf (¬ SameMembers witness.requiredByObligationIds
          ((requiredByWitness.get? witness.witnessId).getD []))
        (ascii "witness reverse edges must exactly match obligation requirements")
      valueErrorIf (some witness.depth ≠
          ValidationDepth.strongest (witness.requiredByObligationIds.filterMap selectedDepths.get?))
        (ascii "witness depth must equal its strongest requiring obligation"))
    selectedWitnesses

structure DeterministicPlanFields where
  planId : Text
  configEpochId : Text
  repoEpochHash : Text
  inputHash : Text
  diffHash : Text
  compiledPolicyHash : Text
  policyHash : Text
  dependencyGraphHash : Text
  catalogHash : Text
  selectedObligations : List SelectedObligation
  selectedWitnesses : List SelectedWitness
  omittedObligations : List OmittedObligation
  fallback : PlanFallback
  evidence : List PlanEvidence
  deriving DecidableEq

namespace DeterministicPlanFields

variable (self : DeterministicPlanFields)

def identityMapping : Json :=
  .obj [(ascii "schemaVersion", .str (ascii "deterministic-plan/v1")),
    (ascii "plannerVersion", .str (ascii "planning-core/v1")), (ascii "configEpochId", .str self.configEpochId),
    (ascii "repoEpochHash", .str self.repoEpochHash), (ascii "inputHash", .str self.inputHash),
    (ascii "diffHash", .str self.diffHash), (ascii "compiledPolicyHash", .str self.compiledPolicyHash),
    (ascii "policyHash", .str self.policyHash), (ascii "dependencyGraphHash", .str self.dependencyGraphHash),
    (ascii "catalogHash", .str self.catalogHash),
    (ascii "selectedObligations", .arr (self.selectedObligations.map SelectedObligation.toIdentityMapping)),
    (ascii "selectedWitnesses", .arr (self.selectedWitnesses.map SelectedWitness.toIdentityMapping)),
    (ascii "omittedObligations", .arr (self.omittedObligations.map OmittedObligation.toIdentityMapping)),
    (ascii "fallback", self.fallback.toIdentityMapping),
    (ascii "evidence", .arr (self.evidence.map PlanEvidence.toIdentityMapping))]

/-- The identifier that binds every other field of a plan. -/
def expectedId : Py Text := do
  let hash ← hashObject self.identityMapping
  return ascii "dynamic_ci_plan_" ++ hash.take 32

def postInit : Py Unit := do
  requireNonEmptyString self.planId (ascii "plan_id")
  forEach (fun (entry : Text × Text) => requireSha256 entry.2 entry.1)
    [(ascii "config_epoch_id", self.configEpochId), (ascii "repo_epoch_hash", self.repoEpochHash),
      (ascii "input_hash", self.inputHash), (ascii "diff_hash", self.diffHash),
      (ascii "compiled_policy_hash", self.compiledPolicyHash), (ascii "policy_hash", self.policyHash),
      (ascii "dependency_graph_hash", self.dependencyGraphHash), (ascii "catalog_hash", self.catalogHash)]
  requireOrderedIds (self.selectedObligations.map fun item => item.obligationId) (ascii "selected_obligations")
  requireOrderedIds (self.selectedWitnesses.map fun item => item.witnessId) (ascii "selected_witnesses")
  requireOrderedIds (self.omittedObligations.map fun item => item.obligationId) (ascii "omitted_obligations")
  valueErrorIf (∃ item ∈ self.selectedObligations,
      item.obligationId ∈ self.omittedObligations.map fun omitted => omitted.obligationId)
    (ascii "selected and omitted obligations must be disjoint")
  validateWitnessClosure self.selectedObligations self.selectedWitnesses
  let expectedId ← self.expectedId
  valueErrorIf (self.planId ≠ expectedId) (ascii "plan_id does not bind deterministic plan identity")

end DeterministicPlanFields

/-- A plan whose identifier binds its content. -/
structure DeterministicPlan extends DeterministicPlanFields where
  admitted : toDeterministicPlanFields.postInit = .ok ()
  deriving DecidableEq

/-- The constructor of a plan whose identifier is computed from its other fields. -/
def DeterministicPlan.seal (fields : DeterministicPlanFields) : Py DeterministicPlan := do
  let planId ← fields.expectedId
  let identified := { fields with planId := planId }
  construct identified.postInit fun admitted => ⟨identified, admitted⟩

/-- The planner refuses inputs of another policy. -/
structure PlanningRejected where
  reasons : List Text
  admitted : requireSortedUniqueStrings reasons (ascii "reasons") false = .ok ()

variable {fieldName : Text} {passed : Unit}

theorem isNonEmptyScalar_iff {value : Text} : isNonEmptyScalar value = true ↔ value ≠ [] ∧ value.scalar = true := by
  simp [isNonEmptyScalar]

@[simp] theorem requireNonEmptyString_eq_ok {value : Text} :
    requireNonEmptyString value fieldName = .ok passed ↔ value ≠ [] ∧ value.scalar = true := by
  simp [requireNonEmptyString, isNonEmptyScalar]

@[simp] theorem requireSha256_eq_ok {value : Text} : requireSha256 value fieldName = .ok passed ↔ isSha256Hex value = true := by
  simp [requireSha256]

@[simp] theorem requireOrderedIds_eq_ok {values : List Text} :
    requireOrderedIds values fieldName = .ok passed ↔ CanonicalTexts values := by
  simp [requireOrderedIds]

@[simp] theorem requireSortedUniqueStrings_eq_ok {values : List Text} {requireNonEmpty : Bool} :
    requireSortedUniqueStrings values fieldName requireNonEmpty = .ok passed ↔
      (requireNonEmpty = true → values ≠ []) ∧ [] ∉ values ∧ CanonicalTexts values := by
  simp only [requireSortedUniqueStrings, bind_unit_eq_ok, raiseIf_eq_ok, requireSorted_eq_ok, not_and, not_exists,
    Bool.not_eq_false, isNonEmptyScalar_iff]
  constructor
  · rintro ⟨nonempty, each, canonical⟩
    exact ⟨nonempty, fun member => (each [] member).1 rfl, canonical⟩
  · rintro ⟨nonempty, each, canonical⟩
    refine ⟨nonempty, fun value member => ⟨?_, canonical.1 value member⟩, canonical⟩
    rintro rfl
    exact each member

namespace SelectedObligation

theorem facts (self : SelectedObligation) :
    self.obligationId ≠ [] ∧ self.obligationId.scalar = true ∧ self.requiredWitnessIds ≠ [] ∧
      [] ∉ self.requiredWitnessIds ∧ CanonicalTexts self.requiredWitnessIds := by
  have admitted := self.admitted
  simp only [SelectedObligationFields.postInit, bind_unit_eq_ok, requireNonEmptyString_eq_ok,
    requireSortedUniqueStrings_eq_ok] at admitted
  exact ⟨admitted.1.1, admitted.1.2, admitted.2.1 trivial, admitted.2.2.1, admitted.2.2.2⟩

theorem ext_fields {left right : SelectedObligation}
    (equal : left.toSelectedObligationFields = right.toSelectedObligationFields) : left = right := by
  obtain ⟨leftFields, leftAdmitted⟩ := left
  obtain ⟨rightFields, rightAdmitted⟩ := right
  simp only at equal
  subst equal
  rfl

theorem create_eq_ok {obligationId : Text} {depth : ValidationDepth} {requiredWitnessIds : List Text}
    {selected : SelectedObligation} :
    create obligationId depth requiredWitnessIds = .ok selected ↔
      selected.toSelectedObligationFields = ⟨obligationId, depth, requiredWitnessIds⟩ := by
  rw [create, construct_eq_ok]
  constructor
  · rintro ⟨passed, rfl⟩
    rfl
  · intro equal
    obtain ⟨fields, admitted⟩ := selected
    simp only at equal
    subst equal
    exact ⟨admitted, rfl⟩

@[simp] theorem admissible_mapping (self : SelectedObligation) : admissible self.toIdentityMapping = true := by
  obtain ⟨-, scalar, -, -, witnesses⟩ := self.facts
  simp only [toIdentityMapping, admissible_obj, all_cons, all_nil, scalar_ascii, admissible_str, scalar,
    ValidationDepth.scalar_text, admissible_texts witnesses.1, Bool.and_true]

end SelectedObligation

namespace SelectedWitness

theorem facts (self : SelectedWitness) : self.witnessId ≠ [] ∧ self.witnessId.scalar = true ∧ self.requiredByObligationIds ≠ [] ∧
      [] ∉ self.requiredByObligationIds ∧ CanonicalTexts self.requiredByObligationIds := by
  have admitted := self.admitted
  simp only [SelectedWitnessFields.postInit, bind_unit_eq_ok, requireNonEmptyString_eq_ok,
    requireSortedUniqueStrings_eq_ok] at admitted
  exact ⟨admitted.1.1, admitted.1.2, admitted.2.1 trivial, admitted.2.2.1, admitted.2.2.2⟩

theorem create_eq_ok {witnessId : Text} {depth : ValidationDepth} {requiredBy : List Text} {selected : SelectedWitness} :
    create witnessId depth requiredBy = .ok selected ↔ selected.toSelectedWitnessFields = ⟨witnessId, depth, requiredBy⟩ := by
  rw [create, construct_eq_ok]
  constructor
  · rintro ⟨passed, rfl⟩
    rfl
  · intro equal
    obtain ⟨fields, admitted⟩ := selected
    simp only at equal
    subst equal
    exact ⟨admitted, rfl⟩

theorem ext_fields {left right : SelectedWitness}
    (equal : left.toSelectedWitnessFields = right.toSelectedWitnessFields) : left = right := by
  obtain ⟨leftFields, leftAdmitted⟩ := left
  obtain ⟨rightFields, rightAdmitted⟩ := right
  simp only at equal
  subst equal
  rfl

@[simp] theorem admissible_mapping (self : SelectedWitness) : admissible self.toIdentityMapping = true := by
  obtain ⟨-, scalar, -, -, obligations⟩ := self.facts
  simp only [toIdentityMapping, admissible_obj, all_cons, all_nil, scalar_ascii, admissible_str, scalar,
    ValidationDepth.scalar_text, admissible_texts obligations.1, Bool.and_true]

end SelectedWitness

@[simp] theorem admissible_omissionPredicates (self : OmissionPredicates) : admissible self.toIdentityMapping = true := by
  simp [OmissionPredicates.toIdentityMapping]

@[simp] theorem admissible_omissionProof (self : OmissionProof) : admissible self.toIdentityMapping = true := by
  have admitted := self.admitted
  simp only [OmissionProofFields.postInit, bind_unit_eq_ok, requireNonEmptyString_eq_ok, forEach_eq_ok,
    requireSha256_eq_ok, requireSortedUniqueStrings_eq_ok, mem_cons, not_mem_nil, or_false,
    forall_eq_or_imp, forall_eq] at admitted
  obtain ⟨⟨-, obligation⟩, ⟨-, rule⟩, ⟨repo, diff, policy, graph, catalog⟩, ⟨-, -, assumptions⟩, -, -, invalidates⟩ :=
    admitted
  simp only [OmissionProof.toIdentityMapping, admissible_obj, all_cons, all_nil, scalar_ascii,
    admissible_str, obligation, rule, scalar_of_isSha256Hex repo, scalar_of_isSha256Hex diff,
    scalar_of_isSha256Hex policy, scalar_of_isSha256Hex graph, scalar_of_isSha256Hex catalog,
    admissible_omissionPredicates, admissible_texts assumptions.1, admissible_texts invalidates.1, Bool.and_true]

namespace OmittedObligation

theorem facts (self : OmittedObligation) :
    self.obligationId = self.proof.obligationId ∧ self.requiredWitnessIds ≠ [] ∧ CanonicalTexts self.requiredWitnessIds := by
  have admitted := self.admitted
  simp only [OmittedObligationFields.postInit, bind_unit_eq_ok, raiseIf_eq_ok, not_not,
    requireSortedUniqueStrings_eq_ok] at admitted
  exact ⟨admitted.1, admitted.2.1 trivial, admitted.2.2.2⟩

theorem scalar (self : OmittedObligation) : self.obligationId.scalar = true := by
  have admitted := self.proof.admitted
  simp only [OmissionProofFields.postInit, bind_unit_eq_ok, requireNonEmptyString_eq_ok] at admitted
  rw [self.facts.1]
  exact admitted.1.2

@[simp] theorem admissible_mapping (self : OmittedObligation) : admissible self.toIdentityMapping = true := by
  simp only [toIdentityMapping, admissible_obj, all_cons, all_nil, scalar_ascii, admissible_str,
    self.scalar, admissible_texts self.facts.2.2.1, admissible_omissionProof, Bool.and_true]

end OmittedObligation

namespace PlanFallback

variable {timeoutSeconds : Int} (self : PlanFallback)

theorem facts : 1 ≤ self.timeoutSeconds ∧ self.timeoutSeconds ≤ 3600 ∧ self.triggered = self.reason.isSome ∧
      self.reason.all Text.scalar = true := by
  have admitted := self.admitted
  simp only [PlanFallbackFields.postInit, bind_unit_eq_ok, raiseIf_eq_ok, not_not] at admitted
  refine ⟨admitted.1.1, admitted.1.2, admitted.2.1, ?_⟩
  cases found : self.reason with
  | none => rfl
  | some reason =>
    have checked := admitted.2.2
    rw [found] at checked
    simpa using (requireNonEmptyString_eq_ok.mp checked).2

@[simp] theorem admissible_mapping : admissible self.toIdentityMapping = true := by
  obtain ⟨lower, upper, -, reason⟩ := self.facts
  have bound : self.timeoutSeconds.natAbs ≤ maxSafeJsonInteger := by
    simp only [maxSafeJsonInteger]
    omega
  simp only [toIdentityMapping, admissible_obj, all_cons, all_nil, scalar_ascii, admissible_str,
    admissible_int, admissible_bool, admissible_arr, admissible_optionalText, reason, bound, decide_true, Bool.and_true]

theorem reason_nonempty {reason : Text} (given : self.reason = some reason) : reason ≠ [] ∧ reason.scalar = true := by
  have admitted := self.admitted
  simp only [PlanFallbackFields.postInit, bind_unit_eq_ok, given] at admitted
  exact requireNonEmptyString_eq_ok.mp admitted.2.2

theorem create_total (lower : 1 ≤ timeoutSeconds) (upper : timeoutSeconds ≤ 3600) {reason : Text}
    (nonempty : reason ≠ []) (scalar : reason.scalar = true) :
    ∃ fallback, create timeoutSeconds true (some reason) = .ok fallback ∧
      fallback.toPlanFallbackFields = ⟨timeoutSeconds, true, some reason⟩ := by
  have admitted : PlanFallbackFields.postInit ⟨timeoutSeconds, true, some reason⟩ = .ok () := by
    simp only [PlanFallbackFields.postInit, bind_unit_eq_ok, raiseIf_eq_ok, not_not, requireNonEmptyString_eq_ok,
      Option.isSome_some, ne_eq]
    exact ⟨⟨lower, upper⟩, trivial, nonempty, scalar⟩
  exact ⟨⟨_, admitted⟩, construct_ok admitted, rfl⟩

theorem create_regular_total (lower : 1 ≤ timeoutSeconds) (upper : timeoutSeconds ≤ 3600) :
    ∃ fallback, create timeoutSeconds false none = .ok fallback ∧
      fallback.toPlanFallbackFields = ⟨timeoutSeconds, false, none⟩ := by
  have admitted : PlanFallbackFields.postInit ⟨timeoutSeconds, false, none⟩ = .ok () := by
    simp only [PlanFallbackFields.postInit, bind_unit_eq_ok, raiseIf_eq_ok, not_not, Option.isSome_none, ne_eq, pure_eq_ok_iff]
    exact ⟨⟨lower, upper⟩, trivial, trivial⟩
  exact ⟨⟨_, admitted⟩, construct_ok admitted, rfl⟩

end PlanFallback

namespace PlanEvidence

theorem facts (self : PlanEvidence) : self.obligationId.all Text.scalar = true ∧ self.message.scalar = true := by
  have admitted := self.admitted
  simp only [PlanEvidenceFields.postInit] at admitted
  cases found : self.obligationId with
  | none =>
    rw [found] at admitted
    exact ⟨rfl, (requireNonEmptyString_eq_ok.mp admitted).2⟩
  | some obligationId =>
    rw [found] at admitted
    simp only [bind_unit_eq_ok, requireNonEmptyString_eq_ok] at admitted
    exact ⟨by simpa using admitted.1.2, admitted.2.2⟩

theorem create_eq_ok {kind : PlanEvidenceKind} {obligationId : Option Text} {message : Text} {evidence : PlanEvidence} :
    create kind obligationId message = .ok evidence ↔ evidence.toPlanEvidenceFields = ⟨kind, obligationId, message⟩ := by
  rw [create, construct_eq_ok]
  constructor
  · rintro ⟨passed, rfl⟩
    rfl
  · intro equal
    obtain ⟨fields, admitted⟩ := evidence
    simp only at equal
    subst equal
    exact ⟨admitted, rfl⟩

theorem fallback_total {reason : Text} (nonempty : reason ≠ []) (scalar : reason.scalar = true) :
    ∃ evidence, create .fallback none reason = .ok evidence := by
  have admitted : PlanEvidenceFields.postInit ⟨.fallback, none, reason⟩ = .ok () :=
    requireNonEmptyString_eq_ok.mpr ⟨nonempty, scalar⟩
  exact ⟨_, construct_ok admitted⟩

@[simp] theorem scalar_kindText (kind : PlanEvidenceKind) : kind.text.scalar = true := by
  cases kind <;> simp [PlanEvidenceKind.text]

@[simp] theorem admissible_mapping (self : PlanEvidence) : admissible self.toIdentityMapping = true := by
  simp only [toIdentityMapping, admissible_obj, all_cons, all_nil, scalar_ascii, admissible_str,
    scalar_kindText, admissible_optionalText, self.facts.1, self.facts.2, Bool.and_true]

end PlanEvidence

namespace DeterministicPlan

/-- What the constructor of a plan guarantees. -/
structure Facts (plan : DeterministicPlan) : Prop where
  configEpoch : isSha256Hex plan.configEpochId = true
  repoEpoch : isSha256Hex plan.repoEpochHash = true
  input : isSha256Hex plan.inputHash = true
  diff : isSha256Hex plan.diffHash = true
  compiledPolicy : isSha256Hex plan.compiledPolicyHash = true
  policy : isSha256Hex plan.policyHash = true
  graph : isSha256Hex plan.dependencyGraphHash = true
  catalog : isSha256Hex plan.catalogHash = true
  selected : CanonicalTexts (plan.selectedObligations.map fun item => item.obligationId)
  witnesses : CanonicalTexts (plan.selectedWitnesses.map fun item => item.witnessId)
  omitted : CanonicalTexts (plan.omittedObligations.map fun item => item.obligationId)
  disjoint : ∀ item ∈ plan.selectedObligations,
    item.obligationId ∉ plan.omittedObligations.map fun omitted => omitted.obligationId
  identified : plan.expectedId = .ok plan.planId

theorem facts (self : DeterministicPlan) : self.Facts := by
  have admitted := self.admitted
  simp only [DeterministicPlanFields.postInit, bind_eq_ok, exists_unit_iff, requireNonEmptyString_eq_ok, forEach_eq_ok,
    requireSha256_eq_ok, requireOrderedIds_eq_ok, raiseIf_eq_ok, not_not, mem_cons, not_mem_nil, or_false,
    forall_eq_or_imp, forall_eq, not_exists, not_and] at admitted
  obtain ⟨-, ⟨config, repo, input, diff, compiled, policy, graph, catalog⟩, selected, witnesses, omitted, disjoint, -,
    expected, computed, equal⟩ := admitted
  exact ⟨config, repo, input, diff, compiled, policy, graph, catalog, selected, witnesses, omitted, disjoint, equal ▸ computed⟩

end DeterministicPlan

/-- A plan with digest coordinates can be hashed whatever its members are. -/
theorem admissible_identityMapping {fields : DeterministicPlanFields}
    (config : fields.configEpochId.scalar = true) (repo : fields.repoEpochHash.scalar = true)
    (input : fields.inputHash.scalar = true) (diff : fields.diffHash.scalar = true)
    (compiled : fields.compiledPolicyHash.scalar = true) (policy : fields.policyHash.scalar = true)
    (graph : fields.dependencyGraphHash.scalar = true) (catalog : fields.catalogHash.scalar = true) :
    admissible fields.identityMapping = true := by
  simp [DeterministicPlanFields.identityMapping, config, repo, input, diff, compiled, policy, graph, catalog]

theorem DeterministicPlan.admissible_mapping (self : DeterministicPlan) : admissible self.identityMapping = true := by
  have facts := self.facts
  exact admissible_identityMapping (scalar_of_isSha256Hex facts.configEpoch) (scalar_of_isSha256Hex facts.repoEpoch)
    (scalar_of_isSha256Hex facts.input) (scalar_of_isSha256Hex facts.diff)
    (scalar_of_isSha256Hex facts.compiledPolicy) (scalar_of_isSha256Hex facts.policy)
    (scalar_of_isSha256Hex facts.graph) (scalar_of_isSha256Hex facts.catalog)

/-- The identifier of a plan that can be hashed is a nonempty scalar text. -/
theorem DeterministicPlanFields.expectedId_total {fields : DeterministicPlanFields}
    (passed : admissible fields.identityMapping = true) :
    ∃ id, fields.expectedId = .ok id ∧ id ≠ [] ∧ id.scalar = true := by
  obtain ⟨hash, hashed⟩ : ∃ hash, hashObject fields.identityMapping = .ok hash := ⟨_, hashObject_of_admissible passed⟩
  refine ⟨ascii "dynamic_ci_plan_" ++ hash.take 32, ?_, append_ne_nil_of_left_ne_nil (by decide) _, ?_⟩
  · simp only [expectedId, hashed, ok_bind_eq]
    rfl
  · have whole := scalar_of_isSha256Hex (isSha256Hex_of_hashObject hashed)
    rw [← take_append_drop 32 hash, scalar_append] at whole
    rw [scalar_append]
    exact ⟨scalar_ascii _, whole.1⟩

end CiCoordinator.PlanningCore

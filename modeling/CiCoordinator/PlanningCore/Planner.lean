import CiCoordinator.PlanningCore.Impact
import CiCoordinator.PlanningCore.Witnesses

/- The deterministic planner. -/

namespace CiCoordinator.PlanningCore

open Library Kernel ValidationContract RepoContext

/-- Texts joined by a separator. -/
def joinTexts (separator : Text) (texts : List Text) : Text :=
  List.intercalate separator texts

def omissionAssumptions : List Text :=
  sortedUnique Text.utf16
    [ascii "dependency graph includes all known dependents for changed paths",
      ascii "validation catalog is closed over obligation and witness identities"]

def omissionInvalidators : List Text :=
  sortedUnique Text.utf16
    [ascii "changed path is unknown", ascii "dependency graph is stale", ascii "diff is truncated",
      ascii "policy changes", ascii "validation catalog changes"]

/-- An obligation is either proven omittable or kept for a reason. -/
inductive OmissionDecision where
  | proven (proof : OmissionProof)
  | notOmittable (reason : Text)

/-- The planner omits an obligation only when nothing it is responsible for is impacted. -/
def buildOmissionProof (input : PlanningInput) (policy : PlanningPolicy) (obligation : ValidationObligation)
    (impact : ImpactAnalysis) : Py OmissionDecision :=
  if obligation.omitAllowed = false then .ok (.notOmittable (ascii "policy does not allow omission"))
  else if impact.globalRiskPaths ≠ [] then
    .ok (.notOmittable (ascii "global risk paths changed: " ++ joinTexts (ascii ", ") impact.globalRiskPaths))
  else
    match impact.impactedPaths.find? fun path =>
      obligation.responsibilityPaths.any fun pattern => matchesPathPattern pattern path with
    | some path => .ok (.notOmittable (ascii "impact intersects responsibility path " ++ path))
    | none =>
      match obligation.responsibilityRiskClasses.find? fun riskClass => riskClass ∈ impact.impactedRiskClasses with
      | some riskClass => .ok (.notOmittable (ascii "impact intersects responsibility risk class " ++ riskClass))
      | none => do
        let repoEpochHash ← hashObject input.repoEpoch.toIdentityMapping
        let fields : OmissionProofFields :=
          { obligationId := obligation.obligationId
            ruleId := obligation.obligationId ++ ascii ":no-impact"
            repoEpochHash := repoEpochHash
            diffHash := input.diff.diffHash
            policyHash := policy.policyHash
            graphHash := input.dependencyGraph.graphHash
            catalogHash := policy.catalog.catalogHash
            predicates := {}
            assumptions := omissionAssumptions
            invalidatesWhen := omissionInvalidators }
        construct fields.postInit fun admitted => .proven ⟨fields, admitted⟩

/-- The planner's witness closure takes the requirements from the catalog. -/
def closeSelectedWitnesses (catalog : ValidationCatalog) (selectedObligations : List SelectedObligation) :
    Py (List SelectedWitness) := do
  let requirements ← collect (fun (selected : SelectedObligation) =>
      match catalog.obligationsById.get? selected.obligationId with
      | none => .error (.valueError (ascii "selected obligation is absent from the validation catalog"))
      | some obligation => do
        forEach (fun witnessId =>
            match catalog.witnessesById.get? witnessId with
            | none => .error .keyError
            | some witness =>
              valueErrorIf (selected.depth ∉ witness.supportedDepths)
                (ascii "selected depth is unsupported by a required witness"))
          obligation.requiredWitnessIds
        return obligation.requiredWitnessIds.map fun witnessId => (witnessId, selected))
    selectedObligations
  assembleWitnesses requirements.flatten

/-- The text that orders the evidence of a plan. -/
def evidenceSortText (item : PlanEvidence) : Text :=
  item.kind.text ++ ascii ":" ++ item.obligationId.getD [] ++ ascii ":" ++ item.message

def finalizePlan (input : PlanningInput) (policy : PlanningPolicy) (selectedObligations : List SelectedObligation)
    (omittedObligations : List OmittedObligation) (fallback : PlanFallback) (evidence : List PlanEvidence) :
    Py DeterministicPlan := do
  let selected ← sortedByText (fun item => item.obligationId) selectedObligations
  let witnesses ← closeSelectedWitnesses policy.catalog selected
  let omitted ← sortedByText (fun item => item.obligationId) omittedObligations
  let orderedEvidence ← sortedByText evidenceSortText evidence
  let repoEpochHash ← hashObject input.repoEpoch.toIdentityMapping
  DeterministicPlan.seal
    { planId := []
      configEpochId := input.policy.epochId
      repoEpochHash := repoEpochHash
      inputHash := input.inputHash
      diffHash := input.diff.diffHash
      compiledPolicyHash := policy.compiledPolicyHash
      policyHash := policy.policyHash
      dependencyGraphHash := input.dependencyGraph.graphHash
      catalogHash := policy.catalog.catalogHash
      selectedObligations := selected
      selectedWitnesses := witnesses
      omittedObligations := omitted
      fallback := fallback
      evidence := orderedEvidence }

/-- The conservative plan selects every obligation at full depth. -/
def fullCiPlan (input : PlanningInput) (policy : PlanningPolicy) (reason : Text) : Py DeterministicPlan := do
  let selected ← collect (fun (obligation : ValidationObligation) =>
      SelectedObligation.create obligation.obligationId obligation.fullDepth obligation.requiredWitnessIds)
    policy.catalog.obligations
  let fallback ← PlanFallback.create policy.fallbackTimeoutSeconds true (some reason)
  let evidence ← PlanEvidence.create .fallback none reason
  finalizePlan input policy selected [] fallback [evidence]

/-- An obligation is either selected or omitted, and both are recorded. -/
inductive PlannedObligation where
  | selected (obligation : SelectedObligation) (evidence : PlanEvidence)
  | omitted (obligation : OmittedObligation) (evidence : PlanEvidence)

def planObligation (input : PlanningInput) (policy : PlanningPolicy) (impact : ImpactAnalysis)
    (obligation : ValidationObligation) : Py PlannedObligation := do
  match ← buildOmissionProof input policy obligation impact with
  | .notOmittable reason =>
    let selected ← SelectedObligation.create obligation.obligationId obligation.defaultDepth obligation.requiredWitnessIds
    let evidence ← PlanEvidence.create .selected (some obligation.obligationId) reason
    return .selected selected evidence
  | .proven proof =>
    let fields : OmittedObligationFields := ⟨obligation.obligationId, obligation.requiredWitnessIds, proof⟩
    let omitted ← construct fields.postInit fun admitted => (⟨fields, admitted⟩ : OmittedObligation)
    let evidence ← PlanEvidence.create .omitted (some obligation.obligationId)
      (ascii "deterministic proof showed no impact on this obligation")
    return .omitted omitted evidence

namespace PlannedObligation

def selected? : PlannedObligation → Option SelectedObligation
  | .selected obligation _ => some obligation
  | .omitted _ _ => none

def omitted? : PlannedObligation → Option OmittedObligation
  | .selected _ _ => none
  | .omitted obligation _ => some obligation

def evidence : PlannedObligation → PlanEvidence
  | .selected _ evidence => evidence
  | .omitted _ evidence => evidence

def obligationId : PlannedObligation → Text
  | .selected obligation _ => obligation.obligationId
  | .omitted obligation _ => obligation.obligationId

end PlannedObligation

/-- The planner rejects foreign inputs, falls back on unknown evidence and otherwise decides every obligation. -/
def plan (input : PlanningInput) (policy : PlanningPolicy) : Py (DeterministicPlan ⊕ PlanningRejected) := do
  let rejectionReasons ← plannerRejectionReasons input policy
  if rejectionReasons ≠ [] then
    construct (requireSortedUniqueStrings rejectionReasons (ascii "reasons") false) fun admitted =>
      .inr ⟨rejectionReasons, admitted⟩
  else
    let admissionReasons ← plannerAdmissionReasons input policy
    if admissionReasons ≠ [] then
      .inl <$> fullCiPlan input policy (joinTexts (ascii "; ") admissionReasons)
    else
      let impact ← analyzeImpact input
      if impact.unknownPaths ≠ [] then
        .inl <$> fullCiPlan input policy (ascii "unknown changed paths: " ++ joinTexts (ascii ", ") impact.unknownPaths)
      else
        let planned ← collect (planObligation input policy impact) policy.catalog.obligations
        let fallback ← PlanFallback.create policy.fallbackTimeoutSeconds false none
        .inl <$> finalizePlan input policy (planned.filterMap PlannedObligation.selected?)
          (planned.filterMap PlannedObligation.omitted?) fallback (planned.map PlannedObligation.evidence)

theorem scalar_joinTexts {separator : Text} {texts : List Text} (separatorScalar : separator.scalar = true)
    (scalar : ∀ text ∈ texts, text.scalar = true) : (joinTexts separator texts).scalar = true := by
  induction texts with
  | nil => rfl
  | cons first rest ih =>
    have head := scalar first List.mem_cons_self
    have tail := ih fun text member => scalar text (List.mem_cons_of_mem _ member)
    cases rest with
    | nil => simpa [joinTexts, List.intercalate] using head
    | cons second others =>
      have split : joinTexts separator (first :: second :: others) =
          first ++ (separator ++ joinTexts separator (second :: others)) := by
        simp [joinTexts]
      rw [split, Text.scalar_append, Text.scalar_append]
      exact ⟨head, separatorScalar, tail⟩

end CiCoordinator.PlanningCore

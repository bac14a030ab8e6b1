import CiCoordinator.AgentRiskAdvice.Admission

/- The independent admission of deterministic plans. -/

namespace CiCoordinator.VerificationCore

open Library Kernel ValidationContract RepoContext
open PlanningCore

/-- Why the verifier replaces a candidate by full CI. -/
inductive RejectionReason where
  | deterministicPlanMismatch
  | omissionProofMismatch
  deriving DecidableEq

def RejectionReason.text : RejectionReason → Text
  | .deterministicPlanMismatch => ascii "deterministic_plan_mismatch"
  | .omissionProofMismatch => ascii "omission_proof_mismatch"

def verifierOmissionAssumptions : List Text :=
  sortedUnique Text.utf16 [ascii "dependency graph includes all known dependents for changed paths",
      ascii "validation catalog is closed over obligation and witness identities"]

def verifierOmissionInvalidators : List Text :=
  sortedUnique Text.utf16
    [ascii "changed path is unknown", ascii "dependency graph is stale", ascii "diff is truncated",
      ascii "policy changes", ascii "validation catalog changes"]

variable (catalog : ValidationCatalog)

/-- The verifier's witness closure requires the selection to repeat the requirements of the catalog. -/
def closeSelectedWitnesses (selected : List SelectedObligation) :
    Py (List SelectedWitness) := do
  forEach (fun (item : SelectedObligation) => do
      valueErrorIf ((catalog.obligationsById.get? item.obligationId).map (fun found => found.requiredWitnessIds) ≠
          some item.requiredWitnessIds)
        (ascii "selected obligation requirements must match the validation catalog")
      forEach (fun witnessId =>
          valueErrorIf (((catalog.witnessesById.get? witnessId).any fun witness =>
              item.depth ∈ witness.supportedDepths) = false)
            (ascii "selected depth is unsupported by a required witness"))
        item.requiredWitnessIds)
    selected
  assembleWitnesses (requirementsOf selected)

/-- The impact facts of the verifier; their order carries no meaning. -/
structure ImpactFacts where
  impactedPaths : List Text
  impactedRiskClasses : List Text
  unknownPaths : List Text
  globalRiskPaths : List Text

variable (input : PlanningInput)

/-- The verifier derives the impact with a stack instead of a queue. -/
def deriveImpact : Py ImpactFacts := do
  let graph := input.dependencyGraph
  let changedPaths ← input.diff.changedPaths
  let walk := impactWalk .stack graph changedPaths
  return {
    impactedPaths := walk.seen
    impactedRiskClasses := walk.visited.flatMap (riskClassesOf graph)
    unknownPaths := changedPaths.filter fun path => !isNode graph path
    globalRiskPaths := changedPaths.filter (isGlobalRisk graph) }

variable (policy : PlanningPolicy)

def policyContextIsCurrent : Bool :=
  policy.configEpochId = input.policy.epochId && policy.compiledPolicyHash = input.policy.compiledPolicyHash &&
    policy.policyHash = input.policy.policyHash

/-- Both hashes of an input are recomputed before they are compared. -/
def inputCoordinatesAreCurrent : Py Bool := do
  let recomputedDiffHash ← hashObject input.diff.toIdentityMapping
  let recomputedInputHash ← hashObject (inputMapping input.repoEpoch input.diff input.dependencyGraph input.policy)
  return policyContextIsCurrent input policy && input.diff.diffHash = recomputedDiffHash &&
    input.inputHash = recomputedInputHash

variable (candidate : DeterministicPlan)

/-- The identifier of a candidate is recomputed only when the input is current. -/
def coordinatesAreCurrent : Py Bool := do
  let repoEpochHash ← hashObject input.repoEpoch.toIdentityMapping
  let inputCurrent ← inputCoordinatesAreCurrent input policy
  if inputCurrent then
    let expectedId ← candidate.expectedId
    return candidate.planId = expectedId && candidate.configEpochId = input.policy.epochId &&
      candidate.repoEpochHash = repoEpochHash && candidate.inputHash = input.inputHash &&
      candidate.diffHash = input.diff.diffHash && candidate.compiledPolicyHash = policy.compiledPolicyHash &&
      candidate.policyHash = policy.policyHash && candidate.dependencyGraphHash = input.dependencyGraph.graphHash &&
      candidate.catalogHash = policy.catalog.catalogHash
  else .ok false

/-- A selective plan needs complete evidence that is bound to the input. -/
def selectiveContextIsAdmitted : Py Bool := do
  let graph := input.dependencyGraph
  let repoEpochHash ← hashObject input.repoEpoch.toIdentityMapping
  return input.fallbackReasons = [] && input.diff.invalidatingReasons = [] && !input.diff.truncated &&
    input.diff.source.complete && input.diff.source.fileCount = input.diff.files.length &&
    input.diff.source.fileCount ≤ input.diff.source.maxFiles && graph.invalidatingReasons = [] && graph.fresh &&
    input.repoEpoch.baseSha = input.diff.baseSha && input.repoEpoch.headSha = input.diff.headSha &&
    graph.admittedRepoEpochHash = repoEpochHash && graph.admittedDiffHash = input.diff.diffHash &&
    graph.admittedConfigEpochId = input.policy.epochId && graph.admittedPolicyHash = input.policy.policyHash &&
    graph.admittedCompiledPolicyHash = input.policy.compiledPolicyHash

def expectedSelected (full : Bool) : Py (List SelectedObligation) :=
  collect (fun (obligation : ValidationObligation) =>
      SelectedObligation.create obligation.obligationId (if full then obligation.fullDepth else obligation.defaultDepth)
        obligation.requiredWitnessIds)
    catalog.obligations

variable (candidate : DeterministicPlan)

/-- A fallback candidate must be exactly the full plan of the policy. -/
def isExactFullCi (policy : PlanningPolicy) : Py Bool := do
  let expected ← expectedSelected policy.catalog true
  if candidate.fallback.timeoutSeconds = policy.fallbackTimeoutSeconds ∧ candidate.selectedObligations = expected then
    match candidate.fallback.reason with
    | none => .ok false
    | some reason => do
      let witnesses ← closeSelectedWitnesses policy.catalog expected
      if candidate.selectedWitnesses = witnesses ∧ candidate.omittedObligations = [] then
        let evidence ← PlanEvidence.create .fallback none reason
        return candidate.evidence = [evidence]
      else .ok false
  else .ok false

/-- The evidence of a selective plan names every obligation once and never a fallback. -/
def evidenceByObligation : List PlanEvidence → Dictionary Text PlanEvidence → Option (Dictionary Text PlanEvidence)
  | [], collected => some collected
  | evidence :: rest, collected =>
    match evidence.obligationId with
    | none => none
    | some obligationId =>
      if evidence.kind = .fallback ∨ obligationId ∈ collected.keys then none
      else evidenceByObligation rest (collected.set obligationId evidence)

/-- A selective candidate classifies every obligation, at default depth, with closed witnesses and full evidence. -/
def isCompleteSelectiveStructure (catalog : ValidationCatalog) : Py Bool :=
  let obligations := catalog.obligationsById
  let selectedIds := candidate.selectedObligations.map fun item => item.obligationId
  let omittedIds := candidate.omittedObligations.map fun item => item.obligationId
  if candidate.fallback.reason ≠ none ∨ (∃ id ∈ selectedIds, id ∈ omittedIds) ∨
      ¬ SameMembers (selectedIds ++ omittedIds) obligations.keys then
    .ok false
  else if ∃ selected ∈ candidate.selectedObligations,
      (obligations.get? selected.obligationId).any (fun obligation =>
        selected.requiredWitnessIds ≠ obligation.requiredWitnessIds || selected.depth ≠ obligation.defaultDepth) = true then
    .ok false
  else do
    let witnesses ← closeSelectedWitnesses catalog candidate.selectedObligations
    if candidate.selectedWitnesses ≠ witnesses then .ok false
    else
      match evidenceByObligation candidate.evidence .empty with
      | none => .ok false
      | some collected =>
        return decide (SameMembers collected.keys obligations.keys) && obligations.keys.all fun obligationId =>
          (collected.get? obligationId).any fun evidence =>
            evidence.kind = (if obligationId ∈ selectedIds then .selected else .omitted)

/-- An omission must repeat the coordinates of the input and must not intersect the impact. -/
def omissionIsValid (omitted : OmittedObligation) (impact : ImpactFacts)
    (obligations : Dictionary Text ValidationObligation) (repoEpochHash : Text) : Bool :=
  match obligations.get? omitted.obligationId with
  | none => false
  | some obligation =>
    obligation.omitAllowed && omitted.requiredWitnessIds = obligation.requiredWitnessIds &&
      omitted.proof.obligationId = obligation.obligationId &&
      omitted.proof.ruleId = obligation.obligationId ++ ascii ":no-impact" &&
      omitted.proof.repoEpochHash = repoEpochHash && omitted.proof.diffHash = input.diff.diffHash &&
      omitted.proof.policyHash = policy.policyHash && omitted.proof.graphHash = input.dependencyGraph.graphHash &&
      omitted.proof.catalogHash = policy.catalog.catalogHash && omitted.proof.predicates = {} &&
      omitted.proof.assumptions = verifierOmissionAssumptions &&
      omitted.proof.invalidatesWhen = verifierOmissionInvalidators &&
      !(obligation.responsibilityRiskClasses.any fun riskClass => riskClass ∈ impact.impactedRiskClasses) &&
      !(obligation.responsibilityPaths.any fun pattern =>
        impact.impactedPaths.any fun path => matchesPathPattern pattern path)

def omissionsAreValid (omittedObligations : List OmittedObligation) (impact : ImpactFacts) : Py Bool := do
  let repoEpochHash ← hashObject input.repoEpoch.toIdentityMapping
  return omittedObligations.all fun omitted =>
    omissionIsValid input policy omitted impact policy.catalog.obligationsById repoEpochHash

/-- The reason to replace a candidate by full CI, or none when it is admitted. -/
def admitDeterministicPlan :
    Py (Option RejectionReason) := do
  let current ← coordinatesAreCurrent input policy candidate
  if current = false then .ok (some .deterministicPlanMismatch)
  else if candidate.fallback.triggered then
    let exact ← isExactFullCi candidate policy
    return if exact then none else some .deterministicPlanMismatch
  else
    let selective ← selectiveContextIsAdmitted input
    if selective = false then .ok (some .deterministicPlanMismatch)
    else if candidate.fallback.timeoutSeconds ≠ policy.fallbackTimeoutSeconds then
      .ok (some .deterministicPlanMismatch)
    else
      let complete ← isCompleteSelectiveStructure candidate policy.catalog
      if complete = false then .ok (some .deterministicPlanMismatch)
      else
        let impact ← deriveImpact input
        if impact.unknownPaths ≠ [] ∨ impact.globalRiskPaths ≠ [] then .ok (some .omissionProofMismatch)
        else
          let valid ← omissionsAreValid input policy candidate.omittedObligations impact
          return if valid then none else some .omissionProofMismatch

end CiCoordinator.VerificationCore

import CiCoordinator.VerificationCore.Model

/- The verifier. -/

namespace CiCoordinator.VerificationCore

open Library Kernel ValidationContract RepoContext
open PlanningCore AgentRiskAdvice

/-- The verifier builds its full plan without the planner. -/
def fullCiFallbackPlan (input : PlanningInput) (policy : PlanningPolicy) (reason : Text) : Py DeterministicPlan := do
  let selected ← collect (fun (item : ValidationObligation) =>
      SelectedObligation.create item.obligationId item.fullDepth item.requiredWitnessIds)
    policy.catalog.obligations
  let witnesses ← closeSelectedWitnesses policy.catalog selected
  let fallback ← PlanFallback.create policy.fallbackTimeoutSeconds true (some reason)
  let evidence ← PlanEvidence.create .fallback none reason
  let repoEpochHash ← hashObject input.repoEpoch.toIdentityMapping
  DeterministicPlan.seal
    { planId := []
      configEpochId := input.policy.epochId
      repoEpochHash := repoEpochHash
      inputHash := input.inputHash
      diffHash := input.diff.diffHash
      compiledPolicyHash := policy.compiledPolicyHash
      policyHash := policy.policyHash
      dependencyGraphHash := input.dependencyGraph.graphHash
      catalogHash := policy.catalog.catalogHash
      selectedObligations := selected
      selectedWitnesses := witnesses
      omittedObligations := []
      fallback := fallback
      evidence := [evidence] }

def independentlyAdmitted : VerificationEvidence :=
  ⟨.deterministic, ascii "independently admitted deterministic plan"⟩

/-- The fields of a verified plan that repeats a deterministic plan. -/
def repeatPlan (plan : DeterministicPlan) (catalog : ValidationCatalog) (evidence : List VerificationEvidence)
    (advice : Option AdviceAuditMetadata) : VerifiedPlanFields :=
  { executionPlanId := []
    sourcePlan := plan
    catalog := catalog
    selectedObligations := plan.selectedObligations
    selectedWitnesses := plan.selectedWitnesses
    omittedObligations := plan.omittedObligations
    fallback := plan.fallback
    deterministicEvidence := plan.evidence
    verificationEvidence := evidence
    agentAdvice := advice }

def basePlan (plan : DeterministicPlan) (catalog : ValidationCatalog) (advice : Option AdviceAuditMetadata)
    (evidence : List VerificationEvidence) : Py VerifiedPlan :=
  makeVerifiedPlan (repeatPlan plan catalog (independentlyAdmitted :: evidence) advice)

def fallbackPlan (input : PlanningInput) (policy : PlanningPolicy) (reason : Text) (advice : Option AdviceAuditMetadata) :
    Py VerifiedPlan := do
  let fallback ← fullCiFallbackPlan input policy reason
  makeVerifiedPlan (repeatPlan fallback policy.catalog [⟨.deterministic, reason⟩] advice)

def selectDefault (obligation : ValidationObligation) : Py SelectedObligation :=
  SelectedObligation.create obligation.obligationId obligation.defaultDepth obligation.requiredWitnessIds

/-- The authority that a profile runs with. -/
structure ExecutionAuthority where
  runnerProfileId : Text
  permissionProfileId : Text
  credentialProfileId : Text
  fixtureProfileId : Text
  serviceProfileIds : List Text
  capacityClassId : Text
  deriving DecidableEq

def authorityOf (profile : ExecutionProfile) : ExecutionAuthority :=
  ⟨profile.runnerProfileId, profile.permissionProfileId, profile.credentialProfileId, profile.fixtureProfileId,
    profile.serviceProfileIds, profile.capacityClassId⟩

/-- The set of authorities that witnesses run with. -/
def executionAuthorities (catalog : ValidationCatalog) (witnesses : List SelectedWitness) : Py (List ExecutionAuthority) :=
  collect (fun (witness : SelectedWitness) =>
      match (catalog.witnessesById.get? witness.witnessId).bind fun found =>
        catalog.profilesById.get? found.executionProfileId with
      | none => .error .keyError
      | some profile => .ok (authorityOf profile))
    witnesses

def rejectedAudit (audit : AdviceAuditMetadata) (reason : Text) : Py AdviceAuditMetadata := do
  let reasons ← sortedTexts (audit.reasons ++ [reason])
  let fields : AdviceAuditMetadataFields := { audit.toAdviceAuditMetadataFields with accepted := false, reasons := reasons }
  construct fields.postInit fun admitted => ⟨fields, admitted⟩

/-- An obligation of the catalog by identity. -/
def requireObligation (catalog : ValidationCatalog) (obligationId : Text) : Py ValidationObligation :=
  match catalog.obligationsById.get? obligationId with
  | none => .error .keyError
  | some obligation => .ok obligation

/-- A requested obligation is added at default depth unless it is selected already. -/
def addObligation (catalog : ValidationCatalog) (selected : Dictionary Text SelectedObligation) (obligationId : Text) :
    Py (Dictionary Text SelectedObligation) := do
  let obligation ← requireObligation catalog obligationId
  let added ← selectDefault obligation
  return selected.setDefault obligationId added

/-- A requested depth only ever deepens the current selection. -/
def increaseObligation (catalog : ValidationCatalog) (selected : Dictionary Text SelectedObligation)
    (increase : AdviceDepthIncrease) : Py (Dictionary Text SelectedObligation) := do
  let obligation ← requireObligation catalog increase.obligationId
  let added ← selectDefault obligation
  let current := (selected.get? increase.obligationId).getD added
  let deepened ← SelectedObligation.create current.obligationId (current.depth.max increase.minDepth)
    current.requiredWitnessIds
  return selected.set increase.obligationId deepened

/-- The obligations selected after all requests of an advice. -/
def strengthen (catalog : ValidationCatalog) (base : List SelectedObligation) (advice : AgentAdvice) :
    Py (Dictionary Text SelectedObligation) := do
  let selected := Dictionary.indexBy (fun item : SelectedObligation => item.obligationId) base
  let selected ← foldSteps (addObligation catalog) selected advice.addObligations
  let selected ← foldSteps (increaseObligation catalog) selected advice.increaseDepth
  foldSteps (addObligation catalog) selected (advice.riskFindings.map fun finding => finding.obligationId)

def adviceEvidence (advice : AgentAdvice) : List VerificationEvidence :=
  (advice.addObligations.map fun id => ⟨.agentAdviceAccepted, ascii "added:" ++ id⟩) ++
    (advice.increaseDepth.map fun increase => ⟨.agentAdviceAccepted, ascii "depth:" ++ increase.obligationId⟩) ++
    advice.riskFindings.map fun finding => ⟨.agentAdviceAccepted, ascii "risk:" ++ finding.obligationId⟩

/-- The fields of a verified plan that selects more than its base plan. -/
def strengthenedPlan (base : DeterministicPlan) (catalog : ValidationCatalog) (selected : List SelectedObligation)
    (witnesses : List SelectedWitness) (evidence : List VerificationEvidence) (advice : Option AdviceAuditMetadata) :
    VerifiedPlanFields :=
  let selectedIds := selected.map fun item => item.obligationId
  { executionPlanId := []
    sourcePlan := base
    catalog := catalog
    selectedObligations := selected
    selectedWitnesses := witnesses
    omittedObligations := base.omittedObligations.filter fun item => item.obligationId ∉ selectedIds
    fallback := base.fallback
    deterministicEvidence := base.evidence
    verificationEvidence := evidence
    agentAdvice := advice }

/-- Admitted advice recommends full CI, strengthens the base plan or is refused with full CI. -/
def applyAdvice (input : PlanningInput) (policy : PlanningPolicy) (base : DeterministicPlan) (advice : AgentAdvice)
    (audit : AdviceAuditMetadata) : Py VerifiedPlan :=
  if advice.recommendsFullCi then do
    let reason := ascii "agent_advice_recommended_full_ci"
    let fallback ← fullCiFallbackPlan input policy reason
    makeVerifiedPlan (repeatPlan fallback policy.catalog [⟨.deterministic, reason⟩, ⟨.agentAdviceAccepted, reason⟩]
      (some audit))
  else do
    let selected ← strengthen policy.catalog base.selectedObligations advice
    let finalSelected ← sortedByText (fun item => item.obligationId) selected.values
    let finalWitnesses ← closeSelectedWitnesses policy.catalog finalSelected
    let finalAuthorities ← executionAuthorities policy.catalog finalWitnesses
    let baseAuthorities ← executionAuthorities policy.catalog base.selectedWitnesses
    if ¬ finalAuthorities ⊆ baseAuthorities then
      let rejected ← rejectedAudit audit (ascii "agent_advice_authority_expansion")
      fallbackPlan input policy (ascii "agent_advice_authority_expansion") (some rejected)
    else
      let comparison := compareCoverage base.selectedObligations base.selectedWitnesses finalSelected finalWitnesses
      if comparison.relation = .less ∨ comparison.relation = .incomparable then
        let rejected ← rejectedAudit audit (ascii "agent_advice_coverage_regression")
        fallbackPlan input policy (ascii "agent_advice_coverage_regression") (some rejected)
      else
        makeVerifiedPlan (strengthenedPlan base policy.catalog finalSelected finalWitnesses
          (independentlyAdmitted :: adviceEvidence advice) (some audit))

/-- The verifier admits a candidate independently of the planner and lets advice only strengthen it. -/
def verify [Interpreter] (input : PlanningInput) (policy : PlanningPolicy) (deterministicPlan : DeterministicPlan)
    (agentAdvice : Option AdviceExecutionEnvelope) : Py VerifiedPlan := do
  match ← admitDeterministicPlan input policy deterministicPlan with
  | some rejection => fallbackPlan input policy rejection.text none
  | none =>
    match agentAdvice with
    | none => basePlan deterministicPlan policy.catalog none []
    | some envelope =>
      match ← admitAdvice envelope input policy with
      | .rejected audit =>
        basePlan deterministicPlan policy.catalog (some audit)
          [⟨.agentAdviceRejected, joinTexts (ascii ";") audit.reasons⟩]
      | .admitted advice audit => applyAdvice input policy deterministicPlan advice audit

end CiCoordinator.VerificationCore

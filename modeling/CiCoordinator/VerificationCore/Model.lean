import CiCoordinator.VerificationCore.DeterministicAdmission

/- The verified plan and the coverage comparison. -/

namespace CiCoordinator.VerificationCore

open Library Kernel ValidationContract RepoContext
open PlanningCore AgentRiskAdvice Dictionary

inductive VerificationEvidenceKind where
  | deterministic
  | agentAdviceAccepted
  | agentAdviceRejected
  deriving DecidableEq

def VerificationEvidenceKind.text : VerificationEvidenceKind → Text
  | .deterministic => ascii "deterministic"
  | .agentAdviceAccepted => ascii "agent_advice_accepted"
  | .agentAdviceRejected => ascii "agent_advice_rejected"

structure VerificationEvidence where
  kind : VerificationEvidenceKind
  message : Text
  deriving DecidableEq

def VerificationEvidence.toIdentityMapping (self : VerificationEvidence) : Json :=
  .obj [(ascii "kind", .str self.kind.text), (ascii "message", .str self.message)]

def adviceIdentity (advice : AdviceAuditMetadata) : Json :=
  .obj [(ascii "adviceHash", .str advice.adviceHash), (ascii "adviceId", optionalText advice.adviceId),
    (ascii "inputHash", .str advice.inputHash), (ascii "modelId", .str advice.modelId),
    (ascii "promptHash", .str advice.promptHash), (ascii "evaluationId", .str advice.evaluationId),
    (ascii "evaluationPolicyHash", .str advice.evaluationPolicyHash),
    (ascii "evaluationPassed", .bool advice.evaluationPassed), (ascii "parseValid", .bool advice.parseValid),
    (ascii "accepted", .bool advice.accepted), (ascii "reasons", .arr (advice.reasons.map .str))]

def optionalAdvice : Option AdviceAuditMetadata → Json
  | none => .null
  | some advice => adviceIdentity advice

structure VerifiedPlanFields where
  executionPlanId : Text
  sourcePlan : DeterministicPlan
  catalog : ValidationCatalog
  selectedObligations : List SelectedObligation
  selectedWitnesses : List SelectedWitness
  omittedObligations : List OmittedObligation
  fallback : PlanFallback
  deterministicEvidence : List PlanEvidence
  verificationEvidence : List VerificationEvidence
  agentAdvice : Option AdviceAuditMetadata
  deriving DecidableEq

namespace VerifiedPlanFields

def identityMapping (self : VerifiedPlanFields) : Json :=
  .obj [(ascii "sourcePlan", self.sourcePlan.identityMapping), (ascii "validationCatalog", self.catalog.toIdentityMapping),
    (ascii "selectedObligations", .arr (self.selectedObligations.map SelectedObligation.toIdentityMapping)),
    (ascii "selectedWitnesses", .arr (self.selectedWitnesses.map SelectedWitness.toIdentityMapping)),
    (ascii "omittedObligations", .arr (self.omittedObligations.map OmittedObligation.toIdentityMapping)),
    (ascii "fallback", self.fallback.toIdentityMapping),
    (ascii "deterministicEvidence", .arr (self.deterministicEvidence.map PlanEvidence.toIdentityMapping)),
    (ascii "verificationEvidence", .arr (self.verificationEvidence.map VerificationEvidence.toIdentityMapping)),
    (ascii "agentAdvice", optionalAdvice self.agentAdvice)]

variable (self : VerifiedPlanFields)

def expectedId : Py Text := do
  let hash ← hashObject self.identityMapping
  return ascii "verified_plan_" ++ hash.take 32

def selectedById : Dictionary Text SelectedObligation :=
  indexBy (fun item => item.obligationId) self.selectedObligations

def omittedById : Dictionary Text OmittedObligation :=
  indexBy (fun item => item.obligationId) self.omittedObligations

def sourceSelectedById : Dictionary Text SelectedObligation :=
  indexBy (fun item => item.obligationId) self.sourcePlan.selectedObligations

def sourceOmittedById : Dictionary Text OmittedObligation :=
  indexBy (fun item => item.obligationId) self.sourcePlan.omittedObligations

/-- Every obligation is classified once, and a fallback selects all of them at full depth. -/
def requireClassification : Py Unit := do
  let classified := self.selectedById.keys ++ self.omittedById.keys
  valueErrorIf (∃ id ∈ self.selectedById.keys, id ∈ self.omittedById.keys)
    (ascii "verified plan obligations must be disjoint")
  valueErrorIf (¬ SameMembers classified self.catalog.obligationsById.keys)
    (ascii "verified plan must classify every catalog obligation")
  valueErrorIf (self.fallback.triggered = true ∧ (self.omittedById.keys ≠ [] ∨
      ∃ item ∈ self.selectedObligations, ((self.catalog.obligationsById.get? item.obligationId).any fun obligation =>
        item.depth.rank < obligation.fullDepth.rank) = true))
    (ascii "verified fallback must select the full catalog at full depth")
  valueErrorIf (¬ SameMembers classified (self.sourceSelectedById.keys ++ self.sourceOmittedById.keys))
    (ascii "verified plan must classify every deterministic obligation")

/-- No obligation of the source plan is weakened, and omissions keep their proofs. -/
def requireObligationCoverage : Py Unit := do
  forEach (fun (entry : Text × SelectedObligation) =>
      match self.selectedById.get? entry.1 with
      | none => .error (.valueError (ascii "verified plan cannot omit a selected obligation"))
      | some candidate =>
        valueErrorIf (candidate.requiredWitnessIds ≠ entry.2.requiredWitnessIds ∨
            candidate.depth.rank < entry.2.depth.rank)
          (ascii "verified plan cannot weaken deterministic obligation coverage"))
    self.sourceSelectedById.entries
  forEach (fun (entry : Text × SelectedObligation) =>
      let sourceRequired := match self.sourceSelectedById.get? entry.1 with
        | some source => some source.requiredWitnessIds
        | none => (self.sourceOmittedById.get? entry.1).map fun source => source.requiredWitnessIds
      valueErrorIf (sourceRequired ≠ some entry.2.requiredWitnessIds)
        (ascii "verified obligation requirements must preserve source identity"))
    self.selectedById.entries
  forEach (fun (entry : Text × OmittedObligation) =>
      valueErrorIf (self.sourceOmittedById.get? entry.1 ≠ some entry.2)
        (ascii "verified omissions must preserve deterministic proofs"))
    self.omittedById.entries

/-- No witness of the source plan is weakened. -/
def requireWitnessCoverage : Py Unit := do
  let candidateWitnesses : Dictionary Text SelectedWitness :=
    indexBy (fun item => item.witnessId) self.selectedWitnesses
  forEach (fun (source : SelectedWitness) =>
      match candidateWitnesses.get? source.witnessId with
      | none => .error (.valueError (ascii "verified plan cannot weaken deterministic witness coverage"))
      | some candidate => do
        valueErrorIf (candidate.depth.rank < source.depth.rank)
          (ascii "verified plan cannot weaken deterministic witness coverage")
        valueErrorIf (¬ source.requiredByObligationIds ⊆ candidate.requiredByObligationIds)
          (ascii "verified plan cannot remove witness requirement edges"))
    self.sourcePlan.selectedWitnesses

def postInit : Py Unit := do
  valueErrorIf (self.catalog.catalogHash ≠ self.sourcePlan.catalogHash)
    (ascii "verified catalog must match the source plan catalog hash")
  requireSorted (self.selectedObligations.map fun item => item.obligationId)
    (ascii "verified selected obligations must be canonical")
  requireSorted (self.selectedWitnesses.map fun item => item.witnessId)
    (ascii "verified selected witnesses must be canonical")
  requireSorted (self.omittedObligations.map fun item => item.obligationId)
    (ascii "verified omitted obligations must be canonical")
  let closed ← closeSelectedWitnesses self.catalog self.selectedObligations
  valueErrorIf (self.selectedWitnesses ≠ closed) (ascii "verified witnesses must exactly close catalog requirements")
  self.requireClassification
  self.requireObligationCoverage
  self.requireWitnessCoverage
  let expectedId ← self.expectedId
  valueErrorIf (self.executionPlanId ≠ expectedId) (ascii "verified plan id does not bind its execution identity")

end VerifiedPlanFields

/-- A plan that never covers less than the deterministic plan it was verified from. -/
structure VerifiedPlan extends VerifiedPlanFields where
  admitted : toVerifiedPlanFields.postInit = .ok ()
  deriving DecidableEq

/-- The verified plan of its parts, with its identifier. -/
def makeVerifiedPlan (fields : VerifiedPlanFields) : Py VerifiedPlan := do
  let selected ← sortedByText (fun item => item.obligationId) fields.selectedObligations
  let witnesses ← sortedByText (fun item => item.witnessId) fields.selectedWitnesses
  let omitted ← sortedByText (fun item => item.obligationId) fields.omittedObligations
  let sorted : VerifiedPlanFields :=
    { fields with selectedObligations := selected, selectedWitnesses := witnesses, omittedObligations := omitted }
  let executionPlanId ← sorted.expectedId
  let identified := { sorted with executionPlanId := executionPlanId }
  construct identified.postInit fun admitted => ⟨identified, admitted⟩

inductive CoverageRelation where
  | equal
  | strictlyGreater
  | incomparable
  | less
  deriving DecidableEq

structure CoverageComparison where
  relation : CoverageRelation
  reasons : List Text
  deriving DecidableEq

/-- What one baseline obligation contributes: the reasons against the candidate and whether it is strengthened. -/
def compareObligation (candidates : Dictionary Text SelectedObligation) (entry : Text × SelectedObligation) :
    List Text × Bool :=
  match candidates.get? entry.1 with
  | none => ([ascii "selected_obligation_removed:" ++ entry.1], false)
  | some candidate =>
    (reasonIf (candidate.requiredWitnessIds ≠ entry.2.requiredWitnessIds)
        (ascii "obligation_requirements_changed:" ++ entry.1) ++
      reasonIf (candidate.depth.rank < entry.2.depth.rank) (ascii "obligation_depth_lowered:" ++ entry.1),
      entry.2.depth.rank < candidate.depth.rank)

/-- What one baseline witness contributes. -/
def compareWitness (candidates : Dictionary Text SelectedWitness) (entry : Text × SelectedWitness) : List Text × Bool :=
  match candidates.get? entry.1 with
  | none => ([ascii "selected_witness_removed:" ++ entry.1], false)
  | some candidate =>
    (reasonIf (¬ entry.2.requiredByObligationIds ⊆ candidate.requiredByObligationIds)
        (ascii "witness_requirement_edge_removed:" ++ entry.1) ++
      reasonIf (candidate.depth.rank < entry.2.depth.rank) (ascii "witness_depth_lowered:" ++ entry.1),
      entry.2.depth.rank < candidate.depth.rank)

/-- The coverage of a candidate against a baseline; reasons are ordered by code point. -/
def compareCoverage (baselineObligations : List SelectedObligation) (baselineWitnesses : List SelectedWitness)
    (candidateObligations : List SelectedObligation) (candidateWitnesses : List SelectedWitness) : CoverageComparison :=
  let baseline := indexBy (fun item : SelectedObligation => item.obligationId) baselineObligations
  let candidate := indexBy (fun item : SelectedObligation => item.obligationId) candidateObligations
  let baselineW := indexBy (fun item : SelectedWitness => item.witnessId) baselineWitnesses
  let candidateW := indexBy (fun item : SelectedWitness => item.witnessId) candidateWitnesses
  let obligations := baseline.entries.map (compareObligation candidate)
  let witnesses := baselineW.entries.map (compareWitness candidateW)
  let strengthened := obligations.any Prod.snd || candidate.keys.any (· ∉ baseline.keys) ||
    witnesses.any Prod.snd || candidateW.keys.any (· ∉ baselineW.keys)
  let reasons := sortBy id (obligations.flatMap Prod.fst ++ witnesses.flatMap Prod.fst)
  if reasons ≠ [] then ⟨if strengthened then .incomparable else .less, reasons⟩
  else ⟨if strengthened then .strictlyGreater else .equal, []⟩

end CiCoordinator.VerificationCore

import CiCoordinator.Kernel.HostJson
import CiCoordinator.PlanningCore.Planner

/- The agent risk advice and its admission. -/

namespace CiCoordinator.AgentRiskAdvice

open Library Kernel ValidationContract RepoContext
open PlanningCore

def agentAdviceSchemaVersion : Text :=
  ascii "agent-risk-advice/v2"

def maxAgentAdviceOutputBytes : Nat :=
  64 * 1024

def maxAdviceItems : Nat :=
  1024

variable (value : Text)

/-- A nonempty scalar text without null characters and with a bounded encoding. -/
def isBoundedText (maximumBytes : Nat) : Bool :=
  value ≠ [] && 0 ∉ value && value.scalar && value.utf8.length ≤ maximumBytes

def requireDigest (fieldName : Text) : Py Unit :=
  valueErrorIf (isSha256Hex value = false) (fieldName ++ ascii " must be a lowercase SHA-256 digest")

def requireBoundedText (fieldName : Text) (maximumBytes : Nat) : Py Unit :=
  valueErrorIf (isBoundedText value maximumBytes = false) (fieldName ++ ascii " must be bounded Unicode scalar text")

def requireCanonical (values : List Text) (fieldName : Text) : Py Unit :=
  requireSorted values (ascii "agent_advice_" ++ fieldName ++ ascii "_not_canonical")

structure AdviceEvaluationEvidenceFields where
  outputHash : Text
  evaluatorId : Text
  policyHash : Text
  passed : Bool
  deriving DecidableEq

def AdviceEvaluationEvidenceFields.postInit (self : AdviceEvaluationEvidenceFields) : Py Unit := do
  requireDigest self.outputHash (ascii "evaluation output hash")
  requireBoundedText self.evaluatorId (ascii "evaluator id") 256
  requireDigest self.policyHash (ascii "evaluation policy hash")

/-- The verdict of the prompt-injection evaluation on one output. -/
structure AdviceEvaluationEvidence extends AdviceEvaluationEvidenceFields where
  admitted : toAdviceEvaluationEvidenceFields.postInit = .ok ()
  deriving DecidableEq

structure AdviceExecutionEnvelopeFields where
  rawOutput : List Nat
  inputHash : Text
  modelId : Text
  promptHash : Text
  evaluation : AdviceEvaluationEvidence
  deriving DecidableEq

def AdviceExecutionEnvelopeFields.postInit (self : AdviceExecutionEnvelopeFields) : Py Unit := do
  valueErrorIf (self.rawOutput = []) (ascii "agent advice output must be non-empty bytes")
  valueErrorIf (maxAgentAdviceOutputBytes < self.rawOutput.length) (ascii "agent advice output exceeds its byte bound")
  requireDigest self.inputHash (ascii "advice input hash")
  requireBoundedText self.modelId (ascii "advice model id") 256
  requireDigest self.promptHash (ascii "advice prompt hash")
  valueErrorIf (sha256Hex self.rawOutput ≠ self.evaluation.outputHash)
    (ascii "agent advice evaluation is bound to another output")

/-- The raw output of an agent run, bound to its evaluation. -/
structure AdviceExecutionEnvelope extends AdviceExecutionEnvelopeFields where
  admitted : toAdviceExecutionEnvelopeFields.postInit = .ok ()
  deriving DecidableEq

structure AdviceDepthIncrease where
  obligationId : Text
  minDepth : ValidationDepth
  deriving DecidableEq

structure AdviceRiskFinding where
  obligationId : Text
  reason : Text
  deriving DecidableEq

structure AgentAdviceFields where
  adviceId : Text
  confidence : Float64
  addObligations : List Text
  increaseDepth : List AdviceDepthIncrease
  riskFindings : List AdviceRiskFinding
  rationale : Text
  recommendsFullCi : Bool
  deriving DecidableEq

def AgentAdviceFields.postInit (self : AgentAdviceFields) : Py Unit := do
  requireCanonical self.addObligations (ascii "add_obligations")
  requireCanonical (self.increaseDepth.map fun item => item.obligationId) (ascii "increase_depth")
  requireCanonical (self.riskFindings.map fun item => item.obligationId ++ ascii ":" ++ item.reason)
    (ascii "risk_findings")

/-- Parsed advice; the only recommendation it can make is full CI. -/
structure AgentAdvice extends AgentAdviceFields where
  admitted : toAgentAdviceFields.postInit = .ok ()
  deriving DecidableEq

structure AdviceAuditMetadataFields where
  adviceHash : Text
  adviceId : Option Text
  inputHash : Text
  modelId : Text
  promptHash : Text
  evaluationId : Text
  evaluationPolicyHash : Text
  evaluationPassed : Bool
  parseValid : Bool
  accepted : Bool
  reasons : List Text
  deriving DecidableEq

def AdviceAuditMetadataFields.postInit (self : AdviceAuditMetadataFields) : Py Unit := do
  requireDigest self.adviceHash (ascii "advice hash")
  requireDigest self.inputHash (ascii "advice input hash")
  requireBoundedText self.modelId (ascii "advice model id") 256
  requireDigest self.promptHash (ascii "advice prompt hash")
  requireBoundedText self.evaluationId (ascii "evaluator id") 256
  requireDigest self.evaluationPolicyHash (ascii "evaluation policy hash")
  requireSorted self.reasons (ascii "advice audit reasons must be canonical")

/-- What is recorded about an advice envelope. -/
structure AdviceAuditMetadata extends AdviceAuditMetadataFields where
  admitted : toAdviceAuditMetadataFields.postInit = .ok ()
  deriving DecidableEq

inductive AdviceAdmission where
  | admitted (advice : AgentAdvice) (audit : AdviceAuditMetadata)
  | rejected (audit : AdviceAuditMetadata)

def adviceKeys : List Text :=
  [ascii "schemaVersion", ascii "adviceId", ascii "confidence", ascii "addObligations", ascii "increaseDepth",
    ascii "riskFindings", ascii "fallbackRecommendation", ascii "rationale"]

def requiredAdviceKeys : List Text :=
  adviceKeys.filter (· ≠ ascii "fallbackRecommendation")

variable (value : Json)

def adviceSchemaVersion : Py Unit :=
  match value with
  | .str text => valueErrorIf (text ≠ agentAdviceSchemaVersion) (ascii "agent_advice_schema_unsupported")
  | _ => .error (.valueError (ascii "agent_advice_schema_unsupported"))

def adviceString (fieldName : Text) (maximumBytes : Nat) : Py Text :=
  match value with
  | .str text =>
    if isBoundedText text maximumBytes then .ok text
    else .error (.valueError (ascii "agent_advice_" ++ fieldName ++ ascii "_invalid"))
  | _ => .error (.valueError (ascii "agent_advice_" ++ fieldName ++ ascii "_invalid"))

def adviceConfidence : Py Float64 :=
  match value with
  | .int number =>
    if 0 ≤ number ∧ number ≤ 1 then .ok (Float64.ofInt number)
    else .error (.valueError (ascii "agent_advice_confidence_invalid"))
  | .float number =>
    if number.isFinite ∧ isUnitInterval number then .ok number
    else .error (.valueError (ascii "agent_advice_confidence_invalid"))
  | _ => .error (.valueError (ascii "agent_advice_confidence_invalid"))

/-- A bounded list whose items are read one by one. -/
def adviceList {A : Type} (value : Json) (fieldName : Text) (readItem : Json → Py A) : Py (List A) :=
  match value with
  | .arr items =>
    if maxAdviceItems < items.length then .error (.valueError (ascii "agent_advice_" ++ fieldName ++ ascii "_invalid"))
    else collect readItem items
  | _ => .error (.valueError (ascii "agent_advice_" ++ fieldName ++ ascii "_invalid"))

def adviceStrings (fieldName : Text) : Py (List Text) :=
  adviceList value fieldName fun item => adviceString item fieldName 256

/-- The depth that a text names. -/
def parseDepth : Option ValidationDepth :=
  match value with
  | .str text => ValidationDepth.all.find? fun depth => depth.text = text
  | _ => none

def adviceDepthIncrease (item : Json) : Py AdviceDepthIncrease :=
  match item with
  | .obj members =>
    if SameMembers (members.map Prod.fst) [ascii "obligationId", ascii "minDepth"] then
      match parseDepth (memberOrNull members (ascii "minDepth")) with
      | none => .error (.valueError (ascii "agent_advice_increase_depth_invalid"))
      | some depth => do
        let obligationId ← adviceString (memberOrNull members (ascii "obligationId")) (ascii "obligation_id") 256
        return ⟨obligationId, depth⟩
    else .error (.valueError (ascii "agent_advice_increase_depth_invalid"))
  | _ => .error (.valueError (ascii "agent_advice_increase_depth_invalid"))

def adviceRiskFinding (item : Json) : Py AdviceRiskFinding :=
  match item with
  | .obj members =>
    if SameMembers (members.map Prod.fst) [ascii "obligationId", ascii "reason"] then do
      let obligationId ← adviceString (memberOrNull members (ascii "obligationId")) (ascii "obligation_id") 256
      let reason ← adviceString (memberOrNull members (ascii "reason")) (ascii "risk_reason") 4096
      return ⟨obligationId, reason⟩
    else .error (.valueError (ascii "agent_advice_risk_findings_invalid"))
  | _ => .error (.valueError (ascii "agent_advice_risk_findings_invalid"))

def adviceFallback : Py Bool :=
  match value with
  | .null => .ok false
  | .str text =>
    if text = ascii "full-ci" then .ok true
    else .error (.valueError (ascii "agent_advice_fallback_recommendation_invalid"))
  | _ => .error (.valueError (ascii "agent_advice_fallback_recommendation_invalid"))

def adviceOfMembers (members : List (Text × Json)) : Py AgentAdvice := do
  adviceSchemaVersion (memberOrNull members (ascii "schemaVersion"))
  let adviceId ← adviceString (memberOrNull members (ascii "adviceId")) (ascii "advice_id") 256
  let confidence ← adviceConfidence (memberOrNull members (ascii "confidence"))
  let addObligations ← adviceStrings (memberOrNull members (ascii "addObligations")) (ascii "add_obligations")
  let increaseDepth ← adviceList (memberOrNull members (ascii "increaseDepth")) (ascii "increase_depth")
    adviceDepthIncrease
  let riskFindings ← adviceList (memberOrNull members (ascii "riskFindings")) (ascii "risk_findings") adviceRiskFinding
  let recommendsFullCi ← adviceFallback (memberOrNull members (ascii "fallbackRecommendation"))
  let rationale ← adviceString (memberOrNull members (ascii "rationale")) (ascii "rationale") 4096
  let fields : AgentAdviceFields :=
    { adviceId := adviceId
      confidence := confidence
      addObligations := addObligations
      increaseDepth := increaseDepth
      riskFindings := riskFindings
      rationale := rationale
      recommendsFullCi := recommendsFullCi }
  construct fields.postInit fun admitted => ⟨fields, admitted⟩

/-- Parsed advice or the reasons why the output is none; a value error of a field becomes such a reason. -/
def parseAdvice [Interpreter] (rawOutput : List Nat) : Py (AgentAdvice ⊕ List Text) :=
  match loadStrictJson rawOutput rawOutput.length with
  | .error (.strictJsonError _) => .ok (.inr [ascii "agent_advice_invalid_json"])
  | .error error => .error error
  | .ok (.obj members) => do
    let unknown ← sortedTexts ((members.map Prod.fst).filter (· ∉ adviceKeys))
    if unknown ≠ [] then .ok (.inr [ascii "agent_advice_unknown_fields:" ++ joinTexts (ascii ",") unknown])
    else
      let missing ← sortedTexts (requiredAdviceKeys.filter (· ∉ members.map Prod.fst))
      if missing ≠ [] then .ok (.inr [ascii "agent_advice_missing_fields:" ++ joinTexts (ascii ",") missing])
      else
        match adviceOfMembers members with
        | .ok advice => .ok (.inl advice)
        | .error (.valueError message) => .ok (.inr [message])
        | .error error => .error error
  | .ok _ => .ok (.inr [ascii "agent_advice_not_object"])

/-- The reasons against one requested depth. -/
def increaseReasons (catalog : ValidationCatalog) (increase : AdviceDepthIncrease) : List Text :=
  match catalog.obligationsById.get? increase.obligationId with
  | none => [ascii "agent_advice_unknown_obligation"]
  | some obligation =>
    reasonIf (obligation.fullDepth.rank < increase.minDepth.rank ∨
        ∃ witnessId ∈ obligation.requiredWitnessIds, ((catalog.witnessesById.get? witnessId).any fun witness =>
          increase.minDepth ∈ witness.supportedDepths) = false)
      (ascii "agent_advice_depth_unsupported")

/-- The reasons why a policy does not admit parsed advice, with repetitions. -/
def policyReasonList (advice : AgentAdvice) (envelope : AdviceExecutionEnvelope) (input : PlanningInput)
    (policy : PlanningPolicy) : List Text :=
  reasonIf (policy.agentAdvice.enabled = false) (ascii "agent_advice_disabled") ++
    reasonIf (envelope.inputHash ≠ input.inputHash) (ascii "agent_advice_input_hash_mismatch") ++
    reasonIf (envelope.modelId ∉ policy.agentAdvice.modelIdAllowlist) (ascii "agent_advice_model_not_allowed") ++
    reasonIf (envelope.promptHash ∉ policy.agentAdvice.promptHashAllowlist) (ascii "agent_advice_prompt_not_allowed") ++
    reasonIf (advice.confidence.lt policy.agentAdvice.minConfidence = true) (ascii "agent_advice_confidence_too_low") ++
    reasonIf (policy.agentAdvice.promptInjectionEvalRequired = true ∧ envelope.evaluation.passed = false)
      (ascii "agent_advice_evaluation_rejected") ++
    reasonIf (∃ obligationId ∈ advice.addObligations, policy.catalog.obligationsById.get? obligationId = none)
      (ascii "agent_advice_unknown_obligation") ++
    advice.increaseDepth.flatMap (increaseReasons policy.catalog) ++
    reasonIf (∃ finding ∈ advice.riskFindings, policy.catalog.obligationsById.get? finding.obligationId = none)
      (ascii "agent_advice_unknown_obligation")

def policyReasons (advice : AgentAdvice) (envelope : AdviceExecutionEnvelope) (input : PlanningInput)
    (policy : PlanningPolicy) : Py (List Text) :=
  sortedTexts (policyReasonList advice envelope input policy)

def adviceAudit (envelope : AdviceExecutionEnvelope) (adviceId : Option Text) (parseValid accepted : Bool)
    (reasons : List Text) : Py AdviceAuditMetadata := do
  let sorted ← sortedTexts reasons
  let fields : AdviceAuditMetadataFields :=
    { adviceHash := envelope.evaluation.outputHash
      adviceId := adviceId
      inputHash := envelope.inputHash
      modelId := envelope.modelId
      promptHash := envelope.promptHash
      evaluationId := envelope.evaluation.evaluatorId
      evaluationPolicyHash := envelope.evaluation.policyHash
      evaluationPassed := envelope.evaluation.passed
      parseValid := parseValid
      accepted := accepted
      reasons := sorted }
  construct fields.postInit fun admitted => ⟨fields, admitted⟩

/-- Advice is admitted when it parses and the policy gives no reason against it. -/
def admitAdvice [Interpreter] (envelope : AdviceExecutionEnvelope) (input : PlanningInput) (policy : PlanningPolicy) :
    Py AdviceAdmission := do
  match ← parseAdvice envelope.rawOutput with
  | .inr reasons =>
    let audit ← adviceAudit envelope none false false reasons
    return .rejected audit
  | .inl advice =>
    let reasons ← policyReasons advice envelope input policy
    if reasons ≠ [] then
      let audit ← adviceAudit envelope (some advice.adviceId) true false reasons
      return .rejected audit
    else
      let audit ← adviceAudit envelope (some advice.adviceId) true true []
      return .admitted advice audit

end CiCoordinator.AgentRiskAdvice

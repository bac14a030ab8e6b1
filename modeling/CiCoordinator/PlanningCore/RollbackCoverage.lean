import CiCoordinator.ConfigControl.PlanningProjection
import CiCoordinator.PlanningCore.Policy

/- The policy of a projection and the coverage order between retained epochs. -/

namespace CiCoordinator.PlanningCore

open Library Kernel ValidationContract
open ConfigControl

/-- Canonical allowlists stay as they are. -/
theorem AgentAdvicePolicyFields.postInit_idem {fields canonical : AgentAdvicePolicyFields}
    (computed : fields.postInit = .ok canonical) : canonical.postInit = .ok canonical := by
  simp only [postInit, canonicalModelIds, canonicalSha256s, bind_eq_ok, exists_unit_iff, raiseIf_eq_ok, forEach_eq_ok,
    pure_eq_ok_iff] at computed
  obtain ⟨models, ⟨modelsBounded, modelsSorted⟩, prompts, ⟨promptsHashed, promptsSorted⟩, confidence, enabled, rfl⟩ :=
    computed
  obtain ⟨modelsCanonical, modelsMembers⟩ := sortedTexts_spec modelsSorted
  obtain ⟨promptsCanonical, promptsMembers⟩ := sortedTexts_spec promptsSorted
  simp only [postInit, canonicalModelIds, canonicalSha256s, bind_eq_ok, exists_unit_iff, raiseIf_eq_ok, forEach_eq_ok,
    pure_eq_ok_iff]
  refine ⟨models, ⟨?_, sortedTexts_of_canonical modelsCanonical⟩, prompts, ⟨?_, sortedTexts_of_canonical promptsCanonical⟩,
    confidence, enabled, rfl⟩
  · simpa only [modelsMembers] using modelsBounded
  · simpa only [promptsMembers] using promptsHashed

def AgentAdvicePolicy.create (fields : AgentAdvicePolicyFields) : Py AgentAdvicePolicy :=
  constructWith fields.postInit fun canonical computed => ⟨canonical, AgentAdvicePolicyFields.postInit_idem computed⟩

/-- The planning policy of a projection. -/
def PlanningPolicy.fromProjection [JsonDecoder] (projection : DynamicCiPlanningProjection) : Py PlanningPolicy := do
  projection.assertIntegrity
  let agentAdvice ← AgentAdvicePolicy.create ⟨projection.agentAdvice.enabled, projection.agentAdvice.modelIdAllowlist,
    projection.agentAdvice.promptHashAllowlist, projection.agentAdvice.minConfidence,
    projection.agentAdvice.promptInjectionEvalRequired⟩
  let fields : PlanningPolicyFields := ⟨projection.epochId, projection.compiledPolicyHash, projection.policyHash,
    projection.validationCatalog, projection.fallbackTimeoutSeconds, agentAdvice⟩
  construct fields.postInit fun admitted => ⟨fields, admitted⟩

/-- How the coverage of a target epoch relates to that of the active one. -/
inductive CoverageRelation where
  | equal
  | greater
  | less
  | incomparable
  | unknown
  deriving DecidableEq

/-- The relation of two epochs in the other order. -/
def CoverageRelation.swap : CoverageRelation → CoverageRelation
  | .greater => .less
  | .less => .greater
  | other => other

/-- The sign of a change. -/
def order (active target : Nat) : Int :=
  (if active < target then 1 else 0) - (if target < active then 1 else 0)

/-- The sign of the change of a set, when one contains the other. -/
def setOrder (active target : List Text) : Option Int :=
  if active ⊆ target ∧ target ⊆ active then some 0
  else if active ⊆ target then some 1
  else if target ⊆ active then some (-1)
  else none

/-- The directions in which the coverage of one obligation changes. -/
def compareObligationCoverage (active target : ValidationObligation) : Option (List Int) :=
  if active.obligationId ≠ target.obligationId ∨ active.requiredWitnessIds ≠ target.requiredWitnessIds then none
  else
    let directions := [order active.defaultDepth.rank target.defaultDepth.rank,
      order active.fullDepth.rank target.fullDepth.rank, order active.omitAllowed.toNat target.omitAllowed.toNat * -1]
    if active.omitAllowed ∧ target.omitAllowed then
      match setOrder active.responsibilityPaths target.responsibilityPaths,
        setOrder active.responsibilityRiskClasses target.responsibilityRiskClasses with
      | some paths, some riskClasses => some (directions ++ [paths, riskClasses])
      | _, _ => none
    else some directions

/-- The directions of all obligations, taken in pairs. -/
def compareObligations : List ValidationObligation → List ValidationObligation → Option (List Int)
  | active :: activeRest, target :: targetRest =>
    match compareObligationCoverage active target with
    | none => none
    | some directions => (compareObligations activeRest targetRest).map (directions ++ ·)
  | _, _ => some []

def collapseDirections (directions : List Int) : CoverageRelation :=
  let greater := directions.any (0 < ·)
  let less := directions.any (· < 0)
  if greater && less then .incomparable
  else if greater then .greater
  else if less then .less
  else .equal

/-- Policies compare by their obligations when nothing else differs. -/
def comparePolicies (active target : PlanningPolicy) : CoverageRelation :=
  if active.catalog.witnesses ≠ target.catalog.witnesses ∨
      sameExecutionProfiles active.catalog.executionProfiles target.catalog.executionProfiles = false ∨
      (active.catalog.obligations.map fun item => item.obligationId) ≠
        (target.catalog.obligations.map fun item => item.obligationId) then .incomparable
  else
    match compareObligations active.catalog.obligations target.catalog.obligations with
    | none => .incomparable
    | some directions => collapseDirections directions

/-- Projections compare by their policies when they analyze impact in the same way. -/
def compareProjections [JsonDecoder] (active target : DynamicCiPlanningProjection) : Py CoverageRelation :=
  if active.dependencyGraphSource ≠ target.dependencyGraphSource ∨ active.globalRiskPaths ≠ target.globalRiskPaths ∨
      active.riskClasses ≠ target.riskClasses ∨ active.agentAdvice.same target.agentAdvice = false ∨
      active.fallbackTimeoutSeconds ≠ target.fallbackTimeoutSeconds then .ok .incomparable
  else do
    let activePolicy ← PlanningPolicy.fromProjection active
    let targetPolicy ← PlanningPolicy.fromProjection target
    return comparePolicies activePolicy targetPolicy

/-- A compiled policy without its dynamic part, and that part. -/
def compiledPolicyParts [JsonDecoder] (value : List Nat) : Py (Json × Json) := do
  match ← JsonDecoder.loads value with
  | .obj compiled =>
    match Dictionary.find (ascii "dynamicCi") compiled with
    | none => .error (.valueError (ascii "compiled policy is missing dynamic CI state"))
    | some dynamic => return (.obj (compiled.filter fun member => member.1 ≠ ascii "dynamicCi"), dynamic)
  | _ => .error (.valueError (ascii "compiled policy must be an object"))

/-- The part that only observing epochs have. -/
def isAbsent : Json → Bool
  | .null => true
  | _ => false

/-- The coverage of a target epoch relative to the active one. -/
def compareRetainedEpochCoverage [JsonDecoder] (active target : ValidatedEpochDraft) : Py CoverageRelation :=
  if active.compiledPolicyBytes = target.compiledPolicyBytes then .ok .equal
  else do
    let (activeOuter, activeDynamic) ← compiledPolicyParts active.compiledPolicyBytes
    let (targetOuter, targetDynamic) ← compiledPolicyParts target.compiledPolicyBytes
    if activeOuter.same targetOuter = false ∨ isAbsent activeDynamic = true ∨ isAbsent targetDynamic = true then
      return .incomparable
    else
      let activeProjection ← projectDynamicCiPlanning active
      let targetProjection ← projectDynamicCiPlanning target
      match activeProjection, targetProjection with
      | some activeProjection, some targetProjection => compareProjections activeProjection targetProjection
      | _, _ => return .incomparable

/-- Errors that leave the relation unknown. -/
def isComparisonError : PyError → Bool
  | .valueError _ => true
  | .validationError => true
  | .typeError _ => true
  | .unicodeEncodeError => true
  | .strictJsonError _ => true
  | .canonicalJsonError _ => true
  | .keyError => false
  | .indexError _ => false
  | .overflowError => false
  | .zeroDivisionError => false
  | .runtimeError _ => false
  | .recursionError => false

/-- The comparator answers only for the epochs it was made for. -/
def ConservativeEpochCoverageComparator.compare [JsonDecoder] (active target : ValidatedEpochDraft)
    (scope : RepositoryScope) (activeEpochId targetEpochId : Text) : Py CoverageRelation :=
  if active.scope ≠ scope ∨ target.scope ≠ scope ∨ active.epochId ≠ activeEpochId ∨ target.epochId ≠ targetEpochId then
    .ok .unknown
  else
    match compareRetainedEpochCoverage active target with
    | .ok relation => .ok relation
    | .error error => if isComparisonError error then .ok .unknown else .error error

theorem order_swap (active target : Nat) : order target active = -order active target := by
  unfold order
  omega

theorem setOrder_swap (active target : List Text) :
    setOrder target active = (setOrder active target).map fun direction => -direction := by
  unfold setOrder
  by_cases forward : active ⊆ target <;> by_cases backward : target ⊆ active <;> simp [forward, backward]

theorem compareObligationCoverage_swap (active target : ValidationObligation) : compareObligationCoverage target active =
      (compareObligationCoverage active target).map (List.map fun direction => -direction) := by
  unfold compareObligationCoverage
  by_cases different : active.obligationId ≠ target.obligationId ∨ active.requiredWitnessIds ≠ target.requiredWitnessIds
  · have differentBack : target.obligationId ≠ active.obligationId ∨
        target.requiredWitnessIds ≠ active.requiredWitnessIds := different.imp Ne.symm Ne.symm
    rw [if_pos different, if_pos differentBack]
    rfl
  · have sameBack : ¬ (target.obligationId ≠ active.obligationId ∨
        target.requiredWitnessIds ≠ active.requiredWitnessIds) := fun back => different (back.imp Ne.symm Ne.symm)
    rw [if_neg different, if_neg sameBack]
    simp only [order_swap active.defaultDepth.rank, order_swap active.fullDepth.rank,
      order_swap active.omitAllowed.toNat, setOrder_swap active.responsibilityPaths,
      setOrder_swap active.responsibilityRiskClasses, and_comm (a := target.omitAllowed = true)]
    split
    · cases setOrder active.responsibilityPaths target.responsibilityPaths <;>
        cases setOrder active.responsibilityRiskClasses target.responsibilityRiskClasses <;> simp
    · simp

theorem compareObligations_swap (active target : List ValidationObligation) : compareObligations target active =
      (compareObligations active target).map (List.map fun direction => -direction) := by
  induction active generalizing target with
  | nil => cases target <;> rfl
  | cons obligation rest ih =>
    cases target with
    | nil => rfl
    | cons other others =>
      simp only [compareObligations, compareObligationCoverage_swap obligation, ih]
      cases compareObligationCoverage obligation other with
      | none => rfl
      | some directions => cases compareObligations rest others <;> simp

theorem collapseDirections_swap (directions : List Int) :
    collapseDirections (directions.map fun direction => -direction) = (collapseDirections directions).swap := by
  have greater : ((directions.map fun direction => -direction).any (0 < ·)) = directions.any (· < 0) := by
    simp [List.any_map, Function.comp_def]
  have less : ((directions.map fun direction => -direction).any (· < 0)) = directions.any (0 < ·) := by
    simp [List.any_map, Function.comp_def]
  unfold collapseDirections
  simp only [greater, less]
  cases directions.any (0 < ·) <;> cases directions.any (· < 0) <;> rfl

theorem comparePolicies_swap (active target : PlanningPolicy) :
    comparePolicies target active = (comparePolicies active target).swap := by
  unfold comparePolicies
  simp only [compareObligations_swap active.catalog.obligations,
    sameExecutionProfiles_comm target.catalog.executionProfiles, ne_comm (a := target.catalog.witnesses), ne_comm (a := target.catalog.obligations.map (·.obligationId))]
  split
  · rfl
  · cases compareObligations active.catalog.obligations target.catalog.obligations with
    | none => rfl
    | some directions => exact collapseDirections_swap directions

theorem compareProjections_swap [JsonDecoder] {active target : DynamicCiPlanningProjection} {relation : CoverageRelation}
    (compared : compareProjections active target = .ok relation) :
    compareProjections target active = .ok relation.swap := by
  unfold compareProjections at compared ⊢
  simp only [CompiledAgentAdvice.same_comm target.agentAdvice, ne_comm (a := target.dependencyGraphSource),
    ne_comm (a := target.globalRiskPaths), ne_comm (a := target.riskClasses),
    ne_comm (a := target.fallbackTimeoutSeconds)]
  split at compared
  · rename_i different
    rw [if_pos different, ← Except.ok.inj compared]
    rfl
  · rename_i same
    rw [if_neg same]
    simp only [bind_eq_ok, pure_eq_ok_iff] at compared ⊢
    obtain ⟨activePolicy, activeMade, targetPolicy, targetMade, rfl⟩ := compared
    exact ⟨targetPolicy, targetMade, activePolicy, activeMade, comparePolicies_swap activePolicy targetPolicy⟩

end CiCoordinator.PlanningCore

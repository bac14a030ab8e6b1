import CiCoordinator.ConfigControl.EpochDraft
import CiCoordinator.Kernel.HostJson
import CiCoordinator.RepoContext.DependencyGraph
import CiCoordinator.ValidationContract.Catalog

/- The planning facts that a compiled epoch projects to. -/

namespace CiCoordinator.ConfigControl

open Library Kernel ValidationContract RepoContext

section Fields

variable (fieldName : Text)

def requireObject : Json → Py (List (Text × Json))
  | .obj members => .ok members
  | _ => .error (.valueError (fieldName ++ ascii " must be an object"))

def requireArray : Json → Py (List Json)
  | .arr items => .ok items
  | _ => .error (.valueError (fieldName ++ ascii " must be an array"))

def requireObjects (value : Json) : Py (List (List (Text × Json))) := do
  let items ← requireArray fieldName value
  collect (requireObject (fieldName ++ ascii " item")) items

def nonemptyString (value : Json) : Py Text :=
  match value with
  | .str text =>
    if text ≠ [] ∧ text.scalar = true then .ok text
    else .error (.valueError (fieldName ++ ascii " must be a non-empty Unicode scalar string"))
  | _ => .error (.valueError (fieldName ++ ascii " must be a non-empty Unicode scalar string"))

def canonicalStrings (requireNonempty : Bool) (value : Json) : Py (List Text) := do
  let items ← requireArray fieldName value
  let values ← collect (nonemptyString (fieldName ++ ascii " item")) items
  valueErrorIf (requireNonempty = true ∧ values = []) (fieldName ++ ascii " must not be empty")
  requireSorted values (fieldName ++ ascii " must be canonical")
  return values

def requireDigestString (value : Json) : Py Text := do
  let result ← nonemptyString fieldName value
  valueErrorIf (isSha256Hex result = false) (fieldName ++ ascii " must be lowercase SHA-256 hexadecimal")
  return result

def dependencyGraphSource (value : Json) : Py GraphSource := do
  let result ← nonemptyString fieldName value
  if result = GraphSource.configured.text then return .configured
  else if result = GraphSource.generated.text then return .generated
  else .error (.valueError (fieldName ++ ascii " is not an admitted dependency graph source"))

def requireDepth (value : Json) : Py ValidationDepth :=
  match value with
  | .str text =>
    match ValidationDepth.all.find? fun depth => depth.text = text with
    | some depth => .ok depth
    | none => .error (.valueError (fieldName ++ ascii " is not an admitted validation depth"))
  | _ => .error (.valueError (fieldName ++ ascii " is not an admitted validation depth"))

def requireInteger (minimum maximum : Int) (value : Json) : Py Int :=
  match value with
  | .int number =>
    if minimum ≤ number ∧ number ≤ maximum then .ok number
    else .error (.valueError (fieldName ++ ascii " is outside its admitted range"))
  | _ => .error (.valueError (fieldName ++ ascii " is outside its admitted range"))

/-- A number between zero and a bound; an integer is converted first and may be too large for that. -/
def requireNumber (maximum : Nat) (value : Json) : Py Float64 :=
  let inRange (number : Float64) : Py Float64 :=
    if boundedNumber number maximum then .ok number
    else .error (.valueError (fieldName ++ ascii " is outside its admitted range"))
  match value with
  | .int number => if (Float64.ofInt number).isFinite then inRange (.ofInt number) else .error .overflowError
  | .float number => inRange number
  | _ => .error (.valueError (fieldName ++ ascii " is outside its admitted range"))

def requireBoolean (value : Json) : Py Bool :=
  match value with
  | .bool value => .ok value
  | _ => .error (.valueError (fieldName ++ ascii " must be a boolean"))

end Fields

/-- The advice part of a compiled policy. -/
structure CompiledAgentAdvice where
  enabled : Bool
  modelIdAllowlist : List Text
  promptHashAllowlist : List Text
  minConfidence : Float64
  promptInjectionEvalRequired : Bool
  deriving DecidableEq

def compiledAgentAdvice (value : Json) : Py CompiledAgentAdvice := do
  let advice ← requireObject (ascii "dynamicCi.agentAdvice") value
  let minConfidence ← requireNumber (ascii "dynamicCi.agentAdvice.minConfidence") 1
    (memberOrNull advice (ascii "minConfidence"))
  let enabled ← requireBoolean (ascii "dynamicCi.agentAdvice.enabled") (memberOrNull advice (ascii "enabled"))
  let modelIdAllowlist ← canonicalStrings (ascii "dynamicCi.agentAdvice.modelIdAllowlist") false
    (memberOrNull advice (ascii "modelIdAllowlist"))
  let promptHashAllowlist ← canonicalStrings (ascii "dynamicCi.agentAdvice.promptHashAllowlist") false
    (memberOrNull advice (ascii "promptHashAllowlist"))
  let promptInjectionEvalRequired ← requireBoolean (ascii "dynamicCi.agentAdvice.promptInjectionEvalRequired")
    (memberOrNull advice (ascii "promptInjectionEvalRequired"))
  return ⟨enabled, modelIdAllowlist, promptHashAllowlist, minConfidence, promptInjectionEvalRequired⟩

def validationObligation (obligation : List (Text × Json)) : Py ValidationObligation := do
  let responsibility ← requireObject (ascii "dynamicCi.obligation.responsibility")
    (memberOrNull obligation (ascii "responsibility"))
  let obligationId ← nonemptyString (ascii "dynamicCi.obligation.obligationId")
    (memberOrNull obligation (ascii "obligationId"))
  let responsibilityPaths ← canonicalStrings (ascii "dynamicCi.obligation.responsibility.paths") false
    (memberOrNull responsibility (ascii "paths"))
  let responsibilityRiskClasses ← canonicalStrings (ascii "dynamicCi.obligation.responsibility.riskClasses") false
    (memberOrNull responsibility (ascii "riskClasses"))
  let requiredWitnessIds ← canonicalStrings (ascii "dynamicCi.obligation.requiredWitnessIds") true
    (memberOrNull obligation (ascii "requiredWitnessIds"))
  let defaultDepth ← requireDepth (ascii "dynamicCi.obligation.defaultDepth")
    (memberOrNull obligation (ascii "defaultDepth"))
  let fullDepth ← requireDepth (ascii "dynamicCi.obligation.fullDepth") (memberOrNull obligation (ascii "fullDepth"))
  let omitAllowed ← requireBoolean (ascii "dynamicCi.obligation.omitAllowed")
    (memberOrNull obligation (ascii "omitAllowed"))
  let fields : ValidationObligationFields := ⟨obligationId, responsibilityPaths, responsibilityRiskClasses,
    requiredWitnessIds, defaultDepth, fullDepth, omitAllowed⟩
  construct fields.postInit fun admitted => ⟨fields, admitted⟩

def executableWitness (witness : List (Text × Json)) : Py ExecutableWitness := do
  let items ← requireArray (ascii "supportedDepths") (memberOrNull witness (ascii "supportedDepths"))
  let depths ← collect (requireDepth (ascii "dynamicCi.witness.supportedDepths item")) items
  valueErrorIf (depths ≠ sortedUnique ValidationDepth.rank depths)
    (ascii "dynamicCi.witness.supportedDepths must be canonical")
  let witnessId ← nonemptyString (ascii "dynamicCi.witness.witnessId") (memberOrNull witness (ascii "witnessId"))
  let executionProfileId ← nonemptyString (ascii "dynamicCi.witness.executionProfileId")
    (memberOrNull witness (ascii "executionProfileId"))
  let fields : ExecutableWitnessFields := ⟨witnessId, executionProfileId, depths⟩
  construct fields.postInit fun admitted => ⟨fields, admitted⟩

def profileString (profile : List (Text × Json)) (field : Text) : Py Text :=
  nonemptyString (ascii "dynamicCi.executionProfile." ++ field) (memberOrNull profile field)

def boundedInteger (value : List (Text × Json)) (field : Text) (maximum : Int) : Py Int :=
  requireInteger (ascii "dynamicCi.executionProfile.shardingPolicy." ++ field) 1 maximum (memberOrNull value field)

def boundedNumberField (value : List (Text × Json)) (field : Text) (maximum : Nat) : Py Float64 :=
  requireNumber (ascii "dynamicCi.executionProfile.shardingPolicy." ++ field) maximum (memberOrNull value field)

def shardingPolicy (sharding : List (Text × Json)) : Py ShardingPolicy := do
  let maxShards ← boundedInteger sharding (ascii "maxShards") 256
  let maxParallel ← boundedInteger sharding (ascii "maxParallel") 256
  let maxItemsPerShard ← boundedInteger sharding (ascii "maxItemsPerShard") 10000
  let setupSecondsPerShard ← boundedNumberField sharding (ascii "setupSecondsPerShard") 3600
  let cpuWeight ← boundedNumberField sharding (ascii "cpuWeight") 1000
  let wallWeight ← boundedNumberField sharding (ascii "wallWeight") 1000
  let operatorWeight ← boundedNumberField sharding (ascii "operatorWeight") 1000
  let fields : ShardingPolicyFields :=
    ⟨maxShards, maxParallel, maxItemsPerShard, setupSecondsPerShard, cpuWeight, wallWeight, operatorWeight⟩
  construct fields.postInit fun admitted => ⟨fields, admitted⟩

def executionProfile (profile : List (Text × Json)) : Py ExecutionProfile := do
  let sharding ← requireObject (ascii "dynamicCi.executionProfile.shardingPolicy")
    (memberOrNull profile (ascii "shardingPolicy"))
  let profileId ← profileString profile (ascii "profileId")
  let runnerProfileId ← profileString profile (ascii "runnerProfileId")
  let permissionProfileId ← profileString profile (ascii "permissionProfileId")
  let credentialProfileId ← profileString profile (ascii "credentialProfileId")
  let fixtureProfileId ← profileString profile (ascii "fixtureProfileId")
  let serviceProfileIds ← canonicalStrings (ascii "dynamicCi.executionProfile.serviceProfileIds") false
    (memberOrNull profile (ascii "serviceProfileIds"))
  let capacityClassId ← profileString profile (ascii "capacityClassId")
  let policy ← shardingPolicy sharding
  let fields : ExecutionProfileFields := ⟨profileId, runnerProfileId, permissionProfileId, credentialProfileId,
    fixtureProfileId, serviceProfileIds, capacityClassId, policy⟩
  construct fields.postInit fun admitted => ⟨fields, admitted⟩

def validationCatalog (value : List (Text × Json)) : Py ValidationCatalog := do
  let obligationItems ← requireObjects (ascii "dynamicCi.obligations") (memberOrNull value (ascii "obligations"))
  let obligations ← collect validationObligation obligationItems
  let witnessItems ← requireObjects (ascii "dynamicCi.witnesses") (memberOrNull value (ascii "witnesses"))
  let witnesses ← collect executableWitness witnessItems
  let profileItems ← requireObjects (ascii "dynamicCi.executionProfiles") (memberOrNull value (ascii "executionProfiles"))
  let profiles ← collect executionProfile profileItems
  let fields : ValidationCatalogFields := ⟨obligations, witnesses, profiles⟩
  constructWith fields.postInit fun catalogHash admitted => ⟨fields, catalogHash, admitted⟩

/-- The facts of a projection that come from the compiled bytes alone. -/
structure PlanningFacts where
  policyHash : Text
  dependencyGraphSource : GraphSource
  globalRiskPaths : List Text
  riskClasses : List Text
  agentAdvice : CompiledAgentAdvice
  fallbackTimeoutSeconds : Int
  validationCatalog : ValidationCatalog
  deriving DecidableEq

/-- The planning facts of a compiled dynamic policy. -/
def dynamicCiFacts (value : List (Text × Json)) : Py PlanningFacts := do
  let catalog ← validationCatalog value
  let configuredCatalogHash ← requireDigestString (ascii "dynamicCi.configuredValidationCatalogHash")
    (memberOrNull value (ascii "configuredValidationCatalogHash"))
  valueErrorIf (catalog.catalogHash ≠ configuredCatalogHash)
    (ascii "configured validation catalog hash does not match catalog facts")
  let policyHash ← requireDigestString (ascii "dynamicCi.policyHash") (memberOrNull value (ascii "policyHash"))
  let source ← dependencyGraphSource (ascii "dynamicCi.dependencyGraphSource")
    (memberOrNull value (ascii "dependencyGraphSource"))
  let globalRiskPaths ← canonicalStrings (ascii "dynamicCi.globalRiskPaths") false
    (memberOrNull value (ascii "globalRiskPaths"))
  let riskClasses ← canonicalStrings (ascii "dynamicCi.riskClasses") false (memberOrNull value (ascii "riskClasses"))
  let agentAdvice ← compiledAgentAdvice (memberOrNull value (ascii "agentAdvice"))
  let fallbackTimeoutSeconds ← requireInteger (ascii "dynamicCi.fallbackTimeoutSeconds") 1 3600
    (memberOrNull value (ascii "fallbackTimeoutSeconds"))
  return ⟨policyHash, source, globalRiskPaths, riskClasses, agentAdvice, fallbackTimeoutSeconds, catalog⟩

/-- An epoch that only observes has no dynamic policy and no facts. -/
def planningFacts [JsonDecoder] (compiledPolicyBytes : List Nat) : Py (Option PlanningFacts) := do
  let decoded ← JsonDecoder.loads compiledPolicyBytes
  let compiled ← requireObject (ascii "compiled policy") decoded
  match memberOrNull compiled (ascii "dynamicCi") with
  | .null => return none
  | dynamic =>
    let value ← requireObject (ascii "compiled dynamic CI policy") dynamic
    let facts ← dynamicCiFacts value
    return some facts

/-- The planning facts of an admitted epoch. -/
structure DynamicCiPlanningProjection extends PlanningFacts where
  admittedEpoch : ValidatedEpochDraft
  epochId : Text
  compiledPolicyHash : Text
  deriving DecidableEq

/-- Equality of compiled advice compares the confidence as a number. -/
def CompiledAgentAdvice.same (left right : CompiledAgentAdvice) : Bool :=
  left.enabled = right.enabled && left.modelIdAllowlist = right.modelIdAllowlist &&
    left.promptHashAllowlist = right.promptHashAllowlist && left.minConfidence.numericEq right.minConfidence &&
    left.promptInjectionEvalRequired = right.promptInjectionEvalRequired

/-- Equality of sharding policies compares their weights as numbers. -/
def sameShardingPolicy (left right : ShardingPolicy) : Bool :=
  left.maxShards = right.maxShards && left.maxParallel = right.maxParallel &&
    left.maxItemsPerShard = right.maxItemsPerShard &&
    left.setupSecondsPerShard.numericEq right.setupSecondsPerShard && left.cpuWeight.numericEq right.cpuWeight &&
    left.wallWeight.numericEq right.wallWeight && left.operatorWeight.numericEq right.operatorWeight

def sameExecutionProfile (left right : ExecutionProfile) : Bool :=
  left.profileId = right.profileId && left.runnerProfileId = right.runnerProfileId &&
    left.permissionProfileId = right.permissionProfileId && left.credentialProfileId = right.credentialProfileId &&
    left.fixtureProfileId = right.fixtureProfileId && left.serviceProfileIds = right.serviceProfileIds &&
    left.capacityClassId = right.capacityClassId && sameShardingPolicy left.shardingPolicy right.shardingPolicy

def sameExecutionProfiles : List ExecutionProfile → List ExecutionProfile → Bool
  | [], [] => true
  | left :: leftRest, right :: rightRest => sameExecutionProfile left right && sameExecutionProfiles leftRest rightRest
  | _, _ => false

/-- Equality of catalogs leaves out their hashes. -/
def sameCatalog (left right : ValidationCatalog) : Bool :=
  left.obligations = right.obligations && left.witnesses = right.witnesses &&
    sameExecutionProfiles left.executionProfiles right.executionProfiles

/-- Equality of projections. -/
def DynamicCiPlanningProjection.same (left right : DynamicCiPlanningProjection) : Bool :=
  left.admittedEpoch = right.admittedEpoch && left.epochId = right.epochId &&
    left.compiledPolicyHash = right.compiledPolicyHash && left.policyHash = right.policyHash &&
    left.dependencyGraphSource = right.dependencyGraphSource && left.globalRiskPaths = right.globalRiskPaths &&
    left.riskClasses = right.riskClasses && left.agentAdvice.same right.agentAdvice &&
    left.fallbackTimeoutSeconds = right.fallbackTimeoutSeconds &&
    sameCatalog left.validationCatalog right.validationCatalog

def projectVerifiedEpoch [JsonDecoder] (draft : ValidatedEpochDraft) : Py (Option DynamicCiPlanningProjection) := do
  let facts ← planningFacts draft.compiledPolicyBytes
  return facts.map fun facts => ⟨facts, draft, draft.epochId, draft.epochHash⟩

def projectDynamicCiPlanning [JsonDecoder] (draft : ValidatedEpochDraft) :
    Py (Option DynamicCiPlanningProjection) := do
  verifyEpochIdentity draft
  projectVerifiedEpoch draft

/-- A projection must repeat the facts of its epoch. -/
def DynamicCiPlanningProjection.assertIntegrity [JsonDecoder] (self : DynamicCiPlanningProjection) : Py Unit := do
  verifyEpochIdentity self.admittedEpoch
  let again ← projectVerifiedEpoch self.admittedEpoch
  valueErrorIf (again.any self.same = false) (ascii "planning projection facts do not match the admitted epoch")

/-- The snapshot that planning inputs are bound to. -/
def snapshotFromProjection [JsonDecoder] (projection : DynamicCiPlanningProjection) : Py PolicySnapshot := do
  projection.assertIntegrity
  let fields : PolicySnapshotFields := ⟨projection.epochId, projection.compiledPolicyHash, projection.policyHash,
    projection.dependencyGraphSource, projection.globalRiskPaths, projection.riskClasses⟩
  construct fields.postInit fun admitted => ⟨fields, admitted⟩

theorem numericEq_comm (left right : Float64) : left.numericEq right = right.numericEq left :=
  Bool.and_comm _ _

theorem CompiledAgentAdvice.same_comm (left right : CompiledAgentAdvice) : left.same right = right.same left := by
  simp only [CompiledAgentAdvice.same, numericEq_comm left.minConfidence, eq_comm]

theorem sameExecutionProfile_comm (left right : ExecutionProfile) :
    sameExecutionProfile left right = sameExecutionProfile right left := by
  simp only [sameExecutionProfile, sameShardingPolicy, numericEq_comm left.shardingPolicy.setupSecondsPerShard,
    numericEq_comm left.shardingPolicy.cpuWeight, numericEq_comm left.shardingPolicy.wallWeight,
    numericEq_comm left.shardingPolicy.operatorWeight, eq_comm]

theorem sameExecutionProfiles_comm (left right : List ExecutionProfile) :
    sameExecutionProfiles left right = sameExecutionProfiles right left := by
  induction left generalizing right with
  | nil => cases right <;> rfl
  | cons profile rest ih =>
    cases right with
    | nil => rfl
    | cons other others => simp only [sameExecutionProfiles, sameExecutionProfile_comm profile, ih]

/-- Two drafts with the same bytes project to the same facts. -/
theorem facts_of_sameBytes [JsonDecoder] {left right : ValidatedEpochDraft}
    {leftProjection rightProjection : DynamicCiPlanningProjection}
    (sameBytes : left.compiledPolicyBytes = right.compiledPolicyBytes)
    (leftProjected : projectDynamicCiPlanning left = .ok (some leftProjection))
    (rightProjected : projectDynamicCiPlanning right = .ok (some rightProjection)) :
    leftProjection.toPlanningFacts = rightProjection.toPlanningFacts := by
  simp only [projectDynamicCiPlanning, projectVerifiedEpoch, bind_eq_ok, exists_unit_iff, pure_eq_ok_iff] at *
  obtain ⟨-, facts, computed, mapped⟩ := leftProjected
  obtain ⟨-, others, otherComputed, otherMapped⟩ := rightProjected
  rw [sameBytes, otherComputed, Except.ok.injEq] at computed
  subst computed
  obtain ⟨source, rfl, rfl⟩ := Option.map_eq_some_iff.mp mapped
  obtain ⟨other, same, rfl⟩ := Option.map_eq_some_iff.mp otherMapped
  exact Option.some.inj same

end CiCoordinator.ConfigControl

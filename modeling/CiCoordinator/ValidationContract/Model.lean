import CiCoordinator.Kernel.CanonicalJson
import CiCoordinator.Kernel.Ordering

/- The validation depths, the obligations, the witnesses and the execution profiles. -/

namespace CiCoordinator.ValidationContract

open Library Kernel List

/-- The validation depths from the weakest to the strongest. -/
inductive ValidationDepth where
  | smoke
  | targeted
  | standard
  | full
  | exhaustive
  deriving DecidableEq

namespace ValidationDepth

/-- The name of a depth. -/
def text : ValidationDepth → Text
  | .smoke => ascii "smoke"
  | .targeted => ascii "targeted"
  | .standard => ascii "standard"
  | .full => ascii "full"
  | .exhaustive => ascii "exhaustive"

/-- The position of a depth among all depths. -/
def rank : ValidationDepth → Nat
  | .smoke => 0
  | .targeted => 1
  | .standard => 2
  | .full => 3
  | .exhaustive => 4

/-- The depths in their order. -/
def all : List ValidationDepth :=
  [.smoke, .targeted, .standard, .full, .exhaustive]

variable (left right : ValidationDepth)

/-- The stronger of two depths. -/
def max : ValidationDepth :=
  if right.rank ≤ left.rank then left else right

theorem rank_injective {left right : ValidationDepth} (equal : left.rank = right.rank) : left = right := by
  cases left <;> cases right <;> simp_all [rank]

theorem rank_max : (left.max right).rank = Nat.max left.rank right.rank := by
  unfold max
  split <;> simp only [Nat.max_def] <;> split <;> omega

theorem max_eq : left.max right = left ∨ left.max right = right := by
  unfold max
  split <;> simp

@[simp] theorem scalar_text (depth : ValidationDepth) : depth.text.scalar = true := by
  cases depth <;> simp [text]

/-- The first of the strongest depths in a sequence. -/
def strongest : List ValidationDepth → Option ValidationDepth
  | [] => none
  | depth :: rest => some (rest.foldl max depth)

end ValidationDepth

/-- The character that an identifier starts with. -/
def isLowerLetter (point : CodePoint) : Bool :=
  97 ≤ point.val && point.val ≤ 122

/-- The characters that an identifier continues with. -/
def isIdentifierPoint (point : CodePoint) : Bool :=
  isLowerLetter point || point.isDigit || point = 0x2E || point = 0x5F || point = 0x2D

/-- A canonical identifier has at most sixty-four characters. -/
def isIdentifier (value : Text) : Bool :=
  match value with
  | [] => false
  | first :: rest => isLowerLetter first && rest.length ≤ 63 && rest.all isIdentifierPoint

/-- A value must be a canonical identifier. -/
def requireIdentifier (value : Text) (fieldName : Text) : Py Unit :=
  valueErrorIf (isIdentifier value = false) (fieldName ++ ascii " must be a canonical identifier")

/-- Values must be nonempty strings in canonical order. -/
def requireCanonicalStrings (values : List Text) (fieldName : Text) (allowEmpty : Bool) : Py Unit := do
  valueErrorIf ((allowEmpty = false ∧ values = []) ∨ [] ∈ values) (fieldName ++ ascii " must contain non-empty strings")
  requireSorted values (fieldName ++ ascii " must be canonical")

/-- Values must be identifiers in canonical order. -/
def requireCanonicalIdentifiers (values : List Text) (fieldName : Text) (allowEmpty : Bool) : Py Unit := do
  forEach (fun value => requireIdentifier value (fieldName ++ ascii " item")) values
  requireCanonicalStrings values fieldName allowEmpty

/-- A finite number between zero and a bound. -/
def boundedNumber (value : Float64) (maximum : Nat) : Bool :=
  match value with
  | .finite number =>
    (!number.negative || number.significand = 0) && number.numerator ≤ maximum * number.denominator
  | _ => false

/-- A number other than the two zeros. -/
def isNonzero (value : Float64) : Bool :=
  match value with
  | .finite number => number.significand ≠ 0
  | _ => true

structure ShardingPolicyFields where
  maxShards : Int
  maxParallel : Int
  maxItemsPerShard : Int
  setupSecondsPerShard : Float64
  cpuWeight : Float64
  wallWeight : Float64
  operatorWeight : Float64
  deriving DecidableEq

def ShardingPolicyFields.postInit (self : ShardingPolicyFields) : Py Unit := do
  valueErrorIf (¬ (1 ≤ self.maxShards ∧ self.maxShards ≤ 256)) (ascii "max_shards must be an integer in [1, 256]")
  valueErrorIf (¬ (1 ≤ self.maxParallel ∧ self.maxParallel ≤ self.maxShards))
    (ascii "max_parallel must be an integer in [1, max_shards]")
  valueErrorIf (¬ (1 ≤ self.maxItemsPerShard ∧ self.maxItemsPerShard ≤ 10000))
    (ascii "max_items_per_shard must be an integer in [1, 10000]")
  valueErrorIf (boundedNumber self.setupSecondsPerShard 3600 = false)
    (ascii "setup_seconds_per_shard must be a finite number in [0, 3600]")
  forEach (fun (entry : Text × Float64) =>
      valueErrorIf (boundedNumber entry.2 1000 = false) (entry.1 ++ ascii " must be a finite number in [0, 1000]"))
    [(ascii "cpu_weight", self.cpuWeight), (ascii "wall_weight", self.wallWeight),
      (ascii "operator_weight", self.operatorWeight)]
  valueErrorIf (¬ (isNonzero self.cpuWeight ∨ isNonzero self.wallWeight ∨ isNonzero self.operatorWeight))
    (ascii "at least one sharding objective weight must be positive")

/-- How the work of a profile may be split into shards. -/
structure ShardingPolicy extends ShardingPolicyFields where
  admitted : toShardingPolicyFields.postInit = .ok ()
  deriving DecidableEq

def ShardingPolicy.toIdentityMapping (self : ShardingPolicy) : Json :=
  .obj [(ascii "maxShards", .int self.maxShards), (ascii "maxParallel", .int self.maxParallel),
    (ascii "maxItemsPerShard", .int self.maxItemsPerShard),
    (ascii "setupSecondsPerShard", .float self.setupSecondsPerShard), (ascii "cpuWeight", .float self.cpuWeight),
    (ascii "wallWeight", .float self.wallWeight), (ascii "operatorWeight", .float self.operatorWeight)]

/-- The greatest number of service profiles of an execution profile. -/
def maxServiceProfileIds : Nat :=
  16

structure ExecutionProfileFields where
  profileId : Text
  runnerProfileId : Text
  permissionProfileId : Text
  credentialProfileId : Text
  fixtureProfileId : Text
  serviceProfileIds : List Text
  capacityClassId : Text
  shardingPolicy : ShardingPolicy
  deriving DecidableEq

def ExecutionProfileFields.postInit (self : ExecutionProfileFields) : Py Unit := do
  requireIdentifier self.profileId (ascii "profile_id")
  requireIdentifier self.runnerProfileId (ascii "runner_profile_id")
  requireIdentifier self.permissionProfileId (ascii "permission_profile_id")
  requireIdentifier self.credentialProfileId (ascii "credential_profile_id")
  requireIdentifier self.fixtureProfileId (ascii "fixture_profile_id")
  requireCanonicalIdentifiers self.serviceProfileIds (ascii "service_profile_ids") true
  valueErrorIf (maxServiceProfileIds < self.serviceProfileIds.length)
    (ascii "service_profile_ids exceeds the admitted maximum")
  requireIdentifier self.capacityClassId (ascii "capacity_class_id")

/-- The authorities and the sharding under which witnesses execute. -/
structure ExecutionProfile extends ExecutionProfileFields where
  admitted : toExecutionProfileFields.postInit = .ok ()
  deriving DecidableEq

def ExecutionProfile.toIdentityMapping (self : ExecutionProfile) : Json :=
  .obj [(ascii "profileId", .str self.profileId), (ascii "runnerProfileId", .str self.runnerProfileId),
    (ascii "permissionProfileId", .str self.permissionProfileId),
    (ascii "credentialProfileId", .str self.credentialProfileId),
    (ascii "fixtureProfileId", .str self.fixtureProfileId),
    (ascii "serviceProfileIds", .arr (self.serviceProfileIds.map .str)),
    (ascii "capacityClassId", .str self.capacityClassId),
    (ascii "shardingPolicy", self.shardingPolicy.toIdentityMapping)]

structure ExecutableWitnessFields where
  witnessId : Text
  executionProfileId : Text
  supportedDepths : List ValidationDepth
  deriving DecidableEq

def ExecutableWitnessFields.postInit (self : ExecutableWitnessFields) : Py Unit := do
  requireIdentifier self.witnessId (ascii "witness_id")
  requireIdentifier self.executionProfileId (ascii "execution_profile_id")
  valueErrorIf (self.supportedDepths = []) (ascii "supported_depths must not be empty")
  valueErrorIf (sortedUnique ValidationDepth.rank self.supportedDepths ≠ self.supportedDepths)
    (ascii "supported_depths must be canonical")

/-- An executable check and the depths it supports. -/
structure ExecutableWitness extends ExecutableWitnessFields where
  admitted : toExecutableWitnessFields.postInit = .ok ()
  deriving DecidableEq

def ExecutableWitness.toIdentityMapping (self : ExecutableWitness) : Json :=
  .obj [(ascii "witnessId", .str self.witnessId), (ascii "executionProfileId", .str self.executionProfileId),
    (ascii "supportedDepths", .arr (self.supportedDepths.map fun depth => .str depth.text))]

structure ValidationObligationFields where
  obligationId : Text
  responsibilityPaths : List Text
  responsibilityRiskClasses : List Text
  requiredWitnessIds : List Text
  defaultDepth : ValidationDepth
  fullDepth : ValidationDepth
  omitAllowed : Bool
  deriving DecidableEq

def ValidationObligationFields.postInit (self : ValidationObligationFields) : Py Unit := do
  requireIdentifier self.obligationId (ascii "obligation_id")
  requireCanonicalStrings self.responsibilityPaths (ascii "responsibility_paths") true
  requireCanonicalIdentifiers self.responsibilityRiskClasses (ascii "responsibility_risk_classes") true
  requireCanonicalIdentifiers self.requiredWitnessIds (ascii "required_witness_ids") false
  valueErrorIf (self.fullDepth.rank < self.defaultDepth.rank) (ascii "default_depth must not exceed full_depth")
  valueErrorIf (self.omitAllowed = true ∧ ¬ (self.responsibilityPaths ≠ [] ∨ self.responsibilityRiskClasses ≠ []))
    (ascii "an omittable obligation must own a responsibility surface")

/-- What must be validated, by which witnesses, and when it may be omitted. -/
structure ValidationObligation extends ValidationObligationFields where
  admitted : toValidationObligationFields.postInit = .ok ()
  deriving DecidableEq

variable (self : ValidationObligation)

def ValidationObligation.toIdentityMapping : Json :=
  .obj [(ascii "obligationId", .str self.obligationId),
    (ascii "responsibility", .obj [(ascii "paths", .arr (self.responsibilityPaths.map .str)),
      (ascii "riskClasses", .arr (self.responsibilityRiskClasses.map .str))]),
    (ascii "requiredWitnessIds", .arr (self.requiredWitnessIds.map .str)),
    (ascii "defaultDepth", .str self.defaultDepth.text), (ascii "fullDepth", .str self.fullDepth.text),
    (ascii "omitAllowed", .bool self.omitAllowed)]

theorem isSurrogate_of_isIdentifierPoint {point : CodePoint} (admitted : isIdentifierPoint point = true) :
    point.isSurrogate = false := by
  simp only [isIdentifierPoint, isLowerLetter, CodePoint.isDigit, Bool.or_eq_true, Bool.and_eq_true,
    decide_eq_true_eq, Fin.ext_iff] at admitted
  simp only [CodePoint.isSurrogate, Bool.and_eq_false_iff, decide_eq_false_iff_not, not_le]
  refine .inl ?_
  norm_num at admitted
  omega

theorem scalar_of_isIdentifier {value : Text} (identifier : isIdentifier value = true) : value.scalar = true := by
  cases value with
  | nil => simp [isIdentifier] at identifier
  | cons first rest =>
    simp only [isIdentifier, Bool.and_eq_true, all_eq_true] at identifier
    have leading : isIdentifierPoint first = true := by simp [isIdentifierPoint, identifier.1.1]
    refine Text.scalar_cons.mpr ⟨isSurrogate_of_isIdentifierPoint leading, ?_⟩
    simp only [Text.scalar, all_eq_true, Bool.not_eq_eq_eq_not, Bool.not_true]
    exact fun point member => isSurrogate_of_isIdentifierPoint (identifier.2 point member)

theorem ne_nil_of_isIdentifier {value : Text} (identifier : isIdentifier value = true) : value ≠ [] := by
  rintro rfl
  simp [isIdentifier] at identifier

@[simp] theorem requireIdentifier_eq_ok {value fieldName : Text} {passed : Unit} :
    requireIdentifier value fieldName = .ok passed ↔ isIdentifier value = true := by
  simp [requireIdentifier]

@[simp] theorem requireCanonicalStrings_eq_ok {values : List Text} {fieldName : Text} {allowEmpty : Bool} {passed : Unit} :
    requireCanonicalStrings values fieldName allowEmpty = .ok passed ↔
      ((allowEmpty = true ∨ values ≠ []) ∧ [] ∉ values) ∧ CanonicalTexts values := by
  cases allowEmpty <;> simp [requireCanonicalStrings]

@[simp] theorem requireCanonicalIdentifiers_eq_ok {values : List Text} {fieldName : Text} {allowEmpty : Bool} {passed : Unit} :
    requireCanonicalIdentifiers values fieldName allowEmpty = .ok passed ↔ (∀ value ∈ values, isIdentifier value = true) ∧
        ((allowEmpty = true ∨ values ≠ []) ∧ [] ∉ values) ∧ CanonicalTexts values := by
  simp [requireCanonicalIdentifiers]

theorem safeFloat_of_boundedNumber {value : Float64} {maximum : Nat} (bounded : boundedNumber value maximum = true)
    (small : maximum ≤ maxSafeJsonInteger) : safeFloat value = true := by
  cases value with
  | nan => simp [boundedNumber] at bounded
  | infinity negative => simp [boundedNumber] at bounded
  | finite number =>
    simp only [boundedNumber, Bool.and_eq_true, decide_eq_true_eq] at bounded
    simp only [safeFloat, decide_eq_true_eq]
    exact bounded.2.trans (Nat.mul_le_mul_right _ small)

theorem admissible_texts {texts : List Text} (scalar : ∀ text ∈ texts, text.scalar = true) :
    admissible (.arr (texts.map .str)) = true := by
  simpa using scalar

@[simp] theorem admissible_shardingPolicy (self : ShardingPolicy) : admissible self.toIdentityMapping = true := by
  have admitted := self.admitted
  simp only [ShardingPolicyFields.postInit, bind_unit_eq_ok, raiseIf_eq_ok, forEach_eq_ok, not_not,
    mem_cons, not_mem_nil, or_false, forall_eq_or_imp, forall_eq, Bool.not_eq_false] at admitted
  obtain ⟨shards, parallel, items, setup, ⟨cpu, wall, operator⟩, -⟩ := admitted
  have small : 3600 ≤ maxSafeJsonInteger := by decide
  have weight : 1000 ≤ maxSafeJsonInteger := by decide
  simp only [ShardingPolicy.toIdentityMapping, admissible_obj, all_cons, all_nil, admissible_int,
    admissible_float, Text.scalar_ascii, Bool.true_and, Bool.and_true, Bool.and_eq_true, decide_eq_true_eq,
    safeFloat_of_boundedNumber setup small, safeFloat_of_boundedNumber cpu weight,
    safeFloat_of_boundedNumber wall weight, safeFloat_of_boundedNumber operator weight]
  simp only [maxSafeJsonInteger]
  omega

theorem ExecutionProfile.scalars (self : ExecutionProfile) :
    self.profileId.scalar = true ∧ self.runnerProfileId.scalar = true ∧ self.permissionProfileId.scalar = true ∧
      self.credentialProfileId.scalar = true ∧ self.fixtureProfileId.scalar = true ∧
      (∀ service ∈ self.serviceProfileIds, service.scalar = true) ∧ self.capacityClassId.scalar = true := by
  have admitted := self.admitted
  simp only [ExecutionProfileFields.postInit, bind_unit_eq_ok, requireIdentifier_eq_ok,
    requireCanonicalIdentifiers_eq_ok, raiseIf_eq_ok] at admitted
  obtain ⟨profile, runner, permission, credential, fixture, ⟨services, -⟩, -, capacity⟩ := admitted
  exact ⟨scalar_of_isIdentifier profile, scalar_of_isIdentifier runner, scalar_of_isIdentifier permission,
    scalar_of_isIdentifier credential, scalar_of_isIdentifier fixture,
    fun service member => scalar_of_isIdentifier (services service member), scalar_of_isIdentifier capacity⟩

@[simp] theorem admissible_executionProfile (self : ExecutionProfile) : admissible self.toIdentityMapping = true := by
  obtain ⟨profile, runner, permission, credential, fixture, services, capacity⟩ := self.scalars
  simp [ExecutionProfile.toIdentityMapping, profile, runner, permission, credential, fixture, capacity]
  exact services

@[simp] theorem admissible_executableWitness (self : ExecutableWitness) : admissible self.toIdentityMapping = true := by
  have admitted := self.admitted
  simp only [ExecutableWitnessFields.postInit, bind_unit_eq_ok, requireIdentifier_eq_ok] at admitted
  simp [ExecutableWitness.toIdentityMapping, scalar_of_isIdentifier admitted.1, scalar_of_isIdentifier admitted.2.1]

/-- What the constructor of an obligation guarantees. -/
structure ValidationObligation.Facts (obligation : ValidationObligation) : Prop where
  identifier : isIdentifier obligation.obligationId = true
  paths : CanonicalTexts obligation.responsibilityPaths
  riskClasses : CanonicalTexts obligation.responsibilityRiskClasses
  witnessIdentifiers : ∀ witness ∈ obligation.requiredWitnessIds, isIdentifier witness = true
  witnesses : CanonicalTexts obligation.requiredWitnessIds
  witnessesNonempty : obligation.requiredWitnessIds ≠ []
  depths : obligation.defaultDepth.rank ≤ obligation.fullDepth.rank

theorem ValidationObligation.facts : self.Facts := by
  have admitted := self.admitted
  simp only [ValidationObligationFields.postInit, bind_unit_eq_ok, requireIdentifier_eq_ok,
    requireCanonicalStrings_eq_ok, requireCanonicalIdentifiers_eq_ok, raiseIf_eq_ok, Nat.not_lt] at admitted
  obtain ⟨identifier, ⟨-, paths⟩, ⟨-, -, risks⟩, ⟨identifiers, ⟨nonempty, -⟩, witnesses⟩, depths, -⟩ := admitted
  exact ⟨identifier, paths, risks, identifiers, witnesses, by simpa using nonempty, depths⟩

@[simp] theorem admissible_validationObligation : admissible self.toIdentityMapping = true := by
  have facts := self.facts
  simp only [ValidationObligation.toIdentityMapping, admissible_obj, all_cons, all_nil, Text.scalar_ascii,
    admissible_str, admissible_bool, admissible_texts facts.paths.1, admissible_texts facts.riskClasses.1,
    admissible_texts facts.witnesses.1, scalar_of_isIdentifier facts.identifier, ValidationDepth.scalar_text,
    Bool.and_true]

end CiCoordinator.ValidationContract

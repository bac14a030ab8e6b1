import CiCoordinator.PlanningCore.Model

/- The planning policy and the admission of inputs to it. -/

namespace CiCoordinator.PlanningCore

open Library Kernel ValidationContract RepoContext

structure AgentAdvicePolicyFields where
  enabled : Bool
  modelIdAllowlist : List Text
  promptHashAllowlist : List Text
  minConfidence : Float64
  promptInjectionEvalRequired : Bool
  deriving DecidableEq

def canonicalModelIds (values : List Text) : Py (List Text) := do
  valueErrorIf (∃ value ∈ values, value.scalar = false ∨ value = [] ∨ 0 ∈ value ∨ 256 < value.utf8.length)
    (ascii "model_id_allowlist must contain bounded Unicode scalar strings")
  sortedTexts values

def canonicalSha256s (values : List Text) (fieldName : Text) : Py (List Text) := do
  forEach (fun value => requireSha256 value (fieldName ++ ascii " item")) values
  sortedTexts values

/-- A number between zero and one. -/
def isUnitInterval (value : Float64) : Bool :=
  (Float64.ofInt 0).le value && value.le (Float64.ofInt 1)

/-- The constructor replaces both allowlists by their canonical forms. -/
def AgentAdvicePolicyFields.postInit (self : AgentAdvicePolicyFields) : Py AgentAdvicePolicyFields := do
  let modelIdAllowlist ← canonicalModelIds self.modelIdAllowlist
  let promptHashAllowlist ← canonicalSha256s self.promptHashAllowlist (ascii "prompt_hash_allowlist")
  valueErrorIf (isUnitInterval self.minConfidence = false) (ascii "agent advice minimum confidence must be in [0, 1]")
  valueErrorIf (self.enabled = true ∧
      (modelIdAllowlist = [] ∨ promptHashAllowlist = [] ∨ self.promptInjectionEvalRequired = false))
    (ascii "enabled agent advice requires allowlists and injection evaluation")
  return { self with modelIdAllowlist := modelIdAllowlist, promptHashAllowlist := promptHashAllowlist }

/-- Which agent advice a policy admits; the stored allowlists are canonical. -/
structure AgentAdvicePolicy extends AgentAdvicePolicyFields where
  admitted : toAgentAdvicePolicyFields.postInit = .ok toAgentAdvicePolicyFields
  deriving DecidableEq

structure PlanningPolicyFields where
  configEpochId : Text
  compiledPolicyHash : Text
  policyHash : Text
  catalog : ValidationCatalog
  fallbackTimeoutSeconds : Int
  agentAdvice : AgentAdvicePolicy
  deriving DecidableEq

def PlanningPolicyFields.postInit (self : PlanningPolicyFields) : Py Unit := do
  requireSha256 self.configEpochId (ascii "config_epoch_id")
  requireSha256 self.compiledPolicyHash (ascii "compiled_policy_hash")
  requireSha256 self.policyHash (ascii "policy_hash")
  valueErrorIf (¬ (1 ≤ self.fallbackTimeoutSeconds ∧ self.fallbackTimeoutSeconds ≤ 3600))
    (ascii "fallback_timeout_seconds must be an integer in [1, 3600]")
  forEach (fun (obligation : ValidationObligation) =>
      forEach (fun pattern =>
          valueErrorIf (validatePathPattern pattern ≠ none) (ascii "obligation responsibility path is not admitted"))
        obligation.responsibilityPaths)
    self.catalog.obligations

/-- A catalog of obligations with the coordinates of the policy that configured it. -/
structure PlanningPolicy extends PlanningPolicyFields where
  admitted : toPlanningPolicyFields.postInit = .ok ()
  deriving DecidableEq

variable (input : PlanningInput) (policy : PlanningPolicy)

/-- The reasons why an input belongs to another policy. -/
def plannerRejectionReasons : Py (List Text) :=
  sortedTexts (reasonIf (policy.configEpochId ≠ input.policy.epochId) (ascii "planning_config_epoch_mismatch") ++
      reasonIf (policy.compiledPolicyHash ≠ input.policy.compiledPolicyHash)
        (ascii "planning_compiled_policy_hash_mismatch") ++
      reasonIf (policy.policyHash ≠ input.policy.policyHash) (ascii "planning_policy_hash_mismatch"))

/-- The reasons why an input needs full CI. -/
def plannerAdmissionReasons : Py (List Text) := do
  let rejections ← plannerRejectionReasons input policy
  sortedTexts (input.fallbackReasons ++ rejections)

/-- An input matches a policy when their three coordinates agree. -/
def Matches : Prop :=
  policy.configEpochId = input.policy.epochId ∧ policy.compiledPolicyHash = input.policy.compiledPolicyHash ∧
    policy.policyHash = input.policy.policyHash

instance (input : PlanningInput) (policy : PlanningPolicy) : Decidable (Matches input policy) :=
  inferInstanceAs (Decidable (_ ∧ _ ∧ _))

theorem PlanningPolicy.facts (self : PlanningPolicy) :
    isSha256Hex self.configEpochId = true ∧ isSha256Hex self.compiledPolicyHash = true ∧
      isSha256Hex self.policyHash = true ∧ 1 ≤ self.fallbackTimeoutSeconds ∧ self.fallbackTimeoutSeconds ≤ 3600 := by
  have admitted := self.admitted
  simp only [PlanningPolicyFields.postInit, bind_unit_eq_ok, requireSha256_eq_ok, raiseIf_eq_ok, not_not] at admitted
  exact ⟨admitted.1, admitted.2.1, admitted.2.2.1, admitted.2.2.2.1.1, admitted.2.2.2.1.2⟩

/-- The planner computes rejection reasons for every input and finds none exactly for matching ones. -/
theorem plannerRejectionReasons_spec :
    ∃ reasons, plannerRejectionReasons input policy = .ok reasons ∧ CanonicalTexts reasons ∧ [] ∉ reasons ∧
      (reasons = [] ↔ Matches input policy) := by
  have scalar : ∀ reason ∈ reasonIf (policy.configEpochId ≠ input.policy.epochId) (ascii "planning_config_epoch_mismatch") ++
      reasonIf (policy.compiledPolicyHash ≠ input.policy.compiledPolicyHash) (ascii "planning_compiled_policy_hash_mismatch") ++
      reasonIf (policy.policyHash ≠ input.policy.policyHash) (ascii "planning_policy_hash_mismatch"),
      reason.scalar = true ∧ reason ≠ [] := by
    intro reason member
    simp only [List.mem_append, mem_reasonIf] at member
    rcases member with (⟨-, rfl⟩ | ⟨-, rfl⟩) | ⟨-, rfl⟩ <;> exact ⟨Text.scalar_ascii _, by decide⟩
  have computed := sortedTexts_of_scalar fun reason member => (scalar reason member).1
  obtain ⟨canonical, members⟩ := sortedTexts_spec computed
  refine ⟨_, computed, canonical, fun member => (scalar [] ((members []).mp member)).2 rfl, ?_⟩
  rw [List.eq_nil_iff_forall_not_mem]
  constructor
  · intro none
    refine ⟨?_, ?_, ?_⟩
    · by_contra different
      exact none _ ((members _).mpr (by simp [different]; exact .inl rfl))
    · by_contra different
      exact none _ ((members _).mpr (by simp [different]; exact .inr (.inl rfl)))
    · by_contra different
      exact none _ ((members _).mpr (by simp [different]; exact .inr (.inr rfl)))
  · rintro ⟨config, compiled, hash⟩ reason member
    have listed := (members reason).mp member
    simp [config, compiled, hash] at listed

end CiCoordinator.PlanningCore

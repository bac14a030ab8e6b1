import CiCoordinator.ExecutionOrchestration.AdapterBundle
import CiCoordinator.ValidationContract.Model

/- The identities of the signals that a provider reports for jobs. -/

namespace CiCoordinator.ExecutionOrchestration

open Library Kernel ValidationContract

/-- A shard id is a fixed name with thirty-two hexadecimal characters. -/
def isShardId (value : Text) : Bool :=
  (ascii "ci_shard_").isPrefixOf value && value.length = 41 && (value.drop 9).all CodePoint.isLowerHex

/-- The signal id and the job name that a shard derives. -/
def derivedValues (executionProfileId shardId : Text) : Py (Text × Text) := do
  valueErrorIf (isIdentifier executionProfileId = false) (ascii "provider signal profile id is not canonical")
  valueErrorIf (isShardId shardId = false) (ascii "provider signal shard id is not canonical")
  let digest ← hashObject (.obj [(ascii "schemaVersion", .str (ascii "provider-signal/v1")),
    (ascii "executionProfileId", .str executionProfileId), (ascii "shardId", .str shardId)])
  return (ascii "provider_signal_" ++ digest.take 32,
    ascii "ci/" ++ executionProfileId ++ ascii "/" ++ digest.take 20)

/-- The signal id of a job that a workflow declares. -/
def declaredSignalId (workflowPath jobId jobName : Text) : Py Text := do
  let bounded ← isAdapterWorkflowPath workflowPath
  valueErrorIf (bounded = false) (ascii "native provider signal workflow path is invalid")
  valueErrorIf (isJobId jobId = false) (ascii "native provider signal job id is invalid")
  valueErrorIf (jobName = []) (ascii "native provider signal job name is invalid")
  let named ← utf8Within 256 jobName
  valueErrorIf (named = false ∨ jobName.scalar = false) (ascii "native provider signal job name is invalid")
  let identity ← hashObject (.obj [(ascii "schemaVersion", .str (ascii "declared-native-provider-signal/v1")),
    (ascii "workflowPath", .str workflowPath), (ascii "jobId", .str jobId), (ascii "jobName", .str jobName)])
  return ascii "provider_signal_" ++ identity.take 32

/-- A signal derives from a shard or is declared by a workflow. -/
inductive ProviderSignalKind where
  | derivedShard
  | declaredNative
  deriving DecidableEq

structure ProviderSignalFields where
  signalId : Text
  jobName : Text
  kind : ProviderSignalKind
  executionProfileId : Option Text
  shardId : Option Text
  workflowPath : Option Text
  jobId : Option Text
  deriving DecidableEq

def ProviderSignalFields.postInit (self : ProviderSignalFields) : Py Unit :=
  match self.kind with
  | .derivedShard => do
    valueErrorIf (self.workflowPath.isSome ∨ self.jobId.isSome)
      (ascii "derived provider signals cannot carry workflow coordinates")
    match self.executionProfileId, self.shardId with
    | some executionProfileId, some shardId => do
      let derived ← derivedValues executionProfileId shardId
      valueErrorIf (self.signalId ≠ derived.1 ∨ self.jobName ≠ derived.2)
        (ascii "provider signal fields do not match their derived identity")
    | _, _ => .error (.valueError (ascii "derived provider signals require shard coordinates"))
  | .declaredNative => do
    valueErrorIf (self.executionProfileId.isSome ∨ self.shardId.isSome)
      (ascii "native provider signals cannot carry shard coordinates")
    match self.workflowPath, self.jobId with
    | some workflowPath, some jobId => do
      let signalId ← declaredSignalId workflowPath jobId self.jobName
      valueErrorIf (self.signalId ≠ signalId)
        (ascii "native provider signal fields do not match their declared identity")
    | _, _ => .error (.valueError (ascii "native provider signals require exact workflow coordinates"))

/-- The signal that a provider reports for a job. -/
structure ProviderSignal extends ProviderSignalFields where
  admitted : toProviderSignalFields.postInit = .ok ()

namespace ProviderSignal

/-- A signal with its checks. -/
def make (fields : ProviderSignalFields) : Py ProviderSignal :=
  construct fields.postInit fun admitted => ⟨fields, admitted⟩

/-- The signal of a declared job. -/
def declaredNative (workflowPath jobId jobName : Text) : Py ProviderSignal := do
  let signalId ← declaredSignalId workflowPath jobId jobName
  make ⟨signalId, jobName, .declaredNative, none, none, some workflowPath, some jobId⟩

/-- A declared signal carries the identity that its coordinates have. -/
theorem make_declaredNative {workflowPath jobId jobName signalId : Text}
    (declared : declaredSignalId workflowPath jobId jobName = .ok signalId) :
    ∃ signal, declaredNative workflowPath jobId jobName = .ok signal ∧ signal.signalId = signalId := by
  have passed : ProviderSignalFields.postInit
      ⟨signalId, jobName, .declaredNative, none, none, some workflowPath, some jobId⟩ = .ok () := by
    simp [ProviderSignalFields.postInit, declared]
  refine ⟨⟨_, passed⟩, ?_, rfl⟩
  rw [declaredNative, declared, ok_bind_eq, make, construct_ok passed]

/-- A declared job with a short name has a signal. -/
theorem declaredNative_total {workflowPath jobId jobName : Text} (path : isAdapterWorkflowPath workflowPath = .ok true)
    (job : isJobId jobId = true) (nonempty : jobName ≠ []) (name : utf8Within 256 jobName = .ok true) :
    ∃ signal, declaredNative workflowPath jobId jobName = .ok signal := by
  have checked : requireWorkflowPath workflowPath = .ok () := by simp [requireWorkflowPath, path]
  have passed : admissible (.obj [(ascii "schemaVersion", .str (ascii "declared-native-provider-signal/v1")),
      (ascii "workflowPath", .str workflowPath), (ascii "jobId", .str jobId), (ascii "jobName", .str jobName)]) = true := by
    simp [scalar_of_requireWorkflowPath checked, scalar_of_isJobId job, scalar_of_utf8Within name]
  have declared : ∃ signalId, declaredSignalId workflowPath jobId jobName = .ok signalId := by
    obtain ⟨hash, hashed, -⟩ := hashObject_total passed
    refine ⟨ascii "provider_signal_" ++ hash.take 32, ?_⟩
    simp [declaredSignalId, path, job, nonempty, name, scalar_of_utf8Within name, hashed]
  obtain ⟨signalId, declared⟩ := declared
  obtain ⟨signal, made, -⟩ := make_declaredNative declared
  exact ⟨signal, made⟩

/-- The ids of signals have a fixed start. -/
theorem signalId_ne_nil (signal : ProviderSignal) : signal.signalId ≠ [] := by
  have start : ∀ digest : Text, ascii "provider_signal_" ++ digest ≠ [] := by
    intro digest
    exact List.append_ne_nil_of_left_ne_nil (by decide) digest
  have admitted := signal.admitted
  rw [ProviderSignalFields.postInit] at admitted
  split at admitted
  · obtain ⟨_, admitted⟩ := bind_unit_eq_ok.mp admitted
    split at admitted
    · obtain ⟨derived, computed, admitted⟩ := bind_eq_ok.mp admitted
      rw [derivedValues, bind_unit_eq_ok, bind_unit_eq_ok] at computed
      obtain ⟨_, _, computed⟩ := computed
      obtain ⟨digest, _, values⟩ := bind_eq_ok.mp computed
      cases values
      rw [raiseIf_eq_ok, not_or, not_not] at admitted
      rw [admitted.1]
      exact start _
    · cases admitted
  · obtain ⟨_, admitted⟩ := bind_unit_eq_ok.mp admitted
    split at admitted
    · obtain ⟨signalId, computed, admitted⟩ := bind_eq_ok.mp admitted
      obtain ⟨_, _, computed⟩ := bind_eq_ok.mp computed
      simp only [bind_unit_eq_ok] at computed
      obtain ⟨_, _, _, computed⟩ := computed
      obtain ⟨_, _, computed⟩ := bind_eq_ok.mp computed
      obtain ⟨_, computed⟩ := bind_unit_eq_ok.mp computed
      obtain ⟨digest, _, values⟩ := bind_eq_ok.mp computed
      cases values
      rw [raiseIf_eq_ok, not_not] at admitted
      rw [admitted]
      exact start _
    · cases admitted

end ProviderSignal

end CiCoordinator.ExecutionOrchestration

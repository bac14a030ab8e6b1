import CiCoordinator.Kernel.Ordering
import CiCoordinator.Library.Sha256
import CiCoordinator.Library.Url

/- The workflow capabilities of one revision that execution is admitted against. -/

namespace CiCoordinator.RepoContext

open Library Kernel

instance lawfulBEq_textPair : LawfulBEq (Text × Text) :=
  inferInstance

variable (value : Text)

def isGitObjectRevision : Bool :=
  40 ≤ value.length && value.length ≤ 64 && value.all CodePoint.isLowerHex

/-- The path of a workflow file; its bytes are counted after its shape is checked. -/
def isWorkflowPath : Py Bool :=
  if (ascii ".github/workflows/").isPrefixOf value && ((ascii ".yml").isSuffixOf value || (ascii ".yaml").isSuffixOf value) &&
      value.count 0x2F = 2 then do
    raiseIf (value.scalar = false) .unicodeEncodeError
    return value.utf8.length ≤ 256 && !(value.splitOn 0x2F).contains (ascii "..") && !value.contains 0x5C
  else return false

def requireWorkflowPath (message : Text) : Py Unit := do
  let admitted ← isWorkflowPath value
  valueErrorIf (admitted = false) message

/-- Canonical texts of bounded length. -/
def requireCanonicalText (values : List Text) (fieldName : Text) (allowEmpty : Bool) : Py Unit := do
  valueErrorIf (allowEmpty = false ∧ values = []) (fieldName ++ ascii " must be a non-empty tuple")
  forEach (fun (value : Text) => do
      valueErrorIf (value = []) (fieldName ++ ascii " contains invalid text")
      raiseIf (value.scalar = false) .unicodeEncodeError
      valueErrorIf (128 < value.utf8.length) (fieldName ++ ascii " contains invalid text")) values
  requireSorted values (fieldName ++ ascii " must be canonical")

/-- The dependencies of every job in the order of the jobs. -/
def requireJobNeeds (values : List (Text × List Text)) (jobIds : List Text) : Py Unit := do
  forEach (fun (value : Text × List Text) => do
      valueErrorIf (value.1 ∉ jobIds) (ascii "job dependency entry has an unknown job")
      requireCanonicalText value.2 (ascii "job dependencies") true
      valueErrorIf (value.1 ∈ value.2 ∨ ∃ dependency ∈ value.2, dependency ∉ jobIds)
        (ascii "job dependency entry is invalid")) values
  valueErrorIf (values.map Prod.fst ≠ jobIds) (ascii "job dependency entries must cover jobs canonically")

/-- The provider names of some jobs in the order of the jobs. -/
def requireProviderJobNames (values : List (Text × Text)) (jobIds : List Text) : Py Unit := do
  forEach (fun (value : Text × Text) => do
      valueErrorIf (value.1 ∉ jobIds ∨ value.2 = []) (ascii "provider job name entry is invalid")
      raiseIf (value.2.scalar = false) .unicodeEncodeError
      valueErrorIf (256 < value.2.utf8.length) (ascii "provider job name entry is invalid")) values
  requireSorted (values.map Prod.fst) (ascii "provider job name entries must be canonical")

structure WorkflowJobAuthorityFields where
  jobId : Text
  controlProjectionHash : Text
  conditionContexts : List Text
  declaresContinueOnError : Bool
  deriving DecidableEq

def WorkflowJobAuthorityFields.postInit (self : WorkflowJobAuthorityFields) : Py Unit := do
  valueErrorIf (self.jobId = []) (ascii "workflow authority job id must be non-empty")
  valueErrorIf (isSha256Hex self.controlProjectionHash = false)
    (ascii "workflow control projection hash must be lowercase SHA-256")
  requireCanonicalText self.conditionContexts (ascii "job condition contexts") true

structure WorkflowJobAuthority extends WorkflowJobAuthorityFields where
  admitted : toWorkflowJobAuthorityFields.postInit = .ok ()
  deriving DecidableEq

structure DefaultBranchWorkflowFields where
  workflowId : Int
  path : Text
  active : Bool
  deriving DecidableEq

def DefaultBranchWorkflowFields.postInit (self : DefaultBranchWorkflowFields) : Py Unit := do
  valueErrorIf (self.workflowId < 1) (ascii "workflow_id must be a positive integer")
  requireWorkflowPath self.path (ascii "path must identify a bounded workflow file")

structure DefaultBranchWorkflow extends DefaultBranchWorkflowFields where
  admitted : toDefaultBranchWorkflowFields.postInit = .ok ()
  deriving DecidableEq

def boundedText : Py Bool :=
  if value = [] ∨ (value.any fun point => decide (point.val < 32) || point.val = 127 || point.isSurrogate) = true then
    return false
  else return value.utf8.length ≤ 256

def boundedAsciiLabel : Py Bool :=
  if (value.all fun point => point.val < 128) = true then boundedText value else return false

structure StaticRunnerSelectorFields where
  labels : List Text
  group : Option Text
  deriving DecidableEq

def StaticRunnerSelectorFields.postInit (self : StaticRunnerSelectorFields) : Py Unit := do
  raiseIf (16 < self.labels.length) (.typeError (ascii "runner selector labels must be a bounded exact tuple"))
  valueErrorIf (self.labels = [] ∧ self.group = none) (ascii "runner selector requires at least one label or group")
  forEach (fun (label : Text) => do
      let bounded ← boundedAsciiLabel label
      valueErrorIf (bounded = false ∨ label ≠ label.lower)
        (ascii "runner selector labels must be normalized bounded ASCII text")) self.labels
  requireSorted self.labels (ascii "runner selector labels must be canonical")
  forEach (fun (group : Text) => do
      let bounded ← boundedText group
      valueErrorIf (bounded = false) (ascii "runner selector group must be absent or bounded text")) self.group.toList

structure StaticRunnerSelector extends StaticRunnerSelectorFields where
  admitted : toStaticRunnerSelectorFields.postInit = .ok ()
  deriving DecidableEq

structure WorkflowJobRunnerSelectorFields where
  jobId : Text
  selector : StaticRunnerSelector
  deriving DecidableEq

def WorkflowJobRunnerSelectorFields.postInit (self : WorkflowJobRunnerSelectorFields) : Py Unit := do
  let bounded ← boundedText self.jobId
  valueErrorIf (bounded = false) (ascii "runner selector job id must be bounded text")

structure WorkflowJobRunnerSelector extends WorkflowJobRunnerSelectorFields where
  admitted : toWorkflowJobRunnerSelectorFields.postInit = .ok ()
  deriving DecidableEq

/-- The selector of labels, which differ in more than case. -/
def staticRunnerSelector (labels : List Text) (group : Option Text) : Py (Option StaticRunnerSelector) := do
  let bounded ← collect boundedAsciiLabel labels
  if bounded.all id = false then return none
  let normalized ← sortedTexts (labels.map Text.lower)
  let groups ← collect boundedText group.toList
  if normalized.length ≠ labels.length ∨ groups.all id = false then return none
  return (construct (StaticRunnerSelectorFields.postInit ⟨normalized, group⟩)
    fun admitted => (⟨⟨normalized, group⟩, admitted⟩ : StaticRunnerSelector)).toOption

structure RevisionWorkflowCapabilityFields where
  path : Text
  revisionSha : Text
  jobIds : List Text
  jobNeeds : List (Text × List Text)
  providerJobNames : List (Text × Text)
  alwaysJobIds : List Text
  triggers : List Text
  localReusableWorkflowPaths : List Text
  jobAuthorities : List WorkflowJobAuthority
  declaresWorkflowEnvironment : Bool
  declaresWorkflowDefaults : Bool
  jobRunnerSelectors : List WorkflowJobRunnerSelector
  deriving DecidableEq

def RevisionWorkflowCapabilityFields.postInit (self : RevisionWorkflowCapabilityFields) : Py Unit := do
  requireWorkflowPath self.path (ascii "path must identify a bounded workflow file")
  valueErrorIf (isGitObjectRevision self.revisionSha = false) (ascii "revision_sha must be lowercase Git object hexadecimal")
  requireCanonicalText self.jobIds (ascii "job_ids") false
  requireJobNeeds self.jobNeeds self.jobIds
  requireProviderJobNames self.providerJobNames self.jobIds
  requireCanonicalText self.alwaysJobIds (ascii "always_job_ids") true
  valueErrorIf (∃ jobId ∈ self.alwaysJobIds, jobId ∉ self.jobIds) (ascii "always_job_ids contains an unknown job")
  requireCanonicalText self.triggers (ascii "triggers") false
  requireSorted self.localReusableWorkflowPaths (ascii "local reusable workflow paths must be canonical")
  forEach (fun path => requireWorkflowPath path (ascii "local reusable workflow paths must be canonical"))
    self.localReusableWorkflowPaths
  valueErrorIf (self.jobAuthorities.map (fun item => item.jobId) ≠ self.jobIds)
    (ascii "workflow job authorities must cover every job canonically")
  requireSorted (self.jobRunnerSelectors.map fun item => item.jobId)
    (ascii "workflow runner selectors must be canonical known jobs")
  valueErrorIf (∃ item ∈ self.jobRunnerSelectors, item.jobId ∉ self.jobIds)
    (ascii "workflow runner selectors must be canonical known jobs")

/-- What a workflow file of a revision declares. -/
structure RevisionWorkflowCapability extends RevisionWorkflowCapabilityFields where
  admitted : toRevisionWorkflowCapabilityFields.postInit = .ok ()
  deriving DecidableEq

def RevisionWorkflowCapability.supportsReuse (self : RevisionWorkflowCapability) : Bool :=
  self.triggers.contains (ascii "workflow_call")

structure ProviderWorkflowInventoryFields where
  revisionSha : Text
  defaultBranchWorkflows : List DefaultBranchWorkflow
  revisionCapabilities : List RevisionWorkflowCapability
  deriving DecidableEq

def ProviderWorkflowInventoryFields.postInit (self : ProviderWorkflowInventoryFields) : Py Unit := do
  valueErrorIf (isGitObjectRevision self.revisionSha = false) (ascii "revision_sha must be lowercase Git object hexadecimal")
  requireSorted (self.defaultBranchWorkflows.map fun item => item.path)
    (ascii "default-branch workflow paths must be canonical")
  valueErrorIf ((self.defaultBranchWorkflows.map fun item => item.workflowId).dedup.length ≠ self.defaultBranchWorkflows.length)
    (ascii "default-branch workflow ids must be unique")
  requireSorted (self.revisionCapabilities.map fun item => item.path) (ascii "revision capability paths must be canonical")
  valueErrorIf (∃ item ∈ self.revisionCapabilities, item.revisionSha ≠ self.revisionSha)
    (ascii "all workflow capabilities must share the inventory revision")

structure ProviderWorkflowInventory extends ProviderWorkflowInventoryFields where
  admitted : toProviderWorkflowInventoryFields.postInit = .ok ()
  deriving DecidableEq

namespace ProviderWorkflowInventory

variable (self : ProviderWorkflowInventory)

/-- The capability of a path; the paths of an inventory are distinct. -/
def capability (path : Text) : Option RevisionWorkflowCapability :=
  self.revisionCapabilities.find? fun item => item.path = path

theorem capability_isSome {self : ProviderWorkflowInventory} {path : Text} :
    (self.capability path).isSome ↔ path ∈ self.revisionCapabilities.map (·.path) := by
  simp [capability]

def admitsStaticJob (workflowPath jobId : Text) : Bool :=
  (self.defaultBranchWorkflows.any fun item => item.active && item.path = workflowPath) &&
    match self.capability workflowPath with
    | none => false
    | some item => item.jobIds.contains jobId

def admitsRevisionStaticJob (workflowPath jobId : Text) : Bool :=
  match self.capability workflowPath with
  | none => false
  | some item => item.jobIds.contains jobId

end ProviderWorkflowInventory

end CiCoordinator.RepoContext

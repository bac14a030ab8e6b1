import CiCoordinator.ExecutionOrchestration.ProviderSignal
import CiCoordinator.Library.DepthFirst
import CiCoordinator.Library.Dictionary
import CiCoordinator.Library.LookupTraversal

/- The registry of the target's workflows, their jobs and their profiles. -/

namespace CiCoordinator.ExecutionOrchestration

open Library Kernel ValidationContract

/-- The number of nested visits that the call stack has room for. -/
class CallStack where
  room : Nat

def controlInvocationJobId : Text :=
  ascii "ci-invocation"

def localPlanRequestWorkflowPath : Text :=
  ascii ".github/workflows/trusted-plan-request.yml"

def localPlanRequestWorkflowRef : Text :=
  ascii "$/" ++ localPlanRequestWorkflowPath

inductive ExecutionKind where
  | witnessShards
  | nativeJobSet
  deriving DecidableEq

structure TargetJobFields where
  jobId : Text
  needs : List Text
  deriving DecidableEq

def TargetJobFields.postInit (self : TargetJobFields) : Py Unit := do
  valueErrorIf (isJobId self.jobId = false) (ascii "target job id must be canonical")
  valueErrorIf (self.needs.any (fun value => !isJobId value)) (ascii "target job dependencies must be canonical")
  requireSorted self.needs (ascii "target job dependencies must be canonical")
  valueErrorIf (self.jobId ∈ self.needs) (ascii "target job cannot depend on itself")

/-- A static job of a workflow with the jobs that it needs. -/
structure TargetJobBinding extends TargetJobFields where
  admitted : toTargetJobFields.postInit = .ok ()
  deriving DecidableEq

theorem TargetJobFields.postInit_eq_ok {self : TargetJobFields} :
    self.postInit = .ok () ↔ isJobId self.jobId = true ∧ (∀ need ∈ self.needs, isJobId need = true) ∧
      CanonicalTexts self.needs ∧ self.jobId ∉ self.needs := by
  rw [TargetJobFields.postInit]
  simp only [bind_unit_eq_ok, raiseIf_eq_ok, requireSorted_eq_ok, Bool.not_eq_false, List.any_eq_true, Bool.not_eq_true',
    not_exists, not_and]

/-- The needs of the jobs; a repeated job id keeps its place and takes the later needs. -/
def jobDependencies (jobs : List TargetJobBinding) : Dictionary Text (List Text) :=
  Dictionary.comprehend (jobs.map fun job => (job.jobId, job.needs))

variable (dependencies : Dictionary Text (List Text))

/-- A lookup of a missing key raises. -/
def needsOf (jobId : Text) : Py (List Text) :=
  match dependencies.get? jobId with
  | none => .error .keyError
  | some needs => .ok needs

/-- The search for a cycle passes over the needs that are no jobs. -/
def jobSearch : DepthFirst Text PyError where
  needs := needsOf dependencies
  follows := fun dependency => dependency ∈ dependencies.keys
  cycle := .valueError (ascii "target workflow execution dependencies must be acyclic")
  overflow := .recursionError

/-- The jobs are visited in order, on a call stack with room for a number of nested visits. -/
def requireAcyclicJobs (room : Nat) (jobs : List TargetJobBinding) : Py Unit := do
  let _ ← (jobSearch (jobDependencies jobs)).run room (jobDependencies jobs).keys
  return ()

variable (value : Text)

/-- The pattern of an account: letters, digits and inner hyphens. -/
def githubOwner : Bool :=
  1 ≤ value.length && value.length ≤ 39 && value.all (fun point => point.isLetter || point.isDigit || point = 0x2D) &&
    value.head? ≠ some 0x2D && value.getLast? ≠ some 0x2D

/-- The pattern of a repository name. -/
def githubRepository : Bool :=
  1 ≤ value.length && value.length ≤ 100 &&
    value.all fun point => point.isLetter || point.isDigit || point = 0x5F || point = 0x2E || point = 0x2D

/-- The parts of a text between the first occurrences of a separator, as many as a limit allows. -/
def splitAtMost (separator : CodePoint) : Nat → Text → List Text
  | 0, text => [text]
  | limit + 1, text =>
    match cut separator text with
    | (_, none) => [text]
    | (part, some rest) => part :: splitAtMost separator limit rest

/-- The commit of an external workflow reference, if the reference has the admitted form. -/
def externalReusableWorkflowRevision : Py (Option Text) := do
  let bounded ← utf8Within 512 value
  if bounded = false then return none
  let (target, revision) := cutLast atSign value
  return match target.map (splitAtMost slash 2) with
    | some [owner, repository, path] =>
      if githubOwner owner && githubRepository repository && workflowPathPattern path && githubObjectId revision then
        some revision
      else none
    | _ => none

structure TargetWorkflowFields where
  workflowPath : Text
  executionKind : ExecutionKind
  executionJobs : List TargetJobBinding
  planRequestJobId : Text
  planRequestWorkflowRef : Text
  planJobId : Text
  fallbackJobId : Option Text
  gateJobId : Text
  gateSignalName : Text
  requiredJobIds : List Text

namespace TargetWorkflowFields

variable (self : TargetWorkflowFields)

def executionJobIds : List Text :=
  self.executionJobs.map fun job => job.jobId

/-- The jobs of a workflow with their roles. -/
def roleJobIds : List Text :=
  [controlInvocationJobId, self.planRequestJobId, self.planJobId, self.gateJobId] ++ self.executionJobIds ++
    self.fallbackJobId.toList

/-- The plan requester is the local workflow or an external one at a fixed commit. -/
def requireImmutableRequester : Py Unit :=
  if self.planRequestWorkflowRef = localPlanRequestWorkflowRef then .ok ()
  else do
    let revision ← externalReusableWorkflowRevision self.planRequestWorkflowRef
    valueErrorIf (revision = none) (ascii "target workflow plan requester must use an immutable workflow ref")

/-- Sharded workflows have a fallback job and native workflows have none. -/
def requireFallback : Py Unit :=
  match self.executionKind with
  | .witnessShards =>
    valueErrorIf (self.fallbackJobId.any isJobId = false)
      (ascii "sharded target workflow requires a canonical fallback job")
  | .nativeJobSet =>
    valueErrorIf (self.fallbackJobId.isSome) (ascii "native target workflow cannot declare a separate fallback job")

def postInit [CallStack] (self : TargetWorkflowFields) : Py Unit := do
  requireWorkflowPath self.workflowPath
  valueErrorIf (self.executionJobs = []) (ascii "target workflow execution jobs must be non-empty and canonical")
  requireSorted self.executionJobIds (ascii "target workflow execution jobs must be non-empty and canonical")
  forEach (fun (entry : Text × Text) =>
      valueErrorIf (isJobId entry.2 = false) (ascii "target workflow " ++ entry.1 ++ ascii " job id must be canonical"))
    [(ascii "plan request", self.planRequestJobId), (ascii "plan", self.planJobId), (ascii "gate", self.gateJobId)]
  self.requireImmutableRequester
  self.requireFallback
  valueErrorIf (¬ (self.roleJobIds.map Text.lower).Nodup)
    (ascii "target workflow job roles must be distinct in GitHub expressions")
  requireSorted self.requiredJobIds (ascii "required target jobs must be canonical execution jobs")
  valueErrorIf (∃ jobId ∈ self.requiredJobIds, jobId ∉ self.executionJobIds)
    (ascii "required target jobs must be canonical execution jobs")
  valueErrorIf (∃ job ∈ self.executionJobs, self.planJobId ∉ job.needs ∨
      ∃ dependency ∈ job.needs, dependency ≠ self.planJobId ∧ dependency ∉ self.executionJobIds)
    (ascii "target workflow dependencies must close over its plan and execution jobs")
  requireAcyclicJobs CallStack.room self.executionJobs
  let _ ← ProviderSignal.declaredNative self.workflowPath self.gateJobId self.gateSignalName
  return ()

end TargetWorkflowFields

/-- A workflow of the target with the roles of its jobs. -/
structure TargetWorkflowBinding [CallStack] extends TargetWorkflowFields where
  admitted : toTargetWorkflowFields.postInit = .ok ()

/-- The host lists a set in some order of its members. -/
structure SetListing where
  list : List Text → List Text
  perm : ∀ members, (list members).Perm members

namespace TargetWorkflowBinding

variable [CallStack]

/-- The identity of a plan request names the requester's workflow at a fixed commit. -/
def admitsPlanRequestIdentity (self : TargetWorkflowBinding)
    (jobWorkflowRef jobWorkflowSha repository workflowRef workflowSha : Option Text) : Py Bool :=
  if self.planRequestWorkflowRef = localPlanRequestWorkflowRef then
    match repository, workflowRef, workflowSha with
    | some repository, some workflowRef, some workflowSha =>
      let start := repository ++ ascii "/" ++ self.workflowPath ++ ascii "@"
      if start.isPrefixOf workflowRef = false then .ok false
      else
        let ref := workflowRef.drop start.length
        .ok ((ascii "refs/").isPrefixOf ref && (ascii "refs/").length < ref.length && githubObjectId workflowSha &&
          jobWorkflowRef = some (repository ++ ascii "/" ++ localPlanRequestWorkflowPath ++ ascii "@" ++ ref) &&
          jobWorkflowSha = some workflowSha)
    | _, _, _ => .ok false
  else do
    let revision ← externalReusableWorkflowRevision self.planRequestWorkflowRef
    return revision.isSome && jobWorkflowRef = some self.planRequestWorkflowRef && jobWorkflowSha = revision

/-- The needs of a job that are jobs of the workflow themselves. -/
def executionNeeds (dependencies : Dictionary Text (List Text)) (jobId : Text) : Py (List Text) := do
  let needs ← needsOf dependencies jobId
  return needs.filter fun dependency => dependency ∈ dependencies.keys

/-- The jobs that some jobs need, directly or through others, together with these. -/
def dependencyClosure (listing : SetListing) (self : TargetWorkflowBinding) (jobIds : List Text) : Py (List Text) := do
  valueErrorIf (jobIds = []) (ascii "dependency closure roots must be admitted and canonical")
  requireSorted jobIds (ascii "dependency closure roots must be admitted and canonical")
  valueErrorIf (∃ jobId ∈ jobIds, jobId ∉ self.executionJobIds)
    (ascii "dependency closure roots must be admitted and canonical")
  let dependencies := jobDependencies self.executionJobs
  let closed ← lookupClosure .stack (executionNeeds dependencies) dependencies.keys (listing.list jobIds).reverse
  sortedTexts closed.seen

end TargetWorkflowBinding

structure TargetProfileFields where
  profileId : Text
  workflowPath : Text
  jobId : Text
  runnerProfileId : Text
  permissionProfileId : Text
  credentialProfileId : Text
  fixtureProfileId : Text
  serviceProfileIds : List Text
  capacityClassId : Text
  executionKind : ExecutionKind
  deriving DecidableEq

def TargetProfileFields.postInit (self : TargetProfileFields) : Py Unit := do
  forEach (fun (entry : Text × Text) => requireIdentifier entry.1 entry.2)
    [(self.profileId, ascii "profile_id"), (self.runnerProfileId, ascii "runner_profile_id"),
      (self.permissionProfileId, ascii "permission_profile_id"),
      (self.credentialProfileId, ascii "credential_profile_id"), (self.fixtureProfileId, ascii "fixture_profile_id"),
      (self.capacityClassId, ascii "capacity_class_id")]
  requireWorkflowPath self.workflowPath
  valueErrorIf (isJobId self.jobId = false) (ascii "job_id must be a canonical static job identifier")
  valueErrorIf (maxServiceProfileIds < self.serviceProfileIds.length)
    (ascii "service_profile_ids exceeds the admitted maximum")
  valueErrorIf (self.serviceProfileIds.any (fun value => !isIdentifier value))
    (ascii "service_profile_ids must contain canonical identifiers")
  requireSorted self.serviceProfileIds (ascii "service_profile_ids must be canonical")

/-- The static job that runs a profile. -/
structure TargetProfileBinding extends TargetProfileFields where
  admitted : toTargetProfileFields.postInit = .ok ()
  deriving DecidableEq

structure TargetRegistryFields [CallStack] where
  generatorId : Text
  generatorVersion : Text
  adapterFiles : List TargetAdapterFileBinding
  workflows : List TargetWorkflowBinding
  profiles : List TargetProfileBinding

namespace TargetRegistryFields

variable [CallStack]

/-- A name of the generator has between one and one hundred and twenty-eight bytes. -/
def requireGeneratorText (name value : Text) : Py Unit := do
  valueErrorIf (value = []) (name ++ ascii " must be bounded non-empty text")
  let bounded ← utf8Within 128 value
  valueErrorIf (bounded = false) (name ++ ascii " must be bounded non-empty text")

variable (self : TargetRegistryFields)

def workflowPaths : List Text :=
  self.workflows.map fun workflow => workflow.workflowPath

/-- The profiles of a workflow. -/
def profilesOf (workflowPath : Text) : List TargetProfileBinding :=
  self.profiles.filter fun profile => profile.workflowPath = workflowPath

/-- The jobs of a workflow are exactly the jobs of its profiles, and all of them run in the workflow's way. -/
def requireWorkflowProfiles (workflow : TargetWorkflowBinding) : Py Unit := do
  let profiles := self.profilesOf workflow.workflowPath
  valueErrorIf (profiles = []) (ascii "target workflow must own at least one execution profile")
  let expected ← sortedByText id (profiles.map fun profile => profile.jobId)
  valueErrorIf (workflow.executionJobIds ≠ expected) (ascii "target workflow execution jobs do not match its profiles")
  valueErrorIf (∃ profile ∈ profiles, profile.executionKind ≠ workflow.executionKind)
    (ascii "target workflow and profile execution kinds must match")

def postInit : Py Unit := do
  requireGeneratorText (ascii "generator_id") self.generatorId
  requireGeneratorText (ascii "generator_version") self.generatorVersion
  raiseIf (¬ (1 ≤ self.adapterFiles.length ∧ self.adapterFiles.length ≤ maxTargetAdapterFiles))
    (.typeError (ascii "target registry adapter files must be a bounded exact tuple"))
  requireSorted (self.adapterFiles.map fun item => item.path) (ascii "target registry adapter files must be canonical")
  let controlPaths := (self.adapterFiles.filter fun item => !item.isWorkflow).map fun item => item.path
  valueErrorIf (¬ (controlPaths ⊆ targetControlFilePaths ∧ targetControlFilePaths ⊆ controlPaths))
    (ascii "target registry must bind the fixed control-file set")
  valueErrorIf (self.workflows = []) (ascii "target registry workflows must be non-empty and canonical")
  requireSorted self.workflowPaths (ascii "target registry workflows must be non-empty and canonical")
  let adapterWorkflowPaths := (self.adapterFiles.filter fun item => item.isWorkflow).map fun item => item.path
  valueErrorIf (¬ self.workflowPaths ⊆ adapterWorkflowPaths)
    (ascii "target registry workflows must belong to the adapter bundle")
  valueErrorIf ((∃ item ∈ self.workflows, item.planRequestWorkflowRef = localPlanRequestWorkflowRef) ∧
      localPlanRequestWorkflowPath ∉ adapterWorkflowPaths)
    (ascii "local plan requester must belong to the adapter bundle")
  valueErrorIf (self.profiles = []) (ascii "target registry profiles must be non-empty and canonical")
  requireSorted (self.profiles.map fun item => item.profileId)
    (ascii "target registry profiles must be non-empty and canonical")
  valueErrorIf (¬ (self.profiles.map fun item => (item.workflowPath, item.jobId)).Nodup)
    (ascii "each target profile must own a distinct static job")
  valueErrorIf (∃ profile ∈ self.profiles, profile.workflowPath ∉ self.workflowPaths)
    (ascii "target profile references an unknown workflow")
  forEach self.requireWorkflowProfiles self.workflows

end TargetRegistryFields

/-- The registry binds the adapter's files, the workflows and the profiles of a target. -/
structure TargetExecutionRegistry [CallStack] extends TargetRegistryFields where
  admitted : toTargetRegistryFields.postInit = .ok ()

/-- The workflow with a path, if the registry has one. -/
def TargetExecutionRegistry.workflow [CallStack] (self : TargetExecutionRegistry) (workflowPath : Text) :
    Option TargetWorkflowBinding :=
  self.workflows.find? fun item => item.workflowPath = workflowPath

end CiCoordinator.ExecutionOrchestration

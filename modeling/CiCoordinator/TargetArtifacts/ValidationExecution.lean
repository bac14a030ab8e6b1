import CiCoordinator.Library.CodeUnits
import CiCoordinator.Library.DepthFirst
import CiCoordinator.Library.LookupTraversal
import CiCoordinator.TargetArtifacts.EcmaScript

/- How the target checks the requester of a plan and the dependencies of its jobs. -/

namespace CiCoordinator.TargetArtifacts

open Library

/-- A literal of the program. -/
def literal (text : String) : CodeUnits :=
  Text.units (ascii text)

def localRequesterPath : CodeUnits :=
  literal ".github/workflows/trusted-plan-request.yml"

def localRequesterRef : CodeUnits :=
  literal "$/" ++ localRequesterPath

/-- The last position of a unit in a string, or minus one. -/
def lastIndexOf (unit : CodeUnit) : CodeUnits → Int
  | [] => -1
  | first :: rest =>
    let later := lastIndexOf unit rest
    if 0 ≤ later then later + 1 else if first = unit then 0 else -1

variable (string : CodeUnits)

/-- The string from a position that is not negative. -/
def slice (start : Int) : CodeUnits :=
  string.drop start.toNat

/-- The pattern of a commit. -/
def isCommit : Bool :=
  string.length = 40 && string.all fun unit => 48 ≤ unit.val && unit.val ≤ 57 || 97 ≤ unit.val && unit.val ≤ 102

/-- A job of a workflow with the jobs that it needs. -/
structure ExecutionJob where
  jobId : CodeUnits
  needs : List CodeUnits
  deriving DecidableEq

/-- The workflow that the target loaded from its registry. -/
structure Workflow where
  workflowPath : CodeUnits
  planRequestWorkflowRef : CodeUnits
  executionJobs : List ExecutionJob

/-- The workflows that an authenticated run names; a missing one is null. -/
structure AuthenticatedRun where
  repository : CodeUnits
  jobWorkflowRef : Option CodeUnits
  jobWorkflowSha : Option CodeUnits
  workflowRef : Option CodeUnits
  workflowSha : Option CodeUnits

/-- The reasons for which the requester of a plan is refused. -/
def authJobWorkflowRefMismatch : Text :=
  ascii "auth_job_workflow_ref_mismatch"

def authJobWorkflowShaMismatch : Text :=
  ascii "auth_job_workflow_sha_mismatch"

variable (workflow : Workflow) (authenticatedRun : AuthenticatedRun)

/-- The requester that the local workflow must have, with its commit. -/
def localRequester : Except Text (CodeUnits × Option CodeUnits) :=
  let callerPrefix := authenticatedRun.repository ++ literal "/" ++ workflow.workflowPath ++ literal "@"
  match authenticatedRun.workflowRef with
  | none => .error authJobWorkflowRefMismatch
  | some callerRef =>
    if callerPrefix.isPrefixOf callerRef = false then .error authJobWorkflowRefMismatch
    else
      let revisionRef := slice callerRef callerPrefix.length
      if (literal "refs/").isPrefixOf revisionRef = false ∨ revisionRef.length ≤ 5 then .error authJobWorkflowRefMismatch
      else
        match authenticatedRun.workflowSha with
        | none => .error authJobWorkflowShaMismatch
        | some workflowSha =>
          if isCommit workflowSha = false then .error authJobWorkflowShaMismatch
          else
            .ok (authenticatedRun.repository ++ literal "/" ++ localRequesterPath ++ literal "@" ++ revisionRef,
              some workflowSha)

/-- The requester that a workflow must have, with its commit. -/
def expectedRequester :
    Except Text (CodeUnits × Option CodeUnits) :=
  if workflow.planRequestWorkflowRef = localRequesterRef then localRequester workflow authenticatedRun
  else
    let expectedRequesterRef := workflow.planRequestWorkflowRef
    .ok (expectedRequesterRef, some (slice expectedRequesterRef (lastIndexOf 0x40 expectedRequesterRef + 1)))

/-- The part of the payload check that compares the requester of the plan. -/
def validateRequester : Except Text Unit := do
  let (expectedRequesterRef, expectedRequesterSha) ← expectedRequester workflow authenticatedRun
  raiseIf (authenticatedRun.jobWorkflowRef ≠ some expectedRequesterRef) authJobWorkflowRefMismatch
  raiseIf (authenticatedRun.jobWorkflowSha ≠ expectedRequesterSha) authJobWorkflowShaMismatch

/-- A search follows every need; the needs of an unknown job are undefined. -/
def jobSearch (dependencies : Dictionary CodeUnits (List CodeUnits)) : DepthFirst CodeUnits ScriptError where
  needs := fun jobId =>
    match dependencies.get? jobId with
    | none => .error .typeError
    | some needs => .ok needs
  follows := fun _ => true
  cycle := .error (ascii "target_registry_execution_cycle")
  overflow := .rangeError

/-- The jobs are visited in order, on a call stack with room for a number of nested visits. -/
def requireAcyclicJobs (room : Nat) (dependencies : Dictionary CodeUnits (List CodeUnits)) : Except ScriptError Unit := do
  let _ ← (jobSearch dependencies).run room dependencies.keys
  return ()

/-- The known needs of the known jobs. -/
def knownDependencies (executionJobs : List ExecutionJob) : Dictionary CodeUnits (List CodeUnits) :=
  let known := executionJobs.map fun job => job.jobId
  Dictionary.comprehend (executionJobs.map fun job => (job.jobId, job.needs.filter fun dependency => dependency ∈ known))

/-- The order of strings by their units. -/
def unitOrder : List Nat :=
  string.map Fin.val

/-- The jobs that some jobs need, directly or through others, together with these. -/
def dependencyClosure (rootJobIds : List CodeUnits) (executionJobs : List ExecutionJob) :
    Except ScriptError (List CodeUnits) := do
  let dependencies := knownDependencies executionJobs
  let selected ← lookupClosure .stack (jobSearch dependencies).needs dependencies.keys rootJobIds.reverse
  return sortedUnique unitOrder selected.seen

end CiCoordinator.TargetArtifacts

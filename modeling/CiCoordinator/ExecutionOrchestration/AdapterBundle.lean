import CiCoordinator.Kernel.Errors
import CiCoordinator.Library.Sha256
import CiCoordinator.Library.Url

/- The path and job patterns of the target repository and the content identities of its adapter. -/

namespace CiCoordinator.ExecutionOrchestration

open Library Kernel CodePoint

variable (value : Text)

/-- The bytes of a text are undefined when the text has a surrogate. -/
def encodeUtf8 : Py (List Nat) :=
  if value.scalar then .ok value.utf8 else .error .unicodeEncodeError

/-- A text may have at most a number of bytes. -/
def utf8Within (maximum : Nat) (value : Text) : Py Bool := do
  let bytes ← encodeUtf8 value
  return bytes.length ≤ maximum

/-- The stem of a workflow file is not empty, and its name has no separator of directories. -/
def workflowName (name : Text) : Bool :=
  name.all (fun point => point ≠ 0x2F && point ≠ 0x5C) &&
    ((ascii ".yml").isSuffixOf name && 4 < name.length || (ascii ".yaml").isSuffixOf name && 5 < name.length)

/-- The pattern of a workflow path. -/
def workflowPathPattern : Bool :=
  (ascii ".github/workflows/").isPrefixOf value && workflowName (value.drop 18)

/-- The characters that a job id starts with. -/
def isJobStart (point : CodePoint) : Bool :=
  point.isLetter || point = 0x5F

/-- The characters that a job id continues with. -/
def isJobPoint (point : CodePoint) : Bool :=
  isJobStart point || point.isDigit || point = 0x2D

/-- The pattern of a job id. -/
def isJobId : Bool :=
  match value with
  | [] => false
  | first :: rest => isJobStart first && rest.length ≤ 127 && rest.all isJobPoint

theorem isSurrogate_of_isJobPoint {point : CodePoint} (admitted : isJobPoint point = true) : point.isSurrogate = false := by
  have hyphen : isSurrogate 0x2D = false := by decide
  have line : isSurrogate 0x5F = false := by decide
  simp only [isJobPoint, isJobStart, isLetter, isUpper, isLower, Bool.or_eq_true, decide_eq_true_eq] at admitted
  obtain (((upper | lower) | rfl) | digit) | rfl := admitted
  · simp only [isSurrogate, Bool.and_eq_false_iff, decide_eq_false_iff_not]
    exact .inl (by omega)
  · simp only [isSurrogate, Bool.and_eq_false_iff, decide_eq_false_iff_not]
    exact .inl (by omega)
  · exact line
  · exact isSurrogate_of_isDigit digit
  · exact hyphen

theorem scalar_of_isJobId {value : Text} (admitted : isJobId value = true) : value.scalar = true := by
  cases value with
  | nil => rfl
  | cons first rest =>
    simp only [isJobId, Bool.and_eq_true, List.all_eq_true] at admitted
    obtain ⟨⟨start, -⟩, others⟩ := admitted
    have head : isJobPoint first = true := by simp [isJobPoint, start]
    rw [Text.scalar_cons]
    refine ⟨isSurrogate_of_isJobPoint head, ?_⟩
    rw [Text.scalar, List.all_eq_true]
    intro point member
    simp [isSurrogate_of_isJobPoint (others point member)]

/-- The pattern of a commit. -/
def githubObjectId : Bool :=
  value.length = 40 && value.all isLowerHex

def targetControlFilePaths : List Text :=
  [ascii ".ci-coordinator/ci-coordinator.cjs"]

def maxTargetAdapterWorkflows : Nat :=
  32

def maxTargetAdapterFiles : Nat :=
  maxTargetAdapterWorkflows + targetControlFilePaths.length

def isAdapterWorkflowPath : Py Bool :=
  if workflowPathPattern value then utf8Within 256 value else .ok false

def isAdapterFilePath : Py Bool := do
  let workflow ← isAdapterWorkflowPath value
  return workflow || value ∈ targetControlFilePaths

structure TargetAdapterFileFields where
  path : Text
  sha256 : Text
  deriving DecidableEq

def TargetAdapterFileFields.postInit (self : TargetAdapterFileFields) : Py Unit := do
  let admitted ← isAdapterFilePath self.path
  valueErrorIf (admitted = false) (ascii "target adapter path is not admitted")
  valueErrorIf (isSha256Hex self.sha256 = false) (ascii "target adapter digest must be lowercase SHA-256")

/-- A file of the target's adapter with its content identity. -/
structure TargetAdapterFileBinding extends TargetAdapterFileFields where
  admitted : toTargetAdapterFileFields.postInit = .ok ()

namespace TargetAdapterFileBinding

/-- A file of the adapter is a workflow when its path is one; an admitted path is short enough to tell. -/
def isWorkflow (self : TargetAdapterFileBinding) : Bool :=
  workflowPathPattern self.path && self.path.utf8.length ≤ 256

end TargetAdapterFileBinding

/-- A path must name a workflow file and have at most two hundred and fifty-six bytes. -/
def requireWorkflowPath : Py Unit := do
  let admitted ← isAdapterWorkflowPath value
  valueErrorIf (admitted = false) (ascii "workflow_path must identify a bounded workflow file")

theorem scalar_of_utf8Within {maximum : Nat} {value : Text} {within : Bool} (computed : utf8Within maximum value = .ok within) :
    value.scalar = true := by
  rw [utf8Within, bind_eq_ok] at computed
  obtain ⟨bytes, encoded, -⟩ := computed
  unfold encodeUtf8 at encoded
  split at encoded
  · assumption
  · cases encoded

/-- An admitted workflow path has no surrogate. -/
theorem scalar_of_requireWorkflowPath {value : Text} (passed : requireWorkflowPath value = .ok ()) : value.scalar = true := by
  rw [requireWorkflowPath, bind_eq_ok] at passed
  obtain ⟨admitted, computed, checked⟩ := passed
  rw [raiseIf_eq_ok, Bool.not_eq_false] at checked
  subst checked
  unfold isAdapterWorkflowPath at computed
  split at computed
  · exact scalar_of_utf8Within computed
  · cases computed

end CiCoordinator.ExecutionOrchestration

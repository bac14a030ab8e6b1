import CiCoordinator.ExecutionOrchestration.TargetRegistry
import CiCoordinator.TargetArtifacts.ValidationExecution

/- This file proves that the coordinator and the target accept the same requesters of plans. -/

namespace CiCoordinator.TargetArtifacts

open Library Kernel ExecutionOrchestration CodeUnits TargetWorkflowFields List Text

/-- The job that the target reads from the registry. -/
def ExecutionJob.ofBinding (job : TargetJobBinding) : ExecutionJob :=
  ⟨Text.units job.jobId, job.needs.map Text.units⟩

/-- The workflow that the target reads from the registry. -/
def Workflow.ofBinding [CallStack] (workflow : TargetWorkflowBinding) : Workflow :=
  ⟨Text.units workflow.workflowPath, Text.units workflow.planRequestWorkflowRef,
    workflow.executionJobs.map ExecutionJob.ofBinding⟩

@[simp] theorem scalar_localPlanRequestWorkflowRef : localPlanRequestWorkflowRef.scalar = true := by
  simp [localPlanRequestWorkflowRef, localPlanRequestWorkflowPath]

theorem localRequesterRef_eq : localRequesterRef = Text.units localPlanRequestWorkflowRef :=
  units_append.symm

theorem map_decode_eq_some_iff {string : Option CodeUnits} {other : CodeUnits} :
    string.map decode = some (decode other) ↔ string = some other := by
  cases string with
  | none => simp
  | some own => simp

section Commits

theorem units_of_isLowerHex {point : CodePoint} (lower : point.isLowerHex = true) :
    point.units = [Fin.ofNat 0x10000 point.val] ∧ (Fin.ofNat 0x10000 point.val).val = point.val := by
  simp only [CodePoint.isLowerHex, Bool.or_eq_true, Bool.and_eq_true, decide_eq_true_eq] at lower
  have small : point.val < 0x10000 := by omega
  refine ⟨?_, Nat.mod_eq_of_lt small⟩
  rw [CodePoint.units, CodePoint.utf16, if_pos small, map_singleton]

/-- Hexadecimal characters take one hexadecimal unit each. -/
theorem units_hexadecimal {text : Text} (lower : text.all CodePoint.isLowerHex = true) : (Text.units text).length = text.length ∧
      ∀ unit ∈ Text.units text, 48 ≤ unit.val ∧ unit.val ≤ 57 ∨ 97 ≤ unit.val ∧ unit.val ≤ 102 := by
  induction text with
  | nil => simp
  | cons point rest ih =>
    rw [all_cons, Bool.and_eq_true] at lower
    obtain ⟨length, hexadecimal⟩ := ih lower.2
    obtain ⟨single, value⟩ := units_of_isLowerHex lower.1
    rw [units_cons, single]
    refine ⟨by simp [length], fun unit member => ?_⟩
    rcases mem_cons.mp member with rfl | member
    · rw [value]
      simpa [CodePoint.isLowerHex] using lower.1
    · exact hexadecimal unit member

/-- Both sides know commits by the same pattern. -/
theorem isCommit_iff {string : CodeUnits} : isCommit string = true ↔ githubObjectId (decode string) = true := by
  simp only [isCommit, githubObjectId, Bool.and_eq_true, decide_eq_true_eq]
  constructor
  · rintro ⟨length, hexadecimal⟩
    rw [all_eq_true] at hexadecimal
    have single : ∀ unit ∈ string, unit.isHigh = false := by
      intro unit member
      have digit := hexadecimal unit member
      simp only [Bool.or_eq_true, Bool.and_eq_true, decide_eq_true_eq] at digit
      simp only [CodeUnit.isHigh, Bool.and_eq_false_iff, decide_eq_false_iff_not, not_le]
      omega
    rw [decode_of_single single, length_map, all_map, all_eq_true]
    exact ⟨length, hexadecimal⟩
  · rintro ⟨length, lower⟩
    obtain ⟨same, hexadecimal⟩ := units_hexadecimal lower
    rw [units_decode] at same hexadecimal
    refine ⟨same.trans length, all_eq_true.mpr fun unit member => ?_⟩
    simpa using hexadecimal unit member

end Commits

section Local

variable {repository rest : CodeUnits} {path : Text}

section

variable (scalar : path.scalar = true)
include scalar

/-- A reference with a scalar path is read back part by part. -/
theorem decode_reference : decode (repository ++ literal "/" ++ Text.units path ++ literal "@" ++ rest) =
      decode repository ++ ascii "/" ++ path ++ ascii "@" ++ decode rest := by
  have whole : Text.scalar (ascii "/" ++ path ++ ascii "@") = true := by simp [scalar]
  have joined := @decode_append_units repository rest (ascii "/" ++ path ++ ascii "@") 
    (append_ne_nil_of_right_ne_nil _ (by decide)) whole
  rw [units_append, units_append] at joined
  simpa only [append_assoc, literal] using joined

theorem units_reference : Text.units (decode repository ++ ascii "/" ++ path ++ ascii "@") =
      repository ++ literal "/" ++ Text.units path ++ literal "@" := by
  have whole := @decode_reference repository [] path scalar
  rw [append_nil, decode, append_nil] at whole
  rw [← whole, units_decode]

/-- A caller starts with its repository and path exactly when its text does. -/
theorem reference_prefix_iff {caller : CodeUnits} : repository ++ literal "/" ++ Text.units path ++ literal "@" <+: caller ↔
      decode repository ++ ascii "/" ++ path ++ ascii "@" <+: decode caller := by
  constructor
  · rintro ⟨rest, rfl⟩
    exact ⟨decode rest, (decode_reference scalar).symm⟩
  · rintro ⟨rest, same⟩
    refine ⟨Text.units rest, ?_⟩
    rw [← units_reference scalar, ← units_append, same, units_decode]

end

/-- Both sides take the same revisions of the caller. -/
theorem revision_iff : (ascii "refs/" <+: decode rest ∧ (ascii "refs/").length < (decode rest).length) ↔
      literal "refs/" <+: rest ∧ 5 < rest.length := by
  have scalar : Text.scalar (ascii "refs/") = true := scalar_ascii _
  rw [literal, units_prefix_iff scalar]
  refine and_congr_right fun start => ?_
  obtain ⟨more, rfl⟩ := (units_prefix_iff scalar).mpr start
  have units : (Text.units (ascii "refs/")).length = 5 := by decide
  rw [decode_units_append scalar, length_append, length_append, units, Nat.lt_add_right_iff_pos,
    Nat.lt_add_right_iff_pos, length_pos_iff, length_pos_iff, ne_eq, ne_eq, decode_eq_nil_iff]

end Local

/-- The identity of a plan request as the coordinator sees it. -/
def admitsRun [CallStack] (workflow : TargetWorkflowBinding) (run : AuthenticatedRun) : Py Bool :=
  workflow.admitsPlanRequestIdentity (run.jobWorkflowRef.map decode) (run.jobWorkflowSha.map decode)
    (some (decode run.repository)) (run.workflowRef.map decode) (run.workflowSha.map decode)

section Requesters

variable [CallStack] {workflow : TargetWorkflowBinding} {run : AuthenticatedRun}

/-- What a workflow binding was checked for. -/
theorem checked_binding (workflow : TargetWorkflowBinding) :
    workflow.workflowPath.scalar = true ∧ (workflow.planRequestWorkflowRef = localPlanRequestWorkflowRef ∨
      ∃ revision, externalReusableWorkflowRevision workflow.planRequestWorkflowRef = .ok (some revision)) := by
  have admitted := workflow.admitted
  rw [postInit, bind_unit_eq_ok] at admitted
  obtain ⟨path, admitted⟩ := admitted
  refine ⟨scalar_of_requireWorkflowPath path, ?_⟩
  simp only [bind_unit_eq_ok] at admitted
  obtain ⟨-, -, -, requester, -⟩ := admitted
  unfold requireImmutableRequester at requester
  split at requester
  · rename_i isLocal
    exact .inl isLocal
  · rw [bind_eq_ok] at requester
    obtain ⟨found, computed, checked⟩ := requester
    rw [raiseIf_eq_ok] at checked
    cases found with
    | none => exact absurd rfl checked
    | some revision => exact .inr ⟨revision, computed⟩

/-- The start of a reference to a path of the run's repository. -/
def referenceStart (run : AuthenticatedRun) (path : CodeUnits) : CodeUnits :=
  run.repository ++ literal "/" ++ path ++ literal "@"

omit [CallStack] in
theorem localRequester_eq_ok {workflow : Workflow} {expected : CodeUnits × Option CodeUnits} :
    localRequester workflow run = .ok expected ↔
      ∃ rest sha, run.workflowRef = some (referenceStart run workflow.workflowPath ++ rest) ∧
        (literal "refs/" <+: rest ∧ 5 < rest.length) ∧ run.workflowSha = some sha ∧ isCommit sha = true ∧
        (referenceStart run localRequesterPath ++ rest, some sha) = expected := by
  have start : ∀ path, run.repository ++ literal "/" ++ path ++ literal "@" = referenceStart run path := fun _ => rfl
  simp only [localRequester, start]
  cases called : run.workflowRef with
  | none => simp
  | some caller =>
    by_cases starts : referenceStart run workflow.workflowPath <+: caller
    · obtain ⟨rest, rfl⟩ := starts
      have found : (referenceStart run workflow.workflowPath).isPrefixOf (referenceStart run workflow.workflowPath ++ rest) =
          true := isPrefixOf_iff_prefix.mpr ⟨rest, rfl⟩
      have sliced : slice (referenceStart run workflow.workflowPath ++ rest)
          (referenceStart run workflow.workflowPath).length = rest := by
        rw [slice, Int.toNat_natCast, drop_left]
      have revision : ((literal "refs/").isPrefixOf rest = false ∨ rest.length ≤ 5) ↔
          ¬ (literal "refs/" <+: rest ∧ 5 < rest.length) := by
        rw [← isPrefixOf_iff_prefix, not_and_or, Bool.not_eq_true, Nat.not_lt]
      dsimp only
      rw [found, if_neg Bool.false_ne_true.symm, sliced]
      by_cases revised : literal "refs/" <+: rest ∧ 5 < rest.length
      · rw [if_neg (fun refused => revision.mp refused revised)]
        cases committed : run.workflowSha with
        | none => simp
        | some sha =>
          cases commit : isCommit sha with
          | false => simp [commit]
          | true => simp [revised, commit]
      · rw [if_pos (revision.mpr revised)]
        simp [revised]
    · have missing : (referenceStart run workflow.workflowPath).isPrefixOf caller = false := by
        rw [← Bool.not_eq_true, isPrefixOf_iff_prefix]
        exact starts
      have other : ∀ rest, caller ≠ referenceStart run workflow.workflowPath ++ rest := fun rest same =>
        starts ⟨rest, same.symm⟩
      dsimp only
      rw [missing, if_pos rfl]
      simp [other]

section

variable (isLocal : workflow.planRequestWorkflowRef = localPlanRequestWorkflowRef)
include isLocal

/-- A local requester is compared with the caller's own repository, revision and commit. -/
theorem validateRequester_local : validateRequester (Workflow.ofBinding workflow) run = .ok () ↔
      ∃ rest sha, run.workflowRef = some (referenceStart run (Text.units workflow.workflowPath) ++ rest) ∧
        (literal "refs/" <+: rest ∧ 5 < rest.length) ∧ run.workflowSha = some sha ∧ isCommit sha = true ∧
        run.jobWorkflowRef = some (referenceStart run localRequesterPath ++ rest) ∧ run.jobWorkflowSha = some sha := by
  have requester : (Workflow.ofBinding workflow).planRequestWorkflowRef = localRequesterRef := by
    rw [localRequesterRef_eq, ← isLocal]
    rfl
  simp only [validateRequester, expectedRequester, if_pos requester, bind_eq_ok, localRequester_eq_ok,
    raiseIf_eq_ok, not_not, exists_unit_iff]
  constructor
  · rintro ⟨expected, ⟨rest, sha, called, revised, committed, commit, rfl⟩, reference, object⟩
    exact ⟨rest, sha, called, revised, committed, commit, reference, object⟩
  · rintro ⟨rest, sha, called, revised, committed, commit, reference, object⟩
    exact ⟨_, ⟨rest, sha, called, revised, committed, commit, rfl⟩, reference, object⟩

/-- The coordinator compares the same parts of the texts. -/
theorem admitsRun_local : ∃ admitted, admitsRun workflow run = .ok admitted ∧ (admitted = true ↔
      ∃ rest sha, run.workflowRef = some (referenceStart run (Text.units workflow.workflowPath) ++ rest) ∧
        (literal "refs/" <+: rest ∧ 5 < rest.length) ∧ run.workflowSha = some sha ∧ isCommit sha = true ∧
        run.jobWorkflowRef = some (referenceStart run localRequesterPath ++ rest) ∧ run.jobWorkflowSha = some sha) := by
  have path := (checked_binding workflow).1
  have requester : localPlanRequestWorkflowPath.scalar = true := scalar_ascii _
  unfold admitsRun TargetWorkflowBinding.admitsPlanRequestIdentity
  rw [if_pos isLocal]
  cases called : run.workflowRef with
  | none => exact ⟨false, rfl, by simp⟩
  | some caller =>
    cases committed : run.workflowSha with
    | none => exact ⟨false, rfl, by simp⟩
    | some sha =>
      dsimp only [Option.map_some]
      by_cases starts : referenceStart run (Text.units workflow.workflowPath) <+: caller
      · have found := isPrefixOf_iff_prefix.mpr ((reference_prefix_iff path).mp starts)
        obtain ⟨rest, rfl⟩ := starts
        rw [found, if_neg Bool.false_ne_true.symm]
        refine ⟨_, rfl, ?_⟩
        have whole : decode (referenceStart run (Text.units workflow.workflowPath) ++ rest) =
            decode run.repository ++ ascii "/" ++ workflow.workflowPath ++ ascii "@" ++ decode rest := decode_reference path
        have reference : decode (referenceStart run localRequesterPath ++ rest) =
            decode run.repository ++ ascii "/" ++ localPlanRequestWorkflowPath ++ ascii "@" ++ decode rest :=
          decode_reference requester
        rw [whole, drop_left, ← reference]
        simp only [Bool.and_eq_true, decide_eq_true_eq, map_decode_eq_some_iff, ← isCommit_iff,
          isPrefixOf_iff_prefix, revision_iff]
        constructor
        · rintro ⟨⟨⟨revised, commit⟩, same⟩, object⟩
          exact ⟨rest, sha, rfl, revised, rfl, commit, same, object⟩
        · rintro ⟨other, object, same, revised, equal, commit, requested, shared⟩
          obtain rfl := append_cancel_left (Option.some.inj same)
          obtain rfl := Option.some.inj equal
          exact ⟨⟨⟨revised, commit⟩, requested⟩, shared⟩
      · have missing := (not_congr (reference_prefix_iff path)).mp starts
        rw [← isPrefixOf_iff_prefix, Bool.not_eq_true] at missing
        rw [missing, if_pos rfl]
        refine ⟨false, rfl, iff_of_false Bool.false_ne_true ?_⟩
        rintro ⟨rest, -, same, -⟩
        exact starts ⟨rest, (Option.some.inj same).symm⟩

end

end Requesters

section External

theorem cut_eq_some {separator : CodePoint} {text before after : Text} (found : cut separator text = (before, some after)) :
    text = before ++ separator :: after := by
  unfold cut at found
  split at found
  · simp at found
  · rename_i mark rest dropped
    rw [Prod.mk.injEq, Option.some.injEq] at found
    obtain ⟨rfl, rfl⟩ := found
    have marked : mark = separator := by
      have head := head?_dropWhile_not (· != separator) text
      rw [dropped] at head
      simpa using head
    subst marked
    rw [← dropped, takeWhile_append_dropWhile]

theorem cutLast_eq_some {separator : CodePoint} {text before after : Text}
    (found : cutLast separator text = (some before, after)) : text = before ++ separator :: after := by
  unfold cutLast at found
  generalize parts : cut separator text.reverse = cuts at found
  obtain ⟨last, rest⟩ := cuts
  rw [Prod.mk.injEq] at found
  obtain ⟨front, rfl⟩ := found
  cases rest with
  | none => cases front
  | some rest =>
    obtain rfl := Option.some.inj front
    have reversed := congrArg List.reverse (cut_eq_some parts)
    simpa using reversed

/-- An admitted external reference ends with its commit after its last separator. -/
theorem externalRevision_spec {value revision : Text} (known : externalReusableWorkflowRevision value = .ok (some revision)) :
    value.scalar = true ∧ githubObjectId revision = true ∧ ∃ target, value = target ++ atSign :: revision := by
  rw [externalReusableWorkflowRevision, bind_eq_ok] at known
  obtain ⟨bounded, computed, known⟩ := known
  refine ⟨scalar_of_utf8Within computed, ?_⟩
  split at known
  · cases known
  · generalize parts : cutLast atSign value = cuts at known
    obtain ⟨target, last⟩ := cuts
    simp only [pure_eq_ok_iff] at known
    split at known
    · rename_i owner repository path splitted
      split at known
      · rename_i admitted
        obtain rfl := Option.some.inj known
        simp only [Bool.and_eq_true] at admitted
        cases target with
        | none => cases splitted
        | some target => exact ⟨admitted.2, target, cutLast_eq_some parts⟩
      · cases known
    · cases known

theorem lastIndexOf_absent {unit : CodeUnit} {string : CodeUnits} (absent : unit ∉ string) : lastIndexOf unit string = -1 := by
  induction string with
  | nil => rfl
  | cons first rest ih =>
    rw [mem_cons, not_or] at absent
    rw [lastIndexOf, ih absent.2]
    simp [Ne.symm absent.1]

/-- The last position of a unit is where it does not follow again. -/
theorem lastIndexOf_append {unit : CodeUnit} {left right : CodeUnits} (absent : unit ∉ right) :
    lastIndexOf unit (left ++ unit :: right) = left.length := by
  induction left with
  | nil =>
    rw [nil_append, lastIndexOf, lastIndexOf_absent absent]
    simp
  | cons first rest ih =>
    rw [cons_append, lastIndexOf, ih]
    simp

/-- The target finds the commit of an external reference where the coordinator does. -/
theorem slice_revision {target revision : Text} (commit : githubObjectId revision = true) :
    slice (Text.units (target ++ atSign :: revision)) (lastIndexOf 0x40 (Text.units (target ++ atSign :: revision)) + 1) =
      Text.units revision := by
  simp only [githubObjectId, Bool.and_eq_true] at commit
  have absent : (0x40 : CodeUnit) ∉ Text.units revision := by
    intro member
    rcases (units_hexadecimal commit.2).2 _ member with digit | letter
    · exact absurd digit.2 (by decide)
    · exact absurd letter.1 (by decide)
  have mark : CodePoint.units atSign = [0x40] := by decide
  rw [units_append, units_cons, mark, singleton_append, lastIndexOf_append absent, slice]
  have position : ((Text.units target).length + 1 : Int).toNat = (Text.units target ++ [0x40]).length := by
    rw [length_append, length_singleton]
    omega
  rw [position, append_cons (Text.units target) 0x40 (Text.units revision), drop_left]

end External

/-- The coordinator and the target accept the same requesters, whatever strings an authenticated run carries. -/
theorem admitsRun_iff_validateRequester [CallStack] (registry : TargetExecutionRegistry) (workflow : TargetWorkflowBinding)
    (_member : workflow ∈ registry.workflows) (run : AuthenticatedRun) :
    ∃ admitted, admitsRun workflow run = .ok admitted ∧
      (admitted = true ↔ validateRequester (Workflow.ofBinding workflow) run = .ok ()) := by
  by_cases isLocal : workflow.planRequestWorkflowRef = localPlanRequestWorkflowRef
  · obtain ⟨admitted, computed, same⟩ := @admitsRun_local _ workflow run isLocal
    exact ⟨admitted, computed, same.trans (validateRequester_local isLocal).symm⟩
  · obtain ⟨revision, known⟩ := (checked_binding workflow).2.resolve_left isLocal
    obtain ⟨scalar, commit, target, reference⟩ := externalRevision_spec known
    have other : (Workflow.ofBinding workflow).planRequestWorkflowRef ≠ localRequesterRef := by
      intro same
      rw [localRequesterRef_eq] at same
      have texts := congrArg decode same
      rw [decode_units scalar_localPlanRequestWorkflowRef] at texts
      exact isLocal ((decode_units scalar).symm.trans texts)
    have object : slice (Text.units workflow.planRequestWorkflowRef)
        (lastIndexOf 0x40 (Text.units workflow.planRequestWorkflowRef) + 1) = Text.units revision := by
      rw [reference]
      exact slice_revision commit
    have plain : revision.scalar = true := by
      rw [reference, Text.scalar_append, Text.scalar_cons] at scalar
      exact scalar.2.2
    unfold admitsRun TargetWorkflowBinding.admitsPlanRequestIdentity
    rw [if_neg isLocal, known]
    refine ⟨_, rfl, ?_⟩
    rw [validateRequester, expectedRequester, if_neg other]
    simp only [ok_bind_eq, bind_unit_eq_ok, raiseIf_eq_ok, not_not, Option.isSome_some, Bool.true_and, Bool.and_eq_true,
      decide_eq_true_eq]
    have texts : decode (Text.units workflow.planRequestWorkflowRef) = workflow.planRequestWorkflowRef := decode_units scalar
    have commits : decode (Text.units revision) = revision := decode_units plain
    have sameRef : run.jobWorkflowRef.map decode = some workflow.planRequestWorkflowRef ↔
        run.jobWorkflowRef = some (Workflow.ofBinding workflow).planRequestWorkflowRef := by
      rw [← map_decode_eq_some_iff]
      show _ ↔ _ = some (decode (Text.units workflow.planRequestWorkflowRef))
      rw [texts]
    have sameSha : run.jobWorkflowSha.map decode = some revision ↔ run.jobWorkflowSha = some (Text.units revision) := by
      rw [← map_decode_eq_some_iff, commits]
    rw [sameRef, sameSha, ← object]
    rfl

namespace Sample

@[reducible] def stack : CallStack := ⟨100⟩

def buildFields : TargetJobFields :=
  ⟨ascii "build", [ascii "plan"]⟩

theorem build_passed : buildFields.postInit = .ok () := by
  decide

def testFields : TargetJobFields :=
  ⟨ascii "test", [ascii "build", ascii "plan"]⟩

theorem test_passed : testFields.postInit = .ok () := by
  decide

/-- Two jobs behind the plan, the second behind the first. -/
def executionJobs : List TargetJobBinding :=
  [⟨buildFields, build_passed⟩, ⟨testFields, test_passed⟩]

def workflowFields : TargetWorkflowFields where
  workflowPath := ascii ".github/workflows/ci.yml"
  executionKind := .nativeJobSet
  executionJobs := executionJobs
  planRequestJobId := ascii "plan-request"
  planRequestWorkflowRef := localPlanRequestWorkflowRef
  planJobId := ascii "plan"
  fallbackJobId := none
  gateJobId := ascii "gate"
  gateSignalName := ascii "CI gate"
  requiredJobIds := []

theorem path_bounded : isAdapterWorkflowPath workflowFields.workflowPath = .ok true := by
  decide

theorem jobs_acyclic : ExecutionOrchestration.requireAcyclicJobs 100 executionJobs = .ok () := by
  decide

theorem workflow_passed : @postInit stack workflowFields = .ok () := by
  obtain ⟨signal, declared⟩ := @ProviderSignal.declaredNative_total workflowFields.workflowPath workflowFields.gateJobId
    workflowFields.gateSignalName path_bounded (by decide) (by decide) (by decide)
  have requester : workflowFields.requireImmutableRequester = .ok () := if_pos rfl
  have jobs : requireSorted workflowFields.executionJobIds
      (ascii "target workflow execution jobs must be non-empty and canonical") = .ok () :=
    requireSorted_eq_ok.mpr (by decide)
  unfold postInit
  simp only [bind_eq_ok, requester, jobs, declared, raiseIf_eq_ok, requireSorted_eq_ok, forEach_eq_ok]
  exact ⟨(), by decide, (), by decide, (), trivial, (), by decide, (), trivial, (), by decide, (), by decide, (), by decide,
    (), by decide, (), by decide, (), jobs_acyclic, signal, rfl, rfl⟩

def workflow : @TargetWorkflowBinding stack :=
  @TargetWorkflowBinding.mk stack workflowFields workflow_passed

/-- The profile of a job, with all its resources of the same name. -/
def profileFields (jobId : Text) : TargetProfileFields where
  profileId := jobId
  workflowPath := workflowFields.workflowPath
  jobId := jobId
  runnerProfileId := ascii "linux"
  permissionProfileId := ascii "linux"
  credentialProfileId := ascii "linux"
  fixtureProfileId := ascii "linux"
  serviceProfileIds := []
  capacityClassId := ascii "linux"
  executionKind := .nativeJobSet

theorem buildProfile_passed : (profileFields (ascii "build")).postInit = .ok () := by
  decide

theorem testProfile_passed : (profileFields (ascii "test")).postInit = .ok () := by
  decide

def adapterFields (path : Text) : TargetAdapterFileFields :=
  ⟨path, List.replicate 64 48⟩

theorem control_passed : (adapterFields (ascii ".ci-coordinator/ci-coordinator.cjs")).postInit = .ok () := by
  decide

theorem workflowFile_passed : (adapterFields (ascii ".github/workflows/ci.yml")).postInit = .ok () := by
  decide

theorem requesterFile_passed : (adapterFields localPlanRequestWorkflowPath).postInit = .ok () := by
  decide

def registryFields : @TargetRegistryFields stack :=
  @TargetRegistryFields.mk stack (ascii "generator") (ascii "1")
    [⟨_, control_passed⟩, ⟨_, workflowFile_passed⟩, ⟨_, requesterFile_passed⟩] [workflow]
    [⟨_, buildProfile_passed⟩, ⟨_, testProfile_passed⟩]

theorem registry_passed : @TargetRegistryFields.postInit stack registryFields = .ok () := by
  decide

/-- A registry with one workflow and a local requester. -/
def registry : @TargetExecutionRegistry stack :=
  @TargetExecutionRegistry.mk stack registryFields registry_passed

/-- A run of the workflow on its main branch. -/
def run : AuthenticatedRun where
  repository := literal "acme/app"
  jobWorkflowRef := some (literal "acme/app/.github/workflows/trusted-plan-request.yml@refs/heads/main")
  jobWorkflowSha := some (List.replicate 40 48)
  workflowRef := some (literal "acme/app/.github/workflows/ci.yml@refs/heads/main")
  workflowSha := some (List.replicate 40 48)

example : validateRequester (@Workflow.ofBinding stack workflow) run = .ok () := by
  decide

theorem admitsRun_run : ∃ admitted, @admitsRun stack workflow run = .ok admitted ∧
    (admitted = true ↔ validateRequester (@Workflow.ofBinding stack workflow) run = .ok ()) :=
  @admitsRun_iff_validateRequester stack registry workflow (mem_singleton.mpr rfl) run

end Sample

end CiCoordinator.TargetArtifacts

import CiCoordinator.RepoContext.StaticGate

/- The generated control jobs of a workflow and their admission by the hashes of projections. -/

namespace CiCoordinator.RepoContext

open Library Kernel List

/-- An expression of the workflow language. -/
def expression (body : Text) : Text :=
  ascii "$\x7b\x7b " ++ body ++ ascii " \x7d\x7d"

def yamlText (literal : String) : YamlValue :=
  .str (ascii literal)

def yamlExpression (literal : String) : YamlValue :=
  .str (expression (ascii literal))

def yamlMapping (entries : List (String × YamlValue)) : YamlValue :=
  .dict (entries.map fun pair => (yamlText pair.1, pair.2))

def checkoutAction : YamlValue :=
  yamlText "actions/checkout@<immutable-git-object>"

def setupNodeAction : YamlValue :=
  yamlText "actions/setup-node@<immutable-git-object>"

/-- The pattern of a property that is written after a dot. -/
def dotProperty (value : Text) : Bool :=
  match value with
  | [] => false
  | first :: rest => (first.isLetter || first = 0x5F) && rest.all fun point => isAlphanumeric point || point = 0x5F

def needsJob (jobId : Text) : Text :=
  if dotProperty jobId then ascii "needs." ++ jobId else ascii "needs['" ++ jobId ++ ascii "']"

def needsOutput (jobId output : Text) : Text :=
  expression (needsJob jobId ++ ascii ".outputs." ++ output)

def invocationJob (runner : Text) : YamlValue :=
  yamlMapping [("runs-on", .str runner), ("timeout-minutes", .int 1), ("permissions", .dict []),
    ("outputs", yamlMapping [("direct", yamlExpression "steps.classify.outputs.direct")]),
    ("steps", .list [yamlMapping [("id", yamlText "classify"), ("shell", yamlText "bash"),
      ("env", yamlMapping [("CI_CALLER_WORKFLOW_REF", yamlExpression "github.workflow_ref"),
        ("CI_DEFINING_WORKFLOW_REF", yamlExpression "job.workflow_ref")]),
      ("run", .str (ascii "set -euo pipefail\ndirect=false\nif [ -n \"$CI_CALLER_WORKFLOW_REF\" ] && " ++
        ascii "[ \"$CI_CALLER_WORKFLOW_REF\" = \"$CI_DEFINING_WORKFLOW_REF\" ]; then\n  direct=true\nfi\n" ++
        ascii "printf 'direct=%s\\n' \"$direct\" >> \"$GITHUB_OUTPUT\"\n"))]])]

def planRequestCondition (invocationJobId : Text) (workflowEvents : List Text) (excludeDraftPullRequests : Bool) : Text :=
  let predicates := workflowEvents.map fun event => ascii "github.event_name == '" ++ event ++ ascii "'"
  let eventClause := match predicates with
    | [predicate] => predicate
    | _ => ascii "(" ++ List.intercalate (ascii " || ") predicates ++ ascii ")"
  let clauses := [ascii "needs['" ++ invocationJobId ++ ascii "'].outputs.direct == 'true'", eventClause] ++
    if excludeDraftPullRequests then
      [ascii "(github.event_name != 'pull_request' || !github.event.pull_request.draft)"]
    else []
  expression (List.intercalate (ascii " && ") clauses)

def installationExpression : YamlValue :=
  yamlExpression "vars.CI_COORDINATOR_INSTALLATION_ID || github.event.installation.id"

def planRequestJob (invocationJobId : Text) (workflowEvents : List Text) (planRequestWorkflowRef : Text)
    (excludeDraftPullRequests : Bool) : YamlValue :=
  yamlMapping [("if", .str (planRequestCondition invocationJobId workflowEvents excludeDraftPullRequests)),
    ("needs", .str invocationJobId), ("permissions", yamlMapping [("id-token", yamlText "write")]),
    ("uses", .str planRequestWorkflowRef),
    ("with", yamlMapping [("installation_id", installationExpression),
      ("plan_url", yamlExpression "vars.CI_COORDINATOR_PLAN_URL")])]

/-- The chunks in which a plan is passed on. -/
def planChunks (planRequestJobId : Text) : List (YamlValue × YamlValue) :=
  (List.range 7).map fun index => (.str (ascii "CI_COORDINATOR_PLAN_CHUNK_" ++ decimal index),
    .str (needsOutput planRequestJobId (ascii "plan_chunk_" ++ decimal index)))

def planConsumeEnvironment (planRequestJobId : Text) : YamlValue :=
  .dict ([(yamlText "PLAN_PATH", yamlText "$\x7b\x7b runner.temp \x7d\x7d/dynamic-ci-plan.json"),
    (yamlText "CI_COORDINATOR_PLAN_REASON", .str (needsOutput planRequestJobId (ascii "reason")))] ++
      planChunks planRequestJobId)

/-- The job ids as a compact JSON array. -/
def jobIdsJson (jobIds : List Text) : Text :=
  ascii "[" ++ List.intercalate (ascii ",") (jobIds.map jsonString) ++ ascii "]"

def planValidateEnvironment (workflowPath : Text) (executionJobIds : List Text) : YamlValue :=
  yamlMapping [("PLAN_PATH", yamlText "$\x7b\x7b runner.temp \x7d\x7d/dynamic-ci-plan.json"),
    ("CI_COORDINATOR_PLAN_TRUST_ROOT_PATH", yamlText ".ci-coordinator/plan-trust-root.v1.json"),
    ("CI_COORDINATOR_PLAN_OIDC_AUDIENCE", yamlExpression "vars.CI_COORDINATOR_PLAN_URL"),
    ("CI_INSTALLATION_ID", installationExpression), ("CI_REPOSITORY_ID", yamlExpression "github.repository_id"),
    ("CI_OWNER", yamlExpression "github.repository_owner"), ("CI_REPO", yamlExpression "github.event.repository.name"),
    ("CI_EVENT", yamlExpression "github.event_name"), ("CI_RUN_ATTEMPT", yamlExpression "github.run_attempt"),
    ("CI_RUN_ID", yamlExpression "github.run_id"),
    ("CI_BASE_SHA", yamlExpression ("github.event.pull_request.base.sha || github.event.merge_group.base_sha || " ++
      "github.event.before")),
    ("CI_HEAD_SHA", yamlExpression ("github.event.pull_request.head.sha || github.event.merge_group.head_sha || " ++
      "github.sha")),
    ("CI_EXECUTION_SHA", yamlExpression "github.sha"), ("CI_REF", yamlExpression "github.ref"),
    ("CI_PULL_REQUEST_NUMBER", yamlExpression "github.event.pull_request.number"),
    ("CI_MERGE_GROUP_HEAD_REF", yamlExpression "github.event.merge_group.head_ref || github.event.merge_group.ref"),
    ("CI_WORKFLOW_PATH", .str workflowPath), ("CI_WORKFLOW_REF", yamlExpression "job.workflow_ref"),
    ("CI_WORKFLOW_SHA", yamlExpression "job.workflow_sha"),
    ("CI_STATIC_JOB_IDS_JSON", .str (jobIdsJson executionJobIds)),
    ("CI_TARGET_REGISTRY_PATH", yamlText ".ci-coordinator/execution-registry.v1.json")]

/-- The steps that check the target out and set its host up. -/
def checkoutSteps : List YamlValue :=
  [yamlMapping [("uses", checkoutAction), ("with", yamlMapping [("persist-credentials", .bool false),
      ("ref", yamlExpression "job.workflow_sha")])],
    yamlMapping [("uses", setupNodeAction), ("with", yamlMapping [("node-version", yamlText "24.21.0")])]]

def witnessShards : Text :=
  ascii "witness-shards"

def nativeJobSet : Text :=
  ascii "native-job-set"

variable (runner workflowPath executionKind : Text) (executionJobIds : List Text)

def planJob (planRequestJobId : Text) : YamlValue :=
  yamlMapping [("if", yamlExpression "!cancelled()"), ("runs-on", .str runner), ("timeout-minutes", .int 2),
    ("permissions", yamlMapping [("contents", yamlText "read")]),
    ("outputs", yamlMapping ([("fallback", yamlExpression "steps.validate.outputs.fallback"),
      ("plan_valid", yamlExpression "steps.validate.outputs.plan_valid"),
      ("reason", yamlExpression "steps.validate.outputs.reason"),
      ("selected_jobs", yamlExpression "steps.validate.outputs.selected_jobs")] ++
      if executionKind = witnessShards then [("matrices", yamlExpression "steps.validate.outputs.matrices"),
        ("max_parallel_by_job", yamlExpression "steps.validate.outputs.max_parallel_by_job")] else [])),
    ("steps", .list (checkoutSteps ++ [yamlMapping [("env", planConsumeEnvironment planRequestJobId),
          ("run", yamlText "node .ci-coordinator/ci-coordinator.cjs consume-plan")],
        yamlMapping [("id", yamlText "validate"), ("env", planValidateEnvironment workflowPath executionJobIds),
          ("run", yamlText "node .ci-coordinator/ci-coordinator.cjs validate-plan")]]))]

/-- The results of the jobs as a JSON object of expressions. -/
def staticJobResults (jobIds : List Text) : Text :=
  ascii "\x7b" ++ List.intercalate (ascii ",") (jobIds.map fun jobId =>
    jsonString jobId ++ ascii ":\"" ++ expression (needsJob jobId ++ ascii ".result") ++ ascii "\"") ++ ascii "\x7d"

def gateJob (planJobId : Text) (fallbackJobId : Option Text) : YamlValue :=
  let shards := if executionKind = witnessShards then fallbackJobId.toList else []
  yamlMapping [("if", yamlExpression "always()"), ("runs-on", .str runner), ("timeout-minutes", .int 2),
    ("permissions", yamlMapping [("contents", yamlText "read")]),
    ("steps", .list (yamlMapping [("if", yamlExpression "cancelled()"), ("run", yamlText "exit 1")] ::
      (checkoutSteps ++ [yamlMapping [
        ("env", yamlMapping ([("CI_FALLBACK", .str (needsOutput planJobId (ascii "fallback"))),
          ("CI_OWNER", yamlExpression "github.repository_owner"),
          ("CI_PLAN_RESULT", .str (expression (needsJob planJobId ++ ascii ".result"))),
          ("CI_PLAN_VALID", .str (needsOutput planJobId (ascii "plan_valid"))),
          ("CI_REPO", yamlExpression "github.event.repository.name"),
          ("CI_SELECTED_JOBS_JSON", .str (needsOutput planJobId (ascii "selected_jobs"))),
          ("CI_STATIC_JOB_RESULTS_JSON", .str (staticJobResults executionJobIds)),
          ("CI_TARGET_REGISTRY_PATH", yamlText ".ci-coordinator/execution-registry.v1.json"),
          ("CI_WORKFLOW_PATH", .str workflowPath), ("CI_WORKFLOW_REF", yamlExpression "job.workflow_ref")] ++
          shards.map fun jobId =>
            ("CI_FULL_CI_RESULT", YamlValue.str (expression (ascii "needs." ++ jobId ++ ascii ".result"))))),
        ("run", yamlText "node .ci-coordinator/ci-coordinator.cjs validate-gate")]])))]

/-- What the admission of a control plane is asked for. -/
structure ControlPlaneRequest where
  workflowPath : Text
  executionKind : Text
  invocationJobId : Text
  planRequestJobId : Text
  planRequestWorkflowRef : Text
  planJobId : Text
  fallbackJobId : Option Text
  gateJobId : Text
  executionJobIds : List Text

def ControlPlaneRequest.protectedJobIds (request : ControlPlaneRequest) : List Text :=
  [request.invocationJobId, request.planRequestJobId, request.planJobId, request.gateJobId] ++ request.executionJobIds ++
    request.fallbackJobId.toList

/-- The four control jobs of a workflow, or their hashes. -/
structure ControlJobs (A : Type) where
  invocation : A
  planRequest : A
  plan : A
  gate : A
  deriving DecidableEq

def dynamicPlanEvents : List Text :=
  [ascii "pull_request", ascii "push", ascii "merge_group"]

def controlRunners : List Text :=
  [ascii "ubuntu-24.04", ascii "ubuntu-26.04-arm"]

/-- The generated control jobs that may be admitted; the host folds the case of job ids. -/
def admittedControlJobs (lower : Text → Text) (request : ControlPlaneRequest) (workflowTriggers : List Text) :
    Option (List (ControlJobs YamlValue)) :=
  let shape := (request.executionKind = nativeJobSet ∧ request.fallbackJobId = none) ∨
    (request.executionKind = witnessShards ∧ request.fallbackJobId ≠ none)
  let dynamicEvents := dynamicPlanEvents.filter workflowTriggers.contains
  if request.executionJobIds = [] ∨ [] ∈ workflowTriggers ∨ ¬ shape ∨
      (request.protectedJobIds.map lower).dedup.length ≠ request.protectedJobIds.length ∨ dynamicEvents = [] then none
  else
    let draftPolicies := if ascii "pull_request" ∈ dynamicEvents then [false, true] else [false]
    some (draftPolicies.flatMap fun draft => controlRunners.map fun runner => {
      invocation := invocationJob runner
      planRequest := planRequestJob request.invocationJobId dynamicEvents request.planRequestWorkflowRef draft
      plan := planJob runner request.workflowPath request.executionKind request.executionJobIds request.planRequestJobId
      gate := gateJob runner request.workflowPath request.executionKind request.executionJobIds request.planJobId
        request.fallbackJobId })

def generatedHash (job : YamlValue) : Py Text :=
  match controlJobProjectionHash job [] with
  | none => .error (.runtimeError (ascii "generated control-plane projection is invalid"))
  | some digest => .ok digest

def generatedHashes (jobs : ControlJobs YamlValue) : Py (ControlJobs Text) := do
  let planRequest ← generatedHash jobs.planRequest
  let invocation ← generatedHash jobs.invocation
  let plan ← generatedHash jobs.plan
  let gate ← generatedHash jobs.gate
  return ⟨invocation, planRequest, plan, gate⟩

variable (self : RevisionWorkflowCapability)

def RevisionWorkflowCapability.authority (jobId : Text) : Option WorkflowJobAuthority :=
  self.jobAuthorities.find? fun item => item.jobId = jobId

def RevisionWorkflowCapability.needs (jobId : Text) : Option (List Text) :=
  Dictionary.find jobId self.jobNeeds

/-- The routes between the control jobs and the jobs that they protect. -/
def admitsRoutes (item : RevisionWorkflowCapability) (request : ControlPlaneRequest) (gateDependencies : List Text) : Bool :=
  decide (item.needs request.invocationJobId = some [] ∧
    item.needs request.planRequestJobId = some [request.invocationJobId] ∧
    item.needs request.planJobId = some [request.planRequestJobId] ∧
    item.needs request.gateJobId = some gateDependencies ∧
    ∀ fallback ∈ request.fallbackJobId.toList, item.needs fallback = some [request.planJobId]) &&
  (request.protectedJobIds.all fun jobId => (item.authority jobId).any fun authority => !authority.declaresContinueOnError) &&
  ((request.executionJobIds ++ request.fallbackJobId.toList).all fun jobId => (item.authority jobId).any fun authority =>
    authority.conditionContexts.all [ascii "github", ascii "needs"].contains)

/-- The control hashes that a capability declares for the jobs of a request. -/
def declaredHashes (item : RevisionWorkflowCapability) (request : ControlPlaneRequest) : Option (ControlJobs Text) := do
  let invocation ← item.authority request.invocationJobId
  let planRequest ← item.authority request.planRequestJobId
  let plan ← item.authority request.planJobId
  let gate ← item.authority request.gateJobId
  return ⟨invocation.controlProjectionHash, planRequest.controlProjectionHash, plan.controlProjectionHash,
    gate.controlProjectionHash⟩

def ProviderWorkflowInventory.admitsControlPlane (self : ProviderWorkflowInventory) (lower : Text → Text)
    (request : ControlPlaneRequest) : Py Bool :=
  match self.capability request.workflowPath with
  | none => .ok false
  | some item =>
    match declaredHashes item request with
    | none => .ok false
    | some declared =>
      match admittedControlJobs lower request item.triggers with
      | none => .ok false
      | some candidates => do
        let admitted ← collect generatedHashes candidates
        if declared ∉ admitted then return false
        let gateDependencies ← sortedTexts (request.planJobId :: (request.executionJobIds ++ request.fallbackJobId.toList))
        return admitsRoutes item request gateDependencies

/-- A job of a workflow is a generated one up to the labels of steps, and the workflow adds nothing to it. -/
def GeneratedUpToLabels (raw : List (YamlValue × YamlValue)) (job generated : YamlValue) : Prop :=
  SameValue job.forgetJob generated.forgetJob ∧ entry (ascii "defaults") raw = none ∧ entry (ascii "env") raw = none

section Distinct

theorem ascii_injective {first second : String} (equal : ascii first = ascii second) : first = second := by
  have bytes : first.toByteArray.data.toList = second.toByteArray.data.toList := by
    refine map_injective_iff.mpr (fun left right same => ?_) equal
    have values : left.toNat = right.toNat := congrArg (fun point : CodePoint => point.val) same
    exact UInt8.toNat_inj.mp values
  exact String.toByteArray_inj.mp (ByteArray.ext (Array.ext' bytes))

@[simp] theorem distinct_str (value : Text) : (YamlValue.str value).distinct := trivial

@[simp] theorem distinct_int (value : Int) : (YamlValue.int value).distinct := trivial

@[simp] theorem distinct_bool (value : Bool) : (YamlValue.bool value).distinct := trivial

@[simp] theorem distinct_empty : (YamlValue.dict []).distinct := ⟨nodup_nil, trivial⟩

@[simp] theorem distinct_yamlText (literal : String) : (yamlText literal).distinct := trivial

@[simp] theorem distinct_yamlExpression (literal : String) : (yamlExpression literal).distinct := trivial

theorem distinctItems_iff {items : List YamlValue} : distinctItems items ↔ ∀ item ∈ items, item.distinct := by
  induction items with
  | nil => simp [distinctItems]
  | cons item rest ih => rw [distinctItems, ih, forall_mem_cons]

theorem distinctEntries_iff {entries : List (YamlValue × YamlValue)} :
    distinctEntries entries ↔ ∀ pair ∈ entries, pair.2.distinct := by
  induction entries with
  | nil => simp [distinctEntries]
  | cons pair rest ih => rw [distinctEntries, ih, forall_mem_cons]

@[simp] theorem distinct_list {items : List YamlValue} : (YamlValue.list items).distinct ↔ ∀ item ∈ items, item.distinct :=
  distinctItems_iff

theorem keys_textEntries (entries : List (Text × YamlValue)) :
    (jsonEntries (entries.map fun pair => (.str pair.1, pair.2))).map Prod.fst = entries.map Prod.fst := by
  induction entries with
  | nil => rfl
  | cons pair rest ih => exact congrArg (pair.1 :: ·) ih

/-- A mapping with literal keys is distinct when the literals are. -/
@[simp] theorem distinct_yamlMapping {entries : List (String × YamlValue)} :
    (yamlMapping entries).distinct ↔ (entries.map Prod.fst).Nodup ∧ ∀ pair ∈ entries, pair.2.distinct := by
  have keys : (jsonEntries (entries.map fun pair => (yamlText pair.1, pair.2))).map Prod.fst =
      (entries.map Prod.fst).map ascii := by
    have texts := keys_textEntries (entries.map fun pair => (ascii pair.1, pair.2))
    simpa [yamlText, map_map, Function.comp_def] using texts
  rw [yamlMapping, YamlValue.distinct, keys, distinctEntries_iff, nodup_map_iff fun _ _ => ascii_injective, forall_mem_map]

theorem distinct_invocationJob (runner : Text) : (invocationJob runner).distinct := by
  simp [invocationJob]

theorem distinct_planRequestJob (invocationJobId : Text) (events : List Text) (reference : Text) (draft : Bool) :
    (planRequestJob invocationJobId events reference draft).distinct := by
  simp [planRequestJob, installationExpression]

theorem distinct_planConsumeEnvironment (planRequestJobId : Text) : (planConsumeEnvironment planRequestJobId).distinct := by
  refine ⟨?_, by simp [distinctEntries_iff, planChunks]⟩
  show ([ascii "PLAN_PATH", ascii "CI_COORDINATOR_PLAN_REASON"] ++
    (List.range 7).map fun index => ascii "CI_COORDINATOR_PLAN_CHUNK_" ++ decimal index).Nodup
  decide

variable (runner workflowPath executionKind : Text) (executionJobIds : List Text)

theorem distinct_planJob (planRequestJobId : Text) :
    (planJob runner workflowPath executionKind executionJobIds planRequestJobId).distinct := by
  have environment := distinct_planConsumeEnvironment planRequestJobId
  by_cases shards : executionKind = witnessShards <;>
    simp [planJob, shards, checkoutSteps, checkoutAction, setupNodeAction, planValidateEnvironment, installationExpression,
      environment]

theorem distinct_gateJob (planJobId : Text) (fallbackJobId : Option Text) :
    (gateJob runner workflowPath executionKind executionJobIds planJobId fallbackJobId).distinct := by
  by_cases shards : executionKind = witnessShards <;> cases fallbackJobId <;>
    simp [gateJob, shards, checkoutSteps, checkoutAction, setupNodeAction]

end Distinct

section Admission

variable {root : YamlNode} {loaded : YamlValue} {path revisionSha : Text} {item : RevisionWorkflowCapability}
variable {rawJobs raw : List (YamlValue × YamlValue)} {lower : Text → Text} {request : ControlPlaneRequest}

/-- The authorities of a capability are computed from the constructed jobs. -/
theorem workflowCapability_authorities (parsed : workflowCapability root loaded path revisionSha = .ok item) :
    ∃ raw rawJobs inputs, loaded = .dict raw ∧ entry (ascii "jobs") raw = some (.dict rawJobs) ∧
      jobAuthorities inputs rawJobs raw = .ok item.jobAuthorities := by
  obtain ⟨projection, _, parsed⟩ := bind_eq_ok.mp parsed
  split at parsed
  · split at parsed
    · rename_i raw _ _ rawJobs found
      obtain ⟨authorities, computed, parsed⟩ := bind_eq_ok.mp parsed
      obtain ⟨_, rfl⟩ := construct_eq_ok.mp parsed
      exact ⟨raw, rawJobs, projection.authorityInputs, rfl, found, computed⟩
    · cases parsed
  · cases parsed

/-- The hash of an authority is that of the constructed job with its id. -/
theorem rawProjectionHash_of_authority {inputs : List AuthorityInput} {jobId : Text}
    {authority : WorkflowJobAuthority} (computed : jobAuthorities inputs rawJobs raw = .ok item.jobAuthorities)
    (found : item.authority jobId = some authority) :
    rawProjectionHash rawJobs raw jobId = some authority.controlProjectionHash := by
  have listed : authority ∈ item.jobAuthorities := mem_of_find?_eq_some found
  have named : authority.jobId = jobId := by simpa using find?_some found
  obtain ⟨authorities, collected, sorted⟩ := bind_eq_ok.mp computed
  rw [← (sortedByText_eq_ok.mp sorted).2, mem_sortBy] at listed
  obtain ⟨input, _, made⟩ := exists_of_mem_collect collected listed
  split at made
  · cases made
  · rename_i digest hashed
    obtain ⟨_, rfl⟩ := construct_eq_ok.mp made
    rw [← named]
    exact hashed

theorem rawProjectionHash_eq_some {jobId digest : Text} (hashed : rawProjectionHash rawJobs raw jobId = some digest) :
    ∃ job, entry jobId rawJobs = some job ∧ controlJobProjectionHash job raw = some digest := by
  rw [rawProjectionHash] at hashed
  split at hashed
  · exact Option.bind_eq_some_iff.mp hashed
  · cases hashed

theorem generatedHash_eq_ok {job : YamlValue} {digest : Text} (hashed : generatedHash job = .ok digest) :
    controlJobProjectionHash job [] = some digest := by
  rw [generatedHash] at hashed
  split at hashed
  · cases hashed
  · rename_i found
    cases hashed
    exact found

/-- A job with the hash of a generated one is that job up to the labels of steps. -/
theorem generatedUpToLabels_of_hash {job generated : YamlValue} {digest : Text} (distinct : job.distinct)
    (apart : distinctEntries raw) (generatedDistinct : generated.distinct)
    (hashed : controlJobProjectionHash job raw = some digest)
    (generatedHashed : controlJobProjectionHash generated [] = some digest)
    (free : ∀ projection other, controlJobProjection job raw = .ok projection → controlJobProjection generated [] = .ok other →
      CollisionFree projection other) :
    GeneratedUpToLabels raw job generated := by
  have nothing : distinctEntries [] := trivial
  obtain ⟨same, defaults, environment⟩ :=
    (control_job_projection_hash_iff distinct generatedDistinct apart nothing hashed generatedHashed free).mp rfl
  have absent : ∀ {part : Option YamlValue}, SamePart part none → part = none := by
    intro part samePart
    cases part with
    | none => rfl
    | some value => exact samePart.elim
  exact ⟨same, absent defaults, absent environment⟩

theorem distinct_admittedControlJobs {triggers : List Text} {candidates : List (ControlJobs YamlValue)}
    (admitted : admittedControlJobs lower request triggers = some candidates) {generated : ControlJobs YamlValue}
    (member : generated ∈ candidates) :
    generated.invocation.distinct ∧ generated.planRequest.distinct ∧ generated.plan.distinct ∧ generated.gate.distinct := by
  rw [admittedControlJobs] at admitted
  split at admitted
  · cases admitted
  · cases admitted
    obtain ⟨draft, _, member⟩ := mem_flatMap.mp member
    obtain ⟨runner, _, rfl⟩ := mem_map.mp member
    exact ⟨distinct_invocationJob _, distinct_planRequestJob _ _ _ _, distinct_planJob _ _ _ _ _, distinct_gateJob _ _ _ _ _ _⟩

/-- What an accepted control plane declares is what some generated jobs hash to. -/
theorem admitsControlPlane_spec {self : ProviderWorkflowInventory} (found : self.capability request.workflowPath = some item)
    (accepted : self.admitsControlPlane lower request = .ok true) :
    ∃ declared candidates, declaredHashes item request = some declared ∧
      admittedControlJobs lower request item.triggers = some candidates ∧
      ∃ generated ∈ candidates, generatedHashes generated = .ok declared := by
  rw [ProviderWorkflowInventory.admitsControlPlane, found] at accepted
  dsimp only at accepted
  split at accepted
  · cases accepted
  rename_i declared declares
  split at accepted
  · cases accepted
  rename_i candidates admitted
  obtain ⟨hashes, collected, accepted⟩ := bind_eq_ok.mp accepted
  split at accepted
  · cases accepted
  rename_i member
  rw [not_not] at member
  obtain ⟨generated, listed, hashed⟩ := exists_of_mem_collect collected member
  exact ⟨declared, candidates, declares, admitted, generated, listed, hashed⟩

/-- The constructed job under an id is a generated job up to labels, unless their hashes collide. -/
def HoldsGenerated (rawJobs raw : List (YamlValue × YamlValue)) (jobId : Text) (generated : YamlValue) : Prop :=
  ∃ job, entry jobId rawJobs = some job ∧
    ((∀ projection other, controlJobProjection job raw = .ok projection → controlJobProjection generated [] = .ok other →
      CollisionFree projection other) → GeneratedUpToLabels raw job generated)

theorem holdsGenerated {inputs : List AuthorityInput} {jobId : Text} {authority : WorkflowJobAuthority}
    {generated : YamlValue} (apart : distinctEntries raw) (jobsApart : distinctEntries rawJobs)
    (computed : jobAuthorities inputs rawJobs raw = .ok item.jobAuthorities)
    (found : item.authority jobId = some authority) (distinct : generated.distinct)
    (hashed : generatedHash generated = .ok authority.controlProjectionHash) :
    HoldsGenerated rawJobs raw jobId generated := by
  obtain ⟨job, listed, jobHashed⟩ := rawProjectionHash_eq_some (rawProjectionHash_of_authority computed found)
  refine ⟨job, listed, fun free => ?_⟩
  exact generatedUpToLabels_of_hash (distinct_entry jobsApart listed) apart distinct jobHashed (generatedHash_eq_ok hashed) free

/-- The control jobs of an accepted workflow are generated ones up to labels. -/
theorem controlPlane_generated {load : YamlLoader} {content : List Nat} {self : ProviderWorkflowInventory}
    (values : ∀ text document, load text = some document → document.2.distinct)
    (found : self.capability request.workflowPath = some item)
    (parsed : parseWorkflowCapability load content item.path item.revisionSha = some item)
    (accepted : self.admitsControlPlane lower request = .ok true) :
    ∃ root raw rawJobs candidates, (workflowText content).bind load = some (root, .dict raw) ∧
      entry (ascii "jobs") raw = some (.dict rawJobs) ∧
      admittedControlJobs lower request item.triggers = some candidates ∧ ∃ generated ∈ candidates,
        HoldsGenerated rawJobs raw request.invocationJobId generated.invocation ∧
        HoldsGenerated rawJobs raw request.planRequestJobId generated.planRequest ∧
        HoldsGenerated rawJobs raw request.planJobId generated.plan ∧
        HoldsGenerated rawJobs raw request.gateJobId generated.gate := by
  obtain ⟨root, loaded, composed, constructed⟩ := parseWorkflowCapability_eq_some parsed
  obtain ⟨raw, rawJobs, inputs, rfl, jobs, computed⟩ := workflowCapability_authorities constructed
  obtain ⟨text, _, loads⟩ := Option.bind_eq_some_iff.mp composed
  have apart : distinctEntries raw := (values text _ loads).2
  have jobsApart : distinctEntries rawJobs := (distinct_entry apart jobs).2
  obtain ⟨declared, candidates, declares, admitted, generated, member, hashed⟩ := admitsControlPlane_spec found accepted
  obtain ⟨invocation, invocationFound, declares⟩ := Option.bind_eq_some_iff.mp declares
  obtain ⟨planRequest, planRequestFound, declares⟩ := Option.bind_eq_some_iff.mp declares
  obtain ⟨plan, planFound, declares⟩ := Option.bind_eq_some_iff.mp declares
  obtain ⟨gate, gateFound, declares⟩ := Option.bind_eq_some_iff.mp declares
  cases declares
  obtain ⟨_, planRequestHashed, hashed⟩ := bind_eq_ok.mp hashed
  obtain ⟨_, invocationHashed, hashed⟩ := bind_eq_ok.mp hashed
  obtain ⟨_, planHashed, hashed⟩ := bind_eq_ok.mp hashed
  obtain ⟨_, gateHashed, hashed⟩ := bind_eq_ok.mp hashed
  cases hashed
  obtain ⟨invocationDistinct, planRequestDistinct, planDistinct, gateDistinct⟩ := distinct_admittedControlJobs admitted member
  refine ⟨root, raw, rawJobs, candidates, composed, jobs, admitted, generated, member, ?_, ?_, ?_, ?_⟩
  · exact holdsGenerated apart jobsApart computed invocationFound invocationDistinct invocationHashed
  · exact holdsGenerated apart jobsApart computed planRequestFound planRequestDistinct planRequestHashed
  · exact holdsGenerated apart jobsApart computed planFound planDistinct planHashed
  · exact holdsGenerated apart jobsApart computed gateFound gateDistinct gateHashed

/-- Hashes forget the labels of steps at every depth, and accepted control jobs are generated ones up to these labels. -/
theorem control_projection_forgets_labels :
    (∀ (first second : YamlValue) (firstWorkflow secondWorkflow : List (YamlValue × YamlValue)) (firstHash secondHash : Text),
      first.distinct → second.distinct → distinctEntries firstWorkflow → distinctEntries secondWorkflow →
      controlJobProjectionHash first firstWorkflow = some firstHash →
      controlJobProjectionHash second secondWorkflow = some secondHash →
      (∀ projection other, controlJobProjection first firstWorkflow = .ok projection →
        controlJobProjection second secondWorkflow = .ok other → CollisionFree projection other) →
      (firstHash = secondHash ↔ SameValue first.forgetJob second.forgetJob ∧
        SamePart (entry (ascii "defaults") firstWorkflow) (entry (ascii "defaults") secondWorkflow) ∧
        SamePart (entry (ascii "env") firstWorkflow) (entry (ascii "env") secondWorkflow))) ∧
    ∀ (load : YamlLoader) (content : List Nat) (inventory : ProviderWorkflowInventory) (capability : RevisionWorkflowCapability)
      (lower : Text → Text) (request : ControlPlaneRequest),
      (∀ text document, load text = some document → document.2.distinct) →
      inventory.capability request.workflowPath = some capability →
      parseWorkflowCapability load content capability.path capability.revisionSha = some capability →
      inventory.admitsControlPlane lower request = .ok true →
      ∃ root raw rawJobs candidates, (workflowText content).bind load = some (root, .dict raw) ∧
        entry (ascii "jobs") raw = some (.dict rawJobs) ∧
        admittedControlJobs lower request capability.triggers = some candidates ∧ ∃ generated ∈ candidates,
          HoldsGenerated rawJobs raw request.invocationJobId generated.invocation ∧
          HoldsGenerated rawJobs raw request.planRequestJobId generated.planRequest ∧
          HoldsGenerated rawJobs raw request.planJobId generated.plan ∧
          HoldsGenerated rawJobs raw request.gateJobId generated.gate := by
  constructor
  · intro first second firstWorkflow secondWorkflow firstHash secondHash firstDistinct secondDistinct firstApart secondApart
      firstDefined secondDefined free
    exact control_job_projection_hash_iff firstDistinct secondDistinct firstApart secondApart firstDefined secondDefined free
  · intro load content inventory capability lower request values found parsed accepted
    exact controlPlane_generated values found parsed accepted

end Admission

section Labels

variable (name : String)

/-- A job with a step of some name that checks out some revision. -/
def labelledJob (revision : CodePoint) : YamlValue :=
  yamlMapping [("name", yamlText name), ("steps", .list [yamlMapping [("name", yamlText name),
    ("uses", .str (ascii "actions/checkout@" ++ List.replicate 40 revision))]])]

def labelledProjection : Json :=
  .obj [(ascii "job", .obj [(ascii "steps", .arr [.obj [(ascii "uses",
    .str (ascii "actions/checkout@<immutable-git-object>"))]])])]

theorem distinct_labelledJob (revision : CodePoint) : (labelledJob name revision).distinct := by
  simp [labelledJob]

theorem labelled_projections : controlJobProjection (labelledJob "build" 0x61) [] = .ok labelledProjection ∧
    controlJobProjection (labelledJob "test" 0x62) [] = .ok labelledProjection :=
  ⟨rfl, rfl⟩

theorem labelled_jobs_share_hash : ∃ digest, controlJobProjectionHash (labelledJob "build" 0x61) [] = some digest ∧
    controlJobProjectionHash (labelledJob "test" 0x62) [] = some digest := by
  obtain ⟨digest, firstHash, _⟩ := controlJobProjectionHash_total labelled_projections.1 rfl
  have secondHash : controlJobProjectionHash (labelledJob "test" 0x62) [] = some digest := by
    rw [← firstHash, controlJobProjectionHash, controlJobProjectionHash, labelled_projections.1, labelled_projections.2]
  exact ⟨digest, firstHash, secondHash⟩

theorem labelled_jobs_collisionFree : ∀ projection other, controlJobProjection (labelledJob "build" 0x61) [] = .ok projection →
    controlJobProjection (labelledJob "test" 0x62) [] = .ok other → CollisionFree projection other := by
  intro projection other projected otherProjected
  cases projected
  cases otherProjected
  intro bytes otherBytes written otherWritten _
  exact Except.ok.inj (written.symm.trans otherWritten)

def isKey (name : Text) : YamlValue → Bool
  | .str key => key = name
  | _ => false

namespace Sample

mutual

/-- The nodes that a value is constructed from; the identities of the nodes in a node are in the interval of its own. -/
def nodeOf (low width : Nat) : YamlValue → YamlNode
  | .str value => .scalar low stringTag value
  | .int value => .scalar low (coreTagPrefix ++ ascii "int") (decimalInt value)
  | .bool value => .scalar low (coreTagPrefix ++ ascii "bool") (if value then ascii "true" else ascii "false")
  | .list items => .sequence low (coreTagPrefix ++ ascii "seq") (itemNodes (low + width / 64) (width / 64) items)
  | .dict entries => .mapping low (coreTagPrefix ++ ascii "map") (entryNodes (low + width / 64) (width / 64) entries)
  | .null => .scalar low (coreTagPrefix ++ ascii "null") []
  | .float _ => .scalar low (coreTagPrefix ++ ascii "float") (ascii ".inf")
  | .other => .scalar low (coreTagPrefix ++ ascii "timestamp") []

def itemNodes (low width : Nat) : List YamlValue → List YamlNode
  | [] => []
  | item :: rest => nodeOf low width item :: itemNodes (low + width) width rest

def entryNodes (low width : Nat) : List (YamlValue × YamlValue) → List (YamlNode × YamlNode)
  | [] => []
  | (key, value) :: rest =>
    (nodeOf low width key, nodeOf (low + width) width value) :: entryNodes (low + 2 * width) width rest

end

def revision : Text :=
  List.replicate 40 0x61

/-- An action at a revision in the place of its placeholder. -/
def atRevision : YamlValue → YamlValue
  | .str value =>
    .str (if immutableGitObject.isSuffixOf value then value.take (value.length - immutableGitObject.length) ++ 0x40 :: revision
    else value)
  | value => value

def labelStep (name : String) : YamlValue → YamlValue
  | .dict entries => .dict ((yamlText "name", yamlText name) :: entries.map fun pair => (pair.1, atRevision pair.2))
  | value => value

/-- A job under a name of its own, with steps that have names and actions at a revision. -/
def label (name : String) (needs : List String) : YamlValue → YamlValue
  | .dict entries => .dict ((yamlText "name", yamlText name) :: (yamlText "needs", .list (needs.map yamlText)) ::
      (entries.filter fun pair => !isKey (ascii "needs") pair.1).map fun pair => (pair.1, match pair.2 with
        | .list steps => .list (steps.map (labelStep name))
        | value => value))
  | value => value

def request : ControlPlaneRequest where
  workflowPath := ascii ".github/workflows/ci.yml"
  executionKind := nativeJobSet
  invocationJobId := ascii "invocation"
  planRequestJobId := ascii "request"
  planRequestWorkflowRef := ascii "./.github/workflows/request.yml"
  planJobId := ascii "plan"
  fallbackJobId := none
  gateJobId := ascii "gate"
  executionJobIds := [ascii "test"]

/-- The generated jobs of the request on a runner. -/
def generated (runner : Text) : ControlJobs YamlValue where
  invocation := invocationJob runner
  planRequest := planRequestJob (ascii "invocation") [ascii "push"] request.planRequestWorkflowRef false
  plan := planJob runner request.workflowPath nativeJobSet [ascii "test"] (ascii "request")
  gate := gateJob runner request.workflowPath nativeJobSet [ascii "test"] (ascii "plan") none

/-- The generated jobs, labelled. -/
def labelled : ControlJobs YamlValue :=
  let jobs := generated (ascii "ubuntu-24.04")
  ⟨label "Invocation" [] jobs.invocation, label "Request" ["invocation"] jobs.planRequest, label "Plan" ["request"] jobs.plan,
    label "Gate" ["plan", "test"] jobs.gate⟩

def testJob : YamlValue :=
  yamlMapping [("needs", yamlText "plan"), ("runs-on", yamlText "ubuntu-24.04"),
    ("steps", .list [yamlMapping [("run", yamlText "make test")]])]

/-- A workflow with the labelled control jobs around one job that runs the tests. -/
def rawJobs : List (YamlValue × YamlValue) :=
  [(yamlText "invocation", labelled.invocation), (yamlText "request", labelled.planRequest), (yamlText "plan", labelled.plan),
    (yamlText "test", testJob), (yamlText "gate", labelled.gate)]

def raw : List (YamlValue × YamlValue) :=
  [(yamlText "on", yamlText "push"), (yamlText "jobs", .dict rawJobs)]

def document : YamlNode :=
  nodeOf 0 (64 ^ 8) (.dict raw)

def load : YamlLoader :=
  fun _ => some (document, .dict raw)

def content : List Nat :=
  (ascii "on: push\n").utf8

theorem load_distinct (text : Text) (document : YamlNode × YamlValue) (loads : load text = some document) :
    document.2.distinct := by
  have distinct : (YamlValue.dict raw).distinct := by decide +kernel
  cases loads
  exact distinct

theorem document_valid : validateNodeGraph document = .ok () := by
  have ordered : ((document.heads 1).map fun head => head.identity).IsChain (· < ·) := by
    decide +kernel
  have distinct : ((document.heads 1).map fun head => head.identity).Nodup :=
    (List.isChain_iff_pairwise.mp ordered).imp Nat.ne_of_lt
  have bounded : ¬ (20000 < (document.heads 1).length ∨ ∃ head ∈ document.heads 1, 64 < head.depth) ∧
      ¬ ∃ head ∈ document.heads 1, coreTagPrefix.isPrefixOf head.tag = false := by
    decide +kernel
  have texts : forEach (fun (value : Text) => do
      let bytes ← ExecutionOrchestration.encodeUtf8 value
      valueErrorIf (65536 < bytes.length) (ascii "workflow scalar exceeds its bound"))
      ((document.heads 1).filterMap fun head => head.value) = .ok () := by
    decide +kernel
  simp only [validateNodeGraph, bind_unit_eq_ok, valueErrorIf, raiseIf_eq_ok, not_not]
  exact ⟨distinct, bounded.1, bounded.2, texts⟩

def selectorOn (jobId : Text) : WorkflowJobRunnerSelectorFields :=
  ⟨jobId, ⟨⟨[ascii "ubuntu-24.04"], none⟩, by decide +kernel⟩⟩

def projection : WorkflowNodeProjection where
  jobIds := [ascii "gate", ascii "invocation", ascii "plan", ascii "request", ascii "test"]
  jobNeeds := [(ascii "gate", [ascii "plan", ascii "test"]), (ascii "invocation", []), (ascii "plan", [ascii "request"]),
    (ascii "request", [ascii "invocation"]), (ascii "test", [ascii "plan"])]
  providerJobNames := [(ascii "gate", ascii "Gate"), (ascii "invocation", ascii "Invocation"), (ascii "plan", ascii "Plan")]
  alwaysJobIds := [ascii "gate"]
  triggers := [ascii "push"]
  localReusableWorkflowPaths := [ascii ".github/workflows/request.yml"]
  authorityInputs := [⟨ascii "gate", [], false⟩, ⟨ascii "invocation", [], false⟩, ⟨ascii "plan", [], false⟩,
    ⟨ascii "request", [ascii "github", ascii "needs"], false⟩, ⟨ascii "test", [], false⟩]
  declaresWorkflowEnvironment := false
  declaresWorkflowDefaults := false
  jobRunnerSelectors := [⟨selectorOn (ascii "gate"), by decide +kernel⟩, ⟨selectorOn (ascii "invocation"), by decide +kernel⟩,
    ⟨selectorOn (ascii "plan"), by decide +kernel⟩, ⟨selectorOn (ascii "test"), by decide +kernel⟩]

theorem document_projected : workflowNodeProjection document = .ok projection := by
  simp only [workflowNodeProjection, document_valid, ok_bind_eq]
  decide +kernel

/-- The bytes of a job that are hashed. -/
def projectionBytes (job : YamlValue) (workflow : List (YamlValue × YamlValue)) : Py (List Nat) := do
  let projection ← controlJobProjection job workflow
  canonicalJson projection none

theorem hash_of_bytes {job : YamlValue} {workflow : List (YamlValue × YamlValue)} {bytes : List Nat}
    (written : projectionBytes job workflow = .ok bytes) :
    controlJobProjectionHash job workflow = some (sha256Hex bytes) := by
  obtain ⟨projection, projected, written⟩ := bind_eq_ok.mp written
  simp only [controlJobProjectionHash, projected, hashObject, written, ok_bind_eq]
  rfl

/-- Jobs with the same bytes share a hash. -/
theorem shared_hash {job generated : YamlValue}
    (same : (projectionBytes generated []).isOk = true ∧ projectionBytes job raw = projectionBytes generated []) :
    ∃ digest, controlJobProjectionHash job raw = some digest ∧ generatedHash generated = .ok digest ∧
      isSha256Hex digest = true := by
  obtain ⟨returns, same⟩ := same
  cases written : projectionBytes generated [] with
  | error error => rw [written] at returns; cases returns
  | ok bytes =>
    exact ⟨sha256Hex bytes, hash_of_bytes (same.trans written), by rw [generatedHash, hash_of_bytes written],
      isSha256Hex_sha256Hex bytes⟩

/-- The hashes of the jobs of the workflow, which are those of the generated jobs. -/
structure Hashes where
  jobs : ControlJobs Text
  test : Text
  invocation : controlJobProjectionHash labelled.invocation raw = some jobs.invocation
  planRequest : controlJobProjectionHash labelled.planRequest raw = some jobs.planRequest
  plan : controlJobProjectionHash labelled.plan raw = some jobs.plan
  gate : controlJobProjectionHash labelled.gate raw = some jobs.gate
  tested : controlJobProjectionHash testJob raw = some test
  generates : generatedHashes (generated (ascii "ubuntu-24.04")) = .ok jobs
  formed : isSha256Hex jobs.invocation = true ∧ isSha256Hex jobs.planRequest = true ∧ isSha256Hex jobs.plan = true ∧
    isSha256Hex jobs.gate = true ∧ isSha256Hex test = true

theorem invocation_shared : ∃ digest, controlJobProjectionHash labelled.invocation raw = some digest ∧
    generatedHash (generated (ascii "ubuntu-24.04")).invocation = .ok digest ∧ isSha256Hex digest = true :=
  shared_hash (by decide +kernel)

theorem planRequest_shared : ∃ digest, controlJobProjectionHash labelled.planRequest raw = some digest ∧
    generatedHash (generated (ascii "ubuntu-24.04")).planRequest = .ok digest ∧ isSha256Hex digest = true :=
  shared_hash (by decide +kernel)

theorem plan_shared : ∃ digest, controlJobProjectionHash labelled.plan raw = some digest ∧
    generatedHash (generated (ascii "ubuntu-24.04")).plan = .ok digest ∧ isSha256Hex digest = true :=
  shared_hash (by decide +kernel)

theorem gate_shared : ∃ digest, controlJobProjectionHash labelled.gate raw = some digest ∧
    generatedHash (generated (ascii "ubuntu-24.04")).gate = .ok digest ∧ isSha256Hex digest = true :=
  shared_hash (by decide +kernel)

theorem exists_hashes : Nonempty Hashes := by
  obtain ⟨invocation, invocationHash, invocationGenerated, invocationFormed⟩ := invocation_shared
  obtain ⟨planRequest, planRequestHash, planRequestGenerated, planRequestFormed⟩ := planRequest_shared
  obtain ⟨plan, planHash, planGenerated, planFormed⟩ := plan_shared
  obtain ⟨gate, gateHash, gateGenerated, gateFormed⟩ := gate_shared
  have projected : controlJobProjection testJob raw = .ok (.obj [(ascii "job", .obj [(ascii "runs-on",
    .str (ascii "ubuntu-24.04")), (ascii "steps", .arr [.obj [(ascii "run", .str (ascii "make test"))]])])]) := rfl
  obtain ⟨test, testHash, testFormed⟩ := controlJobProjectionHash_total projected (by decide +kernel)
  refine ⟨⟨⟨invocation, planRequest, plan, gate⟩, test, invocationHash, planRequestHash, planHash, gateHash, testHash, ?_,
    invocationFormed, planRequestFormed, planFormed, gateFormed, testFormed⟩⟩
  simp only [generatedHashes, invocationGenerated, planRequestGenerated, planGenerated, gateGenerated, ok_bind_eq]
  rfl

theorem generatedHash_of_isOk {job : YamlValue} (returns : (projectionBytes job []).isOk = true) :
    ∃ digest, generatedHash job = .ok digest := by
  cases written : projectionBytes job [] with
  | error error => rw [written] at returns; cases returns
  | ok bytes => exact ⟨_, by rw [generatedHash, hash_of_bytes written]⟩

/-- The jobs for the other runner have hashes too. -/
theorem other_generates : ∃ hashes, generatedHashes (generated (ascii "ubuntu-26.04-arm")) = .ok hashes := by
  obtain ⟨planRequest, planRequestHash⟩ :=
    @generatedHash_of_isOk (generated (ascii "ubuntu-26.04-arm")).planRequest (by decide +kernel)
  obtain ⟨invocation, invocationHash⟩ :=
    @generatedHash_of_isOk (generated (ascii "ubuntu-26.04-arm")).invocation (by decide +kernel)
  obtain ⟨plan, planHash⟩ := @generatedHash_of_isOk (generated (ascii "ubuntu-26.04-arm")).plan (by decide +kernel)
  obtain ⟨gate, gateHash⟩ := @generatedHash_of_isOk (generated (ascii "ubuntu-26.04-arm")).gate (by decide +kernel)
  exact ⟨_, by simp only [generatedHashes, planRequestHash, invocationHash, planHash, gateHash, ok_bind_eq]; rfl⟩

namespace Hashes

variable (self : Hashes)

def authorities : List WorkflowJobAuthority :=
  [⟨⟨ascii "gate", self.jobs.gate, [], false⟩, authority_admitted (by decide) self.formed.2.2.2.1 (by decide)⟩,
    ⟨⟨ascii "invocation", self.jobs.invocation, [], false⟩, authority_admitted (by decide) self.formed.1 (by decide)⟩,
    ⟨⟨ascii "plan", self.jobs.plan, [], false⟩, authority_admitted (by decide) self.formed.2.2.1 (by decide)⟩,
    ⟨⟨ascii "request", self.jobs.planRequest, [ascii "github", ascii "needs"], false⟩,
      authority_admitted (by decide) self.formed.2.1 (by decide)⟩,
    ⟨⟨ascii "test", self.test, [], false⟩, authority_admitted (by decide) self.formed.2.2.2.2 (by decide)⟩]

theorem authorized : jobAuthorities projection.authorityInputs rawJobs raw = .ok self.authorities := by
  have keys : raw.all isTextKey = true := by decide
  have found : entry (ascii "gate") rawJobs = some labelled.gate ∧ entry (ascii "invocation") rawJobs = some labelled.invocation ∧
      entry (ascii "plan") rawJobs = some labelled.plan ∧ entry (ascii "request") rawJobs = some labelled.planRequest ∧
      entry (ascii "test") rawJobs = some testJob := ⟨rfl, rfl, rfl, rfl, rfl⟩
  simp only [jobAuthorities, projection, collect_cons, rawProjectionHash, keys, if_true, found, Option.bind_some, self.gate,
    self.invocation, self.plan, self.planRequest, self.tested, WorkflowJobAuthority.make]
  rw [construct_ok (authority_admitted (by decide) self.formed.2.2.2.1 (by decide)),
    construct_ok (authority_admitted (by decide) self.formed.1 (by decide)),
    construct_ok (authority_admitted (by decide) self.formed.2.2.1 (by decide)),
    construct_ok (authority_admitted (by decide) self.formed.2.1 (by decide)),
    construct_ok (authority_admitted (by decide) self.formed.2.2.2.2 (by decide))]
  have canonical : CanonicalTexts (self.authorities.map fun item => item.jobId) :=
    show CanonicalTexts projection.jobIds by decide
  exact sortedByText_of_canonical canonical

def item : RevisionWorkflowCapability where
  path := request.workflowPath
  revisionSha := revision
  jobIds := projection.jobIds
  jobNeeds := projection.jobNeeds
  providerJobNames := projection.providerJobNames
  alwaysJobIds := projection.alwaysJobIds
  triggers := projection.triggers
  localReusableWorkflowPaths := projection.localReusableWorkflowPaths
  jobAuthorities := self.authorities
  declaresWorkflowEnvironment := false
  declaresWorkflowDefaults := false
  jobRunnerSelectors := projection.jobRunnerSelectors
  admitted := by
    have ids : self.authorities.map (fun item => item.jobId) = projection.jobIds := rfl
    simp only [RevisionWorkflowCapabilityFields.postInit, ids, bind_unit_eq_ok, valueErrorIf, raiseIf_eq_ok]
    decide +kernel

theorem parsed : parseWorkflowCapability load content request.workflowPath revision = some self.item := by
  have text : (workflowText content).bind load = some (document, .dict raw) := rfl
  have jobs : entry (ascii "jobs") raw = some (.dict rawJobs) := rfl
  rw [parseWorkflowCapability, text, Option.bind_some]
  dsimp only
  rw [workflowCapability, document_projected, ok_bind_eq]
  dsimp only
  rw [jobs]
  dsimp only
  rw [self.authorized, ok_bind_eq]
  exact congrArg Except.toOption (construct_ok self.item.admitted)

/-- The inventory of the workflow alone admits its control jobs. -/
theorem accepted : ∃ inventory : ProviderWorkflowInventory, inventory.capability request.workflowPath = some self.item ∧
    inventory.admitsControlPlane Text.lower request = .ok true := by
  have admitted : (⟨revision, [], [self.item]⟩ : ProviderWorkflowInventoryFields).postInit = .ok () := by
    have sha : isGitObjectRevision revision = true := by decide
    have branches : requireSorted [] (ascii "default-branch workflow paths must be canonical") = .ok () := by decide
    have paths : requireSorted [request.workflowPath] (ascii "revision capability paths must be canonical") = .ok () := by
      decide +kernel
    simp [ProviderWorkflowInventoryFields.postInit, sha, branches, item, paths]
  have found : (⟨⟨revision, [], [self.item]⟩, admitted⟩ : ProviderWorkflowInventory).capability request.workflowPath =
      some self.item := by
    simp [ProviderWorkflowInventory.capability, item]
  refine ⟨_, found, ?_⟩
  have declared : declaredHashes self.item request = some self.jobs := rfl
  have candidates : admittedControlJobs Text.lower request self.item.triggers =
      some [generated (ascii "ubuntu-24.04"), generated (ascii "ubuntu-26.04-arm")] := rfl
  obtain ⟨other, otherGenerates⟩ := other_generates
  have sorted : sortedTexts [ascii "plan", ascii "test"] = .ok [ascii "plan", ascii "test"] := by decide
  have routes : admitsRoutes self.item request [ascii "plan", ascii "test"] = true := rfl
  have hashed : collect generatedHashes [generated (ascii "ubuntu-24.04"), generated (ascii "ubuntu-26.04-arm")] =
      .ok [self.jobs, other] := by
    rw [collect_cons, self.generates, ok_bind_eq, collect_cons, otherGenerates]
    rfl
  simp only [ProviderWorkflowInventory.admitsControlPlane, found, declared, candidates, hashed, ok_bind_eq]
  rw [if_neg (not_not.mpr mem_cons_self)]
  exact (congrArg (· >>= _) sorted).trans (congrArg Except.ok routes)

end Hashes

end Sample

/-- Jobs that differ in labels share a hash, and a labelled workflow is admitted as the generated one. -/
theorem control_projection_forgets_labels_admitted :
    (∃ digest, controlJobProjectionHash (labelledJob "build" 0x61) [] = some digest ∧
      controlJobProjectionHash (labelledJob "test" 0x62) [] = some digest ∧
      SameValue (labelledJob "build" 0x61).forgetJob (labelledJob "test" 0x62).forgetJob) ∧
    ∃ item candidates, parseWorkflowCapability Sample.load Sample.content Sample.request.workflowPath Sample.revision = some item ∧
      admittedControlJobs Text.lower Sample.request item.triggers = some candidates ∧ ∃ generated ∈ candidates,
        HoldsGenerated Sample.rawJobs Sample.raw (ascii "invocation") generated.invocation ∧
        HoldsGenerated Sample.rawJobs Sample.raw (ascii "request") generated.planRequest ∧
        HoldsGenerated Sample.rawJobs Sample.raw (ascii "plan") generated.plan ∧
        HoldsGenerated Sample.rawJobs Sample.raw (ascii "gate") generated.gate := by
  constructor
  · obtain ⟨digest, firstHash, secondHash⟩ := labelled_jobs_share_hash
    have agrees := control_projection_forgets_labels.1 _ _ [] [] digest digest (distinct_labelledJob "build" 0x61)
      (distinct_labelledJob "test" 0x62) trivial trivial firstHash secondHash labelled_jobs_collisionFree
    exact ⟨digest, firstHash, secondHash, (agrees.mp rfl).1⟩
  · obtain ⟨hashes⟩ := Sample.exists_hashes
    obtain ⟨inventory, found, accepted⟩ := hashes.accepted
    obtain ⟨root, raw, rawJobs, candidates, composed, jobs, listed, generated, member, invocation, planRequest, plan, gate⟩ :=
      control_projection_forgets_labels.2 Sample.load Sample.content inventory hashes.item Text.lower Sample.request
        Sample.load_distinct found hashes.parsed accepted
    have text : (workflowText Sample.content).bind Sample.load = some (Sample.document, .dict Sample.raw) := rfl
    cases text.symm.trans composed
    cases jobs
    exact ⟨hashes.item, candidates, hashes.parsed, listed, generated, member, invocation, planRequest, plan, gate⟩

/-- A step of a job without its labels; what is inside its values stays. -/
def forgetOwnStep : YamlValue → YamlValue
  | .dict entries => .dict ((entries.filter fun pair => !isKey (ascii "name") pair.1).map fun pair =>
    (pair.1, if isKey (ascii "uses") pair.1 then pair.2.forgetRevision else pair.2))
  | value => value

/-- A job without its name and needs and the labels of its own steps. -/
def forgetOwnLabels : YamlValue → YamlValue
  | .dict entries => .dict ((entries.filter fun pair => !isKey (ascii "name") pair.1 && !isKey (ascii "needs") pair.1).map
      fun pair => (pair.1, match isKey (ascii "steps") pair.1, pair.2 with
        | true, .list steps => .list (steps.map forgetOwnStep)
        | _, value => value))
  | value => value

/-- A job with a matrix that has a list of steps of its own. -/
def matrixJob : YamlValue :=
  yamlMapping [("strategy", yamlMapping [("matrix", yamlMapping [("steps",
    .list [yamlMapping [("name", yamlText name), ("run", yamlText "make")]])])])]

def matrixProjection : Json :=
  .obj [(ascii "job", .obj [(ascii "strategy", .obj [(ascii "matrix", .obj [(ascii "steps",
    .arr [.obj [(ascii "run", .str (ascii "make"))]])])])])]

/-- The names in a list of steps inside a matrix are forgotten, although they are not those of steps of the job. -/
theorem nested_steps_forgotten : ∃ digest, controlJobProjectionHash (matrixJob "build") [] = some digest ∧
    controlJobProjectionHash (matrixJob "test") [] = some digest ∧ (matrixJob "build").distinct ∧ (matrixJob "test").distinct ∧
    ¬ SameValue (forgetOwnLabels (matrixJob "build")) (forgetOwnLabels (matrixJob "test")) := by
  have first : controlJobProjection (matrixJob "build") [] = .ok matrixProjection := rfl
  have second : controlJobProjection (matrixJob "test") [] = .ok matrixProjection := rfl
  have distinct : ∀ name, (matrixJob name).distinct := by
    intro name
    simp [matrixJob]
  obtain ⟨digest, firstHash, _⟩ := controlJobProjectionHash_total first rfl
  refine ⟨digest, firstHash, ?_, distinct "build", distinct "test", ?_⟩
  · rw [← firstHash, controlJobProjectionHash, controlJobProjectionHash, first, second]
  · rw [SameValue]
    decide

end Labels

end CiCoordinator.RepoContext

import CiCoordinator.RepoContext.WorkflowSyntax
import Mathlib.Data.List.ReduceOption

/- The parsing of a workflow file and the admission of the gate that names it. -/

namespace CiCoordinator.RepoContext

open Library Kernel ProviderWorkflowInventory List

def WorkflowJobAuthority.make (fields : WorkflowJobAuthorityFields) : Py WorkflowJobAuthority :=
  construct fields.postInit fun admitted => ⟨fields, admitted⟩

def isTextKey (pair : YamlValue × YamlValue) : Bool :=
  match pair.1 with
  | .str _ => true
  | _ => false

/-- The hash of a job of the constructed values. -/
def rawProjectionHash (rawJobs rawWorkflow : List (YamlValue × YamlValue)) (jobId : Text) : Option Text :=
  if rawWorkflow.all isTextKey then (entry jobId rawJobs).bind fun rawJob => controlJobProjectionHash rawJob rawWorkflow
  else none

def jobAuthorities (inputs : List AuthorityInput) (rawJobs rawWorkflow : List (YamlValue × YamlValue)) :
    Py (List WorkflowJobAuthority) := do
  let authorities ← collect (fun (input : AuthorityInput) =>
      match rawProjectionHash rawJobs rawWorkflow input.jobId with
      | none => .error (.valueError (ascii "workflow control projection is invalid"))
      | some digest => WorkflowJobAuthority.make ⟨input.jobId, digest, input.contexts, input.declaresContinueOnError⟩) inputs
  sortedByText (fun item => item.jobId) authorities

def RevisionWorkflowCapability.make (fields : RevisionWorkflowCapabilityFields) : Py RevisionWorkflowCapability :=
  construct fields.postInit fun admitted => ⟨fields, admitted⟩

/-- The capability of a composed document and its constructed value. -/
def workflowCapability (root : YamlNode) (loaded : YamlValue) (path revisionSha : Text) : Py RevisionWorkflowCapability := do
  let projection ← workflowNodeProjection root
  match loaded with
  | .dict rawWorkflow =>
    match entry (ascii "jobs") rawWorkflow with
    | some (.dict rawJobs) => do
      let authorities ← jobAuthorities projection.authorityInputs rawJobs rawWorkflow
      RevisionWorkflowCapability.make {
        path, revisionSha, jobIds := projection.jobIds, jobNeeds := projection.jobNeeds,
        providerJobNames := projection.providerJobNames, alwaysJobIds := projection.alwaysJobIds,
        triggers := projection.triggers, localReusableWorkflowPaths := projection.localReusableWorkflowPaths,
        jobAuthorities := authorities, declaresWorkflowEnvironment := projection.declaresWorkflowEnvironment,
        declaresWorkflowDefaults := projection.declaresWorkflowDefaults,
        jobRunnerSelectors := projection.jobRunnerSelectors }
    | _ => .error (.valueError (ascii "workflow jobs must be a mapping"))
  | _ => .error (.valueError (ascii "workflow must be a mapping"))

/-- The YAML library composes a text into its nodes and constructs their value, or refuses the text. -/
abbrev YamlLoader := Text → Option (YamlNode × YamlValue)

/-- The text of a workflow file of bounded size. -/
def workflowText (content : List Nat) : Option Text :=
  if 262144 < content.length then none
  else (Text.decodeUtf8 content).filter fun text => text.head? ≠ some 0xFEFF ∧ 0 ∉ text

/-- Every refusal of a workflow file is the absence of its capability. -/
def parseWorkflowCapability (load : YamlLoader) (content : List Nat) (path revisionSha : Text) :
    Option RevisionWorkflowCapability :=
  ((workflowText content).bind load).bind fun document =>
    (workflowCapability document.1 document.2 path revisionSha).toOption

variable (self : ProviderWorkflowInventory)

/-- A static job, on the default branch where its activation is required. -/
def ProviderWorkflowInventory.jobAdmitted (workflowPath jobId : Text)
    (requireDefaultBranchActivation : Bool) : Bool :=
  if requireDefaultBranchActivation then self.admitsStaticJob workflowPath jobId
  else self.admitsRevisionStaticJob workflowPath jobId

/-- One exact gate that always runs after every protected dependency. -/
def ProviderWorkflowInventory.admitsStaticGate (workflowPath jobId jobName : Text)
    (requiredDependencies : List Text) (requireDefaultBranchActivation : Bool) : Py Bool :=
  if self.jobAdmitted workflowPath jobId requireDefaultBranchActivation = false then return false
  else
    match self.capability workflowPath with
    | none => .error (.runtimeError (ascii "StopIteration"))
    | some item =>
      match Dictionary.find jobId item.jobNeeds with
      | none => .error .keyError
      | some actualNeeds =>
        if requiredDependencies = [] then return false
        else do
          let sorted ← sortedTexts requiredDependencies
          return sorted = requiredDependencies ∧ (∀ dependency ∈ requiredDependencies, dependency ∈ item.jobIds) ∧
            requiredDependencies = actualNeeds ∧ jobId ∈ item.alwaysJobIds ∧
            (jobId, jobName) ∈ item.providerJobNames ∧
            (item.providerJobNames.filter fun observed => observed.2 = jobName).length = 1

/-- The name under which a job is displayed: its static name, or its id when it declares no name. -/
def displayName (jobId : Text) (fields : NodeFields) : Option Text :=
  match Dictionary.find (ascii "name") fields with
  | none => some jobId
  | some _ => (staticProviderJobName fields).toOption.join

/-- A job of a document under its id, with its fields. -/
def HasJob (jobs : NodeFields) (jobId : Text) (fields : NodeFields) : Prop :=
  ∃ node, (jobId, node) ∈ jobs ∧ jobFields node = .ok fields

/-- A gate needs exactly its dependencies, always runs, and no other job is displayed under its name. -/
structure UnambiguousGate (jobs : NodeFields) (jobId jobName : Text) (requiredDependencies : List Text) : Prop where
  gate : ∃ fields, HasJob jobs jobId fields ∧ isAlways fields = true ∧ staticProviderJobName fields = .ok (some jobName) ∧
    ∀ dependency, dependency ∈ requiredDependencies ↔
      ∃ node ∈ needNodes (Dictionary.find (ascii "needs") fields), node.text? = some dependency
  alone : ∀ other fields, HasJob jobs other fields → other ≠ jobId → displayName other fields ≠ some jobName

section Fields

variable {entries : List (YamlNode × YamlNode)} {fields : NodeFields}

theorem addField_spec {entry : YamlNode × YamlNode} {next : NodeFields} (added : addField fields entry = .ok next) :
    ∃ key, key ∉ fields.map Prod.fst ∧ next = fields ++ [(key, entry.2)] := by
  rw [addField] at added
  split at added
  · cases added
  · rename_i key found
    obtain ⟨_, _, added⟩ := bind_eq_ok.mp added
    obtain ⟨bytes, _, added⟩ := bind_eq_ok.mp added
    obtain ⟨_, admitted, returned⟩ := bind_eq_ok.mp added
    rw [raiseIf_eq_ok] at admitted
    cases returned
    exact ⟨key, fun listed => admitted (.inr listed), rfl⟩

/-- The fields of a mapping have different keys. -/
theorem nodup_mappingFields (returned : mappingFields entries = .ok fields) : (fields.map Prod.fst).Nodup := by
  have grow : ∀ (entries : List (YamlNode × YamlNode)) (start : NodeFields), (start.map Prod.fst).Nodup →
      foldSteps addField start entries = .ok fields → (fields.map Prod.fst).Nodup := by
    intro entries
    induction entries with
    | nil =>
      intro start distinct returned
      cases returned
      exact distinct
    | cons entry rest ih =>
      intro start distinct returned
      rw [foldSteps_cons] at returned
      obtain ⟨next, added, returned⟩ := bind_eq_ok.mp returned
      obtain ⟨key, fresh, rfl⟩ := addField_spec added
      refine ih _ ?_ returned
      rw [map_append, map_singleton]
      refine nodup_append.mpr ⟨distinct, nodup_singleton _, fun other listed same member equal => ?_⟩
      rw [equal, mem_singleton.mp member] at listed
      exact fresh listed
  exact grow entries [] nodup_nil returned

end Fields

/-- The projections of the jobs are those of the list that is returned. -/
theorem mem_projectJobs {A : Type} {project : Text → NodeFields → Py (Option A)} {identity : A → Text} {jobs : NodeFields}
    {results : List A} (returned : projectJobs project identity jobs = .ok results) {result : A} :
    result ∈ results ↔ ∃ jobId fields, HasJob jobs jobId fields ∧ project jobId fields = .ok (some result) := by
  obtain ⟨projected, computed, sorted⟩ := bind_eq_ok.mp returned
  obtain ⟨_, rfl⟩ := sortedByText_eq_ok.mp sorted
  rw [mem_sortBy, reduceOption_mem_iff]
  constructor
  · intro member
    obtain ⟨job, listed, once⟩ := exists_of_mem_collect computed member
    obtain ⟨fields, read, projects⟩ := bind_eq_ok.mp once
    exact ⟨job.1, fields, ⟨job.2, listed, read⟩, projects⟩
  · rintro ⟨jobId, fields, ⟨node, listed, read⟩, projects⟩
    obtain ⟨value, member, found⟩ := mem_collect_of_mem computed listed
    rw [read] at found
    have same : value = some result := Except.ok.inj (found.symm.trans projects)
    exact same ▸ member

/-- The needs of a job are the texts of the nodes that name them. -/
theorem mem_staticNeeds {node : Option YamlNode} {needs : List Text} (returned : staticNeeds node = .ok needs)
    {dependency : Text} : dependency ∈ needs ↔ ∃ need ∈ needNodes node, need.text? = some dependency := by
  have text : ∀ {need : YamlNode} {value : Text}, staticNeed need = .ok value → need.text? = some value := by
    intro need value read
    rw [staticNeed] at read
    split at read
    · cases read
    · rename_i found
      obtain ⟨_, _, read⟩ := bind_eq_ok.mp read
      obtain ⟨bytes, _, read⟩ := bind_eq_ok.mp read
      obtain ⟨_, _, read⟩ := bind_eq_ok.mp read
      cases read
      exact found
  obtain ⟨values, collected, returned⟩ := bind_eq_ok.mp returned
  obtain ⟨canonical, sorted, returned⟩ := bind_eq_ok.mp returned
  obtain ⟨_, _, returned⟩ := bind_eq_ok.mp returned
  cases returned
  rw [(sortedTexts_spec sorted).2]
  constructor
  · intro member
    obtain ⟨need, listed, read⟩ := exists_of_mem_collect collected member
    exact ⟨need, listed, text read⟩
  · rintro ⟨need, listed, found⟩
    obtain ⟨value, member, read⟩ := mem_collect_of_mem collected listed
    rw [text read] at found
    cases found
    exact member

section Gate

variable {root : YamlNode} {loaded : YamlValue} {path revisionSha : Text} {item : RevisionWorkflowCapability}

/-- A capability holds the projections of the jobs of its document. -/
theorem workflowCapability_spec (parsed : workflowCapability root loaded path revisionSha = .ok item) :
    ∃ rootFields jobs, documentJobs root = .ok (rootFields, jobs) ∧ jobNeeds jobs = .ok item.jobNeeds ∧
      providerJobNames jobs = .ok item.providerJobNames ∧ alwaysJobIds jobs = .ok item.alwaysJobIds := by
  obtain ⟨projection, projected, parsed⟩ := bind_eq_ok.mp parsed
  obtain ⟨_, _, projected⟩ := bind_eq_ok.mp projected
  obtain ⟨⟨rootFields, jobs⟩, document, projected⟩ := bind_eq_ok.mp projected
  dsimp only at projected
  split at projected
  · cases projected
  obtain ⟨jobIds, _, projected⟩ := bind_eq_ok.mp projected
  obtain ⟨needs, needed, projected⟩ := bind_eq_ok.mp projected
  obtain ⟨names, named, projected⟩ := bind_eq_ok.mp projected
  obtain ⟨always, conditioned, projected⟩ := bind_eq_ok.mp projected
  obtain ⟨_, _, projected⟩ := bind_eq_ok.mp projected
  obtain ⟨_, _, projected⟩ := bind_eq_ok.mp projected
  obtain ⟨_, _, projected⟩ := bind_eq_ok.mp projected
  obtain ⟨_, _, projected⟩ := bind_eq_ok.mp projected
  obtain ⟨_, _, projected⟩ := bind_eq_ok.mp projected
  cases projected
  split at parsed
  · split at parsed
    · obtain ⟨authorities, _, parsed⟩ := bind_eq_ok.mp parsed
      obtain ⟨_, rfl⟩ := construct_eq_ok.mp parsed
      exact ⟨rootFields, jobs, document, needed, named, conditioned⟩
    · cases parsed
  · cases parsed

theorem documentJobs_distinct {rootFields jobs : NodeFields} (document : documentJobs root = .ok (rootFields, jobs)) :
    (jobs.map Prod.fst).Nodup := by
  obtain ⟨fields, _, document⟩ := bind_eq_ok.mp document
  split at document
  · obtain ⟨read, mapped, document⟩ := bind_eq_ok.mp document
    cases document
    exact nodup_mappingFields mapped
  · cases document

/-- A job of a document is found under its id alone. -/
theorem HasJob.unique {jobs : NodeFields} {jobId : Text} {fields other : NodeFields} (distinct : (jobs.map Prod.fst).Nodup)
    (first : HasJob jobs jobId fields) (second : HasJob jobs jobId other) : fields = other := by
  obtain ⟨node, listed, read⟩ := first
  obtain ⟨_, otherListed, otherRead⟩ := second
  have same := inj_on_of_nodup_map distinct listed otherListed rfl
  cases same
  exact Except.ok.inj (read.symm.trans otherRead)

/-- A parsed capability is that of the composed document. -/
theorem parseWorkflowCapability_eq_some {load : YamlLoader} {content : List Nat}
    (parsed : parseWorkflowCapability load content path revisionSha = some item) :
    ∃ root loaded, (workflowText content).bind load = some (root, loaded) ∧
      workflowCapability root loaded path revisionSha = .ok item := by
  obtain ⟨⟨root, loaded⟩, composed, built⟩ := Option.bind_eq_some_iff.mp parsed
  refine ⟨root, loaded, composed, ?_⟩
  cases constructed : workflowCapability root loaded path revisionSha with
  | error error =>
    rw [constructed] at built
    cases built
  | ok other =>
    rw [constructed] at built
    cases built
    rfl

/-- What an accepted gate finds in the capability of its workflow. -/
theorem admitsStaticGate_spec {self : ProviderWorkflowInventory} {workflowPath jobId jobName : Text}
    {requiredDependencies : List Text} {activation : Bool} (found : self.capability workflowPath = some item)
    (accepted : self.admitsStaticGate workflowPath jobId jobName requiredDependencies activation = .ok true) :
    (jobId, requiredDependencies) ∈ item.jobNeeds ∧ jobId ∈ item.alwaysJobIds ∧ (jobId, jobName) ∈ item.providerJobNames ∧
      (item.providerJobNames.filter fun observed => observed.2 = jobName).length = 1 := by
  rw [admitsStaticGate, found] at accepted
  dsimp only at accepted
  split at accepted
  · cases accepted
  split at accepted
  · cases accepted
  rename_i actualNeeds needed
  split at accepted
  · cases accepted
  obtain ⟨sorted, _, accepted⟩ := bind_eq_ok.mp accepted
  have holds := of_decide_eq_true (Except.ok.inj accepted)
  obtain ⟨_, _, rfl, always, named, once⟩ := holds
  exact ⟨Dictionary.mem_of_find needed, always, named, once⟩

/-- A gate that is accepted is the only one with its name unless a job without a name has this name as its id. -/
theorem admits_static_gate_iff {load : YamlLoader} {content : List Nat} {self : ProviderWorkflowInventory}
    {workflowPath jobId jobName : Text} {requiredDependencies : List Text} {activation : Bool}
    (found : self.capability workflowPath = some item)
    (parsed : parseWorkflowCapability load content item.path item.revisionSha = some item)
    (accepted : self.admitsStaticGate workflowPath jobId jobName requiredDependencies activation = .ok true) :
    ∃ root loaded rootFields jobs, (workflowText content).bind load = some (root, loaded) ∧
      documentJobs root = .ok (rootFields, jobs) ∧
      (UnambiguousGate jobs jobId jobName requiredDependencies ↔
        ∀ fields, HasJob jobs jobName fields → jobName ≠ jobId → Dictionary.find (ascii "name") fields ≠ none) := by
  obtain ⟨root, loaded, composed, constructed⟩ := parseWorkflowCapability_eq_some parsed
  obtain ⟨rootFields, jobs, document, needs, names, always⟩ := workflowCapability_spec constructed
  have distinct := documentJobs_distinct document
  obtain ⟨needed, conditioned, named, once⟩ := admitsStaticGate_spec found accepted
  refine ⟨root, loaded, rootFields, jobs, composed, document, ?_⟩
  -- The three projections are about one job, since its id is found once.
  obtain ⟨_, fields, has, needsProject⟩ := (mem_projectJobs needs).mp needed
  obtain ⟨read, computed, needsProject⟩ := bind_eq_ok.mp needsProject
  obtain ⟨_, _, needsProject⟩ := bind_eq_ok.mp needsProject
  cases needsProject
  obtain ⟨_, conditionFields, conditionHas, conditionProject⟩ := (mem_projectJobs always).mp conditioned
  have runs : isAlways fields = true := by
    have projected := Except.ok.inj conditionProject
    split at projected
    · cases projected
      rwa [has.unique distinct conditionHas]
    · cases projected
  have displayed : ∀ other otherFields, HasJob jobs other otherFields →
      ((other, jobName) ∈ item.providerJobNames ↔ staticProviderJobName otherFields = .ok (some jobName)) := by
    intro other otherFields otherHas
    rw [mem_projectJobs names]
    constructor
    · rintro ⟨_, someFields, someHas, project⟩
      obtain ⟨name, static, project⟩ := bind_eq_ok.mp project
      obtain ⟨text, rfl, pair⟩ := Option.map_eq_some_iff.mp (Except.ok.inj project)
      cases pair
      rwa [otherHas.unique distinct someHas]
    · intro static
      exact ⟨other, otherFields, otherHas, by rw [static]; rfl⟩
  have gate := (displayed jobId fields has).mp named
  constructor
  · intro unambiguous otherFields otherHas apart unnamed
    refine unambiguous.alone jobName otherFields otherHas apart ?_
    rw [displayName, unnamed]
  · intro condition
    refine ⟨⟨fields, has, runs, gate, fun dependency => mem_staticNeeds computed⟩, fun other otherFields otherHas apart shown => ?_⟩
    rw [displayName] at shown
    split at shown
    · rename_i unnamed
      cases shown
      exact condition otherFields otherHas apart unnamed
    · have static : staticProviderJobName otherFields = .ok (some jobName) := by
        cases name : staticProviderJobName otherFields with
        | error error =>
          rw [name] at shown
          cases shown
        | ok value =>
          rw [name] at shown
          exact congrArg Except.ok shown
      have listed := (displayed other otherFields otherHas).mpr static
      obtain ⟨only, single⟩ := length_eq_one_iff.mp once
      have first : (jobId, jobName) ∈ [only] := single ▸ mem_filter.mpr ⟨named, by simp⟩
      have second : (other, jobName) ∈ [only] := single ▸ mem_filter.mpr ⟨listed, by simp⟩
      have same := (mem_singleton.mp second).trans (mem_singleton.mp first).symm
      exact apart (congrArg Prod.fst same)

end Gate

section Shadow

/-- A workflow whose gate has the name under which another job is displayed. -/
def shadowText : Text :=
  ascii "on: push\njobs:\n  test: \x7b\x7d\n  gate:\n    name: test\n    if: always()\n    needs: test\n"

def shadowScalar (identity : Nat) (value : String) : YamlNode :=
  .scalar identity stringTag (ascii value)

def shadowMapping (identity : Nat) (entries : List (YamlNode × YamlNode)) : YamlNode :=
  .mapping identity (coreTagPrefix ++ ascii "map") entries

def shadowJobs : NodeFields :=
  [(ascii "test", shadowMapping 6 []),
    (ascii "gate", shadowMapping 8 [(shadowScalar 9 "name", shadowScalar 10 "test"),
      (shadowScalar 11 "if", shadowScalar 12 "always()"), (shadowScalar 13 "needs", shadowScalar 14 "test")])]

def shadowRoot : YamlNode :=
  shadowMapping 0 [(shadowScalar 1 "on", shadowScalar 2 "push"),
    (shadowScalar 3 "jobs", shadowMapping 4 [(shadowScalar 5 "test", shadowMapping 6 []),
      (shadowScalar 7 "gate", shadowMapping 8 [(shadowScalar 9 "name", shadowScalar 10 "test"),
        (shadowScalar 11 "if", shadowScalar 12 "always()"), (shadowScalar 13 "needs", shadowScalar 14 "test")])])]

def shadowValue (value : String) : YamlValue :=
  .str (ascii value)

def shadowRawJobs : List (YamlValue × YamlValue) :=
  [(shadowValue "test", .dict []),
    (shadowValue "gate", .dict [(shadowValue "name", shadowValue "test"), (shadowValue "if", shadowValue "always()"),
      (shadowValue "needs", shadowValue "test")])]

def shadowRaw : List (YamlValue × YamlValue) :=
  [(shadowValue "on", shadowValue "push"), (shadowValue "jobs", .dict shadowRawJobs)]

def shadowLoad : YamlLoader := fun text =>
  if text = shadowText then some (shadowRoot, .dict shadowRaw) else none

def shadowPath : Text :=
  ascii ".github/workflows/ci.yml"

def shadowRevision : Text :=
  List.replicate 40 0x30

def shadowInputs : List AuthorityInput :=
  [⟨ascii "gate", [], false⟩, ⟨ascii "test", [], false⟩]

def shadowFields (authorities : List WorkflowJobAuthority) : RevisionWorkflowCapabilityFields where
  path := shadowPath
  revisionSha := shadowRevision
  jobIds := [ascii "gate", ascii "test"]
  jobNeeds := [(ascii "gate", [ascii "test"]), (ascii "test", [])]
  providerJobNames := [(ascii "gate", ascii "test")]
  alwaysJobIds := [ascii "gate"]
  triggers := [ascii "push"]
  localReusableWorkflowPaths := []
  jobAuthorities := authorities
  declaresWorkflowEnvironment := false
  declaresWorkflowDefaults := false
  jobRunnerSelectors := []

theorem shadow_document : documentJobs shadowRoot =
    .ok ([(ascii "on", shadowScalar 2 "push"), (ascii "jobs", shadowMapping 4 [(shadowScalar 5 "test", shadowMapping 6 []),
      (shadowScalar 7 "gate", shadowMapping 8 [(shadowScalar 9 "name", shadowScalar 10 "test"),
        (shadowScalar 11 "if", shadowScalar 12 "always()"), (shadowScalar 13 "needs", shadowScalar 14 "test")])])], shadowJobs) :=
  rfl

theorem shadow_projected : workflowNodeProjection shadowRoot = .ok {
    jobIds := [ascii "gate", ascii "test"], jobNeeds := [(ascii "gate", [ascii "test"]), (ascii "test", [])],
    providerJobNames := [(ascii "gate", ascii "test")], alwaysJobIds := [ascii "gate"], triggers := [ascii "push"],
    localReusableWorkflowPaths := [], authorityInputs := shadowInputs, declaresWorkflowEnvironment := false,
    declaresWorkflowDefaults := false, jobRunnerSelectors := [] } :=
  rfl

/-- An admissible projection has a hash. -/
theorem controlJobProjectionHash_total {job : YamlValue} {workflow : List (YamlValue × YamlValue)} {projection : Json}
    (projected : controlJobProjection job workflow = .ok projection) (passed : admissible projection = true) :
    ∃ digest, controlJobProjectionHash job workflow = some digest ∧ isSha256Hex digest = true := by
  obtain ⟨digest, hashed, hexadecimal⟩ := hashObject_total passed
  exact ⟨digest, by rw [controlJobProjectionHash, projected, ok_bind_eq, hashed]; rfl, hexadecimal⟩

theorem authority_admitted {jobId digest : Text} {contexts : List Text} (nonempty : jobId ≠ [])
    (hexadecimal : isSha256Hex digest = true)
    (canonical : requireCanonicalText contexts (ascii "job condition contexts") true = .ok ()) :
    (⟨jobId, digest, contexts, false⟩ : WorkflowJobAuthorityFields).postInit = .ok () := by
  simp [WorkflowJobAuthorityFields.postInit, nonempty, hexadecimal, canonical]

theorem authority_total {jobId digest : Text} (nonempty : jobId ≠ []) (hexadecimal : isSha256Hex digest = true) :
    ∃ authority, WorkflowJobAuthority.make ⟨jobId, digest, [], false⟩ = .ok authority ∧ authority.jobId = jobId := by
  have admitted := authority_admitted nonempty hexadecimal (show requireCanonicalText [] _ true = .ok () by decide)
  exact ⟨⟨_, admitted⟩, construct_ok admitted, rfl⟩

theorem shadow_authorities : ∃ authorities, jobAuthorities shadowInputs shadowRawJobs shadowRaw = .ok authorities ∧
    authorities.map (·.jobId) = [ascii "gate", ascii "test"] := by
  have gateProjected : controlJobProjection (.dict [(shadowValue "name", shadowValue "test"),
      (shadowValue "if", shadowValue "always()"), (shadowValue "needs", shadowValue "test")]) shadowRaw =
      .ok (.obj [(ascii "job", .obj [(ascii "if", .str (ascii "always()"))])]) := rfl
  have testProjected : controlJobProjection (.dict []) shadowRaw = .ok (.obj [(ascii "job", .obj [])]) := rfl
  have gateNonempty : ascii "gate" ≠ [] := by decide
  have testNonempty : ascii "test" ≠ [] := by decide
  obtain ⟨gate, gateHashed, gateHexadecimal⟩ := controlJobProjectionHash_total gateProjected rfl
  obtain ⟨test, testHashed, testHexadecimal⟩ := controlJobProjectionHash_total testProjected rfl
  obtain ⟨first, firstMade, firstId⟩ := authority_total gateNonempty gateHexadecimal
  obtain ⟨second, secondMade, secondId⟩ := authority_total testNonempty testHexadecimal
  have gateFound : rawProjectionHash shadowRawJobs shadowRaw (ascii "gate") = some gate := gateHashed
  have testFound : rawProjectionHash shadowRawJobs shadowRaw (ascii "test") = some test := testHashed
  refine ⟨[first, second], ?_, by simp [firstId, secondId]⟩
  have canonical : CanonicalTexts ([first, second].map (·.jobId)) := by
    rw [map_cons, map_cons, firstId, secondId]
    decide
  rw [jobAuthorities, shadowInputs]
  simp only [collect_cons, gateFound, testFound, firstMade, secondMade, ok_bind_eq]
  exact sortedByText_of_canonical canonical

theorem shadow_admitted {authorities : List WorkflowJobAuthority}
    (ids : authorities.map (·.jobId) = [ascii "gate", ascii "test"]) :
    (shadowFields authorities).postInit = .ok () := by
  have path : requireWorkflowPath shadowPath (ascii "path must identify a bounded workflow file") = .ok () := by decide
  have revision : isGitObjectRevision shadowRevision = true := by decide
  have jobs : requireCanonicalText [ascii "gate", ascii "test"] (ascii "job_ids") false = .ok () := by decide
  have needs : requireJobNeeds [(ascii "gate", [ascii "test"]), (ascii "test", [])] [ascii "gate", ascii "test"] = .ok () := by
    decide
  have names : requireProviderJobNames [(ascii "gate", ascii "test")] [ascii "gate", ascii "test"] = .ok () := by decide
  have always : requireCanonicalText [ascii "gate"] (ascii "always_job_ids") true = .ok () := by decide
  have triggers : requireCanonicalText [ascii "push"] (ascii "triggers") false = .ok () := by decide
  have calls : requireSorted [] (ascii "local reusable workflow paths must be canonical") = .ok () := by decide
  have selectors : requireSorted [] (ascii "workflow runner selectors must be canonical known jobs") = .ok () := by decide
  simp [RevisionWorkflowCapabilityFields.postInit, shadowFields, path, revision, jobs, needs, names, always, triggers, calls,
    selectors, ids]

/-- The capability that the shadowed workflow is parsed to. -/
theorem shadow_parsed : ∃ item : RevisionWorkflowCapability,
    parseWorkflowCapability shadowLoad shadowText.utf8 shadowPath shadowRevision = some item ∧
      ∃ authorities, item.toRevisionWorkflowCapabilityFields = shadowFields authorities := by
  obtain ⟨authorities, authorized, ids⟩ := shadow_authorities
  refine ⟨⟨shadowFields authorities, shadow_admitted ids⟩, ?_, authorities, rfl⟩
  have text : workflowText shadowText.utf8 = some shadowText := by decide
  have load : shadowLoad shadowText = some (shadowRoot, .dict shadowRaw) := if_pos rfl
  have jobs : entry (ascii "jobs") shadowRaw = some (.dict shadowRawJobs) := rfl
  rw [parseWorkflowCapability, text, Option.bind_some, load, Option.bind_some]
  dsimp only
  rw [workflowCapability, shadow_projected, ok_bind_eq]
  dsimp only
  rw [jobs]
  dsimp only
  rw [authorized, ok_bind_eq]
  exact congrArg Except.toOption (construct_ok (shadow_admitted ids))

/-- An inventory of the shadowed workflow alone accepts its gate. -/
theorem shadow_accepted {item : RevisionWorkflowCapability} {authorities : List WorkflowJobAuthority}
    (fields : item.toRevisionWorkflowCapabilityFields = shadowFields authorities) :
    ∃ inventory : ProviderWorkflowInventory, inventory.capability shadowPath = some item ∧
      inventory.admitsStaticGate shadowPath (ascii "gate") (ascii "test") [ascii "test"] false = .ok true := by
  have path : item.path = shadowPath := by rw [fields]; rfl
  have revision : item.revisionSha = shadowRevision := by rw [fields]; rfl
  have admitted : (⟨shadowRevision, [], [item]⟩ : ProviderWorkflowInventoryFields).postInit = .ok () := by
    have sha : isGitObjectRevision shadowRevision = true := by decide
    have branches : requireSorted [] (ascii "default-branch workflow paths must be canonical") = .ok () := by decide
    have paths : requireSorted [shadowPath] (ascii "revision capability paths must be canonical") = .ok () := by decide
    simp [ProviderWorkflowInventoryFields.postInit, sha, branches, paths, path, revision]
  have found : (⟨⟨shadowRevision, [], [item]⟩, admitted⟩ : ProviderWorkflowInventory).capability shadowPath = some item := by
    simp [ProviderWorkflowInventory.capability, path]
  refine ⟨_, found, ?_⟩
  have job : (⟨⟨shadowRevision, [], [item]⟩, admitted⟩ : ProviderWorkflowInventory).jobAdmitted shadowPath (ascii "gate") false =
      true := by
    simp [jobAdmitted, admitsRevisionStaticJob, found, fields, shadowFields]
  have sorted : sortedTexts [ascii "test"] = .ok [ascii "test"] := by decide
  have needs : Dictionary.find (ascii "gate") item.jobNeeds = some [ascii "test"] := by rw [fields]; rfl
  have checked : decide ([ascii "test"] = [ascii "test"] ∧ (∀ dependency ∈ [ascii "test"], dependency ∈ item.jobIds) ∧
      [ascii "test"] = [ascii "test"] ∧ ascii "gate" ∈ item.alwaysJobIds ∧
      (ascii "gate", ascii "test") ∈ item.providerJobNames ∧
      (item.providerJobNames.filter fun observed => observed.2 = ascii "test").length = 1) = true := by
    rw [fields]
    exact rfl
  rw [admitsStaticGate, job, found]
  dsimp only
  rw [needs]
  dsimp only
  rw [if_neg (by decide), if_neg (by decide), sorted]
  exact congrArg Except.ok checked

/-- The gate of the shadowed workflow is accepted, although a job without a name is displayed under its name. -/
theorem shadowed_gate_accepted : ∃ (item : RevisionWorkflowCapability) (inventory : ProviderWorkflowInventory),
    parseWorkflowCapability shadowLoad shadowText.utf8 item.path item.revisionSha = some item ∧
      inventory.capability shadowPath = some item ∧
      inventory.admitsStaticGate shadowPath (ascii "gate") (ascii "test") [ascii "test"] false = .ok true ∧
      (∃ rootFields, documentJobs shadowRoot = .ok (rootFields, shadowJobs)) ∧
      ¬ UnambiguousGate shadowJobs (ascii "gate") (ascii "test") [ascii "test"] := by
  obtain ⟨item, parsed, authorities, fields⟩ := shadow_parsed
  obtain ⟨inventory, found, accepted⟩ := shadow_accepted fields
  have path : item.path = shadowPath := by rw [fields]; rfl
  have revision : item.revisionSha = shadowRevision := by rw [fields]; rfl
  refine ⟨item, inventory, by rw [path, revision]; exact parsed, found, accepted, ⟨_, shadow_document⟩, fun unambiguous => ?_⟩
  have other : HasJob shadowJobs (ascii "test") [] := ⟨shadowMapping 6 [], mem_cons_self, rfl⟩
  exact unambiguous.alone (ascii "test") [] other (by decide) rfl

theorem admits_static_gate_shadowed : ∃ (item : RevisionWorkflowCapability) (inventory : ProviderWorkflowInventory),
    inventory.capability shadowPath = some item ∧
      inventory.admitsStaticGate shadowPath (ascii "gate") (ascii "test") [ascii "test"] false = .ok true ∧
      ∃ root loaded rootFields jobs, (workflowText shadowText.utf8).bind shadowLoad = some (root, loaded) ∧
        documentJobs root = .ok (rootFields, jobs) ∧
        (UnambiguousGate jobs (ascii "gate") (ascii "test") [ascii "test"] ↔
          ∀ fields, HasJob jobs (ascii "test") fields → ascii "test" ≠ ascii "gate" →
            Dictionary.find (ascii "name") fields ≠ none) := by
  obtain ⟨item, parsed, authorities, fields⟩ := shadow_parsed
  obtain ⟨inventory, found, accepted⟩ := shadow_accepted fields
  have path : item.path = shadowPath := by rw [fields]; rfl
  have revision : item.revisionSha = shadowRevision := by rw [fields]; rfl
  refine ⟨item, inventory, found, accepted, ?_⟩
  exact admits_static_gate_iff found (by rw [path, revision]; exact parsed) accepted

end Shadow

end CiCoordinator.RepoContext

import CiCoordinator.ExecutionOrchestration.AdapterBundle
import CiCoordinator.Kernel.PathPatterns
import CiCoordinator.RepoContext.ControlProjection
import CiCoordinator.RepoContext.WorkflowInventory

/- The projection of a workflow document to what admission may depend on. -/

namespace CiCoordinator.RepoContext

open Library Kernel
open ExecutionOrchestration (encodeUtf8)

/-- A node of a composed document; an alias repeats the identity of its anchor. -/
inductive YamlNode where
  | scalar (identity : Nat) (tag value : Text)
  | sequence (identity : Nat) (tag : Text) (items : List YamlNode)
  | mapping (identity : Nat) (tag : Text) (entries : List (YamlNode × YamlNode))

def coreTagPrefix : Text :=
  ascii "tag:yaml.org,2002:"

def stringTag : Text :=
  coreTagPrefix ++ ascii "str"

def expressionMark : Text :=
  ascii "$\x7b\x7b"

/-- The value of a scalar that is a string. -/
def YamlNode.text? : YamlNode → Option Text
  | .scalar _ tag value => if tag = stringTag then some value else none
  | _ => none

/-- A node without its children, as the bounds of a document see it. -/
structure NodeHead where
  identity : Nat
  tag : Text
  value : Option Text
  depth : Nat

mutual

def YamlNode.heads (depth : Nat) : YamlNode → List NodeHead
  | .scalar identity tag value => [⟨identity, tag, some value, depth⟩]
  | .sequence identity tag items => ⟨identity, tag, none, depth⟩ :: itemHeads (depth + 1) items
  | .mapping identity tag entries => ⟨identity, tag, none, depth⟩ :: entryHeads (depth + 1) entries

def itemHeads (depth : Nat) : List YamlNode → List NodeHead
  | [] => []
  | item :: rest => item.heads depth ++ itemHeads depth rest

def entryHeads (depth : Nat) : List (YamlNode × YamlNode) → List NodeHead
  | [] => []
  | (key, value) :: rest => key.heads depth ++ (value.heads depth ++ entryHeads depth rest)

end

variable (root : YamlNode)

/-- The bounds of a document; a node that is met again is an alias. -/
def validateNodeGraph : Py Unit := do
  let heads := root.heads 1
  valueErrorIf (¬ (heads.map fun head => head.identity).Nodup) (ascii "workflow aliases are not admitted")
  valueErrorIf (20000 < heads.length ∨ ∃ head ∈ heads, 64 < head.depth) (ascii "workflow structure exceeds its bound")
  valueErrorIf (∃ head ∈ heads, coreTagPrefix.isPrefixOf head.tag = false) (ascii "workflow contains a custom YAML tag")
  forEach (fun (value : Text) => do
      let bytes ← encodeUtf8 value
      valueErrorIf (65536 < bytes.length) (ascii "workflow scalar exceeds its bound"))
    (heads.filterMap fun head => head.value)

abbrev NodeFields := List (Text × YamlNode)

variable (fields : NodeFields)

/-- One more field of a mapping, under a key that is a bounded string and new. -/
def addField (entry : YamlNode × YamlNode) : Py NodeFields :=
  match entry.1.text? with
  | none => .error (.valueError (ascii "workflow mapping keys must be strings"))
  | some key => do
    valueErrorIf (key = []) (ascii "workflow mapping key is invalid or duplicated")
    let bytes ← encodeUtf8 key
    valueErrorIf (128 < bytes.length ∨ key ∈ fields.map Prod.fst) (ascii "workflow mapping key is invalid or duplicated")
    return fields ++ [(key, entry.2)]

def mappingFields (entries : List (YamlNode × YamlNode)) : Py NodeFields :=
  foldSteps addField [] entries

/-- The fields of a node that must be a mapping. -/
def requireMapping (message : Text) : YamlNode → Py NodeFields
  | .mapping _ _ entries => mappingFields entries
  | _ => .error (.valueError message)

def jobFields : YamlNode → Py NodeFields :=
  requireMapping (ascii "workflow job declaration must be a mapping")

/-- A projection of every job, in the order of the job ids. -/
def projectJobs {A : Type} (project : Text → NodeFields → Py (Option A)) (identity : A → Text) (jobs : NodeFields) :
    Py (List A) := do
  let projected ← collect (fun (job : Text × YamlNode) => do
      let fields ← jobFields job.2
      project job.1 fields) jobs
  sortedByText identity projected.reduceOption

variable (node : YamlNode)

def scalarText (fieldName : Text) (maximumBytes : Nat) : Py Text :=
  match node.text? with
  | none => .error (.valueError (fieldName ++ ascii " must be bounded static text"))
  | some value => do
    valueErrorIf (value = []) (fieldName ++ ascii " must be bounded static text")
    let bytes ← encodeUtf8 value
    valueErrorIf (maximumBytes < bytes.length) (fieldName ++ ascii " must be bounded static text")
    return value

def triggerId : Py Text :=
  match node.text? with
  | none => .error (.valueError (ascii "workflow trigger must be a string"))
  | some value => do
    valueErrorIf (value = []) (ascii "workflow trigger is invalid")
    let bytes ← encodeUtf8 value
    valueErrorIf (128 < bytes.length) (ascii "workflow trigger is invalid")
    return value

def triggerIds : YamlNode → Py (List Text)
  | .sequence _ _ items => collect triggerId items
  | .mapping _ _ entries => do
    let fields ← mappingFields entries
    return fields.map Prod.fst
  | node => do
    let trigger ← triggerId node
    return [trigger]

/-- The nodes that name the jobs which a job needs. -/
def needNodes : Option YamlNode → List YamlNode
  | none => []
  | some (.sequence _ _ items) => items
  | some node => [node]

def staticNeed : Py Text :=
  match node.text? with
  | none => .error (.valueError (ascii "workflow job dependency must be a static job id"))
  | some value => do
    valueErrorIf (value = []) (ascii "workflow job dependency must be a static job id")
    let bytes ← encodeUtf8 value
    valueErrorIf (128 < bytes.length ∨ expressionMark <:+: value)
      (ascii "workflow job dependency must be a static job id")
    return value

def staticNeeds (node : Option YamlNode) : Py (List Text) := do
  let values ← collect staticNeed (needNodes node)
  let canonical ← sortedTexts values
  valueErrorIf (canonical.length ≠ values.length) (ascii "workflow job dependencies must be unique")
  return canonical

variable (jobs : NodeFields)

def jobNeeds : Py (List (Text × List Text)) :=
  projectJobs (fun jobId fields => do
      let needs ← staticNeeds (Dictionary.find (ascii "needs") fields)
      valueErrorIf (∃ dependency ∈ needs, dependency ∉ jobs.map Prod.fst)
        (ascii "workflow job depends on an unknown static job")
      return some (jobId, needs)) Prod.fst jobs

def declaresMatrix : Option YamlNode → Py Bool
  | none => .ok false
  | some (.mapping _ _ entries) => do
    let fields ← mappingFields entries
    return (Dictionary.find (ascii "matrix") fields).isSome
  | some _ => .ok true

/-- The name of a job that the provider shows as it is written. -/
def staticProviderJobName : Py (Option Text) :=
  match Dictionary.find (ascii "name") fields with
  | none => .ok none
  | some node =>
    if (Dictionary.find (ascii "uses") fields).isSome then .ok none
    else do
      let matrix ← declaresMatrix (Dictionary.find (ascii "strategy") fields)
      if matrix then return none
      match node.text? with
      | none => return none
      | some name =>
        if name = [] then return none
        else do
          let bytes ← encodeUtf8 name
          return if 256 < bytes.length ∨ expressionMark <:+: name then none else some name

def providerJobNames : Py (List (Text × Text)) :=
  projectJobs (fun jobId fields => do
      let name ← staticProviderJobName fields
      return name.map fun text => (jobId, text)) Prod.fst jobs

/-- The conditions that always hold. -/
def alwaysConditions : List Text :=
  [ascii "always()", expressionMark ++ ascii " always() \x7d\x7d"]

def isAlways : Bool :=
  match (Dictionary.find (ascii "if") fields).bind YamlNode.text? with
  | none => false
  | some value => alwaysConditions.contains value

def alwaysJobIds : Py (List Text) :=
  projectJobs (fun jobId fields => .ok (if isAlways fields then some jobId else none)) id jobs

/-- The text of a runner label or group, if it is static. -/
def staticRunnerText : Option Text :=
  node.text?.filter fun value => value ≠ [] ∧ ¬ expressionMark <:+: value

def staticRunnerLabels : Option YamlNode → Option (List Text)
  | some (.scalar identity tag value) => (staticRunnerText (.scalar identity tag value)).map fun label => [label]
  | some (.sequence _ _ items) => if items = [] then none else items.mapM staticRunnerText
  | _ => none

def staticNodeSelector : Option YamlNode → Py (Option StaticRunnerSelector)
  | some (.mapping _ _ entries) => do
    let fields ← mappingFields entries
    let group := Dictionary.find (ascii "group") fields
    if fields = [] ∨ ∃ field ∈ fields, field.1 ∉ [ascii "group", ascii "labels"] then return none
    let labels := match Dictionary.find (ascii "labels") fields with
      | none => some []
      | some node => staticRunnerLabels (some node)
    match labels with
    | none => return none
    | some labels =>
      if group.isSome ∧ group.bind staticRunnerText = none then return none
      else staticRunnerSelector labels (group.bind staticRunnerText)
  | node =>
    match staticRunnerLabels node with
    | none => .ok none
    | some labels => staticRunnerSelector labels none

def WorkflowJobRunnerSelector.make (jobId : Text) (selector : StaticRunnerSelector) : Py WorkflowJobRunnerSelector :=
  construct (WorkflowJobRunnerSelectorFields.postInit ⟨jobId, selector⟩) fun admitted => ⟨⟨jobId, selector⟩, admitted⟩

def jobRunnerSelectors : Py (List WorkflowJobRunnerSelector) :=
  projectJobs (fun jobId fields => do
      let selector ← staticNodeSelector (Dictionary.find (ascii "runs-on") fields)
      match selector with
      | none => return none
      | some selector =>
        let item ← WorkflowJobRunnerSelector.make jobId selector
        return some item) (fun item => item.jobId) jobs

variable (point : CodePoint)

def isAlphanumeric : Bool :=
  point.isLetter || point.isDigit

variable (value : Text)

def githubOwner : Bool :=
  1 ≤ value.length && value.length ≤ 39 && (value.all fun point => isAlphanumeric point || point = 0x2D) &&
    value.head?.any isAlphanumeric && value.getLast?.any isAlphanumeric

def githubRepository : Bool :=
  1 ≤ value.length && value.length ≤ 100 &&
    value.all fun point => isAlphanumeric point || point = 0x5F || point = 0x2E || point = 0x2D

def githubObjectId : Bool :=
  value.length = 40 && value.all CodePoint.isLowerHex

/-- A name on one line, and the digest of what it names. -/
def containerDigest : Bool :=
  let digest := value.drop (value.length - 72)
  73 ≤ value.length && !(value.take (value.length - 72)).contains 0x0A && digest.take 8 = ascii "@sha256:" &&
    (digest.drop 8).all CodePoint.isLowerHex

/-- The text before and after the last mark of a revision. -/
def splitRevision : Option (Text × Text) :=
  let parts := value.splitOn 0x40
  if parts.length = 1 then none else some (List.intercalate [0x40] parts.dropLast, parts.getLastD [])

def immutableExternalWorkflow : Py Bool :=
  match splitRevision value with
  | none => .ok false
  | some (target, revision) =>
    match target.splitOn 0x2F with
    | owner :: repository :: first :: rest =>
      if githubOwner owner && githubRepository repository then do
        let path ← isWorkflowPath (List.intercalate [0x2F] (first :: rest))
        return path && githubObjectId revision
      else .ok false
    | _ => .ok false

/-- The local workflow that a job calls. -/
def localReusableWorkflowPath (uses : YamlNode) : Py (Option Text) :=
  match uses.text? with
  | none => .error (.valueError (ascii "reusable workflow target must be static bounded text"))
  | some value => do
    valueErrorIf (value = []) (ascii "reusable workflow target must be static bounded text")
    let bytes ← encodeUtf8 value
    valueErrorIf (512 < bytes.length ∨ expressionMark <:+: value)
      (ascii "reusable workflow target must be static bounded text")
    if (ascii "./").isPrefixOf value || (ascii "$/").isPrefixOf value then do
      requireWorkflowPath (value.drop 2) (ascii "local reusable workflow target is invalid")
      return some (value.drop 2)
    else do
      let immutable ← immutableExternalWorkflow value
      valueErrorIf (immutable = false) (ascii "external reusable workflow target must use an immutable revision")
      return none

def localReusableWorkflowPaths : Py (List Text) := do
  let paths ← collect (fun (job : Text × YamlNode) => do
      let fields ← jobFields job.2
      match Dictionary.find (ascii "uses") fields with
      | none => return none
      | some uses => localReusableWorkflowPath uses) jobs
  sortedTexts paths.reduceOption

/-- An image that is named by its digest. -/
def requireImmutableImage (fieldName message : Text) (image : YamlNode) : Py Unit := do
  let value ← scalarText image fieldName 512
  valueErrorIf (expressionMark <:+: value ∨ containerDigest value = false) message

def requireImmutableContainer : Option YamlNode → Py Unit
  | none => .ok ()
  | some (.mapping _ _ entries) => do
    let fields ← mappingFields entries
    match Dictionary.find (ascii "image") fields with
    | none => .error (.valueError (ascii "workflow container must declare an image"))
    | some image =>
      requireImmutableImage (ascii "workflow container image")
        (ascii "workflow container image must use an immutable digest") image
  | some image =>
    requireImmutableImage (ascii "workflow container image")
      (ascii "workflow container image must use an immutable digest") image

def requireImmutableServices : Option YamlNode → Py Unit
  | none => .ok ()
  | some services => do
    let declared ← requireMapping (ascii "workflow services must be a mapping") services
    forEach (fun (service : Text × YamlNode) => do
        let fields ← requireMapping (ascii "workflow service must be a mapping") service.2
        match Dictionary.find (ascii "image") fields with
        | none => .error (.valueError (ascii "workflow service must declare an image"))
        | some image =>
          requireImmutableImage (ascii "workflow service image")
            (ascii "workflow service image must use an immutable digest") image) declared

def requireExplicitJobSecrets : Option YamlNode → Py Unit
  | none => .ok ()
  | some (.mapping _ _ _) => .ok ()
  | some _ => .error (.valueError (ascii "workflow job secrets must use an explicit mapping"))

def dotSegments : List Text :=
  [[], ascii ".", ascii ".."]

/-- The action of a step is local, a container by digest or an external one at a revision. -/
def requireStepAction (uses : YamlNode) : Py Unit := do
  let value ← scalarText uses (ascii "workflow action reference") 512
  valueErrorIf (expressionMark <:+: value) (ascii "workflow action reference must be static")
  if (ascii "./").isPrefixOf value || (ascii "$/").isPrefixOf value then
    let path := value.drop 2
    valueErrorIf (path.contains 0x5C = true ∨ ((ascii "$/").isPrefixOf value && path.contains 0x40) = true ∨
      (path.splitOn 0x2F).any dotSegments.contains = true) (ascii "local workflow action path is invalid")
  else if (ascii "docker://").isPrefixOf value then
    valueErrorIf (containerDigest (value.drop 9) = false) (ascii "container action must use an immutable digest")
  else
    match splitRevision value with
    | none => .error (.valueError (ascii "external workflow action must use an immutable revision"))
    | some (target, revision) =>
      match target.splitOn 0x2F with
      | owner :: repository :: rest =>
        valueErrorIf (githubOwner owner = false ∨ githubRepository repository = false ∨
          (rest.any fun part => dotSegments.contains part || part.contains 0x5C) = true ∨
          githubObjectId revision = false)
          (ascii "external workflow action must use an immutable revision")
      | _ => .error (.valueError (ascii "external workflow action must use an immutable revision"))

/-- Whether a step hides its failure; its action is checked. -/
def stepContinues (step : YamlNode) : Py Bool := do
  let fields ← requireMapping (ascii "workflow step must be a mapping") step
  match Dictionary.find (ascii "uses") fields with
  | none => return (Dictionary.find (ascii "continue-on-error") fields).isSome
  | some uses => do
    requireStepAction uses
    return (Dictionary.find (ascii "continue-on-error") fields).isSome

def stepsContinue : Option YamlNode → Py Bool
  | none => .ok false
  | some (.sequence _ _ steps) => do
    let continues ← collect stepContinues steps
    return continues.any id
  | some _ => .error (.valueError (ascii "workflow steps must be a sequence"))

/-- Quoted text and its quotes are blanked. -/
def withoutSingleQuotedStrings : Bool → Text → Text
  | _, [] => []
  | true, 0x27 :: 0x27 :: rest => 0x20 :: 0x20 :: withoutSingleQuotedStrings true rest
  | inside, point :: rest =>
    if point = 0x27 then 0x20 :: withoutSingleQuotedStrings (!inside) rest
    else (if inside then 0x20 else point) :: withoutSingleQuotedStrings inside rest

def isContextPoint : Bool :=
  isAlphanumeric point || point = 0x5F || point = 0x2D

/-- A context does not start after the characters of another one or after a dot. -/
def isContextMark : Bool :=
  isContextPoint point || point = 0x2E

/-- The names that are followed by a dot or a bracket. -/
def dereferencedContexts : Nat → Bool → Text → List Text
  | 0, _, _ => []
  | _, _, [] => []
  | fuel + 1, marked, point :: rest =>
    if !marked && (point.isLetter || point = 0x5F) then
      match ((rest.dropWhile isContextPoint).dropWhile isWhitespace) with
      | mark :: after =>
        if mark = 0x2E ∨ mark = 0x5B then
          (point :: rest.takeWhile isContextPoint) :: dereferencedContexts fuel (isContextMark mark) after
        else dereferencedContexts fuel (isContextMark point) rest
      | [] => dereferencedContexts fuel (isContextMark point) rest
    else dereferencedContexts fuel (isContextMark point) rest

def bareContextNames : List Text :=
  [ascii "github", ascii "env", ascii "vars", ascii "job", ascii "jobs", ascii "steps", ascii "runner", ascii "secrets",
    ascii "strategy", ascii "matrix", ascii "needs", ascii "inputs"]

/-- The whole words that name a context. -/
def bareContexts : Nat → Bool → Text → List Text
  | 0, _, _ => []
  | _, _, [] => []
  | fuel + 1, marked, point :: rest =>
    let word : Text := (point :: rest).takeWhile isContextPoint
    if !marked && bareContextNames.contains word.lower then
      word :: bareContexts fuel true ((point :: rest).dropWhile isContextPoint)
    else bareContexts fuel (isContextMark point) rest

def expressionContexts : Py (List Text) :=
  let code := withoutSingleQuotedStrings false value
  sortedTexts ((dereferencedContexts code.length false code ++ bareContexts code.length false code).map Text.lower)

/-- What the authority of a job depends on. -/
structure AuthorityInput where
  jobId : Text
  contexts : List Text
  declaresContinueOnError : Bool
  deriving DecidableEq

def jobAuthorityInputs : Py (List AuthorityInput) :=
  projectJobs (fun jobId fields => do
      requireImmutableContainer (Dictionary.find (ascii "container") fields)
      requireImmutableServices (Dictionary.find (ascii "services") fields)
      requireExplicitJobSecrets (Dictionary.find (ascii "secrets") fields)
      let continues ← stepsContinue (Dictionary.find (ascii "steps") fields)
      let condition ← collect (fun node => scalarText node (ascii "workflow job condition") 4096)
        (Dictionary.find (ascii "if") fields).toList
      let contexts ← expressionContexts condition.flatten
      return some ⟨jobId, contexts, (Dictionary.find (ascii "continue-on-error") fields).isSome || continues⟩)
    (fun item => item.jobId) jobs

/-- What is projected from the nodes of a document before its values are constructed. -/
structure WorkflowNodeProjection where
  jobIds : List Text
  jobNeeds : List (Text × List Text)
  providerJobNames : List (Text × Text)
  alwaysJobIds : List Text
  triggers : List Text
  localReusableWorkflowPaths : List Text
  authorityInputs : List AuthorityInput
  declaresWorkflowEnvironment : Bool
  declaresWorkflowDefaults : Bool
  jobRunnerSelectors : List WorkflowJobRunnerSelector
  deriving DecidableEq

/-- The fields of a document and of its jobs. -/
def documentJobs : Py (NodeFields × NodeFields) := do
  let rootFields ← requireMapping (ascii "workflow root must be a mapping") root
  match Dictionary.find (ascii "jobs") rootFields with
  | some (.mapping _ _ entries) => do
    let jobs ← mappingFields entries
    return (rootFields, jobs)
  | _ => .error (.valueError (ascii "workflow jobs and triggers are required"))

def workflowNodeProjection : Py WorkflowNodeProjection := do
  validateNodeGraph root
  let (rootFields, jobs) ← documentJobs root
  match Dictionary.find (ascii "on") rootFields with
  | none => .error (.valueError (ascii "workflow jobs and triggers are required"))
  | some triggers => do
    let jobIds ← sortedTexts (jobs.map Prod.fst)
    let needs ← jobNeeds jobs
    let names ← providerJobNames jobs
    let always ← alwaysJobIds jobs
    let triggers ← triggerIds triggers
    let triggers ← sortedTexts triggers
    let paths ← localReusableWorkflowPaths jobs
    let inputs ← jobAuthorityInputs jobs
    let selectors ← jobRunnerSelectors jobs
    return {
      jobIds, jobNeeds := needs, providerJobNames := names, alwaysJobIds := always, triggers,
      localReusableWorkflowPaths := paths, authorityInputs := inputs,
      declaresWorkflowEnvironment := (Dictionary.find (ascii "env") rootFields).isSome,
      declaresWorkflowDefaults := (Dictionary.find (ascii "defaults") rootFields).isSome,
      jobRunnerSelectors := selectors }

end CiCoordinator.RepoContext

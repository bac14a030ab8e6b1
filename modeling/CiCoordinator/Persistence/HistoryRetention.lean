import CiCoordinator.Persistence.HistoryArchive
import Mathlib.Data.Prod.Lex

/- The expiry of the details of an archive and the review of their retention. -/

namespace CiCoordinator.Persistence

open Library Kernel ConfigControl CiEconomics

def detailBytes (row : HistoryDetailRow) : Nat :=
  row.detailCanonical.length

/-- The usage that the deletion of details gives back. -/
def releasedUsage (canonicalBytes : Nat) : Py HistoryUsage :=
  HistoryUsage.make 0 0 0 canonicalBytes

variable (archive : HistoryArchive) (dataset : HistoryDataset)

/-- A dataset gives back the bytes of its deleted details. -/
def releaseDetails (bytes : Nat) :
    Py (HistoryArchive × HistoryDataset) := do
  let removed ← releasedUsage bytes
  let usage ← dataset.usage.release removed
  let changed ← advanceDataset dataset usage
  let written ← writeHistoryDataset archive dataset changed
  return (written, changed)

/-- The rows of the attempts of a dataset. -/
def ArchiveKey.InDataset (key : ArchiveKey) (dataset : HistoryDataset) : Prop :=
  key.scope = dataset.scope ∧ key.generation = dataset.generation

instance (key : ArchiveKey) (dataset : HistoryDataset) : Decidable (key.InDataset dataset) :=
  inferInstanceAs (Decidable (_ ∧ _))

variable (row : HistoryAttemptRow)

/-- The order in which expired details are deleted. -/
def expiryOrder : Nat ×ₗ Int ×ₗ Int :=
  toLex (((row.retention.expiresAt.map Instant.micros).getD 0), toLex (row.key.workflowRunId, row.key.runAttempt))

/-- The first details of a dataset that have expired. -/
def expiredDetails (now : Instant) (limit : Nat) :
    List HistoryAttemptRow :=
  (sortBy expiryOrder (archive.attempts.filter fun row => decide (row.key.InDataset dataset ∧
    row.retention.state = .retained ∧ ∃ deadline ∈ row.retention.expiresAt, deadline ≤ now))).take limit

/-- The state column of a retention is set without its other columns. -/
def ArchiveDetailRetention.markExpired (retention : ArchiveDetailRetention) : ArchiveDetailRetention :=
  match ArchiveDetailRetention.make { retention.toArchiveDetailRetentionFields with state := .expired } with
  | .ok expired => expired
  | .error _ => retention

/-- The deleted details are the ones of the given keys. -/
def deletedDetails (keys : List ArchiveKey) : List HistoryDetailRow :=
  archive.details.filter fun row => decide (row.key ∈ keys)

def requireExpired (now : Instant) : Py Unit := do
  let successor ← expireArchiveDetail row.retention now
  valueErrorIf (row.retention.state ≠ .retained ∨ successor.state ≠ .expired)
    (ascii "history detail expiry projection disagrees with its policy")

def maxHistoryDetailCleanup : Nat :=
  100

/-- The details of one scope expire in one savepoint; the answer counts them. -/
def expireHistoryDetailsInScope (scope : RepositoryScope) (now : Instant) (limit : Nat) :
    Py (HistoryArchive × Nat) := do
  valueErrorIf (¬ (1 ≤ limit ∧ limit ≤ maxHistoryDetailCleanup))
    (ascii "history detail cleanup requires a bounded positive limit")
  match archive.datasetOf scope with
  | none => return (archive, 0)
  | some dataset =>
    if dataset.state ≠ .active ∧ dataset.state ≠ .paused then return (archive, 0)
    else
      let rows := expiredDetails archive dataset now limit
      if rows = [] then return (archive, 0)
      else
        forEach (fun row => requireExpired row now) rows
        let keys := rows.map HistoryAttemptRow.key
        let removed := deletedDetails archive keys
        valueErrorIf (¬ (∀ key ∈ keys, ∃ row ∈ removed, row.key = key) ∨ ∃ row ∈ removed, detailBytes row = 0)
          (ascii "retained history detail has no stored payload")
        let locked := archive.attempts.filter fun row => decide (row.key ∈ keys ∧ row.retention.state = .retained)
        raiseIf (locked.length ≠ keys.length) (.runtimeError (ascii "history detail expiry lost its locked parents"))
        let (written, _) ← releaseDetails
          { archive with
            details := deleteWhere (fun row => row.key ∈ keys) archive.details
            attempts := updateWhere (fun row => row.key ∈ keys ∧ row.retention.state = .retained)
              (fun row => { row with retention := ArchiveDetailRetention.markExpired row.retention }) archive.attempts }
          dataset (removed.map detailBytes).sum
        return (written, rows.length)

inductive RetentionAction where
  | applyPolicy
  | eraseDetails
  deriving DecidableEq

def RetentionAction.text : RetentionAction → Text
  | .applyPolicy => ascii "apply_policy"
  | .eraseDetails => ascii "erase_details"

/-- An attempt of a selection is named by its run and its number. -/
@[ext] structure HistoryAttemptKey where
  workflowRunId : Int
  runAttempt : Int
  admitted : ObservationPositiveId workflowRunId ∧ ObservationPositiveId runAttempt

instance : DecidableEq HistoryAttemptKey :=
  fun _ _ => decidable_of_iff' _ HistoryAttemptKey.ext_iff

def HistoryAttemptKey.order (key : HistoryAttemptKey) : Int ×ₗ Int :=
  toLex (key.workflowRunId, key.runAttempt)

/-- The details that a retention is applied to; the cutoff is given as a text with the instant that it stands for. -/
structure HistoryRetentionSelection where
  scope : RepositoryScope
  generation : Int
  configurationRevision : Int
  dataRevision : Int
  defaultRevision : Int
  importedThroughText : Text
  importedThrough : Instant
  action : RetentionAction
  keys : List HistoryAttemptKey
  bounded : 1 ≤ keys.length ∧ keys.length ≤ 100
  ordered : Increasing HistoryAttemptKey.order keys
  deriving DecidableEq

def HistoryAttemptKey.canonicalMapping (key : HistoryAttemptKey) : Json :=
  .obj [(ascii "workflowRunId", .int key.workflowRunId), (ascii "runAttempt", .int key.runAttempt)]

def HistoryRetentionSelection.canonicalMapping (self : HistoryRetentionSelection) : Json :=
  .obj [(ascii "installationId", .int self.scope.installationId), (ascii "repositoryId", .int self.scope.repositoryId),
    (ascii "generation", .int self.generation), (ascii "configurationRevision", .int self.configurationRevision),
    (ascii "dataRevision", .int self.dataRevision), (ascii "defaultRevision", .int self.defaultRevision),
    (ascii "importedThrough", .str self.importedThroughText), (ascii "action", .str self.action.text),
    (ascii "keys", .arr (self.keys.map HistoryAttemptKey.canonicalMapping))]

def HistoryRetentionSelection.archiveKey (self : HistoryRetentionSelection) (key : HistoryAttemptKey) : ArchiveKey :=
  ⟨self.scope, self.generation, key.workflowRunId, key.runAttempt⟩

/-- A retention as its readers see it. -/
structure HistoryDetailView where
  state : ArchiveDetailState
  firstImportedAt : Option Instant
  expiresAt : Option Instant
  appliedPolicy : Option DetailRetentionPolicy
  reference : Option DetailPolicyReference
  deriving DecidableEq

def policyMapping : DetailRetentionPolicy → Json
  | .disabled => .obj [(ascii "mode", .str (ascii "disabled"))]
  | .forever => .obj [(ascii "mode", .str (ascii "forever"))]
  | .days count _ => .obj [(ascii "mode", .str (ascii "days")), (ascii "days", .int count),
      (ascii "anchor", .str (ascii "first_successful_detail_import"))]

def DetailPolicySource.text : DetailPolicySource → Text
  | .serviceDefault => ascii "service_default"
  | .repositoryOverride => ascii "repository_override"

def HistoryDetailView.canonicalMapping (self : HistoryDetailView) : Json :=
  .obj [(ascii "state", .str self.state.text),
    (ascii "firstImportedAt", nullable (fun instant => .str (wireInstant instant)) self.firstImportedAt),
    (ascii "expiresAt", nullable (fun instant => .str (wireInstant instant)) self.expiresAt),
    (ascii "appliedPolicy", nullable policyMapping self.appliedPolicy),
    (ascii "policySource", nullable (fun reference => .str (DetailPolicySource.text reference.source)) self.reference),
    (ascii "policyRevision", nullable (fun reference => .int reference.revision) self.reference),
    (ascii "content", .str (if self.state = .retained then ascii "unavailable_format" else self.state.text))]

/-- A reader sees a detail as expired from its deadline on. -/
def readHistoryDetail (prior : ArchiveDetailRetention) (now : Instant) : Py HistoryDetailView := do
  valueErrorIf (∃ applied ∈ prior.applied, now < applied.firstImportedAt)
    (ascii "archive detail import postdates observation")
  let retention ← expireArchiveDetail prior now
  return ⟨retention.state, retention.applied.map AppliedRetention.firstImportedAt, retention.expiresAt,
    retention.applied.map AppliedRetention.policy, retention.applied.map AppliedRetention.reference⟩

structure HistoryRetentionEffect where
  key : HistoryAttemptKey
  before : HistoryDetailView
  after : HistoryDetailView
  payloadBytes : Nat
  deletePayload : Bool
  deriving DecidableEq

def HistoryRetentionEffect.canonicalMapping (self : HistoryRetentionEffect) : Json :=
  .obj [(ascii "key", self.key.canonicalMapping), (ascii "before", self.before.canonicalMapping),
    (ascii "after", self.after.canonicalMapping), (ascii "payloadBytes", .int self.payloadBytes),
    (ascii "deletePayload", .bool self.deletePayload)]

structure HistoryRetentionPreview where
  selection : HistoryRetentionSelection
  effects : List HistoryRetentionEffect
  releasedBytes : Nat
  deletedDetails : Nat
  deriving DecidableEq

variable (preview : HistoryRetentionPreview)

/-- A preview refuses effects that do not add up or that renew an import. -/
def HistoryRetentionPreview.make : Py HistoryRetentionPreview := do
  raiseIf (∃ effect ∈ preview.effects, maxHistoryStatisticsBytes < effect.payloadBytes) .validationError
  raiseIf (¬ (1 ≤ preview.effects.length ∧ preview.effects.length ≤ 100) ∨ 838860800 < preview.releasedBytes ∨
      100 < preview.deletedDetails) .validationError
  raiseIf (preview.effects.map HistoryRetentionEffect.key ≠ preview.selection.keys) .validationError
  raiseIf (preview.releasedBytes ≠ ((preview.effects.filter HistoryRetentionEffect.deletePayload).map
      HistoryRetentionEffect.payloadBytes).sum ∨
      preview.deletedDetails ≠ (preview.effects.filter HistoryRetentionEffect.deletePayload).length) .validationError
  raiseIf (∃ effect ∈ preview.effects, effect.before.firstImportedAt ≠ effect.after.firstImportedAt) .validationError
  return preview

def HistoryRetentionPreview.canonicalMapping (self : HistoryRetentionPreview) : Json :=
  .obj [(ascii "selection", self.selection.canonicalMapping),
    (ascii "effects", .arr (self.effects.map HistoryRetentionEffect.canonicalMapping)),
    (ascii "releasedBytes", .int self.releasedBytes), (ascii "deletedDetails", .int self.deletedDetails),
    (ascii "statisticsPreserved", .bool true)]

/-- The retention that an action leads to. -/
def retentionSuccessor (action : RetentionAction) (prior : ArchiveDetailRetention) (policy : DetailRetentionPolicy)
    (reference : DetailPolicyReference) (now : Instant) : Py ArchiveDetailRetention :=
  match action with
  | .eraseDetails =>
    if prior.state = .retained then
      ArchiveDetailRetention.make { prior.toArchiveDetailRetentionFields with state := .expired }
    else .ok prior
  | .applyPolicy => applyDetailPolicy prior policy reference now

variable (selection : HistoryRetentionSelection)

/-- The effect of a retention on one attempt with the retention that it leads to. -/
def retentionEffect (policy : DetailRetentionPolicy)
    (reference : DetailPolicyReference) (now : Instant) (key : HistoryAttemptKey) (row : HistoryAttemptRow)
    (existing : Option HistoryDetailRow) : Py (HistoryRetentionEffect × ArchiveDetailRetention) := do
  let prior := row.retention
  valueErrorIf (¬ (prior.state = .retained ↔ existing ≠ none)) (ascii "retention parent and child disagree")
  let successor ← retentionSuccessor selection.action prior policy reference now
  let before ← readHistoryDetail prior now
  let after ← readHistoryDetail successor now
  return (⟨key, before, after, (existing.map detailBytes).getD 0,
    decide (prior.state = .retained ∧ successor.state = .expired)⟩, successor)

/-- An attempt that was imported after the cutoff is not selected. -/
def importedAfter (cutoff : Instant) : Prop :=
  cutoff < row.firstImportedAt ∨ ∃ applied ∈ row.retention.applied, cutoff < applied.firstImportedAt

instance (row : HistoryAttemptRow) (cutoff : Instant) : Decidable (importedAfter row cutoff) :=
  inferInstanceAs (Decidable (_ ∨ ∃ applied ∈ row.retention.applied, _))

/-- The effects are computed in the order of the selection, and a late import ends the review. -/
def retentionEffects (archive : HistoryArchive) (selection : HistoryRetentionSelection) (policy : DetailRetentionPolicy)
    (reference : DetailPolicyReference) (now : Instant) :
    List (HistoryAttemptKey × HistoryAttemptRow) → Py (Option (List (HistoryRetentionEffect × ArchiveDetailRetention)))
  | [] => .ok (some [])
  | (key, row) :: rest =>
    if importedAfter row selection.importedThrough then .ok none
    else do
      let effect ← retentionEffect selection policy reference now key row (archive.detailOf row.key)
      let effects ← retentionEffects archive selection policy reference now rest
      return effects.map fun others => effect :: others

/-- The rows of a selection, or none when one of them is missing. -/
def selectedRows : Option (List HistoryAttemptRow) :=
  selection.keys.mapM fun key => archive.attemptOf (selection.archiveKey key)

def matchesSelection (selection : HistoryRetentionSelection) : Prop :=
  dataset.scope = selection.scope ∧ (dataset.state = .active ∨ dataset.state = .paused) ∧
    dataset.generation = selection.generation ∧ dataset.configurationRevision = selection.configurationRevision ∧
    dataset.dataRevision = selection.dataRevision

instance (dataset : HistoryDataset) (selection : HistoryRetentionSelection) : Decidable (matchesSelection dataset selection) :=
  inferInstanceAs (Decidable (_ ∧ _ ∧ _ ∧ _ ∧ _))

/-- The review of a retention with the retentions that it leads to. -/
def previewRetention (defaults : HistoryDefaults) (selection : HistoryRetentionSelection)
    (dataset : HistoryDataset) (now : Instant) :
    Py (Option (HistoryRetentionPreview × List ArchiveDetailRetention)) := do
  if defaults.revision ≠ selection.defaultRevision ∨ now < selection.importedThrough then
    return none
  else
    valueErrorIf (now < max defaults.updatedAt dataset.configuredAt)
      (ascii "retention observation precedes configuration")
    let (policy, reference) := dataset.resolveDetailPolicy defaults
    match selectedRows archive selection with
    | none => return none
    | some rows => do
      let computed ← retentionEffects archive selection policy reference now (selection.keys.zip rows)
      match computed with
      | none => return none
      | some computed => do
        let effects := computed.map Prod.fst
        let deleted := effects.filter HistoryRetentionEffect.deletePayload
        let preview ← HistoryRetentionPreview.make
          ⟨selection, effects, (deleted.map HistoryRetentionEffect.payloadBytes).sum, deleted.length⟩
        return some (preview, computed.map Prod.snd)

structure ApplyHistoryRetention where
  selection : HistoryRetentionSelection
  reviewedDigest : Text
  operationId : Text
  actor : Text
  deriving DecidableEq

namespace ApplyHistoryRetention

def canonicalMapping (self : ApplyHistoryRetention) : Json :=
  .obj [(ascii "selection", self.selection.canonicalMapping), (ascii "reviewedDigest", .str self.reviewedDigest),
    (ascii "operationId", .str self.operationId), (ascii "actor", .str self.actor)]

def commandDigest (self : ApplyHistoryRetention) : Py Text :=
  hashObject self.canonicalMapping

end ApplyHistoryRetention

/-- The audit event of a retention that has been applied. -/
structure RetentionReceipt where
  scope : RepositoryScope
  operationId : Text
  commandDigest : Text
  actor : Text
  preview : HistoryRetentionPreview
  dataRevision : Int
  deriving DecidableEq

inductive HistoryRetentionOutcome where
  | committed
  | replayed
  | revisionConflict
  | operationConflict
  | reviewConflict
  deriving DecidableEq

/-- The result of a repeated operation is the one of its receipt. -/
def replayRetention (command : ApplyHistoryRetention) (current : Option HistoryDataset) (receipt : RetentionReceipt) :
    Py HistoryRetentionOutcome := do
  let digest ← command.commandDigest
  if receipt.commandDigest ≠ digest ∨ receipt.actor ≠ command.actor then
    return .operationConflict
  else
    let review ← hashObject receipt.preview.canonicalMapping
    valueErrorIf (receipt.preview.selection ≠ command.selection ∨ review ≠ command.reviewedDigest ∨
        receipt.dataRevision ≠ command.selection.dataRevision + 1 ∨
        ¬ ∃ dataset ∈ current, receipt.dataRevision ≤ dataset.dataRevision)
      (ascii "retention receipt contradicts its command or dataset")
    return .replayed

/-- The details that a review deletes. -/
def deletedKeys : List ArchiveKey :=
  (preview.effects.filter HistoryRetentionEffect.deletePayload).map fun effect => preview.selection.archiveKey effect.key

/-- The retention of an attempt of the selection becomes its successor. -/
def retentionOf (successors : List ArchiveDetailRetention) (row : HistoryAttemptRow) :
    HistoryAttemptRow :=
  match (preview.selection.keys.zip successors).find? fun entry =>
      decide (preview.selection.archiveKey entry.1 = row.key) with
  | none => row
  | some entry => { row with retention := entry.2 }

/-- A reviewed retention deletes its details and updates the retentions of their attempts. -/
def commitRetention (preview : HistoryRetentionPreview)
    (successors : List ArchiveDetailRetention) : Py (HistoryArchive × HistoryDataset) := do
  let keys := deletedKeys preview
  let removed := deletedDetails archive keys
  valueErrorIf (¬ ∀ key ∈ keys, ∃ row ∈ removed, row.key = key) (ascii "retention deletion lost a selected child")
  let released := (removed.map detailBytes).sum
  valueErrorIf (released ≠ preview.releasedBytes) (ascii "retention released bytes differ from reviewed bytes")
  releaseDetails { archive with
      details := deleteWhere (fun row => row.key ∈ keys) archive.details
      attempts := archive.attempts.map (retentionOf preview successors) } dataset released

/-- The receipts of a scope are found by their operation; an audit append that conflicts rolls the savepoint back. -/
def applyHistoryRetention (receipts : List RetentionReceipt) (defaults : HistoryDefaults)
    (command : ApplyHistoryRetention) (now : Instant) (auditAppended : Bool) :
    Py (HistoryArchive × List RetentionReceipt × HistoryRetentionOutcome) := do
  let selection := command.selection
  let current := archive.datasetOf selection.scope
  match receipts.find? fun receipt =>
      decide (receipt.scope = selection.scope ∧ receipt.operationId = command.operationId) with
  | some receipt => do
    let outcome ← replayRetention command current receipt
    return (archive, receipts, outcome)
  | none =>
    match current with
    | none => return (archive, receipts, .revisionConflict)
    | some dataset =>
      if ¬ matchesSelection dataset selection then return (archive, receipts, .revisionConflict)
      else
        let reviewed ← previewRetention archive defaults selection dataset now
        match reviewed with
        | none => return (archive, receipts, .revisionConflict)
        | some (preview, successors) => do
          let review ← hashObject preview.canonicalMapping
          if review ≠ command.reviewedDigest then return (archive, receipts, .reviewConflict)
          else
            let digest ← command.commandDigest
            let (written, changed) ← commitRetention archive dataset preview successors
            valueErrorIf (auditAppended = false) (ascii "retention audit pair conflicts")
            let receipt : RetentionReceipt :=
              ⟨selection.scope, command.operationId, digest, command.actor, preview, changed.dataRevision⟩
            return (written, receipts ++ [receipt], .committed)

end CiCoordinator.Persistence

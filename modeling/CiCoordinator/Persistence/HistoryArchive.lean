import CiCoordinator.CiEconomics.ArchiveDetail
import CiCoordinator.CiEconomics.HistoryGap
import CiCoordinator.Library.Table

/- The tables of the history archive and the transactions that store evidence in them. -/

namespace CiCoordinator.Persistence

open Library Kernel ConfigControl CiEconomics

/-- The key of an attempt in the tables of the archive. -/
structure ArchiveKey where
  scope : RepositoryScope
  generation : Int
  workflowRunId : Int
  runAttempt : Int
  deriving DecidableEq

/-- The columns of an attempt that its statistics determine. -/
structure ArchiveColumns where
  key : ArchiveKey
  headSha : Text
  workflowId : Int
  runCreatedAt : Instant
  headerCanonical : List Nat
  statisticsDigest : Text
  jobCount : Nat
  statisticsBytes : Nat
  deriving DecidableEq

/-- The row of an attempt, with the header that its bytes stand for. -/
structure HistoryAttemptRow where
  columns : ArchiveColumns
  header : ArchivedAttemptHeader
  hasConflict : Bool
  firstImportedAt : Instant
  retention : ArchiveDetailRetention
  deriving DecidableEq

def HistoryAttemptRow.key (row : HistoryAttemptRow) : ArchiveKey :=
  row.columns.key

/-- The row of a job, with the statistics that its bytes stand for. -/
structure HistoryJobRow where
  key : ArchiveKey
  job : ArchivedJobStatistics
  jobCanonical : List Nat
  deriving DecidableEq

def HistoryJobRow.jobKey (row : HistoryJobRow) : ArchiveKey × Int :=
  (row.key, row.job.providerJobId)

structure HistoryDetailRow where
  key : ArchiveKey
  detailCanonical : List Nat
  deriving DecidableEq

structure HistoryGapRow where
  scope : RepositoryScope
  generation : Int
  gapId : Text
  gap : ArchiveGap
  gapCanonical : List Nat
  recordedAt : Instant
  deriving DecidableEq

def HistoryGapRow.gapKey (row : HistoryGapRow) : RepositoryScope × Int × Text :=
  (row.scope, row.generation, row.gapId)

/-- The tables of the archives of all repositories. -/
structure HistoryArchive where
  datasets : List HistoryDataset
  attempts : List HistoryAttemptRow
  jobs : List HistoryJobRow
  details : List HistoryDetailRow
  gaps : List HistoryGapRow
  deriving DecidableEq

namespace HistoryArchive

variable (archive : HistoryArchive)

def datasetOf (scope : RepositoryScope) : Option HistoryDataset :=
  archive.datasets.find? fun dataset => decide (dataset.scope = scope)

variable (key : ArchiveKey)

def attemptOf : Option HistoryAttemptRow :=
  archive.attempts.find? fun row => decide (row.key = key)

/-- The jobs of an attempt in the order of their identities. -/
def jobsOf : List HistoryJobRow :=
  sortBy (fun row : HistoryJobRow => row.job.providerJobId) (archive.jobs.filter fun row => decide (row.key = key))

def detailOf : Option HistoryDetailRow :=
  archive.details.find? fun row => decide (row.key = key)

end HistoryArchive

/-- A write of a dataset compares the revisions of the row before it replaces it. -/
def sameRevision (prior row : HistoryDataset) : Prop :=
  row.scope = prior.scope ∧ row.generation = prior.generation ∧
    row.configurationRevision = prior.configurationRevision ∧ row.dataRevision = prior.dataRevision

instance (prior row : HistoryDataset) : Decidable (sameRevision prior row) :=
  inferInstanceAs (Decidable (_ ∧ _ ∧ _ ∧ _))

def HistoryDataset.make (fields : HistoryDatasetFields) : Py HistoryDataset :=
  construct fields.postInit fun admitted => ⟨fields, admitted⟩

variable (archive : HistoryArchive)

def writeHistoryDataset (prior successor : HistoryDataset) : Py HistoryArchive := do
  valueErrorIf (successor.scope ≠ prior.scope) (ascii "dataset transition cannot substitute repository scope")
  raiseIf ((archive.datasets.filter fun row => decide (sameRevision prior row)).length ≠ 1)
    (.runtimeError (ascii "history dataset CAS lost"))
  return { archive with datasets := updateWhere (sameRevision prior) (fun _ => successor) archive.datasets }

/-- What the statistics of an attempt are stored as. -/
structure EncodedArchiveStatistics where
  attempt : ArchiveColumns
  jobs : List HistoryJobRow
  canonicalBytes : Nat

def AttemptIdentity.archiveKey (identity : AttemptIdentity) (generation : Int) : ArchiveKey :=
  ⟨identity.scope, generation, identity.workflowRunId, identity.runAttempt⟩

def encodeJob (key : ArchiveKey) (job : ArchivedJobStatistics) : Py HistoryJobRow := do
  let raw ← encodeArchiveJob job
  return ⟨key, job, raw⟩

def jobBytes (row : HistoryJobRow) : Nat :=
  row.jobCanonical.length

def encodeArchiveStatistics (statistics : ArchivedAttemptStatistics) (generation : Int) :
    Py EncodedArchiveStatistics := do
  positiveId generation (ascii "archive dataset generation")
  let identity := statistics.header.attempt
  let key := AttemptIdentity.archiveKey identity generation
  let rawHeader ← encodeArchiveHeader statistics.header
  let jobs ← collect (encodeJob key) statistics.jobs
  let byteCount := rawHeader.length + (jobs.map jobBytes).sum
  valueErrorIf (maxHistoryStatisticsBytes < byteCount)
    (ascii "archive statistics exceed the per-attempt canonical byte budget")
  let digest ← statistics.statisticsDigest
  return {
    attempt := ⟨key, identity.headSha, statistics.header.workflowId, statistics.header.runCreatedAt, rawHeader, digest,
      jobs.length, byteCount⟩
    jobs := jobs
    canonicalBytes := byteCount }

/-- The columns that are compared, in the order in which they are written. -/
def differingColumns (actual expected : ArchiveColumns) : List (Text × Bool) :=
  [(ascii "installation_id", decide (actual.key.scope.installationId = expected.key.scope.installationId)),
    (ascii "repository_id", decide (actual.key.scope.repositoryId = expected.key.scope.repositoryId)),
    (ascii "generation", decide (actual.key.generation = expected.key.generation)),
    (ascii "workflow_run_id", decide (actual.key.workflowRunId = expected.key.workflowRunId)),
    (ascii "run_attempt", decide (actual.key.runAttempt = expected.key.runAttempt)),
    (ascii "head_sha", decide (actual.headSha = expected.headSha)),
    (ascii "workflow_id", decide (actual.workflowId = expected.workflowId)),
    (ascii "run_created_at", decide (actual.runCreatedAt = expected.runCreatedAt)),
    (ascii "header_canonical", decide (actual.headerCanonical = expected.headerCanonical)),
    (ascii "statistics_digest", decide (actual.statisticsDigest = expected.statisticsDigest)),
    (ascii "job_count", decide (actual.jobCount = expected.jobCount)),
    (ascii "statistics_bytes", decide (actual.statisticsBytes = expected.statisticsBytes))]

def matchColumns (columns : List (Text × Bool)) : Py Unit :=
  forEach (fun (entry : Text × Bool) =>
    valueErrorIf (entry.2 = false) (ascii "stored archive projection contradicts canonical " ++ entry.1)) columns

def decodeArchiveStatistics (row : HistoryAttemptRow) (jobRows : List HistoryJobRow) : Py ArchivedAttemptStatistics := do
  valueErrorIf (maxJobsPerAttempt < jobRows.length) (ascii "stored archive jobs exceed their bounded read")
  let statistics ← ArchivedAttemptStatistics.make ⟨row.header, jobRows.map HistoryJobRow.job⟩
  let encoded ← encodeArchiveStatistics statistics row.key.generation
  matchColumns (differingColumns row.columns encoded.attempt)
  forEach (fun (entry : HistoryJobRow × HistoryJobRow) =>
    matchColumns [(ascii "job_canonical", decide (entry.1.jobCanonical = entry.2.jobCanonical))]) (jobRows.zip encoded.jobs)
  return statistics

/-- The jobs of an attempt are read within a budget. -/
def loadHistoryJobs (key : ArchiveKey) : Py (List HistoryJobRow) := do
  let rows := archive.jobsOf key
  valueErrorIf (maxHistoryStatisticsBytes < (rows.map jobBytes).sum ∨ maxJobsPerAttempt < rows.length)
    (ascii "archived jobs exceed their aggregate read budget")
  return rows

inductive StatisticsStoreOutcome where
  | recorded
  | refined
  | replayed
  | incomparable
  | conflict
  | capacityReached
  deriving DecidableEq

/-- The canonical bytes that are stored for a job. -/
def previousJob (jobs : List HistoryJobRow) (providerJobId : Int) : Option (List Nat) :=
  (jobs.find? fun row => decide (row.job.providerJobId = providerJobId)).map HistoryJobRow.jobCanonical

/-- The jobs whose bytes differ from the stored ones. -/
def changedJobs (previous encoded : List HistoryJobRow) : List HistoryJobRow :=
  encoded.filter fun row => decide (previousJob previous row.job.providerJobId ≠ some row.jobCanonical)

/-- The resources of an attempt with its jobs. -/
def attemptUsage (jobs canonicalBytes : Nat) : Py HistoryUsage :=
  HistoryUsage.make 1 jobs 0 canonicalBytes

variable (dataset : HistoryDataset)

def advanceDataset (usage : HistoryUsage) : Py HistoryDataset :=
  HistoryDataset.make { dataset.toHistoryDatasetFields with usage := usage, dataRevision := dataset.dataRevision + 1 }

/-- The first statistics of an attempt become its row. -/
def recordStatistics (statistics : ArchivedAttemptStatistics) (encoded : EncodedArchiveStatistics) (now : Instant) :
    Py (HistoryArchive × HistoryDataset × StatisticsStoreOutcome) := do
  let released ← dataset.usage.release .empty
  let addition ← attemptUsage statistics.jobs.length encoded.canonicalBytes
  let reserved ← released.reserve addition dataset.configuration.quota
  match reserved with
  | none => return (archive, dataset, .capacityReached)
  | some usage => do
    let row : HistoryAttemptRow :=
      ⟨encoded.attempt, statistics.header, decide (statistics.header.population = .conflict), now, .notImported⟩
    let changed ← advanceDataset dataset usage
    let written ← writeHistoryDataset
      { archive with
        attempts := archive.attempts ++ [row]
        jobs := upsertRows HistoryJobRow.jobKey archive.jobs encoded.jobs } dataset changed
    return (written, changed, .recorded)

/-- A refinement replaces the columns of its attempt and the jobs that have changed. -/
def refineStatistics (prior : HistoryAttemptRow)
    (jobs : List HistoryJobRow) (previous statistics : ArchivedAttemptStatistics) (encoded : EncodedArchiveStatistics) :
    Py (HistoryArchive × HistoryDataset × StatisticsStoreOutcome) := do
  let removed ← attemptUsage previous.jobs.length prior.columns.statisticsBytes
  let released ← dataset.usage.release removed
  let addition ← attemptUsage statistics.jobs.length encoded.canonicalBytes
  let reserved ← released.reserve addition dataset.configuration.quota
  match reserved with
  | none => return (archive, dataset, .capacityReached)
  | some usage => do
    let refine (row : HistoryAttemptRow) : HistoryAttemptRow :=
      { row with
        header := statistics.header
        columns := { row.columns with
          headerCanonical := encoded.attempt.headerCanonical
          statisticsDigest := encoded.attempt.statisticsDigest
          jobCount := encoded.attempt.jobCount
          statisticsBytes := encoded.attempt.statisticsBytes } }
    let changed ← advanceDataset dataset usage
    let written ← writeHistoryDataset
      { archive with
        attempts := updateWhere (fun row => row.key = prior.key) refine archive.attempts
        jobs := upsertRows HistoryJobRow.jobKey archive.jobs (changedJobs jobs encoded.jobs) } dataset changed
    return (written, changed, .refined)

/-- A conflict is marked once. -/
def markConflict (prior : HistoryAttemptRow) :
    Py (HistoryArchive × HistoryDataset × StatisticsStoreOutcome) := do
  if prior.hasConflict = true then
    return (archive, dataset, .conflict)
  else
    let changed ← advanceDataset dataset dataset.usage
    let written ← writeHistoryDataset
      { archive with
        attempts := updateWhere (fun row => row.key = prior.key) (fun row => { row with hasConflict := true })
          archive.attempts } dataset changed
    return (written, changed, .conflict)

def storeHistoryStatistics (statistics : ArchivedAttemptStatistics)
    (now : Instant) : Py (HistoryArchive × HistoryDataset × StatisticsStoreOutcome) := do
  let identity := statistics.header.attempt
  let selected ← dataset.configuration.selects statistics.header.workflowId
  valueErrorIf (dataset.state ≠ .active ∨ dataset.scope ≠ identity.scope ∨ now < dataset.configuredAt ∨ selected = false)
    (ascii "history contribution requires its current active dataset")
  let encoded ← encodeArchiveStatistics statistics dataset.generation
  let key := AttemptIdentity.archiveKey identity dataset.generation
  match archive.attemptOf key with
  | none => recordStatistics archive dataset statistics encoded now
  | some prior => do
    let jobs ← loadHistoryJobs archive key
    let previous ← decodeArchiveStatistics prior jobs
    match if prior.hasConflict = true then .conflict else classifyArchiveUpdate previous statistics with
    | .unchanged => return (archive, dataset, .replayed)
    | .incomparable => return (archive, dataset, .incomparable)
    | .conflict => markConflict archive dataset prior
    | .refined => refineStatistics archive dataset prior jobs previous statistics encoded

inductive GapStoreOutcome where
  | recorded
  | replayed
  | capacityReached
  deriving DecidableEq

def maxHistoryGapBytes : Nat :=
  4096

/-- The bytes of an object are not empty and within their bound. -/
def encodeCanonicalObject (value : Json) (maximumBytes : Nat) (context : Text) : Py (List Nat) := do
  let encoded ← canonicalJson value none
  valueErrorIf (¬ (1 ≤ encoded.length ∧ encoded.length ≤ maximumBytes))
    (context ++ ascii " violates its admitted byte bound")
  return encoded

/-- A gap of the recheck queue is about a selected workflow. -/
def requireSelectedGap : ArchiveGap → Py Unit
  | .history _ => .ok ()
  | .recheck gap => do
    let selected ← dataset.configuration.selects gap.workflowId
    valueErrorIf (selected = false) (ascii "recheck gap requires a selected workflow")

def storeHistoryGap (gap : ArchiveGap) (now : Instant) :
    Py (HistoryArchive × HistoryDataset × GapStoreOutcome) := do
  requireSelectedGap dataset gap
  valueErrorIf (dataset.state ≠ .active ∨ dataset.scope ≠ gap.scope ∨ dataset.generation ≠ gap.generation ∨
      dataset.configurationRevision ≠ gap.configurationRevision ∨ now < dataset.configuredAt ∨ now < gap.sourceTime)
    (ascii "history gap does not match its current dataset and scan epoch")
  let raw ← encodeCanonicalObject gap.canonicalMapping maxHistoryGapBytes (ascii "history gap")
  let gapId ← gap.gapId
  match archive.gaps.find? fun row => decide (row.gapKey = (dataset.scope, dataset.generation, gapId)) with
  | some prior => do
    valueErrorIf (prior.gapCanonical ≠ raw) (ascii "history gap identity names contradictory canonical bytes")
    return (archive, dataset, .replayed)
  | none => do
    let addition ← HistoryUsage.make 0 0 1 raw.length
    let reserved ← dataset.usage.reserve addition dataset.configuration.quota
    match reserved with
    | none => return (archive, dataset, .capacityReached)
    | some usage => do
      let changed ← advanceDataset dataset usage
      let written ← writeHistoryDataset
        { archive with
          gaps := archive.gaps ++ [⟨dataset.scope, dataset.generation, gapId, gap, raw, now⟩] } dataset changed
      return (written, changed, .recorded)

inductive DetailStoreOutcome where
  | recorded
  | notImported
  | capacityReached
  deriving DecidableEq

/-- A detail is stored exactly while it is retained. -/
def validateExistingDetail (retention : ArchiveDetailRetention) (existing : Option HistoryDetailRow) : Py Unit := do
  valueErrorIf (∃ row ∈ existing, ¬ (1 ≤ row.detailCanonical.length ∧
      row.detailCanonical.length ≤ maxStoredHistoryDetailBytes))
    (ascii "stored history detail has an invalid positive bounded size")
  valueErrorIf (retention.state = .notImported ∧ existing ≠ none) (ascii "not-imported history detail has a child payload")
  valueErrorIf (retention.state = .retained ∧ existing = none) (ascii "retained history detail has no child payload")
  valueErrorIf (retention.state = .expired ∧ existing ≠ none) (ascii "expired history detail still has a child payload")

/-- A detail is imported under the policy of the dataset. -/
def importDetail (parent : HistoryAttemptRow) (encoded : List Nat)
    (defaults : HistoryDefaults) (now : Instant) : Py (HistoryArchive × HistoryDataset × DetailStoreOutcome) := do
  valueErrorIf (now < dataset.configuredAt ∨ now < defaults.updatedAt)
    (ascii "history detail import precedes its policy authority")
  let (policy, reference) := dataset.resolveDetailPolicy defaults
  let imported ← recordFirstDetailImport parent.retention policy reference now
  if imported = parent.retention then
    return (archive, dataset, .notImported)
  else
    valueErrorIf (imported.state ≠ .retained) (ascii "enabled detail policy did not produce retained detail")
    let addition ← HistoryUsage.make 0 0 0 encoded.length
    let reserved ← dataset.usage.reserve addition dataset.configuration.quota
    match reserved with
    | none => return (archive, dataset, .capacityReached)
    | some usage => do
      let changed ← advanceDataset dataset usage
      let written ← writeHistoryDataset
        { archive with
          details := archive.details ++ [⟨parent.key, encoded⟩]
          attempts := updateWhere (fun row => row.key = parent.key) (fun row => { row with retention := imported })
            archive.attempts } dataset changed
      return (written, changed, .recorded)

def storeHistoryDetail (statistics : ArchivedAttemptStatistics)
    (detail : ArchivedAttemptDetail) (defaults : HistoryDefaults) (now : Instant) :
    Py (HistoryArchive × HistoryDataset × DetailStoreOutcome) := do
  valueErrorIf (dataset.state ≠ .active) (ascii "history detail requires an active dataset")
  let identity := statistics.header.attempt
  let selected ← dataset.configuration.selects statistics.header.workflowId
  valueErrorIf (dataset.scope ≠ identity.scope ∨ selected = false)
    (ascii "history detail substitutes its current dataset scope")
  let key := AttemptIdentity.archiveKey identity dataset.generation
  match archive.attemptOf key with
  | none => .error (.valueError (ascii "history detail has no statistics parent"))
  | some parent => do
    valueErrorIf (parent.hasConflict = true) (ascii "history detail requires a non-conflicting statistics parent")
    validateExistingDetail parent.retention (archive.detailOf key)
    if parent.retention.state ≠ .notImported then
      return (archive, dataset, .notImported)
    else
      match validateAndEncodeDetail statistics detail with
      | none => return (archive, dataset, .notImported)
      | some _ => do
        let jobs ← loadHistoryJobs archive key
        let stored ← decodeArchiveStatistics parent jobs
        match validateAndEncodeDetail stored detail with
        | none => return (archive, dataset, .notImported)
        | some encoded =>
          if stored.header.population ≠ .complete then return (archive, dataset, .notImported)
          else importDetail archive dataset parent encoded defaults now

end CiCoordinator.Persistence

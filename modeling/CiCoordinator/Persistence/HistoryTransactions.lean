import CiCoordinator.Persistence.HistoryExchanges

/- The transactions of the archives over their whole life. -/

namespace CiCoordinator.Persistence

open Library Kernel ConfigControl CiEconomics

/-- The gaps that the statistics of an attempt call for. -/
inductive ContributionGap where
  | incomparable
  | jobPopulationIncomplete
  deriving DecidableEq

def contributionGap (outcome : StatisticsStoreOutcome) (population : ArchivePopulation) : Option ContributionGap :=
  if outcome = .incomparable then some .incomparable
  else if population = .partial_ ∨ population = .unavailable then some .jobPopulationIncomplete
  else none

/-- The progress of a contribution inside its savepoint. -/
structure Contribution where
  archive : HistoryArchive
  dataset : HistoryDataset
  outcome : StatisticsStoreOutcome

namespace Contribution

def storeGap (self : Contribution) (reason : Option ContributionGap) (gapOf : ContributionGap → ArchiveGap)
    (now : Instant) : Py Contribution :=
  match reason with
  | none => .ok self
  | some reason =>
    if self.outcome = .capacityReached then .ok self
    else do
      let (archive, dataset, stored) ← storeHistoryGap self.archive self.dataset (gapOf reason) now
      return ⟨archive, dataset, if stored = .capacityReached then .capacityReached else self.outcome⟩

def storeDetail (self : Contribution) (statistics : ArchivedAttemptStatistics) (detail : Option ArchivedAttemptDetail)
    (defaults : HistoryDefaults) (now : Instant) : Py Contribution :=
  match detail with
  | none => .ok self
  | some detail =>
    if (self.outcome = .recorded ∨ self.outcome = .refined ∨ self.outcome = .replayed) ∧
        statistics.header.population = .complete then do
      let (archive, dataset, stored) ← storeHistoryDetail self.archive self.dataset statistics detail defaults now
      return ⟨archive, dataset, if stored = .capacityReached then .capacityReached else self.outcome⟩
    else .ok self

end Contribution

/-- The statistics of an attempt are stored with their gap and their detail, or the savepoint is rolled back. -/
def contributeStatistics (archive : HistoryArchive) (dataset : HistoryDataset) (statistics : ArchivedAttemptStatistics)
    (gapOf : ContributionGap → ArchiveGap) (detail : Option ArchivedAttemptDetail) (defaults : HistoryDefaults)
    (now : Instant) : Py Contribution := do
  let (stored, current, outcome) ← storeHistoryStatistics archive dataset statistics now
  let withGap ← Contribution.storeGap ⟨stored, current, outcome⟩ (contributionGap outcome statistics.header.population)
    gapOf now
  let withDetail ← withGap.storeDetail statistics detail defaults now
  return if withDetail.outcome = .capacityReached then ⟨archive, dataset, .capacityReached⟩ else withDetail

/-- The dataset that a configuration leads to. -/
def configureHistoryDataset (scope : RepositoryScope) (configuration : HistoryConfiguration)
    (prior : Option HistoryDataset) (now : Instant) : Py HistoryDataset :=
  match prior with
  | none =>
    HistoryDataset.make
      ⟨scope, 1, 1, 1, now, if configuration.enabled = true then .active else .paused, configuration, .empty⟩
  | some prior => do
    valueErrorIf (prior.state ≠ .active ∧ prior.state ≠ .paused)
      (ascii "ordinary configuration cannot reopen erased or erasing history")
    valueErrorIf (now < prior.configuredAt) (ascii "history configuration clock precedes current authority")
    HistoryDataset.make { prior.toHistoryDatasetFields with
        configurationRevision := prior.configurationRevision + 1
        configuration := configuration
        configuredAt := now
        state := if configuration.enabled = true then .active else .paused }

/-- A configuration inserts the dataset of a repository or replaces it. -/
def configureHistory (archive : HistoryArchive) (scope : RepositoryScope) (configuration : HistoryConfiguration)
    (now : Instant) : Py HistoryArchive := do
  let prior := archive.datasetOf scope
  let successor ← configureHistoryDataset scope configuration prior now
  match prior with
  | none => return { archive with datasets := archive.datasets ++ [successor] }
  | some prior => writeHistoryDataset archive prior successor

/-- The archives with the receipts of their retentions and the policy of the service. -/
structure HistoryStore where
  archive : HistoryArchive
  receipts : List RetentionReceipt
  defaults : HistoryDefaults

inductive HistoryRequest where
  | storeStatistics (scope : RepositoryScope) (statistics : ArchivedAttemptStatistics) (now : Instant)
  | storeGap (scope : RepositoryScope) (gap : ArchiveGap) (now : Instant)
  | storeDetail (scope : RepositoryScope) (statistics : ArchivedAttemptStatistics) (detail : ArchivedAttemptDetail)
      (now : Instant)
  | contribute (scope : RepositoryScope) (statistics : ArchivedAttemptStatistics)
      (gapOf : ContributionGap → ArchiveGap) (detail : Option ArchivedAttemptDetail) (now : Instant)
  | expireDetails (scope : RepositoryScope) (now : Instant) (limit : Nat)
  | applyRetention (command : ApplyHistoryRetention) (now : Instant) (auditAppended : Bool)
  | configure (scope : RepositoryScope) (configuration : HistoryConfiguration) (now : Instant)
  | setDefaults (defaults : HistoryDefaults)

inductive HistoryAnswer where
  | absent
  | statistics (outcome : StatisticsStoreOutcome)
  | gap (outcome : GapStoreOutcome)
  | detail (outcome : DetailStoreOutcome)
  | expired (count : Nat)
  | retention (outcome : HistoryRetentionOutcome)
  | configured
  deriving DecidableEq

/-- The answers that report that a quota does not admit what a request would add. -/
def HistoryAnswer.CapacityReached (answer : HistoryAnswer) : Prop :=
  answer = .statistics .capacityReached ∨ answer = .gap .capacityReached ∨ answer = .detail .capacityReached

namespace HistoryStore

/-- A request about a dataset reads it first; the dataset of a repository can be absent. -/
def onDataset (store : HistoryStore) (scope : RepositoryScope)
    (act : HistoryDataset → Py (HistoryArchive × HistoryAnswer)) : Py (HistoryStore × HistoryAnswer) :=
  match store.archive.datasetOf scope with
  | none => .ok (store, .absent)
  | some dataset => do
    let (archive, answer) ← act dataset
    return ({ store with archive := archive }, answer)

/-- A request that raises is rolled back as a whole. -/
def serve (store : HistoryStore) : HistoryRequest → Py (HistoryStore × HistoryAnswer)
  | .storeStatistics scope statistics now =>
    store.onDataset scope fun dataset => do
      let (archive, _, outcome) ← storeHistoryStatistics store.archive dataset statistics now
      return (archive, .statistics outcome)
  | .storeGap scope gap now =>
    store.onDataset scope fun dataset => do
      let (archive, _, outcome) ← storeHistoryGap store.archive dataset gap now
      return (archive, .gap outcome)
  | .storeDetail scope statistics detail now =>
    store.onDataset scope fun dataset => do
      let (archive, _, outcome) ← storeHistoryDetail store.archive dataset statistics detail store.defaults now
      return (archive, .detail outcome)
  | .contribute scope statistics gapOf detail now =>
    store.onDataset scope fun dataset => do
      let contributed ← contributeStatistics store.archive dataset statistics gapOf detail store.defaults now
      return (contributed.archive, .statistics contributed.outcome)
  | .expireDetails scope now limit => do
    let (archive, count) ← expireHistoryDetailsInScope store.archive scope now limit
    return ({ store with archive := archive }, .expired count)
  | .applyRetention command now auditAppended => do
    let (archive, receipts, outcome) ←
      applyHistoryRetention store.archive store.receipts store.defaults command now auditAppended
    return ({ store with archive := archive, receipts := receipts }, .retention outcome)
  | .configure scope configuration now => do
    let archive ← configureHistory store.archive scope configuration now
    return ({ store with archive := archive }, .configured)
  | .setDefaults defaults => .ok ({ store with defaults := defaults }, .configured)

def empty (defaults : HistoryDefaults) : HistoryStore :=
  ⟨⟨[], [], [], [], []⟩, [], defaults⟩

end HistoryStore

/-- The runs of the requests that do not raise. -/
inductive HistoryRun (start : HistoryStore) : HistoryStore → Prop
  | start : HistoryRun start start
  | serve {store next : HistoryStore} {request : HistoryRequest} {answer : HistoryAnswer} (run : HistoryRun start store)
      (served : store.serve request = .ok (next, answer)) : HistoryRun start next

end CiCoordinator.Persistence

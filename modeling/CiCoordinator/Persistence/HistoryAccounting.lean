import CiCoordinator.Persistence.HistoryTotality
import CiCoordinator.CiEconomics.RecentHistory

/- The accounting of the archives over every run of their transactions. -/

namespace CiCoordinator.Persistence

open Library Kernel ConfigControl CiEconomics List

section Configuration

variable {archive written : HistoryArchive} {scope : RepositoryScope} {configuration : HistoryConfiguration} {now : Instant}

/-- A repository without a dataset has no rows. -/
theorem rowsOf_absent (kept : WellKept archive) (absent : ∀ dataset ∈ archive.datasets, dataset.scope ≠ scope)
    (generation : Int) : archive.rowsOf scope generation = ⟨[], [], [], []⟩ := by
  have foreign : ∀ key : ArchiveKey, (∃ parent ∈ archive.attempts, parent.key = key) → ¬ key.At scope generation := by
    rintro _ ⟨parent, stored, rfl⟩ own
    obtain ⟨dataset, present, owned⟩ := kept.attemptOwners parent stored
    exact absent dataset present (owned.1.symm.trans own.1)
  refine GenerationRows.ext ?_ ?_ ?_ ?_
  · exact filter_eq_nil_iff.mpr fun row stored => by simpa using foreign row.key ⟨row, stored, rfl⟩
  · exact filter_eq_nil_iff.mpr fun row stored => by simpa using foreign row.key (kept.jobParents row stored)
  · exact filter_eq_nil_iff.mpr fun row stored => by simpa using foreign row.key (kept.detailParents row stored)
  · refine filter_eq_nil_iff.mpr fun row stored => ?_
    rw [decide_eq_true_eq]
    intro own
    obtain ⟨dataset, present, owned⟩ := kept.gapOwners row stored
    exact absent dataset present (owned.1.symm.trans own.1)

theorem datasetOf_eq_none (missing : archive.datasetOf scope = none) : ∀ dataset ∈ archive.datasets, dataset.scope ≠ scope := by
  intro dataset member
  simpa using find?_eq_none.mp missing dataset member

/-- A configuration opens an empty dataset or keeps the usage and the rows of the one that it replaces. -/
inductive Configures (archive : HistoryArchive) (scope : RepositoryScope) : HistoryArchive → Prop
  | opened {dataset : HistoryDataset} (absent : ∀ found ∈ archive.datasets, found.scope ≠ scope)
      (own : dataset.scope = scope) (first : dataset.generation = 1) (empty : dataset.usage = .empty) :
      Configures archive scope { archive with datasets := archive.datasets ++ [dataset] }
  | replaced {prior dataset : HistoryDataset} (member : prior ∈ archive.datasets) (own : prior.scope = scope)
      (sameScope : dataset.scope = prior.scope) (generation : dataset.generation = prior.generation)
      (usage : dataset.usage = prior.usage) (data : dataset.dataRevision = prior.dataRevision)
      (revision : dataset.configurationRevision = prior.configurationRevision + 1) :
      Configures archive scope
        { archive with datasets := updateWhere (sameRevision prior) (fun _ => dataset) archive.datasets }

theorem configureHistory_configures (configured : configureHistory archive scope configuration now = .ok written) :
    Configures archive scope written := by
  simp only [configureHistory, bind_eq_ok] at configured
  obtain ⟨successor, made, rest⟩ := configured
  cases located : archive.datasetOf scope with
  | none =>
    simp only [located, configureHistoryDataset, HistoryDataset.make, construct_eq_ok, pure_eq_ok_iff] at made rest
    obtain ⟨_, rfl⟩ := made
    rw [← rest]
    exact .opened (datasetOf_eq_none located) rfl rfl rfl
  | some prior =>
    simp only [located, configureHistoryDataset, HistoryDataset.make, bind_eq_ok, construct_eq_ok] at made rest
    obtain ⟨_, _, _, _, _, rfl⟩ := made
    obtain ⟨_, rfl⟩ := writeHistoryDataset_eq_ok rest
    obtain ⟨member, own⟩ := datasetOf_eq_some located
    exact .replaced member own rfl rfl rfl rfl rfl

theorem Configures.sound (sound : Sound archive) (configured : Configures archive scope written) : Sound written := by
  cases configured with
  | @opened dataset absent own first empty =>
    refine
      { datasets := sound.datasets.insert fun found stored => by rw [own]; exact absent found stored
        kept :=
          { sound.kept with
            attemptOwners := fun row stored =>
              (sound.kept.attemptOwners row stored).imp fun _ found => ⟨mem_append_left _ found.1, found.2⟩
            gapOwners := fun row stored =>
              (sound.kept.gapOwners row stored).imp fun _ found => ⟨mem_append_left _ found.1, found.2⟩ }
        exact := ?_ }
    intro found inside
    rcases mem_append.mp inside with stored | last
    · exact sound.exact found stored
    · obtain rfl := mem_singleton.mp last
      have rows := rowsOf_absent sound.kept absent found.generation
      have nothing : HistoryArchive.occupied archive scope found.generation = ⟨0, 0, 0, 0⟩ :=
        @occupied_of_rows ⟨[], [], [], [], []⟩ archive scope found.generation rows
      rw [empty, own]
      exact nothing.symm
  | @replaced prior dataset member own sameScope generation usage data revision =>
    exact (Exchanges.refl sound.kept).sound sound member sameScope generation (by rw [usage]; exact ⟨rfl, rfl, rfl, rfl⟩)

end Configuration

section Serving

variable {store next : HistoryStore} {request : HistoryRequest} {answer : HistoryAnswer}

/-- What a request does to the archives. -/
inductive ArchiveChange (archive : HistoryArchive) : HistoryArchive → Prop
  | kept : ArchiveChange archive archive
  | settled {written : HistoryArchive} {dataset changed : HistoryDataset} (member : dataset ∈ archive.datasets)
      (settled : Settled archive dataset written changed) : ArchiveChange archive written
  | configured {written : HistoryArchive} {scope : RepositoryScope} (configured : Configures archive scope written) :
      ArchiveChange archive written

/-- A request that configures nothing leaves the archives as they are or settles one dataset. -/
inductive SettlesAny (archive : HistoryArchive) : HistoryArchive → Prop
  | kept : SettlesAny archive archive
  | settled {written : HistoryArchive} {dataset changed : HistoryDataset} (member : dataset ∈ archive.datasets)
      (settled : Settled archive dataset written changed) : SettlesAny archive written

theorem SettlesAny.of_some {archive written : HistoryArchive} {scope : RepositoryScope}
    (change : SettlesSome archive written scope) : SettlesAny archive written := by
  rcases change with rfl | ⟨dataset, member, changed, _, settled⟩
  · exact .kept
  · exact .settled member settled

theorem SettlesAny.change {archive written : HistoryArchive} (settles : SettlesAny archive written) :
    ArchiveChange archive written := by
  cases settles with
  | kept => exact .kept
  | settled member settled => exact .settled member settled

theorem onDataset_settles {scope : RepositoryScope} {act : HistoryDataset → Py (HistoryArchive × HistoryAnswer)}
    (each : ∀ dataset ∈ store.archive.datasets, ∀ archive, act dataset = .ok (archive, answer) →
      (∃ changed, Settled store.archive dataset archive changed) ∧ (answer.CapacityReached → archive = store.archive))
    (served : store.onDataset scope act = .ok (next, answer)) :
    SettlesAny store.archive next.archive ∧ (answer.CapacityReached → next = store) := by
  unfold HistoryStore.onDataset at served
  split at served
  · cases served
    exact ⟨.kept, fun _ => rfl⟩
  · rename_i dataset located
    simp only [bind_eq_ok, pure_eq_ok_iff, Prod.mk.injEq] at served
    obtain ⟨⟨archive, _⟩, acted, rfl, rfl⟩ := served
    obtain ⟨member, _⟩ := datasetOf_eq_some located
    obtain ⟨⟨changed, settled⟩, unchanged⟩ := each dataset member archive acted
    refine ⟨.settled member settled, fun refused => ?_⟩
    rw [unchanged refused]

/-- Only a configuration does not settle a dataset, and a refusal leaves the store as it was. -/
theorem serve_settles (sound : Sound store.archive) (served : store.serve request = .ok (next, answer)) :
    (SettlesAny store.archive next.archive ∨ ∃ scope configuration now, request = .configure scope configuration now ∧
      configureHistory store.archive scope configuration now = .ok next.archive) ∧
      (answer.CapacityReached → next = store) := by
  have refuse : ∀ outcome, (HistoryAnswer.statistics outcome).CapacityReached → outcome = .capacityReached := by
    intro outcome refused
    simpa [HistoryAnswer.CapacityReached] using refused
  cases request with
  | storeStatistics scope statistics now =>
    refine (onDataset_settles (fun dataset member archive acted => ?_) served).imp_left .inl
    simp only [bind_eq_ok, pure_eq_ok_iff, Prod.mk.injEq] at acted
    obtain ⟨⟨_, changed, outcome⟩, stored, rfl, rfl⟩ := acted
    obtain ⟨settled, unchanged⟩ := storeHistoryStatistics_settled sound member stored
    exact ⟨⟨changed, settled⟩, fun refused => (unchanged (refuse outcome refused)).1⟩
  | storeGap scope gap now =>
    refine (onDataset_settles (fun dataset member archive acted => ?_) served).imp_left .inl
    simp only [bind_eq_ok, pure_eq_ok_iff, Prod.mk.injEq] at acted
    obtain ⟨⟨_, changed, outcome⟩, stored, rfl, rfl⟩ := acted
    obtain ⟨settled, unchanged⟩ := storeHistoryGap_settled sound member stored
    exact ⟨⟨changed, settled⟩, fun refused => (unchanged (by simpa [HistoryAnswer.CapacityReached] using refused)).1⟩
  | storeDetail scope statistics detail now =>
    refine (onDataset_settles (fun dataset member archive acted => ?_) served).imp_left .inl
    simp only [bind_eq_ok, pure_eq_ok_iff, Prod.mk.injEq] at acted
    obtain ⟨⟨_, changed, outcome⟩, stored, rfl, rfl⟩ := acted
    obtain ⟨settled, unchanged⟩ := storeHistoryDetail_settled sound member stored
    exact ⟨⟨changed, settled⟩, fun refused => (unchanged (by simpa [HistoryAnswer.CapacityReached] using refused)).1⟩
  | contribute scope statistics gapOf detail now =>
    refine (onDataset_settles (fun dataset member archive acted => ?_) served).imp_left .inl
    simp only [bind_eq_ok, pure_eq_ok_iff, Prod.mk.injEq] at acted
    obtain ⟨contributed, stored, rfl, rfl⟩ := acted
    obtain ⟨settled, unchanged⟩ := contributeStatistics_settled sound member stored
    exact ⟨⟨_, settled⟩, fun refused => (unchanged (refuse _ refused)).1⟩
  | expireDetails scope now limit =>
    simp only [HistoryStore.serve, bind_eq_ok, pure_eq_ok_iff, Prod.mk.injEq] at served
    obtain ⟨⟨archive, count⟩, expired, rfl, rfl⟩ := served
    refine ⟨.inl (.of_some (expireHistoryDetailsInScope_settled sound expired)), fun refused => ?_⟩
    simp [HistoryAnswer.CapacityReached] at refused
  | applyRetention command now auditAppended =>
    simp only [HistoryStore.serve, bind_eq_ok, pure_eq_ok_iff, Prod.mk.injEq] at served
    obtain ⟨⟨archive, receipts, outcome⟩, applied, rfl, rfl⟩ := served
    refine ⟨.inl (.of_some (applyHistoryRetention_settled sound applied)), fun refused => ?_⟩
    simp [HistoryAnswer.CapacityReached] at refused
  | configure scope configuration now =>
    simp only [HistoryStore.serve, bind_eq_ok, pure_eq_ok_iff, Prod.mk.injEq] at served
    obtain ⟨archive, configured, rfl, rfl⟩ := served
    refine ⟨.inr ⟨scope, configuration, now, rfl, configured⟩, fun refused => ?_⟩
    simp [HistoryAnswer.CapacityReached] at refused
  | setDefaults defaults =>
    cases served
    refine ⟨.inl .kept, fun refused => ?_⟩
    simp [HistoryAnswer.CapacityReached] at refused

/-- A request that returns settles a dataset or configures one, and a refusal leaves the store as it was. -/
theorem serve_change (sound : Sound store.archive) (served : store.serve request = .ok (next, answer)) :
    ArchiveChange store.archive next.archive ∧ (answer.CapacityReached → next = store) := by
  refine (serve_settles sound served).imp_left fun outcome => ?_
  rcases outcome with settles | ⟨scope, configuration, now, _, configured⟩
  · exact settles.change
  · exact .configured (configureHistory_configures configured)

theorem ArchiveChange.sound {archive written : HistoryArchive} (sound : Sound archive)
    (change : ArchiveChange archive written) : Sound written := by
  cases change with
  | kept => exact sound
  | settled _ settled => exact settled.sound
  | configured configured => exact configured.sound sound

/-- A usage that a request makes larger fits its quota. -/
theorem ArchiveChange.within {archive written : HistoryArchive} (sound : Sound archive)
    (change : ArchiveChange archive written) {prior successor : HistoryDataset} (before : prior ∈ archive.datasets)
    (after : successor ∈ written.datasets) (same : successor.scope = prior.scope)
    (grows : prior.usage.Grows successor.usage) : successor.usage.fits successor.configuration.quota := by
  have still : successor ∈ archive.datasets → successor.usage.fits successor.configuration.quota := by
    intro stored
    rw [sound.datasets.eq_of_key stored before same] at grows
    exact absurd grows HistoryUsage.not_grows_self
  cases change with
  | kept => exact still after
  | @settled _ dataset changed member settled =>
    by_cases own : prior.scope = dataset.scope
    · obtain rfl := sound.datasets.eq_of_key before member own
      have fields := settled.fields
      have equal := settled.sound.datasets.eq_of_key after settled.member (same.trans (by rw [fields]))
      subst equal
      have configuration : successor.configuration = prior.configuration := by rw [fields]
      rw [configuration]
      exact settled.within grows
    · exact still ((settled.others successor (by rwa [same])).mp after)
  | @configured _ scope configured =>
    cases configured with
    | @opened dataset absent own first empty =>
      rcases mem_append.mp after with stored | last
      · exact still stored
      · rw [mem_singleton.mp last] at same
        exact absurd (same.symm.trans own) (absent prior before)
    | @replaced replaced dataset member own sameScope generation usage data revision =>
      rcases mem_updateWhere.mp after with ⟨stored, _⟩ | ⟨_, _, _, rfl⟩
      · exact still stored
      · have equal := sound.datasets.eq_of_key before member (same.symm.trans sameScope)
        rw [equal, usage] at grows
        exact absurd grows HistoryUsage.not_grows_self

theorem sound_empty (defaults : HistoryDefaults) : Sound (HistoryStore.empty defaults).archive :=
  ⟨nodup_nil, ⟨nodup_nil, nodup_nil, nodup_nil, nodup_nil, by simp [HistoryStore.empty],
    by simp [HistoryStore.empty], by simp [HistoryStore.empty], by simp [HistoryStore.empty], by simp [HistoryStore.empty],
    by simp [HistoryStore.empty]⟩, by simp [HistoryStore.empty]⟩

theorem run_sound {start : HistoryStore} (sound : Sound start.archive) (run : HistoryRun start store) : Sound store.archive := by
  induction run with
  | start => exact sound
  | serve _ served ih => exact (serve_change ih served).1.sound ih

end Serving

/-- The usage of every dataset is exact and stays within its quota, whatever is requested next. -/
structure HistoryStore.Accounted (store : HistoryStore) : Prop where
  exact : ∀ dataset ∈ store.archive.datasets,
    dataset.usage.occupation = store.archive.occupied dataset.scope dataset.generation
  quota : ∀ request next answer, store.serve request = .ok (next, answer) →
    ∀ prior ∈ store.archive.datasets, ∀ successor ∈ next.archive.datasets, successor.scope = prior.scope →
      prior.usage.Grows successor.usage → successor.usage.fits successor.configuration.quota
  refused : ∀ request next answer, store.serve request = .ok (next, answer) → answer.CapacityReached → next = store
  released : ∀ dataset ∈ store.archive.datasets, ∀ keys : List ArchiveKey, (∀ key ∈ keys, key.InDataset dataset) →
    ∃ removed usage, releasedUsage ((deletedDetails store.archive keys).map detailBytes).sum = .ok removed ∧
      dataset.usage.release removed = .ok usage
  counted : ∀ request, store.serve request ≠ .error .validationError

/-- The archives are accounted for over every run of their requests. -/
theorem history_usage_accounted {defaults : HistoryDefaults} {store : HistoryStore}
    (run : HistoryRun (HistoryStore.empty defaults) store) : store.Accounted := by
  have sound := run_sound (sound_empty defaults) run
  refine ⟨sound.exact, ?_, ?_, ?_, ?_⟩
  · intro request next answer served prior before successor after same grows
    exact (serve_change sound served).1.within sound before after same grows
  · exact fun request next answer served refusal => (serve_change sound served).2 refusal
  · exact fun dataset member keys own => release_returns sound member own
  · exact fun request raised => serve_raises sound request _ raised rfl

namespace Sample

open CiEconomics.Sample (attempt cursor epoch scope)

def defaults : HistoryDefaults :=
  ⟨1, .disabled, epoch, by decide⟩

theorem oneDay_bounded : 1 ≤ 1 ∧ 1 ≤ maxArchiveDetailDays := by
  decide

/-- A configuration with room for two attempts, whose details are kept for a day. -/
def roomyConfiguration : HistoryConfiguration :=
  ⟨true, none, some (.days 1 oneDay_bounded), ⟨2, 4, 1, 100000, by decide, by decide⟩, by simp⟩

/-- The attempts that are archived. -/
inductive Archived where
  | first
  | second
  | third

def Archived.index : Archived → Nat
  | .first => 0
  | .second => 1
  | .third => 2

theorem Archived.index_lt (archived : Archived) : archived.index < 100 := by
  cases archived <;> decide

theorem jobId_bounds (archived : Archived) :
    1 ≤ (archived.index : Int) + 1 ∧ (archived.index : Int) + 1 ≤ maxSafeJsonInteger := by
  cases archived <;> decide

def archivedJob (archived : Archived) : ArchivedJobStatistics where
  providerJobId := archived.index + 1
  name := ascii "build"
  conclusion := .success
  createdAt := none
  startedAt := none
  completedAt := none
  labels := []
  runnerId := none
  runnerGroupId := none
  admitted :=
    { identity := jobId_bounds archived
      name := show 1 ≤ (ascii "build").length ∧ (ascii "build").length ≤ 512 by decide
      storable := show 0 ∉ ascii "build" ∧ (ascii "build").scalar = true by decide
      labels := ⟨by simp, by simp, nodup_nil⟩
      runner := nofun
      group := nofun
      grouped := fun named => absurd rfl named }

/-- The statistics of an attempt with one job. -/
def archivedAttempt (archived : Archived) : ArchivedAttemptStatistics where
  header :=
    { attempt := attempt archived.index archived.index_lt
      workflowId := 1
      workflowPath := none
      workflowBlobSha := none
      event := ascii "push"
      conclusion := some .success
      runCreatedAt := epoch
      population := .complete
      providerJobTotal := some 1
      admitted :=
        { workflow := ⟨le_rfl, by simp [maxSafeJsonInteger]⟩
          path := nofun
          blob := nofun
          event := show 1 ≤ (ascii "push").length ∧ (ascii "push").length ≤ 64 by decide
          declared := by simp [maxSafeJsonInteger]
          located := fun named => absurd rfl named } }
  jobs := [archivedJob archived]
  admitted := ⟨by simp [Increasing], by simp [ArchivedAttemptHeader.AdmittedJobCount, maxJobsPerAttempt]⟩

def archivedDetail (archived : Archived) : ArchivedAttemptDetail where
  attempt := attempt archived.index archived.index_lt
  jobs := [⟨archived.index + 1, [], jobId_bounds archived, by decide, by simp [Increasing]⟩]
  bounded := by simp [maxJobsPerAttempt]
  ordered := by simp [Increasing]

/-- The provider does not find an attempt that a page has listed. -/
def lostAttempt : ArchiveGap :=
  .history ⟨1, 1, cursor, .providerNotFound, some ⟨3, 1, by decide⟩, by decide, by decide⟩

theorem minute_inRange : 60000000 < instantLimit := by
  decide

def minute : Instant :=
  ⟨60000000, minute_inRange⟩

/-- The details of the first attempt are erased under the review of its preview. -/
def eraseFirst (store : HistoryStore) : HistoryRequest :=
  let selection (dataset : HistoryDataset) : HistoryRetentionSelection :=
    ⟨scope, dataset.generation, dataset.configurationRevision, dataset.dataRevision, 1, ascii "1970-01-01T00:01:00Z",
      minute, .eraseDetails, [⟨1, 1, by decide⟩], by decide, by decide⟩
  let review (dataset : HistoryDataset) : Text :=
    match previewRetention store.archive defaults (selection dataset) dataset minute with
    | .ok (some (preview, _)) => ((hashObject preview.canonicalMapping).toOption).getD []
    | _ => []
  match store.archive.datasetOf scope with
  | none => .setDefaults defaults
  | some dataset =>
    .applyRetention ⟨selection dataset, review dataset, ascii "operation", ascii "operator"⟩ minute true

/-- Two attempts with their jobs and details and a gap are stored, one detail is erased, and a third attempt is refused. -/
def archiveRequests : List (HistoryStore → HistoryRequest) :=
  [fun _ => .configure scope roomyConfiguration epoch,
    fun _ => .contribute scope (archivedAttempt .first) (fun _ => lostAttempt) (some (archivedDetail .first)) minute,
    fun _ => .storeGap scope lostAttempt minute,
    fun _ => .contribute scope (archivedAttempt .second) (fun _ => lostAttempt) (some (archivedDetail .second)) minute,
    eraseFirst,
    fun _ => .storeStatistics scope (archivedAttempt .third) minute]

/-- A store with the answers that led to it. -/
def serveArchive (served : HistoryStore × List HistoryAnswer) (request : HistoryStore → HistoryRequest) :
    Py (HistoryStore × List HistoryAnswer) := do
  let (next, answer) ← served.1.serve (request served.1)
  return (next, served.2 ++ [answer])

theorem serveArchive_run {start : HistoryStore} {served next : HistoryStore × List HistoryAnswer}
    {request : HistoryStore → HistoryRequest} (run : HistoryRun start served.1)
    (returns : serveArchive served request = .ok next) : HistoryRun start next.1 := by
  simp only [serveArchive, bind_eq_ok, pure_eq_ok_iff] at returns
  obtain ⟨⟨store, answer⟩, answered, rfl⟩ := returns
  exact .serve run answered

/-- The answers of a run with the usage of its datasets and the number of its details. -/
def archiveSummary (served : HistoryStore × List HistoryAnswer) : List HistoryAnswer × List (Nat × Nat × Nat) × Nat :=
  (served.2, served.1.archive.datasets.map fun dataset => (dataset.usage.attempts, dataset.usage.jobs, dataset.usage.gaps),
    served.1.archive.details.length)

theorem archiveRequests_return :
    (foldSteps serveArchive (.empty defaults, []) archiveRequests).toOption.map archiveSummary =
      some ([.configured, .statistics .recorded, .gap .recorded, .statistics .recorded, .retention .committed,
        .statistics .capacityReached], [(2, 2, 1)], 1) := by
  decide +kernel

end Sample

/-- Two attempts, a gap and a detail are accounted for after another detail is erased and a third attempt is refused. -/
theorem history_usage_accounted_archived : ∃ served,
    Sample.archiveSummary served = ([.configured, .statistics .recorded, .gap .recorded, .statistics .recorded,
      .retention .committed, .statistics .capacityReached], [(2, 2, 1)], 1) ∧ served.1.Accounted := by
  obtain ⟨served, folded, summary⟩ := eq_ok_of_map_toOption Sample.archiveRequests_return
  have run := @foldSteps_keeps _ _ _ _ _ _ (fun served => HistoryRun (.empty Sample.defaults) served.1)
    (fun _ _ _ run returns => Sample.serveArchive_run run returns) _ .start folded
  exact ⟨served, summary, history_usage_accounted run⟩

end CiCoordinator.Persistence

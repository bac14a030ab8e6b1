import CiCoordinator.Persistence.HistoryRetention

/- What the tables of the archive hold and what its statements do to the totals over their rows. -/

namespace CiCoordinator.Persistence

open Library ConfigControl CiEconomics List

/-- The key of a row belongs to a generation of a repository. -/
def ArchiveKey.At (key : ArchiveKey) (scope : RepositoryScope) (generation : Int) : Prop :=
  key.scope = scope ∧ key.generation = generation

instance (key : ArchiveKey) (scope : RepositoryScope) (generation : Int) : Decidable (key.At scope generation) :=
  inferInstanceAs (Decidable (_ ∧ _))

def HistoryGapRow.At (row : HistoryGapRow) (scope : RepositoryScope) (generation : Int) : Prop :=
  row.scope = scope ∧ row.generation = generation

instance (row : HistoryGapRow) (scope : RepositoryScope) (generation : Int) : Decidable (row.At scope generation) :=
  inferInstanceAs (Decidable (_ ∧ _))

/-- The resources that rows occupy. -/
@[ext] structure Occupation where
  attempts : Nat
  jobs : Nat
  gaps : Nat
  canonicalBytes : Nat
  deriving DecidableEq

def headerBytes (row : HistoryAttemptRow) : Nat :=
  row.columns.headerCanonical.length

def gapBytes (row : HistoryGapRow) : Nat :=
  row.gapCanonical.length

/-- The exact totals over the rows of a generation of a repository. -/
def HistoryArchive.occupied (archive : HistoryArchive) (scope : RepositoryScope) (generation : Int) : Occupation where
  attempts := total (fun _ => 1) (fun row => row.key.At scope generation) archive.attempts
  jobs := total (fun _ => 1) (fun row => row.key.At scope generation) archive.jobs
  gaps := total (fun _ => 1) (fun row => row.At scope generation) archive.gaps
  canonicalBytes :=
    total headerBytes (fun row => row.key.At scope generation) archive.attempts +
      total jobBytes (fun row => row.key.At scope generation) archive.jobs +
      total detailBytes (fun row => row.key.At scope generation) archive.details +
      total gapBytes (fun row => row.At scope generation) archive.gaps

/-- The rows of a generation of a repository. -/
@[ext] structure GenerationRows where
  attempts : List HistoryAttemptRow
  jobs : List HistoryJobRow
  details : List HistoryDetailRow
  gaps : List HistoryGapRow

def HistoryArchive.rowsOf (archive : HistoryArchive) (scope : RepositoryScope) (generation : Int) : GenerationRows where
  attempts := archive.attempts.filter fun row => decide (row.key.At scope generation)
  jobs := archive.jobs.filter fun row => decide (row.key.At scope generation)
  details := archive.details.filter fun row => decide (row.key.At scope generation)
  gaps := archive.gaps.filter fun row => decide (row.At scope generation)

/-- The totals are over the rows of the generation alone. -/
theorem occupied_of_rows {archive tables : HistoryArchive} {scope : RepositoryScope} {generation : Int}
    (same : tables.rowsOf scope generation = archive.rowsOf scope generation) :
    tables.occupied scope generation = archive.occupied scope generation := by
  obtain ⟨attempts, jobs, details, gaps⟩ := GenerationRows.ext_iff.mp same
  simp only [HistoryArchive.rowsOf] at attempts jobs details gaps
  simp only [HistoryArchive.occupied, total, attempts, jobs, details, gaps]

/-- The number of jobs that are stored for an attempt. -/
def jobCountOf (archive : HistoryArchive) (key : ArchiveKey) : Nat :=
  total (fun _ => 1) (fun row => row.key = key) archive.jobs

/-- The rows of the tables have keys and parents, and the counts of their jobs are admitted. -/
structure WellKept (archive : HistoryArchive) : Prop where
  attempts : Keyed HistoryAttemptRow.key archive.attempts
  jobs : Keyed HistoryJobRow.jobKey archive.jobs
  details : Keyed HistoryDetailRow.key archive.details
  gaps : Keyed HistoryGapRow.gapKey archive.gaps
  jobParents : ∀ row ∈ archive.jobs, ∃ parent ∈ archive.attempts, parent.key = row.key
  detailParents : ∀ row ∈ archive.details, ∃ parent ∈ archive.attempts, parent.key = row.key
  attemptOwners : ∀ row ∈ archive.attempts, ∃ dataset ∈ archive.datasets, row.key.InDataset dataset
  gapOwners : ∀ row ∈ archive.gaps, ∃ dataset ∈ archive.datasets, row.At dataset.scope dataset.generation
  counted : ∀ row ∈ archive.attempts, row.header.AdmittedJobCount (jobCountOf archive row.key)
  sizes : ∀ row ∈ archive.details, 1 ≤ detailBytes row ∧ detailBytes row ≤ maxHistoryDetailBytes

/-- The totals of one dataset change by what is removed and added, and the rows of all others stay. -/
structure Exchanges (archive tables : HistoryArchive) (dataset : HistoryDataset) (removed added : Occupation) : Prop where
  kept : WellKept tables
  datasets : tables.datasets = archive.datasets
  attempts : (tables.occupied dataset.scope dataset.generation).attempts + removed.attempts =
    (archive.occupied dataset.scope dataset.generation).attempts + added.attempts
  jobs : (tables.occupied dataset.scope dataset.generation).jobs + removed.jobs =
    (archive.occupied dataset.scope dataset.generation).jobs + added.jobs
  gaps : (tables.occupied dataset.scope dataset.generation).gaps + removed.gaps =
    (archive.occupied dataset.scope dataset.generation).gaps + added.gaps
  canonicalBytes : (tables.occupied dataset.scope dataset.generation).canonicalBytes + removed.canonicalBytes =
    (archive.occupied dataset.scope dataset.generation).canonicalBytes + added.canonicalBytes
  elsewhere : ∀ scope generation, ¬ (dataset.scope = scope ∧ dataset.generation = generation) →
    tables.rowsOf scope generation = archive.rowsOf scope generation

section Encoding

variable {statistics : ArchivedAttemptStatistics} {generation : Int} {encoded : EncodedArchiveStatistics}

/-- What an encoding consists of. -/
theorem encodeArchiveStatistics_eq_ok (computed : encodeArchiveStatistics statistics generation = .ok encoded) :
    encoded.attempt.key = AttemptIdentity.archiveKey statistics.header.attempt generation ∧
      (∀ row ∈ encoded.jobs, row.key = encoded.attempt.key) ∧
      encoded.jobs.map HistoryJobRow.job = statistics.jobs ∧
      encoded.attempt.statisticsBytes = encoded.canonicalBytes ∧
      encoded.canonicalBytes = encoded.attempt.headerCanonical.length + (encoded.jobs.map jobBytes).sum ∧
      encoded.canonicalBytes ≤ maxHistoryStatisticsBytes := by
  simp only [encodeArchiveStatistics, bind_eq_ok, raiseIf_eq_ok, not_lt, pure_eq_ok_iff] at computed
  obtain ⟨_, _, header, _, jobs, collected, _, bounded, digest, _, rfl⟩ := computed
  refine ⟨rfl, ?_, ?_, rfl, rfl, bounded⟩
  · intro row member
    obtain ⟨job, _, made⟩ := exists_of_mem_collect collected member
    simp only [encodeJob, bind_eq_ok, pure_eq_ok_iff] at made
    obtain ⟨_, _, rfl⟩ := made
    rfl
  · have jobsOf := @map_collect _ _ _ _ _ _ _ id HistoryJobRow.job collected (by
      intro job _ row made
      simp only [encodeJob, bind_eq_ok, pure_eq_ok_iff] at made
      obtain ⟨_, _, rfl⟩ := made
      rfl)
    simpa using jobsOf

/-- The encoded jobs have keys of their own. -/
theorem encodeArchiveStatistics_keyed (computed : encodeArchiveStatistics statistics generation = .ok encoded) :
    Keyed HistoryJobRow.jobKey encoded.jobs ∧ encoded.jobs.length = statistics.jobs.length := by
  obtain ⟨_, keys, jobs, _⟩ := encodeArchiveStatistics_eq_ok computed
  have identities : (encoded.jobs.map (·.job.providerJobId)).Nodup := by
    have distinct := statistics.admitted.1.nodup_map
    rw [← jobs, map_map] at distinct
    exact distinct
  refine ⟨?_, by rw [← jobs, length_map]⟩
  have pairs : encoded.jobs.map HistoryJobRow.jobKey =
      (encoded.jobs.map (·.job.providerJobId)).map fun id => (encoded.attempt.key, id) := by
    rw [map_map]
    exact map_congr_left fun row member => by rw [HistoryJobRow.jobKey, keys row member]; rfl
  rw [Keyed, pairs]
  exact identities.map fun first second same => (Prod.mk.inj same).2

end Encoding

section Lookup

variable {archive : HistoryArchive} {key : ArchiveKey}

theorem attemptOf_eq_some {row : HistoryAttemptRow} (found : archive.attemptOf key = some row) :
    row ∈ archive.attempts ∧ row.key = key :=
  ⟨mem_of_find?_eq_some found, by simpa using find?_some found⟩

theorem attemptOf_eq_none (missing : archive.attemptOf key = none) : ∀ row ∈ archive.attempts, row.key ≠ key := by
  intro row member
  simpa using find?_eq_none.mp missing row member

theorem datasetOf_eq_some {scope : RepositoryScope} {dataset : HistoryDataset}
    (found : archive.datasetOf scope = some dataset) : dataset ∈ archive.datasets ∧ dataset.scope = scope :=
  ⟨mem_of_find?_eq_some found, by simpa using find?_some found⟩

theorem mem_jobsOf {row : HistoryJobRow} : row ∈ archive.jobsOf key ↔ row ∈ archive.jobs ∧ row.key = key := by
  simp [HistoryArchive.jobsOf]

theorem length_jobsOf : (archive.jobsOf key).length = jobCountOf archive key := by
  rw [HistoryArchive.jobsOf, (sortBy_perm _ _).length_eq, jobCountOf, total]
  simp

theorem sum_jobsOf : ((archive.jobsOf key).map jobBytes).sum = total jobBytes (fun row => row.key = key) archive.jobs := by
  rw [HistoryArchive.jobsOf, ((sortBy_perm _ _).map jobBytes).sum_eq, total]

/-- The jobs of an attempt increase by their identities. -/
theorem jobsOf_increasing (kept : WellKept archive) :
    Increasing (fun row : HistoryJobRow => row.job.providerJobId) (archive.jobsOf key) := by
  refine sortBy_increasing ?_ ?_
  · exact (List.Nodup.of_map _ kept.jobs).filter _
  · intro left leftMember right rightMember same
    simp only [mem_filter, decide_eq_true_eq] at leftMember rightMember
    exact kept.jobs.eq_of_key leftMember.1 rightMember.1 (Prod.ext (leftMember.2.trans rightMember.2.symm) same)

end Lookup

section Jobs

variable {jobs added : List HistoryJobRow} {key : ArchiveKey} {weight : HistoryJobRow → Nat}

theorem key_of_mem_jobKeys (keys : ∀ row ∈ added, row.key = key) {row : HistoryJobRow}
    (member : row.jobKey ∈ added.map HistoryJobRow.jobKey) : row.key = key := by
  obtain ⟨other, inside, same⟩ := mem_map.mp member
  exact (congrArg Prod.fst same).symm.trans (keys other inside)

/-- The jobs of other attempts stay. -/
theorem total_upsert_elsewhere {chosen : ArchiveKey → Prop} [DecidablePred chosen] (keys : ∀ row ∈ added, row.key = key)
    (other : ¬ chosen key) :
    total weight (fun row => chosen row.key) (upsertRows HistoryJobRow.jobKey jobs added) =
      total weight (fun row => chosen row.key) jobs := by
  have exchanged := @total_upsertRows _ _ HistoryJobRow.jobKey jobs added (fun row => chosen row.key) _ _ weight _
  have replaced : total weight (fun row => chosen row.key ∧ row.jobKey ∈ added.map HistoryJobRow.jobKey) jobs = 0 :=
    total_eq_zero fun row _ both => other (key_of_mem_jobKeys keys both.2 ▸ both.1)
  have inserted : total weight (fun row => chosen row.key) added = 0 :=
    total_eq_zero fun row member picked => other (keys row member ▸ picked)
  omega

/-- The jobs of an attempt without jobs are inserted. -/
theorem total_upsert_fresh {chosen : ArchiveKey → Prop} [DecidablePred chosen] (keys : ∀ row ∈ added, row.key = key)
    (own : chosen key) (fresh : ∀ row ∈ jobs, row.key ≠ key) :
    total weight (fun row => chosen row.key) (upsertRows HistoryJobRow.jobKey jobs added) =
      total weight (fun row => chosen row.key) jobs + (added.map weight).sum := by
  have exchanged := @total_upsertRows _ _ HistoryJobRow.jobKey jobs added (fun row => chosen row.key) _ _ weight _
  have replaced : total weight (fun row => chosen row.key ∧ row.jobKey ∈ added.map HistoryJobRow.jobKey) jobs = 0 :=
    total_eq_zero fun row member both => fresh row member (key_of_mem_jobKeys keys both.2)
  have inserted : total weight (fun row => chosen row.key) added = (added.map weight).sum :=
    total_eq_sum fun row member => (keys row member).symm ▸ own
  omega

/-- The image of a job row that its weights depend on. -/
def jobImage (row : HistoryJobRow) : Int × List Nat :=
  (row.job.providerJobId, row.jobCanonical)

theorem nodup_jobImages {rows : List HistoryJobRow} (keyed : Keyed HistoryJobRow.jobKey rows)
    (keys : ∀ row ∈ rows, row.key = key) : (rows.map jobImage).Nodup := by
  refine List.Nodup.of_map (fun image => (key, image.1)) ?_
  rw [map_map]
  have same : rows.map ((fun image : Int × List Nat => (key, image.1)) ∘ jobImage) = rows.map HistoryJobRow.jobKey :=
    map_congr_left fun row member => by rw [HistoryJobRow.jobKey, keys row member]; rfl
  rw [same]
  exact keyed

end Jobs

section Refine

variable {archive : HistoryArchive} {encoded : List HistoryJobRow} {key : ArchiveKey}

theorem previousJob_eq_some {previous : List HistoryJobRow} {id : Int} {raw : List Nat}
    (found : previousJob previous id = some raw) :
    ∃ row ∈ previous, row.job.providerJobId = id ∧ row.jobCanonical = raw := by
  simp only [previousJob, Option.map_eq_some_iff] at found
  obtain ⟨row, located, same⟩ := found
  exact ⟨row, mem_of_find?_eq_some located, by simpa using find?_some located, same⟩

/-- The kept jobs of a refined attempt have the images of the encoded jobs that have not changed. -/
theorem kept_images (kept : WellKept archive) (keyed : Keyed HistoryJobRow.jobKey encoded) (keys : ∀ row ∈ encoded, row.key = key)
    (covers : ∀ row ∈ archive.jobs, row.key = key → ∃ other ∈ encoded, other.job.providerJobId = row.job.providerJobId)
    (image : Int × List Nat) :
    image ∈ ((deleteWhere (fun row => row.jobKey ∈ (changedJobs (archive.jobsOf key) encoded).map HistoryJobRow.jobKey)
        archive.jobs).filter fun row => decide (row.key = key)).map jobImage ↔
      image ∈ (encoded.filter fun row => decide (¬ previousJob (archive.jobsOf key) row.job.providerJobId ≠
        some row.jobCanonical)).map jobImage := by
  constructor
  · intro member
    obtain ⟨row, inside, rfl⟩ := mem_map.mp member
    simp only [mem_filter, mem_deleteWhere, decide_eq_true_eq] at inside
    obtain ⟨⟨stored, unchanged⟩, own⟩ := inside
    obtain ⟨other, present, sameId⟩ := covers row stored own
    have sameKey : other.jobKey = row.jobKey := Prod.ext ((keys other present).trans own.symm) sameId
    have same : previousJob (archive.jobsOf key) other.job.providerJobId = some other.jobCanonical := by
      by_contra differs
      refine unchanged (mem_map.mpr ⟨other, ?_, sameKey⟩)
      exact mem_filter.mpr ⟨present, by simpa using differs⟩
    obtain ⟨found, located, foundId, foundRaw⟩ := previousJob_eq_some same
    obtain ⟨storedFound, ownFound⟩ := mem_jobsOf.mp located
    have equal : found = row :=
      kept.jobs.eq_of_key storedFound stored (Prod.ext (ownFound.trans own.symm) (foundId.trans sameId))
    refine mem_map.mpr ⟨other, mem_filter.mpr ⟨present, by simpa using same⟩, ?_⟩
    rw [jobImage, jobImage, sameId, ← foundRaw, equal]
  · intro member
    obtain ⟨row, inside, rfl⟩ := mem_map.mp member
    simp only [mem_filter, decide_eq_true_eq, not_not] at inside
    obtain ⟨present, same⟩ := inside
    obtain ⟨found, located, foundId, foundRaw⟩ := previousJob_eq_some same
    obtain ⟨stored, own⟩ := mem_jobsOf.mp located
    refine mem_map.mpr ⟨found, mem_filter.mpr ⟨mem_deleteWhere.mpr ⟨stored, ?_⟩, by simpa using own⟩, ?_⟩
    · intro replaced
      obtain ⟨other, changed, sameKey⟩ := mem_map.mp replaced
      obtain ⟨otherPresent, differs⟩ := mem_filter.mp changed
      have sameRow : other.jobKey = row.jobKey :=
        sameKey.trans (Prod.ext (own.trans (keys row present).symm) foundId)
      have equal : other = row := keyed.eq_of_key otherPresent present sameRow
      subst equal
      exact absurd same (by simpa using differs)
    · rw [jobImage, jobImage, foundId, foundRaw]

/-- A refinement exchanges the jobs of its attempt for the encoded ones. -/
theorem total_upsert_refined {weight : HistoryJobRow → Nat} {chosen : ArchiveKey → Prop} [DecidablePred chosen]
    (kept : WellKept archive) (keyed : Keyed HistoryJobRow.jobKey encoded) (keys : ∀ row ∈ encoded, row.key = key)
    (covers : ∀ row ∈ archive.jobs, row.key = key → ∃ other ∈ encoded, other.job.providerJobId = row.job.providerJobId)
    (own : chosen key) (weighs : ∃ measure : Int × List Nat → Nat, ∀ row, weight row = measure (jobImage row)) :
    total weight (fun row => chosen row.key)
        (upsertRows HistoryJobRow.jobKey archive.jobs (changedJobs (archive.jobsOf key) encoded)) +
        total weight (fun row => row.key = key) archive.jobs =
      total weight (fun row => chosen row.key) archive.jobs + (encoded.map weight).sum := by
  obtain ⟨measure, weighs⟩ := weighs
  have weightEq : weight = fun row => measure (jobImage row) := funext weighs
  have changedKeys : ∀ row ∈ changedJobs (archive.jobsOf key) encoded, row.key = key :=
    fun row member => keys row (mem_of_mem_filter member)
  have exchanged := @total_upsertRows _ _ HistoryJobRow.jobKey archive.jobs (changedJobs (archive.jobsOf key) encoded)
    (fun row => chosen row.key) _ _ weight _
  have inserted : total weight (fun row => chosen row.key) (changedJobs (archive.jobsOf key) encoded) =
      ((changedJobs (archive.jobsOf key) encoded).map weight).sum :=
    total_eq_sum fun row member => (changedKeys row member).symm ▸ own
  have replaced : total weight (fun row => chosen row.key ∧
        row.jobKey ∈ (changedJobs (archive.jobsOf key) encoded).map HistoryJobRow.jobKey) archive.jobs =
      total weight (fun row => row.key = key ∧
        row.jobKey ∈ (changedJobs (archive.jobsOf key) encoded).map HistoryJobRow.jobKey) archive.jobs := by
    refine total_congr fun row _ => ⟨⟨?_, ?_⟩, fun _ => rfl⟩
    · exact fun both => ⟨key_of_mem_jobKeys changedKeys both.2, both.2⟩
    · exact fun both => ⟨both.1.symm ▸ own, both.2⟩
  have deleted := @total_deleteWhere _ weight (fun row : HistoryJobRow => row.key = key)
    (fun row => row.jobKey ∈ (changedJobs (archive.jobsOf key) encoded).map HistoryJobRow.jobKey) _ _ archive.jobs _
  have parts := sum_filter_add weight
    (fun row : HistoryJobRow => previousJob (archive.jobsOf key) row.job.providerJobId ≠ some row.jobCanonical) encoded
  have images : total weight (fun row => row.key = key)
      (deleteWhere (fun row => row.jobKey ∈ (changedJobs (archive.jobsOf key) encoded).map HistoryJobRow.jobKey) archive.jobs) =
      ((encoded.filter fun row => decide (¬ previousJob (archive.jobsOf key) row.job.providerJobId ≠
        some row.jobCanonical)).map weight).sum := by
    rw [total, weightEq]
    refine sum_eq_of_images ?_ ?_ (kept_images kept keyed keys covers)
    · refine @nodup_jobImages key _ ?_ fun row member => by simpa using (mem_filter.mp member).2
      exact (kept.jobs.deleteWhere).sublist (filter_sublist.map _)
    · refine @nodup_jobImages key _ (keyed.sublist (filter_sublist.map _)) ?_
      exact fun row member => keys row (mem_of_mem_filter member)
  rw [changedJobs] at inserted exchanged replaced deleted images
  rw [changedJobs]
  omega

end Refine

end CiCoordinator.Persistence

import CiCoordinator.Persistence.HistoryTables

/- What each transaction of the archive exchanges in the totals over its rows. -/

namespace CiCoordinator.Persistence

open Library CiEconomics HistoryArchive List

/-- The count of the jobs of another attempt stays. -/
theorem jobCount_upsert {archive : HistoryArchive} {added : List HistoryJobRow} {key other : ArchiveKey}
    (keys : ∀ row ∈ added, row.key = key) (different : key ≠ other) :
    total (fun _ => 1) (fun row => row.key = other) (upsertRows HistoryJobRow.jobKey archive.jobs added) =
      jobCountOf archive other :=
  @total_upsert_elsewhere archive.jobs added key (fun _ => 1) (fun found => found = other) _ keys different

/-- An update that keeps the keys keeps the parents. -/
theorem exists_updated {attempts : List HistoryAttemptRow} {chosen : HistoryAttemptRow → Prop} [DecidablePred chosen]
    {change : HistoryAttemptRow → HistoryAttemptRow} {key : ArchiveKey} (sameKey : ∀ row, (change row).key = row.key)
    (stored : ∃ parent ∈ attempts, parent.key = key) : ∃ parent ∈ updateWhere chosen change attempts, parent.key = key := by
  obtain ⟨parent, present, parentKey⟩ := stored
  by_cases changed : chosen parent
  · exact ⟨change parent, mem_updateWhere.mpr (.inr ⟨parent, present, changed, rfl⟩), by rw [sameKey, parentKey]⟩
  · exact ⟨parent, mem_updateWhere.mpr (.inl ⟨present, changed⟩), parentKey⟩

section Record

variable {archive : HistoryArchive} {dataset : HistoryDataset} {statistics : ArchivedAttemptStatistics}
  {encoded : EncodedArchiveStatistics} {row : HistoryAttemptRow}

/-- The first statistics of an attempt add its row and its jobs. -/
theorem record_exchanges (kept : WellKept archive) (member : dataset ∈ archive.datasets)
    (scope : dataset.scope = statistics.header.attempt.scope)
    (computed : encodeArchiveStatistics statistics dataset.generation = .ok encoded)
    (missing : archive.attemptOf encoded.attempt.key = none) (columns : row.columns = encoded.attempt)
    (header : row.header = statistics.header) :
    Exchanges archive
      { archive with
        attempts := archive.attempts ++ [row]
        jobs := upsertRows HistoryJobRow.jobKey archive.jobs encoded.jobs }
      dataset ⟨0, 0, 0, 0⟩ ⟨1, statistics.jobs.length, 0, encoded.canonicalBytes⟩ := by
  obtain ⟨key, keys, jobs, _, bytes, _⟩ := encodeArchiveStatistics_eq_ok computed
  obtain ⟨keyed, length⟩ := encodeArchiveStatistics_keyed computed
  have rowKey : row.key = encoded.attempt.key := by rw [HistoryAttemptRow.key, columns]
  have own : encoded.attempt.key.InDataset dataset := by
    rw [key]
    exact ⟨scope.symm, rfl⟩
  have absent := attemptOf_eq_none missing
  have fresh : ∀ job ∈ archive.jobs, job.key ≠ encoded.attempt.key := by
    intro job stored same
    obtain ⟨parent, present, parentKey⟩ := kept.jobParents job stored
    exact absent parent present (parentKey.trans same)
  have ownCount : total (fun _ => 1) (fun job => job.key = encoded.attempt.key)
      (upsertRows HistoryJobRow.jobKey archive.jobs encoded.jobs) = statistics.jobs.length := by
    rw [@total_upsert_fresh archive.jobs encoded.jobs encoded.attempt.key (fun _ => 1)
      (fun found => found = encoded.attempt.key) _ keys rfl fresh, total_eq_zero fresh, Nat.zero_add, ← length]
    simp
  have rowBytes : headerBytes row = encoded.attempt.headerCanonical.length := by rw [headerBytes, columns]
  refine
    { kept :=
        { kept with
          attempts := kept.attempts.insert fun found inside => by rw [rowKey]; exact absent found inside
          jobs := kept.jobs.upsertRows keyed
          jobParents := ?_
          detailParents := fun detail stored =>
            (kept.detailParents detail stored).imp fun _ parent => ⟨mem_append_left _ parent.1, parent.2⟩
          attemptOwners := ?_
          counted := ?_ }
      datasets := rfl
      attempts := ?_
      jobs := ?_
      gaps := rfl
      canonicalBytes := ?_
      elsewhere := ?_ }
  · intro job inside
    rcases mem_upsertRows.mp inside with ⟨stored, _⟩ | added
    · obtain ⟨parent, present, parentKey⟩ := kept.jobParents job stored
      exact ⟨parent, mem_append_left _ present, parentKey⟩
    · exact ⟨row, by simp, rowKey.trans (keys job added).symm⟩
  · intro found inside
    rcases mem_append.mp inside with stored | last
    · exact kept.attemptOwners found stored
    · rw [mem_singleton.mp last]
      exact ⟨dataset, member, rowKey ▸ own⟩
  · intro found inside
    rcases mem_append.mp inside with stored | last
    · have count := @jobCount_upsert archive encoded.jobs encoded.attempt.key found.key keys (absent found stored).symm
      rw [jobCountOf, count]
      exact kept.counted found stored
    · rw [mem_singleton.mp last, jobCountOf, rowKey, ownCount, header]
      exact statistics.admitted.2
  · simp only [HistoryArchive.occupied, total_append, total_cons, total_nil, rowKey, if_pos
      (show encoded.attempt.key.At dataset.scope dataset.generation from own)]
  · simp only [HistoryArchive.occupied]
    rw [@total_upsert_fresh archive.jobs encoded.jobs encoded.attempt.key (fun _ => 1)
      (fun found => found.At dataset.scope dataset.generation) _ keys own fresh, ← length]
    simp
  · simp only [HistoryArchive.occupied, total_append, total_cons, total_nil, rowKey, if_pos
      (show encoded.attempt.key.At dataset.scope dataset.generation from own), rowBytes, bytes]
    rw [@total_upsert_fresh archive.jobs encoded.jobs encoded.attempt.key jobBytes
      (fun found => found.At dataset.scope dataset.generation) _ keys own fresh]
    omega
  · intro otherScope otherGeneration different
    have foreign : ¬ encoded.attempt.key.At otherScope otherGeneration := fun same =>
      different ⟨own.1.symm.trans same.1, own.2.symm.trans same.2⟩
    have jobRows := @filter_upsertRows _ _ HistoryJobRow.jobKey archive.jobs encoded.jobs
      (fun job => job.key.At otherScope otherGeneration) _ _ (fun job added => keys job added ▸ foreign)
      (fun job listed => key_of_mem_jobKeys keys listed ▸ foreign)
    simp [rowsOf, rowKey, foreign, jobRows]

end Record

section Refine

variable {archive : HistoryArchive} {dataset : HistoryDataset} {previous statistics : ArchivedAttemptStatistics}
  {encoded : EncodedArchiveStatistics} {prior : HistoryAttemptRow}

/-- What the stored statistics of an attempt occupy. -/
theorem decodeArchiveStatistics_eq_ok {jobs : List HistoryJobRow} (decoded : decodeArchiveStatistics prior jobs = .ok previous) :
    previous.header = prior.header ∧ previous.jobs = jobs.map HistoryJobRow.job ∧
      prior.columns.statisticsBytes = headerBytes prior + (jobs.map jobBytes).sum ∧
      prior.columns.statisticsBytes ≤ maxHistoryStatisticsBytes := by
  simp only [decodeArchiveStatistics, bind_eq_ok, pure_eq_ok_iff] at decoded
  obtain ⟨_, _, found, made, again, computed, _, columns, _, pairs, rfl⟩ := decoded
  have fields : found.toArchivedAttemptStatisticsFields = ⟨prior.header, jobs.map HistoryJobRow.job⟩ := by
    unfold ArchivedAttemptStatistics.make at made
    split at made
    · cases made
      rfl
    · cases made
  have header : found.header = prior.header := by rw [fields]
  have sameJobs : found.jobs = jobs.map HistoryJobRow.job := by rw [fields]
  obtain ⟨_, _, encodedJobs, statisticsBytes, bytes, bounded⟩ := encodeArchiveStatistics_eq_ok computed
  simp only [matchColumns, differingColumns, forEach_eq_ok, raiseIf_eq_ok, mem_cons, not_mem_nil, or_false,
    forall_eq_or_imp, forall_eq, Bool.not_eq_false, decide_eq_true_eq] at columns
  obtain ⟨_, _, _, _, _, _, _, _, headerCanonical, _, _, storedBytes⟩ := columns
  have lengths : jobs.map jobBytes = again.jobs.map jobBytes := by
    have sameLength : jobs.length = again.jobs.length := by
      have counted := congrArg List.length encodedJobs
      rw [sameJobs, length_map, length_map] at counted
      exact counted.symm
    refine ext_getElem (by simpa using sameLength) fun index left right => ?_
    rw [length_map] at left right
    have entry : (jobs[index], again.jobs[index]) ∈ jobs.zip again.jobs :=
      mem_iff_getElem.mpr ⟨index, by rw [length_zip]; omega, getElem_zip⟩
    have matched := forEach_eq_ok.mp pairs _ entry
    simp only [matchColumns, forEach_eq_ok, raiseIf_eq_ok, mem_cons, not_mem_nil, or_false, forall_eq,
      Bool.not_eq_false, decide_eq_true_eq] at matched
    simp only [getElem_map, jobBytes, matched]
  refine ⟨header, sameJobs, ?_, by rw [storedBytes, statisticsBytes]; exact bounded⟩
  rw [storedBytes, statisticsBytes, bytes, headerBytes, headerCanonical, lengths]

/-- A refinement exchanges the resources of its attempt. -/
theorem refine_exchanges (kept : WellKept archive) (found : archive.attemptOf encoded.attempt.key = some prior)
    (scope : dataset.scope = statistics.header.attempt.scope)
    (computed : encodeArchiveStatistics statistics dataset.generation = .ok encoded)
    (decoded : decodeArchiveStatistics prior (archive.jobsOf encoded.attempt.key) = .ok previous)
    (covers : coversJobs statistics previous) {refine : HistoryAttemptRow → HistoryAttemptRow}
    (sameKey : ∀ row, (refine row).key = row.key) (header : ∀ row, (refine row).header = statistics.header)
    (bytes : ∀ row, headerBytes (refine row) = encoded.attempt.headerCanonical.length) :
    Exchanges archive
      { archive with
        attempts := updateWhere (fun row => row.key = prior.key) refine archive.attempts
        jobs := upsertRows HistoryJobRow.jobKey archive.jobs
          (changedJobs (archive.jobsOf encoded.attempt.key) encoded.jobs) }
      dataset ⟨1, previous.jobs.length, 0, prior.columns.statisticsBytes⟩
      ⟨1, statistics.jobs.length, 0, encoded.canonicalBytes⟩ := by
  obtain ⟨key, keys, jobs, _, total_, _⟩ := encodeArchiveStatistics_eq_ok computed
  obtain ⟨keyed, length⟩ := encodeArchiveStatistics_keyed computed
  obtain ⟨present, priorKey⟩ := attemptOf_eq_some found
  obtain ⟨_, previousJobs, priorBytes, _⟩ := decodeArchiveStatistics_eq_ok decoded
  have own : encoded.attempt.key.InDataset dataset := by
    rw [key]
    exact ⟨scope.symm, rfl⟩
  have oldCount : previous.jobs.length = jobCountOf archive encoded.attempt.key := by
    rw [previousJobs, length_map, length_jobsOf]
  have changedKeys : ∀ row ∈ changedJobs (archive.jobsOf encoded.attempt.key) encoded.jobs,
      row.key = encoded.attempt.key := fun row inside => keys row (mem_of_mem_filter inside)
  have covered : ∀ row ∈ archive.jobs, row.key = encoded.attempt.key →
      ∃ other ∈ encoded.jobs, other.job.providerJobId = row.job.providerJobId := by
    intro row stored sameAttempt
    have job : row.job ∈ previous.jobs := by
      rw [previousJobs]
      exact mem_map_of_mem (mem_jobsOf.mpr ⟨stored, sameAttempt⟩)
    obtain ⟨other, located⟩ := Option.ne_none_iff_exists'.mp (covers row.job job)
    have inside : other ∈ encoded.jobs.map HistoryJobRow.job := by
      rw [jobs]
      exact mem_of_find?_eq_some located
    obtain ⟨encodedRow, member, rfl⟩ := mem_map.mp inside
    exact ⟨encodedRow, member, by simpa using find?_some located⟩
  have counts : ∀ (chosen : ArchiveKey → Prop) [DecidablePred chosen], chosen encoded.attempt.key →
      total (fun _ => 1) (fun row => chosen row.key) (upsertRows HistoryJobRow.jobKey archive.jobs
          (changedJobs (archive.jobsOf encoded.attempt.key) encoded.jobs)) + previous.jobs.length =
        total (fun _ => 1) (fun row => chosen row.key) archive.jobs + statistics.jobs.length := by
    intro chosen _ picked
    have exchanged := @total_upsert_refined archive encoded.jobs encoded.attempt.key (fun _ => 1) chosen _ kept keyed keys
      covered picked ⟨fun _ => 1, fun _ => rfl⟩
    rw [oldCount, ← length]
    simpa [jobCountOf] using exchanged
  have rowCount : ∀ otherScope otherGeneration,
      total (fun _ => 1) (fun row : HistoryAttemptRow => row.key.At otherScope otherGeneration)
          (updateWhere (fun row => row.key = prior.key) refine archive.attempts) =
        total (fun _ => 1) (fun row : HistoryAttemptRow => row.key.At otherScope otherGeneration) archive.attempts :=
    fun otherScope otherGeneration => total_updateWhere (fun row => by rw [sameKey]) (fun _ => rfl)
  have rowSum := @total_updateWhere_change _ headerBytes (fun row : HistoryAttemptRow => row.key.At dataset.scope
    dataset.generation) (fun row => row.key = prior.key) _ _ archive.attempts refine (fun row => by rw [sameKey])
  have single : ∀ weight : HistoryAttemptRow → Nat,
      total weight (fun row => row.key.At dataset.scope dataset.generation ∧ row.key = prior.key) archive.attempts =
        weight prior := by
    intro weight
    refine total_single kept.attempts present fun row _ => ⟨fun both => both.2, fun same => ⟨?_, same⟩⟩
    rw [same, priorKey]
    exact own
  rw [single, single, bytes] at rowSum
  have jobSum := @total_upsert_refined archive encoded.jobs encoded.attempt.key jobBytes
    (fun found => found.At dataset.scope dataset.generation) _ kept keyed keys covered own
    ⟨fun image => image.2.length, fun _ => rfl⟩
  refine
    { kept :=
        { kept with
          attempts := kept.attempts.updateWhere fun row _ => sameKey row
          jobs := kept.jobs.upsertRows (keyed.sublist (filter_sublist.map _))
          jobParents := ?_
          detailParents := ?_
          attemptOwners := ?_
          counted := ?_ }
      datasets := rfl
      attempts := ?_
      jobs := counts (fun found => found.At dataset.scope dataset.generation) own
      gaps := rfl
      canonicalBytes := ?_
      elsewhere := ?_ }
  · intro job inside
    have stored : ∃ parent ∈ archive.attempts, parent.key = job.key := by
      rcases mem_upsertRows.mp inside with ⟨old, _⟩ | added
      · exact kept.jobParents job old
      · exact ⟨prior, present, priorKey.trans (changedKeys job added).symm⟩
    exact exists_updated sameKey stored
  · exact fun detail stored => exists_updated sameKey (kept.detailParents detail stored)
  · intro row inside
    rcases mem_updateWhere.mp inside with ⟨stored, _⟩ | ⟨old, stored, _, rfl⟩
    · exact kept.attemptOwners row stored
    · rw [sameKey]
      exact kept.attemptOwners old stored
  · intro row inside
    rcases mem_updateWhere.mp inside with ⟨stored, other⟩ | ⟨old, stored, same, rfl⟩
    · have count := @jobCount_upsert archive _ encoded.attempt.key row.key changedKeys
        (fun equal => other (equal.symm.trans priorKey.symm))
      rw [jobCountOf, count]
      exact kept.counted row stored
    · have count := counts (fun found => found = encoded.attempt.key) rfl
      rw [sameKey, header, same, priorKey, jobCountOf]
      have admitted := statistics.admitted.2
      rw [oldCount, jobCountOf] at count
      rwa [show total (fun _ => 1) (fun row => row.key = encoded.attempt.key) (upsertRows HistoryJobRow.jobKey archive.jobs
        (changedJobs (archive.jobsOf encoded.attempt.key) encoded.jobs)) = statistics.jobs.length by omega]
  · simp only [HistoryArchive.occupied, rowCount]
  · simp only [HistoryArchive.occupied]
    rw [priorBytes, total_, sum_jobsOf]
    omega
  · intro otherScope otherGeneration different
    have foreign : ¬ encoded.attempt.key.At otherScope otherGeneration := fun same =>
      different ⟨own.1.symm.trans same.1, own.2.symm.trans same.2⟩
    have attemptRows := @filter_updateWhere _ archive.attempts (fun row => row.key.At otherScope otherGeneration)
      (fun row => row.key = prior.key) _ _ refine fun row same => by
        rw [sameKey, same, priorKey]
        exact ⟨foreign, foreign⟩
    have jobRows := @filter_upsertRows _ _ HistoryJobRow.jobKey archive.jobs
      (changedJobs (archive.jobsOf encoded.attempt.key) encoded.jobs) (fun job => job.key.At otherScope otherGeneration) _ _
      (fun job added => changedKeys job added ▸ foreign) (fun job listed => key_of_mem_jobKeys changedKeys listed ▸ foreign)
    simp only [rowsOf, attemptRows, jobRows]

end Refine

section Updates

variable {archive tables : HistoryArchive} {dataset : HistoryDataset} {removed added : Occupation}

theorem Exchanges.refl (kept : WellKept archive) : Exchanges archive archive dataset ⟨0, 0, 0, 0⟩ ⟨0, 0, 0, 0⟩ :=
  ⟨kept, rfl, rfl, rfl, rfl, rfl, fun _ _ _ => rfl⟩

/-- An update of attempts that keeps their keys and their headers exchanges nothing more. -/
theorem Exchanges.mapAttempts (exchanged : Exchanges archive tables dataset removed added)
    (change : HistoryAttemptRow → HistoryAttemptRow) (columns : ∀ row, (change row).columns = row.columns)
    (header : ∀ row, (change row).header = row.header)
    (apart : ∀ row : HistoryAttemptRow, ¬ row.key.InDataset dataset → change row = row) :
    Exchanges archive { tables with attempts := tables.attempts.map change } dataset removed added := by
  have sameKey : ∀ row, (change row).key = row.key := fun row => by
    rw [HistoryAttemptRow.key, columns]
    rfl
  have bytes : ∀ row, headerBytes (change row) = headerBytes row := fun row => by rw [headerBytes, columns, headerBytes]
  have totals : ∀ scope generation,
      HistoryArchive.occupied { tables with attempts := tables.attempts.map change } scope generation =
        tables.occupied scope generation := by
    intro scope generation
    have count : total (fun _ => 1) (fun row : HistoryAttemptRow => row.key.At scope generation) (tables.attempts.map change) =
          total (fun _ => 1) (fun row : HistoryAttemptRow => row.key.At scope generation) tables.attempts :=
      total_map (fun row => by rw [sameKey]) (fun _ => rfl)
    have size : total headerBytes (fun row : HistoryAttemptRow => row.key.At scope generation) (tables.attempts.map change) =
          total headerBytes (fun row : HistoryAttemptRow => row.key.At scope generation) tables.attempts :=
      total_map (fun row => by rw [sameKey]) bytes
    simp only [HistoryArchive.occupied, count, size]
  have kept := exchanged.kept
  have parent : ∀ key, (∃ parent ∈ tables.attempts, parent.key = key) →
      ∃ parent ∈ tables.attempts.map change, parent.key = key := by
    rintro key ⟨found, present, rfl⟩
    exact ⟨change found, mem_map_of_mem present, sameKey found⟩
  have keys : (tables.attempts.map change).map HistoryAttemptRow.key = tables.attempts.map HistoryAttemptRow.key := by
    rw [map_map]
    exact map_congr_left fun row _ => sameKey row
  refine
    { kept :=
        { kept with
          attempts := ?_
          jobParents := fun row stored => parent _ (kept.jobParents row stored)
          detailParents := fun row stored => parent _ (kept.detailParents row stored)
          attemptOwners := ?_
          counted := ?_ }
      datasets := exchanged.datasets
      attempts := by rw [totals]; exact exchanged.attempts
      jobs := by rw [totals]; exact exchanged.jobs
      gaps := by rw [totals]; exact exchanged.gaps
      canonicalBytes := by rw [totals]; exact exchanged.canonicalBytes
      elsewhere := ?_ }
  · rw [Keyed, keys]
    exact kept.attempts
  · intro row inside
    obtain ⟨found, present, rfl⟩ := mem_map.mp inside
    rw [sameKey]
    exact kept.attemptOwners found present
  · intro row inside
    obtain ⟨found, present, rfl⟩ := mem_map.mp inside
    rw [sameKey, header]
    exact kept.counted found present
  · intro scope generation different
    have attemptRows : ((tables.attempts.map change).filter fun row => decide (row.key.At scope generation)) =
        tables.attempts.filter fun row => decide (row.key.At scope generation) := by
      refine filter_map_apart (fun row => by rw [sameKey]) fun row found => apart row fun own => different ?_
      exact ⟨own.1.symm.trans found.1, own.2.symm.trans found.2⟩
    rw [← exchanged.elsewhere scope generation different]
    simp only [rowsOf, attemptRows]

/-- A gap with a new key adds its bytes. -/
theorem gap_exchanges {row : HistoryGapRow} (kept : WellKept archive) (member : dataset ∈ archive.datasets)
    (scope : row.scope = dataset.scope) (generation : row.generation = dataset.generation)
    (missing : ∀ found ∈ archive.gaps, found.gapKey ≠ row.gapKey) :
    Exchanges archive { archive with gaps := archive.gaps ++ [row] } dataset ⟨0, 0, 0, 0⟩ ⟨0, 0, 1, gapBytes row⟩ := by
  have own : row.At dataset.scope dataset.generation := ⟨scope, generation⟩
  refine
    { kept := { kept with
        gaps := kept.gaps.insert missing
        gapOwners := ?_ }
      datasets := rfl
      attempts := rfl
      jobs := rfl
      gaps := ?_
      canonicalBytes := ?_
      elsewhere := ?_ }
  · intro found inside
    rcases mem_append.mp inside with stored | last
    · exact kept.gapOwners found stored
    · rw [mem_singleton.mp last]
      exact ⟨dataset, member, own⟩
  · simp only [HistoryArchive.occupied, total_append, total_cons, total_nil, if_pos own]
  · simp only [HistoryArchive.occupied, total_append, total_cons, total_nil, if_pos own]
    omega
  · intro otherScope otherGeneration different
    have foreign : ¬ row.At otherScope otherGeneration := fun same =>
      different ⟨own.1.symm.trans same.1, own.2.symm.trans same.2⟩
    simp [rowsOf, foreign]

/-- The detail of an attempt without a detail adds its bytes. -/
theorem detail_exchanges {row : HistoryDetailRow} (kept : WellKept archive) (own : row.key.InDataset dataset)
    (parent : ∃ parent ∈ archive.attempts, parent.key = row.key) (missing : ∀ found ∈ archive.details, found.key ≠ row.key)
    (size : 1 ≤ detailBytes row ∧ detailBytes row ≤ maxHistoryDetailBytes) :
    Exchanges archive { archive with details := archive.details ++ [row] } dataset ⟨0, 0, 0, 0⟩ ⟨0, 0, 0, detailBytes row⟩ := by
  refine
    { kept := { kept with
        details := kept.details.insert missing
        detailParents := ?_
        sizes := ?_ }
      datasets := rfl
      attempts := rfl
      jobs := rfl
      gaps := rfl
      canonicalBytes := ?_
      elsewhere := ?_ }
  · intro found inside
    rcases mem_append.mp inside with stored | last
    · exact kept.detailParents found stored
    · rw [mem_singleton.mp last]
      exact parent
  · intro found inside
    rcases mem_append.mp inside with stored | last
    · exact kept.sizes found stored
    · rw [mem_singleton.mp last]
      exact size
  · simp only [HistoryArchive.occupied, total_append, total_cons, total_nil, if_pos
      (show row.key.At dataset.scope dataset.generation from own)]
    omega
  · intro otherScope otherGeneration different
    have foreign : ¬ row.key.At otherScope otherGeneration := fun same =>
      different ⟨own.1.symm.trans same.1, own.2.symm.trans same.2⟩
    simp [rowsOf, foreign]

/-- The deletion of details of a dataset gives back their bytes. -/
theorem deletion_exchanges {keys : List ArchiveKey} (kept : WellKept archive) (own : ∀ key ∈ keys, key.InDataset dataset) :
    Exchanges archive { archive with details := deleteWhere (fun row => row.key ∈ keys) archive.details } dataset
      ⟨0, 0, 0, ((deletedDetails archive keys).map detailBytes).sum⟩ ⟨0, 0, 0, 0⟩ := by
  have sum : ∀ scope generation, total detailBytes (fun row : HistoryDetailRow => row.key.At scope generation)
      (deleteWhere (fun row => row.key ∈ keys) archive.details) +
        total detailBytes (fun row : HistoryDetailRow => row.key.At scope generation ∧ row.key ∈ keys) archive.details =
      total detailBytes (fun row : HistoryDetailRow => row.key.At scope generation) archive.details :=
    fun scope generation => total_deleteWhere
  refine
    { kept := { kept with
        details := kept.details.deleteWhere
        detailParents := fun row inside => kept.detailParents row (mem_deleteWhere.mp inside).1
        sizes := fun row inside => kept.sizes row (mem_deleteWhere.mp inside).1 }
      datasets := rfl
      attempts := rfl
      jobs := rfl
      gaps := rfl
      canonicalBytes := ?_
      elsewhere := ?_ }
  · have deleted : total detailBytes (fun row : HistoryDetailRow => row.key.At dataset.scope dataset.generation ∧
        row.key ∈ keys) archive.details = ((deletedDetails archive keys).map detailBytes).sum := by
      rw [deletedDetails, ← total]
      exact total_congr fun row _ => ⟨⟨fun both => both.2, fun listed => ⟨own row.key listed, listed⟩⟩, fun _ => rfl⟩
    have split := sum dataset.scope dataset.generation
    simp only [HistoryArchive.occupied]
    omega
  · intro otherScope otherGeneration different
    have detailRows := @filter_deleteWhere _ archive.details (fun row => row.key.At otherScope otherGeneration)
      (fun row => row.key ∈ keys) _ _ fun row found listed =>
        different ⟨(own row.key listed).1.symm.trans found.1, (own row.key listed).2.symm.trans found.2⟩
    simp only [rowsOf, detailRows]

end Updates

end CiCoordinator.Persistence

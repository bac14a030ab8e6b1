import CiCoordinator.CiEconomics.ArchiveRefinement
import CiCoordinator.Persistence.HistorySettlement

/- What a store does to the statistics of an attempt that the archive already has. -/

namespace CiCoordinator.Persistence

open Library CiEconomics ArchivedAttemptStatistics

section Stores

variable {archive written tables : HistoryArchive} {dataset changed : HistoryDataset} {prior : HistoryAttemptRow}
  {previous statistics : ArchivedAttemptStatistics} {encoded : EncodedArchiveStatistics} {jobs : List HistoryJobRow}
  {outcome : StatisticsStoreOutcome} {now : Instant}

/-- The statistics of all attempts are as before. -/
structure SameStatistics (archive written : HistoryArchive) : Prop where
  attempts : (written.attempts.map fun row => (row.columns, row.header)) = archive.attempts.map fun row => (row.columns, row.header)
  jobs : written.jobs = archive.jobs

theorem SameStatistics.refl (archive : HistoryArchive) : SameStatistics archive archive :=
  ⟨rfl, rfl⟩

/-- A write of a dataset changes no other table. -/
theorem writeHistoryDataset_tables (wrote : writeHistoryDataset archive dataset changed = .ok written) :
    written.attempts = archive.attempts ∧ written.jobs = archive.jobs := by
  simp only [writeHistoryDataset, bind_eq_ok, pure_eq_ok_iff] at wrote
  obtain ⟨-, -, -, -, rfl⟩ := wrote
  exact ⟨rfl, rfl⟩

theorem markConflict_sameStatistics (marked : markConflict archive dataset prior = .ok (written, changed, outcome)) :
    SameStatistics archive written ∧ outcome = .conflict := by
  unfold markConflict at marked
  split at marked
  · cases marked
    exact ⟨.refl archive, rfl⟩
  · simp only [bind_eq_ok] at marked
    obtain ⟨advanced, -, stored, wrote, rfl, rfl, rfl⟩ := marked
    obtain ⟨attempts, jobs⟩ := writeHistoryDataset_tables wrote
    refine ⟨⟨?_, jobs⟩, rfl⟩
    rw [attempts, updateWhere, List.map_map]
    refine List.map_congr_left fun row _ => ?_
    rw [Function.comp_apply]
    split <;> rfl

/-- A change of rows that keeps their keys changes what is found under a key. -/
theorem attemptOf_updateWhere {key : ArchiveKey} {change : HistoryAttemptRow → HistoryAttemptRow}
    (same : ∀ row, (change row).key = row.key)
    (updated : written.attempts = updateWhere (fun row => row.key = prior.key) change archive.attempts) :
    written.attemptOf key = (archive.attemptOf key).map fun row => if row.key = prior.key then change row else row := by
  have kept : ((fun row : HistoryAttemptRow => decide (row.key = key)) ∘ fun row =>
      if row.key = prior.key then change row else row) = fun row => decide (row.key = key) := by
    funext row
    rw [Function.comp_apply]
    split
    · rw [same]
    · rfl
  rw [HistoryArchive.attemptOf, updated, updateWhere, List.find?_map, kept]
  rfl

/-- A refinement that is stored puts the new header into the row of its attempt. -/
theorem refineStatistics_header (located : archive.attemptOf prior.key = some prior)
    (refined : refineStatistics archive dataset prior jobs previous statistics encoded = .ok (written, changed, outcome)) :
    (outcome = .capacityReached ∧ written = archive) ∨
      (outcome = .refined ∧ (written.attemptOf prior.key).map HistoryAttemptRow.header = some statistics.header ∧
        written.jobs = upsertRows HistoryJobRow.jobKey archive.jobs (changedJobs jobs encoded.jobs)) := by
  simp only [refineStatistics, bind_eq_ok] at refined
  obtain ⟨removed, -, released, -, addition, -, reserved, -, refined⟩ := refined
  cases reserved with
  | none =>
    cases refined
    exact .inl ⟨rfl, rfl⟩
  | some usage =>
    simp only [bind_eq_ok, pure_eq_ok_iff, Prod.mk.injEq] at refined
    obtain ⟨advanced, -, stored, wrote, rfl, rfl, rfl⟩ := refined
    obtain ⟨attempts, jobs⟩ := writeHistoryDataset_tables wrote
    refine .inr ⟨rfl, ?_, jobs⟩
    have changes : stored.attemptOf prior.key = _ := attemptOf_updateWhere (fun _ => by rfl) attempts
    rw [changes, located, Option.map_some, if_pos rfl]
    rfl

/-- A store changes the statistics of an attempt that the archive has only when they are refined; the new statistics then
keep the facts of the stored ones. -/
theorem storeHistoryStatistics_refines
    (located : archive.attemptOf (AttemptIdentity.archiveKey statistics.header.attempt dataset.generation) = some prior)
    (stored : storeHistoryStatistics archive dataset statistics now = .ok (written, changed, outcome)) :
    ∃ previous, decodeArchiveStatistics prior (archive.jobsOf prior.key) = .ok previous ∧
      (outcome ≠ .refined → SameStatistics archive written) ∧
      (outcome = .refined → statistics.KeepsFacts previous ∧
        (written.attemptOf prior.key).map HistoryAttemptRow.header = some statistics.header) := by
  have key := (attemptOf_eq_some located).2
  simp only [storeHistoryStatistics, bind_eq_ok] at stored
  obtain ⟨selected, -, -, -, encoded, computed, stored⟩ := stored
  simp only [located, bind_eq_ok] at stored
  obtain ⟨jobs, loaded, previous, decoded, stored⟩ := stored
  obtain rfl := loadHistoryJobs_eq_ok loaded
  rw [← key] at decoded located
  refine ⟨previous, decoded, ?_⟩
  split at stored
  · cases stored
    exact ⟨fun _ => .refl archive, fun refined => by cases refined⟩
  · cases stored
    exact ⟨fun _ => .refl archive, fun refined => by cases refined⟩
  · obtain ⟨same, rfl⟩ := markConflict_sameStatistics stored
    exact ⟨fun _ => same, fun refined => by cases refined⟩
  · rename_i classified
    have refined : classifyArchiveUpdate previous statistics = .refined := by
      split at classified
      · cases classified
      · exact classified
    rcases refineStatistics_header located stored with ⟨rfl, rfl⟩ | ⟨rfl, header, -⟩
    · exact ⟨fun _ => .refl _, fun refined => by cases refined⟩
    · exact ⟨fun changed => absurd rfl changed, fun _ => ⟨keepsFacts_of_refined refined, header⟩⟩

/-- The verdicts on updates of the archive are those of an order of information: conflicts are mutual, a refinement is
unchanged in the other direction, statistics that are unchanged in both directions are the same, refinements compose, and a
store that replaces statistics keeps every fact of them. -/
theorem archive_refinement_order :
    (∀ a b, classifyArchiveUpdate a b = .conflict ↔ classifyArchiveUpdate b a = .conflict) ∧
      (∀ a b, classifyArchiveUpdate a b = .refined → classifyArchiveUpdate b a = .unchanged) ∧
      (∀ a b, classifyArchiveUpdate a b = .unchanged →
        (classifyArchiveUpdate b a = .unchanged ∨ classifyArchiveUpdate b a = .refined) ∧
          (classifyArchiveUpdate b a = .unchanged → a = b)) ∧
      (∀ a b c, classifyArchiveUpdate a b = .refined → classifyArchiveUpdate b c = .refined →
        classifyArchiveUpdate a c = .refined) ∧
      ∀ archive dataset statistics now written changed outcome prior,
        archive.attemptOf (AttemptIdentity.archiveKey statistics.header.attempt dataset.generation) = some prior →
        storeHistoryStatistics archive dataset statistics now = .ok (written, changed, outcome) →
        ∃ previous, decodeArchiveStatistics prior (archive.jobsOf prior.key) = .ok previous ∧
          (outcome ≠ .refined → SameStatistics archive written) ∧
          (outcome = .refined → statistics.KeepsFacts previous ∧
            (written.attemptOf prior.key).map HistoryAttemptRow.header = some statistics.header) := by
  refine ⟨classify_conflict_comm, ?_, ?_, ?_, ?_⟩
  · exact fun _ _ => unchanged_of_refined
  · exact fun _ _ => refined_of_unchanged
  · exact fun _ _ _ => refined_trans
  · exact fun _ _ _ _ _ _ _ _ located stored => storeHistoryStatistics_refines located stored

end Stores

end CiCoordinator.Persistence

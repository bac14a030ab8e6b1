import CiCoordinator.Persistence.HistoryTransactions

/- What every transaction of the archive keeps in its tables. -/

namespace CiCoordinator.CiEconomics

open Library Persistence List

namespace HistoryUsage

/-- A usage as the rows that it counts. -/
def occupation (usage : HistoryUsage) : Occupation :=
  ⟨usage.attempts, usage.jobs, usage.gaps, usage.canonicalBytes⟩

/-- A usage is larger than another one in one of its counts. -/
def Grows (prior usage : HistoryUsage) : Prop :=
  prior.attempts < usage.attempts ∨ prior.jobs < usage.jobs ∨ prior.gaps < usage.gaps ∨
    prior.canonicalBytes < usage.canonicalBytes

instance (prior usage : HistoryUsage) : Decidable (prior.Grows usage) :=
  inferInstanceAs (Decidable (_ ∨ _ ∨ _ ∨ _))

/-- A usage differs from another one by what is removed and added. -/
structure Exchanged (prior usage : HistoryUsage) (removed added : Occupation) : Prop where
  attempts : usage.attempts + removed.attempts = prior.attempts + added.attempts
  jobs : usage.jobs + removed.jobs = prior.jobs + added.jobs
  gaps : usage.gaps + removed.gaps = prior.gaps + added.gaps
  canonicalBytes : usage.canonicalBytes + removed.canonicalBytes = prior.canonicalBytes + added.canonicalBytes

variable {prior usage released removed addition : HistoryUsage} {quota : HistoryQuota}

theorem not_grows_self : ¬ usage.Grows usage := by
  simp [Grows]

/-- A growth in two steps fits when each of its steps fits. -/
theorem Grows.within {middle : HistoryUsage} (first : prior.Grows middle → middle.fits quota)
    (second : middle.Grows usage → usage.fits quota) (grows : prior.Grows usage) : usage.fits quota := by
  by_cases later : middle.Grows usage
  · exact second later
  · simp only [Grows, fits] at *
    omega

/-- A reservation after a release exchanges the released resources for the added ones within the quota. -/
theorem exchanged_of_reserve (freed : prior.release removed = .ok released) (occupies : addition ≠ empty)
    (reserved : released.reserve addition quota = .ok (some usage)) :
    prior.Exchanged usage removed.occupation addition.occupation ∧ usage.fits quota := by
  obtain ⟨⟨attempts, jobs⟩, gaps, bytes⟩ := release_eq_ok.mp freed
  rcases @reserve_spec released addition quota occupies with refused | ⟨found, admitted, fitting, sums⟩
  · rw [refused] at reserved
    cases reserved
  · rw [admitted] at reserved
    cases reserved
    refine ⟨⟨?_, ?_, ?_, ?_⟩, fitting⟩ <;> simp only [occupation] <;> omega

theorem release_empty : prior.release empty = .ok prior :=
  release_eq_ok.mpr ⟨⟨rfl, rfl⟩, rfl, rfl⟩

theorem exchanged_of_addition (occupies : addition ≠ empty) (reserved : prior.reserve addition quota = .ok (some usage)) :
    prior.Exchanged usage ⟨0, 0, 0, 0⟩ addition.occupation ∧ usage.fits quota :=
  exchanged_of_reserve release_empty occupies reserved

theorem exchanged_of_release (freed : prior.release removed = .ok usage) :
    prior.Exchanged usage removed.occupation ⟨0, 0, 0, 0⟩ ∧ ¬ prior.Grows usage := by
  obtain ⟨⟨attempts, jobs⟩, gaps, bytes⟩ := release_eq_ok.mp freed
  refine ⟨⟨?_, ?_, ?_, ?_⟩, ?_⟩
  · exact attempts.symm
  · exact jobs.symm
  · exact gaps.symm
  · exact bytes.symm
  · simp only [Grows]
    omega

end HistoryUsage

end CiCoordinator.CiEconomics

namespace CiCoordinator.Persistence

open Library ConfigControl CiEconomics

/-- The usage of every dataset is the exact total over its rows. -/
structure Sound (archive : HistoryArchive) : Prop where
  datasets : Keyed (fun dataset : HistoryDataset => dataset.scope) archive.datasets
  kept : WellKept archive
  exact : ∀ dataset ∈ archive.datasets, dataset.usage.occupation = archive.occupied dataset.scope dataset.generation

/-- What a transaction leaves of the tables and of the dataset that it works on. -/
structure Settled (archive : HistoryArchive) (dataset : HistoryDataset) (written : HistoryArchive)
    (changed : HistoryDataset) : Prop where
  sound : Sound written
  member : changed ∈ written.datasets
  others : ∀ other : HistoryDataset, other.scope ≠ dataset.scope → (other ∈ written.datasets ↔ other ∈ archive.datasets)
  fields : changed.toHistoryDatasetFields =
    { dataset.toHistoryDatasetFields with usage := changed.usage, dataRevision := changed.dataRevision }
  within : dataset.usage.Grows changed.usage → changed.usage.fits dataset.configuration.quota
  forward : dataset.dataRevision ≤ changed.dataRevision
  same : changed.dataRevision = dataset.dataRevision → written = archive
  elsewhere : ∀ scope generation, ¬ (dataset.scope = scope ∧ dataset.generation = generation) →
    written.rowsOf scope generation = archive.rowsOf scope generation

section Settlement

variable {archive written tables : HistoryArchive} {dataset changed : HistoryDataset} {usage : HistoryUsage}
  {removed added : Occupation}

theorem Settled.refl (sound : Sound archive) (member : dataset ∈ archive.datasets) : Settled archive dataset archive dataset :=
  ⟨sound, member, fun _ _ => Iff.rfl, rfl, fun grows => absurd grows HistoryUsage.not_grows_self, le_rfl, fun _ => rfl,
    fun _ _ _ => rfl⟩

theorem Settled.trans {final : HistoryArchive} {last : HistoryDataset} (first : Settled archive dataset written changed)
    (second : Settled written changed final last) : Settled archive dataset final last := by
  have fields := first.fields
  have lastFields := second.fields
  have scope : changed.scope = dataset.scope := by rw [fields]
  have generation : changed.generation = dataset.generation := by rw [fields]
  have configuration : changed.configuration = dataset.configuration := by rw [fields]
  refine
    { sound := second.sound
      member := second.member
      others := fun other different =>
        (second.others other (by rwa [scope])).trans (first.others other different)
      fields := by rw [lastFields, fields]
      within := HistoryUsage.Grows.within first.within (by rw [← configuration]; exact second.within)
      forward := first.forward.trans second.forward
      same := ?_
      elsewhere := fun other number different =>
        (second.elsewhere other number (by rwa [scope, generation])).trans (first.elsewhere other number different) }
  intro unchanged
  have early := first.forward
  have late := second.forward
  rw [second.same (by omega), first.same (by omega)]

theorem writeHistoryDataset_eq_ok (wrote : writeHistoryDataset tables dataset changed = .ok written) :
    changed.scope = dataset.scope ∧
      written = { tables with datasets := updateWhere (sameRevision dataset) (fun _ => changed) tables.datasets } := by
  simp only [writeHistoryDataset, bind_unit_eq_ok, raiseIf_eq_ok, not_not, pure_eq_ok_iff] at wrote
  obtain ⟨scope, _, rfl⟩ := wrote
  exact ⟨scope, rfl⟩

theorem advanceDataset_eq_ok (advanced : advanceDataset dataset usage = .ok changed) : changed.toHistoryDatasetFields =
      { dataset.toHistoryDatasetFields with usage := usage, dataRevision := dataset.dataRevision + 1 } := by
  rw [advanceDataset, HistoryDataset.make, construct_eq_ok] at advanced
  obtain ⟨_, rfl⟩ := advanced
  rfl

/-- A dataset that takes the place of another one counts what the tables have exchanged. -/
theorem Exchanges.sound (sound : Sound archive) (member : dataset ∈ archive.datasets)
    (exchanged : Exchanges archive tables dataset removed added) (scope : changed.scope = dataset.scope)
    (generation : changed.generation = dataset.generation) (usages : dataset.usage.Exchanged changed.usage removed added) :
    Sound { tables with datasets := updateWhere (sameRevision dataset) (fun _ => changed) tables.datasets } := by
  have kept := exchanged.kept
  have owner : ∀ found ∈ tables.datasets, ∃ owner ∈ updateWhere (sameRevision dataset) (fun _ => changed) tables.datasets,
        owner.scope = found.scope ∧ owner.generation = found.generation := by
    intro found stored
    by_cases replaced : sameRevision dataset found
    · exact ⟨changed, mem_updateWhere.mpr (.inr ⟨found, stored, replaced, rfl⟩), scope.trans replaced.1.symm,
        generation.trans replaced.2.1.symm⟩
    · exact ⟨found, mem_updateWhere.mpr (.inl ⟨stored, replaced⟩), rfl, rfl⟩
  refine
    { datasets := ?_
      kept :=
        { kept with
          attemptOwners := ?_
          gapOwners := ?_ }
      exact := ?_ }
  · rw [exchanged.datasets]
    exact sound.datasets.updateWhere fun found replaced => scope.trans replaced.1.symm
  · intro row stored
    obtain ⟨found, present, own⟩ := kept.attemptOwners row stored
    obtain ⟨other, inside, sameScope, sameGeneration⟩ := owner found present
    exact ⟨other, inside, own.1.trans sameScope.symm, own.2.trans sameGeneration.symm⟩
  · intro row stored
    obtain ⟨found, present, own⟩ := kept.gapOwners row stored
    obtain ⟨other, inside, sameScope, sameGeneration⟩ := owner found present
    exact ⟨other, inside, own.1.trans sameScope.symm, own.2.trans sameGeneration.symm⟩
  · intro found inside
    rcases mem_updateWhere.mp inside with ⟨stored, untouched⟩ | ⟨_, _, _, rfl⟩
    · rw [exchanged.datasets] at stored
      have different : dataset.scope ≠ found.scope := by
        intro same
        have equal := sound.datasets.eq_of_key member stored same
        subst equal
        exact untouched ⟨rfl, rfl, rfl, rfl⟩
      have rows := exchanged.elsewhere found.scope found.generation fun both => different both.1
      rw [sound.exact found stored]
      exact (occupied_of_rows rows).symm
    · have before := sound.exact dataset member
      rw [scope, generation]
      have attempts := congrArg Occupation.attempts before
      have jobs := congrArg Occupation.jobs before
      have gaps := congrArg Occupation.gaps before
      have bytes := congrArg Occupation.canonicalBytes before
      simp only [HistoryUsage.occupation] at attempts jobs gaps bytes
      obtain ⟨rowAttempts, rowJobs, rowGaps, rowBytes⟩ :=
        And.intro exchanged.attempts (And.intro exchanged.jobs (And.intro exchanged.gaps exchanged.canonicalBytes))
      obtain ⟨useAttempts, useJobs, useGaps, useBytes⟩ := usages
      refine Occupation.ext ?_ ?_ ?_ ?_
      · change changed.usage.attempts = (tables.occupied dataset.scope dataset.generation).attempts
        omega
      · change changed.usage.jobs = (tables.occupied dataset.scope dataset.generation).jobs
        omega
      · change changed.usage.gaps = (tables.occupied dataset.scope dataset.generation).gaps
        omega
      · change changed.usage.canonicalBytes = (tables.occupied dataset.scope dataset.generation).canonicalBytes
        omega

/-- The write of a dataset settles what the tables have exchanged. -/
theorem Exchanges.settled (sound : Sound archive) (member : dataset ∈ archive.datasets)
    (exchanged : Exchanges archive tables dataset removed added) (usages : dataset.usage.Exchanged usage removed added)
    (within : dataset.usage.Grows usage → usage.fits dataset.configuration.quota)
    (advanced : advanceDataset dataset usage = .ok changed)
    (wrote : writeHistoryDataset tables dataset changed = .ok written) : Settled archive dataset written changed := by
  obtain ⟨scope, rfl⟩ := writeHistoryDataset_eq_ok wrote
  have fields := advanceDataset_eq_ok advanced
  have generation : changed.generation = dataset.generation := by rw [fields]
  have sameUsage : changed.usage = usage := by rw [fields]
  have revision : changed.dataRevision = dataset.dataRevision + 1 := by rw [fields]
  have current : dataset ∈ tables.datasets := by
    rw [exchanged.datasets]
    exact member
  refine
    { sound := exchanged.sound sound member scope generation (by rwa [sameUsage])
      member := mem_updateWhere.mpr (.inr ⟨dataset, current, ⟨rfl, rfl, rfl, rfl⟩, rfl⟩)
      others := ?_
      fields := by rw [fields]
      within := by rwa [sameUsage]
      forward := by omega
      same := by omega
      elsewhere := exchanged.elsewhere }
  intro other different
  rw [exchanged.datasets]
  constructor
  · intro inside
    rcases mem_updateWhere.mp inside with ⟨stored, _⟩ | ⟨_, _, _, rfl⟩
    · exact stored
    · exact absurd scope different
  · exact fun stored => mem_updateWhere.mpr (.inl ⟨stored, fun replaced => different replaced.1⟩)

end Settlement

section Statistics

variable {archive written : HistoryArchive} {dataset changed : HistoryDataset} {statistics previous : ArchivedAttemptStatistics}
  {encoded : EncodedArchiveStatistics} {prior : HistoryAttemptRow} {now : Instant} {outcome : StatisticsStoreOutcome}

theorem attemptUsage_eq_ok {jobs canonicalBytes : Nat} {usage : HistoryUsage}
    (counted : attemptUsage jobs canonicalBytes = .ok usage) :
    usage.occupation = ⟨1, jobs, 0, canonicalBytes⟩ ∧ usage ≠ .empty := by
  obtain ⟨⟨attempts, sameJobs⟩, gaps, bytes⟩ := HistoryUsage.make_eq_ok.mp counted
  refine ⟨Occupation.ext ?_ ?_ ?_ ?_, ?_⟩
  · exact_mod_cast attempts
  · exact_mod_cast sameJobs
  · exact_mod_cast gaps
  · exact_mod_cast bytes
  · rintro rfl
    cases attempts

theorem recordStatistics_settled (sound : Sound archive) (member : dataset ∈ archive.datasets)
    (scope : dataset.scope = statistics.header.attempt.scope)
    (computed : encodeArchiveStatistics statistics dataset.generation = .ok encoded)
    (missing : archive.attemptOf encoded.attempt.key = none)
    (stored : recordStatistics archive dataset statistics encoded now = .ok (written, changed, outcome)) :
    Settled archive dataset written changed ∧ (outcome = .capacityReached → written = archive ∧ changed = dataset) := by
  simp only [recordStatistics, bind_eq_ok] at stored
  obtain ⟨released, freed, addition, counted, reserved, admitted, rest⟩ := stored
  obtain ⟨occupies, filled⟩ := attemptUsage_eq_ok counted
  cases reserved with
  | none =>
    cases rest
    exact ⟨.refl sound member, fun _ => ⟨rfl, rfl⟩⟩
  | some usage =>
    simp only [bind_eq_ok] at rest
    obtain ⟨_, advanced, _, wrote, rfl, rfl, rfl⟩ := rest
    obtain ⟨usages, fitting⟩ := HistoryUsage.exchanged_of_reserve freed filled admitted
    rw [occupies] at usages
    refine ⟨Exchanges.settled sound member ?_ usages (fun _ => fitting) advanced wrote, fun refused => by cases refused⟩
    exact record_exchanges sound.kept member scope computed missing rfl rfl

theorem refineStatistics_settled (sound : Sound archive) (member : dataset ∈ archive.datasets)
    (found : archive.attemptOf encoded.attempt.key = some prior)
    (scope : dataset.scope = statistics.header.attempt.scope)
    (computed : encodeArchiveStatistics statistics dataset.generation = .ok encoded)
    (decoded : decodeArchiveStatistics prior (archive.jobsOf encoded.attempt.key) = .ok previous)
    (covers : coversJobs statistics previous)
    (stored : refineStatistics archive dataset prior (archive.jobsOf encoded.attempt.key) previous statistics encoded =
      .ok (written, changed, outcome)) :
    Settled archive dataset written changed ∧ (outcome = .capacityReached → written = archive ∧ changed = dataset) := by
  simp only [refineStatistics, bind_eq_ok] at stored
  obtain ⟨removed, before, released, freed, addition, counted, reserved, admitted, rest⟩ := stored
  obtain ⟨occupies, filled⟩ := attemptUsage_eq_ok counted
  obtain ⟨occupied, _⟩ := attemptUsage_eq_ok before
  cases reserved with
  | none =>
    cases rest
    exact ⟨.refl sound member, fun _ => ⟨rfl, rfl⟩⟩
  | some usage =>
    simp only [bind_eq_ok] at rest
    obtain ⟨_, advanced, _, wrote, rfl, rfl, rfl⟩ := rest
    obtain ⟨usages, fitting⟩ := HistoryUsage.exchanged_of_reserve freed filled admitted
    rw [occupies, occupied] at usages
    refine ⟨Exchanges.settled sound member ?_ usages (fun _ => fitting) advanced wrote, fun refused => by cases refused⟩
    exact refine_exchanges sound.kept found scope computed decoded covers (fun _ => rfl) (fun _ => rfl) (fun _ => rfl)

theorem markConflict_settled (sound : Sound archive) (member : dataset ∈ archive.datasets) (found : prior.key.InDataset dataset)
    (stored : markConflict archive dataset prior = .ok (written, changed, outcome)) :
    Settled archive dataset written changed ∧ outcome = .conflict := by
  simp only [markConflict] at stored
  split at stored
  · cases stored
    exact ⟨.refl sound member, rfl⟩
  · simp only [bind_eq_ok] at stored
    obtain ⟨_, advanced, _, wrote, rfl, rfl, rfl⟩ := stored
    have exchanged : Exchanges archive _ dataset _ _ := (Exchanges.refl sound.kept).mapAttempts
      (fun row => if row.key = prior.key then { row with hasConflict := true } else row)
      (fun row => by split <;> rfl) (fun row => by split <;> rfl)
      (fun row foreign => if_neg fun same => foreign (by rwa [same]))
    exact ⟨exchanged.settled sound member ⟨rfl, rfl, rfl, rfl⟩ (fun grows => absurd grows HistoryUsage.not_grows_self)
      advanced wrote, rfl⟩

theorem loadHistoryJobs_eq_ok {key : ArchiveKey} {jobs : List HistoryJobRow}
    (loaded : loadHistoryJobs archive key = .ok jobs) : jobs = archive.jobsOf key := by
  simp only [loadHistoryJobs, bind_unit_eq_ok, pure_eq_ok_iff] at loaded
  exact loaded.2.symm

/-- The statistics of an attempt are stored with their exact usage. -/
theorem storeHistoryStatistics_settled (sound : Sound archive) (member : dataset ∈ archive.datasets)
    (stored : storeHistoryStatistics archive dataset statistics now = .ok (written, changed, outcome)) :
    Settled archive dataset written changed ∧ (outcome = .capacityReached → written = archive ∧ changed = dataset) := by
  simp only [storeHistoryStatistics, bind_eq_ok, raiseIf_eq_ok, not_or, not_not] at stored
  obtain ⟨_, _, _, ⟨_, scope, _, _⟩, encoded, computed, rest⟩ := stored
  have key := (encodeArchiveStatistics_eq_ok computed).1
  rw [← key] at rest
  cases located : archive.attemptOf encoded.attempt.key with
  | none =>
    simp only [located] at rest
    exact recordStatistics_settled sound member scope computed located rest
  | some prior =>
    simp only [located, bind_eq_ok] at rest
    obtain ⟨jobs, loaded, previous, decoded, rest⟩ := rest
    obtain rfl := loadHistoryJobs_eq_ok loaded
    have own : prior.key.InDataset dataset := by
      rw [(attemptOf_eq_some located).2, key]
      exact ⟨scope.symm, rfl⟩
    split at rest
    · cases rest
      exact ⟨.refl sound member, fun refused => by cases refused⟩
    · cases rest
      exact ⟨.refl sound member, fun refused => by cases refused⟩
    · obtain ⟨settled, rfl⟩ := markConflict_settled sound member own rest
      exact ⟨settled, fun refused => by cases refused⟩
    · rename_i classified
      have refined : classifyArchiveUpdate previous statistics = .refined := by
        split at classified
        · cases classified
        · exact classified
      exact refineStatistics_settled sound member located scope computed decoded (coversJobs_of_refined refined) rest

end Statistics

section Gaps

variable {archive written : HistoryArchive} {dataset changed : HistoryDataset} {gap : ArchiveGap} {now : Instant}
  {outcome : GapStoreOutcome}

theorem occupation_of_make {gaps canonicalBytes : Nat} {usage : HistoryUsage}
    (counted : HistoryUsage.make 0 0 gaps canonicalBytes = .ok usage) : usage.occupation = ⟨0, 0, gaps, canonicalBytes⟩ := by
  obtain ⟨⟨attempts, jobs⟩, sameGaps, bytes⟩ := HistoryUsage.make_eq_ok.mp counted
  refine Occupation.ext ?_ ?_ ?_ ?_
  · exact_mod_cast attempts
  · exact_mod_cast jobs
  · exact_mod_cast sameGaps
  · exact_mod_cast bytes

theorem storeHistoryGap_settled (sound : Sound archive) (member : dataset ∈ archive.datasets)
    (stored : storeHistoryGap archive dataset gap now = .ok (written, changed, outcome)) :
    Settled archive dataset written changed ∧ (outcome = .capacityReached → written = archive ∧ changed = dataset) := by
  simp only [storeHistoryGap, bind_eq_ok] at stored
  obtain ⟨_, _, _, _, raw, _, gapId, _, rest⟩ := stored
  split at rest
  · simp only [bind_unit_eq_ok] at rest
    obtain ⟨_, rfl, rfl, rfl⟩ := rest
    exact ⟨.refl sound member, fun refused => by cases refused⟩
  · rename_i missing
    simp only [bind_eq_ok] at rest
    obtain ⟨addition, counted, reserved, admitted, rest⟩ := rest
    have occupies := @occupation_of_make 1 _ _ counted
    have filled : addition ≠ .empty := by
      rintro rfl
      cases congrArg Occupation.gaps occupies
    cases reserved with
    | none =>
      cases rest
      exact ⟨.refl sound member, fun _ => ⟨rfl, rfl⟩⟩
    | some usage =>
      simp only [bind_eq_ok] at rest
      obtain ⟨_, advanced, _, wrote, rfl, rfl, rfl⟩ := rest
      obtain ⟨usages, fitting⟩ := HistoryUsage.exchanged_of_addition filled admitted
      rw [occupies] at usages
      refine ⟨Exchanges.settled sound member ?_ usages (fun _ => fitting) advanced wrote, fun refused => by cases refused⟩
      refine gap_exchanges sound.kept member rfl rfl fun found stored => ?_
      have different := List.find?_eq_none.mp missing found stored
      rwa [decide_eq_true_eq] at different

end Gaps

section Details

variable {archive written : HistoryArchive} {dataset changed : HistoryDataset} {statistics : ArchivedAttemptStatistics}
  {detail : ArchivedAttemptDetail} {parent : HistoryAttemptRow} {raw : List Nat} {defaults : HistoryDefaults}
  {now : Instant} {outcome : DetailStoreOutcome}

theorem importDetail_settled (sound : Sound archive) (member : dataset ∈ archive.datasets)
    (stored : parent ∈ archive.attempts) (own : parent.key.InDataset dataset)
    (missing : ∀ found ∈ archive.details, found.key ≠ parent.key)
    (bounded : 1 ≤ raw.length ∧ raw.length ≤ maxHistoryDetailBytes)
    (imported : importDetail archive dataset parent raw defaults now = .ok (written, changed, outcome)) :
    Settled archive dataset written changed ∧ (outcome = .capacityReached → written = archive ∧ changed = dataset) := by
  simp only [importDetail, bind_eq_ok] at imported
  obtain ⟨_, _, retention, _, rest⟩ := imported
  split at rest
  · cases rest
    exact ⟨.refl sound member, fun refused => by cases refused⟩
  · simp only [bind_eq_ok] at rest
    obtain ⟨_, _, addition, counted, reserved, admitted, rest⟩ := rest
    have occupies := @occupation_of_make 0 _ _ counted
    have filled : addition ≠ .empty := by
      rintro rfl
      have bytes := congrArg Occupation.canonicalBytes occupies
      simp only [HistoryUsage.occupation, HistoryUsage.empty] at bytes
      omega
    cases reserved with
    | none =>
      cases rest
      exact ⟨.refl sound member, fun _ => ⟨rfl, rfl⟩⟩
    | some usage =>
      simp only [bind_eq_ok] at rest
      obtain ⟨_, advanced, _, wrote, rfl, rfl, rfl⟩ := rest
      obtain ⟨usages, fitting⟩ := HistoryUsage.exchanged_of_addition filled admitted
      rw [occupies] at usages
      have inserted := @detail_exchanges archive dataset ⟨parent.key, raw⟩ sound.kept own ⟨parent, stored, rfl⟩ missing bounded
      have exchanged := inserted.mapAttempts
        (fun row => if row.key = parent.key then { row with retention := retention } else row)
        (fun row => by split <;> rfl) (fun row => by split <;> rfl)
        (fun row foreign => if_neg fun same => foreign (by rwa [same]))
      exact ⟨exchanged.settled sound member usages (fun _ => fitting) advanced wrote, fun refused => by cases refused⟩

theorem validateAndEncodeDetail_eq_some (validated : validateAndEncodeDetail statistics detail = some raw) :
    1 ≤ raw.length ∧ raw.length ≤ maxHistoryDetailBytes := by
  unfold validateAndEncodeDetail at validated
  split at validated
  · cases validated
  · split at validated
    · cases validated
    · split at validated
      · rename_i bounded
        cases validated
        exact bounded
      · cases validated

theorem detailOf_eq_none {key : ArchiveKey} (missing : archive.detailOf key = none) :
    ∀ found ∈ archive.details, found.key ≠ key := by
  intro found stored
  simpa using List.find?_eq_none.mp missing found stored

theorem storeHistoryDetail_settled (sound : Sound archive) (member : dataset ∈ archive.datasets)
    (stored : storeHistoryDetail archive dataset statistics detail defaults now = .ok (written, changed, outcome)) :
    Settled archive dataset written changed ∧ (outcome = .capacityReached → written = archive ∧ changed = dataset) := by
  have idle : ∀ {found : DetailStoreOutcome}, found = .notImported →
      Settled archive dataset archive dataset ∧ (found = .capacityReached → archive = archive ∧ dataset = dataset) :=
    fun _ => ⟨.refl sound member, fun _ => ⟨rfl, rfl⟩⟩
  simp only [storeHistoryDetail, bind_eq_ok, raiseIf_eq_ok, not_or, not_not] at stored
  obtain ⟨_, _, _, _, _, ⟨scope, _⟩, rest⟩ := stored
  split at rest
  · cases rest
  · rename_i parent located
    simp only [bind_eq_ok] at rest
    obtain ⟨_, _, _, validated, rest⟩ := rest
    obtain ⟨present, parentKey⟩ := attemptOf_eq_some located
    split at rest
    · cases rest
      exact idle rfl
    · rename_i imported
      rw [not_not] at imported
      split at rest
      · cases rest
        exact idle rfl
      · simp only [bind_eq_ok] at rest
        obtain ⟨_, _, _, _, rest⟩ := rest
        split at rest
        · cases rest
          exact idle rfl
        · rename_i raw encodes
          split at rest
          · cases rest
            exact idle rfl
          · have missing : archive.detailOf parent.key = none := by
              simp only [validateExistingDetail, bind_unit_eq_ok, raiseIf_eq_ok, imported, true_and, not_not] at validated
              rw [parentKey]
              exact validated.2.1
            have own : parent.key.InDataset dataset := by
              rw [parentKey]
              exact ⟨scope.symm, rfl⟩
            exact importDetail_settled sound member present own (detailOf_eq_none missing)
              (validateAndEncodeDetail_eq_some encodes) rest

end Details

section Retention

variable {archive tables written : HistoryArchive} {dataset changed : HistoryDataset}

theorem releaseDetails_settled {bytes : Nat} (sound : Sound archive) (member : dataset ∈ archive.datasets)
    (exchanged : Exchanges archive tables dataset ⟨0, 0, 0, bytes⟩ ⟨0, 0, 0, 0⟩)
    (freed : releaseDetails tables dataset bytes = .ok (written, changed)) : Settled archive dataset written changed := by
  simp only [releaseDetails, bind_eq_ok] at freed
  obtain ⟨removed, counted, usage, released, _, advanced, _, wrote, rfl, rfl⟩ := freed
  obtain ⟨usages, shrinks⟩ := HistoryUsage.exchanged_of_release released
  rw [@occupation_of_make 0 _ _ counted] at usages
  exact exchanged.settled sound member usages (fun grows => absurd grows shrinks) advanced wrote

/-- A transaction leaves the archive as it was or settles one of its datasets. -/
def SettlesSome (archive written : HistoryArchive) (scope : RepositoryScope) : Prop :=
  written = archive ∨ ∃ dataset ∈ archive.datasets, ∃ changed, dataset.scope = scope ∧
    Settled archive dataset written changed

theorem expiredDetails_own {now : Instant} {limit : Nat} :
    ∀ key ∈ (expiredDetails archive dataset now limit).map HistoryAttemptRow.key, key.InDataset dataset := by
  intro key listed
  obtain ⟨row, inside, rfl⟩ := List.mem_map.mp listed
  have stored := (sortBy_perm _ _).mem_iff.mp (List.mem_of_mem_take inside)
  rw [List.mem_filter, decide_eq_true_eq] at stored
  exact stored.2.1

theorem expireHistoryDetailsInScope_settled {scope : RepositoryScope} {now : Instant} {limit count : Nat}
    (sound : Sound archive) (expired : expireHistoryDetailsInScope archive scope now limit = .ok (written, count)) :
    SettlesSome archive written scope := by
  simp only [expireHistoryDetailsInScope, bind_eq_ok] at expired
  obtain ⟨_, _, rest⟩ := expired
  split at rest
  · cases rest
    exact .inl rfl
  · rename_i dataset located
    obtain ⟨member, sameScope⟩ := datasetOf_eq_some located
    split at rest
    · cases rest
      exact .inl rfl
    · split at rest
      · cases rest
        exact .inl rfl
      · simp only [bind_eq_ok] at rest
        obtain ⟨_, _, _, _, _, _, ⟨tables, changed⟩, freed, rfl, rfl⟩ := rest
        have own := @expiredDetails_own archive dataset now limit
        have exchanged := (deletion_exchanges sound.kept own).mapAttempts (fun row =>
            if row.key ∈ (expiredDetails archive dataset now limit).map HistoryAttemptRow.key ∧
                row.retention.state = .retained then
              { row with retention := ArchiveDetailRetention.markExpired row.retention }
            else row)
          (fun row => by split <;> rfl) (fun row => by split <;> rfl)
          (fun row foreign => if_neg fun chosen => foreign (own row.key chosen.1))
        exact .inr ⟨dataset, member, changed, sameScope, releaseDetails_settled sound member exchanged freed⟩

theorem retentionOf_columns (preview : HistoryRetentionPreview) (successors : List ArchiveDetailRetention)
    (row : HistoryAttemptRow) : (retentionOf preview successors row).columns = row.columns ∧
      (retentionOf preview successors row).header = row.header := by
  unfold retentionOf
  split <;> exact ⟨rfl, rfl⟩

theorem commitRetention_settled {preview : HistoryRetentionPreview} {successors : List ArchiveDetailRetention}
    (sound : Sound archive) (member : dataset ∈ archive.datasets)
    (own : preview.selection.scope = dataset.scope ∧ preview.selection.generation = dataset.generation)
    (committed : commitRetention archive dataset preview successors = .ok (written, changed)) :
    Settled archive dataset written changed := by
  simp only [commitRetention, bind_eq_ok] at committed
  obtain ⟨_, _, _, _, freed⟩ := committed
  have owned : ∀ key ∈ deletedKeys preview, key.InDataset dataset := by
    intro key listed
    obtain ⟨effect, _, rfl⟩ := List.mem_map.mp listed
    exact own
  have exchanged := (deletion_exchanges sound.kept owned).mapAttempts (retentionOf preview successors)
    (fun row => (retentionOf_columns preview successors row).1) (fun row => (retentionOf_columns preview successors row).2)
    (fun row foreign => by
      rw [retentionOf]
      split
      · rfl
      · rename_i entry found
        have same : preview.selection.archiveKey entry.1 = row.key := by simpa using List.find?_some found
        exact absurd (by rw [← same]; exact own) foreign)
  exact releaseDetails_settled sound member exchanged freed

theorem previewRetention_selection {defaults : HistoryDefaults} {selection : HistoryRetentionSelection} {now : Instant}
    {preview : HistoryRetentionPreview} {successors : List ArchiveDetailRetention}
    (reviewed : previewRetention archive defaults selection dataset now = .ok (some (preview, successors))) :
    preview.selection = selection := by
  simp only [previewRetention] at reviewed
  split at reviewed
  · cases reviewed
  · simp only [bind_eq_ok] at reviewed
    obtain ⟨_, _, rest⟩ := reviewed
    split at rest
    · cases rest
    · simp only [bind_eq_ok] at rest
      obtain ⟨computed, _, rest⟩ := rest
      cases computed with
      | none => cases rest
      | some computed =>
        simp only [HistoryRetentionPreview.make, bind_eq_ok, pure_eq_ok_iff] at rest
        obtain ⟨_, ⟨_, _, _, _, _, _, _, _, _, _, rfl⟩, rfl, rfl⟩ := rest
        rfl

theorem applyHistoryRetention_settled {receipts more : List RetentionReceipt} {defaults : HistoryDefaults}
    {command : ApplyHistoryRetention} {now : Instant} {auditAppended : Bool} {outcome : HistoryRetentionOutcome}
    (sound : Sound archive)
    (applied : applyHistoryRetention archive receipts defaults command now auditAppended = .ok (written, more, outcome)) :
    SettlesSome archive written command.selection.scope := by
  simp only [applyHistoryRetention] at applied
  split at applied
  · simp only [bind_eq_ok] at applied
    obtain ⟨_, _, rfl, _, _⟩ := applied
    exact .inl rfl
  · split at applied
    · cases applied
      exact .inl rfl
    · rename_i dataset located
      obtain ⟨member, scope⟩ := datasetOf_eq_some located
      split at applied
      · cases applied
        exact .inl rfl
      · rename_i selected
        rw [not_not] at selected
        simp only [bind_eq_ok] at applied
        obtain ⟨reviewed, computed, rest⟩ := applied
        split at rest
        · cases rest
          exact .inl rfl
        · rename_i preview successors
          simp only [bind_eq_ok] at rest
          obtain ⟨review, _, rest⟩ := rest
          split at rest
          · cases rest
            exact .inl rfl
          · simp only [bind_eq_ok] at rest
            obtain ⟨_, _, ⟨tables, changed⟩, committed, _, _, rfl, rfl, rfl⟩ := rest
            have reviewedSelection := previewRetention_selection computed
            have own : preview.selection.scope = dataset.scope ∧ preview.selection.generation = dataset.generation := by
              rw [reviewedSelection]
              exact ⟨scope.symm, selected.2.2.1.symm⟩
            exact .inr ⟨dataset, member, changed, scope, commitRetention_settled sound member own committed⟩

end Retention

section Contributions

variable {archive : HistoryArchive} {dataset : HistoryDataset} {statistics : ArchivedAttemptStatistics}
  {gapOf : ContributionGap → ArchiveGap} {detail : Option ArchivedAttemptDetail} {defaults : HistoryDefaults}
  {now : Instant}

theorem Contribution.storeGap_settled {self next : Contribution} {reason : Option ContributionGap}
    (settled : Settled archive dataset self.archive self.dataset) (stored : self.storeGap reason gapOf now = .ok next) :
    Settled archive dataset next.archive next.dataset := by
  unfold storeGap at stored
  split at stored
  · cases stored
    exact settled
  · split at stored
    · cases stored
      exact settled
    · simp only [bind_eq_ok, pure_eq_ok_iff] at stored
      obtain ⟨⟨tables, changed, _⟩, kept, rfl⟩ := stored
      exact settled.trans (storeHistoryGap_settled settled.sound settled.member kept).1

theorem Contribution.storeDetail_settled {self next : Contribution} (settled : Settled archive dataset self.archive self.dataset)
    (stored : self.storeDetail statistics detail defaults now = .ok next) :
    Settled archive dataset next.archive next.dataset := by
  unfold storeDetail at stored
  split at stored
  · cases stored
    exact settled
  · split at stored
    · simp only [bind_eq_ok, pure_eq_ok_iff] at stored
      obtain ⟨⟨tables, changed, _⟩, kept, rfl⟩ := stored
      exact settled.trans (storeHistoryDetail_settled settled.sound settled.member kept).1
    · cases stored
      exact settled

theorem contributeStatistics_settled {contributed : Contribution} (sound : Sound archive) (member : dataset ∈ archive.datasets)
    (stored : contributeStatistics archive dataset statistics gapOf detail defaults now = .ok contributed) :
    Settled archive dataset contributed.archive contributed.dataset ∧
      (contributed.outcome = .capacityReached → contributed.archive = archive ∧ contributed.dataset = dataset) := by
  simp only [contributeStatistics, bind_eq_ok, pure_eq_ok_iff] at stored
  obtain ⟨⟨tables, changed, outcome⟩, first, withGap, second, withDetail, third, rfl⟩ := stored
  split
  · exact ⟨.refl sound member, fun _ => ⟨rfl, rfl⟩⟩
  · rename_i kept
    have settled := (storeHistoryStatistics_settled sound member first).1
    have gapSettled := Contribution.storeGap_settled settled second
    exact ⟨Contribution.storeDetail_settled gapSettled third, fun refused => absurd refused kept⟩

end Contributions

end CiCoordinator.Persistence

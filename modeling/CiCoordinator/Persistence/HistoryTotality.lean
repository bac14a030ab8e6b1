import CiCoordinator.Persistence.HistorySettlement

/- The proof that no transaction of a sound archive fails in the counts that it computes. -/

namespace CiCoordinator.Persistence

open Library Kernel ConfigControl CiEconomics HistoryUsage List

/-- The errors other than the refusal of a payload model. -/
def Unvalidated (error : PyError) : Prop :=
  error ≠ .validationError

theorem unvalidated_valueErrorIf {rejected : Prop} [Decidable rejected] {message : Text} :
    Raises Unvalidated (valueErrorIf rejected message) :=
  .raiseIf fun _ => by simp [Unvalidated]

theorem unvalidated_of_total {A : Type} {computation : Py A} (total : ∃ value, computation = .ok value) :
    Raises Unvalidated computation := by
  obtain ⟨value, returned⟩ := total
  rw [returned]
  exact .ok

section Encodings

variable (value : Json)

theorem canonicalJson_raises : Raises Unvalidated (canonicalJson value none) := by
  intro error raised
  cases passed : admissible value with
  | true => simp [canonicalJson, canonicalJsonText_of_admissible passed] at raised
  | false =>
    obtain ⟨found, refused⟩ := hashObject_of_inadmissible passed
    rw [hashObject, raised] at refused
    cases refused
    simp [Unvalidated]

theorem hashObject_raises : Raises Unvalidated (hashObject value) :=
  .bind (canonicalJson_raises value) fun _ _ => .ok

theorem boundedCanonicalJson_raises (maxBytes : Nat) : Raises Unvalidated (boundedCanonicalJson value maxBytes) := by
  refine .bind (canonicalJson_raises value) fun _ _ => ?_
  refine .bind (.raiseIf fun _ => by simp [Unvalidated]) fun _ _ => ?_
  exact .ok

theorem encodeCanonicalObject_raises (maximumBytes : Nat) (context : Text) :
    Raises Unvalidated (encodeCanonicalObject value maximumBytes context) := by
  refine .bind (canonicalJson_raises value) fun _ _ => ?_
  refine .bind unvalidated_valueErrorIf fun _ _ => ?_
  exact .ok

theorem encodeArchiveStatistics_raises (statistics : ArchivedAttemptStatistics) (generation : Int) :
    Raises Unvalidated (encodeArchiveStatistics statistics generation) := by
  refine .bind unvalidated_valueErrorIf fun _ _ => ?_
  refine .bind (boundedCanonicalJson_raises _ _) fun _ _ => ?_
  refine .bind (.collect fun job _ => .bind (boundedCanonicalJson_raises _ _) fun _ _ => .ok) fun _ _ => ?_
  refine .bind unvalidated_valueErrorIf fun _ _ => ?_
  refine .bind (hashObject_raises _) fun _ _ => ?_
  exact .ok

end Encodings

section Datasets

variable {archive tables : HistoryArchive} {dataset : HistoryDataset}

theorem selects_raises (configuration : HistoryConfiguration) (workflowId : Int) :
    Raises Unvalidated (configuration.selects workflowId) :=
  .bind unvalidated_valueErrorIf fun _ _ => .ok

theorem makeDataset_raises (fields : HistoryDatasetFields) : Raises Unvalidated (HistoryDataset.make fields) := by
  refine .construct ?_
  refine .bind (.forEach fun _ _ => unvalidated_valueErrorIf) fun _ _ => ?_
  refine .bind unvalidated_valueErrorIf fun _ _ => ?_
  exact unvalidated_valueErrorIf

theorem writeHistoryDataset_raises (prior successor : HistoryDataset) :
    Raises Unvalidated (writeHistoryDataset tables prior successor) := by
  refine .bind unvalidated_valueErrorIf fun _ _ => ?_
  refine .bind (.raiseIf fun _ => by simp [Unvalidated]) fun _ _ => ?_
  exact .ok

/-- The end of every write: the dataset advances and takes the place of the one that has been read. -/
theorem commit_raises {A : Type} {usage : HistoryUsage} {answer : HistoryArchive → HistoryDataset → A} : Raises Unvalidated (do
      let changed ← advanceDataset dataset usage
      let written ← writeHistoryDataset tables dataset changed
      return answer written changed) := by
  refine .bind (makeDataset_raises _) fun _ _ => ?_
  refine .bind (writeHistoryDataset_raises _ _) fun _ _ => ?_
  exact .ok

theorem attemptUsage_total {jobs canonicalBytes : Nat} (fewJobs : jobs ≤ maxJobsPerAttempt)
    (fewBytes : canonicalBytes ≤ maxHistoryStatisticsBytes) : ∃ usage, attemptUsage jobs canonicalBytes = .ok usage := by
  simp only [maxJobsPerAttempt, maxHistoryStatisticsBytes] at fewJobs fewBytes
  have safe : 1 ≤ maxSafeJsonInteger ∧ jobs ≤ maxSafeJsonInteger ∧ 0 ≤ maxSafeJsonInteger ∧
      canonicalBytes ≤ maxSafeJsonInteger := by
    simp only [maxSafeJsonInteger]
    omega
  exact ⟨_, make_ok safe⟩

theorem makeUsage_total {gaps canonicalBytes : Nat} (fewGaps : gaps ≤ maxSafeJsonInteger)
    (fewBytes : canonicalBytes ≤ maxSafeJsonInteger) : ∃ usage, HistoryUsage.make 0 0 gaps canonicalBytes = .ok usage := by
  have safe : 0 ≤ maxSafeJsonInteger ∧ 0 ≤ maxSafeJsonInteger ∧ gaps ≤ maxSafeJsonInteger ∧
      canonicalBytes ≤ maxSafeJsonInteger := by omega
  exact ⟨_, make_ok safe⟩

theorem reserve_raises (prior addition : HistoryUsage) (quota : HistoryQuota) :
    Raises Unvalidated (prior.reserve addition quota) := by
  by_cases occupies : addition = .empty
  · rw [HistoryUsage.reserve, if_pos occupies]
    exact .ok
  · rcases @reserve_spec prior addition quota occupies with refused | ⟨usage, admitted, _⟩
    · exact unvalidated_of_total ⟨_, refused⟩
    · exact unvalidated_of_total ⟨_, admitted⟩

/-- The bytes of details of a dataset are among the bytes that it occupies. -/
theorem deletedBytes_le {keys : List ArchiveKey} (sound : Sound archive) (member : dataset ∈ archive.datasets)
    (own : ∀ key ∈ keys, key.InDataset dataset) :
    ((deletedDetails archive keys).map detailBytes).sum ≤ dataset.usage.canonicalBytes := by
  have exact_ := congrArg Occupation.canonicalBytes (sound.exact dataset member)
  have part : ((deletedDetails archive keys).map detailBytes).sum ≤
      total detailBytes (fun row => row.key.At dataset.scope dataset.generation) archive.details := by
    exact total_mono fun row _ listed => own row.key listed
  simp only [HistoryUsage.occupation, HistoryArchive.occupied] at exact_
  omega

/-- The subtraction of released bytes returns. -/
theorem release_returns {keys : List ArchiveKey} (sound : Sound archive) (member : dataset ∈ archive.datasets)
    (own : ∀ key ∈ keys, key.InDataset dataset) :
    ∃ removed usage, releasedUsage ((deletedDetails archive keys).map detailBytes).sum = .ok removed ∧
      dataset.usage.release removed = .ok usage := by
  have within := deletedBytes_le sound member own
  have safe := dataset.usage.safe
  obtain ⟨removed, counted⟩ := @makeUsage_total 0 ((deletedDetails archive keys).map detailBytes).sum (by omega) (by omega)
  have occupies := occupation_of_make counted
  obtain ⟨attempts, jobs, gaps, bytes⟩ := Occupation.ext_iff.mp occupies
  simp only [HistoryUsage.occupation] at attempts jobs gaps bytes
  obtain ⟨usage, freed⟩ := @release_total dataset.usage removed (by omega)
  exact ⟨removed, usage, counted, freed⟩

end Datasets

section Statistics

variable {archive : HistoryArchive} {dataset : HistoryDataset} {statistics previous : ArchivedAttemptStatistics}
  {encoded : EncodedArchiveStatistics} {prior : HistoryAttemptRow} {now : Instant}

theorem matchColumns_raises (columns : List (Text × Bool)) : Raises Unvalidated (matchColumns columns) :=
  .forEach fun _ _ => unvalidated_valueErrorIf

theorem loadHistoryJobs_raises (key : ArchiveKey) : Raises Unvalidated (loadHistoryJobs archive key) :=
  .bind unvalidated_valueErrorIf fun _ _ => .ok

/-- The stored rows of an attempt are statistics. -/
theorem decodeArchiveStatistics_raises (kept : WellKept archive) (stored : prior ∈ archive.attempts) :
    Raises Unvalidated (decodeArchiveStatistics prior (archive.jobsOf prior.key)) := by
  have admitted : ArchivedAttemptStatisticsFields.Admitted ⟨prior.header, (archive.jobsOf prior.key).map HistoryJobRow.job⟩ := by
    refine ⟨?_, ?_⟩
    · have increasing := @jobsOf_increasing archive prior.key kept
      rw [Increasing, pairwise_map]
      exact increasing
    · rw [length_map, length_jobsOf]
      exact kept.counted prior stored
  refine .bind unvalidated_valueErrorIf fun _ _ => ?_
  refine .bind (unvalidated_of_total ⟨⟨_, admitted⟩, dif_pos admitted⟩) fun _ _ => ?_
  refine .bind (encodeArchiveStatistics_raises _ _) fun _ _ => ?_
  refine .bind (matchColumns_raises _) fun _ _ => ?_
  refine .bind (.forEach fun _ _ => matchColumns_raises _) fun _ _ => ?_
  exact .ok

section

variable (computed : encodeArchiveStatistics statistics dataset.generation = .ok encoded)
include computed

theorem encoded_usage_total : ∃ usage, attemptUsage statistics.jobs.length encoded.canonicalBytes = .ok usage :=
  attemptUsage_total statistics.admitted.2.1 (encodeArchiveStatistics_eq_ok computed).2.2.2.2.2

theorem recordStatistics_raises : Raises Unvalidated (recordStatistics archive dataset statistics encoded now) := by
  refine .bind (unvalidated_of_total ⟨_, release_empty⟩) fun _ _ => ?_
  refine .bind (unvalidated_of_total (encoded_usage_total computed)) fun _ _ => ?_
  refine .bind (reserve_raises _ _ _) fun reserved _ => ?_
  cases reserved with
  | none => exact .ok
  | some usage => exact commit_raises

end

/-- An attempt of a dataset with its jobs is among what the dataset occupies. -/
theorem occupied_of_attempt (sound : Sound archive) (member : dataset ∈ archive.datasets) (stored : prior ∈ archive.attempts)
    (own : prior.key.InDataset dataset) :
    1 ≤ dataset.usage.attempts ∧ jobCountOf archive prior.key ≤ dataset.usage.jobs ∧
      headerBytes prior + total jobBytes (fun row => row.key = prior.key) archive.jobs ≤ dataset.usage.canonicalBytes := by
  obtain ⟨attempts, jobs, gaps, bytes⟩ := Occupation.ext_iff.mp (sound.exact dataset member)
  simp only [HistoryUsage.occupation, HistoryArchive.occupied] at attempts jobs bytes
  have ownRow : prior.key.At dataset.scope dataset.generation := own
  have one : 1 ≤ total (fun _ => 1) (fun row : HistoryAttemptRow => row.key.At dataset.scope dataset.generation)
      archive.attempts :=
    @weight_le_total _ (fun _ => 1) (fun row => row.key.At dataset.scope dataset.generation) _ _ prior stored ownRow
  have header : headerBytes prior ≤ total headerBytes (fun row => row.key.At dataset.scope dataset.generation)
      archive.attempts := weight_le_total stored ownRow
  have ownJobs : ∀ row ∈ archive.jobs, row.key = prior.key → row.key.At dataset.scope dataset.generation :=
    fun row _ same => by rwa [same]
  have count : jobCountOf archive prior.key ≤
      total (fun _ => 1) (fun row : HistoryJobRow => row.key.At dataset.scope dataset.generation) archive.jobs :=
    total_mono ownJobs
  have size : total jobBytes (fun row => row.key = prior.key) archive.jobs ≤
      total jobBytes (fun row => row.key.At dataset.scope dataset.generation) archive.jobs := total_mono ownJobs
  omega

theorem refineStatistics_raises (sound : Sound archive) (member : dataset ∈ archive.datasets)
    (stored : prior ∈ archive.attempts) (own : prior.key.InDataset dataset)
    (computed : encodeArchiveStatistics statistics dataset.generation = .ok encoded)
    (decoded : decodeArchiveStatistics prior (archive.jobsOf prior.key) = .ok previous) :
    Raises Unvalidated (refineStatistics archive dataset prior (archive.jobsOf prior.key) previous statistics encoded) := by
  obtain ⟨_, jobs, bytes, bounded⟩ := decodeArchiveStatistics_eq_ok decoded
  have jobCount : previous.jobs.length = jobCountOf archive prior.key := by rw [jobs, length_map, length_jobsOf]
  rw [sum_jobsOf] at bytes
  refine .bind (unvalidated_of_total (attemptUsage_total previous.admitted.2.1 bounded)) fun removed counted => ?_
  have released : ∃ usage, dataset.usage.release removed = .ok usage := by
    have occupied := occupied_of_attempt sound member stored own
    obtain ⟨attempts, sameJobs, gaps, sameBytes⟩ := Occupation.ext_iff.mp (attemptUsage_eq_ok counted).1
    simp only [HistoryUsage.occupation] at attempts sameJobs gaps sameBytes
    exact release_total (by omega)
  refine .bind (unvalidated_of_total released) fun _ _ => ?_
  refine .bind (unvalidated_of_total (encoded_usage_total computed)) fun _ _ => ?_
  refine .bind (reserve_raises _ _ _) fun reserved _ => ?_
  cases reserved with
  | none => exact .ok
  | some usage => exact commit_raises

theorem markConflict_raises : Raises Unvalidated (markConflict archive dataset prior) := by
  unfold markConflict
  split
  · exact .ok
  · exact commit_raises

theorem storeHistoryStatistics_raises (sound : Sound archive) (member : dataset ∈ archive.datasets) :
    Raises Unvalidated (storeHistoryStatistics archive dataset statistics now) := by
  refine .bind (selects_raises _ _) fun selected _ => ?_
  refine .bind unvalidated_valueErrorIf fun _ admitted => ?_
  have scope : dataset.scope = statistics.header.attempt.scope := by
    simp only [raiseIf_eq_ok, not_or, not_not] at admitted
    exact admitted.2.1
  refine .bind (encodeArchiveStatistics_raises _ _) fun encoded computed => ?_
  dsimp only
  split
  · exact recordStatistics_raises computed
  · rename_i prior located
    obtain ⟨stored, sameKey⟩ := attemptOf_eq_some located
    have own : prior.key.InDataset dataset := by
      rw [sameKey]
      exact ⟨scope.symm, rfl⟩
    rw [← sameKey]
    refine .bind (loadHistoryJobs_raises _) fun jobs loaded => ?_
    obtain rfl := loadHistoryJobs_eq_ok loaded
    refine .bind (decodeArchiveStatistics_raises sound.kept stored) fun previous decoded => ?_
    split
    · exact .ok
    · exact .ok
    · exact markConflict_raises
    · exact refineStatistics_raises sound member stored own computed decoded

end Statistics

section GapsAndDetails

variable {archive : HistoryArchive} {dataset : HistoryDataset} {now : Instant}

theorem encodeCanonicalObject_length {value : Json} {maximumBytes : Nat} {context : Text} {raw : List Nat}
    (written : encodeCanonicalObject value maximumBytes context = .ok raw) : raw.length ≤ maximumBytes := by
  simp only [encodeCanonicalObject, bind_eq_ok, raiseIf_eq_ok, not_not, pure_eq_ok_iff] at written
  obtain ⟨_, _, _, bounded, rfl⟩ := written
  exact bounded.2

theorem storeHistoryGap_raises (gap : ArchiveGap) : Raises Unvalidated (storeHistoryGap archive dataset gap now) := by
  have selection : Raises Unvalidated (requireSelectedGap dataset gap) := by
    cases gap with
    | history gap => exact .ok
    | recheck gap => exact .bind (selects_raises _ _) fun _ _ => unvalidated_valueErrorIf
  refine .bind selection fun _ _ => ?_
  refine .bind unvalidated_valueErrorIf fun _ _ => ?_
  refine .bind (encodeCanonicalObject_raises _ _ _) fun raw written => ?_
  have bounded := encodeCanonicalObject_length written
  refine .bind (hashObject_raises _) fun _ _ => ?_
  split
  · exact .bind unvalidated_valueErrorIf fun _ _ => .ok
  · have counted : ∃ usage, HistoryUsage.make 0 0 (1 : Nat) raw.length = .ok usage := by
      simp only [maxHistoryGapBytes] at bounded
      exact makeUsage_total (by simp only [maxSafeJsonInteger]; omega) (by simp only [maxSafeJsonInteger]; omega)
    refine .bind (unvalidated_of_total counted) fun _ _ => ?_
    refine .bind (reserve_raises _ _ _) fun reserved _ => ?_
    cases reserved with
    | none => exact .ok
    | some usage => exact commit_raises

theorem makeRetention_raises (fields : ArchiveDetailRetentionFields) :
    Raises Unvalidated (ArchiveDetailRetention.make fields) := by
  refine .construct ?_
  have deadline : ∀ applied : AppliedRetention, Raises Unvalidated applied.deadline := by
    intro applied
    unfold AppliedRetention.deadline
    split
    · exact .ok
    · split
      · exact .ok
      · exact .error (by simp [Unvalidated])
  unfold ArchiveDetailRetentionFields.postInit
  split
  · exact .ok
  · exact .error (by simp [Unvalidated])
  · exact .error (by simp [Unvalidated])
  · refine .bind unvalidated_valueErrorIf fun _ _ => ?_
    exact .bind (deadline _) fun _ _ => .ok

theorem validateExistingDetail_raises (retention : ArchiveDetailRetention) (existing : Option HistoryDetailRow) :
    Raises Unvalidated (validateExistingDetail retention existing) := by
  refine .bind unvalidated_valueErrorIf fun _ _ => ?_
  refine .bind unvalidated_valueErrorIf fun _ _ => ?_
  refine .bind unvalidated_valueErrorIf fun _ _ => ?_
  exact unvalidated_valueErrorIf

theorem importDetail_raises {parent : HistoryAttemptRow} {raw : List Nat} {defaults : HistoryDefaults}
    (bounded : raw.length ≤ maxHistoryDetailBytes) :
    Raises Unvalidated (importDetail archive dataset parent raw defaults now) := by
  refine .bind unvalidated_valueErrorIf fun _ _ => ?_
  have imports : ∀ policy reference, Raises Unvalidated (recordFirstDetailImport parent.retention policy reference now) := by
    intro policy reference
    unfold recordFirstDetailImport
    split
    · exact .ok
    · exact makeRetention_raises _
  refine .bind (imports _ _) fun imported _ => ?_
  split
  · exact .ok
  · refine .bind unvalidated_valueErrorIf fun _ _ => ?_
    have counted : ∃ usage, HistoryUsage.make 0 0 (0 : Nat) raw.length = .ok usage := by
      simp only [maxHistoryDetailBytes] at bounded
      exact makeUsage_total (Nat.zero_le _) (by simp only [maxSafeJsonInteger]; omega)
    refine .bind (unvalidated_of_total counted) fun _ _ => ?_
    refine .bind (reserve_raises _ _ _) fun reserved _ => ?_
    cases reserved with
    | none => exact .ok
    | some usage => exact commit_raises

theorem storeHistoryDetail_raises (kept : WellKept archive) (statistics : ArchivedAttemptStatistics)
    (detail : ArchivedAttemptDetail) (defaults : HistoryDefaults) :
    Raises Unvalidated (storeHistoryDetail archive dataset statistics detail defaults now) := by
  refine .bind unvalidated_valueErrorIf fun _ _ => ?_
  refine .bind (selects_raises _ _) fun _ _ => ?_
  refine .bind unvalidated_valueErrorIf fun _ _ => ?_
  dsimp only
  split
  · exact .error (by simp [Unvalidated])
  · rename_i parent located
    obtain ⟨stored, sameKey⟩ := attemptOf_eq_some located
    refine .bind unvalidated_valueErrorIf fun _ _ => ?_
    refine .bind (validateExistingDetail_raises _ _) fun _ _ => ?_
    split
    · exact .ok
    · split
      · exact .ok
      · refine .bind (loadHistoryJobs_raises _) fun jobs loaded => ?_
        obtain rfl := loadHistoryJobs_eq_ok loaded
        rw [← sameKey]
        refine .bind (decodeArchiveStatistics_raises kept stored) fun _ _ => ?_
        split
        · exact .ok
        · rename_i raw encodes
          split
          · exact .ok
          · exact importDetail_raises (validateAndEncodeDetail_eq_some encodes).2

end GapsAndDetails

section Retentions

variable {prior successor : ArchiveDetailRetention} {now : Instant}

theorem expireArchiveDetail_raises : Raises Unvalidated (expireArchiveDetail prior now) := by
  unfold expireArchiveDetail
  split
  · exact makeRetention_raises _
  · exact .ok

theorem applyDetailPolicy_raises (policy : DetailRetentionPolicy) (reference : DetailPolicyReference) :
    Raises Unvalidated (applyDetailPolicy prior policy reference now) := by
  refine .bind (.bind unvalidated_valueErrorIf fun _ _ => unvalidated_valueErrorIf) fun _ _ => ?_
  refine .bind expireArchiveDetail_raises fun current _ => ?_
  split
  · exact .ok
  · exact .bind (makeRetention_raises _) fun _ _ => expireArchiveDetail_raises

theorem retentionSuccessor_raises (action : RetentionAction) (policy : DetailRetentionPolicy)
    (reference : DetailPolicyReference) : Raises Unvalidated (retentionSuccessor action prior policy reference now) := by
  cases action with
  | eraseDetails =>
    unfold retentionSuccessor
    dsimp only
    split
    · exact makeRetention_raises _
    · exact .ok
  | applyPolicy => exact applyDetailPolicy_raises policy reference

theorem retentionSuccessor_importedAt {action : RetentionAction} {policy : DetailRetentionPolicy}
    {reference : DetailPolicyReference} (made : retentionSuccessor action prior policy reference now = .ok successor) :
    successor.importedAt = prior.importedAt := by
  cases action with
  | eraseDetails =>
    simp only [retentionSuccessor] at made
    split at made
    · rw [ArchiveDetailRetention.importedAt, makeRetention_eq_ok made, ArchiveDetailRetention.importedAt]
    · cases made
      rfl
  | applyPolicy => exact applyDetailPolicy_importedAt made

theorem readHistoryDetail_raises : Raises Unvalidated (readHistoryDetail prior now) := by
  refine .bind unvalidated_valueErrorIf fun _ _ => ?_
  exact .bind expireArchiveDetail_raises fun _ _ => .ok

theorem readHistoryDetail_importedAt {view : HistoryDetailView} (read : readHistoryDetail prior now = .ok view) :
    view.firstImportedAt = prior.importedAt := by
  simp only [readHistoryDetail, bind_eq_ok, pure_eq_ok_iff] at read
  obtain ⟨_, _, retention, expired, rfl⟩ := read
  exact expireArchiveDetail_importedAt expired

end Retentions

section Reviews

variable {archive : HistoryArchive} {selection : HistoryRetentionSelection} {policy : DetailRetentionPolicy}
  {reference : DetailPolicyReference} {now : Instant}

/-- An effect has the size of the stored detail and renews no import. -/
structure HistoryRetentionEffect.Admitted (effect : HistoryRetentionEffect) : Prop where
  size : effect.payloadBytes ≤ maxHistoryDetailBytes
  imported : effect.before.firstImportedAt = effect.after.firstImportedAt

theorem retentionEffect_raises {key : HistoryAttemptKey} {row : HistoryAttemptRow} {existing : Option HistoryDetailRow} :
    Raises Unvalidated (retentionEffect selection policy reference now key row existing) := by
  refine .bind unvalidated_valueErrorIf fun _ _ => ?_
  refine .bind (retentionSuccessor_raises _ _ _) fun _ _ => ?_
  refine .bind readHistoryDetail_raises fun _ _ => ?_
  exact .bind readHistoryDetail_raises fun _ _ => .ok

theorem retentionEffect_admitted {key : HistoryAttemptKey} {row : HistoryAttemptRow} {existing : Option HistoryDetailRow}
    {effect : HistoryRetentionEffect} {successor : ArchiveDetailRetention}
    (sizes : ∀ found ∈ existing, detailBytes found ≤ maxHistoryDetailBytes)
    (computed : retentionEffect selection policy reference now key row existing = .ok (effect, successor)) :
    effect.key = key ∧ effect.Admitted := by
  simp only [retentionEffect, bind_eq_ok] at computed
  obtain ⟨_, _, found, made, before, readBefore, after, readAfter, rfl, rfl⟩ := computed
  refine ⟨rfl, ⟨?_, ?_⟩⟩
  · cases existing with
    | none => exact Nat.zero_le _
    | some row => exact sizes row rfl
  · rw [readHistoryDetail_importedAt readBefore, readHistoryDetail_importedAt readAfter, retentionSuccessor_importedAt made]

theorem retentionEffects_raises {pairs : List (HistoryAttemptKey × HistoryAttemptRow)} :
    Raises Unvalidated (retentionEffects archive selection policy reference now pairs) := by
  induction pairs with
  | nil => exact .ok
  | cons pair rest ih =>
    unfold retentionEffects
    split
    · exact .ok
    · refine .bind retentionEffect_raises fun _ _ => ?_
      exact .bind ih fun _ _ => .ok

theorem retentionEffects_admitted (kept : WellKept archive) {pairs : List (HistoryAttemptKey × HistoryAttemptRow)}
    {effects : List (HistoryRetentionEffect × ArchiveDetailRetention)}
    (computed : retentionEffects archive selection policy reference now pairs = .ok (some effects)) :
    (effects.map Prod.fst).map HistoryRetentionEffect.key = pairs.map Prod.fst ∧
      ∀ effect ∈ effects.map Prod.fst, effect.Admitted := by
  induction pairs generalizing effects with
  | nil =>
    cases computed
    exact ⟨rfl, by simp⟩
  | cons pair rest ih =>
    unfold retentionEffects at computed
    split at computed
    · cases computed
    · simp only [bind_eq_ok, pure_eq_ok_iff, Option.map_eq_some_iff] at computed
      obtain ⟨⟨effect, successor⟩, first, others, later, found, rfl, rfl⟩ := computed
      obtain ⟨sameKeys, each⟩ := ih later
      obtain ⟨sameKey, admitted⟩ := retentionEffect_admitted
        (fun detail located => (kept.sizes detail (mem_of_find?_eq_some located)).2) first
      refine ⟨?_, ?_⟩
      · rw [map_cons, map_cons, map_cons, sameKeys, sameKey]
      · intro other member
        rcases mem_cons.mp member with rfl | tail
        · exact admitted
        · exact each other tail

/-- A review of admitted effects adds up. -/
theorem makePreview_total {effects : List HistoryRetentionEffect}
    (keys : effects.map HistoryRetentionEffect.key = selection.keys) (admitted : ∀ effect ∈ effects, effect.Admitted) :
    ∃ preview, HistoryRetentionPreview.make ⟨selection, effects,
      ((effects.filter HistoryRetentionEffect.deletePayload).map HistoryRetentionEffect.payloadBytes).sum,
      (effects.filter HistoryRetentionEffect.deletePayload).length⟩ = .ok preview := by
  have length : effects.length = selection.keys.length := by rw [← keys, length_map]
  have bounded := selection.bounded
  have fewer : (effects.filter HistoryRetentionEffect.deletePayload).length ≤ effects.length := length_filter_le _ _
  have bytes : ((effects.filter HistoryRetentionEffect.deletePayload).map HistoryRetentionEffect.payloadBytes).sum ≤
      (effects.filter HistoryRetentionEffect.deletePayload).length * maxHistoryDetailBytes := by
    have most := sum_le_card_nsmul ((effects.filter HistoryRetentionEffect.deletePayload).map
      HistoryRetentionEffect.payloadBytes) maxHistoryDetailBytes (by
        intro size listed
        obtain ⟨effect, member, rfl⟩ := mem_map.mp listed
        exact (admitted effect (mem_of_mem_filter member)).size)
    simpa using most
  simp only [maxHistoryDetailBytes] at bytes
  unfold HistoryRetentionPreview.make
  rw [raiseIf, if_neg, ok_bind_eq, raiseIf, if_neg, ok_bind_eq, raiseIf, if_neg, ok_bind_eq, raiseIf, if_neg, ok_bind_eq,
    raiseIf, if_neg, ok_bind_eq]
  · exact ⟨_, rfl⟩
  · rintro ⟨effect, member, differs⟩
    exact differs (admitted effect member).imported
  · simp
  · simpa using keys
  · dsimp only
    omega
  · rintro ⟨effect, member, large⟩
    have size := (admitted effect member).size
    simp only [maxHistoryDetailBytes, maxHistoryStatisticsBytes] at size large
    omega

theorem selectedRows_length {rows : List HistoryAttemptRow} (selected : selectedRows archive selection = some rows) :
    rows.length = selection.keys.length := by
  rw [selectedRows] at selected
  generalize selection.keys = keys at selected
  induction keys generalizing rows with
  | nil =>
    cases selected
    rfl
  | cons key rest ih =>
    simp only [mapM_cons, bind, Option.bind_eq_some_iff, pure, Option.some.injEq] at selected
    obtain ⟨_, _, others, found, rfl⟩ := selected
    simp [ih found]

theorem previewRetention_raises (kept : WellKept archive) (defaults : HistoryDefaults) (dataset : HistoryDataset) :
    Raises Unvalidated (previewRetention archive defaults selection dataset now) := by
  unfold previewRetention
  split
  · exact .ok
  · refine .bind unvalidated_valueErrorIf fun _ _ => ?_
    dsimp only
    split
    · exact .ok
    · rename_i rows selected
      refine .bind retentionEffects_raises fun computed effects => ?_
      cases computed with
      | none => exact .ok
      | some computed =>
        obtain ⟨keys, admitted⟩ := retentionEffects_admitted kept effects
        rw [map_fst_zip (selectedRows_length selected).ge] at keys
        exact .bind (unvalidated_of_total (makePreview_total keys admitted)) fun _ _ => .ok

end Reviews

section Transactions

variable {archive tables : HistoryArchive} {dataset : HistoryDataset} {now : Instant}

theorem releaseDetails_raises {keys : List ArchiveKey} (sound : Sound archive) (member : dataset ∈ archive.datasets)
    (own : ∀ key ∈ keys, key.InDataset dataset) :
    Raises Unvalidated (releaseDetails tables dataset ((deletedDetails archive keys).map detailBytes).sum) := by
  obtain ⟨removed, usage, counted, freed⟩ := release_returns sound member own
  refine .bind (unvalidated_of_total ⟨_, counted⟩) fun found same => ?_
  rw [counted] at same
  cases same
  refine .bind (unvalidated_of_total ⟨_, freed⟩) fun _ _ => ?_
  exact commit_raises

theorem expireHistoryDetailsInScope_raises (sound : Sound archive) (scope : RepositoryScope) (limit : Nat) :
    Raises Unvalidated (expireHistoryDetailsInScope archive scope now limit) := by
  refine .bind unvalidated_valueErrorIf fun _ _ => ?_
  split
  · exact .ok
  · rename_i dataset located
    obtain ⟨member, _⟩ := datasetOf_eq_some located
    split
    · exact .ok
    · dsimp only
      split
      · exact .ok
      · have expires : Raises Unvalidated (forEach (fun row => requireExpired row now)
            (expiredDetails archive dataset now limit)) :=
          .forEach fun row _ => .bind expireArchiveDetail_raises fun _ _ => unvalidated_valueErrorIf
        refine .bind expires fun _ _ => ?_
        refine .bind unvalidated_valueErrorIf fun _ _ => ?_
        refine .bind (.raiseIf fun _ => by simp [Unvalidated]) fun _ _ => ?_
        refine .bind (releaseDetails_raises sound member (expiredDetails_own)) fun _ _ => ?_
        exact .ok

theorem replayRetention_raises (command : ApplyHistoryRetention) (current : Option HistoryDataset)
    (receipt : RetentionReceipt) : Raises Unvalidated (replayRetention command current receipt) := by
  refine .bind (hashObject_raises _) fun _ _ => ?_
  split
  · exact .ok
  · refine .bind (hashObject_raises _) fun _ _ => ?_
    exact .bind unvalidated_valueErrorIf fun _ _ => .ok

theorem commitRetention_raises {preview : HistoryRetentionPreview} {successors : List ArchiveDetailRetention}
    (sound : Sound archive) (member : dataset ∈ archive.datasets)
    (own : preview.selection.scope = dataset.scope ∧ preview.selection.generation = dataset.generation) :
    Raises Unvalidated (commitRetention archive dataset preview successors) := by
  refine .bind unvalidated_valueErrorIf fun _ _ => ?_
  refine .bind unvalidated_valueErrorIf fun _ _ => ?_
  refine releaseDetails_raises sound member fun key listed => ?_
  obtain ⟨effect, _, rfl⟩ := mem_map.mp listed
  exact own

theorem applyHistoryRetention_raises (sound : Sound archive) (receipts : List RetentionReceipt) (defaults : HistoryDefaults)
    (command : ApplyHistoryRetention) (auditAppended : Bool) :
    Raises Unvalidated (applyHistoryRetention archive receipts defaults command now auditAppended) := by
  unfold applyHistoryRetention
  dsimp only
  split
  · exact .bind (replayRetention_raises _ _ _) fun _ _ => .ok
  · split
    · exact .ok
    · rename_i dataset located
      obtain ⟨member, scope⟩ := datasetOf_eq_some located
      split
      · exact .ok
      · rename_i selected
        rw [not_not] at selected
        refine .bind (previewRetention_raises sound.kept _ _) fun reviewed computed => ?_
        split
        · exact .ok
        · rename_i preview successors
          refine .bind (hashObject_raises _) fun _ _ => ?_
          split
          · exact .ok
          · refine .bind (hashObject_raises _) fun _ _ => ?_
            have own : preview.selection.scope = dataset.scope ∧ preview.selection.generation = dataset.generation := by
              rw [previewRetention_selection computed]
              exact ⟨scope.symm, selected.2.2.1.symm⟩
            refine .bind (commitRetention_raises sound member own) fun _ _ => ?_
            refine .bind unvalidated_valueErrorIf fun _ _ => ?_
            exact .ok

theorem contributeStatistics_raises (sound : Sound archive) (member : dataset ∈ archive.datasets)
    (statistics : ArchivedAttemptStatistics) (gapOf : ContributionGap → ArchiveGap) (detail : Option ArchivedAttemptDetail)
    (defaults : HistoryDefaults) :
    Raises Unvalidated (contributeStatistics archive dataset statistics gapOf detail defaults now) := by
  refine .bind (storeHistoryStatistics_raises sound member) fun first stored => ?_
  obtain ⟨tables, changed, outcome⟩ := first
  have settled := (storeHistoryStatistics_settled sound member stored).1
  have gaps : Raises Unvalidated (Contribution.storeGap ⟨tables, changed, outcome⟩
      (contributionGap outcome statistics.header.population) gapOf now) := by
    unfold Contribution.storeGap
    split
    · exact .ok
    · split
      · exact .ok
      · exact .bind (storeHistoryGap_raises _) fun _ _ => .ok
  refine .bind gaps fun withGap second => ?_
  have gapSettled := Contribution.storeGap_settled settled second
  have details : Raises Unvalidated (withGap.storeDetail statistics detail defaults now) := by
    unfold Contribution.storeDetail
    split
    · exact .ok
    · split
      · exact .bind (storeHistoryDetail_raises gapSettled.sound.kept _ _ _) fun _ _ => .ok
      · exact .ok
  exact .bind details fun _ _ => .ok

theorem configureHistory_raises (scope : RepositoryScope) (configuration : HistoryConfiguration) :
    Raises Unvalidated (configureHistory archive scope configuration now) := by
  have successor : ∀ prior, Raises Unvalidated (configureHistoryDataset scope configuration prior now) := by
    intro prior
    cases prior with
    | none => exact makeDataset_raises _
    | some prior =>
      refine .bind unvalidated_valueErrorIf fun _ _ => ?_
      exact .bind unvalidated_valueErrorIf fun _ _ => makeDataset_raises _
  refine .bind (successor _) fun _ _ => ?_
  split
  · exact .ok
  · exact writeHistoryDataset_raises _ _

end Transactions

/-- No request on a sound store fails in its counts. -/
theorem serve_raises {store : HistoryStore} (sound : Sound store.archive) (request : HistoryRequest) :
    Raises Unvalidated (store.serve request) := by
  have onDataset : ∀ (scope : RepositoryScope) (act : HistoryDataset → Py (HistoryArchive × HistoryAnswer)),
      (∀ dataset ∈ store.archive.datasets, Raises Unvalidated (act dataset)) →
        Raises Unvalidated (store.onDataset scope act) := by
    intro scope act each
    unfold HistoryStore.onDataset
    split
    · exact .ok
    · rename_i dataset located
      exact .bind (each dataset (datasetOf_eq_some located).1) fun _ _ => .ok
  cases request with
  | storeStatistics scope statistics now =>
    exact onDataset _ _ fun dataset member =>
      .bind (storeHistoryStatistics_raises sound member) fun _ _ => .ok
  | storeGap scope gap now =>
    exact onDataset _ _ fun dataset _ => .bind (storeHistoryGap_raises gap) fun _ _ => .ok
  | storeDetail scope statistics detail now =>
    exact onDataset _ _ fun dataset _ =>
      .bind (storeHistoryDetail_raises sound.kept statistics detail _) fun _ _ => .ok
  | contribute scope statistics gapOf detail now =>
    exact onDataset _ _ fun dataset member =>
      .bind (contributeStatistics_raises sound member statistics gapOf detail _) fun _ _ => .ok
  | expireDetails scope now limit =>
    exact .bind (expireHistoryDetailsInScope_raises sound scope limit) fun _ _ => .ok
  | applyRetention command now auditAppended =>
    exact .bind (applyHistoryRetention_raises sound _ _ command auditAppended) fun _ _ => .ok
  | configure scope configuration now =>
    exact .bind (configureHistory_raises scope configuration) fun _ _ => .ok
  | setDefaults defaults => exact .ok

end CiCoordinator.Persistence

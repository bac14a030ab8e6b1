import CiCoordinator.Persistence.ObservationRepository

/- What the recording of a gap does to the table of gaps. -/

namespace CiCoordinator.Persistence

open Library Kernel ConfigControl CiEconomics List

/-- The rows are named by the hashes of their gaps, and every scope keeps to its quota. -/
structure GapsSound (rows : List ObservationGapRow) : Prop where
  distinct : (rows.map ObservationGapRow.gapId).Nodup
  identified : ∀ row ∈ rows, row.gap.gapId = .ok row.gapId
  quota : ∀ scope, (scopeRows rows scope).length ≤ maxObservationGaps

/-- A gap that is recorded is stored, or its details are marked as lost up to its expiry. -/
def GapKept (table : ObservationGapTable) (gap : ObservationGap) : Prop :=
  (∃ row ∈ table.rows, row.gap = gap) ∨ ∃ deadline ∈ table.detailTruncatedUntil, gap.expiry ≤ deadline

/-- Two different gaps of a collection have the same hash. -/
def Colliding (known : ObservationGap → Prop) : Prop :=
  ∃ first second, known first ∧ known second ∧ first ≠ second ∧ first.gapId = second.gapId

theorem GapsSound.filter {rows : List ObservationGapRow} (sound : GapsSound rows) (keep : ObservationGapRow → Bool) :
    GapsSound (rows.filter keep) := by
  refine ⟨?_, ?_, ?_⟩
  · exact List.Nodup.sublist (List.Sublist.map _ filter_sublist) sound.distinct
  · exact fun row member => sound.identified row (mem_of_mem_filter member)
  · intro scope
    have fewer : (scopeRows (rows.filter keep) scope).Sublist (scopeRows rows scope) :=
      List.Sublist.filter _ filter_sublist
    exact fewer.length_le.trans (sound.quota scope)

theorem gapDetailTruncationDeadline_spec {prior : Option Instant} {evicted : ObservationGap} {now : Instant}
    (running : now < evicted.expiry) :
    ∃ deadline ∈ gapDetailTruncationDeadline prior evicted now, evicted.expiry ≤ deadline := by
  have member : evicted.expiry ∈ (prior.toList ++ [evicted.expiry]).filter fun value => decide (now < value) := by
    simp [running]
  cases found : gapDetailTruncationDeadline prior evicted now with
  | none =>
    rw [gapDetailTruncationDeadline, max?_eq_none_iff] at found
    rw [found] at member
    cases member
  | some deadline =>
    rw [gapDetailTruncationDeadline, max?_eq_some_iff] at found
    exact ⟨deadline, rfl, found.2 _ member⟩

theorem scopeRows_append (rows : List ObservationGapRow) (row : ObservationGapRow) (scope : RepositoryScope) :
    (scopeRows (rows ++ [row]) scope).length = (scopeRows rows scope).length + if row.gap.scope = scope then 1 else 0 := by
  rw [scopeRows, filter_append, length_append, scopeRows]
  congr 1
  split <;> simp_all

section Insert

variable {table : ObservationGapTable} {row : ObservationGapRow} {now : Instant}

/-- A gap with a new hash is always inserted. -/
theorem insertGap_spec (sound : GapsSound table.rows) (named : row.gap.gapId = .ok row.gapId)
    (new : ∀ other ∈ table.rows, other.gapId ≠ row.gapId) (running : now < row.gap.expiry) :
    ∃ next, insertGap table row now = .ok next ∧ GapsSound next.rows ∧ next.recorded = table.recorded ++ [row.gap] ∧
      GapKept next row.gap ∧ ∀ other ∈ next.rows, other ∈ table.rows ∨ other.gap = row.gap := by
  have distinct : ((table.rows ++ [row]).map ObservationGapRow.gapId).Nodup := by
    rw [map_append, nodup_append]
    refine ⟨sound.distinct, nodup_singleton _, ?_⟩
    intro first member second last same
    obtain ⟨other, found, rfl⟩ := mem_map.mp member
    rw [map_singleton, mem_singleton] at last
    exact new other found (same.trans last)
  have identified : ∀ other ∈ table.rows ++ [row], other.gap.gapId = .ok other.gapId := by
    intro other member
    rcases mem_append.mp member with earlier | last
    · exact sound.identified other earlier
    · rw [mem_singleton.mp last, named]
  have known : ∀ other ∈ table.rows ++ [row], other ∈ table.rows ∨ other.gap = row.gap := by
    intro other member
    rcases mem_append.mp member with earlier | last
    · exact .inl earlier
    · exact .inr (by rw [mem_singleton.mp last])
  have count : ∀ scope, (scopeRows (table.rows ++ [row]) scope).length ≤
      maxObservationGaps + if row.gap.scope = scope then 1 else 0 := by
    intro scope
    rw [scopeRows_append]
    have := sound.quota scope
    omega
  have size := (sortBy_perm gapOrder (scopeRows (table.rows ++ [row]) row.gap.scope)).length_eq
  have bound := count row.gap.scope
  rw [if_pos rfl] at bound
  rw [insertGap, valueErrorIf_passes (by omega), ok_bind_eq]
  split
  · rename_i fits
    refine ⟨_, rfl, ⟨distinct, identified, ?_⟩, rfl, .inl ⟨row, by simp, rfl⟩, known⟩
    intro scope
    by_cases same : row.gap.scope = scope
    · rw [← same]
      exact size ▸ fits
    · have := count scope
      rw [if_neg same] at this
      exact this
  · rename_i full
    split
    · rename_i empty
      rw [empty, length_nil] at full
      omega
    · rename_i evicted rest ordered
      have member : evicted ∈ scopeRows (table.rows ++ [row]) row.gap.scope := by
        rw [← @mem_sortBy _ _ _ gapOrder, ordered]
        exact mem_cons_self
      have inScope : evicted.gap.scope = row.gap.scope := by
        simpa [scopeRows] using (mem_filter.mp member).2
      have all : GapsSound ((table.rows ++ [row]).filter fun other =>
          decide (other.gapId ≠ evicted.gapId ∨ other.gap.scope ≠ row.gap.scope)) := by
        refine ⟨?_, ?_, ?_⟩
        · exact List.Nodup.sublist (List.Sublist.map _ filter_sublist) distinct
        · exact fun other found => identified other (mem_of_mem_filter found)
        · intro scope
          by_cases same : row.gap.scope = scope
          · subst same
            rw [scopeRows, filter_filter, filter_congr fun other _ => Bool.and_comm _ _, ← filter_filter]
            refine Nat.lt_succ_iff.mp (lt_of_lt_of_le ?_ bound)
            exact length_filter_lt_length_iff_exists.mpr ⟨evicted, member, by simp [inScope]⟩
          · have fewer : (scopeRows ((table.rows ++ [row]).filter fun other =>
                decide (other.gapId ≠ evicted.gapId ∨ other.gap.scope ≠ row.gap.scope)) scope).Sublist
                  (scopeRows (table.rows ++ [row]) scope) := List.Sublist.filter _ filter_sublist
            have := count scope
            rw [if_neg same] at this
            exact fewer.length_le.trans this
      refine ⟨_, rfl, all, rfl, ?_, fun other found => known other (mem_of_mem_filter found)⟩
      by_cases itself : row.gapId = evicted.gapId
      · have same : row.gap = evicted.gap := by
          have found := (mem_filter.mp member).1
          rcases mem_append.mp found with earlier | last
          · exact absurd itself.symm (new evicted earlier)
          · rw [mem_singleton.mp last]
        rw [same] at running
        obtain ⟨deadline, marked, later⟩ := @gapDetailTruncationDeadline_spec table.detailTruncatedUntil _ _ running
        exact .inr ⟨deadline, marked, same ▸ later⟩
      · exact .inl ⟨row, mem_filter.mpr ⟨by simp, by simp [itself]⟩, rfl⟩

end Insert

/-- A gap whose cycle has started is recorded unless another stored gap has its hash. -/
theorem recordObservationGap_spec {table : ObservationGapTable} {gap : ObservationGap} {now : Instant}
    {known : ObservationGap → Prop} (sound : GapsSound table.rows) (stored : ∀ row ∈ table.rows, known row.gap)
    (meant : known gap) (started : gap.cycleStartedAt ≤ now) (running : now < gap.expiry) :
    (∃ next, recordObservationGap table gap now = .ok next ∧ GapsSound next.rows ∧
        next.recorded = table.recorded ++ [gap] ∧ GapKept next gap ∧
        ∀ other ∈ next.rows, known other.gap) ∨
      ∃ error, recordObservationGap table gap now = .error error ∧ Colliding known := by
  rw [recordObservationGap, valueErrorIf_passes (not_lt.mpr started), ok_bind_eq, if_neg (not_le.mpr running)]
  obtain ⟨gapId, hashed, _⟩ := gap.gapId_total
  rw [hashed, ok_bind_eq]
  have kept : GapsSound (table.rows.filter fun row => decide (¬ (row.gap.scope = gap.scope ∧ row.gap.expiry ≤ now))) :=
    sound.filter _
  split
  · rename_i existing found
    have member := mem_of_find?_eq_some found
    have same : existing.gapId = gapId := by simpa using find?_some found
    by_cases equal : existing.gap = gap
    · rw [valueErrorIf_passes (not_not.mpr equal)]
      exact .inl ⟨_, rfl, kept, rfl, .inl ⟨existing, member, equal⟩, fun other found => stored other (mem_of_mem_filter found)⟩
    · refine .inr ⟨_, bind_eq_error.mpr (.inl (raiseIf_eq_error.mpr ⟨equal, rfl⟩)), existing.gap, gap, stored existing (mem_of_mem_filter member), meant, equal, ?_⟩
      rw [kept.identified existing member, hashed, same]
  · rename_i absent
    have new : ∀ other ∈ table.rows.filter fun row => decide (¬ (row.gap.scope = gap.scope ∧ row.gap.expiry ≤ now)),
        other.gapId ≠ gapId := by
      intro other member
      simpa using find?_eq_none.mp absent other member
    obtain ⟨next, inserted, sound, recorded, preserved, rows⟩ :=
      @insertGap_spec { table with rows := _ } ⟨gapId, gap⟩ now kept hashed new running
    refine .inl ⟨next, inserted, sound, recorded, preserved, fun other found => ?_⟩
    rcases rows other found with earlier | last
    · exact stored other (mem_of_mem_filter earlier)
    · rw [last]
      exact meant

/-- The gap of a preparation is recorded at the start of its cycle. -/
theorem recordPreparedGap_spec {table : ObservationGapTable} {gap : Option ObservationGap} {now : Instant}
    {known : ObservationGap → Prop} (sound : GapsSound table.rows) (stored : ∀ row ∈ table.rows, known row.gap)
    (meant : ∀ lost ∈ gap, known lost) (started : ∀ lost ∈ gap, lost.cycleStartedAt = now) :
    (∃ next, recordPreparedGap table gap now = .ok next ∧ GapsSound next.rows ∧ next.recorded = table.recorded ++ gap.toList) ∨
      ∃ error, recordPreparedGap table gap now = .error error ∧ Colliding known := by
  cases gap with
  | none => exact .inl ⟨table, rfl, sound, by simp⟩
  | some lost =>
    have begun := started lost rfl
    have running : now < lost.expiry := by
      rw [← begun, Instant.lt_def]
      simp only [ObservationGap.expiry, secondMicros, observationGapRetentionSeconds]
      omega
    rcases recordObservationGap_spec sound stored (meant lost rfl) begun.le running with
      ⟨next, recorded, kept, log, _⟩ | raised
    · exact .inl ⟨next, recorded, kept, log⟩
    · exact .inr raised

section Page

variable {snapshot : ObservationSnapshot} {claim : ObservationClaim} {now : Instant}

/-- The gap of a page is the window of its claim. -/
def IsPageGap (claim : ObservationClaim) (gap : ObservationGap) : Prop :=
  gap.lane = claim.lane ∧ gap.cycleStartedAt = claim.cursor.cycleStartedAt ∧
    gap.createdFrom = claim.cursor.window.createdFrom ∧ gap.createdThrough = claim.cursor.window.createdThrough

theorem pageGap_total (reason : ObservationGapReason)
    (inRange : claim.cursor.cycleStartedAt.micros + secondMicros * observationGapRetentionSeconds < instantLimit) :
    ∃ gap, pageGap snapshot claim reason = .ok gap := by
  obtain ⟨digest, hashed, lowerHex⟩ := snapshot.configuration.selectorDigest_total
  have cursor := claim.cursor.facts
  obtain ⟨gap, made, _⟩ := @ObservationGap.make_ok
    ⟨claim.scope, claim.configRevision, digest, claim.lane, claim.cursor.cycleStartedAt, claim.cursor.window.createdFrom,
      claim.cursor.window.createdThrough, reason⟩
    ⟨claim.facts.1, lowerHex, ⟨cursor.inside.2.1, cursor.inside.2.2.trans cursor.ended⟩, inRange⟩
  exact ⟨gap, by rw [pageGap, hashed, ok_bind_eq, made]⟩

theorem pageGap_eq_ok {reason : ObservationGapReason} {gap : ObservationGap}
    (computed : pageGap snapshot claim reason = .ok gap) : IsPageGap claim gap ∧ gap.reason = reason := by
  simp only [pageGap, bind_eq_ok] at computed
  obtain ⟨_, _, made⟩ := computed
  simp only [IsPageGap, ObservationGap.make_eq_ok made, and_self]

theorem recordPageGaps_cons (table : ObservationGapTable) (reason : ObservationGapReason)
    (rest : List ObservationGapReason) : recordPageGaps snapshot claim table (reason :: rest) now = (do
      let gap ← pageGap snapshot claim reason
      let next ← recordObservationGap table gap now
      recordPageGaps snapshot claim next rest now) := by
  simp only [recordPageGaps, foldSteps, bind_assoc]

/-- The reasons of a page are recorded one after the other. -/
theorem recordPageGaps_spec {known : ObservationGap → Prop} (reasons : List ObservationGapReason)
    (meant : ∀ reason gap, pageGap snapshot claim reason = .ok gap → known gap)
    (started : claim.cursor.cycleStartedAt ≤ now)
    (running : now.micros < claim.cursor.cycleStartedAt.micros + secondMicros * observationGapRetentionSeconds)
    {table : ObservationGapTable} (sound : GapsSound table.rows) (stored : ∀ row ∈ table.rows, known row.gap) :
    (∃ next, recordPageGaps snapshot claim table reasons now = .ok next ∧ GapsSound next.rows ∧
        (∀ gap ∈ table.recorded, gap ∈ next.recorded) ∧
        ∀ reason ∈ reasons, ∃ gap ∈ next.recorded, IsPageGap claim gap ∧ gap.reason = reason) ∨
      ∃ error, recordPageGaps snapshot claim table reasons now = .error error ∧
        (claim.cursor.cycleStartedAt.micros + secondMicros * observationGapRetentionSeconds < instantLimit →
          Colliding known) := by
  induction reasons generalizing table with
  | nil => exact .inl ⟨table, rfl, sound, fun _ member => member, by simp⟩
  | cons reason rest ih =>
    rw [recordPageGaps_cons]
    cases computed : pageGap snapshot claim reason with
    | error error =>
      refine .inr ⟨error, rfl, fun inRange => ?_⟩
      obtain ⟨gap, made⟩ := @pageGap_total snapshot claim reason inRange
      rw [computed] at made
      cases made
    | ok gap =>
      obtain ⟨isGap, because⟩ := pageGap_eq_ok computed
      have valid : now < gap.expiry := by
        rw [Instant.lt_def]
        simp only [ObservationGap.expiry, isGap.2.1]
        exact running
      simp only [ok_bind_eq]
      rcases recordObservationGap_spec sound stored (meant reason gap computed) (isGap.2.1 ▸ started) valid with
        ⟨next, recorded, kept, log, _, rows⟩ | ⟨error, raised, collision⟩
      · rw [recorded, ok_bind_eq]
        rcases ih kept rows with ⟨last, folded, sound, grows, each⟩ | ⟨error, raised, cause⟩
        · refine .inl ⟨last, folded, sound, ?_, ?_⟩
          · exact fun other member => grows other (by rw [log]; exact mem_append_left _ member)
          · intro other member
            rcases mem_cons.mp member with rfl | later
            · exact ⟨gap, grows gap (by simp [log]), isGap, because⟩
            · exact each other later
        · exact .inr ⟨error, raised, cause⟩
      · exact .inr ⟨error, by rw [raised]; rfl, fun _ => collision⟩

/-- The selected sources are some of the sources of the page. -/
theorem selectedSources_spec (snapshot : ObservationSnapshot) (observed : ProviderObservationPage) :
    ∃ selected, selectedSources snapshot observed = .ok selected ∧ selected.length ≤ observed.page.sources.length := by
  obtain ⟨choices, computed⟩ := collect_total fun workflowId member =>
    snapshot.configuration.selects_total (observed.facts.2 workflowId member)
  refine ⟨_, by rw [selectedSources, computed]; rfl, ?_⟩
  rw [length_map]
  refine (length_filter_le _ _).trans ?_
  rw [length_zip]
  exact Nat.min_le_left _ _

end Page

end CiCoordinator.Persistence

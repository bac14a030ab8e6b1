import CiCoordinator.Persistence.HistoryAccounting
import CiCoordinator.Persistence.HistoryReading

/- The chains of page reads between the transactions of the archives. -/

namespace CiCoordinator.Persistence

open Library Kernel ConfigControl CiEconomics HistoryCursorCodec List Option

section Order

variable {archive : HistoryArchive} {query : HistoryReadQuery} {rows : GenerationRows}

theorem mem_itemsOf_record {row : HistoryAttemptRow} {kind : HistoryReadKind} :
    .record row ∈ itemsOf rows kind ↔ kind = .records ∧ row ∈ rows.attempts := by
  cases kind <;> simp [itemsOf]

theorem mem_itemsOf_job {row : HistoryJobRow} {kind : HistoryReadKind} :
    .job row ∈ itemsOf rows kind ↔ kind = .jobs ∧ row ∈ rows.jobs := by
  cases kind <;> simp [itemsOf]

theorem mem_itemsOf_gap {row : HistoryGapRow} {kind : HistoryReadKind} :
    .gap row ∈ itemsOf rows kind ↔ kind = .gaps ∧ row ∈ rows.gaps := by
  cases kind <;> simp [itemsOf]

/-- A job that a query of jobs selects is one of the attempt that the query names. -/
theorem selectsAttempt_of_jobs {run attempt : Int} (jobs : query.kind = .jobs) (selected : selectsAttempt query run attempt) :
    query.workflowRunId = some run ∧ query.runAttempt = some attempt := by
  have named := HistoryReadQueryFields.Admitted.jobs query.admitted jobs
  have both := HistoryReadQueryFields.Admitted.paired query.admitted
  obtain ⟨id, run⟩ := ne_none_iff_exists'.mp named
  obtain ⟨number, attempt⟩ := ne_none_iff_exists'.mp (both.not.mp named)
  rw [run, attempt]
  rw [selectsAttempt, run, attempt] at selected
  exact ⟨by rw [selected.1 id rfl], by rw [selected.2 number rfl]⟩

section

variable (kept : WellKept archive)
include kept

variable (query : HistoryReadQuery)

/-- The keys of the rows of a generation tell the selected rows apart. -/
theorem separates_order (selected : List HistoryReadItem)
    (each : ∀ item ∈ selected, item ∈ itemsOf (archive.rowsOf query.scope query.generation) query.kind ∧
      selects query (archive.rowsOf query.scope query.generation) item) :
    Separates HistoryReadItem.order selected := by
  intro left leftMember right rightMember equal
  obtain ⟨leftStored, leftSelected⟩ := each left leftMember
  obtain ⟨rightStored, rightSelected⟩ := each right rightMember
  cases left with
  | record first =>
    obtain ⟨kind, firstRow⟩ := mem_itemsOf_record.mp leftStored
    cases right with
    | record second =>
      obtain ⟨_, secondRow⟩ := mem_itemsOf_record.mp rightStored
      simp only [HistoryArchive.rowsOf, mem_filter, decide_eq_true_eq] at firstRow secondRow
      simp only [HistoryReadItem.order, HistoryReadItem.key, HistoryReadKey.order] at equal
      have keys : first.key = second.key := by
        obtain ⟨firstScope, firstGeneration⟩ := firstRow.2
        obtain ⟨secondScope, secondGeneration⟩ := secondRow.2
        cases firstKey : first.key
        cases secondKey : second.key
        simp_all
      rw [kept.attempts.eq_of_key firstRow.1 secondRow.1 keys]
    | job second => exact absurd (kind.symm.trans (mem_itemsOf_job.mp rightStored).1) (by decide)
    | gap second => exact absurd (kind.symm.trans (mem_itemsOf_gap.mp rightStored).1) (by decide)
  | job first =>
    obtain ⟨kind, firstRow⟩ := mem_itemsOf_job.mp leftStored
    cases right with
    | job second =>
      obtain ⟨_, secondRow⟩ := mem_itemsOf_job.mp rightStored
      simp only [HistoryArchive.rowsOf, mem_filter, decide_eq_true_eq] at firstRow secondRow
      simp only [HistoryReadItem.order, HistoryReadItem.key, HistoryReadKey.order, List.cons.injEq, and_true] at equal
      have keys : first.jobKey = second.jobKey := by
        obtain ⟨firstRun, firstAttempt⟩ := selectsAttempt_of_jobs kind leftSelected.1
        obtain ⟨secondRun, secondAttempt⟩ := selectsAttempt_of_jobs kind rightSelected.1
        obtain ⟨firstScope, firstGeneration⟩ := firstRow.2
        obtain ⟨secondScope, secondGeneration⟩ := secondRow.2
        rw [HistoryJobRow.jobKey, HistoryJobRow.jobKey, equal]
        cases firstKey : first.key
        cases secondKey : second.key
        simp_all
      rw [kept.jobs.eq_of_key firstRow.1 secondRow.1 keys]
    | record second => exact absurd (kind.symm.trans (mem_itemsOf_record.mp rightStored).1) (by decide)
    | gap second => exact absurd (kind.symm.trans (mem_itemsOf_gap.mp rightStored).1) (by decide)
  | gap first =>
    obtain ⟨kind, firstRow⟩ := mem_itemsOf_gap.mp leftStored
    cases right with
    | gap second =>
      obtain ⟨_, secondRow⟩ := mem_itemsOf_gap.mp rightStored
      simp only [HistoryArchive.rowsOf, mem_filter, decide_eq_true_eq] at firstRow secondRow
      have injective : Function.Injective fun point : CodePoint => (point.val : Int) :=
        fun _ _ same => Fin.ext (Int.ofNat_inj.mp same)
      have keys : first.gapKey = second.gapKey := by
        rw [HistoryGapRow.gapKey, HistoryGapRow.gapKey, map_injective_iff.mpr injective equal, firstRow.2.1,
          secondRow.2.1, firstRow.2.2, secondRow.2.2]
      rw [kept.gaps.eq_of_key firstRow.1 secondRow.1 keys]
    | record second => exact absurd (kind.symm.trans (mem_itemsOf_record.mp rightStored).1) (by decide)
    | job second => exact absurd (kind.symm.trans (mem_itemsOf_job.mp rightStored).1) (by decide)

theorem nodup_itemsOf (scope : RepositoryScope) (generation : Int) (kind : HistoryReadKind) :
    (itemsOf (archive.rowsOf scope generation) kind).Nodup := by
  cases kind with
  | records => exact ((List.Nodup.of_map _ kept.attempts).filter _).map fun _ _ => HistoryReadItem.record.inj
  | jobs => exact ((List.Nodup.of_map _ kept.jobs).filter _).map fun _ _ => HistoryReadItem.job.inj
  | gaps => exact ((List.Nodup.of_map _ kept.gaps).filter _).map fun _ _ => HistoryReadItem.gap.inj

/-- The matching rows increase by their keys. -/
theorem matchingItems_increasing :
    Increasing HistoryReadItem.order (matchingItems query (archive.rowsOf query.scope query.generation) none) := by
  refine sortBy_increasing ((nodup_itemsOf kept _ _ query.kind).filter _) (separates_order kept query _ fun item member => ?_)
  exact (mem_filter.mp member).imp_right of_decide_eq_true

/-- The rows after a key are the matching rows that follow it. -/
theorem matchingItems_after (key : HistoryReadKey) :
    matchingItems query (archive.rowsOf query.scope query.generation) (some key) =
      itemsAfter HistoryReadItem.order (some key.order)
        (matchingItems query (archive.rowsOf query.scope query.generation) none) := by
  refine sortBy_filter _ ((nodup_itemsOf kept _ _ query.kind).filter _) (separates_order kept query _ fun item member => ?_)
  rwa [mem_filter, decide_eq_true_eq] at member

end

end Order

/-- A page shows rows as they are at its instant. -/
structure HistoryReadPage.Shows (page : HistoryReadPage) (rows : GenerationRows) (visible : List HistoryReadItem) : Prop where
  keys : page.keys = visible.map HistoryReadItem.key
  contents : ∃ parent contents, readParent rows page.query page.observedAt = .ok (some parent) ∧
    collect (showItem rows page.query page.observedAt) visible = .ok contents ∧
    page.records = parent ++ contents.flatMap HistoryReadContents.records ∧
    page.jobs = contents.flatMap HistoryReadContents.jobs ∧ page.gaps = contents.flatMap HistoryReadContents.gaps

section Pages

variable {archive : HistoryArchive} {dataset : HistoryDataset} {query : HistoryReadQuery} {rows : GenerationRows}
  {cursor : Option HistoryReadCursor} {page : HistoryReadPage} {now : Instant}

/-- The keys of what is shown of a row. -/
def HistoryReadContents.keysOf (contents : HistoryReadContents) : HistoryReadKind → List HistoryReadKey
  | .records => contents.records.map HistoryReadPageFields.recordKey
  | .jobs => contents.jobs.map fun job => .job job.providerJobId
  | .gaps => contents.gaps.map fun view => .gap view.gapId

/-- What is shown of a row has the key of the row. -/
theorem showItem_key {item : HistoryReadItem} {contents : HistoryReadContents} {kind : HistoryReadKind}
    (ofKind : item ∈ itemsOf rows kind) (shown : showItem rows query now item = .ok contents) :
    contents.keysOf kind = [item.key] := by
  cases item with
  | record row =>
    obtain ⟨rfl, _⟩ := mem_itemsOf_record.mp ofKind
    simp only [showItem, readHistorySummary, bind_eq_ok, raiseIf_eq_ok, not_not, pure_eq_ok_iff] at shown
    obtain ⟨summary, ⟨_, _, _, projects, _, _, _, _, rfl⟩, rfl⟩ := shown
    obtain ⟨_, run, attempt, _, _, created⟩ := projects
    simp [HistoryReadContents.keysOf, HistoryReadPageFields.recordKey, HistoryReadItem.key, run, attempt, created]
  | job row =>
    obtain ⟨rfl, _⟩ := mem_itemsOf_job.mp ofKind
    simp only [showItem, readHistoryJob, bind_eq_ok, pure_eq_ok_iff] at shown
    obtain ⟨job, ⟨_, _, _, _, _, _, rfl⟩, rfl⟩ := shown
    rfl
  | gap row =>
    obtain ⟨rfl, _⟩ := mem_itemsOf_gap.mp ofKind
    simp only [showItem, readGapItem, readHistoryGap, bind_eq_ok, raiseIf_eq_ok, not_or, not_not, pure_eq_ok_iff] at shown
    obtain ⟨view, ⟨_, _, _, _, id, _, _, ⟨_, _, same⟩, _, _, _, _, rfl⟩, rfl⟩ := shown
    simp [HistoryReadContents.keysOf, HistoryReadItem.key, same]

theorem flatMap_keys {visible : List HistoryReadItem} {contents : List HistoryReadContents}
    (shown : List.Forall₂ (fun item shown => showItem rows query now item = .ok shown) visible contents)
    {keysOf : HistoryReadContents → List HistoryReadKey}
    (each : ∀ item ∈ visible, ∀ shown, showItem rows query now item = .ok shown → keysOf shown = [item.key]) :
    contents.flatMap keysOf = visible.map HistoryReadItem.key := by
  induction shown with
  | nil => rfl
  | @cons item first rest others shows _ ih =>
    rw [flatMap_cons, map_cons, each item mem_cons_self first shows, ih fun found inside => each found (mem_cons_of_mem _ inside)]
    rfl

/-- A page has the keys of the rows that it shows. -/
theorem shown_keys {visible : List HistoryReadItem} {parent : List HistoryRecordSummary} {contents : List HistoryReadContents}
    {fields : HistoryReadPageFields} (stored : ∀ item ∈ visible, item ∈ itemsOf rows fields.query.kind)
    (above : readParent rows fields.query now = .ok (some parent))
    (shown : collect (showItem rows fields.query now) visible = .ok contents)
    (records : fields.records = parent ++ contents.flatMap HistoryReadContents.records)
    (jobs : fields.jobs = contents.flatMap HistoryReadContents.jobs)
    (gaps : fields.gaps = contents.flatMap HistoryReadContents.gaps) :
    fields.keys = visible.map HistoryReadItem.key := by
  have pairs := collect_eq_ok.mp shown
  unfold HistoryReadPageFields.keys
  unfold readParent at above
  cases kind : fields.query.kind with
  | records =>
    rw [kind] at stored above
    cases above
    rw [records, nil_append, map_flatMap]
    exact flatMap_keys pairs fun item member found shows => showItem_key (stored item member) shows
  | jobs =>
    rw [kind] at stored
    rw [jobs, map_flatMap]
    exact flatMap_keys pairs fun item member found shows => showItem_key (stored item member) shows
  | gaps =>
    rw [kind] at stored
    rw [gaps, map_flatMap]
    exact flatMap_keys pairs fun item member found shows => showItem_key (stored item member) shows

theorem mem_matchingItems {item : HistoryReadItem} {after : Option HistoryReadKey} (member : item ∈ matchingItems query rows after) :
    item ∈ itemsOf rows query.kind ∧ selects query rows item := by
  have filtered := mem_sortBy.mp member
  unfold itemsAfter at filtered
  split at filtered
  · exact (mem_filter.mp filtered).imp_right of_decide_eq_true
  · exact (mem_filter.mp (mem_of_mem_filter filtered)).imp_right of_decide_eq_true

/-- A page shows the first of the selected rows and continues after the last of them. -/
theorem showPage_page {after : Option HistoryReadKey}
    (shown : showPage rows dataset query (matchingItems query rows after) now = .ok (.page page)) :
    page.query = query ∧ page.configurationRevision = dataset.configurationRevision ∧ page.dataRevision = dataset.dataRevision ∧
      page.Shows rows (pageOf query.limit (matchingItems query rows after)).1 ∧
      page.nextKey = (pageOf query.limit (matchingItems query rows after)).2.map HistoryReadItem.key ∧
      ∀ key ∈ page.nextKey, key.Admitted := by
  simp only [showPage, bind_eq_ok] at shown
  obtain ⟨parent, above, rest⟩ := shown
  cases parent with
  | none => cases rest
  | some parent =>
    simp only [bind_eq_ok, pure_eq_ok_iff, HistoryReadResult.page.injEq, HistoryReadPage.make, admitKey, raiseIf_eq_ok,
      not_exists, not_and, not_not] at rest
    obtain ⟨_, _, contents, collected, _, admittedKey, made, built, rfl⟩ := rest
    split at built
    · cases built
      refine ⟨rfl, rfl, rfl, ⟨?_, ⟨parent, contents, above, collected, rfl, rfl, rfl⟩⟩, rfl, admittedKey⟩
      refine shown_keys (fun item member => ?_) above collected rfl rfl rfl
      rw [pageOf_shown] at member
      exact (mem_matchingItems (mem_of_mem_take member)).1
    · cases built

theorem staleCursor_fresh {found : HistoryReadCursor} (fresh : staleCursor dataset found now = .ok false) :
    found.configurationRevision = dataset.configurationRevision ∧ found.dataRevision = dataset.dataRevision := by
  unfold staleCursor at fresh
  split at fresh
  · cases fresh
  · rename_i current
    simp only [not_or, not_not] at current
    exact ⟨current.1, current.2.1⟩

theorem readRefusal_none (answered : readRefusal dataset query cursor now = .ok none) :
    dataset.generation = query.generation ∧ ∀ found ∈ cursor, found.configurationRevision = dataset.configurationRevision ∧
      found.dataRevision = dataset.dataRevision := by
  unfold readRefusal at answered
  split at answered
  · cases answered
  split at answered
  · cases answered
  · rename_i generation
    refine ⟨not_not.mp generation, fun found given => ?_⟩
    cases cursor with
    | none => cases given
    | some prior =>
      obtain rfl := mem_some_iff.mp given
      dsimp only at answered
      cases checked : staleCursor dataset prior now with
      | error error =>
        rw [checked] at answered
        cases answered
      | ok stale =>
        rw [checked] at answered
        cases stale with
        | true => cases answered
        | false => exact staleCursor_fresh checked

/-- What a page says about the archive that it is read from. -/
theorem readHistory_page (read : readHistory archive query cursor now = .ok (.page page)) :
    ∃ dataset ∈ archive.datasets, dataset.scope = query.scope ∧ dataset.generation = query.generation ∧
      (∀ found ∈ cursor, found.dataRevision = dataset.dataRevision) ∧ page.query = query ∧
      page.configurationRevision = dataset.configurationRevision ∧ page.dataRevision = dataset.dataRevision ∧
      (∀ key ∈ page.nextKey, key.Admitted) ∧
      page.Shows (archive.rowsOf query.scope query.generation) (pageOf query.limit
        (matchingItems query (archive.rowsOf query.scope query.generation) (cursor.map HistoryReadCursor.key))).1 ∧
      page.nextKey = (pageOf query.limit (matchingItems query (archive.rowsOf query.scope query.generation)
        (cursor.map HistoryReadCursor.key))).2.map HistoryReadItem.key := by
  simp only [readHistory, bind_eq_ok] at read
  obtain ⟨_, _, read⟩ := read
  split at read
  · cases read
  cases located : archive.datasetOf query.scope with
  | none =>
    simp only [located] at read
    cases read
  | some dataset =>
    obtain ⟨member, scope⟩ := datasetOf_eq_some located
    simp only [located, readDataset, bind_eq_ok] at read
    obtain ⟨_, _, refusal, checked, read⟩ := read
    cases refusal with
    | some reason => cases read
    | none =>
      obtain ⟨generation, current⟩ := readRefusal_none checked
      simp only at read
      split at read
      · cases read
      · obtain ⟨own, configuration, data, shows, next, admitted⟩ := showPage_page read
        exact ⟨dataset, member, scope, generation, fun found given => (current found given).2, own, configuration, data,
          admitted, shows, next⟩

theorem datasetOf_of_member (keyed : Keyed (fun dataset : HistoryDataset => dataset.scope) archive.datasets)
    (member : dataset ∈ archive.datasets) : archive.datasetOf dataset.scope = some dataset := by
  cases located : archive.datasetOf dataset.scope with
  | none => exact absurd rfl (datasetOf_eq_none located dataset member)
  | some found =>
    obtain ⟨inside, own⟩ := datasetOf_eq_some located
    rw [keyed.eq_of_key inside member own]

/-- A cursor of other data is refused. -/
theorem readHistory_stale {found : HistoryReadCursor} (admitted : found.Admitted)
    (keyed : Keyed (fun dataset : HistoryDataset => dataset.scope) archive.datasets) (member : dataset ∈ archive.datasets)
    (own : dataset.scope = query.scope) (configured : dataset.configuredAt ≤ now)
    (stale : found.dataRevision ≠ dataset.dataRevision) :
    ∃ reason, readHistory archive query (some found) now = .ok (.rejected reason) := by
  have refused : ∃ reason, readRefusal dataset query (some found) now = .ok (some reason) := by
    have outdated : staleCursor dataset found now = .ok true := if_pos (.inr (.inl stale))
    unfold readRefusal
    split
    · exact ⟨_, rfl⟩
    split
    · exact ⟨_, rfl⟩
    · dsimp only
      rw [outdated]
      exact ⟨.staleCursor, rfl⟩
  obtain ⟨reason, refused⟩ := refused
  have located : archive.datasetOf query.scope = some dataset := by rw [← own, datasetOf_of_member keyed member]
  have passed : raiseIf (∃ other ∈ some found, ¬ other.Admitted) PyError.validationError = .ok () :=
    raiseIf_eq_ok.mpr fun ⟨other, given, foreign⟩ => foreign (mem_some_iff.mp given ▸ admitted)
  have clock : valueErrorIf (now < dataset.configuredAt) (ascii "archive configuration postdates observation") = .ok () :=
    raiseIf_eq_ok.mpr (not_lt.mpr configured)
  rw [readHistory, passed, ok_bind_eq]
  split
  · exact ⟨.invalidCursor, rfl⟩
  · rw [located]
    dsimp only
    rw [readDataset, clock, ok_bind_eq, refused, ok_bind_eq]
    exact ⟨reason, rfl⟩

end Pages

/-- The instant at which a request configures a dataset. -/
def HistoryRequest.configuresAt : HistoryRequest → Option Instant
  | .configure _ _ now => some now
  | _ => none

/-- The runs of the requests under a clock that does not go back. -/
inductive TimedRun (start : HistoryStore) : HistoryStore → Instant → Prop
  | start (clock : Instant) : TimedRun start start clock
  | serve {store next : HistoryStore} {clock later : Instant} {request : HistoryRequest} {answer : HistoryAnswer}
      (run : TimedRun start store clock) (forward : clock ≤ later) (instant : ∀ now ∈ request.configuresAt, now ≤ later)
      (served : store.serve request = .ok (next, answer)) : TimedRun start next later

/-- A cursor carries on after a page for an actor. -/
structure HistoryReadPage.Carries (page : HistoryReadPage) (actor : Text) (cursor : HistoryReadCursor) : Prop where
  digest : historyQueryDigest page.query actor = .ok cursor.queryDigest
  configuration : cursor.configurationRevision = page.configurationRevision
  data : cursor.dataRevision = page.dataRevision
  key : page.nextKey = some cursor.key

/-- A chain of page reads with the requests that commit between them. -/
inductive Paging (start : HistoryStore) (query : HistoryReadQuery) (actor : Text) :
    HistoryArchive → HistoryStore → Instant → List HistoryReadPage → Prop → Prop
  | first {store : HistoryStore} {clock now : Instant} {page : HistoryReadPage} (run : TimedRun start store clock)
      (forward : clock ≤ now) (read : readHistory store.archive query none now = .ok (.page page)) :
      Paging start query actor store.archive store now [page] False
  | write {origin : HistoryArchive} {store next : HistoryStore} {clock later : Instant} {pages : List HistoryReadPage}
      {touched : Prop} {request : HistoryRequest} {answer : HistoryAnswer}
      (paging : Paging start query actor origin store clock pages touched) (forward : clock ≤ later)
      (instant : ∀ now ∈ request.configuresAt, now ≤ later) (served : store.serve request = .ok (next, answer)) :
      Paging start query actor origin next later pages (touched ∨
        next.archive.rowsOf query.scope query.generation ≠ store.archive.rowsOf query.scope query.generation)
  | read {origin : HistoryArchive} {store : HistoryStore} {clock now : Instant} {pages : List HistoryReadPage}
      {touched : Prop} {last page : HistoryReadPage} {cursor : HistoryReadCursor}
      (paging : Paging start query actor origin store clock (pages ++ [last]) touched) (forward : clock ≤ now)
      (carried : last.Carries actor cursor) (read : readHistory store.archive query (some cursor) now = .ok (.page page)) :
      Paging start query actor origin store now (pages ++ [last] ++ [page]) False

section Clock

variable {store next : HistoryStore} {request : HistoryRequest} {answer : HistoryAnswer} {clock later : Instant}

/-- Every dataset has been configured by the time of the clock. -/
def ConfiguredBy (archive : HistoryArchive) (clock : Instant) : Prop :=
  ∀ dataset ∈ archive.datasets, dataset.configuredAt ≤ clock

theorem ConfiguredBy.settles {archive written : HistoryArchive} (settles : SettlesAny archive written)
    (configured : ConfiguredBy archive clock) : ConfiguredBy written clock := by
  cases settles with
  | kept => exact configured
  | @settled _ dataset changed member settled =>
    intro found stored
    by_cases own : found.scope = dataset.scope
    · have fields := settled.fields
      have equal := settled.sound.datasets.eq_of_key stored settled.member (own.trans (by rw [fields]))
      have instant : found.configuredAt = dataset.configuredAt := by rw [equal, fields]
      rw [instant]
      exact configured dataset member
    · exact configured found ((settled.others found own).mp stored)

theorem ConfiguredBy.configure {archive written : HistoryArchive} {scope : RepositoryScope}
    {configuration : HistoryConfiguration} {now : Instant} (configured : ConfiguredBy archive clock) (forward : clock ≤ later)
    (instant : now ≤ later) (wrote : configureHistory archive scope configuration now = .ok written) :
    ConfiguredBy written later := by
  simp only [configureHistory, bind_eq_ok] at wrote
  obtain ⟨successor, made, rest⟩ := wrote
  cases located : archive.datasetOf scope with
  | none =>
    simp only [located, configureHistoryDataset, HistoryDataset.make, construct_eq_ok, pure_eq_ok_iff] at made rest
    obtain ⟨_, rfl⟩ := made
    rw [← rest]
    intro found stored
    rcases mem_append.mp stored with earlier | last
    · exact (configured found earlier).trans forward
    · rw [mem_singleton.mp last]
      exact instant
  | some prior =>
    simp only [located, configureHistoryDataset, HistoryDataset.make, bind_eq_ok, construct_eq_ok] at made rest
    obtain ⟨_, _, _, _, _, rfl⟩ := made
    obtain ⟨_, rfl⟩ := writeHistoryDataset_eq_ok rest
    intro found stored
    rcases mem_updateWhere.mp stored with ⟨earlier, _⟩ | ⟨_, _, _, rfl⟩
    · exact (configured found earlier).trans forward
    · exact instant

theorem serve_configuredBy (sound : Sound store.archive) (configured : ConfiguredBy store.archive clock)
    (forward : clock ≤ later) (instant : ∀ now ∈ request.configuresAt, now ≤ later)
    (served : store.serve request = .ok (next, answer)) : ConfiguredBy next.archive later := by
  rcases (serve_settles sound served).1 with settles | ⟨scope, configuration, now, rfl, wrote⟩
  · exact fun dataset member => (configured.settles settles dataset member).trans forward
  · exact configured.configure forward (instant now rfl) wrote

theorem timedRun_sound {start : HistoryStore} (sound : Sound start.archive) (configured : ∀ clock, ConfiguredBy start.archive clock)
    (run : TimedRun start store clock) : Sound store.archive ∧ ConfiguredBy store.archive clock := by
  induction run with
  | start clock => exact ⟨sound, configured clock⟩
  | serve run forward instant served ih =>
    exact ⟨(serve_change ih.1 served).1.sound ih.1, serve_configuredBy ih.1 ih.2 forward instant served⟩

/-- The dataset of a repository stays, and its rows change with its data revision only. -/
theorem ArchiveChange.present {archive written : HistoryArchive} (sound : Sound archive)
    (change : ArchiveChange archive written) {present : HistoryDataset} (member : present ∈ archive.datasets) :
    ∃ successor ∈ written.datasets, successor.scope = present.scope ∧ successor.generation = present.generation ∧
      present.dataRevision ≤ successor.dataRevision ∧ (successor.dataRevision = present.dataRevision →
        written.rowsOf present.scope present.generation = archive.rowsOf present.scope present.generation) := by
  cases change with
  | kept => exact ⟨present, member, rfl, rfl, le_rfl, fun _ => rfl⟩
  | @settled _ dataset changed inside settled =>
    by_cases own : present.scope = dataset.scope
    · obtain rfl := sound.datasets.eq_of_key member inside own
      have fields := settled.fields
      exact ⟨changed, settled.member, by rw [fields], by rw [fields], settled.forward, fun same => by rw [settled.same same]⟩
    · refine ⟨present, (settled.others present own).mpr member, rfl, rfl, le_rfl, fun _ => ?_⟩
      exact settled.elsewhere _ _ fun both => own both.1.symm
  | @configured _ scope configured =>
    cases configured with
    | @opened dataset absent own first empty =>
      exact ⟨present, mem_append_left _ member, rfl, rfl, le_rfl, fun _ => rfl⟩
    | @replaced prior dataset inside own sameScope generation usage data revision =>
      by_cases same : sameRevision prior present
      · obtain rfl := sound.datasets.eq_of_key member inside same.1
        exact ⟨dataset, mem_updateWhere.mpr (.inr ⟨present, member, same, rfl⟩), sameScope, generation, data.ge, fun _ => rfl⟩
      · exact ⟨present, mem_updateWhere.mpr (.inl ⟨member, same⟩), rfl, rfl, le_rfl, fun _ => rfl⟩

end Clock

section Chains

variable {start store : HistoryStore} {query : HistoryReadQuery} {actor : Text} {origin : HistoryArchive} {clock : Instant}
  {pages : List HistoryReadPage} {touched : Prop}

theorem dataset_positive (dataset : HistoryDataset) :
    ObservationPositiveId dataset.configurationRevision ∧ ObservationPositiveId dataset.dataRevision := by
  have admitted := dataset.admitted
  simp only [HistoryDatasetFields.postInit, bind_unit_eq_ok, forEach_eq_ok, forall_mem_cons, positiveId,
    raiseIf_eq_ok, not_not] at admitted
  exact ⟨admitted.1.2.1, admitted.1.2.2.1⟩

/-- The last page of a chain belongs to a dataset that has since moved forward. -/
structure LastPage (query : HistoryReadQuery) (origin archive : HistoryArchive) (last : HistoryReadPage) (touched : Prop)
    (dataset : HistoryDataset) : Prop where
  own : last.query = query
  positive : ObservationPositiveId last.configurationRevision ∧ ObservationPositiveId last.dataRevision
  key : ∀ key ∈ last.nextKey, key.Admitted
  member : dataset ∈ archive.datasets
  scope : dataset.scope = query.scope
  generation : dataset.generation = query.generation
  forward : last.dataRevision ≤ dataset.dataRevision
  same : dataset.dataRevision = last.dataRevision →
    archive.rowsOf query.scope query.generation = origin.rowsOf query.scope query.generation ∧ ¬ touched

/-- What a chain of pages has shown, and what may still change. -/
structure Paged (query : HistoryReadQuery) (origin : HistoryArchive) (store : HistoryStore) (clock : Instant)
    (pages : List HistoryReadPage) (touched : Prop) : Prop where
  sound : Sound store.archive
  configured : ConfiguredBy store.archive clock
  kept : WellKept origin
  last : ∃ last ∈ pages.getLast?, ∃ dataset, LastPage query origin store.archive last touched dataset
  shown : ∃ parts, List.Forall₂ (fun page part => page.Shows (origin.rowsOf query.scope query.generation) part) pages parts ∧
    ∀ last ∈ pages.getLast?, Continues HistoryReadItem.order
      (matchingItems query (origin.rowsOf query.scope query.generation) none) parts.flatten (last.nextKey.map HistoryReadKey.order)

/-- A page that has just been read belongs to the dataset that it was read from. -/
theorem lastPage_of_read {archive : HistoryArchive} {cursor : Option HistoryReadCursor} {now : Instant} {page : HistoryReadPage}
    (read : readHistory archive query cursor now = .ok (.page page))
    (same : archive.rowsOf query.scope query.generation = origin.rowsOf query.scope query.generation) :
    ∃ dataset, LastPage query origin archive page False dataset := by
  obtain ⟨dataset, member, scope, generation, _, own, configuration, data, admitted, _⟩ := readHistory_page read
  have positive := dataset_positive dataset
  exact ⟨dataset, own, by rwa [configuration, data], admitted, member, scope, generation, data.le, fun _ => ⟨same, not_false⟩⟩

theorem order_of_keys (items : Option HistoryReadItem) :
    (items.map HistoryReadItem.key).map HistoryReadKey.order = items.map HistoryReadItem.order := by
  rw [Option.map_map]
  rfl

/-- The first page of a chain. -/
theorem Paged.first {now : Instant} {page : HistoryReadPage} (sound : Sound store.archive)
    (configured : ConfiguredBy store.archive now) (read : readHistory store.archive query none now = .ok (.page page)) :
    Paged query store.archive store now [page] False := by
  obtain ⟨_, _, _, _, _, _, _, _, _, shows, next⟩ := readHistory_page read
  refine ⟨sound, configured, sound.kept, ⟨page, rfl, lastPage_of_read read rfl⟩, _, .cons shows .nil, ?_⟩
  rintro _ ⟨⟩
  have increasing := matchingItems_increasing sound.kept query
  have limit := (HistoryReadQueryFields.Admitted.limit query.admitted).1
  rw [flatten_cons, flatten_nil, append_nil, getLast_singleton, next, order_of_keys]
  exact Continues.first increasing limit

/-- A request moves the dataset of a chain forward when it touches the rows. -/
theorem Paged.write {next : HistoryStore} {request : HistoryRequest} {answer : HistoryAnswer} {later : Instant}
    (paged : Paged query origin store clock pages touched) (forward : clock ≤ later)
    (instant : ∀ now ∈ request.configuresAt, now ≤ later) (served : store.serve request = .ok (next, answer)) :
    Paged query origin next later pages (touched ∨
      next.archive.rowsOf query.scope query.generation ≠ store.archive.rowsOf query.scope query.generation) := by
  have change := (serve_change paged.sound served).1
  obtain ⟨last, final, dataset, belongs⟩ := paged.last
  obtain ⟨successor, member, scope, generation, ahead, same⟩ := change.present paged.sound belongs.member
  rw [belongs.scope, belongs.generation] at same
  refine ⟨change.sound paged.sound, serve_configuredBy paged.sound paged.configured forward instant served, paged.kept,
    ⟨last, final, successor, belongs.own, belongs.positive, belongs.key, member, scope.trans belongs.scope,
      generation.trans belongs.generation, belongs.forward.trans ahead, fun unchanged => ?_⟩, paged.shown⟩
  have behind := belongs.forward
  obtain ⟨rows, untouched⟩ := belongs.same (by omega)
  have still := same (by omega)
  exact ⟨still.trans rows, fun either => either.elim untouched fun moved => moved still⟩

/-- A page that continues a chain shows the rows that follow in the snapshot. -/
theorem Paged.read {now : Instant} {last page : HistoryReadPage} {cursor : HistoryReadCursor}
    (paged : Paged query origin store clock (pages ++ [last]) touched) (forward : clock ≤ now)
    (carried : last.Carries actor cursor) (read : readHistory store.archive query (some cursor) now = .ok (.page page)) :
    Paged query origin store now (pages ++ [last] ++ [page]) False := by
  obtain ⟨final, ends, dataset, belongs⟩ := paged.last
  rw [getLast?_concat, mem_some_iff] at ends
  subst ends
  obtain ⟨found, member, scope, _, current, _, _, _, _, shows, next⟩ := readHistory_page read
  obtain rfl := paged.sound.datasets.eq_of_key member belongs.member (scope.trans belongs.scope.symm)
  obtain ⟨rows, _⟩ := belongs.same ((current cursor rfl).symm.trans carried.data)
  obtain ⟨parts, shown, continues⟩ := paged.shown
  refine ⟨paged.sound, fun dataset member => (paged.configured dataset member).trans forward, paged.kept,
    ⟨page, getLast?_concat, lastPage_of_read read rows⟩, ?_⟩
  rw [rows] at shows next
  rw [map_some] at shows next
  refine ⟨parts ++ [_], rel_append shown (.cons shows .nil), ?_⟩
  intro other ends
  rw [getLast?_concat, mem_some_iff] at ends
  subst ends
  have before := continues last getLast?_concat
  rw [carried.key, map_some] at before
  have increasing := matchingItems_increasing paged.kept query
  have limit := (HistoryReadQueryFields.Admitted.limit query.admitted).1
  rw [flatten_append, flatten_cons, flatten_nil, append_nil, next, order_of_keys, matchingItems_after paged.kept]
  exact Continues.next increasing limit before

theorem paging_paged {defaults : HistoryDefaults}
    (paging : Paging (HistoryStore.empty defaults) query actor origin store clock pages touched) :
    Paged query origin store clock pages touched := by
  induction paging with
  | first run forward read =>
    obtain ⟨sound, configured⟩ := timedRun_sound (sound_empty defaults) (fun _ _ none => nomatch none) run
    exact Paged.first sound (fun dataset member => (configured dataset member).trans forward) read
  | write paging forward instant served ih => exact ih.write forward instant served
  | read paging forward carried read ih => exact ih.read forward carried read

theorem keys_flatten {rows : GenerationRows} {parts : List (List HistoryReadItem)}
    (shown : List.Forall₂ (fun page part => HistoryReadPage.Shows page rows part) pages parts) :
    pages.flatMap (·.keys) = parts.flatten.map HistoryReadItem.key := by
  induction shown with
  | nil => rfl
  | cons shows _ ih => rw [flatMap_cons, flatten_cons, map_append, shows.keys, ih]

theorem carried_admitted {archive : HistoryArchive} {last : HistoryReadPage} {cursor : HistoryReadCursor}
    {dataset : HistoryDataset} (belongs : LastPage query origin archive last touched dataset)
    (carried : last.Carries actor cursor) : cursor.Admitted := by
  refine ⟨isSha256Hex_of_hashObject carried.digest, ?_, ?_, belongs.key cursor.key carried.key⟩
  · rw [carried.configuration]
    exact belongs.positive.1
  · rw [carried.data]
    exact belongs.positive.2

/-- A chain reads one snapshot of its archive, a change of the rows ends it, and its tokens bind one query and one actor. -/
theorem history_pages_one_snapshot {defaults : HistoryDefaults}
    (paging : Paging (HistoryStore.empty defaults) query actor origin store clock pages touched) :
    (Increasing HistoryReadKey.order (pages.flatMap fun page => page.keys) ∧
      ∃ parts, List.Forall₂ (fun page part => page.Shows (origin.rowsOf query.scope query.generation) part) pages parts ∧
        parts.flatten <+: matchingItems query (origin.rowsOf query.scope query.generation) none ∧
        ∀ last ∈ pages.getLast?, last.nextKey = none →
          parts.flatten = matchingItems query (origin.rowsOf query.scope query.generation) none) ∧
      (touched → ∀ last ∈ pages.getLast?, ∀ cursor, last.Carries actor cursor → ∀ later, clock ≤ later →
        ∃ reason, readHistory store.archive query (some cursor) later = .ok (.rejected reason)) ∧
      ∀ (codec : HistoryCursorCodec) cursor token, codec.parse (codec.dump cursor).utf8 = .ok cursor →
        historyQueryDigest query actor = .ok cursor.queryDigest → codec.encode cursor = .ok token →
          (token.length ≤ maxHistoryCursorChars → codec.decode token query actor = .ok cursor) ∧
            ∀ other stranger found, CollisionFree (query.binding actor) (other.binding stranger) →
              codec.decode token other stranger = .ok found → other = query ∧ stranger = actor ∧ found = cursor := by
  have paged := paging_paged paging
  refine ⟨?_, ?_, ?_⟩
  · obtain ⟨parts, shown, continues⟩ := paged.shown
    obtain ⟨last, ends, _⟩ := paged.last
    have early := (continues last ends).begins
    have increasing := (matchingItems_increasing paged.kept query).sublist early.sublist
    refine ⟨?_, parts, shown, early, fun final finish none => ?_⟩
    · rw [keys_flatten shown]
      exact Increasing.map_iff.mpr increasing
    · exact (continues final finish).finished (by rw [none, Option.map_none])
  · intro moved last ends cursor carried later forward
    obtain ⟨final, finish, dataset, belongs⟩ := paged.last
    obtain rfl := Option.mem_unique ends finish
    refine readHistory_stale (carried_admitted belongs carried) paged.sound.datasets belongs.member belongs.scope
      ((paged.configured dataset belongs.member).trans forward) fun current => ?_
    exact (belongs.same (current.symm.trans carried.data)).2 moved
  · intro codec cursor token parsed own issued
    refine ⟨fun fits => decode_issued parsed issued fits own, ?_⟩
    intro other stranger found free decoded
    obtain ⟨_, admitted⟩ := decode_eq_ok.mp decoded
    obtain rfl := parse_issued parsed issued admitted
    obtain ⟨_, _, _, _, _, _, _, foreign, _⟩ := admitToken_eq_ok.mp admitted
    obtain ⟨rfl, rfl⟩ := historyQueryDigest_binds free own foreign
    exact ⟨rfl, rfl, rfl⟩

end Chains

namespace Sample

open CiEconomics.Sample (epoch scope)

/-- The records of the archive of one repository, one on each page. -/
def recordFields : HistoryReadQueryFields :=
  ⟨CiEconomics.Sample.scope, 1, .records, 1, none, none, none, none, none, none⟩

theorem recordFields_admitted : recordFields.Admitted :=
  { generation := by decide
    limit := by decide
    identities := by decide
    paired := by decide
    jobs := nofun
    gaps := nofun
    records := fun other => absurd rfl other
    name := nofun
    inOrder := nofun }

def recordQuery : HistoryReadQuery :=
  ⟨recordFields, recordFields_admitted⟩

/-- The page that a read shows. -/
def shownPage : HistoryReadResult → Py HistoryReadPage
  | .page page => .ok page
  | .rejected _ => .error .keyError

/-- The cursor that carries on after a page for the owner. -/
def carryOn (page : HistoryReadPage) : Py HistoryReadCursor := do
  let digest ← historyQueryDigest page.query (ascii "owner")
  match page.nextKey with
  | none => .error .keyError
  | some key => return ⟨digest, page.configurationRevision, page.dataRevision, page.observedAt, key⟩

/-- Two attempts are archived, another repository is configured between their pages, and a gap is stored in the end. -/
structure PagedArchive where
  configured : HistoryStore
  started : HistoryStore
  filled : HistoryStore
  first : HistoryReadPage
  middle : HistoryReadCursor
  widened : HistoryStore
  second : HistoryReadPage
  moved : HistoryStore

def otherScope : RepositoryScope :=
  ⟨⟨1, 2⟩, by decide⟩

def pagedArchive : Py PagedArchive := do
  let (configured, _) ← (HistoryStore.empty defaults).serve (.configure scope roomyConfiguration epoch)
  let (started, _) ← configured.serve (.storeStatistics scope (archivedAttempt .first) minute)
  let (filled, _) ← started.serve (.storeStatistics scope (archivedAttempt .second) minute)
  let firstRead ← readHistory filled.archive recordQuery none minute
  let first ← shownPage firstRead
  let middle ← carryOn first
  let (widened, _) ← filled.serve (.configure otherScope roomyConfiguration minute)
  let secondRead ← readHistory widened.archive recordQuery (some middle) minute
  let second ← shownPage secondRead
  let (moved, _) ← filled.serve (.storeGap scope lostAttempt minute)
  return ⟨configured, started, filled, first, middle, widened, second, moved⟩

theorem pagedArchive_returns : pagedArchive.toOption.map (fun paged => (paged.first.records.length,
    paged.second.records.length, paged.second.nextKey, (paged.filled.archive.rowsOf scope 1).gaps.length,
    (paged.moved.archive.rowsOf scope 1).gaps.length)) = some (1, 1, none, 0, 1) := by
  decide +kernel

theorem shownPage_eq_ok {result : HistoryReadResult} {page : HistoryReadPage} :
    shownPage result = .ok page ↔ result = .page page := by
  cases result <;> simp [shownPage]

theorem carryOn_carries {page : HistoryReadPage} {cursor : HistoryReadCursor} (computed : carryOn page = .ok cursor) :
    page.Carries (ascii "owner") cursor := by
  obtain ⟨digest, hashed, carried⟩ := bind_eq_ok.mp computed
  split at carried
  · cases carried
  · rename_i key next
    cases carried
    exact ⟨hashed, rfl, rfl, next⟩

/-- A chain of two pages with a request between them, and a chain that a gap ends. -/
structure PagedArchive.Reached (paged : PagedArchive) : Prop where
  complete : Paging (.empty defaults) recordQuery (ascii "owner") paged.filled.archive paged.widened minute
    [paged.first, paged.second] False
  carries : paged.first.Carries (ascii "owner") paged.middle
  broken : Paging (.empty defaults) recordQuery (ascii "owner") paged.filled.archive paged.moved minute [paged.first]
    (False ∨ paged.moved.archive.rowsOf scope 1 ≠ paged.filled.archive.rowsOf scope 1)

theorem pagedArchive_reached {paged : PagedArchive} (computed : pagedArchive = .ok paged) : paged.Reached := by
  simp only [pagedArchive, bind_eq_ok, pure_eq_ok_iff, shownPage_eq_ok] at computed
  obtain ⟨⟨configured, _⟩, opens, ⟨started, _⟩, stores, ⟨filled, _⟩, fills, _, reads, first, rfl, middle, carried,
    ⟨widened, _⟩, widens, _, continues, second, rfl, ⟨moved, _⟩, moves, rfl⟩ := computed
  have start : TimedRun (.empty defaults) (.empty defaults) minute := .start minute
  have opened : TimedRun (.empty defaults) configured minute :=
    start.serve le_rfl (by rintro _ ⟨⟩; exact (by decide : epoch ≤ minute)) opens
  have stored : TimedRun (.empty defaults) started minute := opened.serve le_rfl (by rintro _ ⟨⟩) stores
  have complete : TimedRun (.empty defaults) filled minute := stored.serve le_rfl (by rintro _ ⟨⟩) fills
  have read : Paging (.empty defaults) recordQuery (ascii "owner") filled.archive filled minute [first] False :=
    .first complete le_rfl reads
  have between := Paging.write read le_rfl (by rintro _ ⟨⟩; exact le_rfl) widens
  refine ⟨?_, carryOn_carries carried, .write read le_rfl (by rintro _ ⟨⟩) moves⟩
  exact @Paging.read _ _ _ _ _ _ _ [] _ _ _ _ between le_rfl (carryOn_carries carried) continues

end Sample

/-- The pages of two attempts show one snapshot, and a gap that is stored after the first page ends its chain. -/
theorem history_pages_one_snapshot_paged : ∃ paged : Sample.PagedArchive,
    (paged.first.records.length = 1 ∧ paged.second.records.length = 1) ∧
      (∃ parts, List.Forall₂ (fun page part => HistoryReadPage.Shows page (paged.filled.archive.rowsOf
        Sample.recordQuery.scope Sample.recordQuery.generation) part) [paged.first, paged.second] parts ∧
        parts.flatten = matchingItems Sample.recordQuery (paged.filled.archive.rowsOf Sample.recordQuery.scope
          Sample.recordQuery.generation) none) ∧
      ∃ reason, readHistory paged.moved.archive Sample.recordQuery (some paged.middle) Sample.minute =
        .ok (.rejected reason) := by
  obtain ⟨paged, computed, summary⟩ := eq_ok_of_map_toOption Sample.pagedArchive_returns
  obtain ⟨complete, carries, broken⟩ := Sample.pagedArchive_reached computed
  simp only [Prod.mk.injEq] at summary
  obtain ⟨one, other, last, without, withGap⟩ := summary
  obtain ⟨⟨_, parts, shown, _, finished⟩, _⟩ := history_pages_one_snapshot complete
  obtain ⟨_, refused, _⟩ := history_pages_one_snapshot broken
  refine ⟨paged, ⟨one, other⟩, ⟨parts, shown, finished paged.second rfl last⟩, ?_⟩
  refine refused (.inr ?_) paged.first rfl paged.middle carries Sample.minute le_rfl
  intro same
  rw [same, without] at withGap
  cases withGap

end CiCoordinator.Persistence

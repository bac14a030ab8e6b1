import CiCoordinator.Library.TimestampOrder
import CiCoordinator.Persistence.ActivityRepository

/- The chains of page reads that a cursor continues while the activity goes on. -/

namespace CiCoordinator.Persistence

open Library Kernel ConfigControl ControlPlaneIdentity ActivityStore List

/-- What commits between the statements of a read: rows with increasing numbers, and the removal of expired ones. -/
inductive ActivityChange (store : ActivityStore) (now : Instant) : ActivityStore → Prop
  | journal (row : ActivityEventRow) (later : store.journalSequence < row.sequence) :
      ActivityChange store now ⟨store.journal ++ [row], row.sequence, store.audit⟩
  | audit (row : AuditReferenceRow) (later : ∀ earlier ∈ store.audit, earlier.sequence < row.sequence) :
      ActivityChange store now ⟨store.journal, store.journalSequence, store.audit ++ [row]⟩
  | cleanup : ActivityChange store now (store.cleanupActivity now)

/-- The changes that commit under a clock that does not go back. -/
inductive ActivityChanges : ActivityStore → Instant → ActivityStore → Instant → Prop
  | refl (store : ActivityStore) (clock : Instant) : ActivityChanges store clock store clock
  | wait {first last : ActivityStore} {start clock later : Instant} (changes : ActivityChanges first start last clock)
      (forward : clock ≤ later) : ActivityChanges first start last later
  | step {first last next : ActivityStore} {start clock : Instant} (changes : ActivityChanges first start last clock)
      (change : ActivityChange last clock next) : ActivityChanges first start next clock

/-- A chain of page reads, each with the cursor of the page before it. -/
inductive ActivityReads [Interpreter] (codec : ActivityCursorCodec) (query : ActivityQuery) (principal : ActivityPrincipal) :
    ActivityStore → Instant → ActivityStore → Instant → List ActivityPage → Prop
  | first {start now later : Instant} {origin store : ActivityStore} {page : ActivityPage}
      (run : ActivityChanges .empty start origin now) (meanwhile : ActivityChanges origin now store later)
      (read : ActivityStore.page origin store codec query principal none now = .ok page) :
      ActivityReads codec query principal origin now store later [page]
  | next {origin store before after : ActivityStore} {first clock now later : Instant} {pages : List ActivityPage}
      {last page : ActivityPage} {reader : ActivityPrincipal} {cursor : Text}
      (reads : ActivityReads codec query principal origin first store clock (pages ++ [last]))
      (earlier : ActivityChanges store clock before now) (meanwhile : ActivityChanges before now after later)
      (carried : last.nextCursor = some cursor)
      (read : ActivityStore.page before after codec query reader (some cursor) now = .ok page) :
      ActivityReads codec query principal origin first after later (pages ++ [last] ++ [page])

/-- Numbers are not given twice. -/
structure ActivityStore.Sound (store : ActivityStore) : Prop where
  journal : (store.journal.map fun row => row.sequence).Nodup
  bounded : ∀ row ∈ store.journal, row.sequence ≤ store.journalSequence
  audit : (store.audit.map fun row => row.sequence).Nodup

/-- The rows up to a number are the ones of an earlier store, except those that have expired. -/
structure ActivityStore.Follows (store origin : ActivityStore) (clock : Instant) : Prop where
  counted : origin.journalSequence ≤ store.journalSequence
  journal : ∀ row ∈ store.journal, row.sequence ≤ origin.journalSequence → row ∈ origin.journal
  kept : ∀ row ∈ origin.journal, clock < row.retainUntil → row ∈ store.journal
  audit : ∃ appended, store.audit = origin.audit ++ appended ∧ ∀ row ∈ appended, ∀ earlier ∈ origin.audit, earlier.sequence < row.sequence

section Changes

variable {first store next : ActivityStore} {start clock now : Instant}

theorem ActivityChanges.forward (changes : ActivityChanges first start store clock) : start ≤ clock := by
  induction changes with
  | refl => exact le_rfl
  | wait _ forward ih => exact ih.trans forward
  | step _ _ ih => exact ih

theorem ActivityChange.sound (sound : store.Sound) (change : ActivityChange store now next) : next.Sound := by
  cases change with
  | journal row later =>
    refine ⟨?_, ?_, sound.audit⟩
    · rw [map_append, nodup_append]
      refine ⟨sound.journal, nodup_singleton _, ?_⟩
      simp only [map_cons, map_nil, mem_singleton, mem_map, forall_exists_index, and_imp]
      rintro _ earlier member rfl _ rfl same
      have bound := sound.bounded earlier member
      omega
    · intro found member
      rcases mem_append.mp member with earlier | new
      · have bound := sound.bounded found earlier
        exact (bound.trans later.le)
      · rw [mem_singleton.mp new]
  | audit row later =>
    refine ⟨sound.journal, sound.bounded, ?_⟩
    rw [map_append, nodup_append]
    refine ⟨sound.audit, nodup_singleton _, ?_⟩
    simp only [map_cons, map_nil, mem_singleton, mem_map, forall_exists_index, and_imp]
    rintro _ earlier member rfl _ rfl same
    exact (later earlier member).ne same
  | cleanup =>
    exact ⟨sound.journal.sublist (filter_sublist.map _), fun row member => sound.bounded row (mem_of_mem_filter member),
      sound.audit⟩

theorem mem_expiredRows {row : ActivityEventRow} (expired : row ∈ store.expiredRows now) : row.retainUntil ≤ now := by
  have member := mem_sortBy.mp (mem_of_mem_take expired)
  exact of_decide_eq_true (mem_filter.mp member).2

/-- A change keeps what follows an earlier store. -/
theorem ActivityChange.follows (follows : store.Follows first clock) (change : ActivityChange store clock next) :
    next.Follows first clock := by
  obtain ⟨appended, split, later⟩ := follows.audit
  cases change with
  | journal row above =>
    refine ⟨follows.counted.trans above.le, fun found member bound => ?_, fun found member current => ?_, follows.audit⟩
    · rcases mem_append.mp member with earlier | new
      · exact follows.journal found earlier bound
      · rw [mem_singleton.mp new] at bound
        exact absurd (follows.counted.trans_lt above) (not_lt.mpr bound)
    · exact mem_append_left _ (follows.kept found member current)
  | audit row above =>
    refine ⟨follows.counted, follows.journal, follows.kept, appended ++ [row], ?_, ?_⟩
    · rw [split, append_assoc]
    · intro found member earlier contained
      rcases mem_append.mp member with before | new
      · exact later found before earlier contained
      · rw [mem_singleton.mp new]
        exact above earlier (by rw [split]; exact mem_append_left _ contained)
  | cleanup =>
    refine ⟨follows.counted, fun row member => follows.journal row (mem_of_mem_filter member), fun row member current => ?_,
      follows.audit⟩
    refine mem_filter.mpr ⟨follows.kept row member current, decide_eq_true fun expired => ?_⟩
    exact absurd (mem_expiredRows expired) (not_le.mpr current)

theorem ActivityStore.Follows.later {later : Instant} (follows : store.Follows first clock) (forward : clock ≤ later) :
    store.Follows first later :=
  ⟨follows.counted, follows.journal, fun row member current => follows.kept row member (forward.trans_lt current), follows.audit⟩

theorem ActivityStore.Follows.refl (store : ActivityStore) (clock : Instant) : store.Follows store clock :=
  ⟨le_rfl, fun _ member _ => member, fun _ member _ => member, [], (append_nil _).symm, fun _ none => nomatch none⟩

/-- The changes of a run keep the numbers apart and what follows an earlier store. -/
theorem ActivityChanges.follows {origin : ActivityStore} (sound : first.Sound) (follows : first.Follows origin start)
    (changes : ActivityChanges first start store clock) : store.Sound ∧ store.Follows origin clock := by
  induction changes with
  | refl => exact ⟨sound, follows⟩
  | wait _ forward ih => exact ⟨(ih follows).1, (ih follows).2.later forward⟩
  | step _ change ih => exact ⟨change.sound (ih follows).1, change.follows (ih follows).2⟩

end Changes

namespace ActivityRow

def occurredAt : ActivityRow → Instant
  | .security row => row.occurredAt
  | .business row => row.createdAt

/-- What a query asks for. -/
def Covered (query : ActivityQuery) (row : ActivityRow) : Prop :=
  row.OwnedBy query ∧ (query.since ≤ row.occurredAt ∧ row.occurredAt < query.untilTime) ∧ row.Filtered query

/-- A row is retained at an instant. -/
def Retained (now : Instant) : ActivityRow → Prop
  | .security row => now < row.retainUntil
  | .business _ => True

end ActivityRow

section Rows

variable {query : ActivityQuery} {now later : Instant} {row : ActivityRow}

theorem query_milliseconds (query : ActivityQuery) :
    query.since.microsecond % 1000 = 0 ∧ query.untilTime.microsecond % 1000 = 0 := by
  have admitted := query.admitted
  simp only [ActivityQueryFields.postInit, bind_unit_eq_ok, forEach_eq_ok, forall_mem_cons, raiseIf_eq_ok, not_not] at admitted
  exact ⟨admitted.1.1, admitted.1.2.1⟩

theorem query_limit (query : ActivityQuery) : 1 ≤ query.limit := by
  have admitted := query.admitted
  simp only [ActivityQueryFields.postInit, bind_unit_eq_ok, raiseIf_eq_ok, not_not] at admitted
  exact admitted.2.2.2.2.2.1

/-- The selected rows are the ones that a query asks for. -/
theorem covered_of_selected (selected : row.Selected query now) : row.Covered query := by
  obtain ⟨owned, current, filtered⟩ := selected
  refine ⟨owned, ?_, filtered⟩
  cases row with
  | security row => exact ⟨current.2.1, current.2.2.trans_le (min_le_left _ _)⟩
  | business row =>
    obtain ⟨since, untilTime⟩ := query_milliseconds query
    obtain ⟨_, low, high, _⟩ := current
    refine ⟨(isoMillisecondText_le_iff since row.milliseconds).mp low, ?_⟩
    by_contra early
    have reverse := (isoMillisecondText_le_iff untilTime row.milliseconds).mpr (not_lt.mp early)
    exact absurd high (not_lt.mpr reverse)

/-- A selected row stays selected as long as it is retained. -/
theorem selected_later (selected : row.Selected query now) (forward : now ≤ later) (retained : row.Retained later) :
    row.Selected query later := by
  obtain ⟨owned, current, filtered⟩ := selected
  refine ⟨owned, ?_, filtered⟩
  cases row with
  | security row =>
    obtain ⟨_, low, high⟩ := current
    exact ⟨retained, low, lt_min (high.trans_le (min_le_left _ _)) ((high.trans_le (min_le_right _ _)).trans_le forward)⟩
  | business row =>
    obtain ⟨action, low, high, seen⟩ := current
    exact ⟨action, low, high, le_trans seen (isoMillisecondText_append_mono forward)⟩

theorem ActivityRow.inRange (row : ActivityRow) : 1 ≤ row.sequence ∧ row.sequence ≤ maxSafeJsonInteger := by
  cases row with
  | security row => exact row.inRange
  | business row => exact row.inRange

/-- An entry has the number of its row. -/
theorem sequence_of_entry {entry : ActivityEntry} (shown : row.entry = .ok entry) : entry.sequence = row.sequence := by
  cases row with
  | security row =>
    obtain ⟨_, rfl⟩ := construct_eq_ok.mp shown
    rfl
  | business row =>
    obtain ⟨_, rfl⟩ := construct_eq_ok.mp shown
    rfl

end Rows

theorem emptyActivity_sound : ActivityStore.empty.Sound :=
  ⟨nodup_nil, fun _ none => absurd none not_mem_nil, nodup_nil⟩

section Tables

variable {store origin : ActivityStore} {query : ActivityQuery} {clock : Instant} {row : ActivityRow}

theorem table_sequences (sound : store.Sound) (source : ActivitySource) :
    ((store.table source).map ActivityRow.sequence).Nodup := by
  cases source with
  | security =>
    rw [ActivityStore.table, map_map]
    exact sound.journal
  | business =>
    rw [ActivityStore.table, map_map]
    exact sound.audit

theorem selected_increasing (sound : store.Sound) (now : Instant) (through : Int) (before : Option Int) :
    Increasing ActivityRow.order (store.selected query now through before) := by
  have numbers := table_sequences sound query.source
  have apart : Separates ActivityRow.order (store.table query.source) := by
    intro left leftMember right rightMember same
    exact inj_on_of_nodup_map numbers leftMember rightMember (neg_injective same)
  refine sortBy_increasing (numbers.of_map.filter _) ?_
  intro left leftMember right rightMember
  exact apart left (mem_of_mem_filter leftMember) right (mem_of_mem_filter rightMember)

theorem mem_selected {now : Instant} {through : Int} {before : Option Int} : row ∈ store.selected query now through before ↔
      row ∈ store.table query.source ∧ row.Selected query now ∧ row.sequence ≤ through ∧ ∀ bound ∈ before, row.sequence < bound := by
  rw [ActivityStore.selected, mem_sortBy, mem_filter, decide_eq_true_eq]

theorem le_watermark (member : row ∈ store.table query.source) (owned : row.OwnedBy query) :
    row.sequence ≤ store.watermark query := by
  have among : row.sequence ∈ ((store.table query.source).filter fun row => decide (row.OwnedBy query)).map ActivityRow.sequence :=
    mem_map_of_mem (mem_filter.mpr ⟨member, decide_eq_true owned⟩)
  rw [ActivityStore.watermark]
  cases found : (((store.table query.source).filter fun row => decide (row.OwnedBy query)).map ActivityRow.sequence).max? with
  | none =>
    rw [max?_eq_none_iff.mp found] at among
    cases among
  | some last => exact (max?_le_iff found).mp le_rfl _ among

/-- The watermark is the number of a row, or no row has been found. -/
theorem watermark_cases (store : ActivityStore) (query : ActivityQuery) :
    store.watermark query = 0 ∨ ∃ row ∈ store.table query.source, row.sequence = store.watermark query := by
  rw [ActivityStore.watermark]
  cases found : (((store.table query.source).filter fun row => decide (row.OwnedBy query)).map ActivityRow.sequence).max? with
  | none => exact .inl rfl
  | some last =>
    obtain ⟨row, member, same⟩ := mem_map.mp (max?_mem found)
    exact .inr ⟨row, mem_of_mem_filter member, same⟩

theorem watermark_safe (store : ActivityStore) (query : ActivityQuery) : store.watermark query ≤ maxSafeJsonInteger := by
  rcases watermark_cases store query with none | ⟨row, _, same⟩
  · rw [none]
    decide
  · rw [← same]
    exact row.inRange.2

/-- No row up to the watermark has been added since. -/
theorem mem_origin (sound : origin.Sound) (follows : store.Follows origin clock) (member : row ∈ store.table query.source)
    (bound : row.sequence ≤ origin.watermark query) : row ∈ origin.table query.source := by
  have positive := row.inRange.1
  obtain ⟨last, contained, same⟩ := (watermark_cases origin query).resolve_left (by omega)
  cases source : query.source with
  | security =>
    rw [source, ActivityStore.table, mem_map] at member contained
    obtain ⟨found, inside, rfl⟩ := member
    obtain ⟨owned, within, rfl⟩ := contained
    refine mem_map_of_mem (follows.journal found inside ?_)
    exact (bound.trans same.symm.le).trans (sound.bounded owned within)
  | business =>
    rw [source, ActivityStore.table, mem_map] at member contained
    obtain ⟨found, inside, rfl⟩ := member
    obtain ⟨owned, within, rfl⟩ := contained
    obtain ⟨appended, split, later⟩ := follows.audit
    rw [split] at inside
    rcases mem_append.mp inside with earlier | new
    · exact mem_map_of_mem earlier
    · have above := later found new owned within
      exact absurd (bound.trans same.symm.le) (not_le.mpr above)

/-- A retained row has stayed. -/
theorem mem_later (follows : store.Follows origin clock) (member : row ∈ origin.table query.source)
    (retained : row.Retained clock) : row ∈ store.table query.source := by
  cases source : query.source with
  | security =>
    rw [source, ActivityStore.table, mem_map] at member
    obtain ⟨found, inside, rfl⟩ := member
    exact mem_map_of_mem (follows.kept found inside retained)
  | business =>
    rw [source, ActivityStore.table, mem_map] at member
    obtain ⟨found, inside, rfl⟩ := member
    obtain ⟨appended, split, _⟩ := follows.audit
    refine mem_map_of_mem ?_
    rw [split]
    exact mem_append_left _ inside

end Tables

/-- The later entry of two has the smaller number. -/
def Descending (entries : List ActivityEntry) : Prop :=
  entries.Pairwise fun earlier later => later.sequence < earlier.sequence

/-- A page shows the selected rows down to the last one of its items. -/
structure PageShows (selected : List ActivityRow) (items : List ActivityEntry) (last : Option ActivityEntry) : Prop where
  rows : ∀ entry ∈ items, ∃ row ∈ selected, row.entry = .ok entry
  descending : Descending items
  covers : ∀ row ∈ selected, (∃ entry ∈ items, row.entry = .ok entry) ∨ ∃ final ∈ last, row.sequence < final.sequence
  final : ∀ final ∈ last, final ∈ items ∧ ∀ entry ∈ items, final.sequence ≤ entry.sequence

section Pages

variable {selected : List ActivityRow} {fetched : List ActivityEntry} {limit : Nat}

theorem descending_of_entries {rows : List ActivityRow} {entries : List ActivityEntry}
    (related : List.Forall₂ (fun row entry => ActivityRow.entry row = .ok entry) rows entries)
    (increasing : Increasing ActivityRow.order rows) : Descending entries := by
  induction related with
  | nil => exact List.Pairwise.nil
  | @cons row entry rows entries head tail ih =>
    obtain ⟨before, rest⟩ := pairwise_cons.mp increasing
    refine pairwise_cons.mpr ⟨fun later member => ?_, ih rest⟩
    obtain ⟨other, contained, shown⟩ := exists_of_mem_collect (collect_eq_ok.mpr tail) member
    rw [sequence_of_entry head, sequence_of_entry shown]
    exact neg_lt_neg_iff.mp (before other contained)

/-- The page of the fetched rows shows the selected ones. -/
theorem pageShows (increasing : Increasing ActivityRow.order selected) (positive : 1 ≤ limit)
    (read : List.Forall₂ (fun row entry => ActivityRow.entry row = .ok entry) (selected.take (limit + 1)) fetched) :
    PageShows selected (pageOf limit fetched).1 (pageOf limit fetched).2 := by
  obtain ⟨items, last⟩ := pageOf_rel read
  have early : (pageOf limit selected).1 = selected.take limit := pageOf_shown
  have descending : Descending (pageOf limit fetched).1 := by
    refine descending_of_entries items ?_
    rw [early]
    exact increasing.sublist (take_sublist limit selected)
  refine ⟨fun entry member => ?_, descending, fun row member => ?_, fun final continued => ?_⟩
  · obtain ⟨row, contained, shown⟩ := exists_of_mem_collect (collect_eq_ok.mpr items) member
    rw [early] at contained
    exact ⟨row, mem_of_mem_take contained, shown⟩
  · rcases pageOf_covers increasing positive member with shown | ⟨bound, continued, before⟩
    · exact .inl (mem_collect_of_mem (collect_eq_ok.mpr items) shown)
    · rw [continued] at last
      obtain ⟨final, ends, entry⟩ : ∃ final, (pageOf limit fetched).2 = some final ∧ bound.entry = .ok final := by
        generalize (pageOf limit fetched).2 = found at last
        cases last with
        | some entry => exact ⟨_, rfl, entry⟩
      refine .inr ⟨final, ends, ?_⟩
      rw [sequence_of_entry entry]
      exact neg_lt_neg_iff.mp before
  · have ends := pageOf_last continued
    obtain ⟨before, split⟩ := getLast?_eq_some_iff.mp ends
    rw [split] at descending ⊢
    refine ⟨mem_append_right _ (mem_singleton_self final), fun entry member => ?_⟩
    rcases mem_append.mp member with earlier | same
    · exact ((pairwise_append.mp descending).2.2 entry earlier final (mem_singleton_self final)).le
    · rw [mem_singleton.mp same]

end Pages

theorem readEntries_eq_ok {rows : List ActivityRow} {entries : List ActivityEntry} : readEntries rows = .ok entries ↔
      List.Forall₂ (fun row entry => ActivityRow.entry row = .ok entry) rows entries := by
  rw [← collect_eq_ok, readEntries]
  cases collect ActivityRow.entry rows with
  | ok entries => rfl
  | error error => cases error <;> simp

section Reads

variable [Interpreter] {codec : ActivityCursorCodec} {query : ActivityQuery} {principal reader : ActivityPrincipal}
  {before after : ActivityStore} {cursor : Option Text} {now : Instant} {page : ActivityPage}

/-- A page shows what is selected at its instant, up to the watermark and before the cursor. -/
theorem page_shows (sound : after.Sound) (read : ActivityStore.page before after codec query reader cursor now = .ok page) :
    ∃ position last, decodeCursor codec query reader now cursor = .ok position ∧
      PageShows (after.selected query now ((position.map ActivityPosition.through).getD (before.watermark query))
        (position.map ActivityPosition.before)) page.items last ∧
      nextCursor codec query reader position
        ((position.map ActivityPosition.through).getD (before.watermark query)) now last = .ok page.nextCursor := by
  simp only [ActivityStore.page, bind_eq_ok, raiseIf_eq_ok, exists_const, pure_eq_ok_iff] at read
  obtain ⟨_, position, decoded, rows, entries, next, continued, rfl⟩ := read
  exact ⟨position, _, decoded, pageShows (selected_increasing sound _ _ _) (query_limit query) (readEntries_eq_ok.mp entries),
    continued⟩

end Reads

/-- Every row that was selected at first is still retained. -/
def Retains (query : ActivityQuery) (origin : ActivityStore) (first clock : Instant) : Prop :=
  ∀ row ∈ origin.table query.source, row.Selected query first → row.Retained clock

/-- The rows that were selected at first and meet a condition have been shown. -/
def ShowsWhere (query : ActivityQuery) (origin : ActivityStore) (first : Instant) (entries : List ActivityEntry)
    (condition : ActivityRow → Prop) : Prop :=
  ∀ row ∈ origin.table query.source, row.Selected query first → condition row → ∃ entry ∈ entries, row.entry = .ok entry

/-- A cursor continues a chain after the last entry that it has shown. -/
structure Carries (codec : ActivityCursorCodec) (query : ActivityQuery) (principal : ActivityPrincipal) (origin : ActivityStore)
    (first clock : Instant) (entries : List ActivityEntry) (cursor : Text) (position : ActivityPosition) : Prop where
  written : cursor = codec.encode query principal position
  through : position.through = origin.watermark query
  bounded : position.Bounded
  expiry : ∃ deadline, addSeconds first activityCursorSeconds = .ok deadline ∧
    position.expiresAt = min deadline principal.expiresAt
  behind : ∀ entry ∈ entries, position.before ≤ entry.sequence
  shown : Retains query origin first clock → ShowsWhere query origin first entries fun row => position.before ≤ row.sequence

/-- What a chain of pages has shown. -/
structure ActivityPaged (codec : ActivityCursorCodec) (query : ActivityQuery) (principal : ActivityPrincipal)
    (origin : ActivityStore) (first : Instant) (store : ActivityStore) (clock : Instant) (pages : List ActivityPage) : Prop where
  originSound : origin.Sound
  sound : store.Sound
  follows : store.Follows origin clock
  forward : first ≤ clock
  rows : ∀ entry ∈ pages.flatMap ActivityPage.items, ∃ row ∈ origin.table query.source,
    row.entry = .ok entry ∧ row.Covered query ∧ row.sequence ≤ origin.watermark query
  descending : Descending (pages.flatMap ActivityPage.items)
  finished : ∀ last ∈ pages.getLast?, last.nextCursor = none → Retains query origin first clock →
    ShowsWhere query origin first (pages.flatMap ActivityPage.items) fun _ => True
  carries : ∀ last ∈ pages.getLast?, ∀ cursor ∈ last.nextCursor, ∃ position,
    Carries codec query principal origin first clock (pages.flatMap ActivityPage.items) cursor position

section Chains

variable {codec : ActivityCursorCodec} {query : ActivityQuery} {principal reader : ActivityPrincipal}
  {origin store before after : ActivityStore} {first clock now later : Instant} {pages : List ActivityPage} {page : ActivityPage}

theorem ActivityRow.Retained.earlier {row : ActivityRow} (retained : row.Retained later) (forward : now ≤ later) :
    row.Retained now := by
  cases row with
  | security row => exact forward.trans_lt retained
  | business row => trivial

theorem Retains.earlier (retains : Retains query origin first later) (forward : now ≤ later) : Retains query origin first now :=
  fun row member selected => (retains row member selected).earlier forward

/-- The position after the last entry of a page is bounded by the watermark. -/
theorem position_bounded {row : ActivityRow} {entry : ActivityEntry} {expiry : Instant} (shown : row.entry = .ok entry)
    (bound : row.sequence ≤ origin.watermark query) :
    ActivityPosition.Bounded ⟨origin.watermark query, entry.sequence, expiry⟩ := by
  have positive := row.inRange.1
  refine ⟨?_, ?_, watermark_safe origin query⟩
  · dsimp only
    rw [sequence_of_entry shown]
    omega
  · rwa [sequence_of_entry shown]

/-- The selected rows of a later store are rows of the first one. -/
theorem rows_of_selected {bound : Option Int} {row : ActivityRow} (sound : origin.Sound) (follows : store.Follows origin clock)
    (member : row ∈ store.selected query now (origin.watermark query) bound) :
    row ∈ origin.table query.source ∧ row.Covered query ∧ row.sequence ≤ origin.watermark query := by
  obtain ⟨contained, selected, limit, _⟩ := mem_selected.mp member
  exact ⟨mem_origin sound follows contained limit, covered_of_selected selected, limit⟩

/-- A row that was selected at first is selected again while it is retained. -/
theorem selected_of_retained {bound : Option Int} {row : ActivityRow} (follows : after.Follows origin later)
    (forward : first ≤ now) (meanwhile : now ≤ later) (member : row ∈ origin.table query.source) (selected : row.Selected query first)
    (retained : row.Retained later) (ahead : ∀ last ∈ bound, row.sequence < last) :
    row ∈ after.selected query now (origin.watermark query) bound :=
  mem_selected.mpr ⟨mem_later follows member retained, selected_later selected forward (retained.earlier meanwhile),
    le_watermark member selected.1, ahead⟩

/-- What the pages before a bound have shown. -/
structure ShownBefore (query : ActivityQuery) (origin : ActivityStore) (first later : Instant) (bound : Option Int)
    (entries : List ActivityEntry) : Prop where
  rows : ∀ entry ∈ entries, ∃ row ∈ origin.table query.source,
    row.entry = .ok entry ∧ row.Covered query ∧ row.sequence ≤ origin.watermark query
  descending : Descending entries
  behind : ∀ entry ∈ entries, ∃ last ∈ bound, last ≤ entry.sequence
  shown : Retains query origin first later → ShowsWhere query origin first entries fun row => ∃ last ∈ bound, last ≤ row.sequence

/-- The next position of a chain is the one after the last entry of a page. -/
structure ContinuesAt (codec : ActivityCursorCodec) (query : ActivityQuery) (principal : ActivityPrincipal)
    (origin : ActivityStore) (first : Instant) (last : Option ActivityEntry) (cursor : Option Text) : Prop where
  ends : cursor = none → last = none
  continues : ∀ token ∈ cursor, ∃ final ∈ last, ∃ expiry deadline, addSeconds first activityCursorSeconds = .ok deadline ∧
    expiry = min deadline principal.expiresAt ∧
      token = codec.encode query principal ⟨origin.watermark query, final.sequence, expiry⟩

/-- A page extends what has been shown. -/
theorem ShownBefore.extend {bound : Option Int} {entries : List ActivityEntry} {last : Option ActivityEntry}
    (earlier : ShownBefore query origin first later bound entries) (originSound : origin.Sound) (sound : after.Sound)
    (follows : after.Follows origin later) (forward : first ≤ now) (meanwhile : now ≤ later)
    (shows : PageShows (after.selected query now (origin.watermark query) bound) page.items last)
    (continues : ContinuesAt codec query principal origin first last page.nextCursor)
    (split : pages.flatMap ActivityPage.items = entries ++ page.items) (ends : pages.getLast? = some page) :
    ActivityPaged codec query principal origin first after later pages := by
  have fresh : ∀ entry ∈ page.items, ∃ row ∈ after.selected query now (origin.watermark query) bound, row.entry = .ok entry :=
    shows.rows
  have covers : Retains query origin first later → ∀ row ∈ origin.table query.source, row.Selected query first →
      (∃ entry ∈ entries ++ page.items, row.entry = .ok entry) ∨ ∃ final ∈ last, row.sequence < final.sequence := by
    intro retains row member selected
    by_cases before : ∃ last ∈ bound, last ≤ row.sequence
    · obtain ⟨entry, contained, shown⟩ := earlier.shown retains row member selected before
      exact .inl ⟨entry, mem_append_left _ contained, shown⟩
    · have ahead : ∀ last ∈ bound, row.sequence < last := fun last found =>
        not_le.mp fun order => before ⟨last, found, order⟩
      rcases shows.covers row (selected_of_retained follows forward meanwhile member selected (retains row member selected) ahead)
        with ⟨entry, contained, shown⟩ | later
      · exact .inl ⟨entry, mem_append_right _ contained, shown⟩
      · exact .inr later
  refine ⟨originSound, sound, follows, forward.trans meanwhile, ?_, ?_, ?_, ?_⟩
  · rw [split]
    intro entry member
    rcases mem_append.mp member with old | new
    · exact earlier.rows entry old
    · obtain ⟨row, contained, shown⟩ := fresh entry new
      obtain ⟨inside, covered, limit⟩ := rows_of_selected originSound follows contained
      exact ⟨row, inside, shown, covered, limit⟩
  · rw [split]
    refine pairwise_append.mpr ⟨earlier.descending, shows.descending, fun old oldMember new newMember => ?_⟩
    obtain ⟨row, contained, shown⟩ := fresh new newMember
    obtain ⟨last, found, behind⟩ := earlier.behind old oldMember
    rw [sequence_of_entry shown]
    exact ((mem_selected.mp contained).2.2.2 last found).trans_le behind
  · rw [ends, split]
    rintro _ ⟨⟩ finished retains row member selected _
    refine (covers retains row member selected).resolve_right ?_
    rw [continues.ends finished]
    rintro ⟨_, ⟨⟩, _⟩
  · rw [ends, split]
    rintro _ ⟨⟩ cursor carried
    obtain ⟨final, found, expiry, deadline, computed, expires, written⟩ := continues.continues cursor carried
    obtain ⟨among, least⟩ := shows.final final found
    obtain ⟨row, contained, shown⟩ := fresh final among
    refine ⟨_, written, rfl, position_bounded shown (rows_of_selected originSound follows contained).2.2, ⟨deadline, computed,
      expires⟩, fun entry member => ?_, fun retains row member selected before => ?_⟩
    · rcases mem_append.mp member with old | new
      · obtain ⟨last, bounded, behind⟩ := earlier.behind entry old
        rw [sequence_of_entry shown]
        exact ((mem_selected.mp contained).2.2.2 last bounded).le.trans behind
      · exact least entry new
    · refine (covers retains row member selected).resolve_right ?_
      rintro ⟨other, same, after⟩
      obtain rfl := Option.mem_unique found same
      exact absurd before (not_le.mpr after)

/-- The cursor of a page is written for the reader that the chain started with. -/
theorem continuesAt {position : Option ActivityPosition} {last : Option ActivityEntry} {cursor : Option Text}
    (digest : ActivityCursorCodec.bindingDigest query reader = ActivityCursorCodec.bindingDigest query principal)
    (expires : ∀ expiry, cursorExpiry reader position now = .ok expiry →
      ∃ deadline, addSeconds first activityCursorSeconds = .ok deadline ∧ expiry = min deadline principal.expiresAt)
    (continued : nextCursor codec query reader position (origin.watermark query) now last = .ok cursor) :
    ContinuesAt codec query principal origin first last cursor := by
  cases last with
  | none =>
    obtain rfl := Except.ok.inj continued
    exact ⟨fun _ => rfl, fun _ none => nomatch none⟩
  | some final =>
    obtain ⟨expiry, computed, written⟩ := bind_eq_ok.mp continued
    obtain ⟨deadline, bound, same⟩ := expires expiry computed
    obtain rfl := Except.ok.inj written
    refine ⟨nofun, ?_⟩
    rintro _ ⟨⟩
    refine ⟨final, rfl, expiry, deadline, bound, same, ?_⟩
    rw [ActivityCursorCodec.encode, ActivityCursorCodec.encode, ActivityCursorCodec.payload, ActivityCursorCodec.payload, digest]

variable [Interpreter]

/-- The first page of a chain. -/
theorem ActivityPaged.start {start : Instant} (run : ActivityChanges .empty start origin now)
    (meanwhile : ActivityChanges origin now store later)
    (read : ActivityStore.page origin store codec query principal none now = .ok page) :
    ActivityPaged codec query principal origin now store later [page] := by
  obtain ⟨originSound, _⟩ := run.follows emptyActivity_sound (.refl _ start)
  obtain ⟨sound, follows⟩ := meanwhile.follows originSound (.refl origin now)
  obtain ⟨position, last, decoded, shows, continued⟩ := page_shows sound read
  obtain rfl := Except.ok.inj decoded
  have earlier : ShownBefore query origin now later none [] :=
    { rows := fun _ member => absurd member not_mem_nil
      descending := List.Pairwise.nil
      behind := fun _ member => absurd member not_mem_nil
      shown := fun _ _ _ _ ⟨_, found, _⟩ => nomatch found }
  refine earlier.extend originSound sound follows le_rfl meanwhile.forward shows (continuesAt rfl (fun expiry computed => ?_) continued)
    (append_nil _) rfl
  obtain ⟨deadline, bound, same⟩ := bind_eq_ok.mp computed
  exact ⟨deadline, bound, (Except.ok.inj same).symm⟩

section

variable (nests : 1 ≤ Interpreter.jsonRecursionLimit)
include nests

/-- A page that continues a chain. -/
theorem ActivityPaged.next {last : ActivityPage} {cursor : Text}
    (paged : ActivityPaged codec query principal origin first store clock (pages ++ [last]))
    (earlier : ActivityChanges store clock before now) (meanwhile : ActivityChanges before now after later)
    (carried : last.nextCursor = some cursor)
    (read : ActivityStore.page before after codec query reader (some cursor) now = .ok page) :
    ActivityPaged codec query principal origin first after later (pages ++ [last] ++ [page]) := by
  obtain ⟨beforeSound, beforeFollows⟩ := earlier.follows paged.sound paged.follows
  obtain ⟨sound, follows⟩ := meanwhile.follows beforeSound beforeFollows
  have forward := paged.forward.trans earlier.forward
  obtain ⟨position, carries⟩ := paged.carries last getLast?_concat cursor carried
  obtain ⟨found, final, decoded, shows, continued⟩ := page_shows sound read
  obtain ⟨other, decodes, rfl⟩ := map_eq_ok.mp decoded
  rw [carries.written] at decodes
  obtain ⟨rfl, digest, _⟩ := (decode_encode nests carries.bounded).mp decodes
  rw [Option.map_some, Option.getD_some, carries.through] at shows continued
  have shown : ShownBefore query origin first later (some other.before) ((pages ++ [last]).flatMap ActivityPage.items) := by
    refine ⟨paged.rows, paged.descending, fun entry member => ⟨_, rfl, carries.behind entry member⟩, ?_⟩
    rintro retains row member selected ⟨_, ⟨⟩, behind⟩
    exact carries.shown (retains.earlier (earlier.forward.trans meanwhile.forward)) row member selected behind
  refine shown.extend paged.originSound sound follows forward meanwhile.forward shows
    (continuesAt digest.symm (fun expiry computed => ?_) continued) ?_ getLast?_concat
  · obtain ⟨deadline, bound, same⟩ := carries.expiry
    exact ⟨deadline, bound, (Except.ok.inj computed).symm.trans same⟩
  · rw [flatMap_append, flatMap_singleton]

theorem activityReads_paged (reads : ActivityReads codec query principal origin first store clock pages) :
    ActivityPaged codec query principal origin first store clock pages := by
  induction reads with
  | first run meanwhile read => exact .start run meanwhile read
  | next _ earlier meanwhile carried read ih => exact ih.next nests earlier meanwhile carried read

/-- A cursor of a chain is accepted for its query, its actor and their profile of authority, until it expires. -/
theorem Carries.accepted {entries : List ActivityEntry} {cursor : Text} {position : ActivityPosition} {other : ActivityQuery}
    {stranger : ActivityPrincipal}
    (carries : Carries codec query principal origin first clock entries cursor position) (forward : first ≤ later)
    (room : later.micros + secondMicros * activityCursorSeconds < instantLimit)
    (apart : BindingsApart query other principal stranger) :
    (∃ found, codec.decode cursor other stranger later = .ok found) ↔ (query = other ∧ principal.actorId = stranger.actorId ∧
        principal.authorityProfileDigest = stranger.authorityProfileDigest) ∧ later < position.expiresAt := by
  obtain ⟨deadline, computed, expires⟩ := carries.expiry
  have within : ∃ latest, addSeconds later activityCursorSeconds = .ok latest ∧ position.expiresAt ≤ latest := by
    refine ⟨⟨later.micros + secondMicros * activityCursorSeconds, room⟩, addSeconds_eq_ok.mpr rfl, ?_⟩
    rw [expires]
    refine (min_le_left _ _).trans ?_
    rw [addSeconds_eq_ok] at computed
    rw [Instant.le_def] at forward ⊢
    change deadline.micros ≤ later.micros + secondMicros * activityCursorSeconds
    omega
  simp only [carries.written, decode_encode nests carries.bounded, exists_eq_left, bindingDigest_binds apart]
  exact ⟨fun ⟨same, ahead, _⟩ => ⟨same, ahead⟩, fun ⟨same, ahead⟩ => ⟨same, ahead, within⟩⟩

end

/-- The pages of a chain show each row once, show every row of the first page's instant, and end when their cursors do. -/
theorem activity_pages_complete (nests : 1 ≤ Interpreter.jsonRecursionLimit)
    (reads : ActivityReads codec query principal origin first store clock pages) :
    Descending (pages.flatMap ActivityPage.items) ∧
      (∀ entry ∈ pages.flatMap ActivityPage.items, ∃ row ∈ origin.table query.source,
        row.entry = .ok entry ∧ row.Covered query ∧ row.sequence ≤ origin.watermark query) ∧
      (∀ last ∈ pages.getLast?, last.nextCursor = none → Retains query origin first clock →
        ∀ row ∈ origin.table query.source, row.Selected query first →
          ∃ entry ∈ pages.flatMap ActivityPage.items, row.entry = .ok entry) ∧
      ∀ last ∈ pages.getLast?, ∀ cursor ∈ last.nextCursor, ∃ deadline,
        addSeconds first activityCursorSeconds = .ok deadline ∧
          ∀ later, clock ≤ later → later.micros + secondMicros * activityCursorSeconds < instantLimit →
            ∀ other stranger, BindingsApart query other principal stranger →
              ((∃ position, codec.decode cursor other stranger later = .ok position) ↔
                (query = other ∧ principal.actorId = stranger.actorId ∧
                  principal.authorityProfileDigest = stranger.authorityProfileDigest) ∧
                  later < min deadline principal.expiresAt) := by
  have paged := activityReads_paged nests reads
  refine ⟨paged.descending, paged.rows, fun last ends finished retains row member selected =>
    paged.finished last ends finished retains row member selected trivial, fun last ends cursor carried => ?_⟩
  obtain ⟨position, carries⟩ := paged.carries last ends cursor carried
  obtain ⟨deadline, computed, expires⟩ := carries.expiry
  refine ⟨deadline, computed, fun later forward room other stranger apart => ?_⟩
  rw [← expires]
  exact carries.accepted nests (paged.forward.trans forward) room apart

end Chains

namespace Sample

theorem activityScope_admitted : (⟨1, 1⟩ : RepositoryScopeFields).postInit = .ok () := by
  rfl

def activityScope : RepositoryScope :=
  ⟨⟨1, 1⟩, activityScope_admitted⟩

def activitySince : Instant :=
  ⟨0, zero_lt_instantLimit⟩

theorem activityUntil_inRange : 4000000 < instantLimit := by
  decide

def activityUntil : Instant :=
  ⟨4000000, activityUntil_inRange⟩

theorem overrideRow_inRange (index : Fin 9) : 1 ≤ (index : Int) + 1 ∧ (index : Int) + 1 ≤ maxSafeJsonInteger := by
  have := index.isLt
  simp only [maxSafeJsonInteger]
  omega

/-- The audit events of overrides, with increasing numbers. -/
def overrideRow (index : Fin 9) : AuditReferenceRow where
  sequence := index + 1
  scope := some activityScope
  createdAt := ⟨1000000, by decide⟩
  actor := ascii "robot"
  eventType := ascii "operator_override_applied"
  idempotencyKeyDigest := List.replicate 64 48
  auditEventId := ascii "audit_" ++ List.replicate 32 48
  eventHash := List.replicate 64 48
  inRange := overrideRow_inRange index
  milliseconds := rfl

/-- The ledger after so many overrides. -/
def overrides (count : Nat) : ActivityStore :=
  ⟨[], 0, [overrideRow 0, overrideRow 1, overrideRow 2, overrideRow 3].take count⟩

def overrideQueryFields : ActivityQueryFields :=
  ⟨.business, activitySince, activityUntil, none, some activityScope, none, none, 2⟩

theorem overrideQuery_admitted : overrideQueryFields.postInit = .ok () := by
  rfl

def overrideQuery : ActivityQuery :=
  ⟨overrideQueryFields, overrideQuery_admitted⟩

def auditorFields : KeycloakWorkloadPrincipalFields :=
  ⟨ascii "https://id.example", ascii "auditor", ascii "auditor", {.audit}, activitySince, ⟨9000000, by decide⟩, List.replicate 64 48⟩

theorem auditor_admitted : auditorFields.postInit = .ok () := by
  rfl

def auditor : KeycloakWorkloadPrincipal :=
  ⟨auditorFields, auditor_admitted⟩

@[reducible] def interpreter : Interpreter :=
  ⟨1000⟩

def activityCodec : ActivityCursorCodec :=
  ⟨List.replicate 32 0, by decide⟩

/-- A second later, a fourth override has been audited. -/
def nextSecond : Instant :=
  ⟨5000000, by decide⟩

def overridePage (count : Nat) (cursor : Option Text) (now : Instant) : Py ActivityPage :=
  @ActivityStore.page interpreter (overrides count) (overrides count) activityCodec overrideQuery (.workload auditor) cursor now

def overridePages : Py (ActivityPage × Text × ActivityPage) := do
  let first ← overridePage 3 none activityUntil
  match first.nextCursor with
  | none => .error .keyError
  | some cursor =>
    let second ← overridePage 4 (some cursor) nextSecond
    return (first, cursor, second)

theorem overridePages_return : overridePages.toOption.map (fun pages => (pages.1.items.map fun entry => entry.sequence,
    pages.2.2.items.map fun entry => entry.sequence, pages.2.2.nextCursor)) = some ([3, 2], [1], none) := by
  decide +kernel

theorem overrides_selected : ∀ row ∈ (overrides 3).table .business, row.Selected overrideQuery activityUntil := by
  decide

theorem threeOverrides_changes : ActivityChanges .empty activitySince (overrides 3) activityUntil := by
  have first : ActivityChange .empty activityUntil (overrides 1) := .audit (overrideRow 0) (by decide)
  have second : ActivityChange (overrides 1) activityUntil (overrides 2) := .audit (overrideRow 1) (by decide)
  have third : ActivityChange (overrides 2) activityUntil (overrides 3) := .audit (overrideRow 2) (by decide)
  exact .step (.step (.step (.wait (.refl _ _) (by decide)) first) second) third

theorem fourthOverride_changes : ActivityChanges (overrides 3) activityUntil (overrides 4) nextSecond :=
  .wait (.step (.refl _ _) (.audit (overrideRow 3) (by decide))) (by decide)

theorem overridePages_reads {first second : ActivityPage} {cursor : Text}
    (computed : overridePages = .ok (first, cursor, second)) :
    @ActivityReads interpreter activityCodec overrideQuery (.workload auditor) (overrides 3) activityUntil (overrides 4) nextSecond
      [first, second] := by
  obtain ⟨page, read, rest⟩ := bind_eq_ok.mp computed
  split at rest
  · cases rest
  · rename_i token carried
    simp only [bind_eq_ok] at rest
    obtain ⟨_, continued, rfl, rfl, rfl⟩ := rest
    have start := @ActivityReads.first interpreter _ _ _ _ _ _ _ _ _ threeOverrides_changes (.refl _ _) read
    exact @ActivityReads.next interpreter _ _ _ _ _ _ _ _ _ _ _ [] _ _ _ _ start fourthOverride_changes (.refl _ _) carried
      continued

end Sample

/-- Two pages show the three overrides of the first page's instant, whatever is audited between them. -/
theorem activity_pages_complete_overrides : ∃ first cursor second,
    Sample.overridePages = .ok (first, cursor, second) ∧
      (first.items.map (fun entry => entry.sequence) = [3, 2] ∧ second.items.map (fun entry => entry.sequence) = [1]) ∧
      ∀ row ∈ (Sample.overrides 3).table .business, ∃ entry ∈ [first, second].flatMap ActivityPage.items,
        row.entry = .ok entry := by
  obtain ⟨⟨first, cursor, second⟩, computed, summary⟩ := eq_ok_of_map_toOption Sample.overridePages_return
  simp only [Prod.mk.injEq] at summary
  obtain ⟨newest, oldest, last⟩ := summary
  refine ⟨first, cursor, second, computed, ⟨newest, oldest⟩, ?_⟩
  have reads := Sample.overridePages_reads computed
  obtain ⟨_, _, finished, _⟩ := @activity_pages_complete _ _ _ _ _ _ _ _ Sample.interpreter (by decide) reads
  intro row member
  refine finished second rfl last (fun other found _ => ?_) row member (Sample.overrides_selected row member)
  obtain ⟨_, _, rfl⟩ := mem_map.mp found
  trivial

end CiCoordinator.Persistence

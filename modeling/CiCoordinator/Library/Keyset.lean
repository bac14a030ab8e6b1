import CiCoordinator.Library.Sorting

/- The pages of a sorted sequence that are continued from the key of their last item. -/

namespace CiCoordinator.Library

open List

variable {A K : Type} [LinearOrder K]

/-- The items after a key. -/
def itemsAfter (key : A → K) (after : Option K) (items : List A) : List A :=
  match after with
  | none => items
  | some bound => items.filter fun item => decide (bound < key item)

/-- A page fetches one item more than it shows, and continues from its last item when there is one. -/
def pageOf (limit : Nat) (items : List A) : List A × Option A :=
  let fetched := items.take (limit + 1)
  let shown := fetched.take limit
  (shown, if limit < fetched.length then shown.getLast? else none)

/-- A part of a sequence has been shown, and the next key continues it. -/
structure Continues (key : A → K) (items shown : List A) (next : Option K) : Prop where
  finished : next = none → shown = items
  rest : ∀ bound ∈ next, shown ++ itemsAfter key (some bound) items = items

section Pages

variable {key : A → K} {items shown : List A} {limit : Nat}

theorem pageOf_shown : (pageOf limit items).1 = items.take limit := by
  rw [pageOf, take_take, min_eq_left (Nat.le_succ limit)]

/-- A page ends with the item that it continues from, and skips only items after it. -/
theorem pageOf_covers (increasing : Increasing key items) (positive : 1 ≤ limit) {item : A} (member : item ∈ items) :
    item ∈ (pageOf limit items).1 ∨ ∃ last ∈ (pageOf limit items).2, key last < key item := by
  rw [pageOf_shown]
  rw [← take_append_drop limit items, mem_append] at member
  rcases member with shown | later
  · exact .inl shown
  · have more : limit < items.length := by
      have filled := length_pos_of_mem later
      rw [length_drop] at filled
      omega
    have fetched : limit < (items.take (limit + 1)).length := by
      rw [length_take]
      omega
    have filled : items.take limit ≠ [] := by
      rw [ne_eq, take_eq_nil_iff]
      rintro (zero | empty)
      · omega
      · rw [empty] at more
        cases more
    refine .inr ⟨(items.take limit).getLast filled, ?_, ?_⟩
    · rw [pageOf, take_take, min_eq_left (Nat.le_succ limit), if_pos fetched]
      exact getLast?_eq_some_getLast filled
    · rw [← take_append_drop limit items] at increasing
      exact (pairwise_append.mp increasing).2.2 _ (getLast_mem filled) item later

theorem pageOf_last {last : A} (continued : last ∈ (pageOf limit items).2) : (pageOf limit items).1.getLast? = some last := by
  rw [pageOf] at continued
  split at continued
  · exact continued
  · cases continued

theorem getLast?_rel {B : Type} {shows : A → B → Prop} {first : List A} {second : List B}
    (related : List.Forall₂ shows first second) : Option.Rel shows first.getLast? second.getLast? := by
  induction related with
  | nil => exact Option.Rel.none
  | @cons item shown rest others head tail ih =>
    cases tail with
    | nil => exact Option.Rel.some head
    | cons next more =>
      exact ih

/-- A page of what is fetched shows the page of the items that are behind it. -/
theorem pageOf_rel {B : Type} {shows : A → B → Prop} {fetched : List B}
    (related : List.Forall₂ shows (items.take (limit + 1)) fetched) :
    List.Forall₂ shows (pageOf limit items).1 (pageOf limit fetched).1 ∧
      Option.Rel shows (pageOf limit items).2 (pageOf limit fetched).2 := by
  have count := related.length_eq
  have whole : fetched.take (limit + 1) = fetched := by
    refine take_of_length_le ?_
    rw [← count, length_take]
    exact min_le_left _ _
  have shown := forall₂_take limit related
  simp only [pageOf, whole]
  refine ⟨shown, ?_⟩
  rw [count]
  split
  · exact getLast?_rel shown
  · exact Option.Rel.none

/-- The items after an item of an increasing sequence are the ones that follow it. -/
theorem itemsAfter_of_append {first second : List A} {last : A} (increasing : Increasing key (first ++ second))
    (ends : first.getLast? = some last) : itemsAfter key (some (key last)) (first ++ second) = second := by
  obtain ⟨before, rfl⟩ := getLast?_eq_some_iff.mp ends
  obtain ⟨early, late, apart⟩ := pairwise_append.mp increasing
  have lastOf := (pairwise_append.mp early).2.2
  rw [itemsAfter, filter_append]
  have none : ((before ++ [last]).filter fun item => decide (key last < key item)) = [] := by
    refine filter_eq_nil_iff.mpr fun item member => ?_
    rw [decide_eq_true_eq, not_lt]
    rcases mem_append.mp member with earlier | final
    · exact (lastOf item earlier last (mem_singleton_self last)).le
    · rw [mem_singleton.mp final]
  have all : (second.filter fun item => decide (key last < key item)) = second :=
    filter_eq_self.mpr fun item member => decide_eq_true (apart last (by simp) item member)
  rw [none, all, nil_append]

/-- A page of the remaining items continues what has been shown. -/
theorem Continues.page {remaining : List A} (increasing : Increasing key (shown ++ remaining)) (positive : 1 ≤ limit) :
    Continues key (shown ++ remaining) (shown ++ (pageOf limit remaining).1) ((pageOf limit remaining).2.map key) := by
  rw [pageOf_shown]
  have parts : shown ++ remaining.take limit ++ remaining.drop limit = shown ++ remaining := by
    rw [append_assoc, take_append_drop]
  have fetched : limit < (remaining.take (limit + 1)).length ↔ limit < remaining.length := by
    rw [length_take]
    omega
  by_cases more : limit < remaining.length
  · have continued : (pageOf limit remaining).2 = (remaining.take limit).getLast? := by
      rw [pageOf, take_take, min_eq_left (Nat.le_succ limit), if_pos (fetched.mpr more)]
    have filled : remaining.take limit ≠ [] := by
      rw [ne_eq, take_eq_nil_iff]
      rintro (zero | empty)
      · omega
      · rw [empty] at more
        simp at more
    have ends := getLast?_eq_some_getLast filled
    refine ⟨fun finished => ?_, fun bound next => ?_⟩
    · rw [continued, ends] at finished
      cases finished
    · rw [continued, ends, Option.map_some, Option.mem_some_iff] at next
      subst next
      rw [← parts] at increasing ⊢
      rw [itemsAfter_of_append increasing (by rw [getLast?_append, ends, Option.some_or])]
  · have done : (pageOf limit remaining).2 = none := by
      exact if_neg fun larger => more (fetched.mp larger)
    refine ⟨fun _ => ?_, fun bound next => ?_⟩
    · rw [take_of_length_le (not_lt.mp more)]
    · rw [done] at next
      cases next

/-- The first page of a sequence. -/
theorem Continues.first (increasing : Increasing key items) (positive : 1 ≤ limit) :
    Continues key items (pageOf limit items).1 ((pageOf limit items).2.map key) :=
  @Continues.page A K _ key [] limit items increasing positive

/-- The page from the next key on. -/
theorem Continues.next {bound : K} (increasing : Increasing key items) (positive : 1 ≤ limit)
    (continues : Continues key items shown (some bound)) :
    Continues key items (shown ++ (pageOf limit (itemsAfter key (some bound) items)).1)
      ((pageOf limit (itemsAfter key (some bound) items)).2.map key) := by
  have parts := continues.rest bound rfl
  have sorted : Increasing key (shown ++ itemsAfter key (some bound) items) := by rwa [parts]
  have paged := Continues.page sorted positive
  rwa [parts] at paged

/-- What has been shown is the beginning of the sequence. -/
theorem Continues.begins {next : Option K} (continues : Continues key items shown next) : shown <+: items := by
  cases next with
  | none =>
    exact ⟨[], (append_nil shown).trans (continues.finished rfl)⟩
  | some bound => exact ⟨_, continues.rest bound rfl⟩

/-- A selection of the items of an order is the order of the selected items. -/
theorem sortBy_filter (keep : A → Bool) (distinct : items.Nodup) (apart : Separates key items) :
    sortBy key (items.filter keep) = (sortBy key items).filter keep := by
  refine Increasing.ext ?_ ((sortBy_increasing distinct apart).filter keep) fun item => ?_
  · exact sortBy_increasing (distinct.filter keep) fun left leftMember right rightMember =>
      apart left (mem_of_mem_filter leftMember) right (mem_of_mem_filter rightMember)
  · rw [mem_sortBy, mem_filter, mem_filter, mem_sortBy]

end Pages

end CiCoordinator.Library

import Mathlib.Data.List.Sort
import Mathlib.Data.List.Dedup
import CiCoordinator.Library.Text

/- Stable sorting by a key and the sorted sequences without repetition. -/

namespace CiCoordinator.Library

open List

variable {A B K : Type} [LinearOrder K]

/-- Items are sorted by their keys and keep their order where keys agree. -/
def sortBy (key : A → K) (items : List A) : List A :=
  items.insertionSort fun left right => key left ≤ key right

/-- A set is listed in the order of its keys. -/
def sortedUnique [DecidableEq A] (key : A → K) (items : List A) : List A :=
  sortBy key items.dedup

/-- A sequence increases strictly by key. -/
def Increasing (key : A → K) (items : List A) : Prop :=
  items.Pairwise fun left right => key left < key right

instance (key : A → K) (items : List A) : Decidable (Increasing key items) :=
  inferInstanceAs (Decidable (items.Pairwise _))

/-- Keys tell the items of a sequence apart. -/
def Separates (key : A → K) (items : List A) : Prop :=
  ∀ left ∈ items, ∀ right ∈ items, key left = key right → left = right

variable {key : A → K}

theorem sortBy_perm (key : A → K) (items : List A) : (sortBy key items).Perm items :=
  perm_insertionSort _ items

@[simp] theorem mem_sortBy {items : List A} {item : A} : item ∈ sortBy key items ↔ item ∈ items :=
  (sortBy_perm key items).mem_iff

theorem sortBy_ordered (key : A → K) (items : List A) : (sortBy key items).Pairwise fun left right => key left ≤ key right := by
  exact pairwise_insertionSort _ items

/-- An increasing sequence is already sorted. -/
theorem sortBy_of_increasing {items : List A} (increasing : Increasing key items) : sortBy key items = items :=
  List.Pairwise.insertionSort_eq (increasing.imp (·.le))

namespace Increasing

variable {key : A → K} {items : List A}

section

variable (increasing : Increasing key items)
include increasing

theorem nodup : items.Nodup :=
  increasing.imp fun before equal => by
    rw [equal] at before
    exact lt_irrefl _ before

theorem nodup_map : (items.map key).Nodup := by
  rw [List.Nodup, pairwise_map]
  exact increasing.imp (·.ne)

theorem separates : Separates key items := by
  intro left leftMember right rightMember equal
  exact inj_on_of_nodup_map increasing.nodup_map leftMember rightMember equal

theorem sublist {some : List A} (included : some.Sublist items) : Increasing key some :=
  List.Pairwise.sublist included increasing

theorem filter (keep : A → Bool) : Increasing key (items.filter keep) :=
  increasing.sublist filter_sublist

end

/-- Two increasing sequences with the same members are the same sequence. -/
theorem ext {left right : List A} (leftIncreasing : Increasing key left) (rightIncreasing : Increasing key right)
    (same : ∀ item, item ∈ left ↔ item ∈ right) : left = right := by
  exact List.Pairwise.eq_of_mem_iff leftIncreasing rightIncreasing same

theorem map_iff {key : B → K} {project : A → B} :
    Increasing key (items.map project) ↔ Increasing (fun item => key (project item)) items :=
  pairwise_map

end Increasing

/-- Sorting distinct items with separating keys is strict. -/
theorem sortBy_increasing {items : List A} (distinct : items.Nodup) (apart : Separates key items) :
    Increasing key (sortBy key items) := by
  have sortedDistinct : (sortBy key items).Nodup := (sortBy_perm key items).nodup_iff.mpr distinct
  have both := (sortBy_ordered key items).and sortedDistinct
  refine List.Pairwise.imp_of_mem ?_ both
  intro left right leftMember rightMember ⟨ordered, different⟩
  refine lt_of_le_of_ne ordered fun equal => different ?_
  exact apart left (mem_sortBy.mp leftMember) right (mem_sortBy.mp rightMember) equal

/-- A change of the items that keeps their keys commutes with sorting. -/
theorem map_sortBy {other : B → K} {change : A → B} (kept : ∀ item, other (change item) = key item) (items : List A) :
    (sortBy key items).map change = sortBy other (items.map change) := by
  refine map_insertionSort _ _ change items fun left _ right _ => ?_
  rw [kept, kept]

theorem sortBy_sortBy (key : A → K) (items : List A) : sortBy key (sortBy key items) = sortBy key items :=
  List.Pairwise.insertionSort_eq (sortBy_ordered key items)

/-- Items with their own keys are sorted to the same sequence exactly when they are the same up to order. -/
theorem sortBy_eq_iff_perm {left right : List A} (leftDistinct : (left.map key).Nodup)
    (rightDistinct : (right.map key).Nodup) : sortBy key left = sortBy key right ↔ left.Perm right := by
  constructor
  · intro equal
    exact (sortBy_perm key left).symm.trans ((List.Perm.of_eq equal).trans (sortBy_perm key right))
  · intro same
    have apart : ∀ {items : List A}, (items.map key).Nodup → Increasing key (sortBy key items) := fun distinct =>
      sortBy_increasing (List.Nodup.of_map key distinct) fun _ first _ second equal =>
        inj_on_of_nodup_map distinct first second equal
    refine Increasing.ext (apart leftDistinct) (apart rightDistinct) fun item => ?_
    rw [mem_sortBy, mem_sortBy, same.mem_iff]

/-- Rearranged items whose keys tell them apart are sorted to the same sequence. -/
theorem sortBy_congr {left right : List A} (apart : Separates key left) (same : left.Perm right) :
    sortBy key left = sortBy key right := by
  refine List.Perm.eq_of_pairwise ?_ (sortBy_ordered key left) (sortBy_ordered key right)
    ((sortBy_perm key left).trans (same.trans (sortBy_perm key right).symm))
  intro first second firstMember secondMember before after
  exact apart first (mem_sortBy.mp firstMember) second (same.mem_iff.mpr (mem_sortBy.mp secondMember)) (le_antisymm before after)

section Unique

variable [DecidableEq A]
variable {key : A → K} {items : List A}

@[simp] theorem mem_sortedUnique {item : A} : item ∈ sortedUnique key items ↔ item ∈ items := by
  simp [sortedUnique]

section

variable (apart : Separates key items)
include apart

omit [LinearOrder K] in
theorem Separates.dedup : Separates key items.dedup :=
  fun left leftMember right rightMember =>
    apart left (mem_dedup.mp leftMember) right (mem_dedup.mp rightMember)

theorem sortedUnique_increasing : Increasing key (sortedUnique key items) :=
  sortBy_increasing (nodup_dedup items) apart.dedup

/-- A sequence equals its sorted set exactly when it increases strictly. -/
theorem sortedUnique_eq_self_iff : sortedUnique key items = items ↔ Increasing key items := by
  constructor
  · intro equal
    rw [← equal]
    exact sortedUnique_increasing apart
  · intro increasing
    rw [sortedUnique, List.Nodup.dedup increasing.nodup]
    exact sortBy_of_increasing increasing

end

end Unique

/-- Code units separate scalar texts. -/
theorem separates_utf16 {texts : List Text} (scalar : ∀ text ∈ texts, text.scalar = true) : Separates Text.utf16 texts :=
  fun left leftMember right rightMember equal =>
    Text.utf16_injective (scalar left leftMember) (scalar right rightMember) equal

end CiCoordinator.Library

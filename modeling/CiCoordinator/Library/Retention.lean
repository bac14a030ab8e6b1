import CiCoordinator.Library.Sorting
import CiCoordinator.Library.Table

/- The rows that a bounded retention evicts: all but the newest ones. -/

namespace CiCoordinator.Library

open List

variable {R K : Type} [LinearOrder K]

/-- The rows that come after the newest ones. -/
def beyondNewest (age : R → K) (keep : Nat) (rows : List R) : List R :=
  (sortBy age rows).reverse.drop keep

variable {age : R → K} {keep : Nat} {rows : List R} {row evicted : R}

theorem mem_of_mem_beyondNewest (member : row ∈ beyondNewest age keep rows) : row ∈ rows :=
  mem_sortBy.mp (mem_reverse.mp (mem_of_mem_drop member))

/-- A row that stays is among the newest ones. -/
theorem mem_newest (member : row ∈ rows) (stays : row ∉ beyondNewest age keep rows) :
    row ∈ (sortBy age rows).reverse.take keep := by
  have listed : row ∈ (sortBy age rows).reverse := mem_reverse.mpr (mem_sortBy.mpr member)
  rw [← take_append_drop keep (sortBy age rows).reverse] at listed
  exact (mem_append.mp listed).resolve_right stays

/-- An evicted row is not newer than a row that stays. -/
theorem beyondNewest_le (out : evicted ∈ beyondNewest age keep rows) (member : row ∈ rows)
    (stays : row ∉ beyondNewest age keep rows) : age evicted ≤ age row := by
  have ordered : (sortBy age rows).reverse.Pairwise fun first second => age second ≤ age first :=
    pairwise_reverse.mpr (sortBy_ordered age rows)
  rw [← take_append_drop keep (sortBy age rows).reverse] at ordered
  exact (pairwise_append.mp ordered).2.2 row (mem_newest member stays) evicted out

/-- No more rows stay than are to be kept. -/
theorem length_deleteWhere_beyondNewest [DecidableEq R] :
    (deleteWhere (fun row => row ∈ beyondNewest age keep rows) rows).length ≤ keep := by
  have same : (deleteWhere (fun row => row ∈ beyondNewest age keep rows) rows).length =
      (deleteWhere (fun row => row ∈ beyondNewest age keep rows) (sortBy age rows).reverse).length :=
    ((((sortBy age rows).reverse_perm.trans (sortBy_perm age rows)).symm).filter _).length_eq
  rw [same, deleteWhere, ← take_append_drop keep (sortBy age rows).reverse, filter_append, length_append]
  have none : ((sortBy age rows).reverse.drop keep).filter (fun row => decide (row ∉ beyondNewest age keep rows)) = [] :=
    filter_eq_nil_iff.mpr fun row member kept => of_decide_eq_true kept member
  rw [none, length_nil, Nat.add_zero]
  exact (length_filter_le _ _).trans (length_take_le _ _)

/-- Rows are evicted only when more are there than are to be kept. -/
theorem lt_length_of_mem_beyondNewest (out : evicted ∈ beyondNewest age keep rows) : keep < rows.length := by
  have positive := length_pos_of_mem out
  rw [beyondNewest, length_drop, length_reverse, (sortBy_perm age rows).length_eq] at positive
  omega

end CiCoordinator.Library

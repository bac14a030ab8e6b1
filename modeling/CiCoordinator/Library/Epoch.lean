import CiCoordinator.Library.Keyset
import CiCoordinator.Library.Table

/- Tables that only grow beyond their keys, and the rows of a range of keys in their order. -/

namespace CiCoordinator.Library

open List

variable {A K : Type} [LinearOrder K] {key : A → K}

/-- A table is extended by rows whose keys are beyond all keys that it has. -/
def Extends (key : A → K) (before after : List A) : Prop :=
  ∃ added, after = before ++ added ∧ ∀ new ∈ added, ∀ old ∈ before, key old < key new

/-- The rows after a lower key, up to an upper key and with it. -/
def rowsBetween (key : A → K) (lower upper : K) (rows : List A) : List A :=
  sortBy key (rows.filter fun row => decide (lower < key row ∧ key row ≤ upper))

theorem Extends.refl (rows : List A) : Extends key rows rows :=
  ⟨[], (append_nil rows).symm, by simp⟩

theorem Extends.trans {first second third : List A} (early : Extends key first second) (late : Extends key second third) :
    Extends key first third := by
  obtain ⟨added, rfl, beyond⟩ := early
  obtain ⟨more, rfl, further⟩ := late
  refine ⟨added ++ more, append_assoc first added more, ?_⟩
  intro new member old inside
  rcases mem_append.mp member with earlier | later
  · exact beyond new earlier old inside
  · exact further new later old (mem_append_left added inside)

/-- An extension adds no row up to a key that the table has. -/
theorem rowsBetween_of_extends {before after : List A} {top : A} (grown : Extends key before after) (present : top ∈ before)
    (lower : K) : rowsBetween key lower (key top) after = rowsBetween key lower (key top) before := by
  obtain ⟨added, rfl, beyond⟩ := grown
  have none : (added.filter fun row => decide (lower < key row ∧ key row ≤ key top)) = [] := by
    refine filter_eq_nil_iff.mpr fun new member inside => ?_
    exact absurd (of_decide_eq_true inside).2 (not_le.mpr (beyond new member top present))
  rw [rowsBetween, filter_append, none, append_nil, rowsBetween]

/-- The range of all keys has all rows. -/
theorem rowsBetween_all {rows : List A} {lower upper : K} (above : ∀ row ∈ rows, lower < key row)
    (below : ∀ row ∈ rows, key row ≤ upper) : rowsBetween key lower upper rows = sortBy key rows := by
  rw [rowsBetween, filter_eq_self.mpr fun row member => decide_eq_true ⟨above row member, below row member⟩]

/-- The rows after the last of the first rows are the others. -/
theorem rowsBetween_after {rows first second : List A} {last : A} {upper : K} (keyed : Keyed key rows)
    (parts : sortBy key rows = first ++ second) (ends : first.getLast? = some last) (below : ∀ row ∈ rows, key row ≤ upper) :
    rowsBetween key (key last) upper rows = second := by
  have distinct : rows.Nodup := List.Nodup.of_map key keyed
  have apart : Separates key rows := fun left leftMember right rightMember equal =>
    inj_on_of_nodup_map keyed leftMember rightMember equal
  have sorted : Increasing key (first ++ second) := by
    rw [← parts]
    exact sortBy_increasing distinct apart
  have chosen : (rows.filter fun row => decide (key last < key row ∧ key row ≤ upper)) =
      rows.filter fun row => decide (key last < key row) := by
    refine filter_congr fun row member => ?_
    rw [decide_eq_decide]
    exact and_iff_left (below row member)
  rw [rowsBetween, chosen, sortBy_filter (fun row => decide (key last < key row)) distinct apart, parts]
  exact itemsAfter_of_append sorted ends

end CiCoordinator.Library

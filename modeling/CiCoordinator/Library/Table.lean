import Mathlib.Algebra.BigOperators.Group.List.Basic
import Mathlib.Algebra.Order.BigOperators.Group.List
import Mathlib.Algebra.Order.Group.Nat
import Mathlib.Algebra.GroupWithZero.Nat
import Mathlib.Data.List.Perm.Subperm
import Mathlib.Data.List.Nodup

/- Tables of keyed rows, the statements that change them and the totals over their rows. -/

namespace CiCoordinator.Library

open List

variable {R K : Type}

/-- The total weight of the chosen rows. -/
def total (weight : R → Nat) (chosen : R → Prop) [DecidablePred chosen] (rows : List R) : Nat :=
  ((rows.filter fun row => decide (chosen row)).map weight).sum

/-- The rows that are kept by a deletion. -/
def deleteWhere (chosen : R → Prop) [DecidablePred chosen] (rows : List R) : List R :=
  rows.filter fun row => decide (¬ chosen row)

def updateWhere (chosen : R → Prop) [DecidablePred chosen] (change : R → R) (rows : List R) : List R :=
  rows.map fun row => if chosen row then change row else row

/-- An insertion of rows that takes the place of the rows with their keys. -/
def upsertRows [DecidableEq K] (key : R → K) (rows added : List R) : List R :=
  deleteWhere (fun row => key row ∈ added.map key) rows ++ added

/-- The rows of a table have keys of their own. -/
def Keyed (key : R → K) (rows : List R) : Prop :=
  (rows.map key).Nodup

section Totals

variable {weight : R → Nat} {chosen other : R → Prop} [DecidablePred chosen] [DecidablePred other] {rows : List R}

@[simp] theorem total_nil : total weight chosen [] = 0 := rfl

@[simp] theorem total_append {added : List R} :
    total weight chosen (rows ++ added) = total weight chosen rows + total weight chosen added := by
  simp [total]

@[simp] theorem total_cons {row : R} :
    total weight chosen (row :: rows) = (if chosen row then weight row else 0) + total weight chosen rows := by
  by_cases member : chosen row
  · simp [total, member]
  · simp [total, member]

theorem total_congr {weight' : R → Nat} (same : ∀ row ∈ rows, (chosen row ↔ other row) ∧
    (chosen row → weight row = weight' row)) : total weight chosen rows = total weight' other rows := by
  induction rows with
  | nil => rfl
  | cons row rest ih =>
    have tail := ih fun row member => same row (mem_cons_of_mem _ member)
    obtain ⟨choice, weighs⟩ := same row mem_cons_self
    rw [total_cons, total_cons, tail]
    by_cases member : chosen row
    · rw [if_pos member, if_pos (choice.mp member), weighs member]
    · rw [if_neg member, if_neg fun found => member (choice.mpr found)]

/-- Rows that are not chosen weigh nothing. -/
theorem total_eq_zero (unchosen : ∀ row ∈ rows, ¬ chosen row) : total weight chosen rows = 0 := by
  rw [total, filter_eq_nil_iff.mpr (by simpa using unchosen)]
  rfl

/-- All rows of a part are chosen. -/
theorem total_eq_sum (all : ∀ row ∈ rows, chosen row) : total weight chosen rows = (rows.map weight).sum := by
  rw [total, filter_eq_self.mpr (by simpa using all)]

/-- A deletion takes away the weight of the deleted rows. -/
theorem total_deleteWhere [DecidablePred fun row => chosen row ∧ other row] :
    total weight chosen (deleteWhere other rows) + total weight (fun row => chosen row ∧ other row) rows =
      total weight chosen rows := by
  induction rows with
  | nil => rfl
  | cons row rest ih =>
    rw [total_cons, total_cons, ← ih]
    by_cases deleted : other row
    · rw [deleteWhere, filter_cons_of_neg (by simpa using deleted), ← deleteWhere]
      by_cases member : chosen row
      · rw [if_pos ⟨member, deleted⟩, if_pos member]
        omega
      · rw [if_neg fun both => member both.1, if_neg member]
        omega
    · have kept : ¬ (chosen row ∧ other row) := fun both => deleted both.2
      rw [deleteWhere, filter_cons_of_pos (by simpa using deleted), ← deleteWhere, total_cons, if_neg kept]
      omega

/-- A part of the chosen rows weighs no more. -/
theorem total_mono (fewer : ∀ row ∈ rows, chosen row → other row) : total weight chosen rows ≤ total weight other rows := by
  induction rows with
  | nil => exact le_rfl
  | cons row rest ih =>
    have tail := ih fun row member => fewer row (mem_cons_of_mem _ member)
    rw [total_cons, total_cons]
    by_cases member : chosen row
    · rw [if_pos member, if_pos (fewer row mem_cons_self member)]
      omega
    · rw [if_neg member]
      omega

/-- An update that keeps the choice and the weights keeps the total. -/
theorem total_updateWhere {change : R → R} (choice : ∀ row, chosen (change row) ↔ chosen row)
    (weighs : ∀ row, weight (change row) = weight row) :
    total weight chosen (updateWhere other change rows) = total weight chosen rows := by
  induction rows with
  | nil => rfl
  | cons row rest ih =>
    rw [updateWhere, map_cons, ← updateWhere, total_cons, total_cons, ih]
    by_cases changed : other row
    · simp only [if_pos changed, choice, weighs]
    · rw [if_neg changed]

/-- An update that keeps the choice exchanges the weights of the updated rows. -/
theorem total_updateWhere_change {change : R → R} (choice : ∀ row, chosen (change row) ↔ chosen row) :
    total weight chosen (updateWhere other change rows) + total weight (fun row => chosen row ∧ other row) rows =
      total weight chosen rows + total (fun row => weight (change row)) (fun row => chosen row ∧ other row) rows := by
  induction rows with
  | nil => rfl
  | cons row rest ih =>
    rw [updateWhere, map_cons, ← updateWhere, total_cons, total_cons, total_cons, total_cons]
    by_cases changed : other row
    · by_cases member : chosen row
      · simp only [if_pos changed, if_pos ((choice row).mpr member), if_pos member,
          if_pos (show chosen row ∧ other row from ⟨member, changed⟩)]
        omega
      · have unchosen : ¬ (chosen row ∧ other row) := fun both => member both.1
        simp only [if_pos changed, if_neg fun found => member ((choice row).mp found), if_neg member, if_neg unchosen]
        omega
    · have kept : ¬ (chosen row ∧ other row) := fun both => changed both.2
      simp only [if_neg changed, if_neg kept]
      omega

theorem total_map {change : R → R} (choice : ∀ row, chosen (change row) ↔ chosen row)
    (weighs : ∀ row, weight (change row) = weight row) : total weight chosen (rows.map change) = total weight chosen rows := by
  induction rows with
  | nil => rfl
  | cons row rest ih => simp only [map_cons, total_cons, ih, choice, weighs]

/-- A chosen row weighs no more than the total. -/
theorem weight_le_total {row : R} (member : row ∈ rows) (picked : chosen row) : weight row ≤ total weight chosen rows :=
  le_sum_of_mem (mem_map_of_mem (mem_filter.mpr ⟨member, by simpa using picked⟩))

/-- The rows that differ in their keys from a row do not change when the row is updated. -/
theorem total_single {key : R → K} (keyed : Keyed key rows) {row : R} (member : row ∈ rows)
    (alone : ∀ found ∈ rows, chosen found ↔ key found = key row) : total weight chosen rows = weight row := by
  induction rows with
  | nil => cases member
  | cons head rest ih =>
    obtain ⟨fresh, distinct⟩ := nodup_cons.mp keyed
    rw [total_cons]
    rcases mem_cons.mp member with rfl | later
    · rw [if_pos ((alone _ mem_cons_self).mpr rfl), total_eq_zero, Nat.add_zero]
      intro found inside picked
      have same := (alone found (mem_cons_of_mem _ inside)).mp picked
      exact fresh (same ▸ mem_map_of_mem inside)
    · rw [if_neg, Nat.zero_add, ih distinct later fun found inside => alone found (mem_cons_of_mem _ inside)]
      intro picked
      have same := (alone head mem_cons_self).mp picked
      exact fresh (same ▸ mem_map_of_mem later)

end Totals

/-- Sequences with the same images have the same sum over the images. -/
theorem sum_eq_of_images {T : Type} {image : R → T} {weight : T → Nat} {first second : List R}
    (firstDistinct : (first.map image).Nodup) (secondDistinct : (second.map image).Nodup)
    (same : ∀ value, value ∈ first.map image ↔ value ∈ second.map image) :
    (first.map fun row => weight (image row)).sum = (second.map fun row => weight (image row)).sum := by
  have perm := (perm_ext_iff_of_nodup firstDistinct secondDistinct).mpr same
  have sums := (perm.map weight).sum_eq
  rw [map_map, map_map] at sums
  exact sums

/-- The rows that are chosen and the others add up. -/
theorem sum_filter_add (weight : R → Nat) (chosen : R → Prop) [DecidablePred chosen] (rows : List R) :
    ((rows.filter fun row => decide (chosen row)).map weight).sum +
        ((rows.filter fun row => decide (¬ chosen row)).map weight).sum = (rows.map weight).sum := by
  induction rows with
  | nil => rfl
  | cons row rest ih =>
    by_cases member : chosen row
    · simp only [filter_cons, member, decide_true, if_true, not_true, decide_false, map_cons, sum_cons, ← ih]
      simp [Nat.add_assoc]
    · simp only [filter_cons, member, decide_false, not_false_iff, decide_true, if_true, map_cons, sum_cons, ← ih]
      simp [Nat.add_left_comm]

section Keys

variable {key : R → K} {rows added : List R} {chosen : R → Prop} [DecidablePred chosen]

theorem mem_deleteWhere {row : R} : row ∈ deleteWhere chosen rows ↔ row ∈ rows ∧ ¬ chosen row := by
  simp [deleteWhere]

theorem Keyed.deleteWhere (keyed : Keyed key rows) : Keyed key (deleteWhere chosen rows) :=
  keyed.sublist (filter_sublist.map key)

theorem Keyed.updateWhere {change : R → R} (keyed : Keyed key rows) (same : ∀ row, chosen row → key (change row) = key row) :
    Keyed key (updateWhere chosen change rows) := by
  have keys : (Library.updateWhere chosen change rows).map key = rows.map key := by
    rw [Library.updateWhere, map_map]
    refine map_congr_left fun row _ => ?_
    by_cases changed : chosen row
    · simp only [Function.comp_apply, if_pos changed, same row changed]
    · simp only [Function.comp_apply, if_neg changed]
  rw [Keyed, keys]
  exact keyed

theorem Keyed.insert {row : R} (keyed : Keyed key rows) (fresh : ∀ found ∈ rows, key found ≠ key row) :
    Keyed key (rows ++ [row]) := by
  rw [Keyed, map_append, nodup_append]
  refine ⟨keyed, nodup_singleton _, ?_⟩
  intro first member second last same
  obtain ⟨found, inside, rfl⟩ := mem_map.mp member
  rw [map_singleton, mem_singleton] at last
  exact fresh found inside (same.trans last)

theorem mem_upsertRows [DecidableEq K] {row : R} :
    row ∈ upsertRows key rows added ↔ (row ∈ rows ∧ key row ∉ added.map key) ∨ row ∈ added := by
  rw [upsertRows, mem_append, mem_deleteWhere]

/-- An upsert exchanges the weight of the replaced rows for the one of the added rows. -/
theorem total_upsertRows [DecidableEq K] {weight : R → Nat} [DecidablePred fun row => chosen row ∧ key row ∈ added.map key] :
    total weight chosen (upsertRows key rows added) +
        total weight (fun row => chosen row ∧ key row ∈ added.map key) rows =
      total weight chosen rows + total weight chosen added := by
  have deleted := @total_deleteWhere R weight chosen (fun row => key row ∈ added.map key) _ _ rows _
  rw [Library.upsertRows, total_append]
  omega

theorem Keyed.upsertRows [DecidableEq K] (keyed : Keyed key rows) (distinct : Keyed key added) :
    Keyed key (upsertRows key rows added) := by
  rw [Keyed, Library.upsertRows, map_append, nodup_append]
  refine ⟨keyed.deleteWhere, distinct, ?_⟩
  intro first member second last same
  obtain ⟨found, inside, rfl⟩ := mem_map.mp member
  exact (mem_deleteWhere.mp inside).2 (same ▸ last)

/-- A key names one row. -/
theorem Keyed.eq_of_key {first second : R} (keyed : Keyed key rows) (inside : first ∈ rows) (member : second ∈ rows)
    (same : key first = key second) : first = second :=
  inj_on_of_nodup_map keyed inside member same

theorem mem_updateWhere {change : R → R} {row : R} : row ∈ updateWhere chosen change rows ↔
      (row ∈ rows ∧ ¬ chosen row) ∨ ∃ prior ∈ rows, chosen prior ∧ change prior = row := by
  rw [updateWhere, mem_map]
  constructor
  · rintro ⟨prior, member, rfl⟩
    by_cases changed : chosen prior
    · exact .inr ⟨prior, member, changed, (if_pos changed).symm⟩
    · rw [if_neg changed]
      exact .inl ⟨member, changed⟩
  · rintro (⟨member, kept⟩ | ⟨prior, member, changed, rfl⟩)
    · exact ⟨row, member, if_neg kept⟩
    · exact ⟨prior, member, if_pos changed⟩

end Keys

section Elsewhere

variable {key : R → K} {rows added : List R} {chosen other : R → Prop} [DecidablePred chosen] [DecidablePred other]

/-- A deletion of other rows keeps the chosen ones. -/
theorem filter_deleteWhere (apart : ∀ row, chosen row → ¬ other row) :
    ((deleteWhere other rows).filter fun row => decide (chosen row)) = rows.filter fun row => decide (chosen row) := by
  rw [deleteWhere, filter_filter]
  refine filter_congr fun row _ => ?_
  by_cases member : chosen row
  · simp [member, apart row member]
  · simp [member]

/-- An update of other rows keeps the chosen ones. -/
theorem filter_updateWhere {change : R → R} (apart : ∀ row, other row → ¬ chosen row ∧ ¬ chosen (change row)) :
    ((updateWhere other change rows).filter fun row => decide (chosen row)) = rows.filter fun row => decide (chosen row) := by
  induction rows with
  | nil => rfl
  | cons row rest ih =>
    rw [updateWhere, map_cons, ← updateWhere]
    by_cases changed : other row
    · obtain ⟨before, after⟩ := apart row changed
      rw [if_pos changed, filter_cons_of_neg (by simpa using after), filter_cons_of_neg (by simpa using before), ih]
    · rw [if_neg changed]
      simp only [filter_cons, ih]

/-- An upsert of other rows keeps the chosen ones. -/
theorem filter_upsertRows [DecidableEq K] (apart : ∀ row ∈ added, ¬ chosen row)
    (replaced : ∀ row, key row ∈ added.map key → ¬ chosen row) :
    ((upsertRows key rows added).filter fun row => decide (chosen row)) = rows.filter fun row => decide (chosen row) := by
  have inserted : (added.filter fun row => decide (chosen row)) = [] :=
    filter_eq_nil_iff.mpr (by simpa using apart)
  rw [upsertRows, filter_append, filter_deleteWhere fun row member listed => replaced row listed member, inserted, append_nil]

/-- A change of other rows keeps the chosen ones. -/
theorem filter_map_apart {change : R → R} (choice : ∀ row, chosen (change row) ↔ chosen row)
    (apart : ∀ row, chosen row → change row = row) :
    ((rows.map change).filter fun row => decide (chosen row)) = rows.filter fun row => decide (chosen row) := by
  induction rows with
  | nil => rfl
  | cons row rest ih =>
    by_cases member : chosen row
    · rw [map_cons, apart row member, filter_cons_of_pos (by simpa using member), filter_cons_of_pos (by simpa using member), ih]
    · rw [map_cons, filter_cons_of_neg (by simpa [choice] using member), filter_cons_of_neg (by simpa using member), ih]

end Elsewhere

end CiCoordinator.Library

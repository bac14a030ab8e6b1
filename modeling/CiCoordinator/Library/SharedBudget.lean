import Mathlib.Algebra.BigOperators.Group.List.Basic
import Mathlib.Algebra.Order.BigOperators.Group.List
import Mathlib.Algebra.Order.Ring.Int
import Mathlib.Logic.Relation

/- A budget that is held in shares, and the balance that its steps keep. -/

namespace CiCoordinator.Library

open List

/-- A share holds its weight until it is given back. -/
class Share (S : Type) where
  weight : S → Int
  released : S → Bool

namespace Share

variable {S : Type} [Share S]

def live (share : S) : Bool :=
  !released share

def held (share : S) : Int :=
  if live share then weight share else 0

theorem live_eq_true {share : S} : live share = true ↔ released share = false := by
  rw [live, Bool.not_eq_true']

theorem live_eq_false {share : S} : live share = false ↔ released share = true := by
  rw [live, Bool.not_eq_false']

end Share

/-- A budget counts what its shares hold. -/
structure Budget (S : Type) where
  maximum : Int
  retained : Int
  active : Int
  shares : List S

namespace Budget

open Share

variable {S : Type} [Share S] {budget next : Budget S} {index : Nat} {share old new : S}

inductive Step (budget : Budget S) : Budget S → Prop
  | take {share : S} (fresh : live share = true) (positive : 0 ≤ weight share)
      (fits : budget.retained + weight share ≤ budget.maximum) :
      Step budget ⟨budget.maximum, budget.retained + weight share, budget.active + 1, budget.shares ++ [share]⟩
  | grow {index : Nat} {old new : S} {delta : Int} (found : budget.shares[index]? = some old) (before : live old = true)
      (after : live new = true) (weighs : weight new = weight old + delta) (positive : 0 ≤ delta)
      (fits : budget.retained + delta ≤ budget.maximum) :
      Step budget ⟨budget.maximum, budget.retained + delta, budget.active, budget.shares.set index new⟩
  | giveBack {index : Nat} {old new : S} (found : budget.shares[index]? = some old) (before : live old = true)
      (after : live new = false) :
      Step budget ⟨budget.maximum, budget.retained - weight old, budget.active - 1, budget.shares.set index new⟩

structure Balanced (budget : Budget S) : Prop where
  retained : budget.retained = (budget.shares.map held).sum
  active : budget.active = budget.shares.countP live
  bounded : budget.retained ≤ budget.maximum
  weights : ∀ share ∈ budget.shares, 0 ≤ held share

theorem balanced_empty {maximum : Int} (positive : 0 ≤ maximum) : (⟨maximum, 0, 0, []⟩ : Budget S).Balanced :=
  ⟨rfl, rfl, positive, nofun⟩

theorem held_set {shares : List S} (found : shares[index]? = some old) :
    ((shares.set index new).map held).sum = (shares.map held).sum + (held new - held old) := by
  obtain ⟨inside, rfl⟩ := List.getElem?_eq_some_iff.mp found
  rw [map_set, sum_set', dif_pos (by rwa [length_map]), getElem_map, neg_add_eq_sub]

theorem live_set {shares : List S} (found : shares[index]? = some old) (before : live old = true) :
    ((shares.set index new).countP live : Int) = shares.countP live - (if live new then 0 else 1) := by
  obtain ⟨inside, rfl⟩ := List.getElem?_eq_some_iff.mp found
  have counted := countP_pos_iff.mpr ⟨_, getElem_mem inside, before⟩
  rw [countP_set inside, if_pos before]
  split <;> omega

theorem Step.balanced (step : Step budget next) (balanced : budget.Balanced) : next.Balanced := by
  obtain ⟨retained, active, bounded, weights⟩ := balanced
  have replaced {index : Nat} {new : S} (positive : 0 ≤ held new) : ∀ share ∈ budget.shares.set index new, 0 ≤ held share := by
    intro share member
    rcases mem_or_eq_of_mem_set member with earlier | rfl
    · exact weights share earlier
    · exact positive
  cases step with
  | take fresh positive fits =>
    refine ⟨by simp [retained, held, fresh], by simp [active, fresh], fits, ?_⟩
    intro share member
    rcases mem_append.mp member with earlier | here
    · exact weights share earlier
    · rw [mem_singleton.mp here, held, if_pos fresh]
      exact positive
  | grow found before after weighs positive fits =>
    have nonnegative := weights _ (mem_of_getElem? found)
    rw [held, if_pos before] at nonnegative
    refine ⟨?_, ?_, fits, replaced ?_⟩
    · rw [held_set found, held, held, if_pos before, if_pos after, retained, weighs, add_sub_cancel_left]
    · rw [live_set found before, if_pos after, active, sub_zero]
    · rw [held, if_pos after, weighs]
      exact Int.add_nonneg nonnegative positive
  | giveBack found before after =>
    have positive := weights _ (mem_of_getElem? found)
    rw [held, if_pos before] at positive
    refine ⟨?_, ?_, (Int.sub_le_self _ positive).trans bounded, replaced ?_⟩
    · rw [held_set found, held, held, if_pos before, after, if_neg Bool.false_ne_true, retained, zero_sub, sub_eq_add_neg]
    · rw [live_set found before, after, if_neg Bool.false_ne_true, active]
    · rw [held, after, if_neg Bool.false_ne_true]

/-- A share that was given back stays so. -/
theorem Step.stays (step : Step budget next) (found : budget.shares[index]? = some share) (released : live share = false) :
    next.shares[index]? = some share := by
  have untouched {other : Nat} {old new : S} (there : budget.shares[other]? = some old) (before : live old = true) :
      (budget.shares.set other new)[index]? = some share := by
    have apart : other ≠ index := by
      rintro rfl
      rw [Option.some.inj (found.symm.trans there), before] at released
      cases released
    rw [getElem?_set_ne apart, found]
  cases step with
  | take => exact (getElem?_append_left (List.getElem?_eq_some_iff.mp found).1).trans found
  | grow there before => exact untouched there before
  | giveBack there before => exact untouched there before

theorem balanced_of_steps (steps : Relation.ReflTransGen Step budget next) (balanced : budget.Balanced) :
    next.Balanced ∧ next.maximum = budget.maximum := by
  induction steps with
  | refl => exact ⟨balanced, rfl⟩
  | tail _ step ih => exact ⟨step.balanced ih.1, Eq.trans (by cases step <;> rfl) ih.2⟩

theorem stays_of_steps (steps : Relation.ReflTransGen Step budget next) (found : budget.shares[index]? = some share)
    (released : live share = false) : next.shares[index]? = some share := by
  induction steps with
  | refl => exact found
  | tail _ step ih => exact step.stays ih released

/-- A live share is covered by what the budget counts. -/
theorem Balanced.covers (balanced : budget.Balanced) (member : share ∈ budget.shares) (fresh : live share = true) :
    weight share ≤ budget.retained ∧ 1 ≤ budget.active := by
  have single := single_le_sum (forall_mem_map.mpr balanced.weights) _ (mem_map_of_mem member)
  have counted := countP_pos_iff.mpr ⟨_, member, fresh⟩
  rw [held, if_pos fresh] at single
  rw [balanced.retained, balanced.active]
  exact ⟨single, by omega⟩

end Budget

end CiCoordinator.Library

import Mathlib.Algebra.BigOperators.Group.List.Basic
import Mathlib.Algebra.GroupWithZero.Nat
import Mathlib.Algebra.Order.Group.Int
import Mathlib.Data.List.Nodup
import Mathlib.Tactic.Common

/- The allocation of slots to claimants in rounds of one slot each. -/

namespace CiCoordinator.Library

open List

variable {A : Type} [DecidableEq A]

/-- Each claimant receives one slot, from first to last, as long as slots remain. -/
def handOut (claimants : List A) (remaining : Nat) (slots : A → Nat) (claimant : A) : Nat :=
  if claimant ∈ claimants.take remaining then slots claimant + 1 else slots claimant

/-- What holds after every round: all slots are accounted for, nobody has more than the larger of one and the
demand, and the claimants below their demand are level, up to the last slots. -/
structure FairlyAllotted (claimants : List A) (demand : A → Int) (total : Nat) (slots : A → Nat) (remaining : Nat) :
    Prop where
  accounted : (claimants.map slots).sum + remaining = total
  bounded : ∀ claimant ∈ claimants, (slots claimant : Int) ≤ max 1 (demand claimant)
  level : ∃ height, ∀ claimant ∈ claimants, (slots claimant : Int) < demand claimant →
    height ≤ slots claimant ∧ slots claimant ≤ height + 1 ∧ (0 < remaining → slots claimant = height)

theorem handOut_le {claimants : List A} {remaining : Nat} {slots : A → Nat} {claimant : A} :
    slots claimant ≤ handOut claimants remaining slots claimant ∧
      handOut claimants remaining slots claimant ≤ slots claimant + 1 := by
  unfold handOut
  split <;> omega

/-- The slots that a round hands out are as many as the claimants that it reaches. -/
theorem sum_handOut {claimants chosen : List A} (distinct : claimants.Nodup) (included : chosen.Sublist claimants)
    {remaining : Nat} {slots : A → Nat} :
    (claimants.map (handOut chosen remaining slots)).sum = (claimants.map slots).sum + min remaining chosen.length := by
  have split : claimants.map (handOut chosen remaining slots) =
      claimants.map fun claimant => slots claimant + if claimant ∈ chosen.take remaining then 1 else 0 := by
    refine map_congr_left fun claimant _ => ?_
    unfold handOut
    split <;> rfl
  have reached : (claimants.filter fun claimant => claimant ∈ chosen.take remaining).Perm (chosen.take remaining) := by
    have taken : (chosen.take remaining).Sublist claimants := (take_sublist _ _).trans included
    refine (perm_ext_iff_of_nodup (distinct.filter _) (distinct.sublist taken)).mpr fun claimant => ?_
    simp only [mem_filter, decide_eq_true_eq, and_iff_right_iff_imp]
    exact fun member => taken.subset member
  have counted : (claimants.map fun claimant => if claimant ∈ chosen.take remaining then 1 else 0).sum =
      min remaining chosen.length := by
    rw [← length_take, ← reached.length_eq]
    clear split reached distinct included
    induction claimants with
    | nil => rfl
    | cons claimant rest ih =>
      by_cases member : claimant ∈ chosen.take remaining
      · simp [member, ih, Nat.add_comm]
      · simp [member, ih]
  rw [split, sum_map_add, counted]

namespace FairlyAllotted

variable {claimants : List A} {demand : A → Int} {total remaining : Nat} {slots : A → Nat}

omit [DecidableEq A] in
theorem start : FairlyAllotted claimants demand total (fun _ => 0) total where
  accounted := by simp
  bounded := fun claimant _ => by
    omega
  level := ⟨0, fun claimant _ _ => ⟨le_rfl, Nat.zero_le _, fun _ => rfl⟩⟩

section

variable (fair : FairlyAllotted claimants demand total slots remaining)
include fair

/-- A round that reaches everybody below the demand, and nobody who must not have one more slot, keeps the
allocation fair. -/
theorem handOut (distinct : claimants.Nodup) {chosen : List A} (included : chosen.Sublist claimants)
    (needy : ∀ claimant ∈ claimants, (slots claimant : Int) < demand claimant → claimant ∈ chosen)
    (allowed : ∀ claimant ∈ chosen, (slots claimant : Int) + 1 ≤ max 1 (demand claimant)) :
    FairlyAllotted claimants demand total (Library.handOut chosen remaining slots) (remaining - chosen.length) where
  accounted := by
    have before := fair.accounted
    rw [sum_handOut distinct included]
    omega
  bounded := fun claimant member => by
    unfold Library.handOut
    split
    · rename_i reached
      have limit := allowed claimant (mem_of_mem_take reached)
      exact limit
    · exact fair.bounded claimant member
  level := by
    obtain ⟨height, levels⟩ := fair.level
    by_cases exhausted : remaining ≤ chosen.length
    · refine ⟨height, fun claimant member below => ?_⟩
      have grown := @handOut_le A _ chosen remaining slots claimant
      obtain ⟨atLeast, atMost, exactly⟩ := levels claimant member (by omega)
      refine ⟨by omega, ?_, by omega⟩
      rcases Nat.eq_zero_or_pos remaining with none | some
      · subst none
        have same : Library.handOut chosen 0 slots claimant = slots claimant := by simp [Library.handOut]
        omega
      · omega
    · refine ⟨height + 1, fun claimant member below => ?_⟩
      have grown := @handOut_le A _ chosen remaining slots claimant
      have needs : (slots claimant : Int) < demand claimant := by omega
      obtain ⟨_, _, exactly⟩ := levels claimant member needs
      have served : Library.handOut chosen remaining slots claimant = slots claimant + 1 := by
        rw [Library.handOut, take_of_length_le (by omega), if_pos (needy claimant member needs)]
      omega

omit [DecidableEq A] in
/-- Two claimants below their demand differ by at most one slot. -/
theorem level_pair {first second : A} (firstMember : first ∈ claimants) (secondMember : second ∈ claimants)
    (firstBelow : (slots first : Int) < demand first) (secondBelow : (slots second : Int) < demand second) :
    slots first ≤ slots second + 1 := by
  obtain ⟨height, levels⟩ := fair.level
  have upper := (levels first firstMember firstBelow).2.1
  have lower := (levels second secondMember secondBelow).1
  omega

end

end FairlyAllotted

end CiCoordinator.Library

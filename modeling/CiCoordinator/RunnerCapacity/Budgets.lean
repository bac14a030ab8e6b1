import CiCoordinator.RunnerCapacity.PlanFacts

/- Every profile has a budget. -/

namespace CiCoordinator.RunnerCapacity

open Library Kernel ValidationContract Dictionary List

section Budgets

variable {manifest : TestManifest} {snapshot : RunnerSnapshot} {profiles : List ExecutionProfile}

theorem mem_keys_allocateEach {give : Nat → Nat} {key : Text} (state : Dictionary Text Nat × Nat)
    (listed : key ∈ state.1.keys) : key ∈ (allocateEach give profiles state).1.keys := by
  induction profiles generalizing state with
  | nil => exact listed
  | cons profile rest ih =>
    obtain ⟨allocated, remaining⟩ := state
    rw [allocateEach]
    split
    · exact listed
    · exact ih _ (mem_keys_assign.mpr (.inr listed))

theorem mem_keys_allocateRounds {key : Text} (fuel : Nat) (state : Dictionary Text Nat × Nat)
    (listed : key ∈ state.1.keys) : key ∈ (allocateRounds manifest profiles fuel state).keys := by
  induction fuel generalizing state with
  | zero => exact listed
  | succ fuel ih =>
    obtain ⟨allocated, remaining⟩ := state
    simp only [allocateRounds]
    split
    · exact listed
    · exact ih _ (mem_keys_allocateEach _ listed)

theorem mem_classBudgets {capacityClassId : Text} {profile : ExecutionProfile} (member : profile ∈ profiles) :
    profile.profileId ∈ (classBudgets manifest snapshot capacityClassId profiles).map Prod.fst := by
  unfold classBudgets
  split
  · rw [map_map]
    exact mem_map.mpr ⟨profile, member, rfl⟩
  · rw [map_map]
    refine mem_keys_allocateRounds _ _ (mem_keys_allocateEach _ ?_)
    rw [mem_keys_comprehend, map_map]
    exact mem_map.mpr ⟨profile, member, rfl⟩

/-- Every profile has a budget. -/
theorem profileCapacityBudgets_total (manifest : TestManifest) (snapshot : RunnerSnapshot) {profile : ExecutionProfile} (member : profile ∈ profiles) :
    ∃ freeSlots, (profileCapacityBudgets manifest snapshot profiles).get? profile.profileId = some freeSlots := by
  rw [← mem_keys_iff, profileCapacityBudgets, mem_keys_updates]
  have inside : profile ∈ valuesOf profile.capacityClassId (profiles.map fun profile => (profile.capacityClassId, profile)) :=
    mem_valuesOf.mpr (mem_map.mpr ⟨profile, member, rfl⟩)
  have found := Dictionary.get?_group.mpr ⟨rfl, ne_nil_of_mem inside⟩
  exact .inr ⟨_, Dictionary.get?_eq_some_iff.mp found, mem_classBudgets inside⟩

end Budgets

end CiCoordinator.RunnerCapacity

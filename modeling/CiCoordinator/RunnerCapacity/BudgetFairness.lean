import CiCoordinator.Library.RoundRobin
import CiCoordinator.RunnerCapacity.Budgets

/- The proof that the slots of a capacity class are shared fairly among its profiles. -/

namespace CiCoordinator.RunnerCapacity

open Library ValidationContract Dictionary List

/-- The slots that a table gives to a profile. -/
def slotsOf (allocated : Dictionary Text Nat) (profile : ExecutionProfile) : Nat :=
  (allocated.get? profile.profileId).getD 0

/-- The profiles of a capacity class. -/
def sharing (profiles : List ExecutionProfile) (capacityClassId : Text) : List ExecutionProfile :=
  profiles.filter fun profile => profile.capacityClassId = capacityClassId

section Rounds

variable {profiles chosen : List ExecutionProfile} {give : Nat → Nat} {manifest : TestManifest}

theorem remaining_after (state : Dictionary Text Nat × Nat) : (allocateEach give chosen state).2 = state.2 - chosen.length := by
  induction chosen generalizing state with
  | nil => rfl
  | cons profile rest ih =>
    obtain ⟨allocated, remaining⟩ := state
    rw [allocateEach]
    split
    · rename_i none
      simp [none]
    · rw [ih, length_cons]
      omega

/-- A pass gives to the profiles that it reaches and to no other. -/
theorem slotsOf_allocateEach (distinct : (profiles.map (·.profileId)).Nodup)
    (included : chosen.Sublist profiles) (state : Dictionary Text Nat × Nat) {profile : ExecutionProfile}
    (member : profile ∈ profiles) :
    slotsOf (allocateEach give chosen state).1 profile =
      if profile ∈ chosen.take state.2 then give (slotsOf state.1 profile) else slotsOf state.1 profile := by
  induction chosen generalizing state with
  | nil => simp [allocateEach]
  | cons first rest ih =>
    obtain ⟨allocated, remaining⟩ := state
    have tail : rest.Sublist profiles := (sublist_cons_self _ _).trans included
    have absent : first ∉ rest := (nodup_cons.mp ((List.Nodup.of_map _ distinct).sublist included)).1
    rw [allocateEach]
    split
    · rename_i none
      simp [none]
    · rename_i some
      obtain ⟨remaining, rfl⟩ := Nat.exists_eq_succ_of_ne_zero some
      rw [ih tail]
      simp only [take_succ_cons, mem_cons, Nat.succ_sub_one]
      by_cases same : profile = first
      · subst same
        have skipped : profile ∉ rest.take remaining := fun reached => absent (mem_of_mem_take reached)
        simp [slotsOf, skipped]
      · have otherId : profile.profileId ≠ first.profileId := fun equal =>
          same (inj_on_of_nodup_map distinct member (included.subset mem_cons_self) equal)
        simp [slotsOf, same, otherId]

theorem mem_keys_of_allocateEach {key : Text} (state : Dictionary Text Nat × Nat)
    (listed : key ∈ (allocateEach give chosen state).1.keys) :
    key ∈ state.1.keys ∨ ∃ profile ∈ chosen, profile.profileId = key := by
  induction chosen generalizing state with
  | nil => exact .inl listed
  | cons first rest ih =>
    obtain ⟨allocated, remaining⟩ := state
    rw [allocateEach] at listed
    split at listed
    · exact .inl listed
    · rcases ih _ listed with before | ⟨profile, member, same⟩
      · rcases mem_keys_assign.mp before with named | before
        · exact .inr ⟨first, mem_cons_self, named.symm⟩
        · exact .inl before
      · exact .inr ⟨profile, mem_cons_of_mem _ member, same⟩

theorem mem_keys_of_allocateRounds {key : Text} (fuel : Nat) (state : Dictionary Text Nat × Nat)
    (listed : key ∈ (allocateRounds manifest profiles fuel state).keys) :
    key ∈ state.1.keys ∨ ∃ profile ∈ profiles, profile.profileId = key := by
  induction fuel generalizing state with
  | zero => exact .inl listed
  | succ fuel ih =>
    obtain ⟨allocated, remaining⟩ := state
    simp only [allocateRounds] at listed
    split at listed
    · exact .inl listed
    · rcases ih _ listed with before | known
      · rcases mem_keys_of_allocateEach _ before with before | ⟨profile, member, same⟩
        · exact .inl before
        · exact .inr ⟨profile, mem_of_mem_filter member, same⟩
      · exact .inr known

theorem FairlyAllotted.congr {demand : ExecutionProfile → Int} {total remaining : Nat} {slots other : ExecutionProfile → Nat}
    (fair : FairlyAllotted profiles demand total slots remaining) (same : ∀ profile ∈ profiles, other profile = slots profile) :
    FairlyAllotted profiles demand total other remaining where
  accounted := by
    rw [map_congr_left same]
    exact fair.accounted
  bounded := fun profile member => by
    rw [same profile member]
    exact fair.bounded profile member
  level := by
    obtain ⟨height, levels⟩ := fair.level
    refine ⟨height, fun profile member below => ?_⟩
    rw [same profile member] at below ⊢
    exact levels profile member below

/-- The first pass gives one slot to every profile that it reaches. -/
theorem firstPass_fair (distinct : (profiles.map (·.profileId)).Nodup) (freeSlots : Nat)
    {initial : Dictionary Text Nat} (zero : ∀ profile ∈ profiles, slotsOf initial profile = 0) :
    let first := allocateEach (fun _ => 1) profiles (initial, freeSlots)
    FairlyAllotted profiles (profileParallelDemand manifest) freeSlots (slotsOf first.1) first.2 := by
  intro first
  rw [show first.2 = freeSlots - profiles.length from remaining_after _]
  refine FairlyAllotted.congr (FairlyAllotted.start.handOut (List.Nodup.of_map _ distinct) (List.Sublist.refl profiles)
    (fun profile member _ => member) fun profile _ => ?_) fun profile member => ?_
  · exact le_max_left 1 _
  · rw [slotsOf_allocateEach distinct (List.Sublist.refl profiles) _ member, zero profile member]
    rfl

/-- The rounds keep the allocation fair and end when no slot remains or no profile can use one. -/
theorem allocateRounds_fair (distinct : (profiles.map (·.profileId)).Nodup) {total fuel : Nat}
    {state : Dictionary Text Nat × Nat} (enough : state.2 ≤ fuel)
    (fair : FairlyAllotted profiles (profileParallelDemand manifest) total (slotsOf state.1) state.2) :
    ∃ remaining, FairlyAllotted profiles (profileParallelDemand manifest) total
        (slotsOf (allocateRounds manifest profiles fuel state)) remaining ∧
      (remaining = 0 ∨ ∀ profile ∈ profiles,
        profileParallelDemand manifest profile ≤ slotsOf (allocateRounds manifest profiles fuel state) profile) := by
  induction fuel generalizing state with
  | zero => exact ⟨state.2, fair, .inl (Nat.le_zero.mp enough)⟩
  | succ fuel ih =>
    obtain ⟨allocated, remaining⟩ := state
    simp only [allocateRounds]
    set eligible := profiles.filter fun profile =>
      ((allocated.get? profile.profileId).getD 0 : Int) < profileParallelDemand manifest profile with eligibleDef
    have mem_eligible : ∀ profile, profile ∈ eligible ↔
        profile ∈ profiles ∧ (slotsOf allocated profile : Int) < profileParallelDemand manifest profile := by
      intro profile
      rw [eligibleDef, mem_filter, decide_eq_true_eq]
      rfl
    split
    · rename_i ended
      refine ⟨remaining, fair, ended.imp_right fun none profile member => ?_⟩
      by_contra below
      have listed := (mem_eligible profile).mpr ⟨member, not_le.mp below⟩
      rw [none] at listed
      cases listed
    · rename_i running
      have included : eligible.Sublist profiles := filter_sublist
      have served := length_pos_iff.mpr (not_or.mp running).2
      refine ih ?_ ?_
      · rw [remaining_after]
        dsimp only at enough ⊢
        omega
      · rw [remaining_after]
        refine FairlyAllotted.congr (fair.handOut (List.Nodup.of_map _ distinct) included
          (fun profile member below => (mem_eligible profile).mpr ⟨member, below⟩) fun profile member => ?_)
          fun profile member => slotsOf_allocateEach distinct included _ member
        have below := ((mem_eligible profile).mp member).2
        exact (Int.add_one_le_of_lt below).trans (le_max_right _ _)

end Rounds

section Classes

variable {manifest : TestManifest} {snapshot : RunnerSnapshot} {profiles : List ExecutionProfile}

/-- The slots of a class are shared fairly, and none is left while a profile of the class could use it. -/
theorem classBudgets_fair (manifest : TestManifest) {capacityClassId : Text} {freeSlots : Nat}
    (distinct : (profiles.map (·.profileId)).Nodup)
    (known : snapshot.freeSlotsFor capacityClassId = some freeSlots) :
    ∃ allocated : Dictionary Text Nat,
      classBudgets manifest snapshot capacityClassId profiles = (allocated.entries.map fun entry => (entry.1, some entry.2)) ∧
      (∀ key, key ∈ allocated.keys ↔ ∃ profile ∈ profiles, profile.profileId = key) ∧
      ∃ remaining, FairlyAllotted profiles (profileParallelDemand manifest) freeSlots (slotsOf allocated) remaining ∧
        (remaining = 0 ∨ ∀ profile ∈ profiles, profileParallelDemand manifest profile ≤ slotsOf allocated profile) := by
  set initial := Dictionary.comprehend (profiles.map fun profile => (profile.profileId, 0)) with initialDef
  have pairs : ((profiles.map fun profile => (profile.profileId, 0)).map Prod.fst).Nodup := by
    rw [map_map]
    exact distinct
  have zero : ∀ profile ∈ profiles, slotsOf initial profile = 0 := by
    intro profile member
    have found := Dictionary.get?_comprehend_of_mem pairs (mem_map.mpr ⟨profile, member, rfl⟩)
    rw [slotsOf, initialDef, found]
    rfl
  have first := @firstPass_fair profiles manifest distinct freeSlots initial zero
  have initialKeys : ∀ key, key ∈ initial.keys ↔ ∃ profile ∈ profiles, profile.profileId = key := by
    intro key
    rw [initialDef, mem_keys_comprehend, map_map, mem_map]
    rfl
  refine ⟨_, by unfold classBudgets; rw [known], fun key => ⟨fun listed => ?_, fun owned => ?_⟩,
    allocateRounds_fair distinct le_rfl first⟩
  · rcases mem_keys_of_allocateRounds _ _ listed with before | owned
    · rcases mem_keys_of_allocateEach _ before with before | owned
      · exact (initialKeys key).mp before
      · exact owned
    · exact owned
  · exact mem_keys_allocateRounds _ _ (mem_keys_allocateEach _ ((initialKeys key).mpr owned))

/-- The budgets of a class name its profiles and no others. -/
theorem mem_classBudgets_iff (distinct : (profiles.map (·.profileId)).Nodup) {capacityClassId key : Text} :
    key ∈ (classBudgets manifest snapshot capacityClassId profiles).map Prod.fst ↔
      ∃ profile ∈ profiles, profile.profileId = key := by
  cases known : snapshot.freeSlotsFor capacityClassId with
  | none =>
    simp only [classBudgets, known, map_map, mem_map]
    rfl
  | some freeSlots =>
    obtain ⟨allocated, equal, keys, -⟩ := classBudgets_fair manifest distinct known
    rw [equal, map_map, ← keys]
    rfl

theorem valuesOf_capacityClass (capacityClassId : Text) :
    valuesOf capacityClassId (profiles.map fun profile => (profile.capacityClassId, profile)) =
      sharing profiles capacityClassId := by
  rw [valuesOf, sharing, filter_map, map_map]
  exact map_id _

/-- Every class of the profiles has an entry, which lists the profiles of the class. -/
theorem mem_byCapacityClass {entry : Text × List ExecutionProfile} :
    entry ∈ (Dictionary.group (profiles.map fun profile => (profile.capacityClassId, profile))).entries ↔
      entry.2 = sharing profiles entry.1 ∧ entry.2 ≠ [] := by
  rw [← Dictionary.get?_eq_some_iff, Dictionary.get?_group, valuesOf_capacityClass, eq_comm]

/-- The budget of a profile is the one of its class. -/
theorem get?_profileCapacityBudgets (distinct : (profiles.map (·.profileId)).Nodup)
    {profile : ExecutionProfile} (member : profile ∈ profiles) {budget : Option Nat}
    (unique : ((classBudgets manifest snapshot profile.capacityClassId
      (sharing profiles profile.capacityClassId)).map Prod.fst).Nodup)
    (named : (profile.profileId, budget) ∈
      classBudgets manifest snapshot profile.capacityClassId (sharing profiles profile.capacityClassId)) :
    (profileCapacityBudgets manifest snapshot profiles).get? profile.profileId = some budget := by
  have inside : profile ∈ sharing profiles profile.capacityClassId := mem_filter.mpr ⟨member, by simp⟩
  have group : (profile.capacityClassId, sharing profiles profile.capacityClassId) ∈
      (Dictionary.group (profiles.map fun profile => (profile.capacityClassId, profile))).entries :=
    mem_byCapacityClass.mpr ⟨rfl, ne_nil_of_mem inside⟩
  refine @Dictionary.get?_updates_of_mem _ _ _ _ _ _ _
    (fun entry : Text × List ExecutionProfile => classBudgets manifest snapshot entry.1 entry.2) _ _
    unique named group ?_
  rintro ⟨capacityClassId, members⟩ listed contained
  have equal : members = sharing profiles capacityClassId := (mem_byCapacityClass.mp listed).1
  subst equal
  have apart : ((sharing profiles capacityClassId).map (·.profileId)).Nodup :=
    distinct.sublist (filter_sublist.map _)
  obtain ⟨other, otherMember, same⟩ := (mem_classBudgets_iff apart).mp contained
  obtain ⟨otherInside, sameClass⟩ := mem_filter.mp otherMember
  obtain rfl := inj_on_of_nodup_map distinct otherInside member same
  rw [of_decide_eq_true sameClass]

end Classes

/-- The budgets have one entry for each profile. The profiles of a class that the snapshot does not know have none;
the profiles of a known class share its free slots, none has more than the larger of one and its demand, no slot is
left while a profile is below its demand, and two profiles below their demand differ by at most one slot. -/
theorem profileCapacityBudgets_fair (manifest : TestManifest) (snapshot : RunnerSnapshot) :
    ∃ profiles, manifest.executionProfiles = .ok profiles ∧
      (profileCapacityBudgets manifest snapshot profiles).keys.Perm (profiles.map fun profile => profile.profileId) ∧
      ∀ capacityClassId, (snapshot.freeSlotsFor capacityClassId = none → ∀ profile ∈ sharing profiles capacityClassId,
          (profileCapacityBudgets manifest snapshot profiles).get? profile.profileId = some none) ∧
        ∀ freeSlots, snapshot.freeSlotsFor capacityClassId = some freeSlots → ∃ slots : ExecutionProfile → Nat,
          (∀ profile ∈ sharing profiles capacityClassId,
            (profileCapacityBudgets manifest snapshot profiles).get? profile.profileId = some (some (slots profile))) ∧
          ((sharing profiles capacityClassId).map slots).sum ≤ freeSlots ∧
          (∀ profile ∈ sharing profiles capacityClassId,
            (slots profile : Int) ≤ max 1 (profileParallelDemand manifest profile)) ∧
          (∀ profile ∈ sharing profiles capacityClassId, (slots profile : Int) < profileParallelDemand manifest profile →
            ((sharing profiles capacityClassId).map slots).sum = freeSlots) ∧
          ∀ first ∈ sharing profiles capacityClassId, ∀ second ∈ sharing profiles capacityClassId,
            (slots first : Int) < profileParallelDemand manifest first →
            (slots second : Int) < profileParallelDemand manifest second → slots first ≤ slots second + 1 := by
  obtain ⟨profiles, computed, listed⟩ := manifest.executionProfiles_total
  have distinct : (profiles.map fun profile => profile.profileId).Nodup := listed.canonical.nodup
  refine ⟨profiles, computed, ?_, fun capacityClassId => ?_⟩
  · refine (perm_ext_iff_of_nodup (Dictionary.distinct _) distinct).mpr fun key => ?_
    change key ∈ (profileCapacityBudgets manifest snapshot profiles).keys ↔ _
    rw [mem_map]
    constructor
    · intro named
      rcases mem_keys_updates.mp named with absent | ⟨⟨capacityClassId, members⟩, group, contained⟩
      · cases absent
      · have equal : members = sharing profiles capacityClassId := (mem_byCapacityClass.mp group).1
        subst equal
        obtain ⟨profile, member, same⟩ := (mem_classBudgets_iff (distinct.sublist (filter_sublist.map _))).mp contained
        exact ⟨profile, mem_of_mem_filter member, same⟩
    · rintro ⟨profile, member, rfl⟩
      exact mem_keys_iff.mpr (profileCapacityBudgets_total manifest snapshot member)
  · have apart : ((sharing profiles capacityClassId).map fun profile => profile.profileId).Nodup :=
      distinct.sublist (filter_sublist.map _)
    constructor
    · intro known profile member
      obtain ⟨inside, same⟩ := mem_filter.mp member
      obtain rfl := of_decide_eq_true same
      have budgets : classBudgets manifest snapshot profile.capacityClassId
          (sharing profiles profile.capacityClassId) =
            (sharing profiles profile.capacityClassId).map fun profile => (profile.profileId, none) := by
        unfold classBudgets
        rw [known]
      refine get?_profileCapacityBudgets distinct inside ?_ ?_
      · rw [budgets, map_map]
        exact apart
      · rw [budgets]
        exact mem_map.mpr ⟨profile, member, rfl⟩
    · intro freeSlots known
      obtain ⟨allocated, budgets, keys, remaining, fair, ends⟩ := classBudgets_fair manifest apart known
      refine ⟨slotsOf allocated, ?_, ?_, fair.bounded, ?_, ?_⟩
      · intro profile member
        obtain ⟨inside, same⟩ := mem_filter.mp member
        obtain rfl := of_decide_eq_true same
        refine get?_profileCapacityBudgets distinct inside ?_ ?_
        · rw [budgets, map_map]
          exact allocated.distinct
        · rw [budgets]
          obtain ⟨slots, found⟩ := mem_keys_iff.mp ((keys _).mpr ⟨profile, member, rfl⟩)
          rw [slotsOf, found]
          exact mem_map.mpr ⟨(profile.profileId, slots), Dictionary.get?_eq_some_iff.mp found, rfl⟩
      · have accounted := fair.accounted
        omega
      · intro profile member below
        have accounted := fair.accounted
        rcases ends with none | satisfied
        · omega
        · exact absurd (satisfied profile member) (not_le.mpr below)
      · exact fun first firstMember second secondMember => fair.level_pair firstMember secondMember

end CiCoordinator.RunnerCapacity

import CiCoordinator.RunnerCapacity.Model

/- The slots that the optimizer gives to the profiles of a capacity class, in rounds. -/

namespace CiCoordinator.RunnerCapacity

open Library Kernel ValidationContract

/-- The slots that a profile can use at once. -/
def profileParallelDemand (manifest : TestManifest) (profile : ExecutionProfile) : Int :=
  min (min (manifest.testsForProfile profile.profileId).length profile.shardingPolicy.maxShards)
    profile.shardingPolicy.maxParallel

/-- Profiles receive slots from first to last as long as some remain. -/
def allocateEach (give : Nat → Nat) : List ExecutionProfile → Dictionary Text Nat × Nat → Dictionary Text Nat × Nat
  | [], state => state
  | profile :: rest, (allocated, remaining) =>
    if remaining = 0 then (allocated, remaining)
    else
      allocateEach give rest
        (allocated.set profile.profileId (give ((allocated.get? profile.profileId).getD 0)), remaining - 1)

/-- Rounds of allocation end when no slot remains or no profile can use one; every round uses up a slot. -/
def allocateRounds (manifest : TestManifest) (profiles : List ExecutionProfile) :
    Nat → Dictionary Text Nat × Nat → Dictionary Text Nat
  | 0, (allocated, _) => allocated
  | fuel + 1, (allocated, remaining) =>
    let eligible := profiles.filter fun profile =>
      ((allocated.get? profile.profileId).getD 0 : Int) < profileParallelDemand manifest profile
    if remaining = 0 ∨ eligible = [] then allocated
    else allocateRounds manifest profiles fuel (allocateEach (· + 1) eligible (allocated, remaining))

/-- The slots of the profiles that share a capacity class, unless their number is unknown. -/
def classBudgets (manifest : TestManifest) (snapshot : RunnerSnapshot) (capacityClassId : Text)
    (profiles : List ExecutionProfile) : List (Text × Option Nat) :=
  match snapshot.freeSlotsFor capacityClassId with
  | none => profiles.map fun profile => (profile.profileId, none)
  | some freeSlots =>
    let initial := Dictionary.comprehend (profiles.map fun profile => (profile.profileId, 0))
    let first := allocateEach (fun _ => 1) profiles (initial, freeSlots)
    (allocateRounds manifest profiles first.2 first).entries.map fun entry => (entry.1, some entry.2)

/-- The slots of every profile. -/
def profileCapacityBudgets (manifest : TestManifest) (snapshot : RunnerSnapshot) (profiles : List ExecutionProfile) :
    Dictionary Text (Option Nat) :=
  let byCapacityClass := Dictionary.group (profiles.map fun profile => (profile.capacityClassId, profile))
  byCapacityClass.entries.foldl
    (fun budgets entry => budgets.update (classBudgets manifest snapshot entry.1 entry.2)) Dictionary.empty

end CiCoordinator.RunnerCapacity

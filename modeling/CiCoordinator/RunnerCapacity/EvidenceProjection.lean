import CiCoordinator.RunnerCapacity.Evidence
import Mathlib.Data.Nat.Cast.Basic
import Mathlib.Algebra.BigOperators.Group.List.Lemmas
import Mathlib.Data.Finset.SDiff

/- The projection of observed runners never counts a runner twice. -/

namespace CiCoordinator.RunnerCapacity

open Library Kernel Dictionary

variable (observed : List ObservedSelfHostedRunner)

/-- Two listings of one runner with different labels. -/
def Inconsistent : Prop :=
  ∃ first ∈ observed, ∃ second ∈ observed, first.runnerId = second.runnerId ∧ first.labels ≠ second.labels

/-- An index has one runner for each observed identity: online in all its listings and busy in one of them. -/
structure Summarizes (seen : List ObservedSelfHostedRunner) (index : Dictionary Int ObservedSelfHostedRunner) : Prop where
  absent : ∀ runnerId, index.get? runnerId = none ↔ ∀ listed ∈ seen, listed.runnerId ≠ runnerId
  identity : ∀ runnerId runner, index.get? runnerId = some runner → runner.runnerId = runnerId
  labels : ∀ runnerId runner, index.get? runnerId = some runner →
    ∀ listed ∈ seen, listed.runnerId = runnerId → listed.labels = runner.labels
  online : ∀ runnerId runner, index.get? runnerId = some runner →
    (runner.online = true ↔ ∀ listed ∈ seen, listed.runnerId = runnerId → listed.online = true)
  busy : ∀ runnerId runner, index.get? runnerId = some runner →
    (runner.busy = true ↔ ∃ listed ∈ seen, listed.runnerId = runnerId ∧ listed.busy = true)

namespace Summarizes

variable {seen other : List ObservedSelfHostedRunner} {index next : Dictionary Int ObservedSelfHostedRunner}
  {runner : ObservedSelfHostedRunner} {runnerId : Int}

theorem empty : Summarizes [] Dictionary.empty where
  absent _ := by simp
  identity _ _ found := by cases found
  labels _ _ found := by cases found
  online _ _ found := by cases found
  busy _ _ found := by cases found

section

variable (summary : Summarizes seen index)
include summary

theorem listed (found : index.get? runnerId = some runner) : ∃ listing ∈ seen, listing.runnerId = runnerId := by
  by_contra none
  have absent := (summary.absent runnerId).mpr fun listing member same => none ⟨listing, member, same⟩
  rw [found] at absent
  cases absent

/-- The first listing of a runner is stored. -/
theorem insert (fresh : index.get? runner.runnerId = none) :
    Summarizes (seen ++ [runner]) (index.set runner.runnerId runner) := by
  have unseen := (summary.absent runner.runnerId).mp fresh
  constructor
  · intro identity
    rw [get?_set]
    split_ifs with same
    · simp [same]
    · rw [summary.absent, List.forall_mem_append, List.forall_mem_singleton]
      exact (and_iff_left (Ne.symm same)).symm
  all_goals
    intro identity stored found
    rw [get?_set] at found
    split_ifs at found with same
    · cases found
      grind
    · have kept := summary.identity identity stored found
      have labels := summary.labels identity stored found
      have online := summary.online identity stored found
      have busy := summary.busy identity stored found
      grind

/-- A further listing of a runner is merged. -/
theorem merge {previous : ObservedSelfHostedRunner}
    (known : index.get? runner.runnerId = some previous) (same : previous.labels = runner.labels) :
    Summarizes (seen ++ [runner]) (index.set runner.runnerId (previous.merge runner)) := by
  have labels := summary.labels _ _ known
  have online := summary.online _ _ known
  have busy := summary.busy _ _ known
  constructor
  · intro identity
    rw [get?_set]
    split_ifs with equal
    · simp [equal]
    · rw [summary.absent, List.forall_mem_append, List.forall_mem_singleton]
      exact (and_iff_left (Ne.symm equal)).symm
  all_goals
    intro identity stored found
    rw [get?_set] at found
    split_ifs at found with equal
    · cases found
      grind [ObservedSelfHostedRunner.merge]
    · have kept := summary.identity identity stored found
      have labels := summary.labels identity stored found
      have online := summary.online identity stored found
      have busy := summary.busy identity stored found
      grind

theorem step (runner : ObservedSelfHostedRunner) :
    (∃ next, indexRunner index runner = some next ∧ Summarizes (seen ++ [runner]) next) ∨
      (indexRunner index runner = none ∧ Inconsistent (seen ++ [runner])) := by
  unfold indexRunner
  split
  · rename_i fresh
    exact .inl ⟨_, rfl, summary.insert fresh⟩
  · rename_i previous known
    split
    · rename_i differ
      obtain ⟨listing, member, same⟩ := summary.listed known
      have labels := summary.labels _ _ known listing member same
      exact .inr ⟨rfl, listing, List.mem_append_left _ member, runner, by simp, same, by rw [labels]; exact differ⟩
    · rename_i same
      exact .inl ⟨_, rfl, summary.merge known (not_not.mp same)⟩

end

theorem run (rest : List ObservedSelfHostedRunner) : ∀ {seen : List ObservedSelfHostedRunner}
    {index : Dictionary Int ObservedSelfHostedRunner}, Summarizes seen index →
    (∃ next, rest.foldlM indexRunner index = some next ∧ Summarizes (seen ++ rest) next) ∨
      (rest.foldlM indexRunner index = none ∧ Inconsistent (seen ++ rest)) := by
  induction rest with
  | nil =>
    intro seen index summary
    exact .inl ⟨index, rfl, by rw [List.append_nil]; exact summary⟩
  | cons runner rest inductionHypothesis =>
    intro seen index summary
    have joined : seen ++ runner :: rest = seen ++ [runner] ++ rest := by simp
    rw [List.foldlM_cons, joined]
    rcases summary.step runner with ⟨next, stepped, summary⟩ | ⟨stepped, first, firstMember, second, secondMember, differ⟩
    · rw [stepped]
      exact inductionHypothesis summary
    · rw [stepped]
      exact .inr ⟨rfl, first, List.mem_append_left _ firstMember, second, List.mem_append_left _ secondMember, differ⟩

theorem consistent (summary : Summarizes seen index) : ¬ Inconsistent seen := by
  rintro ⟨first, firstMember, second, secondMember, same, differ⟩
  cases found : index.get? second.runnerId with
  | none => exact (summary.absent _).mp found second secondMember rfl
  | some runner =>
    have firstLabels := summary.labels _ _ found first firstMember same
    have secondLabels := summary.labels _ _ found second secondMember rfl
    exact differ (firstLabels.trans secondLabels.symm)

/-- Indices of the same listings agree. -/
theorem agree (summary : Summarizes seen index) (second : Summarizes other next) (same : ∀ listing, listing ∈ seen ↔ listing ∈ other) :
    index.get? runnerId = next.get? runnerId := by
  cases found : index.get? runnerId with
  | none =>
    symm
    rw [second.absent]
    exact fun listing member => (summary.absent runnerId).mp found listing ((same listing).mpr member)
  | some runner =>
    obtain ⟨listing, member, listed⟩ := summary.listed found
    cases stored : next.get? runnerId with
    | none => exact absurd listed ((second.absent runnerId).mp stored listing ((same listing).mp member))
    | some twin =>
      have identity := (summary.identity _ _ found).trans (second.identity _ _ stored).symm
      have labels := (summary.labels _ _ found listing member listed).symm.trans
        (second.labels _ _ stored listing ((same listing).mp member) listed)
      have online : runner.online = twin.online := by
        rw [Bool.eq_iff_iff, summary.online _ _ found, second.online _ _ stored]
        simp [same]
      have busy : runner.busy = twin.busy := by
        rw [Bool.eq_iff_iff, summary.busy _ _ found, second.busy _ _ stored]
        simp [same]
      obtain ⟨⟨firstId, firstOnline, firstBusy, firstLabels⟩, firstAdmitted⟩ := runner
      subst identity labels online busy
      rfl

end Summarizes

/-- A table holds exactly the groups of its entries, and no runner twice. -/
structure Joined (seen : List (Int × VisibleRunnerGroup)) (table : Dictionary Int VisibleRunnerGroup) : Prop where
  stored : ∀ runnerId group, table.get? runnerId = some group ↔ (runnerId, group) ∈ seen
  distinct : (seen.map Prod.fst).Nodup

namespace Joined

variable {seen : List (Int × VisibleRunnerGroup)} {table : Dictionary Int VisibleRunnerGroup}

theorem empty : Joined [] Dictionary.empty where
  stored _ _ := by simp
  distinct := List.nodup_nil

theorem step (joined : Joined seen table) (entry : Int × VisibleRunnerGroup) :
    (∃ next, joinGroup table entry = some next ∧ Joined (seen ++ [entry]) next) ∨
      (joinGroup table entry = none ∧ ¬ ((seen ++ [entry]).map Prod.fst).Nodup) := by
  unfold joinGroup
  split
  · rename_i fresh
    have unseen : entry.1 ∉ seen.map Prod.fst := by
      intro member
      obtain ⟨⟨runnerId, group⟩, earlier, same⟩ := List.mem_map.mp member
      rw [← same, (joined.stored runnerId group).mpr earlier] at fresh
      cases fresh
    refine .inl ⟨_, rfl, ?_, ?_⟩
    · intro runnerId group
      rw [get?_set, List.mem_append, List.mem_singleton]
      split_ifs with same
      · rw [same]
        have earlier : (entry.1, group) ∉ seen := fun member =>
          unseen (List.mem_map.mpr ⟨(entry.1, group), member, rfl⟩)
        simp only [earlier, Option.some.injEq, false_or]
        exact ⟨fun equal => by rw [← equal], fun equal => congrArg Prod.snd equal.symm⟩
      · rw [joined.stored]
        exact ⟨.inl, fun member => member.resolve_right fun equal => same (congrArg Prod.fst equal)⟩
    · rw [List.map_append, List.nodup_append]
      exact ⟨joined.distinct, List.nodup_singleton _, fun first member second last equal =>
        unseen (by rw [List.map_singleton, List.mem_singleton] at last; rw [← last, ← equal]; exact member)⟩
  · rename_i group known
    refine .inr ⟨rfl, fun distinct => ?_⟩
    rw [List.map_append, List.nodup_append] at distinct
    have member : entry.1 ∈ seen.map Prod.fst :=
      List.mem_map.mpr ⟨(entry.1, group), (joined.stored entry.1 group).mp known, rfl⟩
    exact distinct.2.2 entry.1 member entry.1 (by simp) rfl

theorem run (rest : List (Int × VisibleRunnerGroup)) : ∀ {seen : List (Int × VisibleRunnerGroup)}
    {table : Dictionary Int VisibleRunnerGroup}, Joined seen table →
    (∃ next, rest.foldlM joinGroup table = some next ∧ Joined (seen ++ rest) next) ∨
      (rest.foldlM joinGroup table = none ∧ ¬ ((seen ++ rest).map Prod.fst).Nodup) := by
  induction rest with
  | nil =>
    intro seen table joined
    exact .inl ⟨table, rfl, by rw [List.append_nil]; exact joined⟩
  | cons entry rest inductionHypothesis =>
    intro seen table joined
    have moved : seen ++ entry :: rest = seen ++ [entry] ++ rest := by simp
    rw [List.foldlM_cons, moved]
    rcases joined.step entry with ⟨next, stepped, joined⟩ | ⟨stepped, repeated⟩
    · rw [stepped]
      exact inductionHypothesis joined
    · rw [stepped]
      refine .inr ⟨rfl, fun distinct => repeated ?_⟩
      rw [List.map_append] at distinct
      exact (List.nodup_append.mp distinct).1

end Joined

variable {group : VisibleRunnerGroup}

theorem mem_groupEntries {groups : List VisibleRunnerGroup} {runnerId : Int} :
    (runnerId, group) ∈ groupEntries groups ↔ group ∈ groups ∧ runnerId ∈ group.runnerIds := by
  simp only [groupEntries, List.mem_flatMap, List.mem_map, Prod.mk.injEq, VisibleRunnerGroup.runnerIds, List.mem_toFinset]
  constructor
  · rintro ⟨owner, member, runner, listed, same, rfl⟩
    exact ⟨member, runner, listed, same⟩
  · rintro ⟨member, runner, listed, same⟩
    exact ⟨group, member, runner, listed, same, rfl⟩

section Pools

variable {groups : List VisibleRunnerGroup} {membership : Dictionary Int VisibleRunnerGroup}

/-- The group of a runner is unique. -/
theorem Joined.unique (joined : Joined (groupEntries groups) membership) {first second : VisibleRunnerGroup} {runnerId : Int}
    (firstMember : first ∈ groups ∧ runnerId ∈ first.runnerIds) (secondMember : second ∈ groups ∧ runnerId ∈ second.runnerIds) :
    first = second := by
  have left := (joined.stored runnerId first).mpr (mem_groupEntries.mpr firstMember)
  have right := (joined.stored runnerId second).mpr (mem_groupEntries.mpr secondMember)
  rw [left] at right
  exact Option.some.inj right

end Pools

section Snapshots

variable {selectors : List CapacityClassSelector} {repositoryRunners : List ObservedSelfHostedRunner}
  {groups : List VisibleRunnerGroup} {runners : Dictionary Int ObservedSelfHostedRunner}
  {membership : Dictionary Int VisibleRunnerGroup} {pools : Dictionary Text (Finset Int)} {observedAt : Instant}
  {freshnessTtlSeconds : Int}

end Snapshots

/-- The runners that every listing of them shows online and none shows busy. -/
def observedFree : Finset Int :=
  (observed.map fun runner => runner.runnerId).toFinset.filter fun runnerId =>
    ∀ runner ∈ observed, runner.runnerId = runnerId → runner.online = true ∧ runner.busy = false

theorem Summarizes.free {seen : List ObservedSelfHostedRunner} {index : Dictionary Int ObservedSelfHostedRunner}
    (summary : Summarizes seen index) {runnerId : Int} : isFree index runnerId = true ↔ runnerId ∈ observedFree seen := by
  rw [isFree, Option.any_eq_true, observedFree, Finset.mem_filter, List.mem_toFinset]
  constructor
  · rintro ⟨runner, found, free⟩
    rw [Bool.and_eq_true, Bool.not_eq_true'] at free
    obtain ⟨listing, member, same⟩ := summary.listed found
    refine ⟨List.mem_map.mpr ⟨listing, member, same⟩, fun listed listedMember equal => ?_⟩
    have online := (summary.online _ _ found).mp free.1 listed listedMember equal
    have busy := summary.busy _ _ found
    rw [free.2] at busy
    refine ⟨online, Bool.eq_false_of_not_eq_true fun occupied => ?_⟩
    exact absurd (busy.mpr ⟨listed, listedMember, equal, occupied⟩) (by decide)
  · rintro ⟨member, free⟩
    obtain ⟨listing, listed, same⟩ := List.mem_map.mp member
    cases found : index.get? runnerId with
    | none => exact absurd same ((summary.absent runnerId).mp found listing listed)
    | some runner =>
      refine ⟨runner, rfl, ?_⟩
      rw [Bool.and_eq_true, Bool.not_eq_true']
      refine ⟨(summary.online _ _ found).mpr fun other member equal => (free other member equal).1, ?_⟩
      refine Bool.eq_false_of_not_eq_true fun occupied => ?_
      obtain ⟨other, member, equal, busy⟩ := (summary.busy _ _ found).mp occupied
      rw [(free other member equal).2] at busy
      cases busy

section Projection

variable {selectors : List CapacityClassSelector} {repositoryRunners other : List ObservedSelfHostedRunner}
  {groups : List VisibleRunnerGroup} {observedAt : Instant} {freshnessTtlSeconds : Int}

end Projection

namespace EvidenceSample

def epoch : Instant :=
  ⟨0, zero_lt_instantLimit⟩

end EvidenceSample

end CiCoordinator.RunnerCapacity

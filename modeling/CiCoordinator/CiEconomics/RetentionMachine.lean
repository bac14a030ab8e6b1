import CiCoordinator.CiEconomics.ArchiveDetail
import Mathlib.Data.List.Induction

/- The retention of a detail as a machine: its imports, its policies and its expiry in any order. -/

namespace CiCoordinator.CiEconomics

open Library Kernel ArchiveDetailRetentionFields List Option

/-- What is done to the retention of a detail at an instant. -/
inductive RetentionStep where
  | importDetail (policy : DetailRetentionPolicy) (reference : DetailPolicyReference) (now : Instant)
  | applyPolicy (policy : DetailRetentionPolicy) (reference : DetailPolicyReference) (now : Instant)
  | expire (now : Instant)

namespace RetentionStep

def now : RetentionStep → Instant
  | importDetail _ _ now => now
  | applyPolicy _ _ now => now
  | expire now => now

/-- The policy of a step under its reference. -/
def policy : RetentionStep → Option (DetailPolicyReference × DetailRetentionPolicy)
  | importDetail policy reference _ => some (reference, policy)
  | applyPolicy policy reference _ => some (reference, policy)
  | expire _ => none

/-- The instant at which a step can import a detail. -/
def importInstant : RetentionStep → Option Instant
  | importDetail policy _ now => if policy = .disabled then none else some now
  | _ => none

def perform (step : RetentionStep) (prior : ArchiveDetailRetention) : Py ArchiveDetailRetention :=
  match step with
  | importDetail policy reference now => recordFirstDetailImport prior policy reference now
  | applyPolicy policy reference now => applyDetailPolicy prior policy reference now
  | expire now => expireArchiveDetail prior now

/-- An import of a detail that has been imported leaves it alone. -/
def Repeats (step : RetentionStep) (before : ArchiveDetailRetention) : Prop :=
  (∃ policy reference now, step = importDetail policy reference now) ∧ before.state ≠ .notImported

end RetentionStep

/-- The steps are done to a detail that has never been imported. -/
def performAll (steps : List RetentionStep) : Py ArchiveDetailRetention :=
  foldSteps (fun prior step => step.perform prior) .notImported steps

/-- The first import of a sequence of steps. -/
def firstImport (steps : List RetentionStep) : Option Instant :=
  steps.findSome? RetentionStep.importInstant

/-- The steps come in the order of time and of the revisions of each source, a reference names one policy,
and no policy of theirs has an unrepresentable deadline. -/
structure Timeline (steps : List RetentionStep) : Prop where
  ordered : steps.Pairwise fun earlier later => earlier.now ≤ later.now
  revisions : steps.Pairwise fun earlier later => ∀ old ∈ earlier.policy, ∀ new ∈ later.policy,
    old.1.source = new.1.source → old.1.revision ≤ new.1.revision
  single : steps.Pairwise fun earlier later => ∀ old ∈ earlier.policy, ∀ new ∈ later.policy,
    old.1 = new.1 → old.2 = new.2
  representable : ∀ start ∈ firstImport steps, ∀ step ∈ steps, ∀ named ∈ step.policy, ∀ count ∈ named.2.dayCount,
    start.micros + secondMicros * (daySeconds * count) < instantLimit

/-- The deadline of an import under a policy can be represented. -/
def Representable (start : Instant) (policy : DetailRetentionPolicy) : Prop :=
  ∀ count ∈ policy.dayCount, start.micros + secondMicros * (daySeconds * count) < instantLimit

section Steps

variable {applied : AppliedRetention} {before : ArchiveDetailRetention} {now later : Instant}
  {policy : DetailRetentionPolicy} {reference : DetailPolicyReference}

theorem deadline_total (representable : Representable applied.firstImportedAt applied.policy) :
    ∃ deadline, applied.deadline = .ok deadline := by
  unfold AppliedRetention.deadline
  cases counted : applied.policy.dayCount with
  | none => exact ⟨none, rfl⟩
  | some count =>
    obtain ⟨deadline, added⟩ := addSeconds_inRange.mpr (representable count counted)
    exact ⟨some deadline, by simp only [added]⟩

/-- An import whose deadline is known has a retention. -/
theorem makeRetention_total (state : ArchiveDetailState) (applied : AppliedRetention) (imported : state ≠ .notImported)
    (enabled : state = .retained → applied.policy ≠ .disabled) (known : ∃ deadline, applied.deadline = .ok deadline) :
    ∃ made, ArchiveDetailRetention.make ⟨state, some applied⟩ = .ok made ∧
      made.toArchiveDetailRetentionFields = ⟨state, some applied⟩ := by
  obtain ⟨deadline, computed⟩ := known
  have passed : postInit ⟨state, some applied⟩ = .ok () := by
    cases state with
    | notImported => exact absurd rfl imported
    | retained => simpa [postInit, computed] using enabled rfl
    | expired => simp [postInit, computed]
  exact ⟨⟨_, passed⟩, construct_ok passed, rfl⟩

/-- What is due stays due. -/
theorem ArchiveDetailRetention.DueAt.mono (due : before.DueAt now) (order : now ≤ later) : before.DueAt later := by
  obtain ⟨retained, deadline, found, reached⟩ := due
  exact ⟨retained, deadline, found, le_trans reached order⟩

/-- A detail that has been imported has an applied policy with a deadline. -/
theorem ArchiveDetailRetention.applied_of_imported (imported : before.state ≠ .notImported) :
    ∃ applied, before.applied = some applied ∧ ∃ deadline, applied.deadline = .ok deadline := by
  have admitted := before.admitted
  cases found : before.applied with
  | none =>
    cases stated : before.state with
    | notImported => exact absurd stated imported
    | retained => simp [postInit, found, stated] at admitted
    | expired => simp [postInit, found, stated] at admitted
  | some applied =>
    refine ⟨applied, rfl, ?_⟩
    cases stated : before.state with
    | notImported => exact absurd stated imported
    | retained =>
      simp only [postInit, found, stated, bind_eq_ok] at admitted
      obtain ⟨_, _, deadline, computed, _⟩ := admitted
      exact ⟨deadline, computed⟩
    | expired =>
      simp only [postInit, found, stated, bind_eq_ok] at admitted
      obtain ⟨_, _, deadline, computed, _⟩ := admitted
      exact ⟨deadline, computed⟩

theorem ArchiveDetailRetention.applied_of_notImported (fresh : before.state = .notImported) : before.applied = none := by
  have admitted := before.admitted
  cases found : before.applied with
  | none => rfl
  | some applied => simp [postInit, found, fresh] at admitted

/-- An expiry returns; it changes the state of a detail that is due and nothing else. -/
theorem expireArchiveDetail_spec (before : ArchiveDetailRetention) (now : Instant) :
    ∃ after, expireArchiveDetail before now = .ok after ∧ after.applied = before.applied ∧
      (before.DueAt now → after.state = .expired) ∧ (¬ before.DueAt now → after = before) := by
  unfold expireArchiveDetail
  by_cases due : before.DueAt now
  · obtain ⟨applied, found, known⟩ := before.applied_of_imported (by rw [due.1]; decide)
    obtain ⟨made, returned, fields⟩ :=
      makeRetention_total .expired applied (by decide) (fun impossible => by cases impossible) known
    refine ⟨made, ?_, ?_, fun _ => ?_, fun notDue => absurd due notDue⟩
    · rw [← found] at returned
      rw [if_pos due]
      exact returned
    · rw [fields, found]
    · rw [fields]
  · exact ⟨before, if_neg due, rfl, fun isDue => absurd isDue due, fun _ => rfl⟩

theorem recordFirstDetailImport_spec (before : ArchiveDetailRetention) (reference : DetailPolicyReference)
    (representable : Representable now policy) :
    ∃ after, recordFirstDetailImport before policy reference now = .ok after ∧
      ((before.state ≠ .notImported ∨ policy = .disabled) → after = before) ∧
      (before.state = .notImported → policy ≠ .disabled →
        after.toArchiveDetailRetentionFields = ⟨.retained, some ⟨now, policy, reference⟩⟩) := by
  unfold recordFirstDetailImport
  by_cases skipped : before.state ≠ .notImported ∨ policy = .disabled
  · refine ⟨before, if_pos skipped, fun _ => rfl, fun fresh enabled => ?_⟩
    rcases skipped with imported | disabled
    · exact absurd fresh imported
    · exact absurd disabled enabled
  · rw [not_or, not_not] at skipped
    obtain ⟨made, returned, fields⟩ := makeRetention_total .retained ⟨now, policy, reference⟩ (by decide)
       (fun _ => skipped.2) (deadline_total representable)
    refine ⟨made, ?_, fun again => ?_, fun _ _ => fields⟩
    · rw [if_neg (by rw [not_or, not_not]; exact skipped), returned]
    · rcases again with imported | disabled
      · exact absurd skipped.1 imported
      · exact absurd disabled skipped.2

/-- The checks of a policy pass when it does not go back behind the applied one. -/
theorem requireCurrentPolicy_passes (current : ∀ applied ∈ before.applied,
    (applied.reference.source = reference.source → applied.reference.revision ≤ reference.revision) ∧
      (applied.reference = reference → applied.policy = policy)) :
    requireCurrentPolicy before policy reference = .ok () := by
  simp only [requireCurrentPolicy, bind_unit_eq_ok, raiseIf_eq_ok]
  constructor
  · rintro ⟨applied, found, source, behind⟩
    exact absurd ((current applied found).1 source.symm) (not_le.mpr behind)
  · rintro ⟨applied, found, same, conflicting⟩
    exact conflicting ((current applied found).2 same.symm).symm

/-- The applied policy of a successor is an earlier one or the one of the step. -/
def Succeeds (before after : ArchiveDetailRetention) (policy : DetailRetentionPolicy) (reference : DetailPolicyReference) :
    Prop :=
  ∀ applied ∈ after.applied, applied ∈ before.applied ∨ (applied.reference = reference ∧ applied.policy = policy)

section

variable (checked : requireCurrentPolicy before policy reference = .ok ())
include checked

/-- A policy that has just been applied can be applied again without effect. -/
theorem applyDetailPolicy_again {after : ArchiveDetailRetention} (succeeds : Succeeds before after policy reference)
    (notDue : ¬ after.DueAt now) (current : after.state = .retained → ∃ applied ∈ after.applied, reference = applied.reference) :
    applyDetailPolicy after policy reference now = .ok after := by
  simp only [requireCurrentPolicy, bind_unit_eq_ok, raiseIf_eq_ok, not_exists, not_and, not_lt] at checked
  have passed : requireCurrentPolicy after policy reference = .ok () := by
    refine requireCurrentPolicy_passes fun applied found => ?_
    rcases succeeds applied found with earlier | ⟨same, equal⟩
    · refine ⟨fun source => checked.1 applied earlier source.symm, fun same => ?_⟩
      exact (not_not.mp (checked.2 applied earlier same.symm)).symm
    · exact ⟨fun _ => by rw [same], fun _ => equal⟩
  obtain ⟨expired, returned, _, _, unchanged⟩ := expireArchiveDetail_spec after now
  rw [unchanged notDue] at returned
  have settled : after.state ≠ .retained ∨ ∃ applied ∈ after.applied, reference = applied.reference := by
    by_cases retained : after.state = .retained
    · exact .inr (current retained)
    · exact .inl retained
  simp only [applyDetailPolicy, passed, returned, ok_bind_eq]
  rw [if_pos settled]
  rfl

/-- The application of a policy returns, expires what is due under the policies before and after it, keeps the import and the
details that are not retained, and has no further effect when it is repeated. -/
theorem applyDetailPolicy_spec (representable : ∀ applied ∈ before.applied, Representable applied.firstImportedAt policy) :
    ∃ after, applyDetailPolicy before policy reference now = .ok after ∧ Succeeds before after policy reference ∧
      (before.state ≠ .retained → after = before) ∧ (before.DueAt now → after.state = .expired) ∧ ¬ after.DueAt now ∧
      applyDetailPolicy after policy reference now = .ok after := by
  obtain ⟨current, expired, kept, dueExpired, unchanged⟩ := expireArchiveDetail_spec before now
  have currentNotDue : ¬ current.DueAt now := by
    intro due
    by_cases wasDue : before.DueAt now
    · have stated := dueExpired wasDue
      rw [due.1] at stated
      cases stated
    · exact wasDue (unchanged wasDue ▸ due)
  have computed : applyDetailPolicy before policy reference now =
      if current.state ≠ .retained ∨ ∃ applied ∈ current.applied, reference = applied.reference then .ok current
      else
        ArchiveDetailRetention.make ⟨if policy = .disabled then .expired else .retained,
            current.applied.map fun applied => ⟨applied.firstImportedAt, policy, reference⟩⟩ >>=
          fun successor => expireArchiveDetail successor now := by
    simp only [applyDetailPolicy, checked, expired, ok_bind_eq]
    rfl
  have idle : before.state ≠ .retained → current = before := fun other => unchanged fun due => other due.1
  by_cases settled : current.state ≠ .retained ∨ ∃ applied ∈ current.applied, reference = applied.reference
  · have succeeds : Succeeds before current policy reference := fun applied found => .inl (kept ▸ found)
    refine ⟨current, by rw [computed, if_pos settled], succeeds, idle, dueExpired, currentNotDue, ?_⟩
    exact applyDetailPolicy_again checked succeeds currentNotDue fun retained => settled.resolve_left (not_not.mpr retained)
  · rw [not_or, not_not] at settled
    have notDue : ¬ before.DueAt now := by
      intro due
      have stated := dueExpired due
      rw [settled.1] at stated
      cases stated
    obtain rfl := unchanged notDue
    obtain ⟨applied, found, _⟩ := current.applied_of_imported (by rw [settled.1]; decide)
    have imported : (if policy = .disabled then ArchiveDetailState.expired else .retained) ≠ .notImported := by
      split <;> decide
    have enabled : (if policy = .disabled then ArchiveDetailState.expired else .retained) = .retained → policy ≠ .disabled := by
      intro retained disabled
      rw [if_pos disabled] at retained
      cases retained
    obtain ⟨renewed, made, fields⟩ := makeRetention_total _ ⟨applied.firstImportedAt, policy, reference⟩ imported enabled
      (deadline_total (representable applied found))
    obtain ⟨after, returned, same, renewedExpired, renewedUnchanged⟩ := expireArchiveDetail_spec renewed now
    have appliedAfter : after.applied = some ⟨applied.firstImportedAt, policy, reference⟩ := by
      rw [same, fields]
    have succeeds : Succeeds current after policy reference := by
      intro other member
      rw [appliedAfter, mem_some_iff] at member
      subst member
      exact .inr ⟨rfl, rfl⟩
    have afterNotDue : ¬ after.DueAt now := by
      intro due
      by_cases wasDue : renewed.DueAt now
      · have stated := renewedExpired wasDue
        rw [due.1] at stated
        cases stated
      · exact wasDue (renewedUnchanged wasDue ▸ due)
    refine ⟨after, ?_, succeeds, fun other => absurd settled.1 other, fun due => absurd due notDue, afterNotDue, ?_⟩
    · rw [computed, if_neg (by rw [not_or, not_not]; exact settled), found]
      rw [map_some, made, ok_bind_eq, returned]
    · exact applyDetailPolicy_again checked succeeds afterNotDue fun _ => ⟨_, appliedAfter, rfl⟩

end

end Steps

/-- A retention that results from steps: its import is the first one, its policy was named by one of them. -/
structure Follows (steps : List RetentionStep) (retention : ArchiveDetailRetention) : Prop where
  imported : retention.importedAt = firstImport steps
  named : ∀ applied ∈ retention.applied, ∃ step ∈ steps, step.policy = some (applied.reference, applied.policy)

section Runs

variable {steps earlier : List RetentionStep} {step : RetentionStep} {before after : ArchiveDetailRetention}
  {policy : DetailRetentionPolicy} {reference : DetailPolicyReference}

theorem follows_notImported : Follows [] .notImported where
  imported := rfl
  named := by
    intro applied impossible
    cases impossible

theorem performAll_snoc : performAll (steps ++ [step]) = performAll steps >>= fun prior => step.perform prior := by
  rw [performAll, foldSteps_append]
  congr 1
  funext prior
  rw [foldSteps_cons]
  cases step.perform prior with
  | error error => rfl
  | ok next => rfl

theorem firstImport_snoc : firstImport (steps ++ [step]) = (firstImport steps).or step.importInstant := by
  rw [firstImport, findSome?_append, findSome?_cons, findSome?_nil]
  cases step.importInstant with
  | none => rfl
  | some instant => rfl

/-- A timeline restricts to what comes first. -/
theorem Timeline.init (timeline : Timeline (steps ++ [step])) : Timeline steps where
  ordered := (pairwise_append.mp timeline.ordered).1
  revisions := (pairwise_append.mp timeline.revisions).1
  single := (pairwise_append.mp timeline.single).1
  representable := by
    intro start first other member
    refine timeline.representable start ?_ other (mem_append_left _ member)
    rw [firstImport_snoc, mem_def.mp first]
    exact rfl

/-- The deadlines that a step can form are those of the first import under the policy of the step. -/
theorem Timeline.representable_step {start : Instant} (timeline : Timeline (steps ++ [step]))
    (first : firstImport (steps ++ [step]) = some start) (stated : step.policy = some (reference, policy)) :
    Representable start policy :=
  timeline.representable start first step (mem_append_right _ mem_cons_self) (reference, policy) stated

theorem Follows.requireCurrentPolicy (follows : Follows steps before) (timeline : Timeline (steps ++ [step]))
    (stated : step.policy = some (reference, policy)) : requireCurrentPolicy before policy reference = .ok () := by
  refine requireCurrentPolicy_passes fun applied found => ?_
  obtain ⟨other, member, named⟩ := follows.named applied found
  have revisions := (pairwise_append.mp timeline.revisions).2.2 other member step mem_cons_self _ named _ stated
  have single := (pairwise_append.mp timeline.single).2.2 other member step mem_cons_self _ named _ stated
  exact ⟨revisions, single⟩

/-- A successor that keeps the import, and whose policy is an earlier one or the one of the step, follows. -/
theorem Follows.snoc (follows : Follows steps before) (kept : after.importedAt = before.importedAt)
    (idle : (firstImport steps).or step.importInstant = firstImport steps)
    (succeeds : ∀ applied ∈ after.applied, applied ∈ before.applied ∨
      step.policy = some (applied.reference, applied.policy)) : Follows (steps ++ [step]) after where
  imported := by rw [firstImport_snoc, idle, kept, follows.imported]
  named := by
    intro applied found
    rcases succeeds applied found with earlier | stated
    · obtain ⟨other, member, named⟩ := follows.named applied earlier
      exact ⟨other, mem_append_left _ member, named⟩
    · exact ⟨step, mem_append_right _ mem_cons_self, stated⟩

/-- What a step does to a retention that it finds. -/
structure Performs (step : RetentionStep) (before after : ArchiveDetailRetention) : Prop where
  absorbing : before.state = .expired → after = before
  anchored : ∀ start ∈ before.importedAt, after.importedAt = some start
  timely : after.state = .retained → ¬ step.Repeats before → ¬ after.DueAt step.now
  repeats : step.Repeats before → after = before
  stable : ∀ policy reference now, step = .applyPolicy policy reference now →
    applyDetailPolicy after policy reference now = .ok after
  final : ∀ policy reference now, step = .applyPolicy policy reference now →
    ∀ instant ≤ now, before.DueAt instant → after.state = .expired

theorem ArchiveDetailRetention.importedAt_eq_none (fresh : before.state = .notImported) : before.importedAt = none := by
  rw [importedAt, before.applied_of_notImported fresh]
  rfl

theorem Follows.first_isSome (follows : Follows steps before) (imported : before.state ≠ .notImported) {others : Option Instant} :
    (firstImport steps).or others = firstImport steps := by
  obtain ⟨applied, found, _⟩ := before.applied_of_imported imported
  rw [← follows.imported, ArchiveDetailRetention.importedAt, found]
  rfl

/-- The deadline of a fresh import is after it. -/
theorem not_due_of_fresh {now : Instant}
    (fields : after.toArchiveDetailRetentionFields = ⟨.retained, some ⟨now, policy, reference⟩⟩) : ¬ after.DueAt now := by
  rintro ⟨_, deadline, found, reached⟩
  rw [ArchiveDetailRetention.expiresAt, fields] at found
  cases policy with
  | disabled => cases found
  | forever => cases found
  | days count bounded =>
    simp only [AppliedRetention.deadline, DetailRetentionPolicy.dayCount] at found
    cases added : addSeconds now (daySeconds * count) with
    | error error =>
      rw [added] at found
      cases found
    | ok instant =>
      rw [added] at found
      cases found
      rw [addSeconds_eq_ok] at added
      have later : deadline.micros ≤ now.micros := reached
      have positive : 0 < secondMicros * (daySeconds * count) :=
        Nat.mul_pos (by decide) (Nat.mul_pos (by decide) bounded.1)
      omega

section

variable (follows : Follows steps before)
include follows

theorem import_spec {now : Instant} (timeline : Timeline (steps ++ [.importDetail policy reference now])) :
    ∃ after, recordFirstDetailImport before policy reference now = .ok after ∧
      Follows (steps ++ [.importDetail policy reference now]) after ∧
      Performs (.importDetail policy reference now) before after := by
  by_cases skipped : before.state ≠ .notImported ∨ policy = .disabled
  · have returned : recordFirstDetailImport before policy reference now = .ok before := if_pos skipped
    have idle : (firstImport steps).or (RetentionStep.importDetail policy reference now).importInstant = firstImport steps := by
      rcases skipped with imported | disabled
      · exact follows.first_isSome imported
      · rw [RetentionStep.importInstant, if_pos disabled, or_none]
    refine ⟨before, returned, follows.snoc rfl idle fun applied found => .inl found, ?_⟩
    constructor
    case absorbing => exact fun _ => rfl
    case anchored => exact fun start found => found
    case timely =>
      intro retained other
      exact absurd ⟨⟨_, _, _, rfl⟩, by rw [retained]; decide⟩ other
    case repeats => exact fun _ => rfl
    case stable =>
      intro _ _ _ impossible
      cases impossible
    case final =>
      intro _ _ _ impossible
      cases impossible
  · rw [not_or, not_not] at skipped
    have none := before.importedAt_eq_none skipped.1
    have first : firstImport (steps ++ [.importDetail policy reference now]) = some now := by
      rw [firstImport_snoc, ← follows.imported, none, RetentionStep.importInstant, if_neg skipped.2, none_or]
    have representable : Representable now policy := timeline.representable_step first rfl
    obtain ⟨after, returned, _, imports⟩ := recordFirstDetailImport_spec before reference representable
    have fields := imports skipped.1 skipped.2
    refine ⟨after, returned, ⟨?_, ?_⟩, ?_⟩
    · rw [first, ArchiveDetailRetention.importedAt, fields]
      rfl
    · intro applied found
      rw [fields, mem_some_iff] at found
      subst found
      exact ⟨_, mem_append_right _ mem_cons_self, rfl⟩
    · constructor
      case absorbing =>
        intro expired
        rw [skipped.1] at expired
        cases expired
      case anchored =>
        intro start found
        rw [none] at found
        cases found
      case timely => exact fun _ _ => not_due_of_fresh fields
      case repeats => exact fun repeats => absurd skipped.1 repeats.2
      case stable =>
        intro _ _ _ impossible
        cases impossible
      case final =>
        intro _ _ _ impossible
        cases impossible

theorem expire_spec {now : Instant} :
    ∃ after, expireArchiveDetail before now = .ok after ∧ Follows (steps ++ [.expire now]) after ∧
      Performs (.expire now) before after := by
  obtain ⟨after, returned, kept, dueExpired, unchanged⟩ := expireArchiveDetail_spec before now
  have same : after.importedAt = before.importedAt := by
    rw [ArchiveDetailRetention.importedAt, kept]
    rfl
  refine ⟨after, returned, follows.snoc same or_none fun applied found => .inl (kept ▸ found), ?_⟩
  constructor
  case absorbing =>
    intro expired
    refine unchanged fun due => ?_
    rw [due.1] at expired
    cases expired
  case anchored => exact fun start found => same.trans found
  case timely =>
    intro retained _ due
    by_cases wasDue : before.DueAt now
    · rw [dueExpired wasDue] at retained
      cases retained
    · exact wasDue (unchanged wasDue ▸ due)
  case repeats =>
    rintro ⟨⟨_, _, _, impossible⟩, _⟩
    cases impossible
  case stable =>
    intro _ _ _ impossible
    cases impossible
  case final =>
    intro _ _ _ impossible
    cases impossible

theorem apply_spec {now : Instant} (timeline : Timeline (steps ++ [.applyPolicy policy reference now])) :
    ∃ after, applyDetailPolicy before policy reference now = .ok after ∧
      Follows (steps ++ [.applyPolicy policy reference now]) after ∧
      Performs (.applyPolicy policy reference now) before after := by
  have checked := follows.requireCurrentPolicy timeline rfl
  have representable : ∀ applied ∈ before.applied, Representable applied.firstImportedAt policy := by
    intro applied found
    refine timeline.representable_step ?_ rfl
    rw [firstImport_snoc, ← follows.imported, ArchiveDetailRetention.importedAt, mem_def.mp found]
    rfl
  obtain ⟨after, returned, succeeds, idle, dueExpired, notDue, again⟩ := applyDetailPolicy_spec checked representable
  have same := applyDetailPolicy_importedAt returned
  refine ⟨after, returned, follows.snoc same or_none fun applied found => ?_, ?_⟩
  · refine (succeeds applied found).imp_right fun named => ?_
    rw [named.1, named.2]
    rfl
  constructor
  case absorbing => exact fun expired => idle (by rw [expired]; decide)
  case anchored => exact fun start found => same.trans found
  case timely => exact fun _ _ => notDue
  case repeats =>
    rintro ⟨⟨_, _, _, impossible⟩, _⟩
    cases impossible
  case stable =>
    intro _ _ _ equal
    cases equal
    exact again
  case final =>
    intro _ _ _ equal instant order due
    cases equal
    exact dueExpired (due.mono order)

/-- A step of a timeline returns, follows and does what it may do. -/
theorem perform_spec (timeline : Timeline (steps ++ [step])) :
    ∃ after, step.perform before = .ok after ∧ Follows (steps ++ [step]) after ∧ Performs step before after := by
  cases step with
  | importDetail policy reference now => exact import_spec follows timeline
  | applyPolicy policy reference now => exact apply_spec follows timeline
  | expire now => exact expire_spec follows

end

/-- No step of a timeline raises. -/
theorem performAll_total (timeline : Timeline steps) : ∃ final, performAll steps = .ok final ∧ Follows steps final := by
  induction steps using List.reverseRecOn with
  | nil => exact ⟨.notImported, rfl, follows_notImported⟩
  | append_singleton earlier step ih =>
    obtain ⟨before, returned, follows⟩ := ih timeline.init
    obtain ⟨after, performed, kept, _⟩ := perform_spec follows timeline
    exact ⟨after, by rw [performAll_snoc, returned, ok_bind_eq, performed], kept⟩

theorem Timeline.take {later : List RetentionStep} (timeline : Timeline (steps ++ later)) : Timeline steps := by
  induction later using List.reverseRecOn with
  | nil => rwa [append_nil] at timeline
  | append_singleton rest last ih =>
    rw [← append_assoc] at timeline
    exact ih timeline.init

/-- No step raises. An expired detail stays as it is, the first import stays, a retained detail is not due, a repeated import
changes nothing, a repeated policy changes nothing more, and no policy revives a detail that was due. -/
theorem retention_machine (timeline : Timeline steps) : (∃ final, performAll steps = .ok final) ∧
    ∀ earlier step later, steps = earlier ++ step :: later → ∃ before after, performAll earlier = .ok before ∧
      step.perform before = .ok after ∧ Performs step before after := by
  constructor
  · obtain ⟨final, returned, _⟩ := performAll_total timeline
    exact ⟨final, returned⟩
  · intro earlier step later split
    subst split
    rw [← singleton_append, ← append_assoc] at timeline
    obtain ⟨before, returned, follows⟩ := performAll_total timeline.take.init
    obtain ⟨after, performed, _, performs⟩ := perform_spec follows timeline.take
    exact ⟨before, after, returned, performed, performs⟩

end Runs

namespace Sample

def instantOfDay (day : Nat) (inRange : secondMicros * (daySeconds * day) < instantLimit) : Instant :=
  ⟨secondMicros * (daySeconds * day), inRange⟩

def oneDay : DetailRetentionPolicy :=
  .days 1 (by decide)

def firstRevision : DetailPolicyReference :=
  ⟨.serviceDefault, 1⟩

/-- The same detail is imported twice, the second time after its deadline. -/
def firstImportStep : RetentionStep :=
  .importDetail oneDay firstRevision (instantOfDay 0 (by decide))

def lateImportStep : RetentionStep :=
  .importDetail oneDay firstRevision (instantOfDay 2 (by decide))

def retainedDetail : ArchiveDetailRetention :=
  ⟨⟨.retained, some ⟨instantOfDay 0 (by decide), oneDay, firstRevision⟩⟩, by decide⟩

theorem imports_timeline : Timeline [firstImportStep, lateImportStep] where
  ordered := by decide
  revisions := by decide
  single := by decide
  representable := by decide

/-- The repository overrides the policy of the service and shortens its own. -/
def overrideStep : RetentionStep :=
  .applyPolicy (.days 10 (by decide)) ⟨.repositoryOverride, 1⟩ (instantOfDay 0 (by decide))

def shortenStep : RetentionStep :=
  .applyPolicy (.days 3 (by decide)) ⟨.repositoryOverride, 2⟩ (instantOfDay 1 (by decide))

def expireStep : RetentionStep :=
  .expire (instantOfDay 3 (by decide))

/-- A new policy of the service comes after the detail has expired. -/
def reviveStep : RetentionStep :=
  .applyPolicy (.days 10 (by decide)) ⟨.serviceDefault, 2⟩ (instantOfDay 4 (by decide))

/-- An import, two policies of the repository, a repeated import, the expiry and a policy that comes too late. -/
def life : List RetentionStep :=
  [firstImportStep, overrideStep, shortenStep, lateImportStep, expireStep, reviveStep]

theorem life_timeline : Timeline life where
  ordered := by decide
  revisions := by decide
  single := by decide
  representable := by decide

end Sample

/-- The repository keeps a detail longer than the service would, until it expires for good. -/
theorem retention_machine_life : ∃ retained repeated expired final,
    performAll [Sample.firstImportStep, Sample.overrideStep, Sample.shortenStep] = .ok retained ∧
      retained.state = .retained ∧ Sample.lateImportStep.perform retained = .ok repeated ∧ repeated = retained ∧
      Sample.expireStep.perform repeated = .ok expired ∧ expired.state = .expired ∧
      Sample.reviveStep.perform expired = .ok final ∧ final = expired := by
  have machine := (retention_machine Sample.life_timeline).2
  have chained : ∀ {steps step before after found}, performAll steps = .ok before → step.perform before = .ok after →
      performAll (steps ++ [step]) = .ok found → found = after := by
    intro steps step before after found ran performed again
    rw [performAll_snoc, ran, ok_bind_eq, performed] at again
    exact (Except.ok.inj again).symm
  obtain ⟨retained, repeated, ran, imported, performs⟩ := machine (Sample.life.take 3) Sample.lateImportStep _ rfl
  obtain ⟨found, expired, ranAgain, expires, -⟩ := machine (Sample.life.take 3 ++ [Sample.lateImportStep]) Sample.expireStep _ rfl
  obtain ⟨last, final, ranOn, revives, absorbs⟩ :=
    machine (Sample.life.take 3 ++ [Sample.lateImportStep] ++ [Sample.expireStep]) Sample.reviveStep _ rfl
  obtain rfl := chained ran imported ranAgain
  obtain rfl := chained ranAgain expires ranOn
  have states : (performAll (Sample.life.take 3)).toOption.map (fun detail => detail.state) = some .retained ∧
      (performAll (Sample.life.take 3 ++ [Sample.lateImportStep] ++ [Sample.expireStep])).toOption.map
        (fun detail => detail.state) = some .expired := by
    decide
  rw [ran, ranOn] at states
  have kept : retained.state = .retained := Option.some.inj states.1
  have lapsed : last.state = .expired := Option.some.inj states.2
  exact ⟨retained, found, last, final, ran, kept, imported, performs.repeats ⟨⟨_, _, _, rfl⟩, by simp [kept]⟩, expires, lapsed,
    revives, absorbs.absorbing lapsed⟩

/-- The repeated import of a detail returns it retained, although it is due. -/
theorem repeated_import_due : ¬ ∀ earlier step before after, Timeline (earlier ++ [step]) →
    performAll earlier = .ok before → step.perform before = .ok after → after.state = .retained → ¬ after.DueAt step.now := by
  intro claimed
  refine claimed [Sample.firstImportStep] Sample.lateImportStep Sample.retainedDetail Sample.retainedDetail
    Sample.imports_timeline rfl rfl rfl ?_
  decide

end CiCoordinator.CiEconomics

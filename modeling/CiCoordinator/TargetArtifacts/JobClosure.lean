import CiCoordinator.TargetArtifacts.RequesterAgreement

/- This file proves that the coordinator and the target refuse cyclic jobs and close selections of jobs alike. -/

namespace CiCoordinator.TargetArtifacts

open Library Kernel ExecutionOrchestration TargetWorkflowBinding Dictionary List

section Relation

variable {K : Type} [DecidableEq K] (dependencies : Dictionary K (List K))

/-- A job of a map depends on the jobs that it needs. -/
def Depends (source target : K) : Prop :=
  ∃ needs, dependencies.get? source = some needs ∧ target ∈ needs

/-- Some job depends on itself through others. -/
def Cyclic : Prop :=
  ∃ job, Relation.TransGen (Depends dependencies) job job

/-- Some job depends on a job that the map does not have. -/
def Dangling : Prop :=
  ∃ source target, Depends dependencies source target ∧ target ∉ dependencies.keys

variable {dependencies : Dictionary K (List K)}

theorem mem_keys_of_depends {source target : K} (edge : Depends dependencies source target) : source ∈ dependencies.keys := by
  obtain ⟨needs, found, -⟩ := edge
  exact mem_keys_iff.mpr ⟨needs, found⟩

theorem mem_keys_of_path {source target : K} (path : Relation.TransGen (Depends dependencies) source target) :
    source ∈ dependencies.keys := by
  obtain ⟨next, edge, -⟩ := Relation.TransGen.head'_iff.mp path
  exact mem_keys_of_depends edge

/-- A path to a job of the map goes through jobs of the map only. -/
theorem path_inside {source target : K} (path : Relation.TransGen (Depends dependencies) source target)
    (known : target ∈ dependencies.keys) :
    Relation.TransGen (fun first second => Depends dependencies first second ∧ second ∈ dependencies.keys) source target := by
  induction path using Relation.TransGen.head_induction_on with
  | single edge => exact Relation.TransGen.single ⟨edge, known⟩
  | head edge rest ih => exact Relation.TransGen.head ⟨edge, mem_keys_of_path rest⟩ ih

end Relation

section Coordinator

variable {dependencies : Dictionary Text (List Text)} {jobs : List TargetJobBinding} {room : Nat}

theorem needsOf_eq_ok {jobId : Text} {needs : List Text} :
    needsOf dependencies jobId = .ok needs ↔ dependencies.get? jobId = some needs := by
  unfold needsOf
  cases dependencies.get? jobId with
  | none => simp
  | some found => simp

theorem jobSearch_needs {jobId : Text} {needs : List Text} :
    (ExecutionOrchestration.jobSearch dependencies).needs jobId = .ok needs ↔ dependencies.get? jobId = some needs :=
  needsOf_eq_ok

theorem jobSearch_follows {jobId : Text} :
    (ExecutionOrchestration.jobSearch dependencies).follows jobId = true ↔ jobId ∈ dependencies.keys :=
  decide_eq_true_iff

theorem jobSearch_known {jobId : Text} {needs : List Text}
    (found : (ExecutionOrchestration.jobSearch dependencies).needs jobId = .ok needs) : jobId ∈ dependencies.keys :=
  mem_keys_iff.mpr ⟨needs, needsOf_eq_ok.mp found⟩

theorem jobSearch_edge {source target : Text} : (ExecutionOrchestration.jobSearch dependencies).Edge source target ↔
      Depends dependencies source target ∧ target ∈ dependencies.keys := by
  constructor
  · rintro ⟨needs, found, member, followed⟩
    exact ⟨⟨needs, needsOf_eq_ok.mp found, member⟩, of_decide_eq_true followed⟩
  · rintro ⟨⟨needs, found, member⟩, known⟩
    exact ⟨needs, needsOf_eq_ok.mpr found, member, decide_eq_true known⟩

/-- The coordinator's search is sound exactly on maps without a cycle. -/
theorem jobSearch_sound : (ExecutionOrchestration.jobSearch dependencies).Sound dependencies.keys ↔ ¬ Cyclic dependencies := by
  have edges : (ExecutionOrchestration.jobSearch dependencies).Edge =
      fun source target => Depends dependencies source target ∧ target ∈ dependencies.keys := by
    funext source target
    exact propext jobSearch_edge
  constructor
  · rintro ⟨acyclic, -⟩ ⟨job, cycle⟩
    apply acyclic job
    rw [edges]
    exact path_inside cycle (mem_keys_of_path cycle)
  · intro acyclic
    constructor
    · intro job cycle
      rw [edges] at cycle
      exact acyclic ⟨job, Relation.TransGen.mono (fun _ _ edge => edge.1) _ _ cycle⟩
    · intro job reached
      have known : job ∈ dependencies.keys := by
        rcases reached with listed | ⟨source, edge⟩
        · exact listed
        · exact (jobSearch_edge.mp edge).2
      obtain ⟨needs, found⟩ := mem_keys_iff.mp known
      exact ⟨needs, needsOf_eq_ok.mpr found⟩

end Coordinator

section Target

variable {dependencies : Dictionary CodeUnits (List CodeUnits)} {room : Nat}

theorem targetSearch_needs {jobId : CodeUnits} {needs : List CodeUnits} :
    (jobSearch dependencies).needs jobId = .ok needs ↔ dependencies.get? jobId = some needs := by
  unfold jobSearch
  dsimp only
  cases dependencies.get? jobId with
  | none => simp
  | some found => simp

theorem targetSearch_edge {source target : CodeUnits} :
    (jobSearch dependencies).Edge source target ↔ Depends dependencies source target := by
  constructor
  · rintro ⟨needs, found, member, -⟩
    exact ⟨needs, targetSearch_needs.mp found, member⟩
  · rintro ⟨needs, found, member⟩
    exact ⟨needs, targetSearch_needs.mpr found, member, rfl⟩

/-- The target's search is sound exactly on maps without a cycle and without a dangling reference. -/
theorem targetSearch_sound :
    (jobSearch dependencies).Sound dependencies.keys ↔ ¬ Cyclic dependencies ∧ ¬ Dangling dependencies := by
  have edges : (jobSearch dependencies).Edge = Depends dependencies := by
    funext source target
    exact propext targetSearch_edge
  rw [DepthFirst.Sound, edges]
  refine and_congr not_exists.symm ?_
  constructor
  · rintro complete ⟨source, target, edge, unknown⟩
    obtain ⟨needs, found⟩ := complete target (.inr ⟨source, edge⟩)
    exact unknown (mem_keys_iff.mpr ⟨needs, targetSearch_needs.mp found⟩)
  · intro complete job reached
    have known : job ∈ dependencies.keys := by
      rcases reached with listed | ⟨source, edge⟩
      · exact listed
      · by_contra unknown
        exact complete ⟨source, job, edge, unknown⟩
    obtain ⟨needs, found⟩ := mem_keys_iff.mp known
    exact ⟨needs, targetSearch_needs.mpr found⟩

end Target

section Acyclicity

variable {room : Nat} (jobs : List TargetJobBinding)

theorem length_keys_le : (jobDependencies jobs).keys.length ≤ jobs.length := by
  have distinct : (jobDependencies jobs).keys.Nodup := (jobDependencies jobs).distinct
  have inside : (jobDependencies jobs).keys ⊆ jobs.map (·.jobId) := by
    intro jobId member
    rw [jobDependencies, mem_keys_comprehend] at member
    simpa using member
  simpa using (List.Nodup.subperm distinct inside).length_le

/-- The coordinator's check passes only acyclic jobs, and all of them when the call stack has room for every job. -/
theorem requireAcyclicJobs_coordinator :
    (ExecutionOrchestration.requireAcyclicJobs room jobs = .ok () → ¬ Cyclic (jobDependencies jobs)) ∧
      (jobs.length < room → ¬ Cyclic (jobDependencies jobs) → ExecutionOrchestration.requireAcyclicJobs room jobs = .ok ()) := by
  rw [← jobSearch_sound]
  constructor
  · intro passed
    rw [ExecutionOrchestration.requireAcyclicJobs, bind_eq_ok] at passed
    obtain ⟨after, ran, -⟩ := passed
    exact DepthFirst.sound_of_run jobSearch_known ran
  · intro enough sound
    have keys := length_keys_le jobs
    obtain ⟨after, ran⟩ := (DepthFirst.run_returns_iff jobSearch_known (keys.trans_lt enough)).mpr sound
    rw [ExecutionOrchestration.requireAcyclicJobs, ran]
    rfl

/-- The target's check passes only acyclic maps without a dangling reference, and all of them when the call stack has
room for every job. -/
theorem requireAcyclicJobs_target (dependencies : Dictionary CodeUnits (List CodeUnits)) :
    (requireAcyclicJobs room dependencies = .ok () → ¬ Cyclic dependencies ∧ ¬ Dangling dependencies) ∧
      (dependencies.keys.length < room → ¬ Cyclic dependencies ∧ ¬ Dangling dependencies →
        requireAcyclicJobs room dependencies = .ok ()) := by
  have known : ∀ {jobId needs}, (jobSearch dependencies).needs jobId = .ok needs → jobId ∈ dependencies.keys :=
    fun found => mem_keys_iff.mpr ⟨_, targetSearch_needs.mp found⟩
  rw [← targetSearch_sound]
  constructor
  · intro passed
    rw [requireAcyclicJobs, bind_eq_ok] at passed
    obtain ⟨after, ran, -⟩ := passed
    exact DepthFirst.sound_of_run known ran
  · intro enough sound
    obtain ⟨after, ran⟩ := (DepthFirst.run_returns_iff known enough).mpr sound
    rw [requireAcyclicJobs, ran]
    rfl

end Acyclicity

section Closures

/-- A set has the needs of its jobs that are jobs themselves. -/
def ClosedUnder (dependencies : Dictionary Text (List Text)) (set : Set Text) : Prop :=
  ∀ source ∈ set, ∀ target ∈ dependencies.keys, Depends dependencies source target → target ∈ set

variable {dependencies : Dictionary Text (List Text)}

theorem mem_successors {source target : Text} : target ∈ successorsOf (executionNeeds dependencies) source ↔
      Depends dependencies source target ∧ target ∈ dependencies.keys := by
  unfold successorsOf executionNeeds needsOf Depends
  cases found : dependencies.get? source with
  | none => simp [bind, Except.bind]
  | some needs => simp [bind, Except.bind, pure, Except.pure]

theorem executionNeeds_known {jobId : Text} (member : jobId ∈ dependencies.keys) :
    ∃ needs, executionNeeds dependencies jobId = .ok needs := by
  obtain ⟨needs, found⟩ := mem_keys_iff.mp member
  exact ⟨_, by rw [executionNeeds, needsOf_eq_ok.mpr found]; rfl⟩

/-- The least closed set of a selection is what its jobs reach. -/
theorem isLeast_closedUnder {seeds : List Text} :
    IsLeast {set : Set Text | (∀ seed ∈ seeds, seed ∈ set) ∧ ClosedUnder dependencies set}
      {job | Reachable (successorsOf (executionNeeds dependencies)) seeds job} := by
  have least := @isLeast_reachable Text (successorsOf (executionNeeds dependencies)) seeds
  have same : ∀ set : Set Text, ClosedUnder dependencies set ↔ ∀ source ∈ set,
      ∀ target ∈ successorsOf (executionNeeds dependencies) source, target ∈ set := by
    intro set
    refine forall₂_congr fun source _ => forall_congr' fun target => ?_
    rw [mem_successors]
    exact ⟨fun closed edge => closed edge.2 edge.1, fun closed known edge => closed ⟨edge, known⟩⟩
  simpa only [same] using least

variable [CallStack] {workflow : TargetWorkflowBinding} {seeds : List Text}

/-- What a workflow binding was checked for about its jobs. -/
theorem canonical_jobs (workflow : TargetWorkflowBinding) : CanonicalTexts workflow.executionJobIds := by
  have admitted := workflow.admitted
  unfold TargetWorkflowFields.postInit at admitted
  simp only [bind_unit_eq_ok, requireSorted_eq_ok] at admitted
  exact admitted.2.2.1

theorem mem_jobKeys {jobId : Text} :
    jobId ∈ (jobDependencies workflow.executionJobs).keys ↔ jobId ∈ workflow.executionJobIds := by
  rw [jobDependencies, mem_keys_comprehend, TargetWorkflowFields.executionJobIds, map_map]
  exact Iff.rfl

theorem reachable_inside (inside : ∀ seed ∈ seeds, seed ∈ workflow.executionJobIds) {job : Text}
    (reached : Reachable (successorsOf (executionNeeds (jobDependencies workflow.executionJobs))) seeds job) :
    job ∈ workflow.executionJobIds := by
  obtain ⟨start, member, path⟩ := reached
  cases path with
  | refl => exact inside job member
  | tail _ edge => exact mem_jobKeys.mp (mem_successors.mp edge).2

/-- The coordinator closes every selection of jobs that is listed in order. -/
theorem dependencyClosure_coordinator (listing : SetListing) (canonical : CanonicalTexts seeds) (nonempty : seeds ≠ [])
    (inside : ∀ seed ∈ seeds, seed ∈ workflow.executionJobIds) :
    ∃ closed, workflow.dependencyClosure listing seeds = .ok closed ∧ CanonicalTexts closed ∧ ∀ job, job ∈ closed ↔
      Reachable (successorsOf (executionNeeds (jobDependencies workflow.executionJobs))) seeds job := by
  have listed : ∀ job, job ∈ (listing.list seeds).reverse ↔ job ∈ seeds := by
    intro job
    rw [mem_reverse, (listing.perm seeds).mem_iff]
  obtain ⟨final, ran, seen⟩ := @lookupClosure_total Text PyError _ .stack
    (executionNeeds (jobDependencies workflow.executionJobs))
    (jobDependencies workflow.executionJobs).keys (listing.list seeds).reverse
    (fun source target edge => (mem_successors.mp edge).2) (by
      rintro job (start | known)
      · exact executionNeeds_known (mem_jobKeys.mpr (inside job ((listed job).mp start)))
      · exact executionNeeds_known known)
  have reached : ∀ job, job ∈ final.seen ↔
      Reachable (successorsOf (executionNeeds (jobDependencies workflow.executionJobs))) seeds job :=
    fun job => (seen job).trans (reachable_congr listed)
  have scalar : ∀ job ∈ final.seen, job.scalar = true := fun job member =>
    (canonical_jobs workflow).1 job (reachable_inside inside ((reached job).mp member))
  obtain ⟨closed, sorted, ordered, members⟩ := sortedTexts_total scalar
  refine ⟨closed, ?_, ordered, fun job => (members job).trans (reached job)⟩
  have admitted : ¬ ∃ jobId ∈ seeds, jobId ∉ workflow.executionJobIds := by
    rintro ⟨jobId, member, outside⟩
    exact outside (inside jobId member)
  simp only [TargetWorkflowBinding.dependencyClosure, bind_eq_ok, raiseIf_eq_ok, requireSorted_eq_ok, exists_unit_iff]
  exact ⟨nonempty, canonical, admitted, final, ran, sorted⟩

end Closures

section TargetClosures

theorem utf16_lt (point : CodePoint) : ∀ unit ∈ point.utf16, unit < 0x10000 := by
  have bound := point.isLt
  unfold CodePoint.utf16
  split
  · simpa using ‹_›
  · simp only [mem_cons, not_mem_nil, or_false]
    rintro unit (high | low)
    · omega
    · omega

/-- The units of a text are its units in UTF-16. -/
theorem unitOrder_units (text : Text) : unitOrder (Text.units text) = text.utf16 := by
  induction text with
  | nil => rfl
  | cons point rest ih =>
    have single : unitOrder point.units = point.utf16 := by
      have kept : ∀ unit ∈ point.utf16, (Fin.val ∘ Fin.ofNat 0x10000) unit = id unit := fun unit member =>
        Nat.mod_eq_of_lt (utf16_lt point unit member)
      rw [unitOrder, CodePoint.units, map_map, map_congr_left kept, map_id]
    rw [unitOrder, Text.units_cons, map_append, Text.utf16_cons]
    rw [unitOrder] at ih single
    rw [ih, single]

theorem units_inj {left right : Text} (leftScalar : left.scalar = true) (rightScalar : right.scalar = true) :
    Text.units left = Text.units right ↔ left = right := by
  constructor
  · intro same
    rw [← CodeUnits.decode_units leftScalar, ← CodeUnits.decode_units rightScalar, same]
  · exact congrArg Text.units

theorem separates_unitOrder (strings : List CodeUnits) : Separates unitOrder strings := by
  intro left _ right _ same
  exact map_injective_iff.mpr Fin.val_injective same

variable [CallStack] {workflow : TargetWorkflowBinding} {seeds : List Text}

/-- The jobs as the target reads them. -/
def targetJobs (workflow : TargetWorkflowBinding) : List ExecutionJob :=
  (Workflow.ofBinding workflow).executionJobs

theorem targetJobs_ids (workflow : TargetWorkflowBinding) :
    (targetJobs workflow).map (·.jobId) = workflow.executionJobIds.map Text.units := by
  rw [targetJobs, Workflow.ofBinding, map_map, TargetWorkflowFields.executionJobIds, map_map]
  rfl

omit [CallStack] in
theorem scalar_needs (job : TargetJobBinding) {need : Text} (member : need ∈ job.needs) : need.scalar = true := by
  exact (TargetJobFields.postInit_eq_ok.mp job.admitted).2.2.1.1 need member

/-- The jobs of a workflow have distinct ids, so that a lookup finds each of them. -/
theorem get?_jobs {job : TargetJobBinding} (member : job ∈ workflow.executionJobs) :
    (jobDependencies workflow.executionJobs).get? job.jobId = some job.needs ∧
      (knownDependencies (targetJobs workflow)).get? (Text.units job.jobId) =
        some ((job.needs.map Text.units).filter fun need => need ∈ workflow.executionJobIds.map Text.units) := by
  have canonical := canonical_jobs workflow
  have distinct : workflow.executionJobIds.Nodup := canonical.nodup
  constructor
  · refine Dictionary.get?_comprehend_of_mem ?_ (mem_map_of_mem member)
    rw [map_map]
    exact distinct
  · have targets : ((targetJobs workflow).map (·.jobId)).Nodup := by
      rw [targetJobs_ids]
      refine List.Nodup.map_on ?_ distinct
      intro left leftMember right rightMember same
      exact (units_inj (canonical.1 left leftMember) (canonical.1 right rightMember)).mp same
    have listed : ExecutionJob.ofBinding job ∈ targetJobs workflow := mem_map_of_mem member
    have keys : (((targetJobs workflow).map fun other => (other.jobId, other.needs.filter fun need =>
        need ∈ (targetJobs workflow).map (·.jobId))).map Prod.fst).Nodup := by
      rw [map_map]
      exact targets
    have found := Dictionary.get?_comprehend_of_mem keys (mem_map_of_mem listed)
    rw [targetJobs_ids] at found
    rw [knownDependencies, targetJobs_ids]
    exact found

/-- The target looks up what the coordinator looks up. -/
theorem mem_targetSuccessors {source : Text} (known : source ∈ workflow.executionJobIds) {target : CodeUnits} :
    target ∈ successorsOf (jobSearch (knownDependencies (targetJobs workflow))).needs (Text.units source) ↔
      ∃ need, Text.units need = target ∧
        need ∈ successorsOf (executionNeeds (jobDependencies workflow.executionJobs)) source := by
  obtain ⟨job, member, rfl⟩ := mem_map.mp known
  obtain ⟨own, read⟩ := get?_jobs member
  have found : successorsOf (jobSearch (knownDependencies (targetJobs workflow))).needs (Text.units job.jobId) =
      (job.needs.map Text.units).filter fun need => need ∈ workflow.executionJobIds.map Text.units := by
    rw [successorsOf, targetSearch_needs.mpr read]
  have scalar := (canonical_jobs workflow).1
  rw [found, mem_filter, decide_eq_true_eq, mem_map]
  constructor
  · rintro ⟨⟨need, needed, rfl⟩, inside⟩
    obtain ⟨other, listed, same⟩ := mem_map.mp inside
    rw [units_inj (scalar other listed) (scalar_needs job needed)] at same
    subst same
    exact ⟨other, rfl, mem_successors.mpr ⟨⟨job.needs, own, needed⟩, mem_jobKeys.mpr listed⟩⟩
  · rintro ⟨need, rfl, edge⟩
    obtain ⟨⟨needs, same, needed⟩, inside⟩ := mem_successors.mp edge
    rw [own, Option.some.injEq] at same
    subst same
    exact ⟨⟨need, needed, rfl⟩, mem_map_of_mem (mem_jobKeys.mp inside)⟩

/-- The target reaches the jobs that the coordinator reaches. -/
theorem reachable_target (inside : ∀ seed ∈ seeds, seed ∈ workflow.executionJobIds) {string : CodeUnits} :
    Reachable (successorsOf (jobSearch (knownDependencies (targetJobs workflow))).needs) (seeds.map Text.units) string ↔
      ∃ job, Text.units job = string ∧
        Reachable (successorsOf (executionNeeds (jobDependencies workflow.executionJobs))) seeds job := by
  constructor
  · rintro ⟨start, listed, path⟩
    obtain ⟨seed, member, rfl⟩ := mem_map.mp listed
    induction path with
    | refl => exact ⟨seed, rfl, seed, member, Relation.ReflTransGen.refl⟩
    | tail _ edge ih =>
      obtain ⟨job, rfl, reached⟩ := ih
      obtain ⟨need, rfl, step⟩ := (mem_targetSuccessors (reachable_inside inside reached)).mp edge
      obtain ⟨origin, first, before⟩ := reached
      exact ⟨need, rfl, origin, first, before.tail step⟩
  · rintro ⟨job, rfl, origin, member, path⟩
    refine ⟨Text.units origin, mem_map_of_mem member, ?_⟩
    induction path with
    | refl => exact Relation.ReflTransGen.refl
    | tail before step ih =>
      have known := reachable_inside inside ⟨origin, member, before⟩
      exact ih.tail ((mem_targetSuccessors known).mpr ⟨_, rfl, step⟩)

theorem targetNeeds_known {string : CodeUnits} (member : string ∈ (knownDependencies (targetJobs workflow)).keys) :
    ∃ needs, (jobSearch (knownDependencies (targetJobs workflow))).needs string = .ok needs := by
  obtain ⟨needs, found⟩ := mem_keys_iff.mp member
  exact ⟨needs, targetSearch_needs.mpr found⟩

theorem mem_targetKeys {string : CodeUnits} :
    string ∈ (knownDependencies (targetJobs workflow)).keys ↔ string ∈ workflow.executionJobIds.map Text.units := by
  rw [knownDependencies, mem_keys_comprehend, map_map, ← targetJobs_ids]
  exact Iff.rfl

theorem targetSuccessors_inside {source target : CodeUnits}
    (edge : target ∈ successorsOf (jobSearch (knownDependencies (targetJobs workflow))).needs source) :
    target ∈ (knownDependencies (targetJobs workflow)).keys := by
  unfold successorsOf at edge
  split at edge
  · rename_i needs found
    have stored := mem_of_find (targetSearch_needs.mp found)
    have listed := mem_targetKeys.mp (mem_keys_iff.mpr ⟨needs, targetSearch_needs.mp found⟩)
    obtain ⟨jobId, member, rfl⟩ := mem_map.mp listed
    obtain ⟨job, known, rfl⟩ := mem_map.mp member
    have read := (get?_jobs known).2
    rw [targetSearch_needs.mp found, Option.some.injEq] at read
    rw [read, mem_filter, decide_eq_true_eq] at edge
    exact mem_targetKeys.mpr edge.2
  · cases edge

/-- The target closes the selection to the strings of the coordinator's closure. -/
theorem dependencyClosure_target (inside : ∀ seed ∈ seeds, seed ∈ workflow.executionJobIds) {closed : List Text}
    (canonical : CanonicalTexts closed) (members : ∀ job, job ∈ closed ↔
      Reachable (successorsOf (executionNeeds (jobDependencies workflow.executionJobs))) seeds job) :
    dependencyClosure (seeds.map Text.units) (targetJobs workflow) = .ok (closed.map Text.units) := by
  obtain ⟨final, ran, seen⟩ := @lookupClosure_total CodeUnits ScriptError _ .stack
    (jobSearch (knownDependencies (targetJobs workflow))).needs (knownDependencies (targetJobs workflow)).keys
    (seeds.map Text.units).reverse (fun _ _ edge => targetSuccessors_inside edge) (by
      rintro string (start | known)
      · rw [mem_reverse, mem_map] at start
        obtain ⟨seed, member, rfl⟩ := start
        exact targetNeeds_known (mem_targetKeys.mpr (mem_map_of_mem (inside seed member)))
      · exact targetNeeds_known known)
  rw [dependencyClosure, ran, ok_bind_eq]
  refine congrArg Except.ok ?_
  refine Increasing.ext (sortedUnique_increasing (separates_unitOrder _)) ?_ fun string => ?_
  · rw [Increasing.map_iff]
    simp only [unitOrder_units]
    exact canonical.2
  · rw [mem_sortedUnique, seen, reachable_congr fun vertex => mem_reverse, reachable_target inside, mem_map]
    refine exists_congr fun job => ?_
    rw [members, and_comm]

end TargetClosures

/-- The coordinator refuses cyclic jobs, and nothing else while its call stack has room; the target refuses dangling
references too. Both close every selection of a registry's jobs to the same list, the least closed set in order. -/
theorem jobs_agree [CallStack] : (∀ (room : Nat) (jobs : List TargetJobBinding),
        (ExecutionOrchestration.requireAcyclicJobs room jobs = .ok () → ¬ Cyclic (jobDependencies jobs)) ∧
          (jobs.length < room → ¬ Cyclic (jobDependencies jobs) →
            ExecutionOrchestration.requireAcyclicJobs room jobs = .ok ())) ∧
      (∀ (room : Nat) (dependencies : Dictionary CodeUnits (List CodeUnits)),
        (requireAcyclicJobs room dependencies = .ok () → ¬ Cyclic dependencies ∧ ¬ Dangling dependencies) ∧
          (dependencies.keys.length < room → ¬ Cyclic dependencies ∧ ¬ Dangling dependencies →
            requireAcyclicJobs room dependencies = .ok ())) ∧
      ∀ (registry : TargetExecutionRegistry), ∀ workflow ∈ registry.workflows, ∀ (listing : SetListing) (seeds : List Text),
        CanonicalTexts seeds → seeds ≠ [] → (∀ seed ∈ seeds, seed ∈ workflow.executionJobIds) →
        ∃ closed, workflow.dependencyClosure listing seeds = .ok closed ∧
          dependencyClosure (seeds.map Text.units) (Workflow.ofBinding workflow).executionJobs =
            .ok (closed.map Text.units) ∧
          CanonicalTexts closed ∧
          IsLeast {set : Set Text | (∀ seed ∈ seeds, seed ∈ set) ∧ ClosedUnder (jobDependencies workflow.executionJobs) set}
            {job | job ∈ closed} := by
  refine ⟨fun room jobs => requireAcyclicJobs_coordinator jobs, fun room dependencies =>
    requireAcyclicJobs_target dependencies, ?_⟩
  intro registry workflow _ listing seeds canonical nonempty inside
  obtain ⟨closed, computed, ordered, members⟩ := dependencyClosure_coordinator listing canonical nonempty inside
  refine ⟨closed, computed, dependencyClosure_target inside ordered members, ordered, ?_⟩
  have same : {job | job ∈ closed} =
      {job | Reachable (successorsOf (executionNeeds (jobDependencies workflow.executionJobs))) seeds job} :=
    Set.ext members
  rw [same]
  exact isLeast_closedUnder

namespace Sample

/-- The host lists a set in the order of its members. -/
def listing : SetListing :=
  ⟨fun members => members, fun _ => List.Perm.refl _⟩

theorem dependencyClosure_sample : ∃ closed, @TargetWorkflowBinding.dependencyClosure stack listing workflow [ascii "test"] =
      .ok closed ∧
    dependencyClosure ([ascii "test"].map Text.units) (@Workflow.ofBinding stack workflow).executionJobs =
      .ok (closed.map Text.units) ∧
    CanonicalTexts closed ∧
    IsLeast {set : Set Text | (∀ seed ∈ [ascii "test"], seed ∈ set) ∧ ClosedUnder (jobDependencies workflow.executionJobs) set}
      {job | job ∈ closed} :=
  (@jobs_agree stack).2.2 registry workflow (mem_singleton.mpr rfl) listing [ascii "test"] (by decide) (by decide)
    (by decide)

variable (index : Nat)

/-- The id of a job in a chain of up to a thousand. -/
def chainId : Text :=
  [0x6A, digitPoint (index / 100), digitPoint (index / 10), digitPoint index]

theorem chainId_injective {first second : Nat} (firstSmall : first < 1000) (secondSmall : second < 1000)
    (same : chainId first = chainId second) : first = second := by
  simp only [chainId, List.cons.injEq, digitPoint, Fin.mk.injEq] at same
  omega

theorem isJobId_chainId : isJobId (chainId index) = true := by
  have start : isJobStart 0x6A = true := by decide
  simp [isJobId, chainId, start, isJobPoint]

/-- The job of the chain at a position: the last one needs nothing and every other one needs the next. -/
def chainFields : TargetJobFields :=
  ⟨chainId index, if index < 999 then [chainId (index + 1)] else []⟩

theorem chain_passed : (chainFields index).postInit = .ok () := by
  rw [TargetJobFields.postInit_eq_ok, chainFields]
  split
  · rename_i small
    have needs : ∀ need ∈ [chainId (index + 1)], isJobId need = true := by
      intro need member
      rw [mem_singleton.mp member]
      exact isJobId_chainId _
    refine ⟨isJobId_chainId _, needs, ⟨fun need member => scalar_of_isJobId (needs need member), pairwise_singleton _ _⟩, ?_⟩
    rw [mem_singleton]
    intro same
    have positions := chainId_injective (by omega) (by omega) same
    omega
  · exact ⟨isJobId_chainId _, by simp, CanonicalTexts.nil, by simp⟩

/-- A thousand jobs, each behind the next one. -/
def chain : List TargetJobBinding :=
  (List.range 1000).map fun index => ⟨chainFields index, chain_passed index⟩

theorem entries_chain : (jobDependencies chain).entries = (List.range 1000).map fun index =>
    (chainId index, (chainFields index).needs) := by
  have pairs : (chain.map fun job => (job.jobId, job.needs)) = (List.range 1000).map fun index =>
      (chainId index, (chainFields index).needs) := map_map
  rw [jobDependencies, pairs]
  refine entries_comprehend ?_
  rw [map_map]
  refine List.Nodup.map_on ?_ nodup_range
  intro first firstMember second secondMember same
  exact chainId_injective (mem_range.mp firstMember) (mem_range.mp secondMember) same

theorem get?_chain {source : Text} {needs : List Text} : (jobDependencies chain).get? source = some needs ↔
      ∃ index < 1000, chainId index = source ∧ (chainFields index).needs = needs := by
  rw [Dictionary.get?_eq_some_iff, entries_chain]
  simp

theorem mem_keys_chain {job : Text} : job ∈ (jobDependencies chain).keys ↔ ∃ index < 1000, chainId index = job := by
  rw [Dictionary.keys, entries_chain]
  simp

theorem depends_chain {source target : Text} :
    Depends (jobDependencies chain) source target ↔ ∃ index < 999, chainId index = source ∧ chainId (index + 1) = target := by
  constructor
  · rintro ⟨needs, found, member⟩
    obtain ⟨index, small, rfl, rfl⟩ := get?_chain.mp found
    rw [chainFields] at member
    split at member
    · exact ⟨index, ‹_›, rfl, (mem_singleton.mp member).symm⟩
    · cases member
  · rintro ⟨index, small, rfl, rfl⟩
    refine ⟨[chainId (index + 1)], get?_chain.mpr ⟨index, by omega, rfl, ?_⟩, mem_singleton_self _⟩
    rw [chainFields, if_pos small]

/-- Along the chain positions increase. -/
theorem acyclic_chain : ¬ Cyclic (jobDependencies chain) := by
  have increases : ∀ {source target}, Relation.TransGen (Depends (jobDependencies chain)) source target →
      ∃ first second, first < second ∧ second < 1000 ∧ chainId first = source ∧ chainId second = target := by
    intro source target path
    induction path with
    | single edge =>
      obtain ⟨index, small, rfl, rfl⟩ := depends_chain.mp edge
      exact ⟨index, index + 1, by omega, by omega, rfl, rfl⟩
    | tail _ edge ih =>
      obtain ⟨first, second, before, bound, rfl, rfl⟩ := ih
      obtain ⟨index, small, same, rfl⟩ := depends_chain.mp edge
      have position := chainId_injective (by omega) bound same
      exact ⟨first, index + 1, by omega, by omega, rfl, rfl⟩
  rintro ⟨job, cycle⟩
  obtain ⟨first, second, before, bound, rfl, same⟩ := increases cycle
  have positions := chainId_injective bound (by omega) same
  omega

theorem not_dangling_chain : ¬ Dangling (jobDependencies chain) := by
  rintro ⟨source, target, edge, unknown⟩
  obtain ⟨index, small, -, rfl⟩ := depends_chain.mp edge
  exact unknown (mem_keys_chain.mpr ⟨index + 1, by omega, rfl⟩)

/-- The first visit of the chain goes as deep as the chain is long. -/
theorem requireAcyclicJobs_chain : ExecutionOrchestration.requireAcyclicJobs 999 chain = .error .recursionError := by
  have keys : (jobDependencies chain).keys = chainId 0 :: (List.range 999).map fun index => chainId (index + 1) := by
    have positions : List.range 1000 = 0 :: (List.range 999).map Nat.succ := range_succ_eq_map
    rw [Dictionary.keys, entries_chain, map_map, positions, map_cons, map_map]
    rfl
  have first : (ExecutionOrchestration.jobSearch (jobDependencies chain)).visit 999 (chainId 0) ⟨[], []⟩ =
      .error .recursionError := by
    refine @DepthFirst.visit_chain Text PyError _ (ExecutionOrchestration.jobSearch (jobDependencies chain)) chainId 999 ?_ ?_
      999 0 ⟨[], []⟩ (by omega) (by simp)
    · intro left leftMember right rightMember same
      exact chainId_injective (Nat.lt_succ_of_le (Set.mem_Iic.mp leftMember)) (Nat.lt_succ_of_le (Set.mem_Iic.mp rightMember)) same
    · intro index small
      constructor
      · rw [jobSearch_needs, get?_chain]
        refine ⟨index, by omega, rfl, ?_⟩
        rw [chainFields, if_pos small]
      · rw [jobSearch_follows, mem_keys_chain]
        exact ⟨index + 1, by omega, rfl⟩
  rw [ExecutionOrchestration.requireAcyclicJobs, DepthFirst.run, keys, foldSteps, first]
  rfl

/-- One job behind a plan that is no job of the map. -/
def dangling : List TargetJobBinding :=
  [⟨buildFields, build_passed⟩]

/-- A dangling reference passes the coordinator's check, a long chain overflows its call stack, and the two sides differ
on the empty selection. -/
theorem jobs_differ :
    (Dangling (jobDependencies dangling) ∧ ExecutionOrchestration.requireAcyclicJobs 999 dangling = .ok ()) ∧
      (¬ Cyclic (jobDependencies chain) ∧ ¬ Dangling (jobDependencies chain) ∧
        ExecutionOrchestration.requireAcyclicJobs 999 chain = .error .recursionError) ∧
      (@TargetWorkflowBinding.dependencyClosure stack listing workflow [] =
          .error (.valueError (ascii "dependency closure roots must be admitted and canonical")) ∧
        dependencyClosure [] (@Workflow.ofBinding stack workflow).executionJobs = .ok []) := by
  refine ⟨⟨⟨ascii "build", ascii "plan", ⟨[ascii "plan"], by decide, by decide⟩, by decide⟩, ?_⟩,
    ⟨acyclic_chain, not_dangling_chain, requireAcyclicJobs_chain⟩, by decide, by decide⟩
  decide

end Sample

end CiCoordinator.TargetArtifacts

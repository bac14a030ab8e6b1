import CiCoordinator.CiEconomics.ArchiveStatistics
import CiCoordinator.Library.InformationOrder

/- The statistics of an attempt as evidence and the order that the archive refines them in. -/

namespace CiCoordinator.CiEconomics

open Library List

section Dumps

variable {left right : Dump}

/-- A dump names each field once. -/
def Dump.Distinct (dump : Dump) : Prop :=
  (dump.map Prod.fst).Nodup

theorem dumped_cons {name other : Text} {value : Option DumpedValue} {rest : Dump} :
    dumped ((other, value) :: rest) name = if name = other then value else dumped rest name := by
  rw [dumped, lookup_cons]
  by_cases same : name = other
  · rw [if_pos same, same, beq_self_eq_true]
    rfl
  · rw [if_neg same, beq_false_of_ne same]
    rfl

theorem dumped_eq_none_of_not_mem {name : Text} {dump : Dump} (absent : name ∉ dump.map Prod.fst) : dumped dump name = none := by
  induction dump with
  | nil => rfl
  | cons entry rest ih =>
    rw [map_cons, mem_cons, not_or] at absent
    rw [dumped_cons, if_neg absent.1, ih absent.2]

/-- A dump knows exactly the values that its entries have. -/
theorem dumped_eq_some {name : Text} {value : DumpedValue} (distinct : left.Distinct) :
    dumped left name = some value ↔ (name, some value) ∈ left := by
  induction left with
  | nil => exact iff_of_false (by simp [dumped]) not_mem_nil
  | cons entry rest ih =>
    obtain ⟨fresh, others⟩ := nodup_cons.mp distinct
    rw [dumped_cons, mem_cons]
    split
    · rename_i same
      subst same
      constructor
      · exact fun known => .inl (Prod.ext rfl known.symm)
      · rintro (same | member)
        · exact (congrArg Prod.snd same).symm
        · exact absurd (mem_map_of_mem member) fresh
    · rename_i differs
      rw [ih others]
      exact ⟨.inr, fun member => member.resolve_left fun same => differs (congrArg Prod.fst same)⟩

theorem conflicts_iff (distinct : left.Distinct) : conflicts left right ↔ Clashes (dumped left) (dumped right) := by
  constructor
  · rintro ⟨⟨name, value⟩, member, known, other, differ⟩
    obtain ⟨first, rfl⟩ := Option.ne_none_iff_exists'.mp known
    obtain ⟨second, found⟩ := Option.ne_none_iff_exists'.mp other
    refine ⟨name, first, second, (dumped_eq_some distinct).mpr member, found, fun same => differ ?_⟩
    exact (congrArg some same).trans found.symm
  · rintro ⟨name, first, second, leftKnown, rightKnown, differ⟩
    refine ⟨(name, some first), (dumped_eq_some distinct).mp leftKnown, Option.some_ne_none _, ?_, ?_⟩
    · exact rightKnown ▸ Option.some_ne_none _
    · exact fun same => differ (Option.some.inj (same.trans rightKnown))

theorem preserves_iff (distinct : right.Distinct) : preserves left right ↔ Knows (dumped left) (dumped right) := by
  constructor
  · intro kept name value known
    exact (kept _ ((dumped_eq_some distinct).mp known)).resolve_left (Option.some_ne_none _)
  · rintro knows ⟨name, value⟩ member
    cases value with
    | none => exact .inl rfl
    | some value => exact .inr (knows name value ((dumped_eq_some distinct).mpr member))

/-- Dumps of the same fields that know the same values are equal. -/
theorem dump_eq_of_dumped (distinct : left.Distinct) (fields : left.map Prod.fst = right.map Prod.fst)
    (same : dumped left = dumped right) : left = right := by
  induction left generalizing right with
  | nil => exact (map_eq_nil_iff.mp fields.symm).symm
  | cons entry rest ih =>
    cases right with
    | nil => cases fields
    | cons other others =>
      obtain ⟨fresh, distinct⟩ := nodup_cons.mp distinct
      obtain ⟨name, tail⟩ := List.cons.inj fields
      have head := congrFun same entry.1
      rw [dumped_cons, dumped_cons, if_pos rfl, if_pos name] at head
      have below : dumped rest = dumped others := by
        funext field
        by_cases first : field = entry.1
        · rw [first, dumped_eq_none_of_not_mem fresh, dumped_eq_none_of_not_mem (tail ▸ fresh)]
        · have known := congrFun same field
          rwa [dumped_cons, dumped_cons, if_neg first, if_neg (name ▸ first)] at known
      rw [ih distinct tail below, show entry = other from Prod.ext name head]

end Dumps

theorem ArchivedAttemptHeader.distinct_dump (self : ArchivedAttemptHeader) : self.dump.Distinct := by
  simp only [Dump.Distinct, ArchivedAttemptHeader.dump, map_cons, map_nil]
  decide

theorem ArchivedJobStatistics.distinct_dump (self : ArchivedJobStatistics) : self.dump.Distinct := by
  simp only [Dump.Distinct, ArchivedJobStatistics.dump, map_cons, map_nil]
  decide

theorem WorkflowConclusion.text_injective : Function.Injective WorkflowConclusion.text := by
  intro first second
  cases first <;> cases second <;> decide

/-- A job is determined by the fields of its dump. -/
theorem ArchivedJobStatistics.eq_of_dump {first second : ArchivedJobStatistics} (same : first.dump = second.dump) :
    first = second := by
  obtain ⟨⟨id, name, conclusion, created, started, completed, labels, runner, group⟩, _⟩ := first
  obtain ⟨⟨id', name', conclusion', created', started', completed', labels', runner', group'⟩, _⟩ := second
  simp only [ArchivedJobStatistics.dump, List.cons.injEq, Prod.mk.injEq, Option.some.injEq, DumpedValue.number.injEq,
    DumpedValue.text.injEq, DumpedValue.labels.injEq, true_and, and_true] at same
  obtain ⟨rfl, rfl, concluded, sameCreated, sameStarted, sameCompleted, rfl, sameRunner, sameGroup⟩ := same
  have instants : Function.Injective DumpedValue.instant := fun _ _ => DumpedValue.instant.inj
  have numbers : Function.Injective DumpedValue.number := fun _ _ => DumpedValue.number.inj
  obtain rfl := WorkflowConclusion.text_injective concluded
  obtain rfl := Option.map_injective instants sameCreated
  obtain rfl := Option.map_injective instants sameStarted
  obtain rfl := Option.map_injective instants sameCompleted
  obtain rfl := Option.map_injective numbers sameRunner
  obtain rfl := Option.map_injective numbers sameGroup
  rfl

theorem ArchivedAttemptHeader.total_of_dump {first second : ArchivedAttemptHeader} (same : first.dump = second.dump) :
    first.providerJobTotal = second.providerJobTotal := by
  simp only [ArchivedAttemptHeader.dump, List.cons.injEq, Prod.mk.injEq, true_and, and_true] at same
  cases total : first.providerJobTotal <;> cases total' : second.providerJobTotal <;> simp_all

/-- A header is determined by the fields of its dump and by its population. -/
theorem ArchivedAttemptHeader.eq_of_dump {first second : ArchivedAttemptHeader} (same : first.dump = second.dump)
    (classified : first.population = second.population) : first = second := by
  have totals := total_of_dump same
  obtain ⟨⟨attempt, workflow, path, blob, event, conclusion, created, population, total⟩, _⟩ := first
  obtain ⟨⟨attempt', workflow', path', blob', event', conclusion', created', population', total'⟩, _⟩ := second
  simp only [ArchivedAttemptHeader.dump, List.cons.injEq, Prod.mk.injEq, Option.some.injEq, DumpedValue.attempt.injEq,
    DumpedValue.number.injEq, DumpedValue.text.injEq, DumpedValue.instant.injEq, true_and, and_true] at same
  obtain ⟨rfl, rfl, samePath, sameBlob, rfl, concluded, rfl, -⟩ := same
  have texts : Function.Injective DumpedValue.text := fun _ _ => DumpedValue.text.inj
  have conclusions : Function.Injective fun conclusion : WorkflowConclusion => DumpedValue.text conclusion.text :=
    texts.comp WorkflowConclusion.text_injective
  obtain rfl := Option.map_injective texts samePath
  obtain rfl := Option.map_injective texts sameBlob
  obtain rfl := Option.map_injective conclusions concluded
  obtain rfl : total = total' := totals
  obtain rfl : population = population' := classified
  rfl

namespace ArchivedAttemptStatistics

variable {prior incoming : ArchivedAttemptStatistics}

/-- What the statistics of an attempt tell: the known fields of their header and of their jobs. -/
def evidence (self : ArchivedAttemptStatistics) : Evidence Text Int DumpedValue where
  header := dumped self.header.dump
  records id := (self.jobOf id).map fun job => dumped job.dump
  complete := self.header.population = .complete
  disputed := self.header.population = .conflict

section

variable (self : ArchivedAttemptStatistics)
include self

theorem jobOf_eq_some {id : Int} {job : ArchivedJobStatistics} :
    self.jobOf id = some job ↔ job ∈ self.jobs ∧ job.providerJobId = id := by
  constructor
  · intro found
    exact ⟨mem_of_find?_eq_some found, by simpa using find?_some found⟩
  · rintro ⟨member, rfl⟩
    cases found : self.jobOf job.providerJobId with
    | none => exact absurd (find?_eq_none.mp found job member) (by simp)
    | some other =>
      have named : other.providerJobId = job.providerJobId := by simpa using find?_some found
      exact congrArg some (self.admitted.1.separates _ (mem_of_find?_eq_some found) _ member named)

theorem jobOf_ne_none {id : Int} : self.jobOf id ≠ none ↔ ∃ job ∈ self.jobs, job.providerJobId = id := by
  simp only [Option.ne_none_iff_exists', self.jobOf_eq_some]

theorem records_eq_some {id : Int} {facts : Text → Option DumpedValue} :
    self.evidence.records id = some facts ↔ ∃ job ∈ self.jobs, job.providerJobId = id ∧ dumped job.dump = facts := by
  simp only [evidence, Option.map_eq_some_iff, self.jobOf_eq_some, and_assoc]

end

theorem records_of_jobOf {self : ArchivedAttemptStatistics} {id : Int} {job : ArchivedJobStatistics}
    (found : self.jobOf id = some job) : self.evidence.records id = some (dumped job.dump) := by
  simp only [evidence, found, Option.map_some]

theorem records_ne_none (self : ArchivedAttemptStatistics) {id : Int} :
    self.evidence.records id ≠ none ↔ ∃ job ∈ self.jobs, job.providerJobId = id := by
  rw [← self.jobOf_ne_none, evidence, ne_eq, Option.map_eq_none_iff]

theorem coversJobs_iff :
    coversJobs incoming prior ↔ ∀ id, prior.evidence.records id ≠ none → incoming.evidence.records id ≠ none := by
  simp only [coversJobs, jobOf_ne_none, records_ne_none, forall_exists_index, and_imp, forall_apply_eq_imp_iff₂]

theorem not_coversJobs_iff :
    ¬ coversJobs incoming prior ↔ ∃ id, prior.evidence.records id ≠ none ∧ incoming.evidence.records id = none := by
  rw [coversJobs_iff]
  push Not
  rfl

/-- The earlier statistics are kept exactly when the later evidence refines the earlier one. -/
theorem preserves_iff_le : (preserves incoming.header.dump prior.header.dump ∧ preservesJobs incoming prior ∧
      (prior.header.population ≠ .complete ∨ incoming.header.population = .complete)) ↔
      prior.evidence ≤ incoming.evidence := by
  rw [Evidence.le_iff_refines]
  constructor
  · rintro ⟨header, ⟨covers, jobs⟩, complete⟩
    refine ⟨(preserves_iff prior.header.distinct_dump).mp header, ?_, fun whole => complete.resolve_left fun open_ => open_ whole⟩
    intro id facts recorded
    obtain ⟨job, member, rfl, rfl⟩ := prior.records_eq_some.mp recorded
    obtain ⟨other, found⟩ := Option.ne_none_iff_exists'.mp (covers job member)
    exact ⟨dumped other.dump, records_of_jobOf found, (preserves_iff job.distinct_dump).mp (jobs job member other found)⟩
  · intro refines
    refine ⟨(preserves_iff prior.header.distinct_dump).mpr refines.header, ⟨?_, ?_⟩, ?_⟩
    · exact coversJobs_iff.mpr fun _ => Evidence.recorded_of_le refines
    · intro job member other found
      obtain ⟨more, recorded, knows⟩ := refines.records job.providerJobId _ (prior.records_eq_some.mpr ⟨job, member, rfl, rfl⟩)
      rw [records_of_jobOf found] at recorded
      rw [preserves_iff job.distinct_dump, Option.some.inj recorded]
      exact knows
    · by_cases whole : prior.header.population = .complete
      · exact .inr (refines.complete whole)
      · exact .inl whole

theorem conflicts_iff_clash : ((prior.header.population = .conflict ∨ incoming.header.population = .conflict) ∨
      conflicts prior.header.dump incoming.header.dump ∨
      (∃ job ∈ prior.jobs, ∃ other ∈ incoming.jobOf job.providerJobId, conflicts job.dump other.dump) ∨
      (prior.header.population = .complete ∧ ¬ coversJobs prior incoming) ∨
      (incoming.header.population = .complete ∧ ¬ coversJobs incoming prior)) ↔
      prior.evidence.Clash incoming.evidence := by
  refine or_congr Iff.rfl (or_congr (conflicts_iff prior.header.distinct_dump) (or_congr ?_ (or_congr ?_ ?_)))
  · constructor
    · rintro ⟨job, member, other, found, clash⟩
      exact ⟨job.providerJobId, dumped job.dump, dumped other.dump, prior.records_eq_some.mpr ⟨job, member, rfl, rfl⟩,
        records_of_jobOf found, (conflicts_iff job.distinct_dump).mp clash⟩
    · rintro ⟨id, facts, others, left, right, clash⟩
      obtain ⟨job, member, rfl, rfl⟩ := prior.records_eq_some.mp left
      obtain ⟨other, found, rfl⟩ := Option.map_eq_some_iff.mp right
      exact ⟨job, member, other, found, (conflicts_iff job.distinct_dump).mpr clash⟩
  · exact and_congr_right fun _ => not_coversJobs_iff
  · exact and_congr_right fun _ => not_coversJobs_iff

open Classical in
/-- The verdict on an update is decided by the order of the evidence. -/
theorem classify_eq : classifyArchiveUpdate prior incoming = if prior.evidence.Clash incoming.evidence then .conflict
      else if incoming.evidence ≤ prior.evidence then .unchanged
      else if prior.evidence ≤ incoming.evidence then .refined
      else .incomparable := by
  simp only [classifyArchiveUpdate, ← conflicts_iff_clash, ← preserves_iff_le, ite_or]

theorem classify_eq_conflict : classifyArchiveUpdate prior incoming = .conflict ↔ prior.evidence.Clash incoming.evidence := by
  rw [classify_eq]
  split
  · rename_i clash
    exact iff_of_true rfl clash
  · rename_i agree
    refine iff_of_false ?_ agree
    split
    · exact ArchiveUpdate.noConfusion
    · split <;> exact ArchiveUpdate.noConfusion

theorem classify_eq_unchanged : classifyArchiveUpdate prior incoming = .unchanged ↔
      ¬ prior.evidence.Clash incoming.evidence ∧ incoming.evidence ≤ prior.evidence := by
  rw [classify_eq]
  split
  · rename_i clash
    exact iff_of_false ArchiveUpdate.noConfusion fun both => both.1 clash
  · rename_i agree
    split
    · rename_i kept
      exact iff_of_true rfl ⟨agree, kept⟩
    · rename_i lost
      refine iff_of_false ?_ fun both => lost both.2
      split <;> exact ArchiveUpdate.noConfusion

theorem classify_eq_refined : classifyArchiveUpdate prior incoming = .refined ↔
      ¬ prior.evidence.Clash incoming.evidence ∧ prior.evidence < incoming.evidence := by
  rw [classify_eq, lt_iff_le_not_ge]
  split
  · rename_i clash
    exact iff_of_false ArchiveUpdate.noConfusion fun both => both.1 clash
  · rename_i agree
    split
    · rename_i kept
      exact iff_of_false ArchiveUpdate.noConfusion fun both => both.2.2 kept
    · rename_i lost
      split
      · rename_i gained
        exact iff_of_true rfl ⟨agree, gained, lost⟩
      · rename_i stuck
        exact iff_of_false ArchiveUpdate.noConfusion fun both => stuck both.2.1

/-- Statistics of the same evidence have the same jobs. -/
theorem jobs_eq_of_records (same : prior.evidence.records = incoming.evidence.records) : prior.jobs = incoming.jobs := by
  have inside : ∀ first second : ArchivedAttemptStatistics, first.evidence.records = second.evidence.records →
      ∀ job ∈ first.jobs, job ∈ second.jobs := by
    intro first second equal job member
    have recorded := first.records_eq_some.mpr ⟨job, member, rfl, rfl⟩
    obtain ⟨other, found, -, facts⟩ := second.records_eq_some.mp (equal ▸ recorded)
    have dumps : other.dump = job.dump := dump_eq_of_dumped other.distinct_dump rfl facts
    rwa [← ArchivedJobStatistics.eq_of_dump dumps]
  exact prior.admitted.1.ext incoming.admitted.1 fun job => ⟨inside _ _ same job, inside _ _ same.symm job⟩

/-- Undisputed statistics with the same declared total, jobs and completeness have the same population. -/
theorem population_eq (declared : prior.header.providerJobTotal = incoming.header.providerJobTotal)
    (jobs : prior.jobs = incoming.jobs) (undisputed : prior.header.population ≠ .conflict)
    (undisputed' : incoming.header.population ≠ .conflict)
    (complete : prior.header.population = .complete ↔ incoming.header.population = .complete) :
    prior.header.population = incoming.header.population := by
  obtain ⟨-, -, -, partly, unavailable⟩ := prior.admitted.2
  obtain ⟨-, -, -, partly', unavailable'⟩ := incoming.admitted.2
  rw [declared, jobs] at partly unavailable
  cases first : prior.header.population with
  | complete => exact (complete.mp first).symm
  | conflict => exact absurd first undisputed
  | partial_ =>
    cases second : incoming.header.population with
    | complete => exact absurd (first.symm.trans (complete.mpr second)) ArchivePopulation.noConfusion
    | partial_ => rfl
    | unavailable => exact absurd (unavailable' second) (partly first).1
    | conflict => exact absurd second undisputed'
  | unavailable =>
    cases second : incoming.header.population with
    | complete => exact absurd (first.symm.trans (complete.mpr second)) ArchivePopulation.noConfusion
    | partial_ => exact absurd (unavailable first) (partly' second).1
    | unavailable => rfl
    | conflict => exact absurd second undisputed'

/-- Statistics whose evidence refines each other are the same statistics. -/
theorem eq_of_le_of_le (agree : ¬ prior.evidence.Clash incoming.evidence) (forward : prior.evidence ≤ incoming.evidence)
    (backward : incoming.evidence ≤ prior.evidence) : prior = incoming := by
  obtain ⟨header, records, complete⟩ := Evidence.same_of_le_of_le forward backward
  have dumps : prior.header.dump = incoming.header.dump := dump_eq_of_dumped prior.header.distinct_dump rfl header
  have jobs := jobs_eq_of_records records
  have population := population_eq (ArchivedAttemptHeader.total_of_dump dumps) jobs
    (fun disputed => agree (.inl (.inl disputed))) (fun disputed => agree (.inl (.inr disputed))) complete
  have headers := ArchivedAttemptHeader.eq_of_dump dumps population
  obtain ⟨⟨firstHeader, firstJobs⟩, _⟩ := prior
  obtain ⟨⟨secondHeader, secondJobs⟩, _⟩ := incoming
  obtain rfl : firstHeader = secondHeader := headers
  obtain rfl : firstJobs = secondJobs := jobs
  rfl

/-- Later statistics keep every known field of the header and of the jobs, and complete statistics stay complete with the
same jobs. -/
structure KeepsFacts (later earlier : ArchivedAttemptStatistics) : Prop where
  header : ∀ name value, dumped earlier.header.dump name = some value → dumped later.header.dump name = some value
  jobs : ∀ job ∈ earlier.jobs, ∃ other ∈ later.jobs, other.providerJobId = job.providerJobId ∧
    ∀ name value, dumped job.dump name = some value → dumped other.dump name = some value
  complete : earlier.header.population = .complete → later.header.population = .complete ∧
      later.jobs.map (fun job => job.providerJobId) = earlier.jobs.map fun job => job.providerJobId

theorem mem_jobIds (self : ArchivedAttemptStatistics) {id : Int} :
    id ∈ self.jobs.map (·.providerJobId) ↔ self.evidence.records id ≠ none := by
  rw [self.records_ne_none, mem_map]

theorem increasing_jobIds (self : ArchivedAttemptStatistics) :
    Increasing (fun id : Int => id) (self.jobs.map (·.providerJobId)) :=
  Increasing.map_iff.mpr self.admitted.1

/-- A refinement keeps the facts. -/
theorem keepsFacts_of_refined (refined : classifyArchiveUpdate prior incoming = .refined) : KeepsFacts incoming prior := by
  obtain ⟨agree, before⟩ := classify_eq_refined.mp refined
  have refines := Evidence.le_iff_refines.mp before.le
  refine ⟨refines.header, ?_, fun whole => ⟨refines.complete whole, ?_⟩⟩
  · intro job member
    obtain ⟨more, recorded, knows⟩ := refines.records _ _ (prior.records_eq_some.mpr ⟨job, member, rfl, rfl⟩)
    obtain ⟨other, found, named, rfl⟩ := incoming.records_eq_some.mp recorded
    exact ⟨other, found, named, knows⟩
  · refine incoming.increasing_jobIds.ext prior.increasing_jobIds fun id => ?_
    rw [mem_jobIds, mem_jobIds]
    exact (Evidence.records_of_complete before.le agree whole id).symm

theorem classify_conflict_comm (prior incoming : ArchivedAttemptStatistics) :
    classifyArchiveUpdate prior incoming = .conflict ↔ classifyArchiveUpdate incoming prior = .conflict := by
  rw [classify_eq_conflict, classify_eq_conflict, Evidence.clash_comm]

theorem unchanged_of_refined (refined : classifyArchiveUpdate prior incoming = .refined) :
    classifyArchiveUpdate incoming prior = .unchanged := by
  obtain ⟨agree, before⟩ := classify_eq_refined.mp refined
  exact classify_eq_unchanged.mpr ⟨fun clash => agree clash.symm, before.le⟩

/-- Unchanged statistics refine what they are compared with, and they are equal to it unless they refine it strictly. -/
theorem refined_of_unchanged (unchanged : classifyArchiveUpdate prior incoming = .unchanged) :
    (classifyArchiveUpdate incoming prior = .unchanged ∨ classifyArchiveUpdate incoming prior = .refined) ∧
      (classifyArchiveUpdate incoming prior = .unchanged → prior = incoming) := by
  obtain ⟨agree, kept⟩ := classify_eq_unchanged.mp unchanged
  have agree' : ¬ incoming.evidence.Clash prior.evidence := fun clash => agree clash.symm
  refine ⟨?_, fun both => eq_of_le_of_le agree (classify_eq_unchanged.mp both).2 kept⟩
  by_cases back : prior.evidence ≤ incoming.evidence
  · exact .inl (classify_eq_unchanged.mpr ⟨agree', back⟩)
  · exact .inr (classify_eq_refined.mpr ⟨agree', lt_iff_le_not_ge.mpr ⟨kept, back⟩⟩)

theorem refined_trans {middle : ArchivedAttemptStatistics} (lower : classifyArchiveUpdate prior middle = .refined)
    (upper : classifyArchiveUpdate middle incoming = .refined) : classifyArchiveUpdate prior incoming = .refined := by
  obtain ⟨agree, before⟩ := classify_eq_refined.mp lower
  obtain ⟨further, after⟩ := classify_eq_refined.mp upper
  exact classify_eq_refined.mpr ⟨Evidence.not_clash_trans before.le after.le agree further, before.trans after⟩

end ArchivedAttemptStatistics

end CiCoordinator.CiEconomics

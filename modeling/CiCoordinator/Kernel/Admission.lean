import CiCoordinator.Kernel.Errors
import CiCoordinator.Library.SharedBudget

/- The admissions without a queue, their leases, and the budget that both of them refine. -/

namespace CiCoordinator.Kernel

open Library Library.Share List

/-- A lease of one admission, with what its closure gives back. -/
structure AdmissionLease (C : Type) where
  releaseCapacity : C
  released : Bool

/-- The capacity goes back before the lease is marked, so a release that raises marks nothing. -/
def AdmissionLease.release {C S : Type} (self : AdmissionLease C) (give : C → Py S) : Py (AdmissionLease C × S) := do
  raiseIf (self.released = true) (.runtimeError (ascii "admission lease was already released"))
  let owner ← give self.releaseCapacity
  return ({ self with released := true }, owner)

structure GrowingAdmissionLease where
  weight : Int
  released : Bool

structure NoQueueAdmission where
  limit : Int
  active : Int

namespace NoQueueAdmission

def make (limit : Int) : Py NoQueueAdmission := do
  valueErrorIf (limit < 1) (ascii "no-queue admission limit must be positive")
  return ⟨limit, 0⟩

def tryAcquire (self : NoQueueAdmission) : Option (AdmissionLease Unit) × NoQueueAdmission :=
  if self.limit ≤ self.active then (none, self) else (some ⟨(), false⟩, { self with active := self.active + 1 })

def release (self : NoQueueAdmission) : Py NoQueueAdmission := do
  raiseIf (self.active < 1) (.runtimeError (ascii "no-queue admission release has no owner"))
  return { self with active := self.active - 1 }

end NoQueueAdmission

structure WeightedNoQueueAdmission where
  maximumWeight : Int
  retainedWeight : Int
  active : Int

namespace WeightedNoQueueAdmission

def make (maximumWeight : Int) : Py WeightedNoQueueAdmission := do
  valueErrorIf (maximumWeight < 1) (ascii "weighted admission maximum must be positive")
  return ⟨maximumWeight, 0, 0⟩

def validateWeight (self : WeightedNoQueueAdmission) (weight : Int) : Py Unit :=
  valueErrorIf (¬ (0 ≤ weight ∧ weight ≤ self.maximumWeight)) (ascii "admission weight must fit the declared budget")

/-- Both acquisitions retain the weight of the lease that they make. -/
def acquire {L : Type} (self : WeightedNoQueueAdmission) (weight : Int) (lease : L) :
    Py (Option L × WeightedNoQueueAdmission) := do
  self.validateWeight weight
  if self.maximumWeight < self.retainedWeight + weight then return (none, self)
  else return (some lease, { self with retainedWeight := self.retainedWeight + weight, active := self.active + 1 })

def tryAcquire (self : WeightedNoQueueAdmission) (weight : Int) :
    Py (Option (AdmissionLease Int) × WeightedNoQueueAdmission) :=
  self.acquire weight ⟨weight, false⟩

def tryAcquireGrowing (self : WeightedNoQueueAdmission) (weight : Int) :
    Py (Option GrowingAdmissionLease × WeightedNoQueueAdmission) :=
  self.acquire weight ⟨weight, false⟩

def tryGrow (self : WeightedNoQueueAdmission) (lease : GrowingAdmissionLease) (delta : Int) :
    Py (Bool × GrowingAdmissionLease × WeightedNoQueueAdmission) := do
  self.validateWeight delta
  raiseIf (lease.released = true) (.runtimeError (ascii "admission lease was already released"))
  if self.maximumWeight < self.retainedWeight + delta then return (false, lease, self)
  else return (true, { lease with weight := lease.weight + delta },
    { self with retainedWeight := self.retainedWeight + delta })

def release (self : WeightedNoQueueAdmission) (weight : Int) : Py WeightedNoQueueAdmission := do
  raiseIf (self.active < 1 ∨ self.retainedWeight < weight)
    (.runtimeError (ascii "weighted admission release has no owner"))
  return { self with active := self.active - 1, retainedWeight := self.retainedWeight - weight }

def releaseGrowing (self : WeightedNoQueueAdmission) (lease : GrowingAdmissionLease) :
    Py (GrowingAdmissionLease × WeightedNoQueueAdmission) := do
  raiseIf (lease.released = true) (.runtimeError (ascii "admission lease was already released"))
  let owner ← self.release lease.weight
  return (⟨0, true⟩, owner)

end WeightedNoQueueAdmission

/-- The counters of an admission. -/
class Counted (A : Type) where
  maximum : A → Int
  retained : A → Int
  active : A → Int

instance : Counted NoQueueAdmission :=
  ⟨NoQueueAdmission.limit, NoQueueAdmission.active, NoQueueAdmission.active⟩

instance : Counted WeightedNoQueueAdmission :=
  ⟨WeightedNoQueueAdmission.maximumWeight, WeightedNoQueueAdmission.retainedWeight, WeightedNoQueueAdmission.active⟩

open Counted

/-- The methods of an admission and of its leases. A growth answers whether it succeeds. -/
structure AdmissionMethods (A L K : Type) where
  tryAcquire : A → K → Py (Option L × A)
  tryGrow : A → L → Int → Py (Bool × L × A)
  release : A → L → Py (L × A)

/-- Each lease of the finite counter holds one unit. -/
instance : Share (AdmissionLease Unit) :=
  ⟨fun _ => 1, AdmissionLease.released⟩

/-- A lease of the finite counter has no method to grow. -/
def NoQueueAdmission.methods : AdmissionMethods NoQueueAdmission (AdmissionLease Unit) Unit :=
  ⟨fun self _ => .ok self.tryAcquire, fun self lease _ => .ok (false, lease, self),
    fun self lease => lease.release fun _ => self.release⟩

inductive WeightedLease where
  | fixed (lease : AdmissionLease Int)
  | growing (lease : GrowingAdmissionLease)

instance : Share WeightedLease where
  weight
    | .fixed lease => lease.releaseCapacity
    | .growing lease => lease.weight
  released
    | .fixed lease => lease.released
    | .growing lease => lease.released

inductive WeightedRequest where
  | fixed (weight : Int)
  | growing (weight : Int)

/-- A lease of fixed weight has no method to grow. -/
def WeightedNoQueueAdmission.methods : AdmissionMethods WeightedNoQueueAdmission WeightedLease WeightedRequest where
  tryAcquire self
    | .fixed weight => (fun answer => (answer.1.map .fixed, answer.2)) <$> self.tryAcquire weight
    | .growing weight => (fun answer => (answer.1.map .growing, answer.2)) <$> self.tryAcquireGrowing weight
  tryGrow self
    | .fixed lease, _ => .ok (false, .fixed lease, self)
    | .growing lease, delta => (fun answer => (answer.1, .growing answer.2.1, answer.2.2)) <$> self.tryGrow lease delta
  release self
    | .fixed lease => (fun answer => (.fixed answer.1, answer.2)) <$> lease.release self.release
    | .growing lease => (fun answer => (.growing answer.1, answer.2)) <$> self.releaseGrowing lease

/-- An admission with every lease that it has given out. -/
structure AdmissionWorld (A L : Type) where
  admission : A
  leases : List L

inductive AdmissionCall (K : Type) where
  | tryAcquire (request : K)
  | tryGrow (index : Nat) (delta : Int)
  | release (index : Nat)

namespace AdmissionWorld

variable {A L K : Type}

/-- A call on a lease that was never given out cannot be made. -/
def onLease (world : AdmissionWorld A L) (index : Nat) (use : L → Py (Bool × L × A)) : Py (Bool × AdmissionWorld A L) :=
  match world.leases[index]? with
  | none => .ok (false, world)
  | some lease => (fun answer => (answer.1, ⟨answer.2.2, world.leases.set index answer.2.1⟩)) <$> use lease

/-- A call answers whether it succeeds. -/
def serve (methods : AdmissionMethods A L K) (world : AdmissionWorld A L) :
    AdmissionCall K → Py (Bool × AdmissionWorld A L)
  | .tryAcquire request => (fun answer => (answer.1.isSome, ⟨answer.2, world.leases ++ answer.1.toList⟩)) <$>
      methods.tryAcquire world.admission request
  | .tryGrow index delta => world.onLease index fun lease => methods.tryGrow world.admission lease delta
  | .release index => world.onLease index fun lease => Prod.mk true <$> methods.release world.admission lease

/-- A call that raises has changed nothing, since every check of a method stands before its first assignment. -/
def settle (world : AdmissionWorld A L) (answer : Py (Bool × AdmissionWorld A L)) : AdmissionWorld A L :=
  match answer with
  | .ok (_, next) => next
  | .error _ => world

/-- The lock orders the calls of every thread. -/
def run (methods : AdmissionMethods A L K) (world : AdmissionWorld A L) (calls : List (AdmissionCall K)) :
    AdmissionWorld A L :=
  calls.foldl (fun world call => world.settle (serve methods world call)) world

def alreadyReleased : PyError :=
  .runtimeError (ascii "admission lease was already released")

variable {methods : AdmissionMethods A L K} {world next : AdmissionWorld A L} {index : Nat} {lease : L}

theorem onLease_cases {use : L → Py (Bool × L × A)} {answer : Bool × AdmissionWorld A L}
    (computed : world.onLease index use = .ok answer) : answer = (false, world) ∨
      ∃ lease used, world.leases[index]? = some lease ∧ use lease = .ok used ∧
        (used.1, ⟨used.2.2, world.leases.set index used.2.1⟩) = answer := by
  rw [onLease] at computed
  cases found : world.leases[index]? with
  | none =>
    rw [found] at computed
    exact .inl (Except.ok.inj computed).symm
  | some lease =>
    rw [found] at computed
    obtain ⟨used, given, same⟩ := map_eq_ok.mp computed
    exact .inr ⟨lease, used, rfl, given, same⟩

theorem set_same (found : world.leases[index]? = some lease) :
    (⟨world.admission, world.leases.set index lease⟩ : AdmissionWorld A L) = world := by
  obtain ⟨inside, rfl⟩ := List.getElem?_eq_some_iff.mp found
  rw [set_getElem_self]

variable [Share L] [Counted A]

/-- What the counters of the admission say about its leases. -/
def budget (world : AdmissionWorld A L) : Budget L :=
  ⟨maximum world.admission, retained world.admission, active world.admission, world.leases⟩

/-- Every method takes a step of the budget or changes nothing, and a live lease is given back once. -/
structure Refines (methods : AdmissionMethods A L K) : Prop where
  acquires : ∀ {self request answer}, methods.tryAcquire self request = .ok answer → answer = (none, self) ∨
    ∃ lease next, answer = (some lease, next) ∧ ∀ leases, (budget ⟨self, leases⟩).Step (budget ⟨next, leases ++ [lease]⟩)
  grows : ∀ {self lease delta answer}, methods.tryGrow self lease delta = .ok answer → answer = (false, lease, self) ∨
    ∃ after next, answer = (true, after, next) ∧ ∀ {leases : List L} {index : Nat}, leases[index]? = some lease →
      (budget ⟨self, leases⟩).Step (budget ⟨next, leases.set index after⟩)
  releases : ∀ self {lease}, live lease = true → ∃ after next, live after = false ∧
    (∀ leases : List L, budget ⟨next, leases⟩ = ⟨maximum self, retained self - weight lease, active self - 1, leases⟩) ∧
    ∀ answer, methods.release self lease = .ok answer ↔
      (weight lease ≤ retained self ∧ 1 ≤ active self) ∧ (after, next) = answer
  raises : ∀ self {lease}, live lease = false → methods.release self lease = .error alreadyReleased

/-- What the counters of an admission say about its leases, now and after any later calls. -/
structure Accounted (methods : AdmissionMethods A L K) (limit : Int) (world : AdmissionWorld A L) : Prop where
  retained : retained world.admission = (world.leases.map held).sum
  active : active world.admission = world.leases.countP live
  bounded : Counted.retained world.admission ≤ limit
  refused : ∀ call next, serve methods world call = .ok (false, next) → next = world
  once : ∀ index lease, world.leases[index]? = some lease → live lease = true →
    ∃ next, serve methods world (.release index) = .ok (true, next) ∧
      Counted.retained next.admission = Counted.retained world.admission - weight lease ∧
      Counted.active next.admission = Counted.active world.admission - 1 ∧
        ∀ later, serve methods (run methods next later) (.release index) = .error alreadyReleased

namespace Refines

variable (refines : Refines methods)
include refines

theorem step {call : AdmissionCall K} {done : Bool} (served : serve methods world call = .ok (done, next)) :
    done = false ∧ next = world ∨ done = true ∧ world.budget.Step next.budget := by
  cases call with
  | tryAcquire request =>
    obtain ⟨answer, acquired, answered⟩ := map_eq_ok.mp served
    obtain rfl | ⟨lease, next, rfl, step⟩ := refines.acquires acquired
    · cases answered
      exact .inl ⟨rfl, congrArg (AdmissionWorld.mk _) (append_nil _)⟩
    · cases answered
      exact .inr ⟨rfl, step world.leases⟩
  | tryGrow index delta =>
    obtain refused | ⟨lease, used, found, given, answered⟩ := onLease_cases served
    · cases refused
      exact .inl ⟨rfl, rfl⟩
    · obtain rfl | ⟨after, next, rfl, step⟩ := refines.grows given
      · cases answered
        exact .inl ⟨rfl, set_same found⟩
      · cases answered
        exact .inr ⟨rfl, step found⟩
  | release index =>
    obtain refused | ⟨lease, used, found, given, answered⟩ := onLease_cases served
    · cases refused
      exact .inl ⟨rfl, rfl⟩
    · obtain ⟨answer, released, rfl⟩ := map_eq_ok.mp given
      cases answered
      cases fresh : live lease with
      | false =>
        rw [refines.raises _ fresh] at released
        cases released
      | true =>
        obtain ⟨after, next, gone, same, returns⟩ := refines.releases world.admission fresh
        obtain ⟨-, rfl⟩ := (returns answer).mp released
        exact .inr ⟨rfl, same _ ▸ @Budget.Step.giveBack _ _ world.budget _ _ _ found fresh gone⟩

theorem run_steps (calls : List (AdmissionCall K)) (world : AdmissionWorld A L) :
    Relation.ReflTransGen Budget.Step world.budget (run methods world calls).budget := by
  induction calls generalizing world with
  | nil => exact .refl
  | cons call rest ih =>
    have later := ih (world.settle (serve methods world call))
    rw [run, foldl_cons]
    cases served : serve methods world call with
    | error error => rwa [served] at later
    | ok answer =>
      rw [served] at later
      obtain ⟨-, same⟩ | ⟨-, step⟩ := refines.step served
      · rwa [settle, same] at later ⊢
      · exact .head step later

/-- Every admission that starts without leases keeps its accounts. -/
theorem accounted {self : A} (positive : 1 ≤ maximum self) (empty : retained self = 0 ∧ active self = 0)
    (calls : List (AdmissionCall K)) : Accounted methods (maximum self) (run methods ⟨self, []⟩ calls) := by
  have start : (⟨maximum self, retained self, active self, []⟩ : Budget L).Balanced := by
    rw [empty.1, empty.2]
    exact Budget.balanced_empty (zero_le_one.trans positive)
  obtain ⟨balanced, same⟩ := Budget.balanced_of_steps (refines.run_steps calls ⟨self, []⟩) start
  refine ⟨balanced.retained, balanced.active, balanced.bounded.trans_eq same, fun call next served => ?_,
    fun index lease found fresh => ?_⟩
  · obtain ⟨-, same⟩ | ⟨done, -⟩ := refines.step served
    · exact same
    · cases done
  · obtain ⟨after, next, gone, same, returns⟩ := refines.releases (run methods ⟨self, []⟩ calls).admission fresh
    have released := (returns _).mpr ⟨balanced.covers (mem_of_getElem? found) fresh, rfl⟩
    have counters := same ((run methods ⟨self, []⟩ calls).leases.set index after)
    refine ⟨⟨next, _⟩, ?_, congrArg Budget.retained counters, congrArg Budget.active counters, fun later => ?_⟩
    · rw [serve, onLease, found]
      exact map_eq_ok.mpr ⟨_, map_eq_ok.mpr ⟨_, released, rfl⟩, rfl⟩
    · have there : (run methods ⟨next, _⟩ later).leases[index]? = some after :=
        Budget.stays_of_steps (refines.run_steps later ⟨next, _⟩) (getElem?_set_self (List.getElem?_eq_some_iff.mp found).1) gone
      rw [serve, onLease, there]
      simp only [refines.raises _ gone]
      rfl

end Refines

end AdmissionWorld

open AdmissionWorld

theorem AdmissionLease.release_raises {C S : Type} {lease : AdmissionLease C} {give : C → Py S}
    (released : lease.released = true) : lease.release give = .error alreadyReleased := by
  simp [AdmissionLease.release, released, alreadyReleased, raiseIf, bind, Except.bind]

theorem AdmissionLease.release_live {C S : Type} {lease : AdmissionLease C} {give : C → Py S} (fresh : lease.released = false) :
    lease.release give = Prod.mk { lease with released := true } <$> give lease.releaseCapacity := by
  rw [AdmissionLease.release, fresh]
  rfl

/-- A finite counter is a budget of units. -/
theorem NoQueueAdmission.refines : Refines NoQueueAdmission.methods where
  acquires {self request answer} acquired := by
    cases acquired
    rw [tryAcquire]
    split
    · exact .inl rfl
    · rename_i room
      exact .inr ⟨_, _, rfl, fun leases => .take rfl Int.one_nonneg (Int.add_one_le_of_lt (not_le.mp room))⟩
  grows grown := .inl (Except.ok.inj grown).symm
  releases self lease fresh := by
    refine ⟨⟨(), true⟩, { self with active := self.active - 1 }, rfl, fun leases => rfl, fun answer => ?_⟩
    show (lease.release fun _ => self.release) = .ok answer ↔ (1 ≤ self.active ∧ 1 ≤ self.active) ∧ _ = answer
    rw [AdmissionLease.release_live (live_eq_true.mp fresh), release]
    simp
  raises self lease gone := @AdmissionLease.release_raises _ _ lease (fun _ => self.release) (live_eq_false.mp gone)

namespace WeightedNoQueueAdmission

variable {self next : WeightedNoQueueAdmission} {weight : Int}

/-- Each kind of lease is acquired as a share of the budget. -/
theorem acquire_cases {L : Type} {wrap : L → WeightedLease} {lease : L} {answer : Option WeightedLease × WeightedNoQueueAdmission}
    (fresh : live (wrap lease) = true)
    (computed : (fun answer => (answer.1.map wrap, answer.2)) <$> self.acquire (Share.weight (wrap lease)) lease = .ok answer) :
    answer = (none, self) ∨ ∃ lease next, answer = (some lease, next) ∧
      ∀ leases, (budget ⟨self, leases⟩).Step (budget ⟨next, leases ++ [lease]⟩) := by
  obtain ⟨acquired, taken, rfl⟩ := map_eq_ok.mp computed
  obtain ⟨valid, taken⟩ := bind_unit_eq_ok.mp taken
  split at taken
  · cases taken
    exact .inl rfl
  · rename_i fits
    cases taken
    exact .inr ⟨_, _, rfl, fun leases => .take fresh (not_not.mp (raiseIf_eq_ok.mp valid)).1 (not_lt.mp fits)⟩

/-- Fixed and growing leases hold shares of one budget. -/
theorem refines : Refines methods where
  acquires {self request answer} acquired := by
    cases request with
    | fixed weight => exact @acquire_cases _ _ .fixed ⟨weight, false⟩ _ rfl acquired
    | growing weight => exact @acquire_cases _ _ .growing ⟨weight, false⟩ _ rfl acquired
  grows {self lease delta answer} grown := by
    cases lease with
    | fixed lease => exact .inl (Except.ok.inj grown).symm
    | growing lease =>
      obtain ⟨_, computed, rfl⟩ := map_eq_ok.mp grown
      obtain ⟨valid, computed⟩ := bind_unit_eq_ok.mp computed
      obtain ⟨held, computed⟩ := bind_unit_eq_ok.mp computed
      split at computed
      · cases computed
        exact .inl rfl
      · rename_i fits
        cases computed
        have fresh : lease.released = false := Bool.eq_false_of_not_eq_true (raiseIf_eq_ok.mp held)
        exact .inr ⟨_, _, rfl, fun found => .grow found (live_eq_true.mpr fresh) (live_eq_true.mpr fresh) rfl
          (not_not.mp (raiseIf_eq_ok.mp valid)).1 (not_lt.mp fits)⟩
  releases self lease fresh := by
    cases lease with
    | fixed lease =>
      refine ⟨.fixed { lease with released := true }, ⟨self.maximumWeight, self.retainedWeight - lease.releaseCapacity,
        self.active - 1⟩, rfl, fun leases => rfl, fun answer => ?_⟩
      show (fun given => (WeightedLease.fixed given.1, given.2)) <$> lease.release self.release = .ok answer ↔
        (lease.releaseCapacity ≤ self.retainedWeight ∧ 1 ≤ self.active) ∧ _ = answer
      rw [AdmissionLease.release_live (live_eq_true.mp fresh), release]
      simp [and_comm]
    | growing lease =>
      refine ⟨.growing ⟨0, true⟩, ⟨self.maximumWeight, self.retainedWeight - lease.weight, self.active - 1⟩, rfl,
        fun leases => rfl, fun answer => ?_⟩
      show (fun given => (WeightedLease.growing given.1, given.2)) <$> self.releaseGrowing lease = .ok answer ↔
        (lease.weight ≤ self.retainedWeight ∧ 1 ≤ self.active) ∧ _ = answer
      have unreleased : lease.released = false := live_eq_true.mp fresh
      rw [releaseGrowing, unreleased, release]
      simp [and_comm]
  raises self lease gone := by
    cases lease with
    | fixed lease =>
      show (fun given => (WeightedLease.fixed given.1, given.2)) <$> lease.release self.release = _
      rw [AdmissionLease.release_raises (live_eq_false.mp gone)]
      rfl
    | growing lease =>
      have released : lease.released = true := live_eq_false.mp gone
      show (fun given => (WeightedLease.growing given.1, given.2)) <$> self.releaseGrowing lease = _
      rw [releaseGrowing, released]
      rfl

end WeightedNoQueueAdmission

/-- Whatever calls the threads make, the counters of an admission agree with its live leases. -/
theorem admission_accounting : (∀ limit admission, NoQueueAdmission.make limit = .ok admission → ∀ calls,
      Accounted NoQueueAdmission.methods limit (run NoQueueAdmission.methods ⟨admission, []⟩ calls)) ∧
    (∀ maximumWeight admission, WeightedNoQueueAdmission.make maximumWeight = .ok admission → ∀ calls,
      Accounted WeightedNoQueueAdmission.methods maximumWeight (run WeightedNoQueueAdmission.methods ⟨admission, []⟩ calls)) := by
  constructor
  · intro limit admission made calls
    obtain ⟨positive, rfl⟩ : 1 ≤ limit ∧ (⟨limit, 0⟩ : NoQueueAdmission) = admission := by
      simpa [NoQueueAdmission.make] using made
    exact @Refines.accounted _ _ _ _ _ _ NoQueueAdmission.refines ⟨limit, 0⟩ positive ⟨rfl, rfl⟩ calls
  · intro maximumWeight admission made calls
    obtain ⟨positive, rfl⟩ : 1 ≤ maximumWeight ∧ (⟨maximumWeight, 0, 0⟩ : WeightedNoQueueAdmission) = admission := by
      simpa [WeightedNoQueueAdmission.make] using made
    exact @Refines.accounted _ _ _ _ _ _ WeightedNoQueueAdmission.refines ⟨maximumWeight, 0, 0⟩ positive ⟨rfl, rfl⟩ calls

end CiCoordinator.Kernel

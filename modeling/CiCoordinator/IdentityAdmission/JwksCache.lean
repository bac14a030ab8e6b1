import CiCoordinator.IdentityAdmission.JwksProvider
import Mathlib.Tactic.Linarith

/- The cache of signing keys over every order of its lookups, refreshes and its closing. -/

namespace CiCoordinator.IdentityAdmission

open Kernel CachingJwksProvider List Option

/-- A refresh task is created, then it fetches, then it is done. -/
inductive RefreshPhase where
  | created
  | fetching (startedAt : Rat)
  | done (startedAt : Option Rat) (result : RefreshResult)

/-- A refresh task with the instants of its creation and of the publication of its result. -/
structure RefreshTask where
  createdAt : Rat
  phase : RefreshPhase
  publishedAt : Option Rat

namespace RefreshTask

def result (task : RefreshTask) : Option RefreshResult :=
  match task.phase with
  | .done _ result => some result
  | _ => none

def startedAt (task : RefreshTask) : Option Rat :=
  match task.phase with
  | .created => none
  | .fetching startedAt => some startedAt
  | .done startedAt _ => startedAt

/-- The fetch of the task is in flight. -/
def Running (task : RefreshTask) : Prop :=
  ∃ startedAt, task.phase = .fetching startedAt

end RefreshTask

/-- Where a lookup stands. It reads the clock before each of its critical sections. -/
inductive LookupPhase where
  | called
  | entering (now : Rat)
  | waiting (task : Nat)
  | settling (task : Nat) (result : RefreshResult)
  | publishing (task : Nat) (result : RefreshResult) (now : Rat)
  | published (result : RefreshResult)
  | checking (result : RefreshResult) (now : Rat)
  | answered (answer : KeyAnswer)
  | ended

structure Lookup where
  request : KeyRequest
  calledAt : Rat
  phase : LookupPhase

/-- The provider, the clock, the refresh tasks by their numbers, and the lookups. -/
structure KeyWorld where
  clock : Rat
  provider : CachingJwksProvider
  tasks : List RefreshTask
  lookups : List Lookup

inductive KeyAction where
  | tick (clock : Rat)
  | call (request : KeyRequest)
  | move (lookup : Nat)
  | cancel (lookup : Nat)
  | begin (task : Nat)
  | finish (task : Nat) (outcome : FetchOutcome)
  | crash (task : Nat)
  | close

namespace KeyWorld

def start (clock : Rat) : KeyWorld :=
  ⟨clock, .new, [], []⟩

variable (world : KeyWorld)

/-- The world after a lookup has reached a phase. -/
def reach (index : Nat) (lookup : Lookup) (phase : LookupPhase) : KeyWorld :=
  { world with lookups := world.lookups.set index { lookup with phase } }

/-- The world after a task has changed. -/
def retask (index : Nat) (task : RefreshTask) : KeyWorld :=
  { world with tasks := world.tasks.set index task }

variable (config : JwksProviderConfig)

/-- The first critical section may create a task. -/
def enterAt (world : KeyWorld) (index : Nat) (lookup : Lookup) (now : Rat) : KeyWorld :=
  match world.provider.enter config lookup.request now with
  | .answer answer => world.reach index lookup (.answered answer)
  | .wait task => world.reach index lookup (.waiting task)
  | .spawn =>
    { world.reach index lookup (.waiting world.tasks.length) with
      provider := { world.provider with refreshTask := some world.tasks.length }
      tasks := world.tasks ++ [⟨world.clock, .created, none⟩] }

/-- A lookup that waits takes the result of its task, or the exception that the task ended with. -/
def resumeAt (index : Nat) (lookup : Lookup) (task : Nat) : KeyWorld :=
  match world.tasks[task]?.bind RefreshTask.result with
  | none => world
  | some .raised => world.reach index lookup .ended
  | some result => world.reach index lookup (.settling task result)

/-- The task keeps the instant at which its result was published. -/
def publishAt (world : KeyWorld) (index : Nat) (lookup : Lookup) (task : Nat)
    (result : RefreshResult) (now : Rat) : KeyWorld :=
  let next := world.reach index lookup (.published result)
  { next with
    provider := world.provider.publishRefresh config task result now
    tasks := if world.provider.Publishes task then
        world.tasks.modify task fun found => { found with publishedAt := some now }
      else world.tasks }

/-- The next step of a lookup. -/
def moveLookup (world : KeyWorld) (index : Nat) (lookup : Lookup) : KeyWorld :=
  match lookup.phase with
  | .called =>
    if lookup.request = .getKeySet [] then world.reach index lookup .ended
    else world.reach index lookup (.entering world.clock)
  | .entering now => world.enterAt config index lookup now
  | .waiting task => world.resumeAt index lookup task
  | .settling task result => world.reach index lookup (.publishing task result world.clock)
  | .publishing task result now => world.publishAt config index lookup task result now
  | .published result => world.reach index lookup (.checking result world.clock)
  | .checking result now =>
    world.reach index lookup (.answered (world.provider.settle config lookup.request result now))
  | .answered _ => world
  | .ended => world

variable [Interpreter] [KeyHost]

/-- A cancelled lookup leaves its task to others, and an answered one is past cancellation. -/
def step (world : KeyWorld) : KeyAction → KeyWorld
  | .tick clock => { world with clock := max world.clock clock }
  | .call request => { world with lookups := world.lookups ++ [⟨request, world.clock, .called⟩] }
  | .move index =>
    match world.lookups[index]? with
    | none => world
    | some lookup => world.moveLookup config index lookup
  | .cancel index =>
    match world.lookups[index]? with
    | none => world
    | some lookup =>
      match lookup.phase with
      | .answered _ => world
      | _ => world.reach index lookup .ended
  | .begin index =>
    match world.tasks[index]? with
    | some ⟨createdAt, .created, publishedAt⟩ =>
      world.retask index ⟨createdAt, .fetching world.clock, publishedAt⟩
    | _ => world
  | .finish index outcome =>
    match world.tasks[index]? with
    | some ⟨createdAt, .fetching startedAt, publishedAt⟩ =>
      world.retask index ⟨createdAt, .done (some startedAt) (refresh config outcome world.clock), publishedAt⟩
    | _ => world
  | .crash index =>
    match world.tasks[index]? with
    | some ⟨createdAt, .created, publishedAt⟩ => world.retask index ⟨createdAt, .done none .raised, publishedAt⟩
    | _ => world
  | .close => { world with provider := world.provider.aclose }

def run (world : KeyWorld) (actions : List KeyAction) : KeyWorld :=
  actions.foldl (step config) world

end KeyWorld

/-- The instant from which a published result allows another refresh. -/
def RefreshResult.floor (result : RefreshResult) (config : JwksProviderConfig) (publishedAt : Rat) : Rat :=
  match result with
  | .snapshot obtained => obtained.obtainedAt + config.minimumRefreshIntervalSeconds
  | _ => publishedAt + config.failureBackoffSeconds

def RefreshTask.floor (task : RefreshTask) (config : JwksProviderConfig) : Option Rat :=
  match task.result, task.publishedAt with
  | some result, some publishedAt => some (result.floor config publishedAt)
  | _, _ => none

/-- The result of a numbered task. -/
def resultOf (tasks : List RefreshTask) (index : Nat) : Option RefreshResult :=
  tasks[index]?.bind RefreshTask.result

/-- What holds of one task: its fetch starts after its creation, and its result is published after it is done. -/
structure RefreshTask.Sound (task : RefreshTask) (clock : Rat) : Prop where
  created : task.createdAt ≤ clock
  started : ∀ startedAt ∈ task.startedAt, task.createdAt ≤ startedAt
  obtained : ∀ snapshot, task.result = some (.snapshot snapshot) → snapshot.obtainedAt ≤ clock
  finished : task.publishedAt ≠ none → task.result ≠ none

/-- What holds between the provider, its tasks and the clock. -/
structure RefreshSound (config : JwksProviderConfig) (clock : Rat) (provider : CachingJwksProvider)
    (tasks : List RefreshTask) : Prop where
  task : ∀ (index : Nat) (task : RefreshTask), tasks[index]? = some task → task.Sound clock
  last : ∀ (index : Nat) (task : RefreshTask), tasks[index]? = some task → task.result = none → index + 1 = tasks.length
  named : ∀ index, provider.refreshTask = some index →
    index + 1 = tasks.length ∧ ∀ task : RefreshTask, tasks[index]? = some task → task.publishedAt = none
  spaced : ∀ (first second : Nat) (earlier later : RefreshTask), first < second → tasks[first]? = some earlier → tasks[second]? = some later →
    ∃ floor, earlier.floor config = some floor ∧ floor ≤ later.createdAt
  idle : provider.closed = false → provider.refreshTask = none → ∀ (index : Nat) (task : RefreshTask), tasks[index]? = some task →
    ∃ floor, task.floor config = some floor ∧ (floor ≤ provider.refreshAllowedAt ∨ floor ≤ clock)
  cleared : provider.closed = true → provider.snapshot = none ∧ provider.refreshTask = none
  snapshot : ∀ obtained ∈ provider.snapshot, ∃ index, resultOf tasks index = some (.snapshot obtained)

theorem RefreshTask.published_of_floor {task : RefreshTask} {config : JwksProviderConfig} {floor : Rat}
    (floored : task.floor config = some floor) : task.publishedAt ≠ none := by
  intro unpublished
  rw [RefreshTask.floor, unpublished] at floored
  generalize task.result = result at floored
  cases result with
  | none => cases floored
  | some result => cases floored

variable {result : RefreshResult}

theorem RefreshTask.floor_of_published {task : RefreshTask} {config : JwksProviderConfig}
    {publishedAt : Rat} (finished : task.result = some result) (published : task.publishedAt = some publishedAt) :
    task.floor config = some (result.floor config publishedAt) := by
  rw [RefreshTask.floor, finished, published]

theorem resultOf_eq_some {tasks : List RefreshTask} {index : Nat} :
    resultOf tasks index = some result ↔ ∃ task, tasks[index]? = some task ∧ task.result = some result := by
  rw [resultOf, bind_eq_some_iff]

namespace RefreshSound

variable {config : JwksProviderConfig} {clock : Rat} {provider : CachingJwksProvider} {tasks : List RefreshTask}

theorem start : RefreshSound config clock .new [] where
  task _ _ found := by simp at found
  last _ _ found := by simp at found
  named _ named := by simp [CachingJwksProvider.new] at named
  spaced _ _ _ _ _ found := by simp at found
  idle _ _ _ _ found := by simp at found
  cleared closed := by simp [CachingJwksProvider.new] at closed
  snapshot _ member := by simp [CachingJwksProvider.new] at member

section

variable (sound : RefreshSound config clock provider tasks)
include sound

theorem tick {later : Rat} (after : clock ≤ later) : RefreshSound config later provider tasks where
  __ := sound
  task index task found :=
    { sound.task index task found with
      created := (sound.task index task found).created.trans after
      obtained := fun snapshot result => ((sound.task index task found).obtained snapshot result).trans after }
  idle open_ free index task found := by
    obtain ⟨floor, floored, bound⟩ := sound.idle open_ free index task found
    exact ⟨floor, floored, bound.imp_right fun early => early.trans after⟩

theorem close : RefreshSound config clock provider.aclose tasks := by
  rw [CachingJwksProvider.aclose]
  split
  · exact sound
  · exact
      { sound with
        named := fun _ named => by simp at named
        idle := fun open_ => by simp at open_
        cleared := fun _ => ⟨rfl, rfl⟩
        snapshot := fun _ member => by simp at member }

/-- A task that begins or ends is the last one, and its result is not published yet. -/
theorem retask {index : Nat} {old new : RefreshTask}
    (found : tasks[index]? = some old) (unfinished : old.result = none) (created : new.createdAt = old.createdAt)
    (published : new.publishedAt = old.publishedAt) (kept : new.Sound clock) :
    RefreshSound config clock provider (tasks.set index new) := by
  have inside : index < tasks.length := (List.getElem?_eq_some_iff.mp found).1
  have isLast := sound.last index old found unfinished
  have unpublished : old.publishedAt = none := by
    by_contra published
    exact (sound.task index old found).finished published unfinished
  have cases {other : Nat} {task : RefreshTask} (located : (tasks.set index new)[other]? = some task) :
      other = index ∧ task = new ∨ other ≠ index ∧ tasks[other]? = some task := by
    rw [getElem?_set] at located
    split at located
    · rename_i same
      exact .inl ⟨same.symm, (some.inj located).symm⟩
    · rename_i different
      exact .inr ⟨fun same => different same.symm, located⟩
  refine ⟨?_, ?_, ?_, ?_, ?_, sound.cleared, ?_⟩
  · intro other task located
    obtain ⟨_, rfl⟩ | ⟨_, located⟩ := cases located
    · exact kept
    · exact sound.task other task located
  · intro other task located pending
    rw [length_set]
    obtain ⟨rfl, _⟩ | ⟨_, located⟩ := cases located
    · exact isLast
    · exact sound.last other task located pending
  · intro other named
    obtain ⟨isOther, fresh⟩ := sound.named other named
    rw [length_set]
    refine ⟨isOther, fun task located => ?_⟩
    obtain ⟨_, rfl⟩ | ⟨_, located⟩ := cases located
    · rw [published, unpublished]
    · exact fresh task located
  · intro first second earlier later before foundEarlier foundLater
    obtain ⟨same, _⟩ | ⟨_, keptEarlier⟩ := cases foundEarlier
    · have bound : second < tasks.length := by
        simpa using (List.getElem?_eq_some_iff.mp foundLater).1
      omega
    · obtain ⟨same, rfl⟩ | ⟨_, keptLater⟩ := cases foundLater
      · rw [created]
        exact sound.spaced first index earlier old (same ▸ before) keptEarlier found
      · exact sound.spaced first second earlier later before keptEarlier keptLater
  · intro open_ free
    obtain ⟨floor, floored, _⟩ := sound.idle open_ free index old found
    exact absurd unpublished (RefreshTask.published_of_floor floored)
  · intro obtained member
    obtain ⟨other, known⟩ := sound.snapshot obtained member
    obtain ⟨task, located, result⟩ := resultOf_eq_some.mp known
    have different : index ≠ other := by
      rintro rfl
      rw [found, some.injEq] at located
      rw [← located, unfinished] at result
      cases result
    refine ⟨other, resultOf_eq_some.mpr ⟨task, ?_, result⟩⟩
    rw [getElem?_set_ne different]
    exact located

/-- A refresh starts only when no task is left and the clock has passed every floor. -/
theorem spawn (open_ : provider.closed = false)
    (free : provider.refreshTask = none) {now : Rat} (allowed : provider.refreshAllowedAt ≤ now) (read : now ≤ clock) :
    RefreshSound config clock { provider with refreshTask := some tasks.length } (tasks ++ [⟨clock, .created, none⟩]) := by
  have cases {index : Nat} {task : RefreshTask} (located : (tasks ++ [⟨clock, .created, none⟩])[index]? = some task) :
      tasks[index]? = some task ∨ index = tasks.length ∧ task = ⟨clock, .created, none⟩ := by
    rw [getElem?_append] at located
    split at located
    · exact .inl located
    · have place := (List.getElem?_eq_some_iff.mp located).1
      rw [length_singleton] at place
      have same : index = tasks.length := by omega
      subst same
      simp only [Nat.sub_self, getElem?_cons_zero, some.injEq] at located
      exact .inr ⟨rfl, located.symm⟩
  have settled {index : Nat} {task : RefreshTask} (located : tasks[index]? = some task) :
      ∃ floor, task.floor config = some floor ∧ floor ≤ clock := by
    obtain ⟨floor, floored, bound⟩ := sound.idle open_ free index task located
    refine ⟨floor, floored, ?_⟩
    cases bound with
    | inl early => exact early.trans (allowed.trans read)
    | inr early => exact early
  refine ⟨?_, ?_, ?_, ?_, ?_, ?_, ?_⟩
  · intro index task located
    obtain located | ⟨_, rfl⟩ := cases located
    · exact sound.task index task located
    · exact ⟨le_refl _, fun _ started => by simp [RefreshTask.startedAt] at started,
        fun _ result => by simp [RefreshTask.result] at result, fun published => absurd rfl published⟩
  · intro index task located pending
    rw [length_append, length_singleton]
    obtain located | ⟨rfl, _⟩ := cases located
    · obtain ⟨floor, floored, _⟩ := settled located
      exact absurd pending ((sound.task index task located).finished (RefreshTask.published_of_floor floored))
    · rfl
  · intro index named
    have same : tasks.length = index := some.inj named
    subst same
    refine ⟨by rw [length_append, length_singleton], fun task located => ?_⟩
    obtain located | ⟨_, rfl⟩ := cases located
    · have inside := (List.getElem?_eq_some_iff.mp located).1
      omega
    · rfl
  · intro first second earlier later before foundEarlier foundLater
    obtain foundEarlier | ⟨rfl, _⟩ := cases foundEarlier
    · obtain foundLater | ⟨_, rfl⟩ := cases foundLater
      · exact sound.spaced first second earlier later before foundEarlier foundLater
      · exact settled foundEarlier
    · have bound := (List.getElem?_eq_some_iff.mp foundLater).1
      rw [length_append, length_singleton] at bound
      omega
  · intro _ busy
    cases busy
  · intro closed
    rw [show provider.closed = true from closed] at open_
    cases open_
  · intro obtained member
    obtain ⟨index, known⟩ := sound.snapshot obtained member
    obtain ⟨task, located, result⟩ := resultOf_eq_some.mp known
    refine ⟨index, resultOf_eq_some.mpr ⟨task, ?_, result⟩⟩
    rw [getElem?_append_left (List.getElem?_eq_some_iff.mp located).1]
    exact located

end

variable {task : Nat}

theorem getElem?_publish {index : Nat} {now : Rat} {found : RefreshTask}
    (located : (tasks.modify task fun found => { found with publishedAt := some now })[index]? = some found) :
    ∃ old, tasks[index]? = some old ∧ found.createdAt = old.createdAt ∧ found.phase = old.phase ∧
      found.publishedAt = if index = task then some now else old.publishedAt := by
  rw [getElem?_modify] at located
  obtain ⟨old, place, rfl⟩ := map_eq_some_iff.mp located
  refine ⟨old, place, ?_⟩
  by_cases same : task = index
  · rw [if_pos same, if_pos same.symm]
    exact ⟨rfl, rfl, rfl⟩
  · rw [if_neg same, if_neg fun other => same other.symm]
    exact ⟨rfl, rfl, rfl⟩

theorem floor_eq_of_same {new old : RefreshTask} (phase : new.phase = old.phase)
    (published : new.publishedAt = old.publishedAt) : new.floor config = old.floor config := by
  rw [RefreshTask.floor, RefreshTask.floor, RefreshTask.result, RefreshTask.result, phase, published]

theorem resultOf_publish {index : Nat} {now : Rat} :
    resultOf (tasks.modify task fun found => { found with publishedAt := some now }) index = resultOf tasks index := by
  rw [resultOf, resultOf, getElem?_modify]
  cases tasks[index]? with
  | none => rfl
  | some old =>
    by_cases same : task = index
    · simp [same, RefreshTask.result]
    · simp [same]

/-- The result of the task that the provider names is published, and every task then has a floor. -/
theorem publish (sound : RefreshSound config clock provider tasks) {now : Rat}
    (publishes : provider.Publishes task) (known : resultOf tasks task = some result) :
    RefreshSound config clock (provider.publishRefresh config task result now)
      (tasks.modify task fun found => { found with publishedAt := some now }) := by
  obtain ⟨isLast, fresh⟩ := sound.named task publishes.2
  obtain ⟨current, place, finished⟩ := resultOf_eq_some.mp known
  have free : (provider.publishRefresh config task result now).refreshTask = none := by
    unfold publishRefresh
    rw [if_pos publishes]
    cases result <;> rfl
  have open_ : (provider.publishRefresh config task result now).closed = false := by
    unfold publishRefresh
    rw [if_pos publishes]
    cases result <;> exact publishes.1
  have allowed : (provider.publishRefresh config task result now).refreshAllowedAt = result.floor config now := by
    unfold publishRefresh
    rw [if_pos publishes]
    cases result <;> rfl
  have result_of {new old : RefreshTask} (phase : new.phase = old.phase) : new.result = old.result := by
    rw [RefreshTask.result, RefreshTask.result, phase]
  refine ⟨?_, ?_, ?_, ?_, ?_, ?_, ?_⟩
  · intro index new located
    obtain ⟨old, oldPlace, created, phase, published⟩ := getElem?_publish located
    have oldSound := sound.task index old oldPlace
    refine ⟨created ▸ oldSound.created, ?_, ?_, ?_⟩
    · intro startedAt member
      rw [created]
      apply oldSound.started
      rw [RefreshTask.startedAt, ← phase]
      exact member
    · intro snapshot obtained
      exact oldSound.obtained snapshot (result_of phase ▸ obtained)
    · intro isPublished
      rw [result_of phase]
      by_cases same : index = task
      · subst same
        rw [place, some.injEq] at oldPlace
        rw [← oldPlace, finished]
        exact some_ne_none _
      · rw [published, if_neg same] at isPublished
        exact oldSound.finished isPublished
  · intro index new located pending
    obtain ⟨old, oldPlace, _, phase, _⟩ := getElem?_publish located
    rw [length_modify]
    exact sound.last index old oldPlace (result_of phase ▸ pending)
  · intro index named
    rw [free] at named
    cases named
  · intro first second earlier later before foundEarlier foundLater
    obtain ⟨oldEarlier, placeEarlier, _, phase, published⟩ := getElem?_publish foundEarlier
    obtain ⟨oldLater, placeLater, created, _, _⟩ := getElem?_publish foundLater
    have bound := (List.getElem?_eq_some_iff.mp placeLater).1
    rw [if_neg (by omega)] at published
    rw [floor_eq_of_same phase published, created]
    exact sound.spaced first second oldEarlier oldLater before placeEarlier placeLater
  · intro _ _ index new located
    obtain ⟨old, oldPlace, _, phase, published⟩ := getElem?_publish located
    by_cases same : index = task
    · subst same
      rw [place, some.injEq] at oldPlace
      rw [if_pos rfl] at published
      refine ⟨_, RefreshTask.floor_of_published ((result_of phase).trans (oldPlace ▸ finished)) published, ?_⟩
      rw [allowed]
      exact .inl (le_refl _)
    · have bound := (List.getElem?_eq_some_iff.mp oldPlace).1
      obtain ⟨floor, floored, early⟩ := sound.spaced index task old current (by omega) oldPlace place
      rw [if_neg same] at published
      exact ⟨floor, (floor_eq_of_same phase published).trans floored, .inr (early.trans (sound.task task current place).created)⟩
  · intro closed
    rw [open_] at closed
    cases closed
  · intro obtained member
    have kept : obtained ∈ provider.snapshot ∨ result = .snapshot obtained := by
      unfold publishRefresh at member
      rw [if_pos publishes] at member
      cases result with
      | snapshot new => exact .inr (congrArg RefreshResult.snapshot (some.inj member))
      | unavailable refusal => exact .inl member
      | raised => exact .inl member
    simp only [resultOf_publish]
    cases kept with
    | inl old => exact sound.snapshot obtained old
    | inr new => exact ⟨task, new ▸ known⟩

end RefreshSound

/-- What a reading of the clock during a lookup is. -/
def Lookup.Read (lookup : Lookup) (clock now : Rat) : Prop :=
  lookup.calledAt ≤ now ∧ now ≤ clock

/-- What an answer may be: keys that have the key id, are current at a reading of the lookup, and come from a refresh. -/
def AnswerSound (config : JwksProviderConfig) (clock : Rat) (tasks : List RefreshTask) (lookup : Lookup) : KeyAnswer → Prop
  | .keys obtained now =>
    (∃ keyId, lookup.request = .getKeySet keyId ∧ obtained.keySet.HasKey keyId) ∧ lookup.Read clock now ∧
      obtained.Current config now ∧ ∃ index, resultOf tasks index = some (.snapshot obtained)
  | .current => True
  | .unavailable _ => True

def PhaseSound (config : JwksProviderConfig) (clock : Rat) (tasks : List RefreshTask) (lookup : Lookup) : LookupPhase → Prop
  | .called => True
  | .entering now => lookup.Read clock now
  | .waiting _ => True
  | .settling task result => resultOf tasks task = some result
  | .publishing task result now => resultOf tasks task = some result ∧ lookup.Read clock now
  | .published _ => True
  | .checking _ now => lookup.Read clock now
  | .answered answer => AnswerSound config clock tasks lookup answer
  | .ended => True

def LookupSound (config : JwksProviderConfig) (clock : Rat) (tasks : List RefreshTask) (lookup : Lookup) : Prop :=
  lookup.calledAt ≤ clock ∧ PhaseSound config clock tasks lookup lookup.phase

/-- Later tasks know every result of earlier ones. -/
def Grows (tasks later : List RefreshTask) : Prop :=
  ∀ index result, resultOf tasks index = some result → resultOf later index = some result

theorem LookupSound.grow {config : JwksProviderConfig} {clock later : Rat} {tasks grown : List RefreshTask} {lookup : Lookup}
    (sound : LookupSound config clock tasks lookup) (after : clock ≤ later) (grows : Grows tasks grown) :
    LookupSound config later grown lookup := by
  have read {now : Rat} (read : lookup.Read clock now) : lookup.Read later now :=
    ⟨read.1, read.2.trans after⟩
  obtain ⟨called, phase⟩ := sound
  refine ⟨called.trans after, ?_⟩
  cases reached : lookup.phase with
  | called => trivial
  | entering now => exact read (by rwa [reached] at phase)
  | waiting task => trivial
  | settling task result => exact grows task result (by rwa [reached] at phase)
  | publishing task result now =>
    rw [reached] at phase
    exact ⟨grows task result phase.1, read phase.2⟩
  | published result => trivial
  | checking result now => exact read (by rwa [reached] at phase)
  | answered answer =>
    rw [reached] at phase
    cases answer with
    | keys obtained now =>
      obtain ⟨named, reading, current, index, known⟩ := phase
      exact ⟨named, read reading, current, index, grows index _ known⟩
    | current => trivial
    | unavailable refusal => trivial
  | ended => trivial

theorem grows_set {tasks : List RefreshTask} {index : Nat} {old new : RefreshTask} (found : tasks[index]? = some old)
    (unfinished : old.result = none) : Grows tasks (tasks.set index new) := by
  intro other result known
  obtain ⟨task, located, finished⟩ := resultOf_eq_some.mp known
  have different : index ≠ other := by
    rintro rfl
    rw [found, some.injEq] at located
    rw [← located, unfinished] at finished
    cases finished
  refine resultOf_eq_some.mpr ⟨task, ?_, finished⟩
  rw [getElem?_set_ne different]
  exact located

theorem grows_append (tasks added : List RefreshTask) : Grows tasks (tasks ++ added) := by
  intro index result known
  obtain ⟨task, located, finished⟩ := resultOf_eq_some.mp known
  refine resultOf_eq_some.mpr ⟨task, ?_, finished⟩
  rw [getElem?_append_left (List.getElem?_eq_some_iff.mp located).1]
  exact located

/-- The invariant of the cache. -/
structure KeyWorld.Sound (config : JwksProviderConfig) (world : KeyWorld) : Prop where
  refresh : RefreshSound config world.clock world.provider world.tasks
  lookups : ∀ lookup ∈ world.lookups, LookupSound config world.clock world.tasks lookup

namespace KeyWorld

variable {config : JwksProviderConfig} {world : KeyWorld} {index : Nat} {lookup : Lookup}

theorem sound_start (clock : Rat) : (start clock).Sound config :=
  ⟨RefreshSound.start, fun _ member => absurd member not_mem_nil⟩

section

variable (sound : world.Sound config)
include sound

/-- A world with another provider and more tasks, in which one lookup has reached a phase. -/
theorem sound_reach (found : world.lookups[index]? = some lookup)
    {provider : CachingJwksProvider} {tasks : List RefreshTask} (refresh : RefreshSound config world.clock provider tasks)
    (grows : Grows world.tasks tasks) {phase : LookupPhase} (reached : PhaseSound config world.clock tasks lookup phase) :
    Sound config { world.reach index lookup phase with provider, tasks } := by
  refine ⟨refresh, fun other member => ?_⟩
  obtain kept | rfl := mem_or_eq_of_mem_set member
  · exact (sound.lookups other kept).grow (le_refl _) grows
  · refine ⟨(sound.lookups lookup (mem_of_getElem? found)).1, ?_⟩
    cases phase with
    | answered answer => cases answer <;> exact reached
    | _ => exact reached

/-- The provider and the tasks stay as they are. -/
theorem sound_reach_same (found : world.lookups[index]? = some lookup) {phase : LookupPhase}
    (reached : PhaseSound config world.clock world.tasks lookup phase) : (world.reach index lookup phase).Sound config :=
  sound_reach sound found sound.refresh (fun _ _ known => known) reached

theorem cached_sound {now : Rat} (read : lookup.Read world.clock now) {answer : KeyAnswer}
    (cached : world.provider.cached config lookup.request now = some answer) :
    AnswerSound config world.clock world.tasks lookup answer := by
  unfold CachingJwksProvider.cached at cached
  cases request : lookup.request with
  | getKeySet keyId =>
    rw [request] at cached
    obtain ⟨snapshot, matching, rfl⟩ := map_eq_some_iff.mp cached
    rw [matchingSnapshot, filter_eq_some_iff] at matching
    obtain ⟨stored, admitted⟩ := matching
    obtain ⟨current, hasKey⟩ := of_decide_eq_true admitted
    exact ⟨⟨keyId, request, hasKey⟩, read, current, sound.refresh.snapshot snapshot stored⟩
  | probe =>
    rw [request] at cached
    dsimp only at cached
    split at cached
    · cases cached
      trivial
    · cases cached

theorem settle_sound {now : Rat} (read : lookup.Read world.clock now) (result : RefreshResult) :
    AnswerSound config world.clock world.tasks lookup (world.provider.settle config lookup.request result now) := by
  unfold CachingJwksProvider.settle
  split
  · rename_i cached
    exact cached_sound sound read cached
  · trivial
  · split
    · trivial
    · trivial

theorem enterAt_sound (found : world.lookups[index]? = some lookup) {now : Rat}
    (read : lookup.Read world.clock now) : (world.enterAt config index lookup now).Sound config := by
  rw [enterAt]
  split
  · rename_i answer entered
    refine sound_reach_same sound found ?_
    rw [CachingJwksProvider.enter] at entered
    split at entered
    · cases entered
      trivial
    · split at entered
      · rename_i cached
        cases entered
        exact cached_sound sound read cached
      · split at entered
        · cases entered
        · split at entered
          · cases entered
            trivial
          · cases entered
  · exact sound_reach_same sound found trivial
  · rename_i entered
    rw [CachingJwksProvider.enter] at entered
    split at entered
    · cases entered
    · rename_i open_
      split at entered
      · cases entered
      · split at entered
        · cases entered
        · rename_i free
          split at entered
          · cases entered
          · rename_i allowed
            exact sound_reach sound found (sound.refresh.spawn (Bool.eq_false_iff.mpr open_) free (not_lt.mp allowed) read.2)
              (grows_append _ _) trivial

theorem publishAt_sound (found : world.lookups[index]? = some lookup) {task : Nat}
    (known : resultOf world.tasks task = some result) (now : Rat) :
    (world.publishAt config index lookup task result now).Sound config := by
  rw [publishAt]
  by_cases publishes : world.provider.Publishes task
  · rw [if_pos publishes]
    refine sound_reach sound found (sound.refresh.publish publishes known) ?_ trivial
    intro other finished before
    rw [RefreshSound.resultOf_publish]
    exact before
  · rw [if_neg publishes, publishRefresh.eq_def, if_neg publishes]
    exact sound_reach sound found sound.refresh (fun _ _ before => before) trivial

theorem moveLookup_sound (found : world.lookups[index]? = some lookup) : (world.moveLookup config index lookup).Sound config := by
  obtain ⟨called, phase⟩ := sound.lookups lookup (mem_of_getElem? found)
  have reading : lookup.Read world.clock world.clock := ⟨called, le_refl _⟩
  unfold moveLookup
  split
  · split
    · exact sound_reach_same sound found trivial
    · exact sound_reach_same sound found reading
  · rename_i now reached
    rw [reached] at phase
    exact enterAt_sound sound found phase
  · rw [resumeAt]
    split
    · exact sound
    · exact sound_reach_same sound found trivial
    · rename_i result _ known
      exact sound_reach_same sound found known
  · rename_i task result reached
    rw [reached] at phase
    exact sound_reach_same sound found ⟨phase, reading⟩
  · rename_i task result now reached
    rw [reached] at phase
    exact publishAt_sound sound found phase.1 now
  · exact sound_reach_same sound found reading
  · rename_i result now reached
    rw [reached] at phase
    exact sound_reach_same sound found (settle_sound sound phase result)
  · exact sound
  · exact sound

/-- A task that is not done yet takes its next phase. -/
theorem retask_sound {old new : RefreshTask} (found : world.tasks[index]? = some old)
    (unfinished : old.result = none) (created : new.createdAt = old.createdAt)
    (published : new.publishedAt = old.publishedAt) (kept : new.Sound world.clock) :
    (world.retask index new).Sound config :=
  ⟨sound.refresh.retask found unfinished created published kept, fun other member =>
    (sound.lookups other member).grow (le_refl _) (grows_set found unfinished)⟩

end

variable [Interpreter] [KeyHost]

omit [KeyHost] [Interpreter] in
theorem unpublished_of_pending (sound : world.Sound config) {task : RefreshTask} (found : world.tasks[index]? = some task)
    (unfinished : task.result = none) : task.publishedAt = none := by
  by_contra published
  exact (sound.refresh.task index task found).finished published unfinished

theorem refresh_obtained {outcome : FetchOutcome} {now : Rat} {obtained : KeySnapshot}
    (refreshed : refresh config outcome now = .snapshot obtained) : obtained.obtainedAt = now := by
  unfold refresh at refreshed
  split at refreshed
  · cases refreshed
  · cases refreshed
  · cases refreshed
  · split at refreshed
    · cases refreshed
    · cases refreshed
    · cases refreshed
      rfl

theorem step_sound (sound : world.Sound config) (action : KeyAction) : (world.step config action).Sound config := by
  cases action with
  | tick clock =>
    exact ⟨sound.refresh.tick (le_max_left _ _), fun other member =>
      (sound.lookups other member).grow (le_max_left _ _) fun _ _ known => known⟩
  | call request =>
    refine ⟨sound.refresh, fun other member => ?_⟩
    obtain old | new := mem_append.mp member
    · exact sound.lookups other old
    · rw [mem_singleton] at new
      rw [new]
      exact ⟨le_refl _, trivial⟩
  | move index =>
    rw [step]
    split
    · exact sound
    · rename_i lookup found
      exact moveLookup_sound sound found
  | cancel index =>
    rw [step]
    split
    · exact sound
    · rename_i lookup found
      split
      · exact sound
      · exact sound_reach_same sound found trivial
  | begin index =>
    rw [step]
    split
    · rename_i createdAt publishedAt found
      have before := sound.refresh.task index _ found
      have unpublished := unpublished_of_pending sound found rfl
      refine retask_sound sound found rfl rfl rfl ⟨before.created, ?_, ?_, ?_⟩
      · rintro startedAt ⟨⟩
        exact before.created
      · intro snapshot finished
        cases finished
      · exact fun published => absurd unpublished published
    · exact sound
  | finish index outcome =>
    rw [step]
    split
    · rename_i createdAt startedAt publishedAt found
      have before := sound.refresh.task index _ found
      refine retask_sound sound found rfl rfl rfl ⟨before.created, before.started, ?_, fun _ => some_ne_none _⟩
      intro snapshot finished
      exact (refresh_obtained (some.inj finished)).le
    · exact sound
  | crash index =>
    rw [step]
    split
    · rename_i createdAt publishedAt found
      have before := sound.refresh.task index _ found
      refine retask_sound sound found rfl rfl rfl ⟨before.created, ?_, ?_, fun _ => some_ne_none _⟩
      · rintro startedAt ⟨⟩
      · intro snapshot finished
        cases finished
    · exact sound
  | close => exact ⟨sound.refresh.close, sound.lookups⟩

theorem run_sound (actions : List KeyAction) : ∀ world : KeyWorld, world.Sound config → (world.run config actions).Sound config := by
  induction actions with
  | nil => exact fun _ sound => sound
  | cons action rest inductionHypothesis =>
    intro world sound
    exact inductionHypothesis (world.step config action) (step_sound sound action)

/-- The provider has been closed and holds nothing. -/
def Closed (world : KeyWorld) : Prop :=
  world.provider.closed = true ∧ world.provider.snapshot = none

omit [KeyHost] [Interpreter] in
theorem cached_closed (closed : world.Closed) (request : KeyRequest) (now : Rat) :
    world.provider.cached config request now = none := by
  unfold CachingJwksProvider.cached
  cases request with
  | getKeySet keyId =>
    unfold matchingSnapshot
    rw [closed.2]
    rfl
  | probe =>
    unfold hasCurrentSnapshot
    rw [closed.2]
    rfl

omit [KeyHost] [Interpreter] in
theorem enter_closed (closed : world.Closed) (request : KeyRequest) (now : Rat) : world.provider.enter config request now =
      .answer (.unavailable (unavailable .fetchUnavailable "JWKS provider is closed")) := by
  rw [CachingJwksProvider.enter, if_pos closed.1]

omit [KeyHost] [Interpreter] in
theorem settle_closed (config : JwksProviderConfig) (closed : world.Closed) (request : KeyRequest)
    (result : RefreshResult) (now : Rat) :
    ∃ refusal, world.provider.settle config request result now = .unavailable refusal := by
  unfold CachingJwksProvider.settle
  rw [cached_closed closed]
  cases result with
  | unavailable refusal => exact ⟨refusal, rfl⟩
  | snapshot obtained => cases request <;> exact ⟨_, rfl⟩
  | raised => cases request <;> exact ⟨_, rfl⟩

/-- What one step of a closed provider keeps: the provider itself, and every answer but refusals. -/
structure StaysClosed (before after : KeyWorld) : Prop where
  provider : after.provider = before.provider
  answers : ∀ (index : Nat) (lookup : Lookup) (answer : KeyAnswer), after.lookups[index]? = some lookup →
    lookup.phase = .answered answer → before.lookups[index]? = some lookup ∨ ∃ refusal, answer = .unavailable refusal

omit [KeyHost] [Interpreter] in
theorem StaysClosed.refl (world : KeyWorld) : StaysClosed world world :=
  ⟨rfl, fun _ _ _ found _ => .inl found⟩

omit [KeyHost] [Interpreter] in
theorem StaysClosed.trans {first second third : KeyWorld} (before : StaysClosed first second)
    (after : StaysClosed second third) : StaysClosed first third := by
  refine ⟨after.provider.trans before.provider, fun index lookup answer found answered => ?_⟩
  cases after.answers index lookup answer found answered with
  | inl kept => exact before.answers index lookup answer kept answered
  | inr refused => exact .inr refused

omit [KeyHost] [Interpreter] in
theorem staysClosed_reach {phase : LookupPhase} {tasks : List RefreshTask}
    (refused : ∀ answer, phase = .answered answer → ∃ refusal, answer = .unavailable refusal) :
    StaysClosed world { world.reach index lookup phase with tasks } := by
  refine ⟨rfl, fun other found answer located answered => ?_⟩
  simp only [reach] at located
  rw [getElem?_set] at located
  split at located
  · split at located
    · cases located
      exact .inr (refused answer answered)
    · cases located
  · exact .inl located

omit [KeyHost] [Interpreter] in
theorem staysClosed_move (closed : world.Closed) : StaysClosed world (world.moveLookup config index lookup) := by
  unfold moveLookup
  split
  · split
    · exact staysClosed_reach fun _ same => by cases same
    · exact staysClosed_reach fun _ same => by cases same
  · rw [enterAt, enter_closed closed]
    exact staysClosed_reach fun _ same => ⟨_, (LookupPhase.answered.inj same).symm⟩
  · rw [resumeAt]
    split
    · exact StaysClosed.refl world
    · exact staysClosed_reach fun _ same => by cases same
    · exact staysClosed_reach fun _ same => by cases same
  · exact staysClosed_reach fun _ same => by cases same
  · rename_i task result now _
    have kept : ¬ world.provider.Publishes task := by
      rintro ⟨open_, _⟩
      rw [closed.1] at open_
      cases open_
    rw [publishAt, publishRefresh.eq_def, if_neg kept, if_neg kept]
    exact staysClosed_reach fun _ same => by cases same
  · exact staysClosed_reach fun _ same => by cases same
  · rename_i result now _
    obtain ⟨refusal, settled⟩ := settle_closed config closed lookup.request result now
    rw [settled]
    exact staysClosed_reach fun _ same => ⟨refusal, (LookupPhase.answered.inj same).symm⟩
  · exact StaysClosed.refl world
  · exact StaysClosed.refl world

theorem staysClosed_step (config : JwksProviderConfig) (closed : world.Closed) (action : KeyAction) :
    StaysClosed world (world.step config action) := by
  have retasked (index : Nat) (task : RefreshTask) : StaysClosed world (world.retask index task) :=
    ⟨rfl, fun _ _ _ found _ => .inl found⟩
  cases action with
  | tick clock => exact ⟨rfl, fun _ _ _ found _ => .inl found⟩
  | call request =>
    refine ⟨rfl, fun other found answer located answered => ?_⟩
    simp only [step] at located
    rw [getElem?_append] at located
    split at located
    · exact .inl located
    · have new := mem_of_getElem? located
      rw [mem_singleton] at new
      rw [new] at answered
      cases answered
  | move index =>
    rw [step]
    split
    · exact StaysClosed.refl world
    · exact staysClosed_move closed
  | cancel index =>
    rw [step]
    split
    · exact StaysClosed.refl world
    · split
      · exact StaysClosed.refl world
      · exact staysClosed_reach fun _ same => by cases same
  | begin index =>
    rw [step]
    split
    · exact retasked _ _
    · exact StaysClosed.refl world
  | finish index outcome =>
    rw [step]
    split
    · exact retasked _ _
    · exact StaysClosed.refl world
  | crash index =>
    rw [step]
    split
    · exact retasked _ _
    · exact StaysClosed.refl world
  | close =>
    refine ⟨?_, fun _ _ _ found _ => .inl found⟩
    rw [step, CachingJwksProvider.aclose, if_pos closed.1]

theorem staysClosed_run (config : JwksProviderConfig) (actions : List KeyAction) :
    ∀ world : KeyWorld, world.Closed → StaysClosed world (world.run config actions) := by
  induction actions with
  | nil => exact fun world _ => StaysClosed.refl world
  | cons action rest inductionHypothesis =>
    intro world closed
    have next := staysClosed_step config closed action
    have still : (world.step config action).Closed := by
      rw [Closed, next.provider]
      exact closed
    exact next.trans (inductionHypothesis (world.step config action) still)

/-- In every run one fetch is in flight at most, keys are returned only while they are current, refreshes keep their distance,
and a closed provider answers every lookup with a refusal and publishes nothing. -/
theorem jwks_cache_never_serves_stale_keys (config : JwksProviderConfig) (clock : Rat) (actions : List KeyAction) :
    (∀ (first second : Nat) (task other : RefreshTask), ((start clock).run config actions).tasks[first]? = some task →
      ((start clock).run config actions).tasks[second]? = some other → task.Running → other.Running → first = second) ∧
    (∀ lookup ∈ ((start clock).run config actions).lookups, ∀ obtained now, lookup.phase = .answered (.keys obtained now) →
      (∃ keyId, lookup.request = .getKeySet keyId ∧ obtained.keySet.HasKey keyId) ∧
        (lookup.calledAt ≤ now ∧ now ≤ ((start clock).run config actions).clock) ∧
        (obtained.obtainedAt ≤ now ∧ now < obtained.obtainedAt + config.maximumCacheAgeSeconds) ∧
        ∃ index, resultOf ((start clock).run config actions).tasks index = some (.snapshot obtained)) ∧
    (∀ (first second : Nat) (earlier later : RefreshTask), first < second →
      ((start clock).run config actions).tasks[first]? = some earlier →
      ((start clock).run config actions).tasks[second]? = some later →
      (∀ startedAt ∈ later.startedAt, later.createdAt ≤ startedAt) ∧
        ∃ result publishedAt, earlier.result = some result ∧ earlier.publishedAt = some publishedAt ∧
          match result with
          | .snapshot obtained => obtained.obtainedAt + config.minimumRefreshIntervalSeconds ≤ later.createdAt
          | _ => publishedAt + config.failureBackoffSeconds ≤ later.createdAt) ∧
    (((start clock).run config actions).provider.closed = true → ∀ more : List KeyAction,
      (((start clock).run config actions).run config more).provider = ((start clock).run config actions).provider ∧
        ((start clock).run config actions).provider.snapshot = none ∧
        (∀ (index : Nat) (lookup : Lookup) (answer : KeyAnswer),
          (((start clock).run config actions).run config more).lookups[index]? = some lookup →
          lookup.phase = .answered answer → ((start clock).run config actions).lookups[index]? = some lookup ∨
            ∃ refusal, answer = .unavailable refusal) ∧
        ∀ request now, ((start clock).run config actions).provider.enter config request now =
          .answer (.unavailable (unavailable .fetchUnavailable "JWKS provider is closed"))) := by
  have sound : ((start clock).run config actions).Sound config := run_sound actions (start clock) (sound_start clock)
  generalize (start clock).run config actions = world at sound
  refine ⟨?_, ?_, ?_, ?_⟩
  · intro first second task other foundFirst foundSecond running otherRunning
    have pending {task : RefreshTask} (running : task.Running) : task.result = none := by
      obtain ⟨startedAt, fetching⟩ := running
      rw [RefreshTask.result, fetching]
    have isLast := sound.refresh.last first task foundFirst (pending running)
    have otherLast := sound.refresh.last second other foundSecond (pending otherRunning)
    omega
  · intro lookup member obtained now answered
    obtain ⟨_, phase⟩ := sound.lookups lookup member
    rw [answered] at phase
    exact phase
  · intro first second earlier later before foundEarlier foundLater
    refine ⟨(sound.refresh.task second later foundLater).started, ?_⟩
    obtain ⟨floor, floored, early⟩ := sound.refresh.spaced first second earlier later before foundEarlier foundLater
    have published := RefreshTask.published_of_floor floored
    obtain ⟨result, finished⟩ := Option.ne_none_iff_exists'.mp ((sound.refresh.task first earlier foundEarlier).finished published)
    obtain ⟨publishedAt, published⟩ := Option.ne_none_iff_exists'.mp published
    rw [RefreshTask.floor_of_published finished published, Option.some.injEq] at floored
    refine ⟨result, publishedAt, finished, published, ?_⟩
    rw [← floored] at early
    cases result <;> exact early
  · intro closed more
    have cleared : world.Closed := ⟨closed, (sound.refresh.cleared closed).1⟩
    have stays := staysClosed_run config more world cleared
    exact ⟨stays.provider, cleared.2, stays.answers, enter_closed cleared⟩

end KeyWorld

end CiCoordinator.IdentityAdmission

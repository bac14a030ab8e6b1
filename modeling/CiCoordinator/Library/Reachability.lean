import Mathlib.Algebra.Order.Ring.Nat
import Mathlib.Data.List.Basic
import Mathlib.Data.List.Dedup
import Mathlib.Logic.Relation
import Mathlib.Tactic.Common

/- The worklist closure of a relation given by successor lists. -/

namespace CiCoordinator.Library

open List

variable {V : Type} [DecidableEq V]

/-- A vertex is reachable when a chain of successors leads to it from a start. -/
def Reachable (next : V → List V) (starts : List V) (vertex : V) : Prop :=
  ∃ start ∈ starts, Relation.ReflTransGen (fun source target => target ∈ next source) start vertex

/-- The successors that a visit adds, in order and each of them once. -/
def freshSuccessors (seen : List V) : List V → List V
  | [] => []
  | vertex :: rest =>
    if vertex ∈ seen then freshSuccessors seen rest
    else vertex :: freshSuccessors (vertex :: seen) rest

/-- A queue appends what a visit adds and a stack puts it on top. -/
inductive Discipline where
  | queue
  | stack
  deriving DecidableEq

namespace Discipline

/-- The waiting vertices after a visit. -/
def push (discipline : Discipline) (fresh waiting : List V) : List V :=
  match discipline with
  | .queue => waiting ++ fresh
  | .stack => fresh.reverse ++ waiting

omit [DecidableEq V] in
@[simp] theorem mem_push {discipline : Discipline} {fresh waiting : List V} {vertex : V} :
    vertex ∈ discipline.push fresh waiting ↔ vertex ∈ fresh ∨ vertex ∈ waiting := by
  cases discipline with
  | queue => simp [push, or_comm]
  | stack => simp [push]

omit [DecidableEq V] in
@[simp] theorem length_push {discipline : Discipline} {fresh waiting : List V} :
    (discipline.push fresh waiting).length = fresh.length + waiting.length := by
  cases discipline with
  | queue => simp [push, Nat.add_comm]
  | stack => simp [push]

end Discipline

/-- The traversal keeps the vertices it has seen, those that still wait and those it has visited. -/
structure Traversal (V : Type) where
  seen : List V
  waiting : List V
  visited : List V

namespace Traversal

/-- The traversal that starts at given vertices. -/
def start (starts : List V) : Traversal V :=
  ⟨starts, starts, []⟩

/-- One visit takes the next waiting vertex and adds its unseen successors. -/
def visit (discipline : Discipline) (next : V → List V) (state : Traversal V) : Traversal V :=
  match state.waiting with
  | [] => state
  | vertex :: rest =>
    let fresh := freshSuccessors state.seen (next vertex)
    ⟨state.seen ++ fresh, discipline.push fresh rest, state.visited ++ [vertex]⟩

/-- The traversal after a number of visits. -/
def run (discipline : Discipline) (next : V → List V) : Nat → Traversal V → Traversal V
  | 0, state => state
  | fuel + 1, state =>
    match state.waiting with
    | [] => state
    | _ :: _ => run discipline next fuel (state.visit discipline next)

end Traversal

variable {vertex : V} {seen : List V}

theorem mem_freshSuccessors {successors : List V} :
    vertex ∈ freshSuccessors seen successors ↔ vertex ∈ successors ∧ vertex ∉ seen := by
  induction successors generalizing seen with
  | nil => simp [freshSuccessors]
  | cons first rest ih =>
    by_cases known : first ∈ seen
    · rw [freshSuccessors, if_pos known, ih, mem_cons]
      constructor
      · rintro ⟨member, new⟩
        exact ⟨.inr member, new⟩
      · rintro ⟨equal | member, new⟩
        · exact absurd (equal ▸ known) new
        · exact ⟨member, new⟩
    · rw [freshSuccessors, if_neg known, mem_cons, ih, mem_cons, mem_cons]
      by_cases same : vertex = first
      · simp [same, known]
      · simp [same]

theorem nodup_freshSuccessors {successors : List V} : (freshSuccessors seen successors).Nodup := by
  induction successors generalizing seen with
  | nil => simp [freshSuccessors]
  | cons first rest ih =>
    by_cases known : first ∈ seen
    · rw [freshSuccessors, if_pos known]
      exact ih
    · rw [freshSuccessors, if_neg known, nodup_cons, mem_freshSuccessors]
      simp [ih]

namespace Traversal

variable {discipline : Discipline} {next : V → List V} {starts : List V}

/-- The traversal has seen exactly the visited and the waiting vertices, all of them reachable, and every
successor of a visited vertex. -/
structure Sound (next : V → List V) (starts : List V) (state : Traversal V) : Prop where
  started : ∀ vertex ∈ starts, vertex ∈ state.seen
  reachable : ∀ vertex ∈ state.seen, Reachable next starts vertex
  split : ∀ vertex, vertex ∈ state.seen ↔ vertex ∈ state.visited ∨ vertex ∈ state.waiting
  closed : ∀ vertex ∈ state.visited, ∀ successor ∈ next vertex, successor ∈ state.seen

variable {state : Traversal V}

omit [DecidableEq V] in
theorem sound_start : Sound next starts (start starts) where
  started := fun _ member => member
  reachable := fun vertex member => ⟨vertex, member, Relation.ReflTransGen.refl⟩
  split := fun vertex => by simp [start]
  closed := fun vertex member => by simp [start] at member

/-- One visit keeps the invariant. -/
theorem sound_visit (sound : Sound next starts state) : Sound next starts (state.visit discipline next) := by
  obtain ⟨seen, waiting, visited⟩ := state
  cases waiting with
  | nil => exact sound
  | cons vertex rest =>
    have vertexSeen : vertex ∈ seen := (sound.split vertex).mpr (by simp)
    constructor
    · intro other member
      simp [visit, sound.started other member]
    · intro other member
      simp only [visit, mem_append, mem_freshSuccessors] at member
      rcases member with old | ⟨successor, -⟩
      · exact sound.reachable other old
      · obtain ⟨origin, originMember, path⟩ := sound.reachable vertex vertexSeen
        exact ⟨origin, originMember, path.tail successor⟩
    · intro other
      have old := sound.split other
      simp only [visit, mem_append, Discipline.mem_push, mem_cons] at old ⊢
      rw [old]
      tauto
    · intro other member successor edge
      simp only [visit, mem_append, mem_singleton, mem_freshSuccessors] at member ⊢
      rcases member with old | rfl
      · exact .inl (sound.closed other old successor edge)
      · by_cases known : successor ∈ seen
        · exact .inl known
        · exact .inr ⟨edge, known⟩

/-- A run of visits keeps the invariant. -/
theorem sound_run {fuel : Nat} (sound : Sound next starts state) : Sound next starts (state.run discipline next fuel) := by
  induction fuel generalizing state with
  | zero => exact sound
  | succ fuel ih =>
    rw [run]
    split
    · exact sound
    · exact ih (sound_visit sound)

/-- The vertices of a universe that a traversal has not seen. -/
def unseen (world seen : List V) : List V :=
  world.filter fun vertex => vertex ∉ seen

/-- The visits that can still happen are the waiting ones and the unseen vertices of the universe. -/
def remaining (world : List V) (state : Traversal V) : Nat :=
  state.waiting.length + (unseen world state.seen).length

theorem length_unseen_append {world : List V} (known : vertex ∈ world) (new : vertex ∉ seen) :
    (unseen world (seen ++ [vertex])).length < (unseen world seen).length := by
  have refines : unseen world (seen ++ [vertex]) = (unseen world seen).filter (· ≠ vertex) := by
    rw [unseen, unseen, filter_filter]
    congr 1
    funext other
    by_cases old : other ∈ seen <;> by_cases same : other = vertex <;> simp [old, same]
  rw [refines]
  refine length_filter_lt_length_iff_exists.mpr ⟨vertex, ?_, by simp⟩
  exact mem_filter.mpr ⟨known, by simpa using new⟩

theorem length_fresh_le {world fresh : List V} (distinct : fresh.Nodup)
    (new : ∀ vertex ∈ fresh, vertex ∉ seen) (known : ∀ vertex ∈ fresh, vertex ∈ world) :
    fresh.length + (unseen world (seen ++ fresh)).length ≤ (unseen world seen).length := by
  induction fresh generalizing seen with
  | nil => simp
  | cons vertex rest ih =>
    rw [nodup_cons] at distinct
    have step := @ih (seen ++ [vertex]) distinct.2 (fun other member => by
        have outside := new other (mem_cons_of_mem _ member)
        have differs : other ≠ vertex := fun equal => distinct.1 (equal ▸ member)
        simp [outside, differs])
      (fun other member => known other (mem_cons_of_mem _ member))
    rw [append_assoc, singleton_append] at step
    have fewer := length_unseen_append (known vertex mem_cons_self) (new vertex mem_cons_self)
    simp only [length_cons]
    omega

/-- A visit uses up one of the remaining visits. -/
theorem remaining_visit {world : List V} (inside : ∀ vertex, ∀ successor ∈ next vertex, successor ∈ world)
    (busy : state.waiting ≠ []) : (state.visit discipline next).remaining world < state.remaining world := by
  obtain ⟨seen, waiting, visited⟩ := state
  cases waiting with
  | nil => exact absurd rfl busy
  | cons vertex rest =>
    have bound : (freshSuccessors seen (next vertex)).length +
        (unseen world (seen ++ freshSuccessors seen (next vertex))).length ≤ (unseen world seen).length :=
      length_fresh_le nodup_freshSuccessors (fun other member => (mem_freshSuccessors.mp member).2)
        (fun other member => inside vertex other (mem_freshSuccessors.mp member).1)
    simp only [remaining, visit, Discipline.length_push, length_cons]
    omega

theorem run_waiting_nil {world : List V} (inside : ∀ vertex, ∀ successor ∈ next vertex, successor ∈ world)
    {fuel : Nat} (enough : state.remaining world ≤ fuel) : (state.run discipline next fuel).waiting = [] := by
  induction fuel generalizing state with
  | zero =>
    have none : state.waiting.length = 0 := by
      simp only [remaining] at enough
      omega
    simpa [run] using none
  | succ fuel ih =>
    rw [run]
    split
    · assumption
    · rename_i vertex rest waiting
      have busy : state.waiting ≠ [] := by simp [waiting]
      have fewer : (state.visit discipline next).remaining world < state.remaining world :=
        remaining_visit inside busy
      exact ih (by omega)

omit [DecidableEq V] in
/-- A finished traversal has seen, and visited, exactly the reachable vertices. -/
theorem mem_seen_iff (sound : Sound next starts state) (finished : state.waiting = []) :
    vertex ∈ state.seen ↔ Reachable next starts vertex := by
  constructor
  · exact sound.reachable vertex
  · rintro ⟨origin, member, path⟩
    induction path with
    | refl => exact sound.started origin member
    | @tail middle target _ edge ih =>
      have visited : middle ∈ state.visited := by
        simpa [finished] using (sound.split middle).mp ih
      exact sound.closed middle visited target edge

omit [DecidableEq V] in
theorem mem_visited_iff (sound : Sound next starts state) (finished : state.waiting = []) :
    vertex ∈ state.visited ↔ Reachable next starts vertex := by
  rw [← mem_seen_iff sound finished, sound.split vertex, finished]
  simp

end Traversal

/-- The closure of a set of vertices under successors inside a finite universe. -/
def closure (discipline : Discipline) (next : V → List V) (world starts : List V) : Traversal V :=
  (Traversal.start starts).run discipline next (starts.length + world.length)

section Closure

variable {discipline : Discipline} {next : V → List V} {world starts : List V}

section

variable (inside : ∀ vertex, ∀ successor ∈ next vertex, successor ∈ world)
include inside

theorem closure_finished : (closure discipline next world starts).waiting = [] := by
  refine Traversal.run_waiting_nil inside ?_
  have bound : (Traversal.unseen world starts).length ≤ world.length := length_filter_le _ _
  simp only [Traversal.remaining, Traversal.start]
  omega

/-- The closure has seen exactly the reachable vertices, whatever its discipline. -/
theorem mem_closure_seen : vertex ∈ (closure discipline next world starts).seen ↔ Reachable next starts vertex :=
  Traversal.mem_seen_iff (Traversal.sound_run Traversal.sound_start) (closure_finished inside)

theorem mem_closure_visited : vertex ∈ (closure discipline next world starts).visited ↔ Reachable next starts vertex :=
  Traversal.mem_visited_iff (Traversal.sound_run Traversal.sound_start) (closure_finished inside)

end

end Closure

end CiCoordinator.Library

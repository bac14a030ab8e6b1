import CiCoordinator.Library.Fallible
import CiCoordinator.Library.Reachability
import Mathlib.Order.Bounds.Defs

/- The worklist closure of a relation whose successors are looked up and may be missing. -/

namespace CiCoordinator.Library

variable {V E : Type} [DecidableEq V]

/-- The successors that a lookup finds. -/
def successorsOf (lookup : V → Except E (List V)) (vertex : V) : List V :=
  match lookup vertex with
  | .ok successors => successors
  | .error _ => []

namespace Traversal

/-- A number of visits, each of which looks up the successors of its vertex first. -/
def runLookup (discipline : Discipline) (lookup : V → Except E (List V)) : Nat → Traversal V → Except E (Traversal V)
  | 0, state => .ok state
  | fuel + 1, state =>
    match state.waiting with
    | [] => .ok state
    | vertex :: _ => do
      let successors ← lookup vertex
      runLookup discipline lookup fuel (state.visit discipline fun _ => successors)

variable {discipline : Discipline} {lookup : V → Except E (List V)} {starts : List V}

/-- A visit with the successors that were found is a visit of the relation. -/
theorem visit_found {vertex : V} {rest successors : List V} {state : Traversal V} (next : state.waiting = vertex :: rest)
    (found : lookup vertex = .ok successors) :
    (state.visit discipline fun _ => successors) = state.visit discipline (successorsOf lookup) := by
  have same : successorsOf lookup vertex = successors := by rw [successorsOf, found]
  rw [visit, visit, next]
  dsimp only
  rw [same]

/-- A run returns when the successors of every reachable vertex are known. -/
theorem runLookup_total {fuel : Nat} {state : Traversal V} (sound : Sound (successorsOf lookup) starts state)
    (known : ∀ vertex, Reachable (successorsOf lookup) starts vertex → ∃ successors, lookup vertex = .ok successors) :
    state.runLookup discipline lookup fuel = .ok (state.run discipline (successorsOf lookup) fuel) := by
  induction fuel generalizing state with
  | zero => rfl
  | succ fuel ih =>
    rw [runLookup, run]
    cases waiting : state.waiting with
    | nil => rfl
    | cons vertex rest =>
      have seen : vertex ∈ state.seen := (sound.split vertex).mpr (.inr (by simp [waiting]))
      obtain ⟨successors, found⟩ := known vertex (sound.reachable vertex seen)
      show (lookup vertex >>= _) = _
      rw [found, ok_bind_eq, visit_found waiting found]
      exact ih (sound_visit sound)

end Traversal

/-- The closure of a set of vertices under the successors that are looked up. -/
def lookupClosure (discipline : Discipline) (lookup : V → Except E (List V)) (world starts : List V) :
    Except E (Traversal V) :=
  (Traversal.start starts).runLookup discipline lookup (starts.length + world.length)

section Closure

variable {discipline : Discipline} {lookup : V → Except E (List V)} {world starts : List V}

/-- The closure has seen exactly the reachable vertices. -/
theorem lookupClosure_total (inside : ∀ vertex, ∀ successor ∈ successorsOf lookup vertex, successor ∈ world)
    (known : ∀ vertex, vertex ∈ starts ∨ vertex ∈ world → ∃ successors, lookup vertex = .ok successors) :
    ∃ final, lookupClosure discipline lookup world starts = .ok final ∧
      ∀ vertex, vertex ∈ final.seen ↔ Reachable (successorsOf lookup) starts vertex := by
  refine ⟨closure discipline (successorsOf lookup) world starts, ?_, fun vertex => mem_closure_seen inside⟩
  refine Traversal.runLookup_total Traversal.sound_start ?_
  rintro vertex ⟨start, member, path⟩
  cases path with
  | refl => exact known vertex (.inl member)
  | tail _ edge => exact known vertex (.inr (inside _ _ edge))

end Closure

omit [DecidableEq V] in
/-- The reachable vertices are the least set that has the starts and is closed under successors. -/
theorem isLeast_reachable {next : V → List V} {starts : List V} :
    IsLeast {set : Set V | (∀ start ∈ starts, start ∈ set) ∧ ∀ source ∈ set, ∀ target ∈ next source, target ∈ set}
      {vertex | Reachable next starts vertex} := by
  constructor
  · constructor
    · exact fun start member => ⟨start, member, Relation.ReflTransGen.refl⟩
    · rintro source ⟨start, member, path⟩ target edge
      exact ⟨start, member, path.tail edge⟩
  · rintro set ⟨started, closed⟩ vertex ⟨start, member, path⟩
    induction path with
    | refl => exact started start member
    | tail _ edge ih => exact closed _ ih _ edge

omit [DecidableEq V] in
theorem reachable_congr {next : V → List V} {starts others : List V} (same : ∀ vertex, vertex ∈ starts ↔ vertex ∈ others)
    {vertex : V} : Reachable next starts vertex ↔ Reachable next others vertex := by
  simp [Reachable, same]

end CiCoordinator.Library

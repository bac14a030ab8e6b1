import CiCoordinator.Library.Fallible
import Mathlib.Data.List.Basic
import Mathlib.Data.List.Nodup
import Mathlib.Data.List.Perm.Subperm
import Mathlib.Data.Set.Function
import Mathlib.Order.Interval.Set.Defs
import Mathlib.Logic.Relation
import Mathlib.Tactic.Common

/- The recursive search that refuses a relation with a cycle. -/

namespace CiCoordinator.Library

open List

/-- What a search asks of its relation, which needs it follows, and the errors of a cycle and of a full call stack. -/
structure DepthFirst (V E : Type) where
  needs : V → Except E (List V)
  follows : V → Bool
  cycle : E
  overflow : E

namespace DepthFirst

/-- The vertices on the current path and the vertices that the search is done with. -/
structure Marks (V : Type) where
  visiting : List V
  visited : List V

variable {V E : Type} [DecidableEq V] (search : DepthFirst V E)

/-- A vertex that the search does not follow leaves the marks as they are. -/
def follow (visit : V → Marks V → Except E (Marks V)) (marks : Marks V) (need : V) : Except E (Marks V) :=
  if search.follows need then visit need marks else .ok marks

/-- A visit on a call stack with room for a number of nested visits. -/
def visit : Nat → V → Marks V → Except E (Marks V)
  | 0, _, _ => .error search.overflow
  | room + 1, vertex, marks =>
    if vertex ∈ marks.visiting then .error search.cycle
    else if vertex ∈ marks.visited then .ok marks
    else do
      let needed ← search.needs vertex
      let after ← foldSteps (search.follow (visit room)) ⟨vertex :: marks.visiting, marks.visited⟩ needed
      return ⟨after.visiting.erase vertex, vertex :: after.visited⟩

/-- The visits of all vertices in order. -/
def run (room : Nat) (vertices : List V) : Except E (Marks V) :=
  foldSteps (fun marks vertex => search.visit room vertex marks) ⟨[], []⟩ vertices

/-- A vertex leads to what it needs and the search follows. -/
def Edge (source target : V) : Prop :=
  ∃ needed, search.needs source = .ok needed ∧ target ∈ needed ∧ search.follows target = true

/-- A vertex is settled when its needs are known and all that are followed are settled. -/
inductive Settled : V → Prop
  | intro {vertex : V} {needed : List V} (known : search.needs vertex = .ok needed)
      (each : ∀ need ∈ needed, search.follows need = true → Settled need) : Settled vertex

variable {search}

omit [DecidableEq V] in
theorem Settled.known {vertex : V} (settled : search.Settled vertex) : ∃ needed, search.needs vertex = .ok needed := by
  cases settled with
  | intro known each => exact ⟨_, known⟩

omit [DecidableEq V] in
theorem Settled.next {source target : V} (settled : search.Settled source) (edge : search.Edge source target) :
    search.Settled target := by
  obtain ⟨needed, known, member, followed⟩ := edge
  cases settled with
  | intro asked each =>
    rw [known, Except.ok.injEq] at asked
    exact each target (asked ▸ member) followed

omit [DecidableEq V] in
/-- No cycle goes through a settled vertex. -/
theorem Settled.acyclic {vertex : V} (settled : search.Settled vertex) : ¬ Relation.TransGen search.Edge vertex vertex := by
  induction settled with
  | @intro vertex needed known each ih =>
    intro cycle
    obtain ⟨next, ⟨asked, same, member, followed⟩, back⟩ := Relation.TransGen.head'_iff.mp cycle
    rw [known, Except.ok.injEq] at same
    subst same
    exact ih next member followed (Relation.TransGen.tail' back ⟨needed, known, member, followed⟩)

omit [DecidableEq V] in
theorem follow_eq_ok {visit : V → Marks V → Except E (Marks V)} {need : V} {marks after : Marks V}
    (stepped : search.follow visit marks need = .ok after) :
    (search.follows need = true ∧ visit need marks = .ok after) ∨ (search.follows need = false ∧ marks = after) := by
  unfold follow at stepped
  cases followed : search.follows need with
  | true =>
    rw [followed, if_pos rfl] at stepped
    exact .inl ⟨rfl, stepped⟩
  | false =>
    rw [followed, if_neg Bool.false_ne_true, Except.ok.injEq] at stepped
    exact .inr ⟨rfl, stepped⟩

/-- What a visit keeps: the path is the same, no vertex is forgotten and every visited vertex is settled. -/
structure Kept (search : DepthFirst V E) (marks after : Marks V) : Prop where
  path : after.visiting = marks.visiting
  grows : ∀ vertex ∈ marks.visited, vertex ∈ after.visited
  settled : (∀ vertex ∈ marks.visited, search.Settled vertex) → ∀ vertex ∈ after.visited, search.Settled vertex

omit [DecidableEq V] in
theorem Kept.refl {marks : Marks V} : Kept search marks marks :=
  ⟨rfl, fun _ member => member, fun settled => settled⟩

omit [DecidableEq V] in
theorem Kept.trans {first second third : Marks V} (before : Kept search first second) (later : Kept search second third) :
    Kept search first third :=
  ⟨later.path.trans before.path, fun vertex member => later.grows vertex (before.grows vertex member),
    fun settled => later.settled (before.settled settled)⟩

omit [DecidableEq V] in
/-- A loop of visits keeps what one visit keeps, and is done with every vertex that it follows. -/
theorem kept_followed {visit : V → Marks V → Except E (Marks V)}
    (each : ∀ {vertex : V} {marks after : Marks V}, visit vertex marks = .ok after →
      Kept search marks after ∧ vertex ∈ after.visited) {needed : List V} {marks after : Marks V}
    (folded : foldSteps (search.follow visit) marks needed = .ok after) :
    Kept search marks after ∧ ∀ need ∈ needed, search.follows need = true → need ∈ after.visited := by
  induction needed generalizing marks with
  | nil =>
    rw [foldSteps, Except.ok.injEq] at folded
    subst folded
    exact ⟨Kept.refl, by simp⟩
  | cons need rest ih =>
    rw [foldSteps, bind_eq_ok] at folded
    obtain ⟨next, stepped, folded⟩ := folded
    obtain ⟨later, done⟩ := ih folded
    rcases follow_eq_ok stepped with ⟨followed, visited⟩ | ⟨ignored, rfl⟩
    · obtain ⟨now, member⟩ := each visited
      refine ⟨now.trans later, fun other listed follow => ?_⟩
      rcases mem_cons.mp listed with rfl | listed
      · exact later.grows _ member
      · exact done other listed follow
    · refine ⟨later, fun other listed follow => ?_⟩
      rcases mem_cons.mp listed with rfl | listed
      · rw [ignored] at follow
        cases follow
      · exact done other listed follow

/-- A visit that returns keeps the path and is done with its vertex. -/
theorem visit_eq_ok {room : Nat} {vertex : V} {marks after : Marks V}
    (visited : search.visit room vertex marks = .ok after) : Kept search marks after ∧ vertex ∈ after.visited := by
  induction room generalizing vertex marks after with
  | zero => cases visited
  | succ room ih =>
    rw [visit] at visited
    split at visited
    · cases visited
    · split at visited
      · rename_i done
        rw [Except.ok.injEq] at visited
        subst visited
        exact ⟨Kept.refl, done⟩
      · rw [bind_eq_ok] at visited
        obtain ⟨needed, known, visited⟩ := visited
        rw [bind_eq_ok] at visited
        obtain ⟨inner, folded, visited⟩ := visited
        rw [pure_eq_ok_iff] at visited
        subst visited
        obtain ⟨kept, done⟩ := kept_followed ih folded
        refine ⟨⟨?_, ?_, ?_⟩, mem_cons_self⟩
        · show inner.visiting.erase vertex = marks.visiting
          rw [kept.path, erase_cons_head]
        · intro other member
          exact mem_cons_of_mem _ (kept.grows other member)
        · intro settled other member
          have inside := kept.settled settled
          rcases mem_cons.mp member with rfl | member
          · exact .intro known fun need listed followed => inside need (done need listed followed)
          · exact inside other member

/-- The error of a search names a cycle, or it is the error of a vertex that the search came to. -/
def Fault (search : DepthFirst V E) (starts : V → Prop) (error : E) : Prop :=
  (error = search.cycle ∧ ∃ vertex, Relation.TransGen search.Edge vertex vertex) ∨
    ∃ vertex, (starts vertex ∨ ∃ source, search.Edge source vertex) ∧ search.needs vertex = .error error

/-- The path of a search leads to its vertex, never repeats one, and stays among the vertices with known needs. -/
structure Path (search : DepthFirst V E) (world visiting : List V) (vertex : V) : Prop where
  distinct : visiting.Nodup
  inside : visiting ⊆ world
  leads : ∀ earlier ∈ visiting, Relation.TransGen search.Edge earlier vertex

omit [DecidableEq V] in
theorem Path.extend {world visiting : List V} {vertex need : V} (path : search.Path world visiting vertex)
    (outside : vertex ∉ visiting) (member : vertex ∈ world) (edge : search.Edge vertex need) :
    search.Path world (vertex :: visiting) need where
  distinct := nodup_cons.mpr ⟨outside, path.distinct⟩
  inside := cons_subset.mpr ⟨member, path.inside⟩
  leads := by
    intro earlier listed
    rcases mem_cons.mp listed with rfl | listed
    · exact Relation.TransGen.single edge
    · exact (path.leads earlier listed).tail edge

section Errors

variable {starts : V → Prop} {world : List V}

/-- A loop of visits on one path raises what its visits raise. -/
theorem raises_followed {room : Nat} {allowed : E → Prop} {path : List V} {needed : List V} {marks : Marks V}
    (same : marks.visiting = path)
    (each : ∀ need ∈ needed, search.follows need = true → ∀ {marks : Marks V}, marks.visiting = path →
      Raises allowed (search.visit room need marks)) :
    Raises allowed (foldSteps (search.follow (search.visit room)) marks needed) := by
  induction needed generalizing marks with
  | nil => exact .ok
  | cons need rest ih =>
    refine .bind ?_ fun next stepped => ?_
    · unfold follow
      split
      · rename_i followed
        exact each need mem_cons_self followed same
      · exact .ok
    · refine ih ?_ fun other member => each other (mem_cons_of_mem _ member)
      rcases follow_eq_ok stepped with ⟨-, visited⟩ | ⟨-, rfl⟩
      · rw [(visit_eq_ok visited).1.path, same]
      · exact same

/-- On a call stack with room for every vertex a visit raises faults of the relation only. -/
theorem raises_visit (known : ∀ {vertex needed}, search.needs vertex = .ok needed → vertex ∈ world) {room : Nat}
    {vertex : V} {marks : Marks V} (enough : world.length < room + marks.visiting.length)
    (path : search.Path world marks.visiting vertex) (reached : starts vertex ∨ ∃ source, search.Edge source vertex) :
    Raises (search.Fault starts) (search.visit room vertex marks) := by
  induction room generalizing vertex marks with
  | zero =>
    have short := (List.Nodup.subperm path.distinct path.inside).length_le
    omega
  | succ room ih =>
    rw [visit]
    split
    · rename_i repeated
      exact .error (.inl ⟨rfl, vertex, path.leads vertex repeated⟩)
    · rename_i outside
      split
      · exact .ok
      · refine .bind (fun error failed => .inr ⟨vertex, reached, failed⟩) fun needed asked => ?_
        refine .bind ?_ fun inner folded => .ok
        refine raises_followed rfl fun need member followed next same => ?_
        have edge : search.Edge vertex need := ⟨needed, asked, member, followed⟩
        refine ih ?_ ?_ (.inr ⟨vertex, edge⟩)
        · rw [same, length_cons]
          omega
        · rw [same]
          exact path.extend outside (known asked) edge

end Errors

section Run

variable {room : Nat} {vertices : List V}

/-- The loop over all vertices is a loop that follows them. -/
theorem run_eq_ok {after : Marks V} (ran : search.run room vertices = .ok after) :
    ∀ vertex ∈ vertices, search.Settled vertex := by
  have each : ∀ {rest : List V} {marks : Marks V}, (∀ vertex ∈ marks.visited, search.Settled vertex) →
      foldSteps (fun marks vertex => search.visit room vertex marks) marks rest = .ok after →
      ∀ vertex ∈ rest, search.Settled vertex := by
    intro rest
    induction rest with
    | nil => simp
    | cons vertex rest ih =>
      intro marks settled folded
      rw [foldSteps, bind_eq_ok] at folded
      obtain ⟨next, visited, folded⟩ := folded
      obtain ⟨kept, done⟩ := visit_eq_ok visited
      intro other member
      rcases mem_cons.mp member with rfl | member
      · exact kept.settled settled _ done
      · exact ih (kept.settled settled) folded other member
  exact each (by simp) ran

/-- A search on a call stack with room for every vertex raises faults of the relation only. -/
theorem raises_run (known : ∀ {vertex needed}, search.needs vertex = .ok needed → vertex ∈ vertices)
    (enough : vertices.length < room) : Raises (search.Fault (· ∈ vertices)) (search.run room vertices) := by
  have each : ∀ {rest : List V} {marks : Marks V}, rest ⊆ vertices → marks.visiting = [] →
      Raises (search.Fault (· ∈ vertices)) (foldSteps (fun marks vertex => search.visit room vertex marks) marks rest) := by
    intro rest
    induction rest with
    | nil => exact fun _ _ => .ok
    | cons vertex rest ih =>
      intro marks inside start
      rw [cons_subset] at inside
      refine .bind ?_ fun next visited => ?_
      · refine raises_visit known (by rw [start]; simpa using enough) ?_ (.inl inside.1)
        rw [start]
        exact ⟨nodup_nil, by simp, by simp⟩
      · exact ih inside.2 ((visit_eq_ok visited).1.path.trans start)
  exact each (List.Subset.refl _) rfl

/-- A relation has no cycle, and the needs of every vertex that is listed or needed are known. -/
def Sound (search : DepthFirst V E) (vertices : List V) : Prop :=
  (∀ vertex, ¬ Relation.TransGen search.Edge vertex vertex) ∧
    ∀ vertex, (vertex ∈ vertices ∨ ∃ source, search.Edge source vertex) → ∃ needed, search.needs vertex = .ok needed

section

variable (known : ∀ {vertex needed}, search.needs vertex = .ok needed → vertex ∈ vertices)
include known

/-- A search that returns has seen a sound relation. -/
theorem sound_of_run {after : Marks V} (ran : search.run room vertices = .ok after) : search.Sound vertices := by
  have settled := run_eq_ok ran
  have source : ∀ {start target}, search.Edge start target → search.Settled start := by
    rintro start target ⟨needed, asked, -⟩
    exact settled start (known asked)
  refine ⟨fun vertex cycle => ?_, ?_⟩
  · obtain ⟨next, edge, -⟩ := Relation.TransGen.head'_iff.mp cycle
    exact (source edge).acyclic cycle
  · rintro vertex (listed | ⟨start, edge⟩)
    · exact (settled vertex listed).known
    · exact ((source edge).next edge).known

/-- On a call stack with room for every vertex a search returns exactly when the relation is sound. -/
theorem run_returns_iff
    (enough : vertices.length < room) : (∃ after, search.run room vertices = .ok after) ↔ search.Sound vertices := by
  constructor
  · rintro ⟨after, ran⟩
    exact sound_of_run known ran
  · rintro ⟨acyclic, complete⟩
    refine Raises.total fun error failed => ?_
    rcases raises_run known enough error failed with ⟨-, vertex, cycle⟩ | ⟨vertex, reached, unknown⟩
    · exact acyclic vertex cycle
    · obtain ⟨needed, asked⟩ := complete vertex reached
      rw [unknown] at asked
      cases asked

end

end Run

/-- A chain that is longer than the call stack has room for overflows it. -/
theorem visit_chain {chain : Nat → V} {last : Nat} (distinct : Set.InjOn chain (Set.Iic last))
    (link : ∀ index < last, search.needs (chain index) = .ok [chain (index + 1)] ∧ search.follows (chain (index + 1)) = true)
    {room index : Nat} {marks : Marks V} (long : index + room ≤ last)
    (fresh : ∀ later ≤ last, index ≤ later → chain later ∉ marks.visiting ∧ chain later ∉ marks.visited) :
    search.visit room (chain index) marks = .error search.overflow := by
  induction room generalizing index marks with
  | zero => rfl
  | succ room ih =>
    obtain ⟨needs, followed⟩ := link index (by omega)
    have inner : search.visit room (chain (index + 1)) ⟨chain index :: marks.visiting, marks.visited⟩ =
        .error search.overflow := by
      refine ih (by omega) fun later before after => ⟨?_, (fresh later before (by omega)).2⟩
      rw [mem_cons, not_or]
      refine ⟨fun equal => ?_, (fresh later before (by omega)).1⟩
      have same := distinct (Set.mem_Iic.mpr before) (Set.mem_Iic.mpr (by omega)) equal
      omega
    obtain ⟨outside, undone⟩ := fresh index (by omega) le_rfl
    rw [visit, if_neg outside, if_neg undone, needs, ok_bind_eq, foldSteps, follow, if_pos followed, inner]
    rfl

end DepthFirst

end CiCoordinator.Library

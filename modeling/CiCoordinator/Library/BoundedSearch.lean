import Mathlib.Data.List.Basic
import Mathlib.Data.List.Nodup
import Mathlib.Data.List.Perm.Subperm
import Mathlib.Logic.Relation
import Mathlib.Tactic.Common

/- The recursive search that bounds the length of its paths while it skips what it has seen. -/

namespace CiCoordinator.Library

open List

/-- What a search asks of its vertices: which it admits, what they call, which may be called and how many it may see. -/
structure BoundedSearch (V : Type) where
  admits : V → Bool
  calls : V → List V
  callable : V → Bool
  limit : Nat

namespace BoundedSearch

variable {V : Type} (search : BoundedSearch V)

/-- The calls of a vertex are visited in order; each visit returns what has been seen. -/
def followCalls (visit : V → List V → Option (List V)) : List V → List V → Option (List V)
  | [], seen => some seen
  | call :: rest, seen =>
    if search.callable call then
      match visit call seen with
      | some next => followCalls visit rest next
      | none => none
    else none

/-- A visit with room for a number of vertices on the path fails on a path that is too long. -/
def visit [DecidableEq V] : Nat → V → List V → List V → Option (List V)
  | 0, _, _, _ => none
  | room + 1, vertex, seen, visiting =>
    if search.limit < seen.length then none
    else if vertex ∈ visiting then none
    else if vertex ∈ seen then some seen
    else if search.admits vertex = false then none
    else if search.limit < (vertex :: seen).length then none
    else
      search.followCalls (fun call seen => visit room call seen (vertex :: visiting)) (search.calls vertex)
        (vertex :: seen)

def Edge (source target : V) : Prop :=
  target ∈ search.calls source

/-- A vertex leads to another one along calls. -/
def Leads : V → V → Prop :=
  Relation.ReflTransGen search.Edge

/-- A vertex is settled when it is admitted and all it calls may be called and are settled. -/
inductive Settled : V → Prop
  | intro {vertex : V} (admitted : search.admits vertex = true)
      (callable : ∀ call ∈ search.calls vertex, search.callable call = true)
      (each : ∀ call ∈ search.calls vertex, Settled call) : Settled vertex

/-- Every vertex that a start leads to is admitted, calls what may be called and is on no cycle. -/
def Sound (start : V) : Prop :=
  ∀ vertex, search.Leads start vertex → search.admits vertex = true ∧
    (∀ call ∈ search.calls vertex, search.callable call = true) ∧ ¬ Relation.TransGen search.Edge vertex vertex

/-- A search may see all vertices of a region. -/
def Small (region : V → Prop) : Prop :=
  ∀ vertices : List V, vertices.Nodup → (∀ vertex ∈ vertices, region vertex) → vertices.length ≤ search.limit

/-- A chain of a number of vertices goes along calls from one vertex to another. -/
inductive Chain : Nat → V → V → Prop
  | here (vertex : V) : Chain 1 vertex vertex
  | step {vertex call last : V} {size : Nat} (called : call ∈ search.calls vertex) (rest : Chain size call last) :
      Chain (size + 1) vertex last

/-- A first chain takes at each vertex the first call that leads to its last vertex. -/
inductive FirstChain : Nat → V → V → Prop
  | here (vertex : V) : FirstChain 1 vertex vertex
  | step {vertex call last : V} {before later : List V} {size : Nat}
      (called : search.calls vertex = before ++ call :: later) (first : ∀ other ∈ before, ¬ search.Leads other last)
      (rest : FirstChain size call last) : FirstChain (size + 1) vertex last

/-- A first chain that fills the room ends in a vertex that calls something. -/
def Overflows (room : Nat) (start : V) : Prop :=
  ∃ last, search.FirstChain room start last ∧ search.calls last ≠ []

variable {search}

theorem Leads.refl {vertex : V} : search.Leads vertex vertex :=
  Relation.ReflTransGen.refl

theorem Leads.head {vertex call other : V} (member : call ∈ search.calls vertex) (leads : search.Leads call other) :
    search.Leads vertex other :=
  Relation.ReflTransGen.head member leads

theorem Settled.next {source target : V} (settled : search.Settled source) (edge : search.Edge source target) :
    search.Settled target := by
  cases settled with
  | intro admitted callable each => exact each target edge

theorem Settled.leads {source target : V} (settled : search.Settled source) (leads : search.Leads source target) :
    search.Settled target := by
  induction leads with
  | refl => exact settled
  | tail _ edge ih => exact ih.next edge

/-- No cycle goes through a settled vertex. -/
theorem Settled.acyclic {vertex : V} (settled : search.Settled vertex) : ¬ Relation.TransGen search.Edge vertex vertex := by
  induction settled with
  | @intro vertex admitted callable each ih =>
    intro cycle
    obtain ⟨next, edge, back⟩ := Relation.TransGen.head'_iff.mp cycle
    exact ih next edge (Relation.TransGen.tail' back edge)

theorem Settled.sound {start : V} (settled : search.Settled start) : search.Sound start := by
  intro vertex leads
  have reached := settled.leads leads
  cases reached with
  | intro admitted callable each => exact ⟨admitted, callable, (Settled.intro admitted callable each).acyclic⟩

/-- What has been seen off the current path is settled and calls only what has been seen. -/
structure Marked (search : BoundedSearch V) (seen visiting : List V) : Prop where
  distinct : seen.Nodup
  settled : ∀ vertex ∈ seen, vertex ∈ visiting ∨ search.Settled vertex
  closed : ∀ vertex ∈ seen, vertex ∈ visiting ∨ ∀ call ∈ search.calls vertex, call ∈ seen

/-- What a visit of vertices adds to what has been seen. -/
structure Extends (search : BoundedSearch V) (starts seen visiting after : List V) : Prop where
  marked : search.Marked after visiting
  grows : ∀ vertex ∈ seen, vertex ∈ after
  called : ∀ start ∈ starts, start ∈ after ∧ start ∉ visiting ∧ search.callable start = true
  reached : ∀ vertex ∈ after, vertex ∈ seen ∨ ∃ start ∈ starts, search.Leads start vertex
  bounded : seen.length ≤ search.limit → after.length ≤ search.limit

/-- The loop over the calls extends what has been seen when each visit does. -/
theorem followCalls_extends {visit : V → List V → Option (List V)} {visiting : List V}
    (each : ∀ {vertex : V} {seen after : List V}, search.Marked seen visiting → visit vertex seen = some after →
      search.Marked after visiting ∧ (∀ other ∈ seen, other ∈ after) ∧ vertex ∈ after ∧ vertex ∉ visiting ∧
        (∀ other ∈ after, other ∈ seen ∨ search.Leads vertex other) ∧ after.length ≤ search.limit)
    {calls seen after : List V} (marked : search.Marked seen visiting)
    (followed : search.followCalls visit calls seen = some after) : search.Extends calls seen visiting after := by
  induction calls generalizing seen with
  | nil =>
    cases followed
    exact ⟨marked, fun _ member => member, by simp, fun _ member => .inl member, fun bounded => bounded⟩
  | cons call rest ih =>
    rw [followCalls] at followed
    split at followed
    · rename_i callable
      cases visited : visit call seen with
      | none =>
        rw [visited] at followed
        cases followed
      | some next =>
        rw [visited] at followed
        obtain ⟨nextMarked, nextGrows, member, apart, nextReached, nextBounded⟩ := each marked visited
        have later := ih nextMarked followed
        refine ⟨later.marked, fun vertex found => later.grows vertex (nextGrows vertex found), ?_, ?_, fun _ =>
          later.bounded nextBounded⟩
        · intro start listed
          rcases mem_cons.mp listed with rfl | listed
          · exact ⟨later.grows _ member, apart, callable⟩
          · exact later.called start listed
        · intro vertex found
          rcases later.reached vertex found with before | ⟨start, listed, leads⟩
          · exact (nextReached vertex before).imp_right fun leads => ⟨call, mem_cons_self, leads⟩
          · exact .inr ⟨start, mem_cons_of_mem _ listed, leads⟩
    · cases followed

theorem Marked.push {vertex : V} {seen visiting : List V} (marked : search.Marked seen visiting) (fresh : vertex ∉ seen) :
    search.Marked (vertex :: seen) (vertex :: visiting) where
  distinct := nodup_cons.mpr ⟨fresh, marked.distinct⟩
  settled := by
    intro other member
    rcases mem_cons.mp member with rfl | member
    · exact .inl mem_cons_self
    · exact (marked.settled other member).imp_left fun listed => mem_cons_of_mem _ listed
  closed := by
    intro other member
    rcases mem_cons.mp member with rfl | member
    · exact .inl mem_cons_self
    · refine (marked.closed other member).imp (fun listed => mem_cons_of_mem _ listed) fun each call listed => ?_
      exact mem_cons_of_mem _ (each call listed)

/-- A vertex is settled when the loop over its calls is done, and then it leaves the path. -/
theorem Extends.pop {vertex : V} {seen visiting after : List V} (admitted : search.admits vertex = true)
    (extended : search.Extends (search.calls vertex) (vertex :: seen) (vertex :: visiting) after) :
    search.Settled vertex ∧ search.Marked after visiting := by
  have settled : search.Settled vertex := by
    refine Settled.intro admitted (fun call listed => (extended.called call listed).2.2) fun call listed => ?_
    obtain ⟨member, apart, _⟩ := extended.called call listed
    exact (extended.marked.settled call member).resolve_left apart
  refine ⟨settled, extended.marked.distinct, fun other member => ?_, fun other member => ?_⟩
  · rcases extended.marked.settled other member with listed | done
    · rcases mem_cons.mp listed with rfl | listed
      · exact .inr settled
      · exact .inl listed
    · exact .inr done
  · rcases extended.marked.closed other member with listed | done
    · rcases mem_cons.mp listed with rfl | listed
      · exact .inr fun call called => (extended.called call called).1
      · exact .inl listed
    · exact .inr done

variable [DecidableEq V]

/-- A visit that succeeds settles its vertex and sees what the vertex leads to and no more. -/
theorem visit_extends {room : Nat} {vertex : V} {seen visiting after : List V} (marked : search.Marked seen visiting)
    (visited : search.visit room vertex seen visiting = some after) :
    search.Marked after visiting ∧ (∀ other ∈ seen, other ∈ after) ∧ vertex ∈ after ∧ vertex ∉ visiting ∧
      (∀ other ∈ after, other ∈ seen ∨ search.Leads vertex other) ∧ after.length ≤ search.limit := by
  induction room generalizing vertex seen visiting after with
  | zero => cases visited
  | succ room ih =>
    rw [visit] at visited
    split at visited
    · cases visited
    rename_i within
    split at visited
    · cases visited
    rename_i apart
    split at visited
    · rename_i known
      cases visited
      exact ⟨marked, fun _ member => member, known, apart, fun _ member => .inl member, Nat.not_lt.mp within⟩
    rename_i fresh
    split at visited
    · cases visited
    rename_i admitted
    rw [Bool.not_eq_false] at admitted
    split at visited
    · cases visited
    rename_i fits
    have extended := followCalls_extends (fun inner returned => ih inner returned) (marked.push fresh) visited
    obtain ⟨settled, done⟩ := extended.pop admitted
    refine ⟨done, fun other member => extended.grows other (mem_cons_of_mem _ member),
      extended.grows vertex mem_cons_self, apart, fun other member => ?_, extended.bounded (Nat.not_lt.mp fits)⟩
    rcases extended.reached other member with before | ⟨call, called, leads⟩
    · rcases mem_cons.mp before with rfl | before
      · exact .inr Leads.refl
      · exact .inl before
    · exact .inr (Leads.head called leads)

/-- A visit inside the region of a root has seen only what the root leads to, and its path leads to its vertex. -/
structure Visits (search : BoundedSearch V) (root vertex : V) (seen visiting : List V) : Prop where
  marked : search.Marked seen visiting
  within : ∀ other ∈ seen, search.Leads root other
  reached : search.Leads root vertex
  path : ∀ other ∈ visiting, Relation.TransGen search.Edge other vertex

section Region

variable {root vertex : V} {seen visiting : List V} (sound : search.Sound root)
  (visits : search.Visits root vertex seen visiting)

include sound visits

omit [DecidableEq V] in
theorem Visits.apart {other : V} (leads : search.Leads vertex other) : other ∉ visiting := by
  intro listed
  have cycle : Relation.TransGen search.Edge other other := (visits.path other listed).trans_left leads
  exact (sound other (visits.reached.trans leads)).2.2 cycle

omit [DecidableEq V] in
/-- What a seen vertex leads to has been seen. -/
theorem Visits.closed (known : vertex ∈ seen) {other : V} (leads : search.Leads vertex other) : other ∈ seen := by
  induction leads with
  | refl => exact known
  | tail before edge ih =>
    have apart := visits.apart sound before
    exact ((visits.marked.closed _ ih).resolve_left apart) _ edge

/-- After the loop over the first calls, the next call is visited with what these calls lead to and the vertex seen. -/
theorem Visits.call {room : Nat} {call : V} {before later next : List V} (fresh : vertex ∉ seen)
    (called : search.calls vertex = before ++ call :: later)
    (followed : search.followCalls (fun call seen => search.visit room call seen (vertex :: visiting)) before (vertex :: seen) =
      some next) :
    search.Visits root call next (vertex :: visiting) ∧
      ∀ other, other ∈ next ↔ other = vertex ∨ other ∈ seen ∨ ∃ earlier ∈ before, search.Leads earlier other := by
  have extended := followCalls_extends (fun inner returned => visit_extends inner returned) (visits.marked.push fresh) followed
  have edge : search.Edge vertex call := by
    rw [Edge, called]
    simp
  have member : ∀ earlier ∈ before, search.Edge vertex earlier := by
    intro earlier listed
    rw [Edge, called]
    simp [listed]
  have exactly : ∀ other, other ∈ next ↔ other = vertex ∨ other ∈ seen ∨ ∃ earlier ∈ before, search.Leads earlier other := by
    intro other
    constructor
    · intro found
      rcases extended.reached other found with known | reached
      · exact (mem_cons.mp known).imp_right .inl
      · exact .inr (.inr reached)
    · rintro (rfl | known | ⟨earlier, listed, leads⟩)
      · exact extended.grows _ mem_cons_self
      · exact extended.grows other (mem_cons_of_mem _ known)
      · have inner : search.Visits root earlier next (vertex :: visiting) := by
          refine ⟨extended.marked, fun found seen => ?_, visits.reached.tail (member earlier listed), fun found listed => ?_⟩
          · rcases extended.reached found seen with known | ⟨start, started, leads⟩
            · rcases mem_cons.mp known with rfl | known
              · exact visits.reached
              · exact visits.within found known
            · exact (visits.reached.tail (member start started)).trans leads
          · rcases mem_cons.mp listed with rfl | listed
            · exact Relation.TransGen.single (member earlier ‹_›)
            · exact (visits.path found listed).tail (member earlier ‹_›)
        exact inner.closed sound (extended.called earlier listed).1 leads
  refine ⟨⟨extended.marked, fun other found => ?_, visits.reached.tail edge, fun other listed => ?_⟩, exactly⟩
  · rcases (exactly other).mp found with rfl | known | ⟨earlier, listed, leads⟩
    · exact visits.reached
    · exact visits.within other known
    · exact (visits.reached.tail (member earlier listed)).trans leads
  · rcases mem_cons.mp listed with rfl | listed
    · exact Relation.TransGen.single edge
    · exact (visits.path other listed).tail edge

end Region

omit [DecidableEq V] in
theorem followCalls_append {visit : V → List V → Option (List V)} (before rest seen : List V) :
    search.followCalls visit (before ++ rest) seen =
      (search.followCalls visit before seen).bind (search.followCalls visit rest) := by
  induction before generalizing seen with
  | nil => rfl
  | cons call before ih =>
    rw [cons_append, followCalls, followCalls]
    cases search.callable call with
    | false => rfl
    | true =>
      cases visit call seen with
      | none => rfl
      | some next => exact ih next

omit [DecidableEq V] in
/-- A loop over calls that may be called fails at the first visit that fails. -/
theorem followCalls_none {visit : V → List V → Option (List V)} {calls seen : List V}
    (callable : ∀ call ∈ calls, search.callable call = true) (failed : search.followCalls visit calls seen = none) :
    ∃ before call later next, calls = before ++ call :: later ∧ search.followCalls visit before seen = some next ∧
      visit call next = none := by
  induction calls generalizing seen with
  | nil => cases failed
  | cons call rest ih =>
    rw [followCalls, if_pos (callable call mem_cons_self)] at failed
    cases visited : visit call seen with
    | none => exact ⟨[], call, rest, seen, rfl, rfl, visited⟩
    | some after =>
      rw [visited] at failed
      obtain ⟨before, other, later, next, rfl, followed, inner⟩ :=
        ih (fun other listed => callable other (mem_cons_of_mem _ listed)) failed
      refine ⟨call :: before, other, later, next, rfl, ?_, inner⟩
      rw [followCalls, if_pos (callable call mem_cons_self), visited]
      exact followed

/-- An unseen vertex of a sound and small region is visited by the loop over its calls. -/
theorem visit_fresh {root vertex : V} {seen visiting : List V} (sound : search.Sound root)
    (small : search.Small (search.Leads root)) (visits : search.Visits root vertex seen visiting) (fresh : vertex ∉ seen)
    (room : Nat) :
    search.visit (room + 1) vertex seen visiting =
      search.followCalls (fun call seen => search.visit room call seen (vertex :: visiting)) (search.calls vertex)
        (vertex :: seen) := by
  have bounded : (vertex :: seen).length ≤ search.limit := by
    refine small _ (nodup_cons.mpr ⟨fresh, visits.marked.distinct⟩) fun other member => ?_
    rcases mem_cons.mp member with rfl | member
    · exact visits.reached
    · exact visits.within other member
  have admitted := (sound vertex visits.reached).1
  have apart := visits.apart sound Leads.refl
  have fewer : ¬ search.limit < seen.length := Nat.not_lt.mpr (Nat.le_of_succ_le bounded)
  rw [visit, if_neg fewer, if_neg apart, if_neg fresh, if_neg (by simp [admitted]), if_neg (Nat.not_lt.mpr bounded)]

omit [DecidableEq V] in
theorem FirstChain.leads {size : Nat} {vertex last : V} (chain : search.FirstChain size vertex last) :
    search.Leads vertex last := by
  induction chain with
  | here => exact Leads.refl
  | step called _ _ ih => exact Leads.head (by simp [called]) ih

/-- A seen vertex of a sound and small region is visited at once. -/
theorem visit_known {root vertex : V} {seen visiting : List V} (sound : search.Sound root)
    (small : search.Small (search.Leads root)) (visits : search.Visits root vertex seen visiting) (known : vertex ∈ seen)
    (room : Nat) : search.visit (room + 1) vertex seen visiting = some seen := by
  have bounded : seen.length ≤ search.limit := small seen visits.marked.distinct visits.within
  have apart := visits.apart sound Leads.refl
  rw [visit, if_neg (Nat.not_lt.mpr bounded), if_neg apart, if_pos known]

/-- Within a sound and small region a visit fails on a first chain to an unseen vertex that fills the room, only. -/
theorem visit_none_iff {root vertex : V} {seen visiting : List V} (sound : search.Sound root)
    (small : search.Small (search.Leads root)) (visits : search.Visits root vertex seen visiting) (room : Nat) :
    search.visit (room + 1) vertex seen visiting = none ↔
      ∃ last, search.FirstChain (room + 1) vertex last ∧ search.calls last ≠ [] ∧ last ∉ seen := by
  have callable := (sound vertex visits.reached).2.1
  induction room generalizing vertex seen visiting with
  | zero =>
    by_cases known : vertex ∈ seen
    · rw [visit_known sound small visits known]
      constructor
      · intro failed
        cases failed
      · rintro ⟨last, chain, _, unseen⟩
        exact absurd (visits.closed sound known chain.leads) unseen
    · rw [visit_fresh sound small visits known]
      constructor
      · intro failed
        refine ⟨vertex, FirstChain.here vertex, fun none => ?_, known⟩
        rw [none] at failed
        cases failed
      · rintro ⟨last, chain, some, _⟩
        cases chain with
        | here =>
          cases calls : search.calls vertex with
          | nil => exact absurd calls some
          | cons call rest =>
            rw [followCalls, if_pos (callable call (by simp [calls]))]
            rfl
        | step _ _ rest => cases rest
  | succ room ih =>
    by_cases known : vertex ∈ seen
    · rw [visit_known sound small visits known]
      constructor
      · intro failed
        cases failed
      · rintro ⟨last, chain, _, unseen⟩
        exact absurd (visits.closed sound known chain.leads) unseen
    · rw [visit_fresh sound small visits known]
      constructor
      · intro failed
        obtain ⟨before, call, later, next, called, followed, inner⟩ := followCalls_none callable failed
        obtain ⟨callVisits, seenNext⟩ := visits.call sound known called followed
        have callCallable := (sound call callVisits.reached).2.1
        obtain ⟨last, chain, some, unseen⟩ := (ih callVisits callCallable).mp inner
        refine ⟨last, FirstChain.step called (fun other listed leads => unseen ?_) chain, some, fun member => unseen ?_⟩
        · exact (seenNext last).mpr (.inr (.inr ⟨other, listed, leads⟩))
        · exact (seenNext last).mpr (.inr (.inl member))
      · rintro ⟨last, chain, some, unseen⟩
        cases chain with
        | @step _ call _ before later _ called first rest =>
          rw [called, followCalls_append]
          cases followed : search.followCalls
              (fun call seen => search.visit (room + 1) call seen (vertex :: visiting)) before (vertex :: seen) with
          | none => rfl
          | some next =>
            obtain ⟨callVisits, seenNext⟩ := visits.call sound known called followed
            have edge : search.Edge vertex call := by
              rw [Edge, called]
              simp
            have failed : search.visit (room + 1) call next (vertex :: visiting) = none := by
              refine (ih callVisits (sound call callVisits.reached).2.1).mpr ⟨last, rest, some, fun member => ?_⟩
              rcases (seenNext last).mp member with rfl | member | ⟨other, listed, leads⟩
              · exact (sound last visits.reached).2.2 (Relation.TransGen.head' edge rest.leads)
              · exact unseen member
              · exact first other listed leads
            rw [Option.bind_some, followCalls, if_pos (callable call edge), failed]

/-- The search from a root accepts only a sound and small region without a first chain that fills the room. -/
theorem visit_root {room : Nat} {root : V} {seen : List V} : search.visit (room + 1) root [] [] = some seen →
      search.Sound root ∧ search.Small (search.Leads root) ∧ ¬ search.Overflows (room + 1) root ∧
        ∀ vertex, vertex ∈ seen ↔ search.Leads root vertex := by
  intro visited
  have marked : search.Marked [] [] := ⟨nodup_nil, by simp, by simp⟩
  obtain ⟨done, _, member, _, reached, bounded⟩ := visit_extends marked visited
  have settled : search.Settled root := (done.settled root member).resolve_left (by simp)
  have exactly : ∀ vertex, vertex ∈ seen ↔ search.Leads root vertex := by
    intro vertex
    constructor
    · intro found
      exact (reached vertex found).resolve_left (by simp)
    · intro leads
      induction leads with
      | refl => exact member
      | tail _ edge ih => exact (done.closed _ ih).resolve_left (by simp) _ edge
  have small : search.Small (search.Leads root) := by
    intro vertices distinct region
    have subset : vertices ⊆ seen := fun vertex listed => (exactly vertex).mpr (region vertex listed)
    exact Nat.le_trans (distinct.subperm subset).length_le bounded
  refine ⟨settled.sound, small, ?_, exactly⟩
  rintro ⟨last, chain, some⟩
  have visits : search.Visits root root [] [] := ⟨marked, by simp, Leads.refl, by simp⟩
  have failed := (visit_none_iff settled.sound small visits room).mpr ⟨last, chain, some, by simp⟩
  rw [failed] at visited
  cases visited

theorem visit_root_total {room : Nat} {root : V} (sound : search.Sound root) (small : search.Small (search.Leads root))
    (fits : ¬ search.Overflows (room + 1) root) : ∃ seen, search.visit (room + 1) root [] [] = some seen := by
  have visits : search.Visits root root [] [] := ⟨⟨nodup_nil, by simp, by simp⟩, by simp, Leads.refl, by simp⟩
  cases visited : search.visit (room + 1) root [] [] with
  | some seen => exact ⟨seen, rfl⟩
  | none =>
    obtain ⟨last, chain, some, _⟩ := (visit_none_iff sound small visits room).mp visited
    exact absurd ⟨last, chain, some⟩ fits

omit [DecidableEq V] in
theorem FirstChain.chain {size : Nat} {vertex last : V} (first : search.FirstChain size vertex last) :
    search.Chain size vertex last := by
  induction first with
  | here => exact Chain.here _
  | step called _ _ ih => exact Chain.step (by simp [called]) ih

omit [DecidableEq V] in
theorem Chain.append {size : Nat} {vertex last next : V} (chain : search.Chain size vertex last)
    (called : next ∈ search.calls last) : search.Chain (size + 1) vertex next := by
  induction chain with
  | here => exact Chain.step called (Chain.here next)
  | step first _ ih => exact Chain.step first (ih called)

end BoundedSearch

end CiCoordinator.Library

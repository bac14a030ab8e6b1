import Mathlib.Data.List.Chain
import Mathlib.Data.List.Range
import Mathlib.Tactic.Common

/- Sequences whose first item is a root and in which each other item follows the one before it. -/

namespace CiCoordinator.Library

open List

variable {A : Type} {root : A → Prop} {follows : A → A → Prop} {items : List A}

/-- A sequence begins with a root, and each other item follows the one before it. -/
structure Linked (root : A → Prop) (follows : A → A → Prop) (items : List A) : Prop where
  first : ∀ item ∈ items.head?, root item
  chain : items.IsChain follows

namespace Linked

theorem nil : Linked root follows [] :=
  ⟨fun item head => (by cases head), List.IsChain.nil⟩

section

variable (linked : Linked root follows items)
include linked

/-- A sequence grows by a root when it is empty, and by an item that follows its last one otherwise. -/
theorem append {next : A} (start : items = [] → root next)
    (later : ∀ last ∈ items.getLast?, follows last next) : Linked root follows (items ++ [next]) := by
  constructor
  · intro item head
    cases items with
    | nil =>
      cases head
      exact start rfl
    | cons first rest => exact linked.first item head
  · refine List.IsChain.append linked.chain (List.IsChain.singleton next) fun last lastMember other member => ?_
    cases member
    exact later last lastMember

/-- What roots have and followers have is had by every item. -/
theorem forall_mem {P : A → Prop} (start : ∀ item, root item → P item)
    (later : ∀ previous next, follows previous next → P next) : ∀ item ∈ items, P item := by
  intro item member
  obtain ⟨before, after, parts⟩ := append_of_mem member
  rcases eq_nil_or_concat' before with rfl | ⟨front, previous, rfl⟩
  · refine start item (linked.first item ?_)
    rw [parts]
    exact rfl
  · have chain := linked.chain
    rw [parts, append_assoc] at chain
    exact later previous item (chain.right_of_append.rel_head? rfl)

/-- Numbers that begin with one and grow by one are the positions. -/
theorem numbers {number : A → Int} (start : ∀ item, root item → number item = 1)
    (later : ∀ previous next, follows previous next → number next = number previous + 1) :
    items.map number = (List.range items.length).map fun position : Nat => (position : Int) + 1 := by
  induction items using List.reverseRecOn with
  | nil => rfl
  | append_singleton front item ih =>
    have shorter : Linked root follows front := by
      refine ⟨fun other head => linked.first other ?_, linked.chain.left_of_append⟩
      cases front with
      | nil => cases head
      | cons first rest => exact head
    rw [map_append, ih shorter, length_append, length_singleton, range_succ, map_append, map_singleton, map_singleton]
    congr 2
    rcases eq_nil_or_concat' front with rfl | ⟨rest, previous, rfl⟩
    · exact start item (linked.first item rfl)
    · have chain := linked.chain
      rw [append_assoc] at chain
      have counted := congrArg List.getLast? (ih shorter)
      rw [map_append, map_singleton, getLast?_concat, length_append, length_singleton,
        range_succ, map_append, map_singleton, getLast?_concat] at counted
      rw [later previous item (chain.right_of_append.rel_head? rfl), Option.some.inj counted, length_append, length_singleton]
      omega

end

end Linked

/-- What one step keeps, a chain keeps for all its items, when each of them is a step of the kind. -/
theorem isChain_carry {P Q : A → Prop} (kept : ∀ previous next, follows previous next → Q next → P previous → P next)
    {first : A} {rest : List A} (chain : (first :: rest).IsChain follows) (all : ∀ item ∈ rest, Q item) (holds : P first) :
    ∀ item ∈ rest, P item := by
  induction rest generalizing first with
  | nil =>
    intro item member
    cases member
  | cons next rest ih =>
    obtain ⟨step, chain⟩ := isChain_cons_cons.mp chain
    have reached := kept first next step (all next mem_cons_self) holds
    intro item member
    cases member with
    | head => exact reached
    | tail _ later => exact ih chain (fun other inside => all other (mem_cons_of_mem next inside)) reached item later

end CiCoordinator.Library

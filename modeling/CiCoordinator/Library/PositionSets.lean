import Mathlib.Computability.Language
import Mathlib.Tactic.Common

/- Matching by sets of positions: which spans of a text belong to a language. -/

namespace CiCoordinator.Library

open List

variable {A : Type}

/-- The span between two positions of a text belongs to a language. -/
def Spans (language : Language A) (text : List A) (start stop : Nat) : Prop :=
  start ≤ stop ∧ stop ≤ text.length ∧ (text.drop start).take (stop - start) ∈ language

/-- A span starts with a word of the language. -/
theorem spans_iff {language : Language A} {text : List A} {start stop : Nat} : Spans language text start stop ↔
      start ≤ text.length ∧ ∃ word ∈ language, word <+: text.drop start ∧ stop = start + word.length := by
  constructor
  · rintro ⟨forward, inside, member⟩
    refine ⟨forward.trans inside, _, member, take_prefix _ _, ?_⟩
    rw [length_take, length_drop]
    omega
  · rintro ⟨inside, word, member, starts, rfl⟩
    have fits := starts.length_le
    rw [length_drop] at fits
    refine ⟨Nat.le_add_right _ _, by omega, ?_⟩
    rw [Nat.add_sub_cancel_left, ← prefix_iff_eq_take.mp starts]
    exact member

/-- The whole text is the span between its ends. -/
theorem spans_whole {language : Language A} {text : List A} : Spans language text 0 text.length ↔ text ∈ language := by
  simp [Spans]

/-- The empty word spans nothing. -/
theorem spans_one {text : List A} {start stop : Nat} : Spans 1 text start stop ↔ start = stop ∧ stop ≤ text.length := by
  rw [spans_iff]
  constructor
  · rintro ⟨inside, word, member, -, rfl⟩
    obtain rfl := Language.mem_one word |>.mp member
    exact ⟨rfl, inside⟩
  · rintro ⟨rfl, inside⟩
    exact ⟨inside, [], Language.nil_mem_one, nil_prefix, rfl⟩

/-- A span of a product divides at a position. -/
theorem spans_mul {first second : Language A} {text : List A} {start stop : Nat} :
    Spans (first * second) text start stop ↔ ∃ middle, Spans first text start middle ∧ Spans second text middle stop := by
  constructor
  · rw [spans_iff]
    rintro ⟨inside, word, member, starts, rfl⟩
    obtain ⟨left, leftMember, right, rightMember, rfl⟩ := Language.mem_mul.mp member
    obtain ⟨rest, split⟩ := starts
    have fits : start + (left.length + right.length) ≤ text.length := by
      have lengths := congrArg List.length split
      simp only [length_append, length_drop] at lengths
      omega
    refine ⟨start + left.length, spans_iff.mpr ⟨inside, left, leftMember, ?_, rfl⟩,
      spans_iff.mpr ⟨by omega, right, rightMember, ?_, by rw [length_append, Nat.add_assoc]⟩⟩
    · exact ⟨right ++ rest, by rw [← split, append_assoc]⟩
    · refine ⟨rest, ?_⟩
      rw [← drop_drop, ← split, append_assoc, drop_left]
  · rintro ⟨middle, before, after⟩
    obtain ⟨inside, left, leftMember, ⟨leftRest, leftSplit⟩, rfl⟩ := spans_iff.mp before
    obtain ⟨-, right, rightMember, ⟨rightRest, rightSplit⟩, rfl⟩ := spans_iff.mp after
    refine spans_iff.mpr ⟨inside, left ++ right, Language.append_mem_mul leftMember rightMember, ⟨rightRest, ?_⟩,
      by rw [length_append, Nat.add_assoc]⟩
    have remaining : leftRest = text.drop (start + left.length) := by
      rw [← drop_drop, ← leftSplit, drop_left]
    rw [append_assoc, rightSplit, ← remaining, leftSplit]

/-- A set of positions advances by a language to the ends of its spans. -/
def Advances (language : Language A) (text : List A) (reachable next : List Nat) : Prop :=
  ∀ stop, stop ∈ next ↔ ∃ start ∈ reachable, Spans language text start stop

namespace Advances

variable {first second : Language A} {text : List A} {reachable middle next : List Nat}

/-- Positions after an advance lie in the text. -/
theorem inside (advances : Advances first text reachable next) : ∀ stop ∈ next, stop ≤ text.length := by
  intro stop member
  obtain ⟨start, -, span⟩ := (advances stop).mp member
  exact span.2.1

/-- No step stays where it is. -/
theorem refl (bounded : ∀ start ∈ reachable, start ≤ text.length) : Advances 1 text reachable reachable := by
  intro stop
  constructor
  · exact fun member => ⟨stop, member, spans_one.mpr ⟨rfl, bounded stop member⟩⟩
  · rintro ⟨start, member, span⟩
    obtain ⟨rfl, -⟩ := spans_one.mp span
    exact member

/-- Two advances in sequence advance by the product. -/
theorem trans (before : Advances first text reachable middle) (after : Advances second text middle next) :
    Advances (first * second) text reachable next := by
  intro stop
  constructor
  · intro member
    obtain ⟨between, betweenMember, second⟩ := (after stop).mp member
    obtain ⟨start, startMember, first⟩ := (before between).mp betweenMember
    exact ⟨start, startMember, spans_mul.mpr ⟨between, first, second⟩⟩
  · rintro ⟨start, startMember, span⟩
    obtain ⟨between, first, second⟩ := spans_mul.mp span
    exact (after stop).mpr ⟨between, (before between).mpr ⟨start, startMember, first⟩, second⟩

/-- Once no position is left, nothing is reached any more. -/
theorem of_stuck (stuck : Advances first text reachable []) : Advances (first * second) text reachable [] := by
  intro stop
  refine ⟨fun member => absurd member not_mem_nil, ?_⟩
  rintro ⟨start, startMember, span⟩
  obtain ⟨between, first, -⟩ := spans_mul.mp span
  exact absurd ((stuck between).mpr ⟨start, startMember, first⟩) not_mem_nil

end Advances

end CiCoordinator.Library

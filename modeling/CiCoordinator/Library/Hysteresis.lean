import Mathlib.Algebra.Order.Ring.Nat
import Mathlib.Data.List.Basic

/- A monitor that changes its state when readings stay on one side of a band for some time. -/

namespace CiCoordinator.Library

open List

variable {A : Type}

/-- What one reading tells. -/
inductive Reading where
  | unusable
  | between
  | high
  | low
  deriving DecidableEq

/-- The reading that a monitor needs for a change into a state. -/
def Reading.toward : Bool → Reading
  | true => .high
  | false => .low

/-- A monitor with the lengths of the latest runs of high and of low readings, and with its changes so far. -/
structure Monitor (A : Type) where
  active : Bool
  highStreak : Nat
  lowStreak : Nat
  changes : List (A × Bool)

namespace Monitor

def start : Monitor A :=
  ⟨false, 0, 0, []⟩

/-- The lengths of the runs after a reading. -/
def streaks (monitor : Monitor A) : Reading → Nat × Nat
  | .unusable => (0, 0)
  | .between => (0, 0)
  | .high => (monitor.highStreak + 1, 0)
  | .low => (0, monitor.lowStreak + 1)

variable (persistence : Nat)

/-- A reading changes the state of a monitor when the run towards the other state is long enough. -/
def changesAt (monitor : Monitor A) (reading : Reading) : Prop :=
  if monitor.active = true then reading ≠ .unusable ∧ persistence ≤ (monitor.streaks reading).2
  else reading ≠ .unusable ∧ persistence ≤ (monitor.streaks reading).1

instance (persistence : Nat) (monitor : Monitor A) (reading : Reading) : Decidable (monitor.changesAt persistence reading) := by
  unfold changesAt
  infer_instance

def observe (reading : A → Reading) (monitor : Monitor A) (item : A) : Monitor A :=
  let (highStreak, lowStreak) := monitor.streaks (reading item)
  if monitor.changesAt persistence (reading item) then
    ⟨!monitor.active, highStreak, lowStreak, monitor.changes ++ [(item, !monitor.active)]⟩
  else ⟨monitor.active, highStreak, lowStreak, monitor.changes⟩

/-- A monitor after a sequence of items. -/
def watch (reading : A → Reading) (monitor : Monitor A) (items : List A) : Monitor A :=
  items.foldl (observe persistence reading) monitor

end Monitor

section Runs

variable {persistence : Nat} {reading : A → Reading} {monitor : Monitor A} {items more : List A}

theorem Monitor.observe_changes (item : A) : (monitor.observe persistence reading item).changes = monitor.changes ++
        if monitor.changesAt persistence (reading item) then [(item, !monitor.active)] else [] := by
  unfold Monitor.observe
  dsimp only
  split
  · rfl
  · exact (append_nil _).symm

theorem Monitor.observe_active (item : A) : (monitor.observe persistence reading item).active =
      if monitor.changesAt persistence (reading item) then !monitor.active else monitor.active := by
  unfold Monitor.observe
  dsimp only
  split <;> rfl

theorem Monitor.observe_streaks (item : A) :
    ((monitor.observe persistence reading item).highStreak, (monitor.observe persistence reading item).lowStreak) =
      monitor.streaks (reading item) := by
  unfold Monitor.observe
  dsimp only
  split <;> rfl

/-- Later items only add changes. -/
theorem Monitor.changes_begin : monitor.changes <+: (monitor.watch persistence reading items).changes := by
  induction items generalizing monitor with
  | nil => exact prefix_rfl
  | cons item rest ih =>
    have first : monitor.changes <+: (monitor.observe persistence reading item).changes := by
      rw [Monitor.observe_changes]
      exact prefix_append _ _
    exact first.trans ih

/-- A monitor changes at most once at every item. -/
theorem Monitor.length_changes_le :
    (monitor.watch persistence reading items).changes.length ≤ monitor.changes.length + items.length := by
  induction items generalizing monitor with
  | nil => exact Nat.le_refl _
  | cons item rest ih =>
    have first : (monitor.observe persistence reading item).changes.length ≤ monitor.changes.length + 1 := by
      rw [Monitor.observe_changes, length_append]
      split <;> simp
    have others : (monitor.watch persistence reading (item :: rest)).changes.length ≤
        (monitor.observe persistence reading item).changes.length + rest.length := ih
    rw [length_cons]
    omega

/-- A list of sides alternates and starts with the high one. -/
def Alternating (sides : List Bool) : Prop :=
  ∀ index side, sides[index]? = some side → side = decide (index % 2 = 0)

/-- The changes alternate, and the state is the side of the last one. -/
structure Monitor.Toggled (monitor : Monitor A) : Prop where
  alternating : Alternating (monitor.changes.map Prod.snd)
  active : monitor.active = decide (monitor.changes.length % 2 = 1)

theorem Monitor.Toggled.start : (Monitor.start : Monitor A).Toggled :=
  ⟨fun index side found => absurd found (by simp [Monitor.start]), rfl⟩

theorem Monitor.Toggled.observe (toggled : monitor.Toggled) (item : A) : (monitor.observe persistence reading item).Toggled := by
  obtain ⟨alternating, active⟩ := toggled
  by_cases changes : monitor.changesAt persistence (reading item)
  · constructor
    · rw [Monitor.observe_changes, if_pos changes, map_append]
      intro index side found
      rcases Nat.lt_trichotomy index monitor.changes.length with inside | last | outside
      · rw [getElem?_append_left (by rwa [length_map])] at found
        exact alternating index side found
      · rw [getElem?_append_right (by rw [length_map, last])] at found
        simp only [length_map, last, Nat.sub_self, map_cons, map_nil, getElem?_cons_zero, Option.some.injEq] at found
        rw [← found, active, last]
        rcases Nat.mod_two_eq_zero_or_one monitor.changes.length with even | odd
        · simp [even]
        · simp [odd]
      · rw [getElem?_eq_none (by simp; omega)] at found
        cases found
    · rw [Monitor.observe_active, Monitor.observe_changes, if_pos changes, if_pos changes, active, length_append,
        length_singleton]
      rcases Nat.mod_two_eq_zero_or_one monitor.changes.length with even | odd
      · simp [even, Nat.add_mod]
      · simp [odd, Nat.add_mod]
  · constructor
    · rw [Monitor.observe_changes, if_neg changes, append_nil]
      exact alternating
    · rw [Monitor.observe_active, Monitor.observe_changes, if_neg changes, if_neg changes, append_nil]
      exact active

theorem Monitor.Toggled.watch (toggled : monitor.Toggled) : (monitor.watch persistence reading items).Toggled := by
  induction items generalizing monitor with
  | nil => exact toggled
  | cons item rest ih => exact ih (toggled.observe item)

/-- The last items of a sequence have one reading. -/
def Trailing (reading : A → Reading) (side : Reading) (items : List A) (count : Nat) : Prop :=
  ∃ before streak, items = before ++ streak ∧ streak.length = count ∧ ∀ item ∈ streak, reading item = side

theorem Trailing.zero {side : Reading} : Trailing reading side items 0 :=
  ⟨items, [], (append_nil _).symm, rfl, fun _ member => absurd member not_mem_nil⟩

theorem Trailing.succ {side : Reading} {count : Nat} {item : A} (trailing : Trailing reading side items count)
    (same : reading item = side) : Trailing reading side (items ++ [item]) (count + 1) := by
  obtain ⟨before, streak, split, length, each⟩ := trailing
  refine ⟨before, streak ++ [item], by rw [split, append_assoc], by rw [length_append, length]; rfl, ?_⟩
  intro other member
  rcases mem_append.mp member with old | new
  · exact each other old
  · rw [mem_singleton.mp new]
    exact same

/-- A change at an item follows a long enough run of readings on its side that ends with the item. -/
def Sustained (persistence : Nat) (reading : A → Reading) (items : List A) (change : A × Bool) : Prop :=
  ∃ before streak after, items = before ++ streak ++ after ∧ persistence ≤ streak.length ∧
    (∀ item ∈ streak, reading item = Reading.toward change.2) ∧ streak.getLast? = some change.1

theorem Sustained.append {change : A × Bool} (sustained : Sustained persistence reading items change) :
    Sustained persistence reading (items ++ more) change := by
  obtain ⟨before, streak, after, split, long, each, last⟩ := sustained
  exact ⟨before, streak, after ++ more, by rw [split, append_assoc], long, each, last⟩

/-- A long run that ends with an item sustains a change at the item. -/
theorem Trailing.sustained {side : Bool} {count : Nat} {item : A} (long : persistence ≤ count + 1)
    (trailing : Trailing reading (Reading.toward side) (items ++ [item]) (count + 1)) :
    Sustained persistence reading (items ++ [item]) (item, side) := by
  obtain ⟨before, streak, split, length, each⟩ := trailing
  have filled : streak ≠ [] := fun empty => by rw [empty] at length; cases length
  refine ⟨before, streak, [], by rw [split, append_nil], length.symm ▸ long, each, ?_⟩
  have whole : (items ++ [item]).getLast? = (before ++ streak).getLast? := congrArg List.getLast? split
  rw [getLast?_append_of_ne_nil _ (cons_ne_nil _ _), getLast?_append_of_ne_nil _ filled] at whole
  exact whole.symm

/-- What a monitor knows about the items that it has seen. -/
structure Monitor.Tracks (persistence : Nat) (reading : A → Reading) (monitor : Monitor A) (items : List A) : Prop where
  high : Trailing reading .high items monitor.highStreak
  low : Trailing reading .low items monitor.lowStreak
  changes : ∀ change ∈ monitor.changes, Sustained persistence reading items change

theorem Monitor.Tracks.start : (Monitor.start : Monitor A).Tracks persistence reading [] :=
  ⟨.zero, .zero, fun _ member => absurd member not_mem_nil⟩

theorem Monitor.Tracks.streaks (tracks : monitor.Tracks persistence reading items) (item : A) :
    Trailing reading .high (items ++ [item]) (monitor.streaks (reading item)).1 ∧
      Trailing reading .low (items ++ [item]) (monitor.streaks (reading item)).2 := by
  cases side : reading item with
  | unusable => exact ⟨.zero, .zero⟩
  | between => exact ⟨.zero, .zero⟩
  | high => exact ⟨tracks.high.succ side, .zero⟩
  | low => exact ⟨.zero, tracks.low.succ side⟩

section

variable (positive : 1 ≤ persistence)
include positive

/-- A change is sustained as long as the monitor needs more than no readings. -/
theorem Monitor.Tracks.sustained (tracks : monitor.Tracks persistence reading items) {item : A}
    (changes : monitor.changesAt persistence (reading item)) :
    Sustained persistence reading (items ++ [item]) (item, !monitor.active) := by
  obtain ⟨high, low⟩ := tracks.streaks item
  unfold Monitor.changesAt at changes
  split at changes
  · rename_i active
    rw [active]
    obtain ⟨count, counted⟩ := Nat.exists_eq_add_of_le (Nat.le_trans positive changes.2)
    rw [Nat.add_comm] at counted
    rw [counted] at low
    exact Trailing.sustained (counted ▸ changes.2) low
  · rename_i idle
    rw [Bool.not_eq_true] at idle
    rw [idle]
    obtain ⟨count, counted⟩ := Nat.exists_eq_add_of_le (Nat.le_trans positive changes.2)
    rw [Nat.add_comm] at counted
    rw [counted] at high
    exact Trailing.sustained (counted ▸ changes.2) high

theorem Monitor.Tracks.observe (tracks : monitor.Tracks persistence reading items) (item : A) :
    (monitor.observe persistence reading item).Tracks persistence reading (items ++ [item]) := by
  have streaks : _ = monitor.streaks (reading item) := @Monitor.observe_streaks _ persistence reading monitor item
  obtain ⟨high, low⟩ := tracks.streaks item
  rw [← streaks] at high low
  refine ⟨high, low, fun change member => ?_⟩
  rw [Monitor.observe_changes, mem_append] at member
  rcases member with old | new
  · exact (tracks.changes change old).append
  · split at new
    · rename_i changes
      rw [mem_singleton.mp new]
      exact tracks.sustained positive changes
    · cases new

theorem Monitor.Tracks.watch {seen : List A} (tracks : monitor.Tracks persistence reading seen) :
    (monitor.watch persistence reading items).Tracks persistence reading (seen ++ items) := by
  induction items generalizing monitor seen with
  | nil => simpa [Monitor.watch] using tracks
  | cons item rest ih =>
    have next := ih (tracks.observe positive item)
    rwa [append_assoc, singleton_append] at next

end

end Runs

end CiCoordinator.Library

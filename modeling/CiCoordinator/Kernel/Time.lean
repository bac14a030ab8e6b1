import CiCoordinator.Kernel.CanonicalJson
import CiCoordinator.Library.Instant

/- The time arithmetic and the small checks that the stateful components share. -/

namespace CiCoordinator.Kernel

open Library Instant

def daySeconds : Nat :=
  86400

/-- The addition of a time span raises when the result is after the year 9999. -/
def addSeconds (start : Instant) (seconds : Nat) : Py Instant :=
  match start.after (secondMicros * seconds) with
  | some finish => .ok finish
  | none => .error .overflowError

/-- The addition of a time span that is counted in microseconds. -/
def addMicros (start : Instant) (micros : Nat) : Py Instant :=
  match start.after micros with
  | some finish => .ok finish
  | none => .error .overflowError

/-- The subtraction of a time span raises when the result is before the year 1. -/
def subtractSeconds (finish : Instant) (seconds : Nat) : Py Instant :=
  match finish.before (secondMicros * seconds) with
  | some start => .ok start
  | none => .error .overflowError

/-- An instant that is out of the range of the calendar is the error of a value. -/
def requireRepresentable (computed : Py Instant) (message : Text) : Py Unit :=
  match computed with
  | .ok _ => .ok ()
  | .error _ => .error (.valueError message)

def isSafeJsonInteger (value : Int) : Bool :=
  decide (value.natAbs ≤ maxSafeJsonInteger)

variable {start finish : Instant} {seconds : Nat}

@[simp] theorem addSeconds_eq_ok :
    addSeconds start seconds = .ok finish ↔ finish.micros = start.micros + secondMicros * seconds := by
  unfold addSeconds
  split
  · rename_i found equal
    rw [after_eq_some] at equal
    simp [eq_def, equal, eq_comm]
  · rename_i equal
    rw [after_eq_none] at equal
    have := finish.inRange
    simp only [reduceCtorEq, false_iff]
    omega

@[simp] theorem addSeconds_eq_error {error : PyError} : addSeconds start seconds = .error error ↔
      instantLimit ≤ start.micros + secondMicros * seconds ∧ error = .overflowError := by
  unfold addSeconds
  split
  · rename_i found equal
    rw [after_eq_some] at equal
    have := found.inRange
    simp only [reduceCtorEq, false_iff]
    omega
  · rename_i equal
    rw [after_eq_none] at equal
    simp [equal, eq_comm]

theorem addSeconds_inRange :
    (∃ finish, addSeconds start seconds = .ok finish) ↔ start.micros + secondMicros * seconds < instantLimit := by
  simp only [addSeconds_eq_ok]
  constructor
  · rintro ⟨finish, sum⟩
    rw [← sum]
    exact finish.inRange
  · exact fun inside => ⟨⟨_, inside⟩, rfl⟩

theorem requireRepresentable_eq_ok {computed : Py Instant} {message : Text} :
    requireRepresentable computed message = .ok () ↔ ∃ instant, computed = .ok instant := by
  cases computed with
  | ok instant => simp [requireRepresentable]
  | error error => simp [requireRepresentable]

@[simp] theorem addMicros_eq_ok {micros : Nat} : addMicros start micros = .ok finish ↔ finish.micros = start.micros + micros := by
  unfold addMicros
  split
  · rename_i found equal
    rw [after_eq_some] at equal
    simp [eq_def, equal, eq_comm]
  · rename_i equal
    rw [after_eq_none] at equal
    have := finish.inRange
    simp only [reduceCtorEq, false_iff]
    omega

@[simp] theorem subtractSeconds_eq_ok :
    subtractSeconds finish seconds = .ok start ↔ finish.micros = start.micros + secondMicros * seconds := by
  unfold subtractSeconds
  split
  · rename_i found equal
    rw [before_eq_some] at equal
    simp only [Except.ok.injEq, eq_def]
    omega
  · rename_i equal
    rw [before_eq_none] at equal
    simp only [reduceCtorEq, false_iff]
    omega

theorem valueErrorIf_passes {rejected : Prop} [Decidable rejected] {message : Text} (passed : ¬ rejected) :
    valueErrorIf rejected message = .ok () :=
  raiseIf_eq_ok.mpr passed

end CiCoordinator.Kernel

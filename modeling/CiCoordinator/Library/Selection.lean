import CiCoordinator.Library.Fallible
import CiCoordinator.Library.Sorting

/- How a computation over a list meets a change of its items. -/

namespace CiCoordinator.Library

open List

variable {ε A B : Type} {values : List A}

theorem collect_map {C : Type} {compute : B → Except ε C} {change : A → B} :
    collect compute (values.map change) = collect (fun value => compute (change value)) values := by
  induction values with
  | nil => rfl
  | cons value rest ih => rw [map_cons, collect, collect, ih]

end CiCoordinator.Library

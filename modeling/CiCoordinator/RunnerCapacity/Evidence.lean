import CiCoordinator.Library.Url
import CiCoordinator.RunnerCapacity.Model
import Mathlib.Data.Finset.Card

/- The projection of observed runners to the free slots of capacity classes. -/

namespace CiCoordinator.RunnerCapacity

open Library Kernel

def maxRunnerSelectorTextBytes : Nat :=
  256

def maxObservedRunnerLabels : Nat :=
  64

def boundedText (value : Text) : Bool :=
  decide (value ≠ []) && (value.all fun point => decide (32 ≤ point.val ∧ point.val ≠ 127 ∧ point.isSurrogate = false)) &&
    decide (value.utf8.length ≤ maxRunnerSelectorTextBytes)

def boundedAsciiLabel (value : Text) : Bool :=
  (value.all fun point => decide (point.val < 128)) && boundedText value

structure ObservedSelfHostedRunnerFields where
  runnerId : Int
  online : Bool
  busy : Bool
  labels : List Text
  deriving DecidableEq

def ObservedSelfHostedRunnerFields.postInit (self : ObservedSelfHostedRunnerFields) : Py Unit := do
  valueErrorIf (self.runnerId < 1) (ascii "observed runner id must be positive")
  raiseIf (maxObservedRunnerLabels < self.labels.length)
    (.typeError (ascii "observed runner labels must be a bounded exact tuple"))
  valueErrorIf (∃ label ∈ self.labels, boundedAsciiLabel label = false ∨ label ≠ label.lower)
    (ascii "observed runner labels must be normalized bounded ASCII text")
  requireSorted self.labels (ascii "observed runner labels must be canonical")

/-- A runner as one listing shows it. -/
structure ObservedSelfHostedRunner extends ObservedSelfHostedRunnerFields where
  admitted : toObservedSelfHostedRunnerFields.postInit = .ok ()
  deriving DecidableEq

structure VisibleRunnerGroupFields where
  groupId : Int
  name : Text
  restrictedToWorkflows : Bool
  runners : List ObservedSelfHostedRunner
  deriving DecidableEq

def VisibleRunnerGroupFields.postInit (self : VisibleRunnerGroupFields) : Py Unit := do
  valueErrorIf (self.groupId < 1) (ascii "visible runner group id must be positive")
  valueErrorIf (boundedText self.name = false) (ascii "visible runner group name must be bounded text")
  valueErrorIf (sortedUnique id (self.runners.map fun runner => runner.runnerId) ≠ self.runners.map fun runner => runner.runnerId)
    (ascii "runner group members must be canonical")

/-- A group of runners that a repository can see. -/
structure VisibleRunnerGroup extends VisibleRunnerGroupFields where
  admitted : toVisibleRunnerGroupFields.postInit = .ok ()
  deriving DecidableEq

/-- Two listings of a runner are one runner that is online in both and busy in either. -/
def ObservedSelfHostedRunner.merge (previous runner : ObservedSelfHostedRunner) : ObservedSelfHostedRunner :=
  ⟨{ runner.toObservedSelfHostedRunnerFields with
      online := previous.online && runner.online
      busy := previous.busy || runner.busy }, runner.admitted⟩

def indexRunner (index : Dictionary Int ObservedSelfHostedRunner) (runner : ObservedSelfHostedRunner) :
    Option (Dictionary Int ObservedSelfHostedRunner) :=
  match index.get? runner.runnerId with
  | none => some (index.set runner.runnerId runner)
  | some previous =>
    if previous.labels ≠ runner.labels then none else some (index.set runner.runnerId (previous.merge runner))

variable (membership : Dictionary Int VisibleRunnerGroup)

def joinGroup (entry : Int × VisibleRunnerGroup) :
    Option (Dictionary Int VisibleRunnerGroup) :=
  match membership.get? entry.1 with
  | none => some (membership.set entry.1 entry.2)
  | some _ => none

variable (groups : List VisibleRunnerGroup)

def groupEntries : List (Int × VisibleRunnerGroup) :=
  groups.flatMap fun group => group.runners.map fun runner => (runner.runnerId, group)

def VisibleRunnerGroup.runnerIds (group : VisibleRunnerGroup) : Finset Int :=
  (group.runners.map fun runner => runner.runnerId).toFinset

variable (runners : Dictionary Int ObservedSelfHostedRunner)

variable (selectors : List CapacityClassSelector)

variable (pools : Dictionary Text (Finset Int))

def isFree (runnerId : Int) : Bool :=
  (runners.get? runnerId).any fun runner => runner.online && !runner.busy

end CiCoordinator.RunnerCapacity

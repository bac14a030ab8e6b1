import CiCoordinator.Kernel.Errors
import Mathlib.Data.List.Basic
import Mathlib.Tactic.Common

/- The unit of work over one database transaction, and what its driver may do at every call. -/

namespace CiCoordinator.Persistence

open Library Kernel

inductive UnitState where
  | new
  | active
  | rollbackRequired
  | committed
  | rolledBack
  | failed
  deriving DecidableEq

inductive TransactionStatus where
  | absent
  | open_
  | committed
  | rolledBack
  deriving DecidableEq

/-- The database side of the unit of work. -/
structure UnitDatabase where
  transaction : TransactionStatus
  connected : Bool
  deriving DecidableEq

/-- A call of the driver returns, or it raises, times out or is cancelled before or after it has taken effect. -/
inductive DriverCall where
  | done
  | failed (effective : Bool)
  | timedOut (effective : Bool)
  | cancelled (effective : Bool)
  deriving DecidableEq

def DriverCall.effective : DriverCall → Bool
  | .done => true
  | .failed effective => effective
  | .timedOut effective => effective
  | .cancelled effective => effective

namespace UnitDatabase

variable (self : UnitDatabase) (call : DriverCall)

def commit : UnitDatabase :=
  if call.effective ∧ self.transaction = .open_ then { self with transaction := .committed } else self

def rollback : UnitDatabase :=
  if call.effective ∧ self.transaction = .open_ then { self with transaction := .rolledBack } else self

def close : UnitDatabase :=
  if call.effective then { self with connected := false } else self

end UnitDatabase

inductive UnitError where
  | cancelled
  | timeoutError
  | runtimeError (message : Text)
  | databaseCompatibilityError
  | storeUnavailable (message : Text)
  | commitCancelledOutcomeUnknown
  | commitOutcomeUnknown
  | committedButCleanupFailed
  deriving DecidableEq

/-- What a caller sees of a call. The exception that leaves a block may carry a note about the cleanup. -/
inductive UnitAnswer where
  | returned
  | raised (error : UnitError) (noted : Bool)
  | propagated (noted : Bool)
  deriving DecidableEq

/-- What a finalizer that ran out of time has left to do. -/
inductive Unfinished where
  | rollback
  | entryRollback
  | close
  deriving DecidableEq

/-- The unit of work with its database. Tasks are numbered. -/
structure PostgresUnitOfWork where
  state : UnitState
  ownerTask : Option Nat
  connection : Bool
  transaction : Bool
  auditEvents : Bool
  database : UnitDatabase
  unfinished : List Unfinished
  deriving DecidableEq

/-- How the cleanup of a unit goes: in time, or beyond its deadline at one of its two calls. A caller that is not woken by
the cleanup itself stops waiting at the deadline or for a cancellation, and finds the cleanup done. -/
inductive CleanupRun where
  | finished (rollback close : DriverCall) (woken : Bool)
  | late (rollback : Option DriverCall)
  deriving DecidableEq

def CleanupRun.woken : CleanupRun → Bool
  | .finished _ _ woken => woken
  | .late _ => false

inductive CleanupError where
  | failed
  | timedOut
  | cancelled
  | deadlineExceeded
  deriving DecidableEq

/-- The exception of a call. -/
def DriverCall.error : DriverCall → Option CleanupError
  | .done => none
  | .failed _ => some .failed
  | .timedOut _ => some .timedOut
  | .cancelled _ => some .cancelled

/-- The exception of a rollback, which is wrapped unless it is a cancellation. -/
def DriverCall.wrapped : DriverCall → Option CleanupError
  | .done => none
  | .failed _ => some .failed
  | .timedOut _ => some .failed
  | .cancelled _ => some .cancelled

/-- The calls that begin a unit of work, in their order. -/
inductive EnterStage where
  | connect
  | configure
  | begin
  | verify
  | fence
  | admission
  deriving DecidableEq

inductive EnterFailure where
  | cancelled
  | incompatible
  | other
  deriving DecidableEq

namespace PostgresUnitOfWork

def init : PostgresUnitOfWork :=
  ⟨.new, none, false, false, false, ⟨.absent, false⟩, []⟩

variable (self : PostgresUnitOfWork)

def rollbackTransaction (call : DriverCall) : PostgresUnitOfWork :=
  { self with
    database := self.database.rollback call
    state := if call = .done then .rolledBack else .failed }

def closeConnection (call : DriverCall) : PostgresUnitOfWork :=
  if self.connection then
    { self with database := self.database.close call, connection := decide (call ≠ .done) }
  else self

/-- A cleanup whose calls have all returned or raised fails with the first exception and notes the second one on it. -/
def cleanupFailure (rollback close : Option CleanupError) : Option CleanupError :=
  rollback.or close

def mustRollback : Bool :=
  decide (self.state = .active ∨ self.state = .rollbackRequired)

/-- A finalizer rolls an open transaction back and closes the connection, whatever the rollback does. -/
def finalize : CleanupRun → PostgresUnitOfWork × Option CleanupError
  | .finished rollback close _ =>
    let rolled := if self.mustRollback then self.rollbackTransaction rollback else self
    (rolled.closeConnection close,
      cleanupFailure (if self.mustRollback then rollback.wrapped else none) (if self.connection then close.error else none))
  | .late none =>
    ({ self with
        state := .failed
        unfinished := self.unfinished ++ [if self.mustRollback then .rollback else .close] },
      some .deadlineExceeded)
  | .late (some rollback) =>
    let rolled := if self.mustRollback then self.rollbackTransaction rollback else self
    ({ rolled with state := .failed, unfinished := rolled.unfinished ++ [.close] }, some .deadlineExceeded)

/-- A finalizer that is out of time goes on behind its caller. -/
def settle (rollback close : DriverCall) : PostgresUnitOfWork :=
  match self.unfinished with
  | [] => self
  | .rollback :: rest => ({ self with unfinished := rest }.rollbackTransaction rollback).closeConnection close
  | .entryRollback :: rest =>
    ({ self with database := self.database.rollback rollback, transaction := false, unfinished := rest }).closeConnection close
  | .close :: rest => ({ self with unfinished := rest }).closeConnection close

/-- The cleanup after a failed entry leaves the state of the unit failed. -/
def rollbackAndCloseAfterFailedEnter : CleanupRun → PostgresUnitOfWork × Option CleanupError
  | .finished rollback close _ =>
    let rolled := if self.transaction then { self with database := self.database.rollback rollback, transaction := false } else self
    ({ rolled.closeConnection close with ownerTask := none },
      cleanupFailure (if self.transaction then rollback.error else none) (if self.connection then close.error else none))
  | .late none =>
    ({ self with
        state := .failed
        unfinished := self.unfinished ++ [if self.transaction then .entryRollback else .close] },
      some .deadlineExceeded)
  | .late (some rollback) =>
    let rolled := if self.transaction then { self with database := self.database.rollback rollback, transaction := false } else self
    ({ rolled with state := .failed, unfinished := rolled.unfinished ++ [.close] }, some .deadlineExceeded)

/-- What the unit holds when the entry fails at a stage; a failed begin may have begun. -/
def failedAt (effective : Bool) : EnterStage → PostgresUnitOfWork
  | .connect => { self with state := .failed }
  | .configure => { self with state := .failed, connection := true, database := ⟨.absent, true⟩ }
  | .begin =>
    { self with
      state := .failed
      connection := true
      database := ⟨if effective then .open_ else .absent, true⟩ }
  | _ => { self with state := .failed, connection := true, transaction := true, database := ⟨.open_, true⟩ }

/-- What the caller of a cleanup learns: whether it was cancelled meanwhile, and the exception of the cleanup. A caller that
is woken by a cancelled cleanup takes this for its own cancellation, and one that is woken by a `TimeoutError` before the
deadline raises it. -/
def awaitFinalizer (woken cancelled : Bool) : Option CleanupError → Except UnitError (Bool × Option CleanupError)
  | some .timedOut => if woken then .error .timeoutError else .ok (cancelled, some .timedOut)
  | some .cancelled => .ok (cancelled || woken, some .cancelled)
  | cleanupError => .ok (cancelled, cleanupError)

def enterError : EnterFailure → UnitError
  | .cancelled => .cancelled
  | .incompatible => .databaseCompatibilityError
  | .other => .storeUnavailable (ascii "could not begin database transaction")

/-- The cleanup of a failed entry notes on its error what else went wrong. -/
def failedEnterAnswer (failure : EnterFailure) : Except UnitError (Bool × Option CleanupError) → UnitAnswer
  | .error escaped => .raised escaped false
  | .ok (cancellation, cleanupError) => .raised (enterError failure) (cancellation || cleanupError.isSome)

variable (task : Nat)

def aenter (failure : Option (EnterStage × EnterFailure)) (effective : Bool)
    (cleanup : CleanupRun) (cancelled : Bool) : PostgresUnitOfWork × UnitAnswer :=
  if self.state ≠ .new then (self, .raised (.runtimeError (ascii "unit of work cannot be reused")) false)
  else
    match failure with
    | none =>
      ({ self with
          state := .active
          ownerTask := some task
          connection := true
          transaction := true
          auditEvents := true
          database := ⟨.open_, true⟩ },
        .returned)
    | some (stage, failure) =>
      let closed := (self.failedAt effective stage).rollbackAndCloseAfterFailedEnter cleanup
      (closed.1, failedEnterAnswer failure (awaitFinalizer cleanup.woken cancelled closed.2))

/-- The check that comes before every use of the transaction. -/
def requireActive : Option UnitError :=
  if self.state ≠ .active then some (.runtimeError (ascii "unit of work is not active"))
  else if self.ownerTask ≠ some task then some (.runtimeError (ascii "unit of work cannot be shared across tasks"))
  else none

def markRollbackRequired : PostgresUnitOfWork :=
  if self.state = .active then { self with state := .rollbackRequired } else self

/-- A repository marks the unit when the database refuses one of its calls or the call is cancelled; any other exception
passes through it. -/
def repositoryCall (message : Text) (call : DriverCall) : PostgresUnitOfWork × UnitAnswer :=
  match self.requireActive task with
  | some error => (self, .raised error false)
  | none =>
    match call with
    | .done => (self, .returned)
    | .failed _ => (self.markRollbackRequired, .raised (.storeUnavailable message) false)
    | .timedOut _ => (self, .raised .timeoutError false)
    | .cancelled _ => (self.markRollbackRequired, .raised .cancelled false)

def commit (self : PostgresUnitOfWork) (task : Nat) (call : DriverCall) : PostgresUnitOfWork × UnitAnswer :=
  match self.requireActive task with
  | some error => (self, .raised error false)
  | none =>
    let database := self.database.commit call
    match call with
    | .done => ({ self with database, state := .committed }, .returned)
    | .failed _ | .timedOut _ => ({ self with database, state := .failed }, .raised .commitOutcomeUnknown false)
    | .cancelled _ => ({ self with database, state := .failed }, .raised .commitCancelledOutcomeUnknown false)

def rollback (self : PostgresUnitOfWork) (task : Nat) (call : DriverCall) : PostgresUnitOfWork × UnitAnswer :=
  if self.ownerTask ≠ some task then
    (self, .raised (.runtimeError (ascii "unit of work cannot be shared across tasks")) false)
  else if self.mustRollback = false then (self, .raised (.runtimeError (ascii "unit of work is not active")) false)
  else
    (self.rollbackTransaction call,
      match call with
      | .done => .returned
      | .failed _ | .timedOut _ => .raised (.storeUnavailable (ascii "database rollback failed")) false
      | .cancelled _ => .raised .cancelled false)

/-- What the exit of a block reports about its cleanup. -/
def exitAnswer (committed raising : Bool) : Except UnitError (Bool × Option CleanupError) → UnitAnswer
  | .error escaped => .raised escaped false
  | .ok (cancellation, none) =>
    if raising then .propagated false
    else if cancellation then .raised .cancelled false
    else .returned
  | .ok (cancellation, some error) =>
    if raising then .propagated true
    else if cancellation then .raised .cancelled true
    else if committed then .raised .committedButCleanupFailed false
    else if error = .deadlineExceeded then
      .raised (.storeUnavailable (ascii "database finalization exceeded its deadline")) false
    else .raised (.storeUnavailable (ascii "database finalization failed")) false

def aexit (raising : Bool) (cleanup : CleanupRun) (cancelled : Bool) :
    PostgresUnitOfWork × UnitAnswer :=
  if self.ownerTask ≠ some task then
    (self, .raised (.runtimeError (ascii "unit of work cannot be shared across tasks")) false)
  else
    let final := self.finalize cleanup
    (final.1, exitAnswer (decide (self.state = .committed)) raising (awaitFinalizer cleanup.woken cancelled final.2))

end PostgresUnitOfWork

/-- The calls on a unit of work, each with what the driver does during it. -/
inductive UnitCall where
  | enter (task : Nat) (failure : Option (EnterStage × EnterFailure)) (effective : Bool) (cleanup : CleanupRun) (cancelled : Bool)
  | repository (task : Nat) (message : Text) (call : DriverCall)
  | markRollbackRequired
  | commit (task : Nat) (call : DriverCall)
  | rollback (task : Nat) (call : DriverCall)
  | exit (task : Nat) (raising : Bool) (cleanup : CleanupRun) (cancelled : Bool)
  | settle (rollback close : DriverCall)
  deriving DecidableEq

namespace PostgresUnitOfWork

/-- Only the repositories of an entered unit can mark it. -/
def call (self : PostgresUnitOfWork) : UnitCall → PostgresUnitOfWork × UnitAnswer
  | .enter task failure effective cleanup cancelled => self.aenter task failure effective cleanup cancelled
  | .repository task message call => self.repositoryCall task message call
  | .markRollbackRequired => (if self.auditEvents then self.markRollbackRequired else self, .returned)
  | .commit task call => self.commit task call
  | .rollback task call => self.rollback task call
  | .exit task raising cleanup cancelled => self.aexit task raising cleanup cancelled
  | .settle rollback close => (self.settle rollback close, .returned)

def step (self : PostgresUnitOfWork) (call : UnitCall) : PostgresUnitOfWork :=
  (self.call call).1

def run (self : PostgresUnitOfWork) (calls : List UnitCall) : PostgresUnitOfWork :=
  calls.foldl step self

end PostgresUnitOfWork

end CiCoordinator.Persistence

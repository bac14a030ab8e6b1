import CiCoordinator.Persistence.UnitOfWork

/- What holds of a unit of work in every sequence of calls. -/

namespace CiCoordinator.Persistence

open Library Kernel List

namespace UnitDatabase

variable {self : UnitDatabase} {call : DriverCall}

theorem rollback_transaction :
    (self.rollback call).transaction = if call.effective ∧ self.transaction = .open_ then .rolledBack else self.transaction := by
  rw [rollback]
  split <;> rfl

theorem rollback_not_committed (uncommitted : self.transaction ≠ .committed) : (self.rollback call).transaction ≠ .committed := by
  rw [rollback_transaction]
  split
  · decide
  · exact uncommitted

/-- A transaction that is open or rolled back stays so. -/
theorem rollback_unfinished (behind : self.transaction = .open_ ∨ self.transaction = .rolledBack) :
    (self.rollback call).transaction = .open_ ∨ (self.rollback call).transaction = .rolledBack := by
  rw [rollback_transaction]
  split
  · exact .inr rfl
  · exact behind

theorem close_transaction : (self.close call).transaction = self.transaction := by
  rw [close]
  split <;> rfl

theorem rollback_connected : (self.rollback call).connected = self.connected := by
  rw [rollback]
  split <;> rfl

theorem close_connected : (self.close call).connected = (self.connected && !call.effective) := by
  rw [close]
  cases call.effective <;> simp

/-- Nothing of the transaction can reach the database any more. -/
def Settled (self : UnitDatabase) : Prop :=
  self.transaction ≠ .open_ ∨ self.connected = false

end UnitDatabase

namespace PostgresUnitOfWork

variable {unit : PostgresUnitOfWork}

/-- What holds of a unit between its calls: an open transaction is behind an active state, and a connection is held. -/
structure Sound (unit : PostgresUnitOfWork) : Prop where
  opened : unit.mustRollback = true → unit.database.transaction = .open_
  held : unit.database.connected = true → unit.connection = true
  entered : unit.auditEvents = true → unit.state ≠ .new
  rolledBack : unit.state = .rolledBack → unit.database.transaction = .rolledBack
  fresh : unit.state = .new → unit.database.transaction = .absent ∧ unit.unfinished = []
  late : unit.unfinished ≠ [] → unit.state = .failed ∨ unit.state = .rolledBack
  behind : .rollback ∈ unit.unfinished → unit.database.transaction = .open_ ∨ unit.database.transaction = .rolledBack

/-- The unit can no longer commit. -/
def Finished (unit : PostgresUnitOfWork) : Prop :=
  unit.state ≠ .new ∧ unit.state ≠ .active

theorem sound_init : Sound init where
  opened required := by simp [init, mustRollback] at required
  held connected := by simp [init] at connected
  entered repositories := by simp [init] at repositories
  rolledBack reached := by simp [init] at reached
  fresh _ := ⟨rfl, rfl⟩
  late pending := absurd rfl pending
  behind pending := by simp [init] at pending

theorem not_mustRollback (first : unit.state ≠ .active) (second : unit.state ≠ .rollbackRequired) :
    unit.mustRollback = false := by
  simp [mustRollback, first, second]

@[simp] theorem rollbackTransaction_database {call : DriverCall} :
    (unit.rollbackTransaction call).database = unit.database.rollback call := rfl

theorem rollbackTransaction_state (unit : PostgresUnitOfWork) (call : DriverCall) :
    (unit.rollbackTransaction call).state = .rolledBack ∧ call = .done ∨ (unit.rollbackTransaction call).state = .failed := by
  rw [rollbackTransaction]
  by_cases done : call = .done
  · exact .inl ⟨by simp [done], done⟩
  · exact .inr (by simp [done])

theorem closeConnection_state {call : DriverCall} : (unit.closeConnection call).state = unit.state := by
  rw [closeConnection]
  split <;> rfl

theorem closeConnection_transaction {call : DriverCall} :
    (unit.closeConnection call).database.transaction = unit.database.transaction := by
  rw [closeConnection]
  split
  · exact UnitDatabase.close_transaction
  · rfl

theorem closeConnection_auditEvents {call : DriverCall} : (unit.closeConnection call).auditEvents = unit.auditEvents := by
  rw [closeConnection]
  split <;> rfl

theorem closeConnection_held {call : DriverCall} (held : unit.database.connected = true → unit.connection = true)
    (connected : (unit.closeConnection call).database.connected = true) : (unit.closeConnection call).connection = true := by
  rw [closeConnection] at connected ⊢
  split at connected
  · rename_i holds
    rw [if_pos holds]
    rw [UnitDatabase.close_connected, Bool.and_eq_true, Bool.not_eq_true'] at connected
    refine decide_eq_true fun done => ?_
    rw [done] at connected
    exact absurd connected.2 (by decide)
  · rename_i holds
    rw [if_neg holds]
    exact held connected

/-- A unit that is done, with its transaction closed by a rollback when its state says so. -/
theorem sound_of_done (finished : unit.state = .committed ∨ unit.state = .failed ∨
      unit.state = .rolledBack ∧ unit.database.transaction = .rolledBack)
    (held : unit.database.connected = true → unit.connection = true)
    (late : unit.unfinished ≠ [] → unit.state = .failed ∨ unit.state = .rolledBack)
    (behind : .rollback ∈ unit.unfinished →
      unit.database.transaction = .open_ ∨ unit.database.transaction = .rolledBack) : unit.Sound where
  opened required := by
    obtain reached | reached | ⟨reached, _⟩ := finished
    all_goals
      rw [not_mustRollback (by simp [reached]) (by simp [reached])] at required
      cases required
  held := held
  entered _ fresh := by
    obtain reached | reached | ⟨reached, _⟩ := finished <;> simp [reached] at fresh
  rolledBack reached := by
    obtain other | other | ⟨_, closed⟩ := finished
    · simp [other] at reached
    · simp [other] at reached
    · exact closed
  fresh reached := by
    obtain other | other | ⟨other, _⟩ := finished <;> simp [other] at reached
  late := late
  behind := behind

/-- The rollback of an open transaction, and the closing after it. -/
theorem rolled_done (opened : unit.database.transaction = .open_) {call : DriverCall} :
    (unit.rollbackTransaction call).state = .failed ∨ (unit.rollbackTransaction call).state = .rolledBack ∧
        (unit.rollbackTransaction call).database.transaction = .rolledBack := by
  obtain ⟨reached, rfl⟩ | reached := rollbackTransaction_state unit call
  · refine .inr ⟨reached, ?_⟩
    rw [rollbackTransaction_database, UnitDatabase.rollback_transaction, if_pos ⟨rfl, opened⟩]
  · exact .inl reached

theorem closeConnection_unfinished {call : DriverCall} : (unit.closeConnection call).unfinished = unit.unfinished := by
  rw [closeConnection]
  split <;> rfl

theorem mustRollback_of_state {other : PostgresUnitOfWork} (same : other.state = unit.state) :
    other.mustRollback = unit.mustRollback := by
  rw [mustRollback, mustRollback, same]

theorem Sound.close (sound : unit.Sound) (call : DriverCall) : (unit.closeConnection call).Sound where
  opened required := by
    rw [closeConnection_transaction]
    exact sound.opened ((mustRollback_of_state closeConnection_state).symm.trans required)
  held := closeConnection_held sound.held
  entered repositories := by
    rw [closeConnection_state]
    exact sound.entered (closeConnection_auditEvents ▸ repositories)
  rolledBack reached := by
    rw [closeConnection_transaction]
    exact sound.rolledBack (closeConnection_state ▸ reached)
  fresh reached := by
    rw [closeConnection_transaction, closeConnection_unfinished]
    exact sound.fresh (closeConnection_state ▸ reached)
  late pending := by
    rw [closeConnection_state]
    exact sound.late (closeConnection_unfinished ▸ pending)
  behind pending := by
    rw [closeConnection_transaction]
    exact sound.behind (closeConnection_unfinished ▸ pending)

theorem state_of_mustRollback (required : unit.mustRollback = true) : unit.state = .active ∨ unit.state = .rollbackRequired :=
  of_decide_eq_true required

section

variable (sound : unit.Sound)
include sound

/-- No cleanup is left behind while the unit is still to be rolled back. -/
theorem Sound.not_late (required : unit.mustRollback = true) : unit.unfinished = [] := by
  by_contra pending
  have reached := sound.late pending
  obtain active | marked := state_of_mustRollback required
  · rw [active] at reached
    simp at reached
  · rw [marked] at reached
    simp at reached

theorem Sound.held_rollback {call : DriverCall}
    (connected : (unit.database.rollback call).connected = true) : unit.connection = true := by
  rw [UnitDatabase.rollback_connected] at connected
  exact sound.held connected

theorem Sound.rollbackTransaction (required : unit.mustRollback = true) (call : DriverCall) :
    (unit.rollbackTransaction call).Sound := by
  have empty := sound.not_late required
  refine sound_of_done (.inr (rolled_done (sound.opened required))) sound.held_rollback ?_ ?_
  · exact fun pending => absurd empty pending
  · intro pending
    rw [show (unit.rollbackTransaction call).unfinished = [] from empty] at pending
    cases pending

/-- A failed unit gives up a transaction that the driver was asked to roll back. -/
theorem Sound.rolled (failed : unit.state = .failed) (call : DriverCall) :
    Sound { unit with database := unit.database.rollback call, transaction := false } :=
  sound_of_done (.inr (.inl failed)) sound.held_rollback sound.late fun later =>
    UnitDatabase.rollback_unfinished (sound.behind later)

/-- A finalizer that ran out of time leaves a failed unit, whose transaction is open if it is still to be rolled back. -/
theorem Sound.outOfTime (left : Unfinished) (opened : left = .rollback → unit.database.transaction = .open_) :
    Sound { unit with state := .failed, unfinished := unit.unfinished ++ [left] } := by
  refine sound_of_done (.inr (.inl rfl)) sound.held (fun _ => .inl rfl) fun pending => ?_
  obtain before | new := mem_append.mp pending
  · exact sound.behind before
  · exact .inl (opened (mem_singleton.mp new).symm)

theorem Sound.finalize (cleanup : CleanupRun) : (unit.finalize cleanup).1.Sound := by
  cases cleanup with
  | finished rollback close woken =>
    rw [PostgresUnitOfWork.finalize]
    by_cases required : unit.mustRollback = true
    · rw [if_pos required]
      exact (sound.rollbackTransaction required rollback).close close
    · rw [if_neg required]
      exact sound.close close
  | late rollback =>
    cases rollback with
    | none =>
      refine sound.outOfTime _ fun left => ?_
      by_cases required : unit.mustRollback = true
      · exact sound.opened required
      · rw [if_neg required] at left
        cases left
    | some rollback =>
      rw [PostgresUnitOfWork.finalize]
      by_cases required : unit.mustRollback = true
      · rw [if_pos required]
        exact (sound.rollbackTransaction required rollback).outOfTime .close fun left => by cases left
      · rw [if_neg required]
        exact sound.outOfTime .close fun left => by cases left

theorem Sound.rest {left : Unfinished} {rest : List Unfinished} (pending : unit.unfinished = left :: rest) :
    Sound { unit with unfinished := rest } where
  __ := sound
  fresh fresh := by
    have empty := (sound.fresh fresh).2
    rw [pending] at empty
    cases empty
  late _ := sound.late (by simp [pending])
  behind later := sound.behind (pending ▸ mem_cons_of_mem _ later)

theorem Sound.settle (rollback close : DriverCall) : (unit.settle rollback close).Sound := by
  rw [PostgresUnitOfWork.settle]
  split
  · exact sound
  · rename_i rest pending
    have left := sound.rest pending
    have behind := sound.behind (pending ▸ mem_cons_self)
    have reached := rollbackTransaction_state { unit with unfinished := rest } rollback
    refine Sound.close (sound_of_done ?_ left.held_rollback ?_ ?_) close
    · obtain ⟨reached, rfl⟩ | reached := reached
      · refine .inr (.inr ⟨reached, ?_⟩)
        rw [rollbackTransaction_database, UnitDatabase.rollback_transaction]
        obtain opened | closed := behind
        · rw [if_pos ⟨rfl, opened⟩]
        · split
          · rfl
          · exact closed
      · exact .inr (.inl reached)
    · exact fun _ => reached.symm.imp_right And.left
    · exact fun _ => UnitDatabase.rollback_unfinished behind
  · rename_i rest pending
    have left := sound.rest pending
    have reached := sound.late (by simp [pending])
    refine Sound.close (sound_of_done ?_ left.held_rollback ?_ ?_) close
    · refine .inr (reached.imp_right fun reached => ⟨reached, ?_⟩)
      rw [UnitDatabase.rollback_transaction, sound.rolledBack reached]
      simp
    · exact fun _ => reached
    · exact fun later => UnitDatabase.rollback_unfinished (left.behind later)
  · rename_i rest pending
    exact (sound.rest pending).close close

end

theorem sound_failedAt (effective : Bool) (stage : EnterStage) (fresh : unit.state = .new) (sound : unit.Sound) :
    (unit.failedAt effective stage).Sound := by
  have empty := (sound.fresh fresh).2
  have left (kept : unit.unfinished = []) : .rollback ∉ unit.unfinished := by
    rw [kept]
    exact not_mem_nil
  cases stage with
  | connect => exact sound_of_done (.inr (.inl rfl)) sound.held (fun _ => .inl rfl) fun late => absurd late (left empty)
  | _ => exact sound_of_done (.inr (.inl rfl)) (fun _ => rfl) (fun _ => .inl rfl) fun late => absurd late (left empty)

theorem Sound.rollbackAndCloseAfterFailedEnter (sound : unit.Sound) (failed : unit.state = .failed) (cleanup : CleanupRun) :
    (unit.rollbackAndCloseAfterFailedEnter cleanup).1.Sound := by
  have rolled (call : DriverCall) :
      Sound (if unit.transaction then { unit with database := unit.database.rollback call, transaction := false } else unit) := by
    split
    · exact sound.rolled failed call
    · exact sound
  cases cleanup with
  | finished rollback close woken =>
    have closed := (rolled rollback).close close
    exact ⟨closed.opened, closed.held, closed.entered, closed.rolledBack, closed.fresh, closed.late, closed.behind⟩
  | late rollback =>
    cases rollback with
    | none =>
      refine sound.outOfTime _ fun left => ?_
      split at left <;> cases left
    | some rollback =>
      exact (rolled rollback).outOfTime .close fun left => by cases left

theorem requireActive_eq_none {task : Nat} : unit.requireActive task = none ↔ unit.state = .active ∧ unit.ownerTask = some task := by
  rw [requireActive]
  split
  · rename_i inactive
    simp [inactive]
  · rename_i active
    rw [not_not] at active
    split
    · rename_i foreign
      simp [foreign]
    · rename_i owner
      rw [not_not] at owner
      simp [active, owner]

theorem mustRollback_of_active (active : unit.state = .active) : unit.mustRollback = true :=
  decide_eq_true (.inl active)

theorem Sound.markRollbackRequired (sound : unit.Sound) : unit.markRollbackRequired.Sound := by
  rw [PostgresUnitOfWork.markRollbackRequired]
  split
  · rename_i active
    have empty := sound.not_late (mustRollback_of_active active)
    exact
      { opened := fun _ => sound.opened (mustRollback_of_active active)
        held := sound.held
        entered := fun _ fresh => by cases fresh
        rolledBack := fun reached => by cases reached
        fresh := fun reached => by cases reached
        late := fun pending => absurd empty pending
        behind := sound.behind }
  · exact sound

theorem Sound.commit (sound : unit.Sound) (task : Nat) (call : DriverCall) : (unit.commit task call).1.Sound := by
  rw [PostgresUnitOfWork.commit]
  split
  · exact sound
  · rename_i admitted
    have empty := sound.not_late (mustRollback_of_active (requireActive_eq_none.mp admitted).1)
    have held : (unit.database.commit call).connected = true → unit.connection = true := by
      intro connected
      apply sound.held
      rw [UnitDatabase.commit] at connected
      split at connected <;> exact connected
    have behind : .rollback ∉ unit.unfinished := by
      rw [empty]
      exact not_mem_nil
    cases call with
    | done => exact sound_of_done (.inl rfl) held (absurd empty) fun late => absurd late behind
    | failed effective => exact sound_of_done (.inr (.inl rfl)) held (absurd empty) fun late => absurd late behind
    | timedOut effective => exact sound_of_done (.inr (.inl rfl)) held (absurd empty) fun late => absurd late behind
    | cancelled effective => exact sound_of_done (.inr (.inl rfl)) held (absurd empty) fun late => absurd late behind

theorem step_sound (sound : unit.Sound) (call : UnitCall) : (unit.step call).Sound := by
  cases call with
  | enter task failure effective cleanup cancelled =>
    rw [step, PostgresUnitOfWork.call, aenter.eq_def]
    split
    · exact sound
    · rename_i fresh
      rw [not_not] at fresh
      have empty := (sound.fresh fresh).2
      cases failure with
      | none =>
        exact
          { opened := fun _ => rfl
            held := fun _ => rfl
            entered := fun _ fresh => by cases fresh
            rolledBack := fun reached => by cases reached
            fresh := fun reached => by cases reached
            late := fun pending => absurd empty pending
            behind := fun _ => .inl rfl }
      | some failure =>
        refine (sound_failedAt effective failure.1 fresh sound).rollbackAndCloseAfterFailedEnter ?_ cleanup
        cases failure.1 <;> rfl
  | repository task message call =>
    rw [step, PostgresUnitOfWork.call, repositoryCall.eq_def]
    split
    · exact sound
    · cases call with
      | done => exact sound
      | failed effective => exact sound.markRollbackRequired
      | timedOut effective => exact sound
      | cancelled effective => exact sound.markRollbackRequired
  | markRollbackRequired =>
    rw [step, PostgresUnitOfWork.call]
    split
    · exact sound.markRollbackRequired
    · exact sound
  | commit task call => exact sound.commit task call
  | rollback task call =>
    rw [step, PostgresUnitOfWork.call, rollback.eq_def]
    split
    · exact sound
    · split
      · exact sound
      · rename_i required
        exact sound.rollbackTransaction (by simpa using required) call
  | exit task raising cleanup cancelled =>
    rw [step, PostgresUnitOfWork.call, aexit]
    split
    · exact sound
    · exact sound.finalize cleanup
  | settle rollback close => exact sound.settle rollback close

variable (calls : List UnitCall)

theorem run_sound : ∀ unit : PostgresUnitOfWork, unit.Sound → (unit.run calls).Sound := by
  induction calls with
  | nil => exact fun _ sound => sound
  | cons call rest inductionHypothesis =>
    intro unit sound
    exact inductionHypothesis (unit.step call) (step_sound sound call)

section

variable (uncommitted : unit.database.transaction ≠ .committed)
include uncommitted

/-- No call but an admitted commit commits. -/
theorem finalize_uncommitted (cleanup : CleanupRun) : (unit.finalize cleanup).1.database.transaction ≠ .committed := by
  have rolled (call : DriverCall) :
      (if unit.mustRollback then unit.rollbackTransaction call else unit).database.transaction ≠ .committed := by
    split
    · exact UnitDatabase.rollback_not_committed uncommitted
    · exact uncommitted
  cases cleanup with
  | finished rollback close woken =>
    rw [finalize, closeConnection_transaction]
    exact rolled rollback
  | late rollback =>
    cases rollback with
    | none => exact uncommitted
    | some rollback => exact rolled rollback

theorem rollbackAndCloseAfterFailedEnter_uncommitted (cleanup : CleanupRun) :
    (unit.rollbackAndCloseAfterFailedEnter cleanup).1.database.transaction ≠ .committed := by
  have rolled (call : DriverCall) :
      (if unit.transaction then { unit with database := unit.database.rollback call, transaction := false }
        else unit).database.transaction ≠ .committed := by
    split
    · exact UnitDatabase.rollback_not_committed uncommitted
    · exact uncommitted
  cases cleanup with
  | finished rollback close woken =>
    rw [rollbackAndCloseAfterFailedEnter]
    rw [closeConnection_transaction]
    exact rolled rollback
  | late rollback =>
    cases rollback with
    | none => exact uncommitted
    | some rollback => exact rolled rollback

theorem settle_uncommitted (rollback close : DriverCall) : (unit.settle rollback close).database.transaction ≠ .committed := by
  rw [settle]
  split
  · exact uncommitted
  · rw [closeConnection_transaction]
    exact UnitDatabase.rollback_not_committed uncommitted
  · rw [closeConnection_transaction]
    exact UnitDatabase.rollback_not_committed uncommitted
  · rw [closeConnection_transaction]
    exact uncommitted

end

theorem markRollbackRequired_database : unit.markRollbackRequired.database = unit.database := by
  rw [markRollbackRequired]
  split <;> rfl

/-- A transaction that a call commits is committed by its owner in the active state. -/
theorem step_commits {call : UnitCall} (uncommitted : unit.database.transaction ≠ .committed)
    (committed : (unit.step call).database.transaction = .committed) :
    ∃ task driver, call = .commit task driver ∧ unit.state = .active ∧ unit.ownerTask = some task := by
  cases call with
  | enter task failure effective cleanup cancelled =>
    rw [step, PostgresUnitOfWork.call, aenter.eq_def] at committed
    split at committed
    · exact absurd committed uncommitted
    · cases failure with
      | none => cases committed
      | some failure =>
        refine absurd committed (rollbackAndCloseAfterFailedEnter_uncommitted ?_ cleanup)
        cases failure.1 with
        | connect => exact uncommitted
        | begin => cases effective <;> simp [failedAt]
        | _ => simp [failedAt]
  | repository task message driver =>
    rw [step, PostgresUnitOfWork.call, repositoryCall.eq_def] at committed
    split at committed
    · exact absurd committed uncommitted
    · cases driver with
      | done => exact absurd committed uncommitted
      | failed effective => exact absurd (markRollbackRequired_database ▸ committed) uncommitted
      | timedOut effective => exact absurd committed uncommitted
      | cancelled effective => exact absurd (markRollbackRequired_database ▸ committed) uncommitted
  | markRollbackRequired =>
    rw [step, PostgresUnitOfWork.call] at committed
    split at committed
    · exact absurd (markRollbackRequired_database ▸ committed) uncommitted
    · exact absurd committed uncommitted
  | commit task driver =>
    rw [step, PostgresUnitOfWork.call, commit] at committed
    split at committed
    · exact absurd committed uncommitted
    · rename_i admitted
      obtain ⟨active, owner⟩ := requireActive_eq_none.mp admitted
      exact ⟨task, driver, rfl, active, owner⟩
  | rollback task driver =>
    rw [step, PostgresUnitOfWork.call, rollback.eq_def] at committed
    split at committed
    · exact absurd committed uncommitted
    · split at committed
      · exact absurd committed uncommitted
      · exact absurd committed (UnitDatabase.rollback_not_committed uncommitted)
  | exit task raising cleanup cancelled =>
    rw [step, PostgresUnitOfWork.call, aexit] at committed
    split at committed
    · exact absurd committed uncommitted
    · exact absurd committed (finalize_uncommitted uncommitted cleanup)
  | settle rollback close => exact absurd committed (settle_uncommitted uncommitted rollback close)

/-- The unit has ended. -/
def Ended (unit : PostgresUnitOfWork) : Prop :=
  unit.state = .committed ∨ unit.state = .rolledBack ∨ unit.state = .failed

theorem rollbackTransaction_ended (call : DriverCall) : (unit.rollbackTransaction call).Ended := by
  obtain ⟨reached, _⟩ | reached := rollbackTransaction_state unit call
  · exact .inr (.inl reached)
  · exact .inr (.inr reached)

theorem closeConnection_ended (ended : unit.Ended) (call : DriverCall) : (unit.closeConnection call).Ended := by
  rw [Ended, closeConnection_state]
  exact ended

theorem finalize_ended (finished : unit.Finished) (cleanup : CleanupRun) : (unit.finalize cleanup).1.Ended := by
  have rolled (call : DriverCall) : (if unit.mustRollback then unit.rollbackTransaction call else unit).Ended := by
    split
    · exact rollbackTransaction_ended call
    · rename_i settled
      have reached : unit.state ≠ .rollbackRequired := fun reached => settled (decide_eq_true (.inr reached))
      obtain ⟨notNew, notActive⟩ := finished
      cases state : unit.state with
      | new => exact absurd state notNew
      | active => exact absurd state notActive
      | rollbackRequired => exact absurd state reached
      | committed => exact .inl state
      | rolledBack => exact .inr (.inl state)
      | failed => exact .inr (.inr state)
  cases cleanup with
  | finished rollback close woken => exact closeConnection_ended (rolled rollback) close
  | late rollback => cases rollback <;> exact .inr (.inr rfl)

theorem settle_state (rollback close : DriverCall) :
    (unit.settle rollback close).state = unit.state ∨ (unit.settle rollback close).Ended := by
  rw [settle]
  split
  · exact .inl rfl
  · exact .inr (closeConnection_ended (rollbackTransaction_ended rollback) close)
  · exact .inl closeConnection_state
  · exact .inl closeConnection_state

/-- An ended unit stays ended, and a unit that can no longer commit either stays as it is or ends. -/
theorem step_finished (finished : unit.Finished) (call : UnitCall) :
    (unit.step call).state = unit.state ∨ (unit.step call).Ended := by
  obtain ⟨notNew, notActive⟩ := finished
  have marked : unit.markRollbackRequired = unit := by rw [markRollbackRequired, if_neg notActive]
  have refused (task : Nat) : unit.requireActive task ≠ none := fun admitted => notActive (requireActive_eq_none.mp admitted).1
  cases call with
  | enter task failure effective cleanup cancelled =>
    rw [step, PostgresUnitOfWork.call, aenter.eq_def, if_pos notNew]
    exact .inl rfl
  | repository task message driver =>
    rw [step, PostgresUnitOfWork.call, repositoryCall.eq_def]
    split
    · exact .inl rfl
    · rename_i admitted
      exact absurd admitted (refused task)
  | markRollbackRequired =>
    rw [step, PostgresUnitOfWork.call, marked, ite_self]
    exact .inl rfl
  | commit task driver =>
    rw [step, PostgresUnitOfWork.call, commit]
    split
    · exact .inl rfl
    · rename_i admitted
      exact absurd admitted (refused task)
  | rollback task driver =>
    rw [step, PostgresUnitOfWork.call, rollback.eq_def]
    split
    · exact .inl rfl
    · split
      · exact .inl rfl
      · exact .inr (rollbackTransaction_ended driver)
  | exit task raising cleanup cancelled =>
    rw [step, PostgresUnitOfWork.call, aexit]
    split
    · exact .inl rfl
    · exact .inr (finalize_ended ⟨notNew, notActive⟩ cleanup)
  | settle rollback close => exact settle_state rollback close

theorem Ended.finished (ended : unit.Ended) : unit.Finished := by
  obtain reached | reached | reached := ended <;> exact ⟨by simp [reached], by simp [reached]⟩

theorem run_finished : ∀ unit : PostgresUnitOfWork, unit.Finished → (unit.run calls).Finished := by
  induction calls with
  | nil => exact fun _ finished => finished
  | cons call rest inductionHypothesis =>
    intro unit finished
    apply inductionHypothesis (unit.step call)
    cases step_finished finished call with
    | inl same =>
      rw [Finished, same]
      exact finished
    | inr ended => exact ended.finished

theorem run_ended : ∀ unit : PostgresUnitOfWork, unit.Ended → (unit.run calls).Ended := by
  induction calls with
  | nil => exact fun _ ended => ended
  | cons call rest inductionHypothesis =>
    intro unit ended
    apply inductionHypothesis (unit.step call)
    cases step_finished ended.finished call with
    | inl same =>
      rw [Ended, same]
      exact ended
    | inr ended => exact ended

/-- No later call commits what a finished unit has not committed. -/
theorem run_uncommitted : ∀ unit : PostgresUnitOfWork, unit.Finished →
    unit.database.transaction ≠ .committed → (unit.run calls).database.transaction ≠ .committed := by
  induction calls with
  | nil => exact fun _ _ uncommitted => uncommitted
  | cons call rest inductionHypothesis =>
    intro unit finished uncommitted
    refine inductionHypothesis (unit.step call) (run_finished [call] unit finished) ?_
    intro committed
    obtain ⟨_, _, _, active, _⟩ := step_commits uncommitted committed
    exact finished.2 active

/-- The exception of a call, or a note on the one that leaves the block, tells that the cleanup did not succeed: the exception
of the cleanup itself, one that stands for it, or a refusal of the call. -/
def Reported : UnitAnswer → Prop
  | .returned => False
  | .propagated noted => noted = true
  | .raised .committedButCleanupFailed _ => True
  | .raised (.storeUnavailable _) _ => True
  | .raised (.runtimeError _) _ => True
  | .raised .timeoutError _ => True
  | .raised _ noted => noted = true

/-- Every answer to a cleanup that raised reports it. -/
theorem exitAnswer_reported (committed raising woken cancelled : Bool) (error : CleanupError) :
    Reported (exitAnswer committed raising (awaitFinalizer woken cancelled (some error))) := by
  have settled (cancellation : Bool) : Reported (exitAnswer committed raising (.ok (cancellation, some error))) := by
    cases raising <;> cases cancellation <;> cases committed <;> cases error <;> trivial
  cases error with
  | timedOut =>
    cases woken with
    | true => trivial
    | false => exact settled cancelled
  | cancelled => exact settled _
  | failed => exact settled _
  | deadlineExceeded => exact settled _

theorem closeConnection_connected (sound : unit.Sound) {call : DriverCall} (closed : unit.connection = true → call = .done) :
    (unit.closeConnection call).database.connected = false := by
  rw [closeConnection]
  split
  · rename_i held
    rw [closed held, UnitDatabase.close_connected]
    exact Bool.and_false _
  · rename_i released
    exact Bool.eq_false_iff.mpr fun connected => released (sound.held connected)

theorem error_eq_none {call : DriverCall} : call.error = none ↔ call = .done := by
  cases call <;> simp [DriverCall.error]

theorem wrapped_eq_none {call : DriverCall} : call.wrapped = none ↔ call = .done := by
  cases call <;> simp [DriverCall.wrapped]

/-- A cleanup does not fail exactly when the calls that it makes return. -/
theorem cleanupFailure_eq_none {attempted connection : Bool} {rollback close : Option CleanupError} :
    cleanupFailure (if attempted then rollback else none) (if connection then close else none) = none ↔
      (attempted = true → rollback = none) ∧ (connection = true → close = none) := by
  rw [cleanupFailure, Option.or_eq_none_iff]
  cases attempted <;> cases connection <;> simp

section

variable (sound : unit.Sound)
include sound

/-- A finalizer without an error has rolled an open transaction back and closed the connection. -/
theorem finalize_clean {cleanup : CleanupRun} (clean : (unit.finalize cleanup).2 = none) :
    (unit.finalize cleanup).1.database.connected = false ∧
      (unit.mustRollback = true → (unit.finalize cleanup).1.database.transaction = .rolledBack) := by
  cases cleanup with
  | late rollback => cases rollback <;> cases clean
  | finished rollback close woken =>
    obtain ⟨rolled, closed⟩ := cleanupFailure_eq_none.mp clean
    rw [wrapped_eq_none] at rolled
    rw [error_eq_none] at closed
    rw [finalize]
    by_cases required : unit.mustRollback = true
    · rw [if_pos required]
      refine ⟨closeConnection_connected (sound.rollbackTransaction required rollback) closed, fun _ => ?_⟩
      rw [closeConnection_transaction, rollbackTransaction_database, UnitDatabase.rollback_transaction, rolled required,
        if_pos ⟨rfl, sound.opened required⟩]
    · rw [if_neg required]
      exact ⟨closeConnection_connected sound closed, fun wanted => absurd wanted required⟩

/-- A finalizer settles the transaction as soon as one of its calls takes effect. -/
theorem finalize_settled (required : unit.mustRollback = true) {rollback close : DriverCall} (woken : Bool)
    (effective : rollback.effective = true ∨ close.effective = true) :
    (unit.finalize (.finished rollback close woken)).1.database.Settled := by
  rw [finalize]
  rw [if_pos required]
  obtain rolled | closed := effective
  · left
    rw [closeConnection_transaction, rollbackTransaction_database, UnitDatabase.rollback_transaction,
      if_pos ⟨rolled, sound.opened required⟩]
    decide
  · right
    rw [closeConnection]
    split
    · rw [UnitDatabase.close_connected, closed]
      exact Bool.and_false _
    · rename_i released
      exact Bool.eq_false_iff.mpr fun connected => released ((sound.rollbackTransaction required rollback).held connected)

theorem rollbackAndCloseAfterFailedEnter_clean (failed : unit.state = .failed) {cleanup : CleanupRun}
    (clean : (unit.rollbackAndCloseAfterFailedEnter cleanup).2 = none) :
    (unit.rollbackAndCloseAfterFailedEnter cleanup).1.database.connected = false := by
  cases cleanup with
  | late rollback => cases rollback <;> cases clean
  | finished rollback close woken =>
    obtain ⟨_, closed⟩ := cleanupFailure_eq_none.mp clean
    rw [error_eq_none] at closed
    rw [rollbackAndCloseAfterFailedEnter]
    by_cases held : unit.transaction = true
    · rw [if_pos held]
      exact closeConnection_connected (sound.rolled failed rollback) closed
    · rw [if_neg held]
      exact closeConnection_connected sound closed

/-- A marked unit can no longer commit. -/
theorem marked_finished (repositories : unit.auditEvents = true) : (unit.step .markRollbackRequired).Finished := by
  have entered := sound.entered repositories
  rw [step, PostgresUnitOfWork.call, if_pos repositories, markRollbackRequired]
  split
  · exact ⟨UnitState.noConfusion, UnitState.noConfusion⟩
  · rename_i inactive
    exact ⟨entered, inactive⟩

end

theorem aenter_entered (task : Nat) (failure : Option (EnterStage × EnterFailure)) (effective : Bool) (cleanup : CleanupRun)
    (cancelled : Bool) : (unit.aenter task failure effective cleanup cancelled).1.state ≠ .new := by
  rw [aenter.eq_def]
  split
  · rename_i used
    exact used
  · cases failure with
    | none => exact UnitState.noConfusion
    | some failure =>
      have state : (unit.failedAt effective failure.1).state = .failed := by
        cases failure.1 <;> rfl
      have closed : ((unit.failedAt effective failure.1).rollbackAndCloseAfterFailedEnter cleanup).1.state = .failed := by
        cases cleanup with
        | late rollback => cases rollback <;> rfl
        | finished rollback close woken =>
          rw [rollbackAndCloseAfterFailedEnter]
          rw [closeConnection_state]
          split <;> exact state
      rw [closed]
      exact UnitState.noConfusion

/-- The answer to a failed entry is an exception; without a note the connection is closed, or the exception is the
`TimeoutError` of the cleanup. -/
theorem failedEnterAnswer_noted (failure : EnterFailure) (woken cancelled : Bool) (cleanupError : Option CleanupError) :
    ∃ error noted, failedEnterAnswer failure (awaitFinalizer woken cancelled cleanupError) = .raised error noted ∧
      (noted = false → error = .timeoutError ∨ cleanupError = none) := by
  have settled (cancellation : Bool) : ∃ error noted,
      failedEnterAnswer failure (.ok (cancellation, cleanupError)) = .raised error noted ∧
        (noted = false → error = .timeoutError ∨ cleanupError = none) := by
    refine ⟨_, _, rfl, fun silent => .inr ?_⟩
    rw [Bool.or_eq_false_iff, Option.isSome_eq_false_iff, Option.isNone_iff_eq_none] at silent
    exact silent.2
  cases cleanupError with
  | none => exact settled cancelled
  | some error =>
    cases error with
    | timedOut =>
      cases woken with
      | true => exact ⟨.timeoutError, false, rfl, fun _ => .inl rfl⟩
      | false => exact settled cancelled
    | cancelled => exact settled _
    | failed => exact settled _
    | deadlineExceeded => exact settled _

/-- In every sequence of calls only an admitted commit commits, a marked unit never does, an exit by another task is refused,
every exit without a commit cleans up or reports that it did not, an ended unit stays ended, and a unit is entered once. -/
theorem unit_of_work_never_commits_doomed (calls : List UnitCall) :
    (∀ call, (init.run calls).database.transaction ≠ .committed →
      ((init.run calls).step call).database.transaction = .committed →
      ∃ task driver, call = .commit task driver ∧ (init.run calls).state = .active ∧ (init.run calls).ownerTask = some task) ∧
    ((init.run calls).auditEvents = true → (init.run calls).database.transaction ≠ .committed → ∀ more,
      (((init.run calls).step .markRollbackRequired).run more).database.transaction ≠ .committed) ∧
    (∀ task raising cleanup cancelled,
      ((init.run calls).ownerTask ≠ some task → (init.run calls).aexit task raising cleanup cancelled =
        (init.run calls, .raised (.runtimeError (ascii "unit of work cannot be shared across tasks")) false)) ∧
      (¬ Reported ((init.run calls).aexit task raising cleanup cancelled).2 →
        ((init.run calls).aexit task raising cleanup cancelled).1.database.connected = false ∧
          ((init.run calls).mustRollback = true →
            ((init.run calls).aexit task raising cleanup cancelled).1.database.transaction = .rolledBack)) ∧
      ∀ rollback close woken, (init.run calls).ownerTask = some task → cleanup = .finished rollback close woken →
        (init.run calls).mustRollback = true → rollback.effective = true ∨ close.effective = true →
        ((init.run calls).aexit task raising cleanup cancelled).1.database.Settled) ∧
    (∀ task failure effective cleanup cancelled, (init.run calls).state = .new →
      ∃ error noted, ((init.run calls).aenter task (some failure) effective cleanup cancelled).2 = .raised error noted ∧
        (noted = false → error = .timeoutError ∨
          ((init.run calls).aenter task (some failure) effective cleanup cancelled).1.database.connected = false)) ∧
    ((init.run calls).Ended → ∀ more, ((init.run calls).run more).Ended) ∧
    (∀ task failure effective cleanup cancelled,
      ((init.run calls).aenter task failure effective cleanup cancelled).1.state ≠ .new ∧
        ((init.run calls).state ≠ .new → (init.run calls).aenter task failure effective cleanup cancelled =
          (init.run calls, .raised (.runtimeError (ascii "unit of work cannot be reused")) false))) := by
  have sound : (init.run calls).Sound := run_sound calls init sound_init
  generalize init.run calls = unit at sound
  refine ⟨fun call => step_commits, ?_, ?_, ?_, fun ended more => run_ended more unit ended, ?_⟩
  · intro repositories uncommitted more
    refine run_uncommitted more _ (marked_finished sound repositories) ?_
    rw [step, PostgresUnitOfWork.call, if_pos repositories, markRollbackRequired_database]
    exact uncommitted
  · intro task raising cleanup cancelled
    have refused (foreign : unit.ownerTask ≠ some task) : unit.aexit task raising cleanup cancelled =
        (unit, .raised (.runtimeError (ascii "unit of work cannot be shared across tasks")) false) := by
      rw [aexit, if_pos foreign]
    refine ⟨refused, fun silent => ?_, fun rollback close woken owner finished required effective => ?_⟩
    · by_cases owner : unit.ownerTask = some task
      · rw [aexit, if_neg (not_not.mpr owner)] at silent ⊢
        cases failure : (unit.finalize cleanup).2 with
        | none => exact finalize_clean sound failure
        | some error =>
          refine absurd ?_ silent
          dsimp only
          rw [failure]
          exact exitAnswer_reported _ _ _ _ error
      · rw [refused owner] at silent
        exact absurd trivial silent
    · subst finished
      rw [aexit, if_neg (not_not.mpr owner)]
      exact finalize_settled sound required woken effective
  · intro task failure effective cleanup cancelled fresh
    rw [aenter.eq_def, if_neg (not_not.mpr fresh)]
    obtain ⟨error, noted, answer, silent⟩ := failedEnterAnswer_noted failure.2 cleanup.woken cancelled
      ((unit.failedAt effective failure.1).rollbackAndCloseAfterFailedEnter cleanup).2
    refine ⟨error, noted, answer, fun unnoted => (silent unnoted).imp_right fun clean => ?_⟩
    have state : (unit.failedAt effective failure.1).state = .failed := by
      cases failure.1 <;> rfl
    exact rollbackAndCloseAfterFailedEnter_clean (sound_failedAt effective failure.1 fresh sound) state clean
  · intro task failure effective cleanup cancelled
    refine ⟨aenter_entered task failure effective cleanup cancelled, fun used => ?_⟩
    rw [aenter.eq_def, if_pos used]

/-- A driver whose rollback and close both fail leaves the transaction open on an open connection after an exit. An entry
whose connection cannot be closed in time for the driver raises the driver's `TimeoutError` without a note. -/
theorem exit_leaves_open_transaction :
    ((init.run [.enter 0 none false (.finished .done .done true) false]).aexit 0 false
        (.finished (.failed false) (.failed false) true) false).1.database = ⟨.open_, true⟩ ∧
      ¬ ((init.run [.enter 0 none false (.finished .done .done true) false]).aexit 0 false
        (.finished (.failed false) (.failed false) true) false).1.database.Settled ∧
      (init.aenter 0 (some (.configure, .other)) false (.finished .done (.timedOut false) true) false).2 =
        .raised .timeoutError false ∧
      (init.aenter 0 (some (.configure, .other)) false (.finished .done (.timedOut false) true) false).1.database =
        ⟨.absent, true⟩ := by
  refine ⟨by decide, fun settled => ?_, by decide, by decide⟩
  obtain closed | closed := settled
  · exact closed (by decide)
  · exact absurd closed (by decide)

end PostgresUnitOfWork

end CiCoordinator.Persistence

import CiCoordinator.ControlPlaneIdentity.Session
import CiCoordinator.Library.Retention
import Mathlib.Data.Prod.Lex

/- The transactions on the sessions of the control plane and on the replays of logout tokens. -/

namespace CiCoordinator.Persistence

open Library Kernel ControlPlaneIdentity List

/-- The identity of a token that has ended sessions. -/
structure LogoutReplayRow where
  issuer : Text
  tokenId : Text
  retainUntil : Instant
  deriving DecidableEq

/-- The tables of sessions and of replays. -/
structure IdentityStore where
  sessions : List ControlPlaneSessionRecord
  replays : List LogoutReplayRow

def maxSessionsPerIdentity : Nat :=
  8

def expiredCleanupLimit : Nat :=
  128

/-- The times that the database reads in the statements of a transaction. -/
structure StatementClock where
  first : Instant
  second : Instant
  third : Instant
  ordered : first ≤ second ∧ second ≤ third
  deriving DecidableEq

inductive BackChannelLogoutMutation where
  | applied (deletedSessionCount : Nat)
  | replay
  deriving DecidableEq

section Sessions

/-- A session belongs to the identity of another one. -/
def SameIdentity (self record : ControlPlaneSessionRecord) : Prop :=
  self.issuer = record.issuer ∧ self.subject = record.subject

instance (self record : ControlPlaneSessionRecord) : Decidable (SameIdentity self record) :=
  inferInstanceAs (Decidable (_ ∧ _))

variable (self : ControlPlaneSessionRecord)

/-- A session is one of those that a logout token is about. -/
def Targeted (evidence : BackChannelLogoutEvidence) : Prop :=
  self.issuer = evidence.issuer ∧ (∀ sid ∈ evidence.target.keycloakSessionId, self.keycloakSessionId = sid) ∧
    ∀ subject ∈ evidence.target.subject, self.subject = subject

instance (self : ControlPlaneSessionRecord) (evidence : BackChannelLogoutEvidence) : Decidable (Targeted self evidence) :=
  inferInstanceAs (Decidable (_ ∧ _ ∧ _))

/-- Sessions age by the time of their issue and then by their digests. -/
def sessionAge : Instant ×ₗ List Nat :=
  toLex (self.issuedAt, self.handleDigest)

/-- Expired sessions are removed in this order. -/
def sessionExpiry : Instant ×ₗ List Nat :=
  toLex (self.expiresAt, self.handleDigest)

end Sessions

namespace LogoutReplayRow

def expiry (self : LogoutReplayRow) : Instant ×ₗ Text ×ₗ Text :=
  toLex (self.retainUntil, toLex (self.issuer, self.tokenId))

/-- A row is about the token of some evidence. -/
def Names (self : LogoutReplayRow) (evidence : BackChannelLogoutEvidence) : Prop :=
  self.issuer = evidence.issuer ∧ self.tokenId = evidence.tokenId

instance (self : LogoutReplayRow) (evidence : BackChannelLogoutEvidence) : Decidable (self.Names evidence) :=
  inferInstanceAs (Decidable (_ ∧ _))

end LogoutReplayRow

section Cleanup

variable (sessions : List ControlPlaneSessionRecord)

/-- The expired sessions that one cleanup removes. -/
def expiredSessions (now : Instant) : List ControlPlaneSessionRecord :=
  (sortBy sessionExpiry (sessions.filter fun session => decide (session.expiresAt ≤ now))).take expiredCleanupLimit

/-- A deletion of the sessions with given digests. -/
def deleteDigests (digests : List (List Nat)) (sessions : List ControlPlaneSessionRecord) : List ControlPlaneSessionRecord :=
  deleteWhere (fun session => session.handleDigest ∈ digests) sessions

def cleanupExpiredSessions (now : Instant) : List ControlPlaneSessionRecord :=
  deleteDigests ((expiredSessions sessions now).map fun session => session.handleDigest) sessions

/-- The sessions of an identity that a new one evicts. -/
def overflow (record : ControlPlaneSessionRecord) : List ControlPlaneSessionRecord :=
  beyondNewest sessionAge (maxSessionsPerIdentity - 1) (sessions.filter fun session => decide (SameIdentity session record))

variable (replays : List LogoutReplayRow)

/-- The expired replays that one cleanup removes. -/
def expiredReplays (now : Instant) : List LogoutReplayRow :=
  (sortBy LogoutReplayRow.expiry (replays.filter fun row => decide (row.retainUntil ≤ now))).take expiredCleanupLimit

def cleanupExpiredReplays (now : Instant) : List LogoutReplayRow :=
  deleteWhere (fun row => (row.issuer, row.tokenId) ∈ (expiredReplays replays now).map fun expired => (expired.issuer, expired.tokenId))
    replays

end Cleanup

namespace IdentityStore

def empty : IdentityStore :=
  ⟨[], []⟩

/-- A session is current at an instant. -/
def CurrentAt (record : ControlPlaneSessionRecord) (now : Instant) : Prop :=
  record.issuedAt ≤ now ∧ now < record.expiresAt

instance (record : ControlPlaneSessionRecord) (now : Instant) : Decidable (CurrentAt record now) :=
  inferInstanceAs (Decidable (_ ∧ _))

variable (store : IdentityStore) (previousHandleDigest : Option (List Nat))

/-- The sessions that a new one finds. -/
def retained (record : ControlPlaneSessionRecord) (now : Instant) : List ControlPlaneSessionRecord :=
  let swept := cleanupExpiredSessions store.sessions now
  let others := deleteWhere (fun session => previousHandleDigest = some session.handleDigest) swept
  deleteDigests ((overflow others record).map fun session => session.handleDigest) others

/-- A login stores its session in the place of the previous one, or the transaction is rolled back. -/
def replace (record : ControlPlaneSessionRecord) (clock : StatementClock) : Except Text IdentityStore := do
  raiseIf (¬ CurrentAt record clock.first) (ascii "control-plane session is outside the database clock window")
  let others := store.retained previousHandleDigest record clock.second
  raiseIf (¬ CurrentAt record clock.third) (ascii "control-plane session expired before insertion")
  raiseIf (∃ session ∈ others, session.handleDigest = record.handleDigest)
    (ascii "control-plane session conflicts with retained state")
  return ⟨others ++ [record], store.replays⟩

/-- A session is loaded as long as it has not expired; an expired one is removed. -/
def load (handleDigest : List Nat) (clock : StatementClock) :
    IdentityStore × Option ControlPlaneSessionRecord :=
  match store.sessions.find? fun session => decide (session.handleDigest = handleDigest) with
  | none => (store, none)
  | some record =>
    if clock.first < record.expiresAt then (store, some record)
    else
      let chosen := fun session : ControlPlaneSessionRecord => session.handleDigest = handleDigest ∧ session.expiresAt ≤ clock.second
      (⟨deleteWhere chosen store.sessions, store.replays⟩, none)

def delete (handleDigest : List Nat) : IdentityStore :=
  ⟨deleteWhere (fun session => session.handleDigest = handleDigest) store.sessions, store.replays⟩

variable (evidence : BackChannelLogoutEvidence)

/-- The replays that a token finds. -/
def remembered (clock : StatementClock) : List LogoutReplayRow :=
  deleteWhere (fun row => row.Names evidence ∧ row.retainUntil ≤ clock.second) (cleanupExpiredReplays store.replays clock.first)

/-- A token that is not remembered is, and ends the sessions that it is about. -/
def consumeAndDelete (replayRetainedUntil : Instant)
    (clock : StatementClock) : Py (IdentityStore × BackChannelLogoutMutation) := do
  valueErrorIf (replayRetainedUntil < evidence.expiresAt) (ascii "logout replay retention cannot precede token expiry")
  let replays := store.remembered evidence clock
  if replayRetainedUntil ≤ clock.third ∨ ∃ row ∈ replays, row.Names evidence then
    return (⟨store.sessions, replays⟩, .replay)
  else
    let kept := deleteWhere (fun session => Targeted session evidence) store.sessions
    return (⟨kept, replays ++ [⟨evidence.issuer, evidence.tokenId, replayRetainedUntil⟩]⟩,
      .applied (store.sessions.length - kept.length))

end IdentityStore

/-- The sessions of an identity. -/
def sessionsOf (sessions : List ControlPlaneSessionRecord) (issuer subject : Text) : List ControlPlaneSessionRecord :=
  sessions.filter fun session => decide (session.issuer = issuer ∧ session.subject = subject)

/-- Digests and tokens are the keys of the tables, and an identity has no more sessions than are admitted. -/
structure IdentityStore.Sound (store : IdentityStore) : Prop where
  sessions : Keyed (fun session : ControlPlaneSessionRecord => session.handleDigest) store.sessions
  replays : Keyed (fun row : LogoutReplayRow => (row.issuer, row.tokenId)) store.replays
  bounded : ∀ issuer subject, (sessionsOf store.sessions issuer subject).length ≤ maxSessionsPerIdentity

section Deletions

variable {store : IdentityStore} {sessions fewer : List ControlPlaneSessionRecord} {record session : ControlPlaneSessionRecord}
  {previous : Option (List Nat)} {now : Instant}

theorem sessionsOf_length_le (fewerSessions : fewer.Sublist sessions) (issuer subject : Text) :
    (sessionsOf fewer issuer subject).length ≤ (sessionsOf sessions issuer subject).length :=
  (fewerSessions.filter _).length_le

/-- Fewer rows are sound as well. -/
theorem IdentityStore.Sound.sublist {replays : List LogoutReplayRow} (sound : store.Sound)
    (fewerSessions : fewer.Sublist store.sessions) (fewerReplays : replays.Sublist store.replays) :
    IdentityStore.Sound ⟨fewer, replays⟩ where
  sessions := sound.sessions.sublist (fewerSessions.map _)
  replays := sound.replays.sublist (fewerReplays.map _)
  bounded := fun issuer subject => (sessionsOf_length_le fewerSessions issuer subject).trans (sound.bounded issuer subject)

/-- A deletion by digests takes exactly the rows with those digests. -/
theorem mem_deleteDigests {chosen : List ControlPlaneSessionRecord}
    (keyed : Keyed (fun session : ControlPlaneSessionRecord => session.handleDigest) sessions)
    (among : ∀ found ∈ chosen, found ∈ sessions) :
    session ∈ deleteDigests (chosen.map (·.handleDigest)) sessions ↔ session ∈ sessions ∧ session ∉ chosen := by
  rw [deleteDigests, mem_deleteWhere]
  refine and_congr_right fun member => not_congr ⟨fun same => ?_, fun found => mem_map_of_mem found⟩
  obtain ⟨found, inside, equal⟩ := mem_map.mp same
  exact keyed.eq_of_key (among found inside) member equal ▸ inside

theorem mem_expiredSessions (expired : session ∈ expiredSessions sessions now) : session ∈ sessions ∧ session.expiresAt ≤ now := by
  obtain ⟨member, late⟩ := mem_filter.mp (mem_sortBy.mp (mem_of_mem_take expired))
  exact ⟨member, of_decide_eq_true late⟩

theorem mem_overflow (evicted : session ∈ overflow sessions record) : session ∈ sessions ∧ SameIdentity session record := by
  obtain ⟨member, same⟩ := mem_filter.mp (mem_of_mem_beyondNewest evicted)
  exact ⟨member, of_decide_eq_true same⟩

/-- The sessions that a new one finds before an eviction. -/
def unexpiredOthers (store : IdentityStore) (previous : Option (List Nat)) (now : Instant) : List ControlPlaneSessionRecord :=
  deleteWhere (fun session => previous = some session.handleDigest) (cleanupExpiredSessions store.sessions now)

theorem unexpiredOthers_sublist : (unexpiredOthers store previous now).Sublist store.sessions :=
  filter_sublist.trans filter_sublist

theorem retained_sublist : (store.retained previous record now).Sublist store.sessions :=
  filter_sublist.trans unexpiredOthers_sublist

section

variable (sound : store.Sound)
include sound

theorem unexpiredOthers_keyed :
    Keyed (fun session : ControlPlaneSessionRecord => session.handleDigest) (unexpiredOthers store previous now) :=
  sound.sessions.sublist (unexpiredOthers_sublist.map _)

/-- The retained sessions are the others without the evicted ones. -/
theorem retained_eq : store.retained previous record now =
      deleteWhere (fun row => row ∈ overflow (unexpiredOthers store previous now) record) (unexpiredOthers store previous now) := by
  refine filter_congr fun row member => decide_eq_decide.mpr (not_congr ⟨fun same => ?_, fun evicted => ?_⟩)
  · obtain ⟨found, evicted, equal⟩ := mem_map.mp same
    exact (unexpiredOthers_keyed sound).eq_of_key (mem_overflow evicted).1 member equal ▸ evicted
  · exact mem_map_of_mem evicted

theorem mem_retained : session ∈ store.retained previous record now ↔
      session ∈ unexpiredOthers store previous now ∧ session ∉ overflow (unexpiredOthers store previous now) record := by
  rw [retained_eq sound, mem_deleteWhere]

/-- The new session has room among those of its identity. -/
theorem retained_length_lt :
    (sessionsOf (store.retained previous record now) record.issuer record.subject).length < maxSessionsPerIdentity := by
  rw [retained_eq sound, sessionsOf, deleteWhere, filter_comm]
  exact Nat.lt_of_le_of_lt length_deleteWhere_beyondNewest (by decide)

/-- A session that is gone has expired, is the previous one or is the oldest of too many. -/
theorem retained_removes (member : session ∈ store.sessions) (gone : session ∉ store.retained previous record now) :
    session.expiresAt ≤ now ∨ previous = some session.handleDigest ∨
      SameIdentity session record ∧ maxSessionsPerIdentity ≤ (sessionsOf store.sessions record.issuer record.subject).length ∧
        ∀ kept ∈ store.retained previous record now, SameIdentity kept record → sessionAge session ≤ sessionAge kept := by
  by_cases other : session ∈ unexpiredOthers store previous now
  · have evicted : session ∈ overflow (unexpiredOthers store previous now) record := by
      by_contra stays
      exact gone ((mem_retained sound).mpr ⟨other, stays⟩)
    refine .inr (.inr ⟨(mem_overflow evicted).2, ?_, fun kept inside same => ?_⟩)
    · exact (lt_length_of_mem_beyondNewest evicted).trans_le (sessionsOf_length_le unexpiredOthers_sublist _ _)
    · obtain ⟨unexpired, stays⟩ := (mem_retained sound).mp inside
      exact beyondNewest_le evicted (mem_filter.mpr ⟨unexpired, decide_eq_true same⟩) stays
  · by_cases expired : session ∈ expiredSessions store.sessions now
    · exact .inl (mem_expiredSessions expired).2
    · refine .inr (.inl ?_)
      by_contra differs
      refine other (mem_deleteWhere.mpr ⟨?_, differs⟩)
      exact (mem_deleteDigests sound.sessions fun _ found => (mem_expiredSessions found).1).mpr ⟨member, expired⟩

end

end Deletions

section Operations

variable {store next : IdentityStore} {record session : ControlPlaneSessionRecord} {previous : Option (List Nat)}
  {handleDigest : List Nat} {clock : StatementClock} {evidence : BackChannelLogoutEvidence} {retained : Instant} {count : Nat}

theorem replace_eq_ok : store.replace previous record clock = .ok next ↔
    IdentityStore.CurrentAt record clock.first ∧ IdentityStore.CurrentAt record clock.third ∧
      (∀ found ∈ store.retained previous record clock.second, found.handleDigest ≠ record.handleDigest) ∧
        next = ⟨store.retained previous record clock.second ++ [record], store.replays⟩ := by
  simp only [IdentityStore.replace, bind_unit_eq_ok, raiseIf_eq_ok, not_not, not_exists, not_and, pure_eq_ok_iff, ne_eq]
  rw [eq_comm]

theorem load_sublist : (store.load handleDigest clock).1.sessions.Sublist store.sessions := by
  unfold IdentityStore.load
  split
  · exact List.Sublist.refl _
  · split
    · exact List.Sublist.refl _
    · exact filter_sublist

theorem load_replays : (store.load handleDigest clock).1.replays = store.replays := by
  unfold IdentityStore.load
  split
  · rfl
  · split
    · rfl
    · rfl

/-- A session that is loaded is stored and has not expired. -/
theorem load_eq_some (loaded : (store.load handleDigest clock).2 = some record) :
    record ∈ store.sessions ∧ record.handleDigest = handleDigest ∧ clock.first < record.expiresAt := by
  unfold IdentityStore.load at loaded
  split at loaded
  · cases loaded
  · rename_i found search
    split at loaded
    · rename_i current
      obtain rfl := Option.some.inj loaded
      exact ⟨mem_of_find?_eq_some search, of_decide_eq_true (find?_some search :), current⟩
    · cases loaded

theorem remembered_sublist : (store.remembered evidence clock).Sublist store.replays :=
  filter_sublist.trans filter_sublist

/-- A replay is forgotten only after the time for which it is retained. -/
theorem remembered_forgets {row : LogoutReplayRow} (sound : store.Sound) (member : row ∈ store.replays)
    (gone : row ∉ store.remembered evidence clock) : row.retainUntil ≤ clock.second := by
  by_contra kept
  refine gone (mem_deleteWhere.mpr ⟨mem_deleteWhere.mpr ⟨member, fun expired => ?_⟩, fun own => kept own.2⟩)
  obtain ⟨found, inside, same⟩ := mem_map.mp expired
  obtain ⟨among, late⟩ := mem_filter.mp (mem_sortBy.mp (mem_of_mem_take inside))
  obtain rfl := sound.replays.eq_of_key among member same
  exact kept ((of_decide_eq_true late).trans clock.ordered.1)

theorem consumeAndDelete_applied (consumed : store.consumeAndDelete evidence retained clock = .ok (next, .applied count)) :
    clock.third < retained ∧ (∀ row ∈ store.remembered evidence clock, ¬ row.Names evidence) ∧
      next = ⟨deleteWhere (fun session => Targeted session evidence) store.sessions,
        store.remembered evidence clock ++ [⟨evidence.issuer, evidence.tokenId, retained⟩]⟩ := by
  simp only [IdentityStore.consumeAndDelete, bind_unit_eq_ok] at consumed
  replace consumed := consumed.2
  split at consumed
  · cases consumed
  · rename_i new
    rw [not_or, not_le, not_exists] at new
    obtain ⟨rfl, _⟩ := Prod.mk.inj (Except.ok.inj consumed)
    exact ⟨new.1, fun row member named => new.2 row ⟨member, named⟩, rfl⟩

theorem consumeAndDelete_replay (consumed : store.consumeAndDelete evidence retained clock = .ok (next, .replay)) :
    next = ⟨store.sessions, store.remembered evidence clock⟩ := by
  simp only [IdentityStore.consumeAndDelete, bind_unit_eq_ok] at consumed
  replace consumed := consumed.2
  split at consumed
  · exact (Prod.mk.inj (Except.ok.inj consumed)).1.symm
  · cases consumed

theorem sessionsOf_append (sessions added : List ControlPlaneSessionRecord) (issuer subject : Text) :
    sessionsOf (sessions ++ added) issuer subject = sessionsOf sessions issuer subject ++ sessionsOf added issuer subject :=
  filter_append ..

section

variable (sound : store.Sound)
include sound

/-- A login keeps the tables sound. -/
theorem replace_sound (replaced : store.replace previous record clock = .ok next) : next.Sound := by
  obtain ⟨_, _, fresh, rfl⟩ := replace_eq_ok.mp replaced
  have kept : IdentityStore.Sound ⟨store.retained previous record clock.second, store.replays⟩ :=
    sound.sublist retained_sublist (List.Sublist.refl _)
  refine ⟨kept.sessions.insert fresh, sound.replays, fun issuer subject => ?_⟩
  have room : (sessionsOf (store.retained previous record clock.second) record.issuer record.subject).length <
    maxSessionsPerIdentity := retained_length_lt sound
  have others := kept.bounded issuer subject
  dsimp only at others ⊢
  rw [sessionsOf_append, length_append]
  by_cases own : record.issuer = issuer ∧ record.subject = subject
  · obtain ⟨rfl, rfl⟩ := own
    have one : (sessionsOf [record] record.issuer record.subject).length ≤ 1 := length_filter_le _ _
    omega
  · have none : sessionsOf [record] issuer subject = [] := filter_eq_nil_iff.mpr (by simpa using own)
    rw [none, length_nil]
    omega

theorem load_sound : (store.load handleDigest clock).1.Sound :=
  sound.sublist load_sublist (by rw [load_replays])

theorem delete_sound : (store.delete handleDigest).Sound :=
  sound.sublist filter_sublist (List.Sublist.refl _)

/-- A token is remembered by a row of its own. -/
theorem applied_sound (consumed : store.consumeAndDelete evidence retained clock = .ok (next, .applied count)) : next.Sound := by
  obtain ⟨_, fresh, rfl⟩ := consumeAndDelete_applied consumed
  have kept : IdentityStore.Sound ⟨deleteWhere (fun session => Targeted session evidence) store.sessions,
    store.remembered evidence clock⟩ := sound.sublist filter_sublist remembered_sublist
  refine ⟨kept.sessions, kept.replays.insert fun row member same => fresh row member ?_, kept.bounded⟩
  exact Prod.mk.inj same

theorem replay_sound (consumed : store.consumeAndDelete evidence retained clock = .ok (next, .replay)) : next.Sound := by
  obtain rfl := consumeAndDelete_replay consumed
  exact sound.sublist (List.Sublist.refl _) remembered_sublist

end

end Operations

end CiCoordinator.Persistence

import CiCoordinator.Persistence.ControlPlaneSessionRepository

/- The runs of logins, authentications and logouts, and what holds of the sessions in every run. -/

namespace CiCoordinator.Persistence

open Library Kernel ControlPlaneIdentity ControlPlaneIdentityCrypto List

/-- A login whose code has been exchanged for evidence, and the session that it has been issued. -/
structure Login where
  evidence : KeycloakBrowserEvidence
  handle : Text
  record : ControlPlaneSessionRecord
  previousHandleDigest : Option (List Nat)
  deriving DecidableEq

/-- The store, the clock of the database, the logins that are still in flight and what the run has done so far. -/
structure IdentityState where
  store : IdentityStore
  clock : Instant
  generated : List Text
  pending : List Login
  completed : List Login
  live : List Login
  applied : List BackChannelLogoutEvidence

namespace IdentityState

def start (clock : Instant) : IdentityState :=
  ⟨.empty, clock, [], [], [], [], []⟩

variable (state : IdentityState)

/-- The completed logins whose sessions are among given ones. -/
def surviving (sessions : List ControlPlaneSessionRecord) : List Login :=
  state.live.filter fun login => decide (login.record ∈ sessions)

/-- The state after a transaction that adds no session. -/
def after (store : IdentityStore) (clock : Instant) : IdentityState :=
  { state with store := store, clock := clock, live := state.surviving store.sessions }

/-- The state after a login has been prepared. -/
def preparing (login : Login) : IdentityState :=
  { state with generated := login.handle :: state.generated, pending := login :: state.pending }

/-- The state after a login has stored its session. -/
def completing (login : Login) (clock : StatementClock) (store : IdentityStore) : IdentityState :=
  { state with
    store := store
    clock := clock.third
    pending := state.pending.erase login
    completed := login :: state.completed
    live := state.surviving (state.store.retained login.previousHandleDigest login.record clock.second) ++ [login] }

/-- The state after a token has ended the sessions that it is about. -/
def applying (evidence : BackChannelLogoutEvidence) (store : IdentityStore) (clock : Instant) : IdentityState :=
  { state.after store clock with applied := evidence :: state.applied }

end IdentityState

section Runs

variable (policy : BrowserIdentityPolicy) (crypto : ControlPlaneIdentityCrypto)

/-- What each of the calls can do in one of its transactions. -/
inductive IdentityStep (state : IdentityState) : IdentityState → Prop
  | waited {later : Instant} (forward : state.clock ≤ later) : IdentityStep state { state with clock := later }
  | prepared {code text cookie previous : Option Text} {callbackNow applicationNow laterNow : Instant} {admittedCode : Text}
      {transaction : BrowserOAuthTransaction} {evidence : KeycloakBrowserEvidence} {random : List Nat} {handle : Text}
      {record : ControlPlaneSessionRecord}
      (callback : admitCallback policy crypto code text cookie callbackNow = .ok (admittedCode, transaction))
      (issued : prepareLogin policy crypto evidence applicationNow state.clock laterNow random = .ok (some (handle, record)))
      (fresh : handle ∉ state.generated) :
      IdentityStep state (state.preparing ⟨evidence, handle, record, previous.bind crypto.handleDigest⟩)
  | stored {login : Login} {clock : StatementClock} {store : IdentityStore} (waiting : login ∈ state.pending)
      (forward : state.clock ≤ clock.first)
      (replaced : state.store.replace login.previousHandleDigest login.record clock = .ok store) :
      IdentityStep state (state.completing login clock store)
  | loaded {handle : Text} {handleDigest : List Nat} {clock : StatementClock} (forward : state.clock ≤ clock.first)
      (named : crypto.handleDigest handle = some handleDigest) :
      IdentityStep state (state.after (state.store.load handleDigest clock).1 clock.third)
  | deleted {handle : Text} {handleDigest : List Nat} (named : crypto.handleDigest handle = some handleDigest) :
      IdentityStep state (state.after (state.store.delete handleDigest) state.clock)
  | loggedOut {evidence : BackChannelLogoutEvidence} {now retained : Instant} {clock : StatementClock} {store : IdentityStore}
      {count : Nat} (forward : state.clock ≤ clock.first) (admitted : admitLogout policy evidence now = .ok (some retained))
      (consumed : state.store.consumeAndDelete evidence retained clock = .ok (store, .applied count)) :
      IdentityStep state (state.applying evidence store clock.third)
  | replayed {evidence : BackChannelLogoutEvidence} {now retained : Instant} {clock : StatementClock} {store : IdentityStore}
      (forward : state.clock ≤ clock.first) (admitted : admitLogout policy evidence now = .ok (some retained))
      (consumed : state.store.consumeAndDelete evidence retained clock = .ok (store, .replay)) :
      IdentityStep state (state.after store clock.third)

/-- The calls run in any order, one transaction after another. -/
inductive IdentityRun (origin : IdentityState) : IdentityState → Prop
  | refl : IdentityRun origin origin
  | step {state next : IdentityState} (run : IdentityRun origin state) (step : IdentityStep policy crypto state next) :
      IdentityRun origin next

/-- The answer to a handle whose session is loaded from a store. -/
def authenticate (store : IdentityStore) (sessionHandle : Option Text) (clock : StatementClock) (now : Instant) :
    BrowserAuthenticationResult :=
  match sessionHandle with
  | none => .rejected .unauthenticated
  | some handle =>
    match crypto.handleDigest handle with
    | none => .rejected .unauthenticated
    | some handleDigest => (authenticateRecord policy crypto handle (store.load handleDigest clock).2 now).1

end Runs

/-- A session that has been issued for the evidence of a login. -/
structure Issued (policy : BrowserIdentityPolicy) (crypto : ControlPlaneIdentityCrypto) (login : Login) : Prop where
  handle : crypto.handleDigest login.handle = some login.record.handleDigest
  issuer : login.record.issuer = login.evidence.issuer
  subject : login.record.subject = login.evidence.subject
  session : login.record.keycloakSessionId = login.evidence.keycloakSessionId
  roles : login.record.roles = login.evidence.roles
  expiry : login.record.expiresAt ≤ login.evidence.expiresAt
  maximum : login.record.expiresAt.micros ≤ login.record.issuedAt.micros + secondMicros * policy.sessionMaximumSeconds

/-- A principal of the evidence of a login. -/
structure Attested (policy : BrowserIdentityPolicy) (login : Login) (principal : KeycloakHumanPrincipal) : Prop where
  issuer : principal.issuer = login.evidence.issuer
  subject : principal.subject = login.evidence.subject
  session : principal.keycloakSessionId = login.evidence.keycloakSessionId
  roles : principal.roles = login.evidence.roles
  expiry : principal.expiresAt ≤ login.evidence.expiresAt
  maximum : principal.expiresAt.micros ≤ login.record.issuedAt.micros + secondMicros * policy.sessionMaximumSeconds

section Calls

variable {policy : BrowserIdentityPolicy} {crypto : ControlPlaneIdentityCrypto} {evidence : KeycloakBrowserEvidence}
  {applicationNow durableNow laterNow : Instant} {random : List Nat} {handle : Text} {record : ControlPlaneSessionRecord}

theorem issueSession_eq_ok {expiresAt : Instant} {digest : Text}
    (issued : crypto.issueSession evidence durableNow expiresAt digest random = .ok (handle, record)) :
    ∃ handleDigest admitted, crypto.handleDigest handle = some handleDigest ∧
      record = ⟨sessionFields evidence handleDigest durableNow expiresAt digest, admitted⟩ := by
  dsimp only [issueSession] at issued
  split at issued
  · cases issued
  · rename_i handleDigest known
    obtain ⟨made, constructed, same⟩ := bind_eq_ok.mp issued
    obtain ⟨rfl, rfl⟩ := Prod.mk.inj (Except.ok.inj same)
    obtain ⟨admitted, rfl⟩ := construct_eq_ok.mp constructed
    exact ⟨handleDigest, admitted, known, rfl⟩

/-- A prepared login has evidence of the policy's issuer and a session that it bounds. -/
theorem prepareLogin_eq_some (previous : Option (List Nat))
    (prepared : prepareLogin policy crypto evidence applicationNow durableNow laterNow random = .ok (some (handle, record))) :
    Issued policy crypto ⟨evidence, handle, record, previous⟩ ∧ record.issuedAt = durableNow := by
  obtain ⟨_, prepared⟩ := ite_none_eq_some.mp prepared
  obtain ⟨_, _, prepared⟩ := bind_eq_ok.mp prepared
  obtain ⟨_, prepared⟩ := ite_none_eq_some.mp prepared
  obtain ⟨bound, added, prepared⟩ := bind_eq_ok.mp prepared
  obtain ⟨_, prepared⟩ := ite_none_eq_some.mp prepared
  obtain ⟨issued, made, same⟩ := map_eq_ok.mp prepared
  obtain rfl := Option.some.inj same
  obtain ⟨handleDigest, _, known, rfl⟩ := issueSession_eq_ok made
  have bounded := Instant.le_def.mp (min_le_right evidence.expiresAt bound)
  exact ⟨⟨known, rfl, rfl, rfl, rfl, min_le_left _ _, bounded.trans_eq (addSeconds_eq_ok.mp added)⟩, rfl⟩

theorem restoreHumanPrincipal_eq_some {principal : KeycloakHumanPrincipal}
    (restored : crypto.restoreHumanPrincipal handle record = some principal) :
    crypto.handleDigest handle = some record.handleDigest ∧
      principal.toKeycloakHumanPrincipalFields = principalFields handle record := by
  unfold restoreHumanPrincipal at restored
  split at restored
  · rename_i known
    obtain ⟨_, rfl⟩ := construct_eq_ok.mp (toOption_eq_some.mp restored)
    exact ⟨known, rfl⟩
  · cases restored

/-- Who is authenticated shows the handle of a stored session, and is who the session says. -/
theorem authenticate_eq_authenticated {store : IdentityStore} {sessionHandle : Option Text} {clock : StatementClock} {now : Instant}
    {principal : KeycloakHumanPrincipal}
    (answer : authenticate policy crypto store sessionHandle clock now = .authenticated principal) :
    ∃ handle record, sessionHandle = some handle ∧ record ∈ store.sessions ∧ crypto.handleDigest handle = some record.handleDigest ∧
      principal.toKeycloakHumanPrincipalFields = principalFields handle record ∧ clock.first < record.expiresAt := by
  cases sessionHandle with
  | none => cases answer
  | some handle =>
    dsimp only [authenticate] at answer
    split at answer
    · cases answer
    · rename_i handleDigest known
      cases loaded : (store.load handleDigest clock).2 with
      | none =>
        rw [loaded] at answer
        cases answer
      | some record =>
        rw [loaded] at answer
        obtain ⟨member, _, current⟩ := load_eq_some loaded
        unfold authenticateRecord at answer
        dsimp only at answer
        split at answer
        · cases answer
        · split at answer
          · cases answer
          · split at answer
            · cases answer
            · rename_i found restored
              obtain rfl := BrowserAuthenticationResult.authenticated.inj answer
              obtain ⟨own, fields⟩ := restoreHumanPrincipal_eq_some restored
              exact ⟨handle, record, rfl, member, own, fields, current⟩

theorem admitLogout_eq_some {logout : BackChannelLogoutEvidence} {now retained : Instant}
    (admitted : admitLogout policy logout now = .ok (some retained)) : logoutRetention policy logout = .ok retained := by
  simp only [admitLogout, ite_none_eq_some, bind_eq_ok] at admitted
  obtain ⟨_, _, _, _, _, _, _, _, _, _, _, _, answer⟩ := admitted
  obtain ⟨_, computed, same⟩ := map_eq_ok.mp answer
  exact Option.some.inj same ▸ computed

end Calls

/-- Two tokens have the same identity. -/
def SameToken (first second : BackChannelLogoutEvidence) : Prop :=
  first.issuer = second.issuer ∧ first.tokenId = second.tokenId

/-- The identity of a token is retained for less time than the identity of another one. -/
def RetainedBefore (policy : BrowserIdentityPolicy) (first second : BackChannelLogoutEvidence) : Prop :=
  ∃ early late, logoutRetention policy first = .ok early ∧ logoutRetention policy second = .ok late ∧ early < late

/-- Of two applied tokens with the same identity the later one has been issued to be retained for longer. -/
def AppliedOnce (policy : BrowserIdentityPolicy) (applied : List BackChannelLogoutEvidence) : Prop :=
  applied.Pairwise fun later earlier => SameToken earlier later → RetainedBefore policy earlier later

/-- A token is remembered as long as it could be shown again. -/
def Remembered (policy : BrowserIdentityPolicy) (state : IdentityState) (evidence : BackChannelLogoutEvidence) : Prop :=
  ∃ retained, logoutRetention policy evidence = .ok retained ∧
    (retained ≤ state.clock ∨ (⟨evidence.issuer, evidence.tokenId, retained⟩ : LogoutReplayRow) ∈ state.store.replays)

/-- The stored sessions are the ones of completed logins, each with a handle of its own, and applied tokens are remembered. -/
structure IdentityState.Sound (policy : BrowserIdentityPolicy) (crypto : ControlPlaneIdentityCrypto) (state : IdentityState) :
    Prop where
  store : state.store.Sound
  rows : state.live.map Login.record = state.store.sessions
  issued : ∀ login ∈ state.pending ++ state.completed, Issued policy crypto login ∧ login.record.issuedAt ≤ state.clock
  handles : ((state.pending ++ state.completed).map Login.handle).Nodup
  generated : ∀ login ∈ state.pending ++ state.completed, login.handle ∈ state.generated
  live : ∀ login ∈ state.live, login ∈ state.completed
  remembered : ∀ evidence ∈ state.applied, Remembered policy state evidence
  applied : AppliedOnce policy state.applied

section Steps

variable {policy : BrowserIdentityPolicy} {crypto : ControlPlaneIdentityCrypto} {origin state next : IdentityState}
  {store : IdentityStore} {clock later : Instant}

theorem filter_mem_of_sublist {A : Type} [DecidableEq A] {rows fewer : List A} (distinct : rows.Nodup) (included : fewer.Sublist rows) :
    rows.filter (fun row => decide (row ∈ fewer)) = fewer := by
  induction included with
  | slnil => rfl
  | @cons fewer rows row included ih =>
    obtain ⟨outside, rest⟩ := nodup_cons.mp distinct
    rw [filter_cons_of_neg (by simpa using fun member => outside (included.subset member)), ih rest]
  | @cons_cons fewer rows row included ih =>
    obtain ⟨outside, rest⟩ := nodup_cons.mp distinct
    rw [filter_cons_of_pos (by simp)]
    refine congrArg (row :: ·) ((filter_congr fun other member => ?_).trans (ih rest))
    have differs : other ≠ row := fun same => outside (same ▸ member)
    simp [differs]

/-- The logins that survive are the ones of the rows that stay. -/
theorem surviving_rows (sound : state.Sound policy crypto) {sessions : List ControlPlaneSessionRecord}
    (included : sessions.Sublist state.store.sessions) : (state.surviving sessions).map Login.record = sessions := by
  have distinct : state.store.sessions.Nodup := sound.store.sessions.of_map
  calc (state.surviving sessions).map Login.record
      = (state.live.map Login.record).filter fun record => decide (record ∈ sessions) := by
        rw [IdentityState.surviving, filter_map]
        rfl
    _ = sessions := by rw [sound.rows, filter_mem_of_sublist distinct included]

theorem mem_surviving {sessions : List ControlPlaneSessionRecord} {login : Login} (member : login ∈ state.surviving sessions) :
    login ∈ state.live :=
  mem_of_mem_filter member

/-- A token stays remembered when only expired replays are forgotten. -/
theorem Remembered.after {evidence : BackChannelLogoutEvidence} (remembered : Remembered policy state evidence)
    (forward : state.clock ≤ next.clock)
    (keeps : ∀ row ∈ state.store.replays, row ∈ next.store.replays ∨ row.retainUntil ≤ next.clock) :
    Remembered policy next evidence := by
  obtain ⟨retained, computed, early | row⟩ := remembered
  · exact ⟨retained, computed, .inl (early.trans forward)⟩
  · exact ⟨retained, computed, (keeps _ row).symm⟩

/-- A transaction that only removes rows keeps the state sound. -/
theorem IdentityState.Sound.after (sound : state.Sound policy crypto) (forward : state.clock ≤ clock)
    (included : store.sessions.Sublist state.store.sessions) (kept : store.Sound)
    (keeps : ∀ row ∈ state.store.replays, row ∈ store.replays ∨ row.retainUntil ≤ clock) :
    (state.after store clock).Sound policy crypto where
  __ := sound
  store := kept
  rows := surviving_rows sound included
  issued := fun login member => ⟨(sound.issued login member).1, (sound.issued login member).2.trans forward⟩
  live := fun login member => sound.live login (mem_surviving member)
  remembered := fun evidence member => (sound.remembered evidence member).after forward keeps

theorem IdentityState.Sound.wait (sound : state.Sound policy crypto) (forward : state.clock ≤ later) :
    IdentityState.Sound policy crypto { state with clock := later } where
  __ := sound
  issued := fun login member => ⟨(sound.issued login member).1, (sound.issued login member).2.trans forward⟩
  remembered := fun evidence member => (sound.remembered evidence member).after forward fun _ row => .inl row

theorem IdentityState.Sound.preparing {login : Login} (sound : state.Sound policy crypto) (issued : Issued policy crypto login)
    (issuedAt : login.record.issuedAt = state.clock) (fresh : login.handle ∉ state.generated) :
    (state.preparing login).Sound policy crypto where
  __ := sound
  issued := forall_mem_cons.mpr ⟨⟨issued, issuedAt.le⟩, sound.issued⟩
  handles := by
    refine nodup_cons.mpr ⟨fun used => ?_, sound.handles⟩
    obtain ⟨other, member, same⟩ := mem_map.mp used
    exact fresh (same ▸ sound.generated other member)
  generated := forall_mem_cons.mpr ⟨mem_cons_self, fun other member => mem_cons_of_mem _ (sound.generated other member)⟩

/-- A login that stores its session moves from those in flight to the completed ones. -/
theorem completing_perm {login : Login} {clock : StatementClock} (waiting : login ∈ state.pending) :
    ((state.completing login clock store).pending ++ (state.completing login clock store).completed).Perm
      (state.pending ++ state.completed) :=
  perm_middle.trans (List.Perm.append_right state.completed (perm_cons_erase waiting).symm)

theorem IdentityState.Sound.completing {login : Login} {clock : StatementClock} (sound : state.Sound policy crypto)
    (waiting : login ∈ state.pending) (forward : state.clock ≤ clock.third)
    (replaced : state.store.replace login.previousHandleDigest login.record clock = .ok store) :
    (state.completing login clock store).Sound policy crypto := by
  have kept := replace_sound sound.store replaced
  obtain ⟨_, _, _, rfl⟩ := replace_eq_ok.mp replaced
  refine ⟨kept, ?_, fun other member => ?_, ?_, fun other member => ?_, fun other member => ?_, fun evidence member => ?_,
    sound.applied⟩
  · simp only [IdentityState.completing, map_append, map_cons, map_nil]
    rw [surviving_rows sound retained_sublist]
  · obtain ⟨issued, early⟩ := sound.issued other ((completing_perm waiting).mem_iff.mp member)
    exact ⟨issued, early.trans forward⟩
  · exact ((completing_perm waiting).map _).nodup_iff.mpr sound.handles
  · exact sound.generated other ((completing_perm waiting).mem_iff.mp member)
  · rcases mem_append.mp member with old | new
    · exact mem_cons_of_mem _ (sound.live other (mem_surviving old))
    · exact mem_singleton.mp new ▸ mem_cons_self
  · exact (sound.remembered evidence member).after forward fun _ row => .inl row

/-- A token that is applied is not remembered, so every earlier token with its identity was retained for less time. -/
theorem IdentityState.Sound.applying {evidence : BackChannelLogoutEvidence} {retained : Instant} {clock : StatementClock} {count : Nat}
    (sound : state.Sound policy crypto) (forward : state.clock ≤ clock.first)
    (computed : logoutRetention policy evidence = .ok retained)
    (consumed : state.store.consumeAndDelete evidence retained clock = .ok (store, .applied count)) :
    (state.applying evidence store clock.third).Sound policy crypto := by
  have kept := applied_sound sound.store consumed
  obtain ⟨current, fresh, rfl⟩ := consumeAndDelete_applied consumed
  have late : state.clock ≤ clock.third := forward.trans (clock.ordered.1.trans clock.ordered.2)
  have forgets : ∀ row ∈ state.store.replays, row ∈ state.store.remembered evidence clock ∨ row.retainUntil ≤ clock.third := by
    intro row member
    refine or_iff_not_imp_left.mpr fun gone => ?_
    exact (remembered_forgets sound.store member gone).trans clock.ordered.2
  have rest := sound.after late filter_sublist kept fun row member => (forgets row member).imp_left (mem_append_left _)
  refine ⟨kept, rest.rows, rest.issued, rest.handles, rest.generated, rest.live, ?_, ?_⟩
  · refine forall_mem_cons.mpr ⟨⟨retained, computed, .inr ?_⟩, rest.remembered⟩
    exact mem_append_right _ (mem_singleton_self _)
  · refine pairwise_cons.mpr ⟨fun earlier member same => ?_, sound.applied⟩
    obtain ⟨early, known, expired | row⟩ := sound.remembered earlier member
    · exact ⟨early, retained, known, computed, (expired.trans late).trans_lt current⟩
    · refine ⟨early, retained, known, computed, lt_of_le_of_lt ?_ current⟩
      refine (forgets _ row).resolve_left fun still => fresh _ still ?_
      exact same

theorem IdentityStep.sound (sound : state.Sound policy crypto) (step : IdentityStep policy crypto state next) :
    next.Sound policy crypto := by
  have kept : ∀ row ∈ state.store.replays, row ∈ state.store.replays ∨ row.retainUntil ≤ state.clock := fun _ row => .inl row
  cases step with
  | waited forward => exact sound.wait forward
  | prepared _ issued fresh =>
    obtain ⟨issued, issuedAt⟩ := prepareLogin_eq_some _ issued
    exact sound.preparing issued issuedAt fresh
  | @stored _ clock _ waiting forward replaced =>
    exact sound.completing waiting (forward.trans (clock.ordered.1.trans clock.ordered.2)) replaced
  | @loaded _ _ clock forward _ =>
    refine sound.after (forward.trans (clock.ordered.1.trans clock.ordered.2)) load_sublist (load_sound sound.store) ?_
    rw [load_replays]
    exact fun _ row => .inl row
  | deleted _ => exact sound.after le_rfl filter_sublist (delete_sound sound.store) kept
  | loggedOut forward admitted consumed => exact sound.applying forward (admitLogout_eq_some admitted) consumed
  | @replayed evidence _ _ clock _ forward _ consumed =>
    have sounds := replay_sound sound.store consumed
    obtain rfl := consumeAndDelete_replay consumed
    refine sound.after (forward.trans (clock.ordered.1.trans clock.ordered.2)) (List.Sublist.refl _) sounds fun row member => ?_
    refine or_iff_not_imp_left.mpr fun gone => ?_
    exact (remembered_forgets sound.store member gone).trans clock.ordered.2

theorem IdentityRun.sound (sound : origin.Sound policy crypto) (run : IdentityRun policy crypto origin state) :
    state.Sound policy crypto := by
  induction run with
  | refl => exact sound
  | step _ step ih => exact step.sound ih

theorem start_sound (clock : Instant) : (IdentityState.start clock).Sound policy crypto where
  store := ⟨nodup_nil, nodup_nil, fun _ _ => Nat.zero_le _⟩
  rows := rfl
  issued := forall_mem_nil _
  handles := nodup_nil
  generated := forall_mem_nil _
  live := forall_mem_nil _
  remembered := forall_mem_nil _
  applied := List.Pairwise.nil

/-- What is completed stays completed, and a completed login whose session is gone does not get it back. -/
structure Ends (state next : IdentityState) : Prop where
  completed : ∀ login ∈ state.completed, login ∈ next.completed
  live : ∀ login ∈ state.completed, login ∈ next.live → login ∈ state.live

theorem Ends.of_fewer (completed : next.completed = state.completed) (fewer : ∀ login ∈ next.live, login ∈ state.live) :
    Ends state next :=
  ⟨fun _ member => completed ▸ member, fun login _ member => fewer login member⟩

theorem IdentityStep.ends (sound : state.Sound policy crypto) (step : IdentityStep policy crypto state next) :
    Ends state next := by
  cases step with
  | waited => exact .of_fewer rfl fun _ member => member
  | prepared => exact .of_fewer rfl fun _ member => member
  | @stored login _ _ waiting _ _ =>
    refine ⟨fun _ member => mem_cons_of_mem _ member, fun other done member => ?_⟩
    rcases mem_append.mp member with old | new
    · exact mem_surviving old
    · -- The login that stores its session was still in flight, so it is not a completed one.
      obtain rfl := mem_singleton.mp new
      have apart := (nodup_append.mp (map_append ▸ sound.handles)).2.2
      exact absurd rfl (apart _ (mem_map_of_mem waiting) _ (mem_map_of_mem done))
  | loaded => exact .of_fewer rfl fun _ member => mem_surviving member
  | deleted => exact .of_fewer rfl fun _ member => mem_surviving member
  | loggedOut => exact .of_fewer rfl fun _ member => mem_surviving member
  | replayed => exact .of_fewer rfl fun _ member => mem_surviving member

theorem IdentityRun.ends (sound : origin.Sound policy crypto) (run : IdentityRun policy crypto origin state) : Ends origin state := by
  induction run with
  | refl => exact .of_fewer rfl fun _ member => member
  | step run step ih =>
    have next := step.ends (run.sound sound)
    exact ⟨fun login done => next.completed login (ih.completed login done),
      fun login done member => ih.live login done (next.live login (ih.completed login done) member)⟩

end Steps

section Results

variable {policy : BrowserIdentityPolicy} {crypto : ControlPlaneIdentityCrypto} {state : IdentityState}

theorem attested_of_issued {login : Login} {handle : Text} {principal : KeycloakHumanPrincipal} (issued : Issued policy crypto login)
    (fields : principal.toKeycloakHumanPrincipalFields = principalFields handle login.record) :
    Attested policy login principal := by
  obtain ⟨_, _⟩ := principal
  cases fields
  exact ⟨issued.issuer, issued.subject, issued.session, issued.roles, issued.expiry, issued.maximum⟩

/-- Who is authenticated is the person of a completed login whose session is still stored. -/
theorem live_of_authenticated {sessionHandle : Option Text} {clock : StatementClock} {now : Instant} {principal : KeycloakHumanPrincipal}
    (sound : state.Sound policy crypto)
    (answer : authenticate policy crypto state.store sessionHandle clock now = .authenticated principal) :
    ∃ handle, sessionHandle = some handle ∧ ∃ login ∈ state.live, crypto.handleDigest login.handle = crypto.handleDigest handle ∧
      principal.toKeycloakHumanPrincipalFields = principalFields handle login.record ∧ Attested policy login principal := by
  obtain ⟨handle, record, shown, member, known, fields, _⟩ := authenticate_eq_authenticated answer
  rw [← sound.rows] at member
  obtain ⟨login, live, rfl⟩ := mem_map.mp member
  obtain ⟨issued, _⟩ := sound.issued login (mem_append_right _ (sound.live login live))
  exact ⟨handle, shown, login, live, issued.handle.trans known.symm, fields, attested_of_issued issued fields⟩

/-- A token is applied at most once when no two tokens have the same identity. -/
theorem AppliedOnce.nodup {applied : List BackChannelLogoutEvidence} (once : AppliedOnce policy applied)
    (unique : ∀ first ∈ applied, ∀ second ∈ applied, SameToken first second → first = second) :
    (applied.map fun evidence => (evidence.issuer, evidence.tokenId)).Nodup := by
  rw [List.Nodup, pairwise_map]
  refine List.Pairwise.imp_of_mem (fun {later earlier} laterMember earlierMember before same => ?_) once
  obtain ⟨issuer, tokenId⟩ := Prod.mk.inj same
  obtain ⟨early, late, first, second, order⟩ := before ⟨issuer.symm, tokenId.symm⟩
  obtain rfl := unique earlier earlierMember later laterMember ⟨issuer.symm, tokenId.symm⟩
  exact order.ne (Except.ok.inj (first.symm.trans second))

theorem AppliedOnce.distinct {applied : List BackChannelLogoutEvidence} (once : AppliedOnce policy applied) : applied.Nodup := by
  refine List.Pairwise.imp (fun {later earlier} before same => ?_) once
  obtain ⟨early, late, first, second, order⟩ := before ⟨congrArg (·.issuer) same.symm, congrArg (·.tokenId) same.symm⟩
  rw [same] at second
  exact order.ne (Except.ok.inj (first.symm.trans second))

/-- Sessions end by expiry, by being replaced, or as the oldest of too many when a login stores another one. -/
def EndsByLogin (store : IdentityStore) (login : Login) (now : Instant) (kept : List ControlPlaneSessionRecord)
    (session : ControlPlaneSessionRecord) : Prop :=
  session.expiresAt ≤ now ∨ login.previousHandleDigest = some session.handleDigest ∨
    SameIdentity session login.record ∧
      maxSessionsPerIdentity ≤ (sessionsOf store.sessions login.record.issuer login.record.subject).length ∧
        ∀ other ∈ kept, SameIdentity other login.record → other ≠ login.record → session.issuedAt ≤ other.issuedAt

/-- What holds of the sessions in a state: who is authenticated, that what has ended stays ended, that every way to end
sessions ends them, how many there are, and that a token is applied once. -/
structure SessionsGoverned (policy : BrowserIdentityPolicy) (crypto : ControlPlaneIdentityCrypto) (state : IdentityState) : Prop where
  authenticated : ∀ sessionHandle clock now principal,
    authenticate policy crypto state.store sessionHandle clock now = .authenticated principal →
      ∃ handle, sessionHandle = some handle ∧ ∃ login ∈ state.completed, login ∈ state.live ∧ login.record ∈ state.store.sessions ∧
        crypto.handleDigest login.handle = crypto.handleDigest handle ∧
          ((∀ other ∈ state.generated, crypto.handleDigest other = crypto.handleDigest handle → other = handle) →
            login.handle = handle) ∧ Attested policy login principal
  stored : state.live.map Login.record = state.store.sessions
  ended : ∀ later, IdentityRun policy crypto state later → ∀ login ∈ state.completed, login ∉ state.live → login ∉ later.live
  loggedOut : ∀ handleDigest, ∀ session ∈ (state.store.delete handleDigest).sessions, session.handleDigest ≠ handleDigest
  revoked : ∀ evidence retained clock store count,
    state.store.consumeAndDelete evidence retained clock = .ok (store, .applied count) →
      ∀ session ∈ store.sessions, ¬ Targeted session evidence
  replaced : ∀ login clock store, state.store.replace login.previousHandleDigest login.record clock = .ok store →
    (∀ session ∈ store.sessions, login.previousHandleDigest = some session.handleDigest → session = login.record) ∧
      ∀ session ∈ state.store.sessions, session ∉ store.sessions →
        EndsByLogin state.store login clock.second store.sessions session
  bounded : ∀ issuer subject, (sessionsOf state.store.sessions issuer subject).length ≤ maxSessionsPerIdentity
  appliedOnce : AppliedOnce policy state.applied ∧ state.applied.Nodup
  tokens : (∀ first ∈ state.applied, ∀ second ∈ state.applied, SameToken first second → first = second) →
    (state.applied.map fun evidence => (evidence.issuer, evidence.tokenId)).Nodup

theorem replace_replaces {store : IdentityStore} {login : Login} {clock : StatementClock} (sound : state.store.Sound)
    (replaced : state.store.replace login.previousHandleDigest login.record clock = .ok store) :
    (∀ session ∈ store.sessions, login.previousHandleDigest = some session.handleDigest → session = login.record) ∧
      ∀ session ∈ state.store.sessions, session ∉ store.sessions →
        EndsByLogin state.store login clock.second store.sessions session := by
  obtain ⟨_, _, _, rfl⟩ := replace_eq_ok.mp replaced
  constructor
  · intro session member previous
    rcases mem_append.mp member with old | new
    · exact absurd previous (mem_deleteWhere.mp ((mem_retained sound).mp old).1).2
    · exact mem_singleton.mp new
  · intro session member gone
    have removed : session ∉ state.store.retained login.previousHandleDigest login.record clock.second :=
      fun stays => gone (mem_append_left _ stays)
    refine (retained_removes sound member removed).imp_right (Or.imp_right ?_)
    rintro ⟨own, full, older⟩
    refine ⟨own, full, fun other stored same differs => ?_⟩
    have kept := (mem_append.mp stored).resolve_right fun new => differs (mem_singleton.mp new)
    exact (Prod.Lex.toLex_le_toLex'.mp (older other kept same)).1

/-- Whatever the calls do and however their transactions alternate, the sessions are governed. -/
theorem sessions_governed {clock : Instant} (run : IdentityRun policy crypto (.start clock) state) :
    SessionsGoverned policy crypto state := by
  have sound := run.sound (start_sound clock)
  refine ⟨fun sessionHandle clock now principal answer => ?_, sound.rows, fun later rest login done gone live =>
    gone ((rest.ends sound).live login done live), fun handleDigest session member => (mem_deleteWhere.mp member).2, ?_, fun login clock
      store => replace_replaces sound.store, sound.store.bounded, ⟨sound.applied, sound.applied.distinct⟩, sound.applied.nodup⟩
  · obtain ⟨handle, shown, login, live, same, _, attested⟩ := live_of_authenticated sound answer
    have done := sound.live login live
    refine ⟨handle, shown, login, done, live, ?_, same, fun apart => ?_, attested⟩
    · exact sound.rows ▸ mem_map_of_mem live
    · exact apart login.handle (sound.generated login (mem_append_right _ done)) same
  · intro evidence retained clock store count consumed session member
    obtain ⟨_, _, rfl⟩ := consumeAndDelete_applied consumed
    exact (mem_deleteWhere.mp member).2

/-- After a token has been applied, who is authenticated for a session that it is about is the person of a login that was still in
flight, and only for the short time of that session. -/
theorem logout_residual {clock applied : Instant} {evidence : BackChannelLogoutEvidence} {now retained : Instant}
    {statement : StatementClock} {store : IdentityStore} {count : Nat} {later : IdentityState}
    (run : IdentityRun policy crypto (.start clock) state) (forward : state.clock ≤ statement.first)
    (admitted : admitLogout policy evidence now = .ok (some retained))
    (consumed : state.store.consumeAndDelete evidence retained statement = .ok (store, .applied count))
    (rest : IdentityRun policy crypto (state.applying evidence store statement.third) later)
    {sessionHandle : Option Text} {read : StatementClock} {principal : KeycloakHumanPrincipal}
    (answer : authenticate policy crypto later.store sessionHandle read applied = .authenticated principal)
    (issuer : principal.issuer = evidence.issuer)
    (session : ∀ sid ∈ evidence.target.keycloakSessionId, principal.keycloakSessionId = sid)
    (subject : ∀ found ∈ evidence.target.subject, principal.subject = found) :
    ∃ login ∈ later.live, login ∉ state.completed ∧ Attested policy login principal ∧
      (login ∈ state.pending → principal.expiresAt.micros ≤ state.clock.micros + secondMicros * policy.sessionMaximumSeconds) := by
  have sound := run.sound (start_sound clock)
  have afterwards := sound.applying forward (admitLogout_eq_some admitted) consumed
  obtain ⟨_, _, login, live, _, fields, attested⟩ := live_of_authenticated (rest.sound afterwards) answer
  refine ⟨login, live, fun done => ?_, attested, fun waiting => ?_⟩
  · -- A completed login would have to be live after the token, which has ended all sessions that it is about.
    have still := (rest.ends afterwards).live login done live
    obtain ⟨_, _, rfl⟩ := consumeAndDelete_applied consumed
    have stored := afterwards.rows ▸ mem_map_of_mem still
    obtain ⟨_, _⟩ := principal
    cases fields
    exact (mem_deleteWhere.mp stored).2 ⟨issuer, session, subject⟩
  · have early := (sound.issued login (mem_append_left _ waiting)).2
    have bound := attested.maximum
    rw [Instant.le_def] at early
    omega

end Results

namespace Sample

theorem second_inRange {count : Nat} (small : count < 2000) : secondMicros * count < instantLimit :=
  (Nat.mul_le_mul_left _ small.le).trans_lt (by decide)

def identityPolicyFields : BrowserIdentityPolicyFields :=
  ⟨ascii "https://id.example", List.replicate 64 48, 900, 300, 0, 120⟩

theorem identityPolicy_admitted : identityPolicyFields.postInit = .ok () := by
  rfl

def identityPolicy : BrowserIdentityPolicy :=
  ⟨identityPolicyFields, identityPolicy_admitted⟩

def loginStart : Instant :=
  ⟨secondMicros * 10, second_inRange (by decide)⟩

def loginPrepared : Instant :=
  ⟨secondMicros * 15, second_inRange (by decide)⟩

def logoutTime : Instant :=
  ⟨secondMicros * 20, second_inRange (by decide)⟩

def loginStored : Instant :=
  ⟨secondMicros * 30, second_inRange (by decide)⟩

def sessionEnd : Instant :=
  ⟨secondMicros * 915, second_inRange (by decide)⟩

def evidenceEnd : Instant :=
  ⟨secondMicros * 1000, second_inRange (by decide)⟩

/-- The handle of thirty-two zero bytes. -/
def handle : Text :=
  List.replicate 43 0x41

def oauthTransaction : BrowserOAuthTransaction :=
  ⟨sha256 handle.utf8, ascii "nonce", ascii "verifier", List.replicate 64 48, loginStart⟩

/-- Every cookie is opened to the transaction of one login. -/
def identityCrypto : ControlPlaneIdentityCrypto :=
  ⟨List.replicate 32 0, fun cookie => cookie.map fun _ => oauthTransaction⟩

def display : DisplayMetadata :=
  ⟨⟨none, none⟩, rfl⟩

def browserEvidenceFields : KeycloakBrowserEvidenceFields :=
  ⟨ascii "https://id.example", ascii "alice", ascii "sid", {.read}, loginStart, evidenceEnd, display⟩

theorem browserEvidence_admitted : browserEvidenceFields.postInit = .ok () := by
  rfl

def browserEvidence : KeycloakBrowserEvidence :=
  ⟨browserEvidenceFields, browserEvidence_admitted⟩

def handleDigest : List Nat :=
  hmacSha256 identityCrypto.sessionHandleKey handle.utf8

theorem session_admitted : (sessionFields browserEvidence handleDigest loginPrepared sessionEnd
    identityPolicy.authorityProfileDigest).postInit = .ok () :=
  sessionFields_admitted (length_sha256 _) (by decide) (by decide) (by decide)

def session : ControlPlaneSessionRecord :=
  ⟨_, session_admitted⟩

theorem handle_named : identityCrypto.handleDigest handle = some handleDigest :=
  if_pos (by decide)

theorem login_prepared : prepareLogin identityPolicy identityCrypto browserEvidence loginPrepared loginPrepared loginPrepared
    (List.replicate 32 0) = .ok (some (handle, session)) := by
  have issued : identityCrypto.issueSession browserEvidence loginPrepared sessionEnd identityPolicy.authorityProfileDigest
      (List.replicate 32 0) = .ok (handle, session) := issueSession_ok (by decide) handle_named session_admitted
  have latest : addSeconds loginPrepared identityPolicy.clockSkewSeconds = .ok loginPrepared := rfl
  have bound : addSeconds loginPrepared identityPolicy.sessionMaximumSeconds = .ok sessionEnd := rfl
  rw [prepareLogin, if_neg (by decide), latest, ok_bind_eq, if_neg (by decide), bound, ok_bind_eq]
  rw [if_neg (by decide), show min browserEvidence.expiresAt sessionEnd = sessionEnd from by decide, issued]
  rfl

theorem callback_admitted : admitCallback identityPolicy identityCrypto (some (ascii "code")) (some handle) (some [])
    loginPrepared = .ok (ascii "code", oauthTransaction) := by
  have matched : stateMatches oauthTransaction handle = true := by
    have digest : oauthTransaction.stateDigest = sha256 handle.utf8 := rfl
    rw [stateMatches, digest, decide_eq_true rfl, Bool.and_true]
    decide
  refine bind_unit_eq_ok.mpr ⟨raiseIf_eq_ok.mpr (by decide), bind_unit_eq_ok.mpr ⟨raiseIf_eq_ok.mpr (by decide), ?_⟩⟩
  refine bind_unit_eq_ok.mpr ⟨raiseIf_eq_ok.mpr ?_, rfl⟩
  rw [Option.any_some, matched]
  decide

/-- The login of Alice, whose session is not stored yet. -/
def login : Login :=
  ⟨browserEvidence, handle, session, (none : Option Text).bind identityCrypto.handleDigest⟩

def loginInFlight : IdentityState :=
  (IdentityState.start loginPrepared).preparing login

theorem loginInFlight_run : IdentityRun identityPolicy identityCrypto (.start loginPrepared) loginInFlight :=
  .step .refl (.prepared callback_admitted login_prepared not_mem_nil)

def logoutTargetFields : BackChannelLogoutTargetFields :=
  ⟨some (ascii "sid"), none⟩

theorem logoutTarget_admitted : logoutTargetFields.postInit = .ok () := by
  rfl

def logoutEvidenceFields : BackChannelLogoutEvidenceFields :=
  ⟨ascii "https://id.example", ascii "token", logoutTime, loginStored, ⟨logoutTargetFields, logoutTarget_admitted⟩⟩

theorem logoutEvidence_admitted : logoutEvidenceFields.postInit = .ok () :=
  bind_unit_eq_ok.mpr ⟨rfl, bind_unit_eq_ok.mpr ⟨rfl, bind_unit_eq_ok.mpr ⟨rfl, raiseIf_eq_ok.mpr (by decide)⟩⟩⟩

def logoutEvidence : BackChannelLogoutEvidence :=
  ⟨logoutEvidenceFields, logoutEvidence_admitted⟩

def logoutRetained : Instant :=
  ⟨secondMicros * 140, second_inRange (by decide)⟩

theorem logout_admitted : admitLogout identityPolicy logoutEvidence logoutTime = .ok (some logoutRetained) := by
  rfl

def logoutClock : StatementClock :=
  ⟨logoutTime, logoutTime, logoutTime, le_rfl, le_rfl⟩

def afterLogout : IdentityStore :=
  ⟨[], [⟨ascii "https://id.example", ascii "token", logoutRetained⟩]⟩

theorem logout_consumed : loginInFlight.store.consumeAndDelete logoutEvidence logoutRetained logoutClock =
    .ok (afterLogout, .applied 0) := by
  rfl

def loggedOut : IdentityState :=
  loginInFlight.applying logoutEvidence afterLogout logoutTime

def storedClock : StatementClock :=
  ⟨loginStored, loginStored, loginStored, le_rfl, le_rfl⟩

def afterLogin : IdentityStore :=
  ⟨[session], afterLogout.replays⟩

theorem login_replaced : afterLogout.replace none session storedClock = .ok afterLogin :=
  replace_eq_ok.mpr ⟨by decide, by decide, fun _ member => absurd member not_mem_nil, rfl⟩

def loggedIn : IdentityState :=
  loggedOut.completing login storedClock afterLogin

theorem loggedIn_run : IdentityRun identityPolicy identityCrypto loggedOut loggedIn :=
  .step .refl (.stored (mem_singleton_self _) (by decide) login_replaced)

theorem principal_admitted : (principalFields handle session).postInit = .ok () := by
  rfl

def principal : KeycloakHumanPrincipal :=
  ⟨_, principal_admitted⟩

theorem session_loaded : (afterLogin.load handleDigest storedClock).2 = some session := by
  have found : [session].find? (fun row => decide (row.handleDigest = handleDigest)) = some session :=
    find?_cons_of_pos (decide_eq_true rfl)
  have current : storedClock.first < session.expiresAt := by decide
  rw [IdentityStore.load, afterLogin]
  rw [found]
  dsimp only
  rw [if_pos current]

theorem session_authenticated : authenticate identityPolicy identityCrypto afterLogin (some handle) storedClock loginStored =
    .authenticated principal := by
  have restored : identityCrypto.restoreHumanPrincipal handle session = some principal := by
    have named : identityCrypto.handleDigest handle = some session.handleDigest := handle_named
    rw [restoreHumanPrincipal, if_pos named, construct_ok principal_admitted]
    rfl
  change (authenticateRecord identityPolicy identityCrypto handle (afterLogin.load handleDigest storedClock).2 loginStored).1 = _
  rw [session_loaded, authenticateRecord]
  rw [if_neg (by decide), if_neg (by decide), restored]

theorem loggedOut_run : IdentityRun identityPolicy identityCrypto (.start loginPrepared) loggedOut :=
  .step loginInFlight_run (.loggedOut (by decide) logout_admitted logout_consumed)

theorem session_run : IdentityRun identityPolicy identityCrypto (.start loginPrepared) loggedIn :=
  .step loggedOut_run (.stored (mem_singleton_self _) (by decide) login_replaced)

end Sample

/-- The session of the one login of a run is governed, and its handle is authenticated. -/
theorem sessions_governed_login : SessionsGoverned Sample.identityPolicy Sample.identityCrypto Sample.loggedIn ∧
    authenticate Sample.identityPolicy Sample.identityCrypto Sample.loggedIn.store (some Sample.handle) Sample.storedClock
      Sample.loginStored = .authenticated Sample.principal :=
  ⟨sessions_governed Sample.session_run, Sample.session_authenticated⟩

/-- A login in flight stores its session after the token that ends the sessions of its provider session has been applied, and
its older evidence authenticates. -/
theorem login_in_flight_outlives_logout :
    IdentityRun Sample.identityPolicy Sample.identityCrypto (.start Sample.loginPrepared) Sample.loginInFlight ∧
      admitLogout Sample.identityPolicy Sample.logoutEvidence Sample.logoutTime = .ok (some Sample.logoutRetained) ∧
      Sample.loginInFlight.store.consumeAndDelete Sample.logoutEvidence Sample.logoutRetained Sample.logoutClock =
        .ok (Sample.afterLogout, .applied 0) ∧
      IdentityRun Sample.identityPolicy Sample.identityCrypto
        (Sample.loginInFlight.applying Sample.logoutEvidence Sample.afterLogout Sample.logoutTime) Sample.loggedIn ∧
      authenticate Sample.identityPolicy Sample.identityCrypto Sample.loggedIn.store (some Sample.handle) Sample.storedClock
        Sample.loginStored = .authenticated Sample.principal ∧
      Sample.principal.issuer = Sample.logoutEvidence.issuer ∧
      Sample.logoutEvidence.target.keycloakSessionId = some Sample.principal.keycloakSessionId ∧
      Sample.browserEvidence.issuedAt < Sample.logoutEvidence.issuedAt :=
  ⟨Sample.loginInFlight_run, Sample.logout_admitted, Sample.logout_consumed, Sample.loggedIn_run, Sample.session_authenticated, rfl,
    rfl, by decide⟩

/-- The session of the login that was in flight ends in its short time. -/
theorem logout_residual_login :
    ∃ login ∈ Sample.loggedIn.live, login ∉ Sample.loginInFlight.completed ∧
      Attested Sample.identityPolicy login Sample.principal ∧
        (login ∈ Sample.loginInFlight.pending → Sample.principal.expiresAt.micros ≤
          Sample.loginInFlight.clock.micros + secondMicros * Sample.identityPolicy.sessionMaximumSeconds) :=
  logout_residual Sample.loginInFlight_run (by decide) Sample.logout_admitted Sample.logout_consumed Sample.loggedIn_run
    Sample.session_authenticated rfl (fun _ found => Option.some.inj found) fun _ none => nomatch none

end CiCoordinator.Persistence

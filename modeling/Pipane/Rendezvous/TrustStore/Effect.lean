import Pipane.Rendezvous.TrustStore

open javascript json durable pipane.trust_protocol pipane.node_trust_crypto

namespace pipane.trust_store

/-- Challenges may be gone, texts drawn and time passed, but nothing is stored or written. -/
structure Quiet (before after : RendezvousTrustStore) : Prop where
  state : after.state = before.state
  disk : after.disk = before.disk
  memory : ∀ id challenge, after.memory.get? id = some challenge → before.memory.get? id = some challenge
  clock : before.clock ≤ after.clock
  drawn : before.drawn ≤ after.drawn
  pruned : after.circumstances.pruned = before.circumstances.pruned
  saved : after.circumstances.saved = before.circumstances.saved

namespace Quiet

theorem refl (store : RendezvousTrustStore) : Quiet store store :=
  ⟨rfl, rfl, fun _ _ h => h, le_refl _, le_refl _, rfl, rfl⟩

theorem tick {before after : RendezvousTrustStore} (h : Quiet before after) : Quiet before after.tick :=
  ⟨h.state, h.disk, h.memory, h.clock.trans after.clock_le_tick, h.drawn, h.pruned, h.saved⟩

theorem draw {before after : RendezvousTrustStore} (h : Quiet before after) : Quiet before after.draw :=
  ⟨h.state, h.disk, h.memory, h.clock, h.drawn.trans (Nat.le_succ _), h.pruned, h.saved⟩

theorem erase {before after : RendezvousTrustStore} (h : Quiet before after) (challengeId : JsString) :
    Quiet before { after with memory := after.memory.erase challengeId } := by
  refine ⟨h.state, h.disk, ?_, h.clock, h.drawn, h.pruned, h.saved⟩
  intro id challenge hget
  rw [OrderedMap.get?_erase] at hget
  split at hget
  · cases hget
  · exact h.memory id challenge hget

end Quiet

/-- A challenge that was open and that a signature of its device answers. -/
structure Answered (options : TrustStoreOptions) (before : RendezvousTrustStore) (challengeId signature : JsString)
    (purpose : DeviceChallengePurpose) (challenge : DeviceChallenge) : Prop where
  opened : before.memory.get? challengeId = some challenge
  purpose : challenge.purpose = purpose
  signed : verifyDeviceSignature options.crypto challenge.devicePublicKey (deviceChallengePayload challenge) signature =
    true

def ActiveDevice (state : StoredTrustState) (deviceId : JsString) (device : StoredDevice) : Prop :=
  state.devices.get? deviceId = some device ∧ device.revokedAt = none

/-- A time that the clock showed during a call that ends at `limit`. -/
def Read (before : RendezvousTrustStore) (limit time : Int) : Prop :=
  before.clock ≤ time ∧ time ≤ limit

/-- The account that a confirmed pairing writes to: the stored one, or a new one. -/
def PairedAccount (before : RendezvousTrustStore) (limit : Int) (accountId : JsString) (account : StoredAccount) : Prop :=
  before.state.accounts.get? accountId = some account ∨
    before.state.accounts.get? accountId = none ∧ ∃ createdAt, Read before limit createdAt ∧
      account = { accountId, deviceIds := [], backendIds := [], createdAt }

/-- The device that it writes: the stored one, whose key and account the ticket names, or a new one. -/
def PairedDevice (before : RendezvousTrustStore) (limit : Int) (claims : ConnectionTicketClaims) (accountId : JsString)
    (device : StoredDevice) : Prop :=
  before.state.devices.get? claims.deviceId = some device ∧ (∀ at', device.revokedAt = some at' → at' = 0) ∧
      device.publicKey = claims.devicePublicKey ∧ claims.accountId = some device.accountId ∧
      device.accountId = accountId ∨
    before.state.devices.get? claims.deviceId = none ∧ ∃ createdAt, Read before limit createdAt ∧
      device = { deviceId := claims.deviceId, publicKey := claims.devicePublicKey, accountId, createdAt }

/-- The account id of a confirmed pairing: the one of the ticket or else of the owner, or a new one. -/
def PairedAccountId (before : RendezvousTrustStore) (claims : ConnectionTicketClaims) (accountId : JsString) : Prop :=
  claims.accountId.or (before.state.backendOwners.get? claims.backendId) = some accountId ∧ accountId ≠ [] ∨
    (∀ id, claims.accountId.or (before.state.backendOwners.get? claims.backendId) = some id → id = []) ∧
      ∃ n, before.drawn ≤ n ∧ accountId = ACCOUNT_ID_PREFIX ++ decimal n

/-- What a call writes, with everything that it checked before it did. -/
inductive Effect (options : TrustStoreOptions) (before : RendezvousTrustStore) (limit : Int) :
    Call → StoredTrustState → Prop
  | ticketUsed {ticket : JsString} {claims : ConnectionTicketClaims}
      (verified : verifyConnectionTicket options.crypto ticket options.ticketPublicKey before.tick.clock = .ok claims)
      (unused : (before.state.pruned before.tick.tick.clock).usedTickets.get? claims.ticketId = none)
      (read : Read before limit before.tick.tick.clock) :
      Effect options before limit (.consumeRouteTicket ticket) { before.state.pruned before.tick.tick.clock with
        usedTickets := (before.state.pruned before.tick.tick.clock).usedTickets.set claims.ticketId claims.expiresAt }
  | paired {claims : ConnectionTicketClaims} {pairId accountId : JsString} {account : StoredAccount}
      {device : StoredDevice} {completedAt : Int} (kind : claims.kind = .pairing) (pair : claims.pairId = some pairId)
      (named : pairId ≠ []) (unconfirmed : before.state.pairingCompletions.get? pairId = none)
      (owner : ∀ named owner, claims.accountId = some named → named ≠ [] →
        before.state.backendOwners.get? claims.backendId = some owner → owner ≠ [] → named = owner)
      (accountIds : PairedAccountId before claims accountId) (accounts : PairedAccount before limit accountId account)
      (devices : PairedDevice before limit claims accountId device) (time : Read before limit completedAt) :
      Effect options before limit (.confirmPairing claims)
        (before.state.paired claims account device pairId accountId completedAt)
  | invited {challengeId signature : JsString} {challenge : DeviceChallenge} {actor : StoredDevice} {n secret : Nat}
      {createdAt expiresAt : Int} (answered : Answered options before challengeId signature .createDeviceInvite challenge)
      (active : ActiveDevice before.state challenge.deviceId actor) (drawn : before.drawn ≤ n)
      (created : Read before limit createdAt) (later : createdAt ≤ expiresAt ∧ expiresAt ≤ limit) :
      Effect options before limit (.createDeviceInvite challengeId signature) { before.state with
        deviceInvites := before.state.deviceInvites.set (DEVICE_INVITE_ID_PREFIX ++ decimal n) {
          inviteId := DEVICE_INVITE_ID_PREFIX ++ decimal n
          secretHash := hashDeviceInviteSecret options (decimal secret)
          accountId := actor.accountId
          createdByDeviceId := actor.deviceId
          createdAt
          expiresAt := expiresAt + DEVICE_INVITE_TTL_MS } }
  | accepted {challengeId signature inviteId secret : JsString} {challenge : DeviceChallenge}
      {invite : StoredDeviceInvite} {account : StoredAccount} {createdAt : Int}
      (answered : Answered options before challengeId signature .acceptDeviceInvite challenge)
      (pairId : challenge.pairId = some (.str inviteId))
      (invited : before.state.deviceInvites.get? inviteId = some invite)
      (unexpired : before.tick.tick.clock < invite.expiresAt)
      (proved : secretsEqual (hashDeviceInviteSecret options secret) invite.secretHash = true)
      (unknown : before.state.devices.get? challenge.deviceId = none)
      (known : before.state.accounts.get? invite.accountId = some account) (created : Read before limit createdAt) :
      Effect options before limit (.acceptDeviceInvite challengeId signature inviteId secret)
        (before.state.accepted inviteId account invite.accountId {
          deviceId := challenge.deviceId
          publicKey := challenge.devicePublicKey
          accountId := account.accountId
          createdAt })
  | deviceRevoked {challengeId signature : JsString} {challenge : DeviceChallenge} {actor target : StoredDevice}
      {revokedAt : Int} (answered : Answered options before challengeId signature .revokeDevice challenge)
      (active : ActiveDevice before.state challenge.deviceId actor)
      (known : before.state.devices.get? (propertyKey challenge.targetDeviceId) = some target)
      (same : target.accountId = actor.accountId) (time : Read before limit revokedAt) :
      Effect options before limit (.revokeDevice challengeId signature) { before.state with
        devices := before.state.devices.set (propertyKey challenge.targetDeviceId)
          { target with revokedAt := some revokedAt } }
  | backendRevoked {challengeId signature : JsString} {challenge : DeviceChallenge} {actor : StoredDevice}
      {account : StoredAccount} {revokedAt : Int}
      (answered : Answered options before challengeId signature .revokeBackend challenge)
      (active : ActiveDevice before.state challenge.deviceId actor)
      (owned : before.state.backendOwners.get? (propertyKey challenge.backendId) = some actor.accountId)
      (known : before.state.accounts.get? actor.accountId = some account) (time : Read before limit revokedAt) :
      Effect options before limit (.revokeBackend challengeId signature)
        ((before.state.disowned (propertyKey challenge.backendId) actor.accountId revokedAt).withoutBackend
          actor.accountId account challenge.backendId)
  | backendDisowned {challengeId signature : JsString} {challenge : DeviceChallenge} {actor : StoredDevice}
      {revokedAt : Int} (answered : Answered options before challengeId signature .revokeBackend challenge)
      (active : ActiveDevice before.state challenge.deviceId actor)
      (owned : before.state.backendOwners.get? (propertyKey challenge.backendId) = some actor.accountId)
      (unknown : before.state.accounts.get? actor.accountId = none) (time : Read before limit revokedAt) :
      Effect options before limit (.revokeBackend challengeId signature)
        (before.state.disowned (propertyKey challenge.backendId) actor.accountId revokedAt)

/-- The stored state as it was, or without what had expired when the clock was read. -/
def Swept (before after : RendezvousTrustStore) (state : StoredTrustState) : Prop :=
  state = before.state ∨ ∃ time, before.clock ≤ time ∧ time ≤ after.clock ∧ state = before.state.pruned time

/-- A challenge that a call opens names a stored device, or an unknown one by a key of its own. -/
structure Opened (options : TrustStoreOptions) (before : RendezvousTrustStore) (request : DeviceChallengeRequest)
    (challenge : DeviceChallenge) : Prop where
  identity : (∃ key device, before.state.devices.get? key = some device ∧ device.revokedAt = none ∧
      challenge.deviceId = device.deviceId ∧ challenge.devicePublicKey = device.publicKey) ∨
    (challenge.purpose = .pair ∨ challenge.purpose = .acceptDeviceInvite) ∧
      deriveDeviceId options.crypto challenge.devicePublicKey = .ok challenge.deviceId
  backendId : challenge.backendId = request.backendId
  connectionId : challenge.connectionId = request.connectionId
  pairId : challenge.pairId = request.pairId
  targetDeviceId : challenge.targetDeviceId = request.targetDeviceId

/-- The stored state before and after a call that returned, or that threw. -/
inductive Stored (options : TrustStoreOptions) (before : RendezvousTrustStore) (call : Call)
    (after : RendezvousTrustStore) : Bool → Prop
  | swept (returned : Bool) (state : Swept before after after.state)
      (disk : after.disk = before.disk ∨ after.disk = after.state) : Stored options before call after returned
  | saved (effect : Effect options before after.clock call after.state) (disk : after.disk = after.state) :
      Stored options before call after true
  | unsaved (effect : Effect options before after.clock call after.state)
      (failed : before.circumstances.saved ≠ .written ∨
        ∃ id device, before.state.devices.get? id = some device ∧ before.state.accounts.get? device.accountId = none)
      (disk : Swept before after after.disk ∨ after.disk = before.disk ∨ after.disk = after.state) :
      Stored options before call after false

/-- What a call does to the store. -/
structure Ran (options : TrustStoreOptions) (before : RendezvousTrustStore) (call : Call)
    (after : RendezvousTrustStore) (returned : Bool) : Prop where
  stored : Stored options before call after returned
  memory : ∀ id challenge, after.memory.get? id = some challenge → before.memory.get? id = some challenge ∨
    ∃ request, call = .createChallenge request ∧ Opened options before request challenge
  clock : before.clock ≤ after.clock
  drawn : before.drawn ≤ after.drawn

/-- What a revocation reports, and what it found. -/
inductive Revocation (before : RendezvousTrustStore) : Call → RevocationResult → Prop
  | device {challengeId signature : JsString} {challenge : DeviceChallenge} {target : StoredDevice}
      (opened : before.memory.get? challengeId = some challenge)
      (known : before.state.devices.get? (propertyKey challenge.targetDeviceId) = some target) :
      Revocation before (.revokeDevice challengeId signature)
        { accountId := target.accountId, deviceId := some target.deviceId }
  | backend {challengeId signature accountId : JsString} {challenge : DeviceChallenge}
      (opened : before.memory.get? challengeId = some challenge)
      (owned : before.state.backendOwners.get? (propertyKey challenge.backendId) = some accountId) :
      Revocation before (.revokeBackend challengeId signature) { accountId, backendId := challenge.backendId }

theorem Quiet.ran {options : TrustStoreOptions} {before after : RendezvousTrustStore} {call : Call} (returned : Bool)
    (h : Quiet before after) : Ran options before call after returned :=
  ⟨.swept returned (.inl h.state) (.inl h.disk), fun id challenge hget => .inl (h.memory id challenge hget), h.clock,
    h.drawn⟩

section

variable {options : TrustStoreOptions} {before : RendezvousTrustStore}

@[simp] theorem randomText_iff {post : JsString → RendezvousTrustStore → Prop} {failed : RendezvousTrustStore → Prop}
    (store : RendezvousTrustStore) :
    Outcome randomText store post failed ↔ post (decimal store.drawn) store.draw :=
  Iff.rfl

theorem consumeChallenge_outcome (challengeId signature : JsString) (purpose : DeviceChallengePurpose) :
    Outcome (consumeChallenge options challengeId signature purpose) before
      (fun challenge after => Quiet before after ∧ Answered options before challengeId signature purpose challenge ∧
        after = { before.tick with memory := before.memory.erase challengeId })
      (Quiet before) := by
  have herased : Quiet before { before with memory := before.memory.erase challengeId } :=
    (Quiet.refl before).erase challengeId
  unfold consumeChallenge
  rw [outcome.bind_iff, outcome.get_iff, outcome.bind_iff, outcome.modify_iff]
  cases hopened : before.memory.get? challengeId with
  | none => exact herased
  | some challenge =>
    simp only [outcome.bind_iff, now_iff, outcome.ite_iff, outcome.throw_iff, outcome.pure_iff]
    refine ⟨fun _ => herased.tick, fun _ => ⟨fun _ => herased.tick, fun hpurpose => ⟨fun _ => herased.tick, ?_⟩⟩⟩
    intro hsigned
    exact ⟨herased.tick, ⟨hopened, not_not.mp hpurpose, not_not.mp hsigned⟩, rfl⟩

theorem requireActiveDevice_outcome (deviceId : JsString) (store : RendezvousTrustStore) :
    Outcome (requireActiveDevice deviceId) store
      (fun device after => after = store ∧ ActiveDevice store.state deviceId device) (fun after => after = store) := by
  unfold requireActiveDevice
  rw [outcome.bind_iff, outcome.get_iff]
  cases hdevice : store.state.devices.get? deviceId with
  | none => rfl
  | some device =>
    simp only [outcome.bind_iff, outcome.ite_iff, outcome.throw_iff, outcome.pure_iff]
    exact ⟨fun _ => trivial, fun hactive => ⟨trivial, hdevice, not_not.mp hactive⟩⟩

/-- The store just before a call writes its effect. -/
structure Ready (before store : RendezvousTrustStore) : Prop where
  memory : ∀ id challenge, store.memory.get? id = some challenge → before.memory.get? id = some challenge
  clock : before.clock ≤ store.clock
  drawn : before.drawn ≤ store.drawn
  saved : store.circumstances.saved = before.circumstances.saved
  disk : store.disk = before.disk ∨ Swept before store store.disk

theorem Quiet.ready {store : RendezvousTrustStore} (h : Quiet before store) : Ready before store :=
  ⟨h.memory, h.clock, h.drawn, h.saved, .inl h.disk⟩

theorem save_outcome {α : Type} {call : Call} {state : StoredTrustState} {store : RendezvousTrustStore}
    (hready : Ready before store) (heffect : Effect options before store.clock call state) (reply : α) :
    Outcome (do setState state; persist; return reply) store
      (fun result after => result = reply ∧ after = { store with state := state, disk := state } ∧
        Ran options before call after true)
      (fun after => Ran options before call after false) := by
  have hran : ∀ (disk : StoredTrustState) (returned : Bool),
      Stored options before call { store with state := state, disk := disk } returned →
      Ran options before call { store with state := state, disk := disk } returned :=
    fun disk returned hstored => ⟨hstored, fun id challenge h => .inl (hready.memory id challenge h), hready.clock,
      hready.drawn⟩
  unfold setState persist
  rw [outcome.bind_iff, outcome.modify_iff, outcome.bind_iff, outcome.bind_iff, outcome.get_iff, write_iff]
  refine ⟨fun _ => ⟨rfl, rfl, hran _ _ (.saved heffect rfl)⟩, ?_, ?_⟩
  · intro hfailed
    refine hran _ _ (.unsaved heffect (.inl ?_) (hready.disk.symm.imp_right .inl))
    rw [← hready.saved]
    exact fun h => by rw [hfailed] at h; cases h
  · intro hfailed
    refine hran _ _ (.unsaved heffect (.inl ?_) (.inr (.inr rfl)))
    rw [← hready.saved]
    exact fun h => by rw [hfailed] at h; cases h

theorem revokeDevice_outcome (challengeId signature : JsString) :
    Outcome (revokeDevice options challengeId signature) before
      (fun result after => Revocation before (.revokeDevice challengeId signature) result ∧
        Ran options before (.revokeDevice challengeId signature) after true)
      (fun after => Ran options before (.revokeDevice challengeId signature) after false) := by
  unfold revokeDevice
  refine outcome.bind (consumeChallenge_outcome challengeId signature _) (fun after h => h.ran false) ?_
  rintro challenge store ⟨hquiet, hanswered, -⟩
  refine outcome.bind (requireActiveDevice_outcome challenge.deviceId store) (fun after h => h ▸ hquiet.ran false) ?_
  rintro actor after ⟨rfl, hactive⟩
  rw [outcome.bind_iff, outcome.get_iff]
  rw [hquiet.state] at hactive ⊢
  cases htarget : before.state.devices.get? (propertyKey challenge.targetDeviceId) with
  | none =>
    simp only [htarget]
    exact hquiet.ran false
  | some target =>
    simp only [htarget, outcome.guard_iff]
    refine ⟨fun _ => hquiet.ran false, fun hsame => ?_⟩
    rw [outcome.bind_iff, now_iff]
    refine outcome.mono (save_outcome hquiet.tick.ready
      (.deviceRevoked hanswered hactive htarget (not_not.mp hsame) ⟨hquiet.tick.clock, le_refl _⟩) _) ?_ (fun _ h => h)
    rintro result _ ⟨rfl, -, hran⟩
    rw [← not_not.mp hsame]
    exact ⟨.device hanswered.opened htarget, hran⟩

theorem revokeBackend_outcome (challengeId signature : JsString) :
    Outcome (revokeBackend options challengeId signature) before
      (fun result after => Revocation before (.revokeBackend challengeId signature) result ∧
        Ran options before (.revokeBackend challengeId signature) after true)
      (fun after => Ran options before (.revokeBackend challengeId signature) after false) := by
  unfold revokeBackend
  refine outcome.bind (consumeChallenge_outcome challengeId signature _) (fun after h => h.ran false) ?_
  rintro challenge store ⟨hquiet, hanswered, -⟩
  refine outcome.bind (requireActiveDevice_outcome challenge.deviceId store) (fun after h => h ▸ hquiet.ran false) ?_
  rintro actor after ⟨rfl, hactive⟩
  rw [outcome.bind_iff, outcome.get_iff]
  rw [hquiet.state] at hactive ⊢
  simp only [outcome.guard_iff]
  refine ⟨fun _ => hquiet.ran false, fun howned => ?_⟩
  rw [outcome.bind_iff, now_iff, setState, outcome.bind_iff, outcome.modify_iff]
  cases haccount : before.state.accounts.get? actor.accountId with
  | none =>
    have hnone : (before.state.disowned (propertyKey challenge.backendId) actor.accountId
      after.tick.clock).accounts.get? actor.accountId = none := haccount
    simp only [hnone]
    refine ⟨.unsaved (.backendDisowned hanswered hactive (not_not.mp howned) haccount ⟨hquiet.tick.clock, le_refl _⟩)
      (.inr ⟨challenge.deviceId, actor, hactive.1, haccount⟩) (.inr (.inl hquiet.disk)), ?_, hquiet.tick.clock,
      hquiet.drawn⟩
    exact fun id challenge h => .inl (hquiet.memory id challenge h)
  | some account =>
    have hsome : (before.state.disowned (propertyKey challenge.backendId) actor.accountId
      after.tick.clock).accounts.get? actor.accountId = some account := haccount
    simp only [hsome]
    have hready : Ready before { after.tick with
        state := before.state.disowned (propertyKey challenge.backendId) actor.accountId after.tick.clock } :=
      ⟨hquiet.memory, hquiet.tick.clock, hquiet.drawn, hquiet.saved, .inl hquiet.disk⟩
    refine outcome.mono (save_outcome hready
      (.backendRevoked hanswered hactive (not_not.mp howned) haccount ⟨hquiet.tick.clock, le_refl _⟩) _) ?_ (fun _ h => h)
    rintro result _ ⟨rfl, -, hran⟩
    exact ⟨.backend hanswered.opened (not_not.mp howned), hran⟩

theorem createDeviceInvite_outcome (challengeId signature : JsString) :
    Outcome (createDeviceInvite options challengeId signature) before
      (fun _ after => Ran options before (.createDeviceInvite challengeId signature) after true)
      (fun after => Ran options before (.createDeviceInvite challengeId signature) after false) := by
  unfold createDeviceInvite
  refine outcome.bind (consumeChallenge_outcome challengeId signature _) (fun after h => h.ran false) ?_
  rintro challenge store ⟨hquiet, hanswered, -⟩
  refine outcome.bind (requireActiveDevice_outcome challenge.deviceId store) (fun after h => h ▸ hquiet.ran false) ?_
  rintro actor after ⟨rfl, hactive⟩
  rw [hquiet.state] at hactive
  rw [outcome.bind_iff, randomText_iff, outcome.bind_iff, randomText_iff, outcome.bind_iff, now_iff, outcome.bind_iff,
    now_iff, outcome.bind_iff, outcome.get_iff]
  have hready := hquiet.draw.draw.tick.tick
  have hstate : after.draw.draw.tick.tick.state = before.state := hready.state
  rw [hstate]
  refine outcome.mono (save_outcome hready.ready (.invited hanswered hactive hquiet.draw.drawn
    ⟨hquiet.draw.draw.tick.clock, after.draw.draw.tick.clock_le_tick⟩ ⟨after.draw.draw.tick.clock_le_tick, le_refl _⟩) _)
    ?_ (fun _ h => h)
  exact fun _ _ h => h.2.2

theorem liftExcept_iff {α : Type} {post : α → RendezvousTrustStore → Prop} {failed : RendezvousTrustStore → Prop}
    (x : Except String α) (store : RendezvousTrustStore) :
    Outcome (liftExcept x) store post failed ↔
      (∀ a, x = .ok a → post a store) ∧ (∀ e, x = .error e → failed store) := by
  cases x with
  | ok a => simp [liftExcept]
  | error e => simp [liftExcept]

/-- The store after `prune`, whether the write after it failed or not. -/
structure Pruned (before after : RendezvousTrustStore) : Prop where
  state : after.state = before.state.pruned before.tick.clock
  disk : after.disk = before.disk ∨ after.disk = after.state
  memory : ∀ id challenge, after.memory.get? id = some challenge → before.memory.get? id = some challenge
  clock : after.clock = before.tick.clock
  drawn : after.drawn = before.drawn
  circumstances : after.circumstances = before.tick.circumstances

theorem prune_outcome : Outcome prune before (fun _ after => Pruned before after) (Pruned before) := by
  have hmemory : ∀ id challenge,
      (before.tick.memory.filter fun challenge => before.tick.clock < challenge.expiresAt).get? id = some challenge →
        before.memory.get? id = some challenge :=
    fun id challenge h => (OrderedMap.get?_of_filter h).1
  have hpruned : ∀ disk, disk = before.disk ∨ disk = before.state.pruned before.tick.clock →
      Pruned before { before.tick with
        memory := before.tick.memory.filter fun challenge => before.tick.clock < challenge.expiresAt
        state := before.state.pruned before.tick.clock
        disk := disk } :=
    fun disk hdisk => ⟨rfl, hdisk, hmemory, rfl, rfl, rfl⟩
  unfold prune setState
  simp only [outcome.bind_iff, now_iff, outcome.modify_iff, outcome.get_iff, outcome.ite_iff, write_iff,
    outcome.pure_iff]
  refine ⟨fun _ => ⟨?_, ?_, ?_⟩, fun _ => ?_⟩
  · exact fun _ => hpruned _ (.inr rfl)
  · exact fun _ => hpruned _ (.inl rfl)
  · exact fun _ => hpruned _ (.inr rfl)
  · exact hpruned _ (.inl rfl)

section

variable {mid store : RendezvousTrustStore}

theorem Pruned.swept (hquiet : Quiet before mid) (h : Pruned mid store) : Swept before store store.state := by
  refine .inr ⟨mid.tick.clock, hquiet.tick.clock, h.clock.ge, ?_⟩
  rw [h.state, hquiet.state]

theorem Pruned.ready (hquiet : Quiet before mid) (h : Pruned mid store) : Ready before store := by
  refine ⟨fun id challenge hget => hquiet.memory id challenge (h.memory id challenge hget), ?_, ?_, ?_, ?_⟩
  · exact h.clock ▸ hquiet.tick.clock
  · exact h.drawn ▸ hquiet.drawn
  · rw [h.circumstances, Store.tick_saved, hquiet.saved]
  · obtain hdisk | hdisk := h.disk
    · exact .inl (hdisk.trans hquiet.disk)
    · exact .inr (hdisk ▸ h.swept hquiet)

theorem Pruned.ran {call : Call} (returned : Bool) (hquiet : Quiet before mid) (h : Pruned mid store) :
    Ran options before call store returned := by
  refine ⟨.swept returned (h.swept hquiet) (h.disk.imp_left fun hdisk => hdisk.trans hquiet.disk), ?_,
    (h.ready hquiet).clock, (h.ready hquiet).drawn⟩
  exact fun id challenge hget => .inl ((h.ready hquiet).memory id challenge hget)

end

theorem consumeRouteTicket_outcome (ticket : JsString) :
    Outcome (consumeRouteTicket options ticket) before
      (fun claims after =>
        verifyConnectionTicket options.crypto ticket options.ticketPublicKey before.tick.clock = .ok claims ∧
        (before.state.pruned before.tick.tick.clock).usedTickets.get? claims.ticketId = none ∧
        after.state = { before.state.pruned before.tick.tick.clock with
          usedTickets := (before.state.pruned before.tick.tick.clock).usedTickets.set claims.ticketId claims.expiresAt } ∧
        after.disk = after.state ∧ Ran options before (.consumeRouteTicket ticket) after true)
      (fun after => Ran options before (.consumeRouteTicket ticket) after false) := by
  have hquiet := (Quiet.refl before).tick
  unfold consumeRouteTicket verifyTicket
  rw [outcome.bind_iff, outcome.bind_iff, now_iff, liftExcept_iff]
  refine ⟨fun claims hverified => ?_, fun _ _ => hquiet.ran false⟩
  refine outcome.bind prune_outcome (fun after h => h.ran false hquiet) ?_
  intro _ store hpruned
  rw [outcome.bind_iff, outcome.get_iff, hpruned.state]
  simp only [outcome.guard_iff]
  refine ⟨fun _ => hpruned.ran false hquiet, fun hunused => ?_⟩
  have hunused : (before.state.pruned before.tick.tick.clock).usedTickets.get? claims.ticketId = none := by
    simpa using hunused
  have hread : Read before store.clock before.tick.tick.clock :=
    ⟨hquiet.tick.clock, hpruned.clock.ge⟩
  refine outcome.mono (save_outcome (hpruned.ready hquiet) (.ticketUsed hverified hunused hread) _) ?_ (fun _ h => h)
  rintro _ after ⟨rfl, rfl, hran⟩
  exact ⟨hverified, hunused, rfl, rfl, hran⟩

theorem acceptDeviceInvite_outcome (challengeId signature inviteId secret : JsString) :
    Outcome (acceptDeviceInvite options challengeId signature inviteId secret) before
      (fun _ after => Ran options before (.acceptDeviceInvite challengeId signature inviteId secret) after true)
      (fun after => Ran options before (.acceptDeviceInvite challengeId signature inviteId secret) after false) := by
  unfold acceptDeviceInvite
  refine outcome.bind (consumeChallenge_outcome challengeId signature _) (fun after h => h.ran false) ?_
  rintro challenge store ⟨hquiet, hanswered, hstore⟩
  have hclock : store.tick.clock = before.tick.tick.clock := by rw [hstore]; rfl
  rw [outcome.guard_iff]
  refine ⟨fun _ => hquiet.ran false, fun hpairId => ?_⟩
  have hpairId := isStr_iff.mp (not_not.mp hpairId)
  rw [outcome.bind_iff, outcome.get_iff, hquiet.state]
  cases hinvited : before.state.deviceInvites.get? inviteId with
  | none =>
    simp only [hinvited]
    exact hquiet.ran false
  | some invite =>
    simp only [hinvited]
    rw [outcome.bind_iff, now_iff, outcome.guard_iff]
    refine ⟨fun _ => hquiet.tick.ran false, fun hunexpired => ?_⟩
    rw [outcome.guard_iff]
    refine ⟨fun _ => hquiet.tick.ran false, fun hproved => ?_⟩
    cases hunknown : before.state.devices.get? challenge.deviceId with
    | some existingDevice =>
      simp only [outcome.guard_iff, outcome.throw_iff]
      exact ⟨fun _ => hquiet.tick.ran false, fun _ => hquiet.tick.ran false⟩
    | none =>
      dsimp only
      cases hknown : before.state.accounts.get? invite.accountId with
      | none =>
        dsimp only
        exact hquiet.tick.ran false
      | some account =>
        dsimp only
        rw [outcome.bind_iff, now_iff]
        refine outcome.mono (save_outcome hquiet.tick.tick.ready (.accepted hanswered hpairId hinvited
          (hclock ▸ not_le.mp hunexpired) (not_not.mp hproved) hunknown hknown ⟨hquiet.tick.tick.clock, le_refl _⟩) _) ?_
          (fun _ h => h)
        exact fun _ _ h => h.2.2

theorem pairedAccountId_outcome (claims : ConnectionTicketClaims) :
    Outcome (pairedAccountId claims (before.state.backendOwners.get? claims.backendId)) before
      (fun accountId after => Quiet before after ∧ PairedAccountId before claims accountId) (Quiet before) := by
  have hdrawn : ∃ n, before.drawn ≤ n ∧ ACCOUNT_ID_PREFIX ++ decimal before.drawn = ACCOUNT_ID_PREFIX ++ decimal n :=
    ⟨before.drawn, le_refl _, rfl⟩
  unfold pairedAccountId
  cases hnamed : claims.accountId.or (before.state.backendOwners.get? claims.backendId) with
  | none =>
    dsimp only
    rw [outcome.bind_iff, randomText_iff]
    refine ⟨(Quiet.refl before).draw, .inr ⟨?_, hdrawn⟩⟩
    rw [hnamed]
    rintro id (h : none = some id)
    cases h
  | some accountId =>
    dsimp only
    rw [outcome.ite_iff]
    refine ⟨fun hempty => ?_, fun hnonempty => ⟨Quiet.refl before, .inl ⟨hnamed, hnonempty⟩⟩⟩
    rw [outcome.bind_iff, randomText_iff]
    refine ⟨(Quiet.refl before).draw, .inr ⟨?_, hdrawn⟩⟩
    rw [hnamed]
    rintro id (h : some accountId = some id)
    rw [← Option.some.inj h, hempty]

theorem stored_device {claims : ConnectionTicketClaims} {accountId : JsString} {device : StoredDevice}
    (hdevice : before.state.devices.get? claims.deviceId = some device)
    (hrevoked : ¬ device.revokedAt.any (fun revokedAt => revokedAt ≠ 0) = true)
    (hkey : ¬ device.publicKey ≠ claims.devicePublicKey) (hclaimed : ¬ claims.accountId ≠ some device.accountId)
    (hsame : ¬ device.accountId ≠ accountId) (limit : Int) : PairedDevice before limit claims accountId device := by
  refine .inl ⟨hdevice, ?_, not_not.mp hkey, not_not.mp hclaimed, not_not.mp hsame⟩
  intro at' hat
  by_contra hnonzero
  exact hrevoked (by simpa [hat] using hnonzero)

theorem confirmPairing_outcome (claims : ConnectionTicketClaims) :
    Outcome (confirmPairing claims) before (fun _ after => Ran options before (.confirmPairing claims) after true)
      (fun after => Ran options before (.confirmPairing claims) after false) := by
  unfold confirmPairing
  rw [outcome.guard_iff]
  refine ⟨fun _ => (Quiet.refl before).ran false, fun hkind => ?_⟩
  rw [outcome.bind_iff, outcome.get_iff]
  cases hprior : before.state.pairingCompletions.get? (claims.pairId.getD []) with
  | some prior =>
    simp only [hprior]
    rw [outcome.guard_iff]
    exact ⟨fun _ => (Quiet.refl before).ran false, fun _ => (Quiet.refl before).ran true⟩
  | none =>
    simp only [hprior]
    rw [outcome.guard_iff]
    refine ⟨fun _ => (Quiet.refl before).ran false, fun howner => ?_⟩
    rw [outcome.guard_iff]
    refine ⟨fun _ => (Quiet.refl before).ran false, fun hrevoked => ?_⟩
    rw [outcome.guard_iff]
    refine ⟨fun _ => (Quiet.refl before).ran false, fun hkey => ?_⟩
    rw [outcome.guard_iff]
    refine ⟨fun _ => (Quiet.refl before).ran false, fun hclaimed => ?_⟩
    refine outcome.bind (pairedAccountId_outcome claims) (fun after h => h.ran false) ?_
    rintro accountId store ⟨hquiet, haccountId⟩
    rw [outcome.guard_iff]
    refine ⟨fun _ => hquiet.ran false, fun hsame => ?_⟩
    have hnamed : claims.pairId = some (claims.pairId.getD []) ∧ claims.pairId.getD [] ≠ [] := by
      cases hpair : claims.pairId with
      | none => simp [present, hpair] at hkind
      | some pairId => simpa [present, hpair] using fun h : pairId = [] => by simp [present, hpair, h] at hkind
    have hpairing : claims.kind = .pairing := by
      by_contra h
      exact hkind (.inl h)
    have howner : ∀ named owner, claims.accountId = some named → named ≠ [] →
        before.state.backendOwners.get? claims.backendId = some owner → owner ≠ [] → named = owner := by
      intro named owner hnamed hnonempty howned hownerNonempty
      by_contra hne
      exact howner (by simp [present, hnamed, hnonempty, howned, hownerNonempty, hne])
    -- The account is read or made, then the device, each with a reading of the clock of its own.
    have hfinish : ∀ (store : RendezvousTrustStore) (account : StoredAccount) (device : StoredDevice),
        Quiet before store → PairedAccount before store.tick.clock accountId account →
        PairedDevice before store.tick.clock claims accountId device →
        Outcome (do
            setState (before.state.paired claims account device (claims.pairId.getD []) accountId (← now))
            persist
            return ({ accountId, deviceId := claims.deviceId, backendId := claims.backendId } : PairingConfirmation))
          store (fun _ after => Ran options before (.confirmPairing claims) after true)
          (fun after => Ran options before (.confirmPairing claims) after false) := by
      intro store account device hquiet haccount hdevice
      rw [outcome.bind_iff, now_iff]
      refine outcome.mono (save_outcome hquiet.tick.ready (.paired hpairing hnamed.1 hnamed.2 hprior howner haccountId
        haccount hdevice ⟨hquiet.tick.clock, le_refl _⟩) _) ?_ (fun _ h => h)
      exact fun _ _ h => h.2.2
    cases hexisting : before.state.devices.get? claims.deviceId with
    | some device =>
      rw [hexisting, Option.any_some] at hrevoked hkey hclaimed hsame
      have hdevice := stored_device hexisting hrevoked (by simpa using hkey) (by simpa using hclaimed)
        (by simpa using hsame)
      cases haccount : before.state.accounts.get? accountId with
      | some account =>
        rw [outcome.bind_iff, outcome.pure_iff, outcome.bind_iff, outcome.pure_iff]
        exact hfinish store account device hquiet (.inl haccount) (hdevice _)
      | none =>
        rw [outcome.bind_iff, now_iff, outcome.bind_iff, outcome.pure_iff, outcome.bind_iff, outcome.pure_iff]
        exact hfinish store.tick _ device hquiet.tick
          (.inr ⟨haccount, _, ⟨hquiet.tick.clock, store.tick.clock_le_tick⟩, rfl⟩) (hdevice _)
    | none =>
      cases haccount : before.state.accounts.get? accountId with
      | some account =>
        rw [outcome.bind_iff, outcome.pure_iff, outcome.bind_iff, now_iff, outcome.bind_iff, outcome.pure_iff]
        exact hfinish store.tick account _ hquiet.tick (.inl haccount)
          (.inr ⟨hexisting, _, ⟨hquiet.tick.clock, store.tick.clock_le_tick⟩, rfl⟩)
      | none =>
        rw [outcome.bind_iff, now_iff, outcome.bind_iff, outcome.pure_iff, outcome.bind_iff, now_iff,
          outcome.bind_iff, outcome.pure_iff]
        exact hfinish store.tick.tick _ _ hquiet.tick.tick
          (.inr ⟨haccount, _, ⟨hquiet.tick.clock, store.tick.clock_le_tick.trans store.tick.tick.clock_le_tick⟩, rfl⟩)
          (.inr ⟨hexisting, _, ⟨hquiet.tick.tick.clock, store.tick.tick.clock_le_tick⟩, rfl⟩)

theorem validateChallengeContext_outcome (request : DeviceChallengeRequest) (store : RendezvousTrustStore) :
    Outcome (validateChallengeContext request) store (fun _ after => after = store) (fun after => after = store) := by
  unfold validateChallengeContext
  dsimp only
  split
  · simp only [outcome.guard_iff, outcome.bind_iff, outcome.get_iff, outcome.pure_iff, implies_true, and_self]
  · rfl

theorem resolveChallengeIdentity_outcome (request : DeviceChallengeRequest) (purpose : DeviceChallengePurpose)
    (store : RendezvousTrustStore) :
    Outcome (resolveChallengeIdentity options request purpose) store
      (fun identity after => after = store ∧
        ((∃ key device, store.state.devices.get? key = some device ∧ device.revokedAt = none ∧
            identity.deviceId = device.deviceId ∧ identity.publicKey = device.publicKey) ∨
          (purpose = .pair ∨ purpose = .acceptDeviceInvite) ∧
            deriveDeviceId options.crypto identity.publicKey = .ok identity.deviceId))
      (fun after => after = store) := by
  have hderived : ∀ identity, deriveRequestDeviceId options request.devicePublicKey = .ok identity →
      deriveDeviceId options.crypto identity.publicKey = .ok identity.deviceId := by
    intro identity hidentity
    unfold deriveRequestDeviceId at hidentity
    split at hidentity
    · rename_i publicKey hkey
      cases hderive : deriveDeviceId options.crypto publicKey with
      | error message =>
        rw [hderive] at hidentity
        cases hidentity
      | ok deviceId =>
        rw [hderive] at hidentity
        cases hidentity
        exact hderive
    · cases hidentity
  unfold resolveChallengeIdentity
  rw [outcome.ite_iff]
  refine ⟨fun _ => ?_, fun _ => ?_⟩
  · rw [outcome.bind_iff, outcome.get_iff]
    cases hdevice : store.state.devices.get? (propertyKey request.deviceId) with
    | some device =>
      simp only [outcome.guard_iff, outcome.pure_iff]
      refine ⟨fun _ => trivial, fun hactive => ⟨fun _ => trivial, fun _ => ⟨trivial, .inl ?_⟩⟩⟩
      exact ⟨_, device, hdevice, not_not.mp hactive, rfl, rfl⟩
    | none =>
      simp only [outcome.ite_iff, outcome.bind_iff, liftExcept_iff, outcome.pure_iff, outcome.throw_iff]
      refine ⟨fun hnew => ⟨fun identity hidentity => ?_, fun _ _ => trivial⟩, fun _ => trivial⟩
      exact ⟨fun _ => ⟨trivial, .inr ⟨hnew.1, hderived identity hidentity⟩⟩, fun _ => trivial⟩
  · rw [outcome.guard_iff]
    refine ⟨fun _ => rfl, fun hnew => ?_⟩
    rw [not_or, not_and_or, not_not, not_not] at hnew
    rw [liftExcept_iff]
    exact ⟨fun identity hidentity => ⟨rfl, .inr ⟨hnew.1, hderived identity hidentity⟩⟩, fun _ _ => rfl⟩

theorem createChallenge_outcome (request : DeviceChallengeRequest) :
    Outcome (createChallenge options request) before
      (fun _ after => Ran options before (.createChallenge request) after true)
      (fun after => Ran options before (.createChallenge request) after false) := by
  have hrefl := Quiet.refl before
  unfold createChallenge
  refine outcome.bind prune_outcome (fun after h => h.ran false hrefl) ?_
  intro _ store hpruned
  refine outcome.bind (validateChallengeContext_outcome request store) (fun after h => h ▸ hpruned.ran false hrefl) ?_
  rintro purpose after rfl
  refine outcome.bind (resolveChallengeIdentity_outcome request purpose after)
    (fun after h => h ▸ hpruned.ran false hrefl) ?_
  rintro identity store ⟨rfl, hidentity⟩
  rw [outcome.bind_iff, randomText_iff, outcome.bind_iff, randomText_iff, outcome.bind_iff, now_iff, outcome.bind_iff,
    outcome.modify_iff, outcome.pure_iff]
  have hlater : store.clock ≤ store.draw.draw.tick.clock := store.draw.draw.clock_le_tick
  refine ⟨.swept true ?_ ?_, ?_, (hpruned.ready hrefl).clock.trans hlater, ?_⟩
  · exact .inr ⟨before.tick.clock, before.clock_le_tick, hpruned.clock.ge.trans hlater, hpruned.state⟩
  · exact hpruned.disk
  · intro id challenge hget
    rw [OrderedMap.get?_set] at hget
    split at hget
    · cases hget
      refine .inr ⟨request, rfl, ?_, rfl, rfl, rfl, rfl⟩
      rwa [hpruned.state] at hidentity
    · exact .inl ((hpruned.ready hrefl).memory id challenge hget)
  · exact (hpruned.ready hrefl).drawn.trans (Nat.le_add_right _ 2)

theorem listAuthorizedBackendIds_outcome (challengeId signature : JsString) :
    Outcome (listAuthorizedBackendIds options challengeId signature) before
      (fun _ after => Ran options before (.listAuthorizedBackendIds challengeId signature) after true)
      (fun after => Ran options before (.listAuthorizedBackendIds challengeId signature) after false) := by
  unfold listAuthorizedBackendIds
  refine outcome.bind (consumeChallenge_outcome challengeId signature _) (fun after h => h.ran false) ?_
  rintro challenge store ⟨hquiet, -⟩
  refine outcome.bind (requireActiveDevice_outcome challenge.deviceId store) (fun after h => h ▸ hquiet.ran false) ?_
  rintro device after ⟨rfl, -⟩
  rw [outcome.bind_iff, outcome.get_iff]
  cases haccount : after.state.accounts.get? device.accountId with
  | none =>
    dsimp only
    exact hquiet.ran false
  | some account =>
    dsimp only
    exact hquiet.ran true

/-- A ticket that a call issues from an open challenge. Its id is drawn during the call. -/
structure Issued (before after : RendezvousTrustStore) (issued : IssuedTicket) : Prop where
  claims : ∃ (kind : ConnectionTicketKind) (n : Nat) (challengeId : JsString) (challenge : DeviceChallenge)
    (deviceId devicePublicKey : JsString) (accountId : Option JsString) (pairId : Option Value)
    (issuedAt expiresAt : Int), before.drawn ≤ n ∧ n < after.drawn ∧
      before.memory.get? challengeId = some challenge ∧ (pairId = none ∨ pairId = challenge.pairId) ∧
      issued.claims = claimsValue kind (TICKET_ID_PREFIX ++ decimal n) { challenge with deviceId := deviceId }
        devicePublicKey accountId pairId issuedAt expiresAt
  ticket : ∃ signature, issued.ticket = encodeClaims issued.claims ++ 0x2E :: signature

theorem issuePairingTicket_outcome (challengeId signature : JsString) :
    Outcome (issuePairingTicket options challengeId signature) before
      (fun issued after => Issued before after issued ∧ Quiet before after) (Quiet before) := by
  unfold issuePairingTicket signTicket
  refine outcome.bind (consumeChallenge_outcome challengeId signature _) (fun _ h => h) ?_
  rintro challenge store ⟨hquiet, hanswered, -⟩
  rw [outcome.bind_iff, outcome.get_iff]
  simp only [outcome.bind_iff, randomText_iff, now_iff, random_iff, outcome.pure_iff]
  refine ⟨⟨⟨.pairing, store.drawn, challengeId, challenge, challenge.deviceId, _, _, _, _, _, hquiet.drawn, ?_,
    hanswered.opened, .inr rfl, rfl⟩, _, rfl⟩, hquiet.draw.tick.tick.draw⟩
  exact Nat.lt_succ_of_lt (Nat.lt_succ_self _)

theorem issueConnectionTicket_outcome (challengeId signature : JsString) :
    Outcome (issueConnectionTicket options challengeId signature) before
      (fun issued after => Issued before after issued ∧ Quiet before after) (Quiet before) := by
  unfold issueConnectionTicket signTicket
  refine outcome.bind (consumeChallenge_outcome challengeId signature _) (fun _ h => h) ?_
  rintro challenge store ⟨hquiet, hanswered, -⟩
  refine outcome.bind (requireActiveDevice_outcome challenge.deviceId store) (fun after h => h ▸ hquiet) ?_
  rintro device after ⟨rfl, -⟩
  rw [outcome.bind_iff, outcome.get_iff, outcome.guard_iff]
  refine ⟨fun _ => hquiet, fun _ => ?_⟩
  simp only [outcome.bind_iff, randomText_iff, now_iff, random_iff, outcome.pure_iff]
  refine ⟨⟨⟨.connection, after.drawn, challengeId, challenge, device.deviceId, _, _, _, _, _, hquiet.drawn, ?_,
    hanswered.opened, .inl rfl, rfl⟩, _, rfl⟩, hquiet.draw.tick.tick.draw⟩
  exact Nat.lt_succ_of_lt (Nat.lt_succ_self _)

theorem verifyTicket_outcome (ticket : JsString) :
    Outcome (verifyTicket options ticket) before
      (fun _ after => Ran options before (.verifyTicket ticket) after true)
      (fun after => Ran options before (.verifyTicket ticket) after false) := by
  have hquiet := (Quiet.refl before).tick
  unfold verifyTicket
  rw [outcome.bind_iff, now_iff, liftExcept_iff]
  exact ⟨fun _ _ => hquiet.ran true, fun _ _ => hquiet.ran false⟩

theorem reply_outcome {α : Type} {op : TrustOp α} {call : Call} {post : α → RendezvousTrustStore → Prop}
    {failed : RendezvousTrustStore → Prop} (reply : α → Reply) (h : Outcome op before post failed)
    (hpost : ∀ a after, post a after → Ran options before call after true)
    (hfailed : ∀ after, failed after → Ran options before call after false) :
    Outcome (do return reply (← op)) before (fun _ after => Ran options before call after true)
      (fun after => Ran options before call after false) := by
  rw [outcome.bind_iff]
  exact outcome.mono h (fun a after h => hpost a after h) hfailed

/-- Every call does what its effect says. -/
theorem perform_outcome (options : TrustStoreOptions) (before : RendezvousTrustStore) (call : Call) :
    Outcome (perform options call) before (fun _ after => Ran options before call after true)
      (fun after => Ran options before call after false) := by
  cases call with
  | createChallenge request =>
    exact reply_outcome _ (createChallenge_outcome request) (fun _ _ h => h) fun _ h => h
  | issuePairingTicket challengeId signature =>
    exact reply_outcome _ (issuePairingTicket_outcome challengeId signature) (fun _ _ h => h.2.ran true)
      fun _ h => h.ran false
  | issueConnectionTicket challengeId signature =>
    exact reply_outcome _ (issueConnectionTicket_outcome challengeId signature) (fun _ _ h => h.2.ran true)
      fun _ h => h.ran false
  | verifyTicket ticket => exact reply_outcome _ (verifyTicket_outcome ticket) (fun _ _ h => h) fun _ h => h
  | consumeRouteTicket ticket =>
    exact reply_outcome _ (consumeRouteTicket_outcome ticket) (fun _ _ h => h.2.2.2.2) fun _ h => h
  | confirmPairing claims => exact reply_outcome _ (confirmPairing_outcome claims) (fun _ _ h => h) fun _ h => h
  | listAuthorizedBackendIds challengeId signature =>
    exact reply_outcome _ (listAuthorizedBackendIds_outcome challengeId signature) (fun _ _ h => h) fun _ h => h
  | createDeviceInvite challengeId signature =>
    exact reply_outcome _ (createDeviceInvite_outcome challengeId signature) (fun _ _ h => h) fun _ h => h
  | acceptDeviceInvite challengeId signature inviteId secret =>
    exact reply_outcome _ (acceptDeviceInvite_outcome challengeId signature inviteId secret) (fun _ _ h => h)
      fun _ h => h
  | revokeDevice challengeId signature =>
    exact reply_outcome _ (revokeDevice_outcome challengeId signature) (fun _ _ h => h.2) fun _ h => h
  | revokeBackend challengeId signature =>
    exact reply_outcome _ (revokeBackend_outcome challengeId signature) (fun _ _ h => h.2) fun _ h => h

end

theorem replied {α : Type} {options : TrustStoreOptions} {store : RendezvousTrustStore} {request : Request}
    {op : TrustOp α} {post : α → RendezvousTrustStore → Prop} {failed : RendezvousTrustStore → Prop}
    {result : Reply} (reply : α → Reply) (hperform : perform options request.call = (do return reply (← op)))
    (h : Outcome op { store with circumstances := request.circumstances } post failed)
    (hreply : replyOf options store request = some result) :
    ∃ a, result = reply a ∧ post a (afterCall options store request) := by
  unfold replyOf afterCall serve at *
  rw [hperform] at hreply ⊢
  have hbind : Outcome (do return reply (← op)) { store with circumstances := request.circumstances }
      (fun result after => ∃ a, result = reply a ∧ post a after) failed := by
    rw [outcome.bind_iff]
    exact outcome.mono h (fun a _ hpost => ⟨a, rfl, hpost⟩) fun _ hfailed => hfailed
  cases hresult : (do return reply (← op) : TrustOp Reply) { store with circumstances := request.circumstances } with
  | ok reply after =>
    rw [hresult] at hreply
    cases hreply
    exact outcome.ok hbind hresult
  | error message after =>
    rw [hresult] at hreply
    cases hreply

theorem reply_eq {α : Type} (options : TrustStoreOptions) (store : RendezvousTrustStore) (request : Request)
    {op : TrustOp α} {result : Reply} (reply : α → Reply)
    (hperform : perform options request.call = (do return reply (← op)))
    (hreply : replyOf options store request = some result) : ∃ a, result = reply a := by
  have htrivial : Outcome op { store with circumstances := request.circumstances } (fun _ _ => True) fun _ => True :=
    outcome.of_forall (fun _ _ => trivial) fun _ => trivial
  obtain ⟨a, hresult, -⟩ := replied reply hperform htrivial hreply
  exact ⟨a, hresult⟩

/-- The store that a request meets. -/
def meeting (store : RendezvousTrustStore) (request : Request) : RendezvousTrustStore :=
  { store with circumstances := request.circumstances }

/-- Only the two revocations reply with one. -/
theorem revocation_reply {options : TrustStoreOptions} {store : RendezvousTrustStore} {request : Request}
    {result : RevocationResult} (hreply : replyOf options store request = some (.revocation result)) :
    Revocation (meeting store request) request.call result := by
  cases hcall : request.call with
  | createChallenge body =>
    obtain ⟨_, heq⟩ := reply_eq options store request Reply.challenge (by rw [hcall]; rfl) hreply
    cases heq
  | issuePairingTicket challengeId signature =>
    obtain ⟨_, heq⟩ := reply_eq options store request Reply.ticket (by rw [hcall]; rfl) hreply
    cases heq
  | issueConnectionTicket challengeId signature =>
    obtain ⟨_, heq⟩ := reply_eq options store request Reply.ticket (by rw [hcall]; rfl) hreply
    cases heq
  | verifyTicket ticket =>
    obtain ⟨_, heq⟩ := reply_eq options store request Reply.claims (by rw [hcall]; rfl) hreply
    cases heq
  | consumeRouteTicket ticket =>
    obtain ⟨_, heq⟩ := reply_eq options store request Reply.claims (by rw [hcall]; rfl) hreply
    cases heq
  | confirmPairing claims =>
    obtain ⟨_, heq⟩ := reply_eq options store request Reply.confirmation (by rw [hcall]; rfl) hreply
    cases heq
  | listAuthorizedBackendIds challengeId signature =>
    obtain ⟨_, heq⟩ := reply_eq options store request Reply.backendIds (by rw [hcall]; rfl) hreply
    cases heq
  | createDeviceInvite challengeId signature =>
    obtain ⟨_, heq⟩ := reply_eq options store request Reply.invite (by rw [hcall]; rfl) hreply
    cases heq
  | acceptDeviceInvite challengeId signature inviteId secret =>
    obtain ⟨_, heq⟩ := reply_eq options store request Reply.acceptance (by rw [hcall]; rfl) hreply
    cases heq
  | revokeDevice challengeId signature =>
    obtain ⟨_, heq, hrevocation, -⟩ := replied Reply.revocation (by rw [hcall]; rfl)
      (revokeDevice_outcome challengeId signature) hreply
    cases heq
    exact hrevocation
  | revokeBackend challengeId signature =>
    obtain ⟨_, heq, hrevocation, -⟩ := replied Reply.revocation (by rw [hcall]; rfl)
      (revokeBackend_outcome challengeId signature) hreply
    cases heq
    exact hrevocation

theorem ran (options : TrustStoreOptions) (store : RendezvousTrustStore) (request : Request) :
    Ran options (meeting store request) request.call (afterCall options store request)
      (replyOf options store request).isSome := by
  have houtcome := perform_outcome options (meeting store request) request.call
  unfold afterCall replyOf serve
  change Outcome (perform options request.call) { store with circumstances := request.circumstances } _ _ at houtcome
  unfold Outcome at houtcome
  cases hresult : perform options request.call { store with circumstances := request.circumstances } with
  | ok reply after =>
    rw [hresult] at houtcome
    exact houtcome
  | error message after =>
    rw [hresult] at houtcome
    exact houtcome

end pipane.trust_store

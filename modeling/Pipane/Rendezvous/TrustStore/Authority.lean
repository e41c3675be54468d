import Pipane.Lib.Transition
import Pipane.Rendezvous.TrustStore.Effect
import Pipane.Rendezvous.TrustStore.Load

open javascript json durable transition pipane.trust_protocol pipane.node_trust_crypto

namespace pipane.trust_store

/-- A store that a constructor has just built from a file that it accepted. -/
structure Started (options : TrustStoreOptions) (store : RendezvousTrustStore) : Prop where
  memory : store.memory = ∅
  loaded : loads options.crypto store.state = true

/-- A device belongs to an account if it says so or if the account lists it. -/
def Member (state : StoredTrustState) (accountId deviceId : JsString) : Prop :=
  (∃ device, state.devices.get? deviceId = some device ∧ device.accountId = accountId) ∨
    ∃ account, state.accounts.get? accountId = some account ∧ deviceId ∈ account.deviceIds

/-- `state` still has the device, with the same account and key, and revoked if it was. -/
def KeepsDevice (state : StoredTrustState) (deviceId : JsString) (device : StoredDevice) : Prop :=
  ∃ kept, state.devices.get? deviceId = some kept ∧ kept.accountId = device.accountId ∧
    kept.publicKey = device.publicKey ∧ (device.revokedAt ≠ none → kept.revokedAt ≠ none)

/-- The request is a `revokeBackend` of this backend that a device of the account signed, active at that moment. -/
def RevokesBackend (options : TrustStoreOptions) (store : RendezvousTrustStore) (request : Request)
    (backendId accountId : JsString) : Prop :=
  ∃ challengeId signature challenge device, request.call = .revokeBackend challengeId signature ∧
    store.memory.get? challengeId = some challenge ∧ challenge.purpose = .revokeBackend ∧
    propertyKey challenge.backendId = backendId ∧ store.state.devices.get? challenge.deviceId = some device ∧
    device.accountId = accountId ∧ device.revokedAt = none ∧
    verifyDeviceSignature options.crypto device.publicKey (deviceChallengePayload challenge) signature = true

/-- The request accepts an invite of the account with its secret, before the invite expires. -/
def AcceptsInvite (options : TrustStoreOptions) (store : RendezvousTrustStore) (request : Request)
    (accountId deviceId : JsString) : Prop :=
  ∃ challengeId signature inviteId secret challenge invite,
    request.call = .acceptDeviceInvite challengeId signature inviteId secret ∧
    store.memory.get? challengeId = some challenge ∧ challenge.purpose = .acceptDeviceInvite ∧
    challenge.deviceId = deviceId ∧ store.state.deviceInvites.get? inviteId = some invite ∧
    invite.accountId = accountId ∧ (meeting store request).tick.tick.clock < invite.expiresAt ∧
    secretsEqual (hashDeviceInviteSecret options secret) invite.secretHash = true

/-- The request confirms a pairing of the device with a backend that the account owns, or owns from then on. -/
def ConfirmsPairing (options : TrustStoreOptions) (store : RendezvousTrustStore) (request : Request)
    (accountId deviceId : JsString) : Prop :=
  ∃ claims, request.call = .confirmPairing claims ∧ claims.deviceId = deviceId ∧
    (store.state.backendOwners.get? claims.backendId = some accountId ∨
      store.state.backendOwners.get? claims.backendId = none ∧
        (afterCall options store request).state.backendOwners.get? claims.backendId = some accountId)

structure AuthorityKept (options : TrustStoreOptions) (store : RendezvousTrustStore) (request : Request) : Prop where
  devices : ∀ deviceId device, store.state.devices.get? deviceId = some device →
    KeepsDevice (afterCall options store request).state deviceId device
  owners : ∀ backendId accountId, store.state.backendOwners.get? backendId = some accountId →
    (afterCall options store request).state.backendOwners.get? backendId ≠ some accountId →
    RevokesBackend options store request backendId accountId
  members : ∀ accountId deviceId, ¬ Member store.state accountId deviceId →
    Member (afterCall options store request).state accountId deviceId →
    AcceptsInvite options store request accountId deviceId ∨ ConfirmsPairing options store request accountId deviceId

/-- The account of a ticket is never the empty text. -/
def TicketClaims (request : Request) : Prop :=
  ∀ claims, request.call = .confirmPairing claims → claims.accountId ≠ some []

/-- Records are stored under their own ids, no owner is the empty text, and a challenge that an unknown device
    cannot open names a stored device by its key. -/
structure Sound (store : RendezvousTrustStore) : Prop where
  devices : ∀ id device, store.state.devices.get? id = some device → device.deviceId = id
  accounts : ∀ id account, store.state.accounts.get? id = some account → account.accountId = id
  owners : ∀ id accountId, store.state.backendOwners.get? id = some accountId → accountId ≠ []
  challenges : ∀ id challenge, store.memory.get? id = some challenge → challenge.purpose ≠ .pair →
    challenge.purpose ≠ .acceptDeviceInvite →
    ∃ device, store.state.devices.get? challenge.deviceId = some device ∧
      device.publicKey = challenge.devicePublicKey

namespace KeepsDevice

theorem refl {state : StoredTrustState} {deviceId : JsString} {device : StoredDevice}
    (h : state.devices.get? deviceId = some device) : KeepsDevice state deviceId device :=
  ⟨device, h, rfl, rfl, id⟩

end KeepsDevice

variable {options : TrustStoreOptions}

theorem Started.sound {store : RendezvousTrustStore} (h : Started options store) : Sound store := by
  obtain ⟨htyped, -⟩ := (loads_iff options.crypto store.state).mp h.loaded
  refine ⟨fun id device hget => (htyped.devices id device hget).1,
    fun id account hget => (htyped.accounts id account hget).1, htyped.owners, ?_⟩
  intro id challenge hget
  rw [h.memory] at hget
  cases hget

theorem Swept.records {before after : RendezvousTrustStore} {state : StoredTrustState} (h : Swept before after state) :
    state.devices = before.state.devices ∧ state.accounts = before.state.accounts ∧
      state.backendOwners = before.state.backendOwners := by
  obtain rfl | ⟨time, -, -, rfl⟩ := h
  · exact ⟨rfl, rfl, rfl⟩
  · exact ⟨rfl, rfl, rfl⟩

theorem keepsDevice_set {state after : StoredTrustState} {deviceId writtenId : JsString}
    {device written : StoredDevice} (hafter : after.devices = state.devices.set writtenId written)
    (hdevice : state.devices.get? deviceId = some device)
    (hwritten : deviceId = writtenId → written.accountId = device.accountId ∧ written.publicKey = device.publicKey ∧
      (device.revokedAt ≠ none → written.revokedAt ≠ none)) : KeepsDevice after deviceId device := by
  by_cases hsame : deviceId = writtenId
  · refine ⟨written, ?_, hwritten hsame⟩
    rw [hafter, hsame, OrderedMap.get?_set_self]
  · refine ⟨device, ?_, rfl, rfl, id⟩
    rw [hafter, OrderedMap.get?_set_ne hsame, hdevice]

/-- No effect takes a stored device away, and none but a revocation changes one. -/
theorem Effect.keepsDevice {before : RendezvousTrustStore} {call : Call} {state : StoredTrustState}
    {limit : Int} (h : Effect options before limit call state) {deviceId : JsString} {device : StoredDevice}
    (hdevice : before.state.devices.get? deviceId = some device) : KeepsDevice state deviceId device := by
  cases h with
  | ticketUsed verified unused read => exact KeepsDevice.refl hdevice
  | invited answered active drawn created later => exact KeepsDevice.refl hdevice
  | backendRevoked answered active owned known time => exact KeepsDevice.refl hdevice
  | backendDisowned answered active owned unknown time => exact KeepsDevice.refl hdevice
  | @paired claims _ _ _ written _ kind pair named unconfirmed owner accountIds accounts devices time =>
    refine keepsDevice_set rfl hdevice fun hsame => ?_
    rw [hsame] at hdevice
    obtain ⟨hstored, -⟩ | ⟨hunknown, -⟩ := devices
    · rw [hdevice] at hstored
      cases hstored
      exact ⟨rfl, rfl, id⟩
    · rw [hdevice] at hunknown
      cases hunknown
  | accepted answered pairId invited unexpired proved unknown known created =>
    refine keepsDevice_set rfl hdevice fun hsame => ?_
    rw [hsame, unknown] at hdevice
    cases hdevice
  | deviceRevoked answered active known same time =>
    refine keepsDevice_set rfl hdevice fun hsame => ?_
    rw [hsame, known] at hdevice
    cases hdevice
    exact ⟨rfl, rfl, fun _ => Option.some_ne_none _⟩

/-- The account of a confirmed pairing is the owner that the backend had, if it had one. -/
theorem paired_owner {before : RendezvousTrustStore} {claims : ConnectionTicketClaims}
    {accountId current : JsString} (hclaims : claims.accountId ≠ some [])
    (howner : ∀ named owner, claims.accountId = some named → named ≠ [] →
      before.state.backendOwners.get? claims.backendId = some owner → owner ≠ [] → named = owner)
    (haccountId : PairedAccountId before claims accountId)
    (hcurrent : before.state.backendOwners.get? claims.backendId = some current) (hnonempty : current ≠ []) :
    accountId = current := by
  unfold PairedAccountId at haccountId
  rw [hcurrent] at haccountId
  cases hnamed : claims.accountId with
  | none =>
    rw [hnamed, Option.none_or] at haccountId
    obtain ⟨hsome, -⟩ | ⟨hempty, -⟩ := haccountId
    · exact (Option.some.inj hsome).symm
    · exact absurd (hempty current rfl) hnonempty
  | some named =>
    have hnamedNonempty : named ≠ [] := fun h => hclaims (h ▸ hnamed)
    rw [hnamed, Option.some_or] at haccountId
    obtain ⟨hsome, -⟩ | ⟨hempty, -⟩ := haccountId
    · rw [← Option.some.inj hsome]
      exact howner named current hnamed hnamedNonempty hcurrent hnonempty
    · exact absurd (hempty named rfl) hnamedNonempty

theorem revokesBackend {store : RendezvousTrustStore} {request : Request} {challengeId signature : JsString}
    {challenge : DeviceChallenge} {actor : StoredDevice} (hsound : Sound store)
    (hcall : request.call = .revokeBackend challengeId signature)
    (hanswered : Answered options (meeting store request) challengeId signature .revokeBackend challenge)
    (hactive : ActiveDevice store.state challenge.deviceId actor) :
    RevokesBackend options store request (propertyKey challenge.backendId) actor.accountId := by
  obtain ⟨device, hdevice, hkey⟩ := hsound.challenges challengeId challenge hanswered.opened
    (by rw [hanswered.purpose]; decide) (by rw [hanswered.purpose]; decide)
  rw [hactive.1] at hdevice
  cases hdevice
  refine ⟨challengeId, signature, challenge, actor, hcall, hanswered.opened, hanswered.purpose, rfl, hactive.1, rfl,
    hactive.2, ?_⟩
  rw [hkey]
  exact hanswered.signed

theorem owner_erased {owners : OrderedMap JsString JsString} {key backendId accountId actorId : JsString}
    (howned : owners.get? key = some actorId) (hbefore : owners.get? backendId = some accountId)
    (hafter : (owners.erase key).get? backendId ≠ some accountId) : backendId = key ∧ accountId = actorId := by
  rw [OrderedMap.get?_erase] at hafter
  by_cases hsame : backendId = key
  · rw [hsame, howned] at hbefore
    exact ⟨hsame, (Option.some.inj hbefore).symm⟩
  · rw [if_neg hsame] at hafter
    exact absurd hbefore hafter

/-- An owner changes only by a revocation that a device of the account signed. -/
theorem Effect.owners {store : RendezvousTrustStore} {request : Request} {state : StoredTrustState}
    {limit : Int} (h : Effect options (meeting store request) limit request.call state) (hsound : Sound store)
    (hclaims : TicketClaims request) {backendId accountId : JsString}
    (hbefore : store.state.backendOwners.get? backendId = some accountId)
    (hafter : state.backendOwners.get? backendId ≠ some accountId) :
    RevokesBackend options store request backendId accountId := by
  obtain ⟨call, circumstances⟩ := request
  cases h with
  | ticketUsed verified unused read => exact absurd hbefore hafter
  | invited answered active drawn created later => exact absurd hbefore hafter
  | accepted answered pairId invited unexpired proved unknown known created => exact absurd hbefore hafter
  | deviceRevoked answered active known same time => exact absurd hbefore hafter
  | @paired claims _ paired _ _ _ kind pair named unconfirmed owner accountIds accounts devices time =>
    change (store.state.backendOwners.set claims.backendId paired).get? backendId ≠ some accountId at hafter
    rw [OrderedMap.get?_set] at hafter
    by_cases hsame : backendId = claims.backendId
    · rw [if_pos hsame] at hafter
      rw [hsame] at hbefore
      have heq := paired_owner (hclaims claims rfl) owner accountIds hbefore (hsound.owners _ _ hbefore)
      exact absurd (congrArg some heq) hafter
    · rw [if_neg hsame] at hafter
      exact absurd hbefore hafter
  | backendRevoked answered active owned known time =>
    obtain ⟨rfl, rfl⟩ := owner_erased owned hbefore hafter
    exact revokesBackend hsound rfl answered active
  | backendDisowned answered active owned unknown time =>
    obtain ⟨rfl, rfl⟩ := owner_erased owned hbefore hafter
    exact revokesBackend hsound rfl answered active

theorem member_of_devices (before : StoredTrustState) {after : StoredTrustState} {writtenId deviceId : JsString}
    {written device : StoredDevice} (hafter : after.devices = before.devices.set writtenId written)
    (hdevice : after.devices.get? deviceId = some device) :
    Member before device.accountId deviceId ∨ deviceId = writtenId ∧ device.accountId = written.accountId := by
  rw [hafter, OrderedMap.get?_set] at hdevice
  split at hdevice
  · rename_i hsame
    cases hdevice
    exact .inr ⟨hsame, rfl⟩
  · exact .inl (.inl ⟨device, hdevice, rfl⟩)

theorem member_of_accounts (before : StoredTrustState) {after : StoredTrustState} {writtenId accountId deviceId : JsString}
    {written account : StoredAccount} (hafter : after.accounts = before.accounts.set writtenId written)
    (haccount : after.accounts.get? accountId = some account) (hlisted : deviceId ∈ account.deviceIds) :
    Member before accountId deviceId ∨ accountId = writtenId ∧ deviceId ∈ written.deviceIds := by
  rw [hafter, OrderedMap.get?_set] at haccount
  split at haccount
  · rename_i hsame
    cases haccount
    exact .inr ⟨hsame, hlisted⟩
  · exact .inl (.inr ⟨account, haccount, hlisted⟩)

/-- A device comes to an account by an accepted invite or a confirmed pairing. -/
theorem Effect.members {store : RendezvousTrustStore} {request : Request} {state : StoredTrustState}
    {limit : Int} (h : Effect options (meeting store request) limit request.call state)
    (hstate : (afterCall options store request).state = state) (hsound : Sound store)
    (hclaims : TicketClaims request) {accountId deviceId : JsString}
    (hbefore : ¬ Member store.state accountId deviceId) (hafter : Member state accountId deviceId) :
    AcceptsInvite options store request accountId deviceId ∨
      ConfirmsPairing options store request accountId deviceId := by
  obtain ⟨call, circumstances⟩ := request
  cases h with
  | ticketUsed verified unused read => exact absurd hafter hbefore
  | invited answered active drawn created later => exact absurd hafter hbefore
  | backendDisowned answered active owned unknown time => exact absurd hafter hbefore
  | @backendRevoked _ _ _ actor account _ answered active owned known time =>
    obtain hdevice | ⟨listed, hlisted, hmem⟩ := hafter
    · exact absurd (.inl hdevice) hbefore
    · obtain hmember | ⟨rfl, hmem⟩ := member_of_accounts store.state rfl hlisted hmem
      · exact absurd hmember hbefore
      · exact absurd (.inr ⟨account, known, hmem⟩) hbefore
  | deviceRevoked answered active known same time =>
    obtain ⟨device, hdevice, rfl⟩ | hlisted := hafter
    · obtain hmember | ⟨rfl, haccount⟩ := member_of_devices store.state rfl hdevice
      · exact absurd hmember hbefore
      · exact absurd (.inl ⟨_, known, haccount.symm⟩) hbefore
    · exact absurd (.inr hlisted) hbefore
  | @paired claims pairId paired account written _ kind pair named unconfirmed owner accountIds accounts devices time =>
    have hwritten : written.accountId = paired := by
      obtain ⟨-, -, -, -, hsame⟩ | ⟨-, -, -, rfl⟩ := devices
      · exact hsame
      · rfl
    have hconfirms : ∀ accountId deviceId, accountId = paired → deviceId = claims.deviceId →
        ConfirmsPairing options store ⟨.confirmPairing claims, circumstances⟩ accountId deviceId := by
      rintro _ _ rfl rfl
      refine ⟨claims, rfl, rfl, ?_⟩
      rw [hstate]
      cases hcurrent : store.state.backendOwners.get? claims.backendId with
      | some current =>
        exact .inl (congrArg some (paired_owner (hclaims claims rfl) owner accountIds hcurrent
          (hsound.owners _ _ hcurrent)).symm)
      | none => exact .inr ⟨rfl, OrderedMap.get?_set_self _ _ _⟩
    obtain ⟨device, hdevice, rfl⟩ | ⟨listed, hlisted, hmem⟩ := hafter
    · obtain hmember | ⟨hsame, haccount⟩ := member_of_devices store.state rfl hdevice
      · exact absurd hmember hbefore
      · exact .inr (hconfirms _ _ (haccount.trans hwritten) hsame)
    · obtain hmember | ⟨hsame, hmem⟩ := member_of_accounts store.state rfl hlisted hmem
      · exact absurd hmember hbefore
      · have hmem : deviceId ∈ account.deviceIds ∨ deviceId = claims.deviceId := by
          simp only [appendMissing] at hmem
          split at hmem
          · exact .inl hmem
          · simpa using hmem
        obtain hmem | hnew := hmem
        · obtain hstored | ⟨-, createdAt, -, hempty⟩ := accounts
          · exact absurd (.inr ⟨account, hsame ▸ hstored, hmem⟩) hbefore
          · rw [hempty] at hmem
            exact absurd hmem List.not_mem_nil
        · exact .inr (hconfirms _ _ hsame hnew)
  | @accepted challengeId signature inviteId secret challenge invite account _ answered pairId invited unexpired proved
      unknown known created =>
    have haccepts : ∀ accountId deviceId, accountId = invite.accountId → deviceId = challenge.deviceId →
        AcceptsInvite options store ⟨.acceptDeviceInvite challengeId signature inviteId secret, circumstances⟩ accountId
          deviceId := by
      rintro _ _ rfl rfl
      exact ⟨challengeId, signature, inviteId, secret, challenge, invite, rfl, answered.opened, answered.purpose, rfl,
        invited, rfl, unexpired, proved⟩
    obtain ⟨device, hdevice, rfl⟩ | ⟨listed, hlisted, hmem⟩ := hafter
    · obtain hmember | ⟨hsame, haccount⟩ := member_of_devices store.state rfl hdevice
      · exact absurd hmember hbefore
      · exact .inl (haccepts _ _ (haccount.trans (hsound.accounts _ _ known)) hsame)
    · obtain hmember | ⟨hsame, hmem⟩ := member_of_accounts store.state rfl hlisted hmem
      · exact absurd hmember hbefore
      · obtain hmem | hnew := List.mem_append.mp hmem
        · exact absurd (.inr ⟨account, hsame ▸ known, hmem⟩) hbefore
        · exact .inl (haccepts _ _ hsame (List.mem_singleton.mp hnew))

theorem get?_of_set {α : Type} {record : OrderedMap JsString α} {key id : JsString} {written found : α}
    (h : (record.set key written).get? id = some found) :
    record.get? id = some found ∨ id = key ∧ found = written := by
  rw [OrderedMap.get?_set] at h
  split at h
  · rename_i hsame
    exact .inr ⟨hsame, (Option.some.inj h).symm⟩
  · exact .inl h

/-- The records of the devices, accounts and owners stay sound. -/
theorem Effect.records {before : RendezvousTrustStore} {call : Call} {state : StoredTrustState}
    {limit : Int} (h : Effect options before limit call state) (hsound : Sound before) :
    (∀ id device, state.devices.get? id = some device → device.deviceId = id) ∧
      (∀ id account, state.accounts.get? id = some account → account.accountId = id) ∧
      ∀ id accountId, state.backendOwners.get? id = some accountId → accountId ≠ [] := by
  cases h with
  | ticketUsed verified unused read => exact ⟨hsound.devices, hsound.accounts, hsound.owners⟩
  | invited answered active drawn created later => exact ⟨hsound.devices, hsound.accounts, hsound.owners⟩
  | backendDisowned answered active owned unknown time =>
    refine ⟨hsound.devices, hsound.accounts, fun id accountId hget => ?_⟩
    exact hsound.owners id accountId (OrderedMap.get?_of_erase hget).2
  | backendRevoked answered active owned known time =>
    refine ⟨hsound.devices, fun id account hget => ?_, fun id accountId hget => ?_⟩
    · obtain hget | ⟨rfl, rfl⟩ := get?_of_set hget
      · exact hsound.accounts id account hget
      · have hkey := hsound.accounts _ _ known
        exact hkey
    · exact hsound.owners id accountId (OrderedMap.get?_of_erase hget).2
  | deviceRevoked answered active known same time =>
    refine ⟨fun id device hget => ?_, hsound.accounts, hsound.owners⟩
    obtain hget | ⟨rfl, rfl⟩ := get?_of_set hget
    · exact hsound.devices id device hget
    · have hkey := hsound.devices _ _ known
      exact hkey
  | accepted answered pairId invited unexpired proved unknown known created =>
    refine ⟨fun id device hget => ?_, fun id account hget => ?_, hsound.owners⟩
    · obtain hget | ⟨rfl, rfl⟩ := get?_of_set hget
      · exact hsound.devices id device hget
      · rfl
    · obtain hget | ⟨rfl, rfl⟩ := get?_of_set hget
      · exact hsound.accounts id account hget
      · have hkey := hsound.accounts _ _ known
        exact hkey
  | @paired claims _ paired _ _ _ kind pair named unconfirmed owner accountIds accounts devices time =>
    refine ⟨fun id device hget => ?_, fun id account hget => ?_, fun id accountId hget => ?_⟩
    · obtain hget | ⟨rfl, rfl⟩ := get?_of_set hget
      · exact hsound.devices id device hget
      · obtain ⟨hstored, -⟩ | ⟨-, -, -, rfl⟩ := devices
        · exact hsound.devices _ _ hstored
        · rfl
    · obtain hget | ⟨rfl, rfl⟩ := get?_of_set hget
      · exact hsound.accounts id account hget
      · obtain hstored | ⟨-, -, -, rfl⟩ := accounts
        · have hkey := hsound.accounts _ _ hstored
          exact hkey
        · rfl
    · obtain hget | ⟨rfl, rfl⟩ := get?_of_set hget
      · exact hsound.owners id accountId hget
      · obtain ⟨-, hnonempty⟩ | ⟨-, n, -, rfl⟩ := accountIds
        · exact hnonempty
        · exact List.append_ne_nil_of_left_ne_nil (by decide) _

theorem Stored.swept_or_effect {before after : RendezvousTrustStore} {call : Call} {returned : Bool}
    (h : Stored options before call after returned) :
    Swept before after after.state ∨ Effect options before after.clock call after.state := by
  cases h with
  | swept returned state disk => exact .inl state
  | saved effect disk => exact .inr effect
  | unsaved effect failed disk => exact .inr effect

theorem Stored.keepsDevice {before after : RendezvousTrustStore} {call : Call} {returned : Bool}
    (h : Stored options before call after returned) {deviceId : JsString} {device : StoredDevice}
    (hdevice : before.state.devices.get? deviceId = some device) : KeepsDevice after.state deviceId device := by
  obtain hswept | heffect := h.swept_or_effect
  · refine KeepsDevice.refl ?_
    rw [hswept.records.1]
    exact hdevice
  · exact heffect.keepsDevice hdevice

theorem Sound.afterCall {store : RendezvousTrustStore} (hsound : Sound store) (request : Request) :
    Sound (afterCall options store request) := by
  have hran := ran options store request
  have hmeeting : Sound (meeting store request) :=
    ⟨hsound.devices, hsound.accounts, hsound.owners, hsound.challenges⟩
  have hrecords : (∀ id device, (trust_store.afterCall options store request).state.devices.get? id = some device →
        device.deviceId = id) ∧
      (∀ id account, (trust_store.afterCall options store request).state.accounts.get? id = some account →
        account.accountId = id) ∧
      ∀ id accountId, (trust_store.afterCall options store request).state.backendOwners.get? id = some accountId →
        accountId ≠ [] := by
    obtain hswept | heffect := hran.stored.swept_or_effect
    · rw [hswept.records.1, hswept.records.2.1, hswept.records.2.2]
      exact ⟨hsound.devices, hsound.accounts, hsound.owners⟩
    · exact heffect.records hmeeting
  refine ⟨hrecords.1, hrecords.2.1, hrecords.2.2, fun id challenge hget hpair haccept => ?_⟩
  obtain hopen | ⟨body, -, hopened⟩ := hran.memory id challenge hget
  · obtain ⟨device, hdevice, hkey⟩ := hsound.challenges id challenge hopen hpair haccept
    obtain ⟨kept, hkept, -, hkeptKey, -⟩ := hran.stored.keepsDevice hdevice
    exact ⟨kept, hkept, hkeptKey.trans hkey⟩
  · obtain ⟨key, device, hdevice, -, hdeviceId, hpublicKey⟩ | ⟨hpurpose, -⟩ := hopened.identity
    · obtain ⟨kept, hkept, -, hkeptKey, -⟩ := hran.stored.keepsDevice hdevice
      refine ⟨kept, ?_, hkeptKey.trans hpublicKey.symm⟩
      rw [hdeviceId, hsound.devices key device hdevice]
      exact hkept
    · exact absurd hpurpose (not_or.mpr ⟨hpair, haccept⟩)

theorem Sound.authorityKept {store : RendezvousTrustStore} (hsound : Sound store) {request : Request}
    (hclaims : TicketClaims request) : AuthorityKept options store request := by
  have hran := ran options store request
  refine ⟨fun deviceId device hdevice => hran.stored.keepsDevice hdevice, fun backendId accountId hbefore hafter => ?_,
    fun accountId deviceId hbefore hafter => ?_⟩
  · obtain hswept | heffect := hran.stored.swept_or_effect
    · rw [hswept.records.2.2] at hafter
      exact absurd hbefore hafter
    · exact heffect.owners hsound hclaims hbefore hafter
  · obtain hswept | heffect := hran.stored.swept_or_effect
    · have hsame : Member store.state accountId deviceId := by
        unfold Member at hafter ⊢
        rwa [hswept.records.1, hswept.records.2.1] at hafter
      exact absurd hsame hbefore
    · exact heffect.members rfl hsound hclaims hbefore hafter

/-- In every run of a trust store no device changes its account or its key or becomes active again, a backend leaves an
    account only by a revocation that an active device of the account signed, and a device comes to an account only by
    an invite of the account or by a pairing with a backend of the account. -/
theorem account_authority (start : RendezvousTrustStore) (hstart : Started options start) (requests : List Request)
    (hclaims : EveryStep (afterCall options) start (fun _ request => TicketClaims request) requests) :
    EveryStep (afterCall options) start (AuthorityKept options) requests := by
  have hsound : Always (afterCall options) start Sound requests :=
    always_of_step hstart.sound (fun _ request hsound => hsound.afterCall request) requests
  exact everyStep_of_always hsound hclaims fun _ _ hsound hclaims => hsound.authorityKept hclaims

/-- A key that is any byte sequence, and signatures that repeat the key and the text. -/
def plainCrypto : NodeCrypto where
  KeyObject := List UInt8
  sha256 := id
  createPublicKey := some
  isP256 _ := true
  exportSpki := id
  verify key payload signature := signature = base64.encodeUrl (key ++ payload)

def plainSignature (publicKey payload : JsString) : JsString :=
  base64.encodeUrl (base64.decodeUrl publicKey ++ textEncode payload)

def plainOptions : TrustStoreOptions where
  crypto := plainCrypto
  ticketPublicKey := js "VElD"
  sign _ payload := base64.encodeUrl (base64.decodeUrl (js "VElD") ++ payload)

/-- A store whose file is new. -/
def freshStore (clock : Int) : RendezvousTrustStore where
  state := {}
  disk := {}
  memory := ∅
  clock
  drawn := 0
  circumstances := { ticks := [], pruned := .written, saved := .written }

/-- What a new device presents to pair with a backend. -/
def pairingClaims (deviceId devicePublicKey : JsString) : ConnectionTicketClaims where
  kind := .pairing
  ticketId := js "t_0"
  backendId := js "b_x"
  connectionId := js "c_0"
  deviceId
  devicePublicKey
  accountId := none
  pairId := some (js "pair_0")
  issuedAt := 1
  expiresAt := 120001

theorem account_authority_pairing :
    EveryStep (afterCall plainOptions) (freshStore 1) (AuthorityKept plainOptions)
      [{ call := .confirmPairing (pairingClaims (js "d_QUJD") (js "QUJD")) },
        { call := .createChallenge { purpose := some (.str (js "discover")), deviceId := some (.str (js "d_QUJD")) } }] := by
  refine account_authority (freshStore 1) ⟨rfl, by decide +kernel⟩ _ ?_
  rw [everyStep_cons, everyStep_cons]
  refine ⟨fun claims h => ?_, fun claims h => ?_, everyStep_nil⟩
  · cases h
    decide
  · cases h

end pipane.trust_store

import Pipane.Rendezvous.TrustStore.Authority

open javascript json durable transition pipane.trust_protocol pipane.node_trust_crypto

namespace pipane.trust_store

/-- The latest time, in milliseconds, to which the lifetime of an invite can be added. -/
def LAST_TIME : Int := 9007199254740991 - DEVICE_INVITE_TTL_MS

/-- A call whose effect the loader accepts: the clock shows a time until its end, the claims of a pairing name their
    device by its key, and the backend that is revoked is named by a text, or has no owner. -/
structure Regular (options : TrustStoreOptions) (before : RendezvousTrustStore) (limit : Int) (call : Call) :
    Prop where
  clock : 0 ≤ before.clock
  limit : limit ≤ LAST_TIME
  claims : ∀ claims, call = .confirmPairing claims →
    claims.WellFormed ∧ deriveDeviceId options.crypto claims.devicePublicKey = .ok claims.deviceId
  backend : ∀ challengeId signature challenge, call = .revokeBackend challengeId signature →
    before.memory.get? challengeId = some challenge →
    (∃ backendId, challenge.backendId = some (.str backendId)) ∨
      before.state.backendOwners.get? (propertyKey challenge.backendId) = none

def RegularEvent (options : TrustStoreOptions) (store : RendezvousTrustStore) : Event → Prop
  | .request request => Regular options store (afterCall options store request).clock request.call
  | .restart => True

/-- The next start accepts the state in memory and the one on the disk. -/
def Reloads (options : TrustStoreOptions) (store : RendezvousTrustStore) : Prop :=
  loads options.crypto store.state = true ∧ loads options.crypto store.disk = true

theorem deriveDeviceId_ok {crypto : NodeCrypto} {publicKey deviceId : JsString}
    (h : deriveDeviceId crypto publicKey = .ok deviceId) : publicKey ≠ [] ∧ deviceId ≠ [] := by
  unfold deriveDeviceId at h
  cases hdecode : decodeP256PublicKey crypto publicKey with
  | error message =>
    rw [hdecode] at h
    cases h
  | ok bytes =>
    rw [hdecode] at h
    cases h
    refine ⟨?_, List.append_ne_nil_of_left_ne_nil (by decide) _⟩
    rintro rfl
    rw [decodeP256PublicKey, if_pos (.inl rfl)] at hdecode
    cases hdecode

section

variable {α : Type} {record : OrderedMap JsString α} {P : JsString → α → Prop}

theorem forall_set (h : ∀ id a, record.get? id = some a → P id a) {key : JsString} {b : α} (hb : P key b) :
    ∀ id a, (record.set key b).get? id = some a → P id a := by
  intro id a hget
  obtain hget | ⟨rfl, rfl⟩ := get?_of_set hget
  · exact h id a hget
  · exact hb

theorem forall_erase (h : ∀ id a, record.get? id = some a → P id a) (key : JsString) :
    ∀ id a, (record.erase key).get? id = some a → P id a :=
  fun id a hget => h id a (OrderedMap.get?_of_erase hget).2

theorem forall_filter (h : ∀ id a, record.get? id = some a → P id a) (p : α → Bool) :
    ∀ id a, (record.filter p).get? id = some a → P id a :=
  fun id a hget => h id a (OrderedMap.get?_of_filter hget).1

end

variable {options : TrustStoreOptions} {before : RendezvousTrustStore} {limit : Int}

theorem Read.nonNegative {time : Int} (h : Read before limit time) (hclock : 0 ≤ before.clock)
    (hlimit : limit ≤ LAST_TIME) : NonNegative time := by
  obtain ⟨hfrom, huntil⟩ := h
  simp only [LAST_TIME, DEVICE_INVITE_TTL_MS] at hlimit
  constructor <;> omega

theorem StoredTrustState.WellTyped.pruned {state : StoredTrustState} (h : state.WellTyped) (time : Int) :
    (state.pruned time).WellTyped :=
  ⟨h.accounts, h.devices, h.owners, h.revocations, h.completions, forall_filter h.invites _,
    forall_filter h.tickets _⟩

theorem StoredTrustState.Consistent.pruned {crypto : NodeCrypto} {state : StoredTrustState}
    (h : state.Consistent crypto) (time : Int) : (state.pruned time).Consistent crypto :=
  ⟨h.derived, h.listed, h.members, h.owned, h.owners, forall_filter h.invites _⟩

theorem mem_appendMissing {id other : JsString} {ids : List JsString} :
    other ∈ appendMissing id ids ↔ other ∈ ids ∨ other = id := by
  unfold appendMissing
  split
  · rename_i hmem
    constructor
    · exact .inl
    · rintro (hother | rfl)
      · exact hother
      · exact hmem
  · rw [List.mem_append, List.mem_singleton]

theorem hash_ne_nil (hsha256 : ∀ bytes, bytes ≠ [] → options.crypto.sha256 bytes ≠ []) (secret : JsString) :
    hashDeviceInviteSecret options secret ≠ [] := by
  intro hnil
  have hdecoded := congrArg base64.decodeUrl hnil
  rw [hashDeviceInviteSecret, base64.decodeUrl_encodeUrl] at hdecoded
  refine hsha256 _ ?_ hdecoded
  have hversion : WellFormed (js "pipane-device-invite-v1") := ⟨_, rfl⟩
  rw [textEncode_append_of_wellFormed hversion]
  exact List.append_ne_nil_of_left_ne_nil (by decide +kernel) _

/-- A store whose state the loader accepts, and whose challenges name their devices by their keys. -/
structure Loadable (options : TrustStoreOptions) (store : RendezvousTrustStore) : Prop where
  wellTyped : store.state.WellTyped
  consistent : store.state.Consistent options.crypto
  challenges : ∀ id challenge, store.memory.get? id = some challenge →
    deriveDeviceId options.crypto challenge.devicePublicKey = .ok challenge.deviceId

theorem Effect.wellTyped {call : Call} {state : StoredTrustState} (h : Effect options before limit call state)
    (hsha256 : ∀ bytes, bytes ≠ [] → options.crypto.sha256 bytes ≠ []) (hbefore : Loadable options before)
    (hregular : Regular options before limit call) : state.WellTyped := by
  have hwell := hbefore.wellTyped
  have htime : ∀ time, Read before limit time → NonNegative time :=
    fun time hread => hread.nonNegative hregular.clock hregular.limit
  cases h with
  | @ticketUsed ticket claims verified unused read =>
    obtain ⟨_, _, _, _, _, hparse, _⟩ := verifyConnectionTicket_ok verified
    have hclaims := (parseConnectionTicketClaims_some hparse).1
    have hexpiresAt : NonNegative claims.expiresAt := by
      have hissuedAt := hclaims.issuedAt
      obtain ⟨hlater, hsafe⟩ := hclaims.expiresAt
      simp only [isSafeInteger, Bool.and_eq_true, decide_eq_true_eq] at hsafe
      constructor <;> omega
    have hpruned := hwell.pruned before.tick.tick.clock
    exact ⟨hpruned.accounts, hpruned.devices, hpruned.owners, hpruned.revocations, hpruned.completions,
      hpruned.invites, forall_set hpruned.tickets hexpiresAt⟩
  | @paired claims pairId accountId account device completedAt kind pair named unconfirmed owner accountIds accounts
      devices time =>
    obtain ⟨hclaims, hderived⟩ := hregular.claims claims rfl
    have haccountId : accountId ≠ [] := by
      obtain ⟨-, hne⟩ | ⟨-, n, -, rfl⟩ := accountIds
      · exact hne
      · exact List.append_ne_nil_of_left_ne_nil (by decide) _
    have haccount : account.Ok accountId := by
      obtain hstored | ⟨-, createdAt, hread, rfl⟩ := accounts
      · exact hwell.accounts accountId account hstored
      · exact ⟨rfl, List.not_mem_nil, List.not_mem_nil, htime createdAt hread⟩
    have hdevice : device.Ok claims.deviceId := by
      obtain ⟨hstored, -⟩ | ⟨-, createdAt, hread, rfl⟩ := devices
      · exact hwell.devices claims.deviceId device hstored
      · refine ⟨rfl, hclaims.devicePublicKey, haccountId, htime createdAt hread, fun revokedAt hrevoked => ?_⟩
        cases hrevoked
    refine ⟨forall_set hwell.accounts ?_, forall_set hwell.devices hdevice, forall_set hwell.owners haccountId,
      forall_erase hwell.revocations _, forall_set hwell.completions ?_, hwell.invites, hwell.tickets⟩
    · obtain ⟨hid, hdeviceIds, hbackendIds, hcreatedAt⟩ := haccount
      refine ⟨hid, fun hmem => ?_, fun hmem => ?_, hcreatedAt⟩
      · obtain hmem | hnil := mem_appendMissing.mp hmem
        · exact hdeviceIds hmem
        · exact hclaims.deviceId hnil.symm
      · obtain hmem | hnil := mem_appendMissing.mp hmem
        · exact hbackendIds hmem
        · exact hclaims.backendId hnil.symm
    · exact ⟨rfl, hclaims.ticketId, haccountId, hclaims.deviceId, hclaims.backendId, htime completedAt time⟩
  | @invited challengeId signature challenge actor n secret createdAt expiresAt answered active drawn created later =>
    obtain ⟨hid, -, haccountId, -, -⟩ := hwell.devices challenge.deviceId actor active.1
    have hdeviceId : actor.deviceId ≠ [] := by
      rw [hid]
      exact (deriveDeviceId_ok (hbefore.challenges challengeId challenge answered.opened)).2
    have hlast := hregular.limit
    have hfirst := hregular.clock
    have hcreated := htime createdAt created
    have hlifetime : NonNegative (expiresAt + DEVICE_INVITE_TTL_MS) ∧ createdAt < expiresAt + DEVICE_INVITE_TTL_MS := by
      obtain ⟨hafter, hbound⟩ := later
      simp only [LAST_TIME, DEVICE_INVITE_TTL_MS, NonNegative] at hlast hcreated ⊢
      omega
    exact ⟨hwell.accounts, hwell.devices, hwell.owners, hwell.revocations, hwell.completions,
      forall_set hwell.invites ⟨rfl, hash_ne_nil hsha256 _, haccountId, hdeviceId, hcreated, hlifetime.1, hlifetime.2⟩,
      hwell.tickets⟩
  | @accepted challengeId signature inviteId secret challenge invite account createdAt answered pairId invited unexpired
      proved unknown known created =>
    obtain ⟨hpublicKey, hdeviceId⟩ := deriveDeviceId_ok (hbefore.challenges challengeId challenge answered.opened)
    obtain ⟨hid, hdeviceIds, hbackendIds, hcreatedAt⟩ := hwell.accounts invite.accountId account known
    have haccountId : account.accountId ≠ [] := by
      rw [hid]
      exact (hwell.invites inviteId invite invited).2.2.1
    refine ⟨forall_set hwell.accounts ⟨hid, fun hmem => ?_, hbackendIds, hcreatedAt⟩, forall_set hwell.devices ?_,
      hwell.owners, hwell.revocations, hwell.completions, forall_erase hwell.invites _, hwell.tickets⟩
    · obtain hmem | hnil := List.mem_append.mp hmem
      · exact hdeviceIds hmem
      · exact hdeviceId (List.mem_singleton.mp hnil).symm
    · refine ⟨rfl, hpublicKey, haccountId, htime createdAt created, fun revokedAt hrevoked => ?_⟩
      cases hrevoked
  | @deviceRevoked challengeId signature challenge actor target revokedAt answered active known same time =>
    obtain ⟨hid, hpublicKey, haccountId, hcreatedAt, -⟩ := hwell.devices _ target known
    refine ⟨hwell.accounts, forall_set hwell.devices ⟨hid, hpublicKey, haccountId, hcreatedAt, ?_⟩, hwell.owners,
      hwell.revocations, hwell.completions, hwell.invites, hwell.tickets⟩
    intro at' hrevoked
    cases hrevoked
    exact htime revokedAt time
  | @backendRevoked challengeId signature challenge actor account revokedAt answered active owned known time =>
    obtain ⟨hid, hdeviceIds, hbackendIds, hcreatedAt⟩ := hwell.accounts actor.accountId account known
    have haccountId := (hwell.devices challenge.deviceId actor active.1).2.2.1
    refine ⟨forall_set hwell.accounts ⟨hid, hdeviceIds, fun hmem => ?_, hcreatedAt⟩, hwell.devices,
      forall_erase hwell.owners _, forall_set hwell.revocations ⟨haccountId, htime revokedAt time⟩, hwell.completions,
      hwell.invites, hwell.tickets⟩
    exact hbackendIds (List.mem_of_mem_filter hmem)
  | @backendDisowned challengeId signature challenge actor revokedAt answered active owned unknown time =>
    have haccountId := (hwell.devices challenge.deviceId actor active.1).2.2.1
    exact ⟨hwell.accounts, hwell.devices, forall_erase hwell.owners _,
      forall_set hwell.revocations ⟨haccountId, htime revokedAt time⟩, hwell.completions, hwell.invites,
      hwell.tickets⟩

/-- An account before a device or a backend is added to it: a stored one, or a new one. -/
structure Joinable (state : StoredTrustState) (accountId : JsString) (account : StoredAccount) : Prop where
  named : account.accountId = accountId
  stored : state.accounts.get? accountId = some account ∨
    state.accounts.get? accountId = none ∧ account.deviceIds = [] ∧ account.backendIds = []

/-- A device of the account: a stored one, or a new one that its key names. -/
structure Joining (crypto : NodeCrypto) (state : StoredTrustState) (accountId : JsString) (device : StoredDevice) :
    Prop where
  account : device.accountId = accountId
  derived : deriveDeviceId crypto device.publicKey = .ok device.deviceId
  stored : ∀ prior, state.devices.get? device.deviceId = some prior → prior.accountId = accountId

/-- A device of an account that then lists it keeps the references consistent. -/
theorem StoredTrustState.Consistent.join {crypto : NodeCrypto} {state joined : StoredTrustState}
    (h : state.Consistent crypto) (hwell : state.WellTyped) {accountId : JsString}
    {account joinedAccount : StoredAccount} {device : StoredDevice} (haccount : Joinable state accountId account)
    (hdevice : Joining crypto state accountId device) (hid : joinedAccount.accountId = accountId)
    (hdeviceIds : ∀ id, id ∈ joinedAccount.deviceIds ↔ id ∈ account.deviceIds ∨ id = device.deviceId)
    (haccounts : joined.accounts = state.accounts.set accountId joinedAccount)
    (hdevices : joined.devices = state.devices.set device.deviceId device)
    (hinvites : ∀ id invite, joined.deviceInvites.get? id = some invite → state.deviceInvites.get? id = some invite)
    (howned : ∀ id account, joined.accounts.get? id = some account → ∀ backendId ∈ account.backendIds,
      joined.backendOwners.get? backendId = some account.accountId)
    (howners : ∀ id accountId, joined.backendOwners.get? id = some accountId →
      ∃ account, joined.accounts.get? accountId = some account ∧ id ∈ account.backendIds) :
    joined.Consistent crypto := by
  have hself : joined.accounts.get? accountId = some joinedAccount := by
    rw [haccounts, OrderedMap.get?_set_self]
  have hkept : ∀ id stored, state.accounts.get? id = some stored →
      ∃ kept, joined.accounts.get? id = some kept ∧ ∀ deviceId ∈ stored.deviceIds, deviceId ∈ kept.deviceIds := by
    intro id stored hstored
    by_cases hsame : id = accountId
    · subst hsame
      refine ⟨joinedAccount, hself, fun deviceId hmem => (hdeviceIds deviceId).mpr (.inl ?_)⟩
      obtain hprior | ⟨hnone, -⟩ := haccount.stored
      · rw [hstored] at hprior
        rwa [← Option.some.inj hprior]
      · rw [hnone] at hstored
        cases hstored
    · refine ⟨stored, ?_, fun _ hmem => hmem⟩
      rw [haccounts, OrderedMap.get?_set_ne hsame]
      exact hstored
  have hmember : ∀ deviceId stored, state.devices.get? deviceId = some stored →
      ∃ kept, joined.devices.get? deviceId = some kept ∧ kept.accountId = stored.accountId := by
    intro deviceId stored hstored
    by_cases hsame : deviceId = device.deviceId
    · subst hsame
      refine ⟨device, ?_, hdevice.account.trans (hdevice.stored stored hstored).symm⟩
      rw [hdevices, OrderedMap.get?_set_self]
    · refine ⟨stored, ?_, rfl⟩
      rw [hdevices, OrderedMap.get?_set_ne hsame]
      exact hstored
  refine ⟨fun id stored hget => ?_, fun id stored hget => ?_, fun id stored hget deviceId hmem => ?_, howned, howners,
    fun id invite hget => ?_⟩
  · rw [hdevices] at hget
    obtain hget | ⟨-, rfl⟩ := get?_of_set hget
    · exact h.derived id stored hget
    · exact hdevice.derived
  · rw [hdevices] at hget
    obtain hget | ⟨-, rfl⟩ := get?_of_set hget
    · obtain ⟨account, hstored, hlisted⟩ := h.listed id stored hget
      obtain ⟨kept, hkept, hlists⟩ := hkept _ account hstored
      exact ⟨kept, hkept, hlists _ hlisted⟩
    · rw [hdevice.account]
      exact ⟨joinedAccount, hself, (hdeviceIds _).mpr (.inr rfl)⟩
  · rw [haccounts] at hget
    have hold : ∀ account, state.accounts.get? id = some account → deviceId ∈ account.deviceIds →
        ∃ kept, joined.devices.get? deviceId = some kept ∧ kept.accountId = id := by
      intro account hstored hlisted
      obtain ⟨stored, hdeviceStored, hsame⟩ := h.members id account hstored deviceId hlisted
      obtain ⟨kept, hkept, heq⟩ := hmember deviceId stored hdeviceStored
      exact ⟨kept, hkept, heq.trans (hsame.trans (hwell.accounts id account hstored).1)⟩
    obtain hget | ⟨rfl, rfl⟩ := get?_of_set hget
    · rw [(hwell.accounts id stored hget).1]
      exact hold stored hget hmem
    · rw [hid]
      obtain hmem | rfl := (hdeviceIds deviceId).mp hmem
      · obtain hprior | ⟨-, hempty, -⟩ := haccount.stored
        · exact hold account hprior hmem
        · rw [hempty] at hmem
          cases hmem
      · refine ⟨device, ?_, hdevice.account⟩
        rw [hdevices, OrderedMap.get?_set_self]
  · obtain ⟨⟨account, hstored⟩, stored, hdeviceStored, hsame⟩ := h.invites id invite (hinvites id invite hget)
    obtain ⟨kept, hkept, -⟩ := hkept _ account hstored
    obtain ⟨keptDevice, hkeptDevice, heq⟩ := hmember _ stored hdeviceStored
    exact ⟨⟨kept, hkept⟩, keptDevice, hkeptDevice, heq.trans hsame⟩

theorem owner_paired {claims : ConnectionTicketClaims} {accountId owner : JsString}
    (hclaims : claims.WellFormed) (hwell : before.state.WellTyped)
    (hsame : ∀ named owner, claims.accountId = some named → named ≠ [] →
      before.state.backendOwners.get? claims.backendId = some owner → owner ≠ [] → named = owner)
    (haccountId : PairedAccountId before claims accountId)
    (howner : before.state.backendOwners.get? claims.backendId = some owner) : owner = accountId := by
  have hne := hwell.owners _ owner howner
  cases hnamed : claims.accountId with
  | some named =>
    have hnamedNe : named ≠ [] := by
      rintro rfl
      exact hclaims.accountId hnamed
    obtain ⟨hor, -⟩ | ⟨hempty, -⟩ := haccountId
    · rw [hnamed] at hor
      obtain rfl := Option.some.inj hor
      exact (hsame _ owner hnamed hnamedNe howner hne).symm
    · rw [hnamed] at hempty
      exact absurd (hempty named rfl) hnamedNe
  | none =>
    obtain ⟨hor, -⟩ | ⟨hempty, -⟩ := haccountId
    · rw [hnamed, howner] at hor
      exact Option.some.inj hor
    · rw [hnamed, howner] at hempty
      exact absurd (hempty owner rfl) hne

theorem paired_consistent {claims : ConnectionTicketClaims} {pairId accountId : JsString}
    {account : StoredAccount} {device : StoredDevice} (completedAt : Int) (hbefore : Loadable options before)
    (hderived : deriveDeviceId options.crypto claims.devicePublicKey = .ok claims.deviceId)
    (hprevious : ∀ owner, before.state.backendOwners.get? claims.backendId = some owner → owner = accountId)
    (haccounts : PairedAccount before limit accountId account)
    (hdevices : PairedDevice before limit claims accountId device) :
    (before.state.paired claims account device pairId accountId completedAt).Consistent options.crypto := by
  have hwell := hbefore.wellTyped
  have hconsistent := hbefore.consistent
  have haccount : Joinable before.state accountId account := by
    obtain hstored | ⟨hnone, createdAt, -, rfl⟩ := haccounts
    · exact ⟨(hwell.accounts accountId account hstored).1, .inl hstored⟩
    · exact ⟨rfl, .inr ⟨hnone, rfl, rfl⟩⟩
  have hdevice : Joining options.crypto before.state accountId device ∧ device.deviceId = claims.deviceId := by
    obtain ⟨hstored, -, -, -, hsame⟩ | ⟨hnone, createdAt, -, rfl⟩ := hdevices
    · have hid := (hwell.devices claims.deviceId device hstored).1
      refine ⟨⟨hsame, hconsistent.derived _ device hstored, fun prior hprior => ?_⟩, hid⟩
      rw [hid, hstored] at hprior
      rwa [← Option.some.inj hprior]
    · refine ⟨⟨rfl, hderived, fun prior hprior => ?_⟩, rfl⟩
      rw [hnone] at hprior
      cases hprior
  obtain ⟨hjoining, hid⟩ := hdevice
  have hnamed : (StoredAccount.mk account.accountId (appendMissing claims.deviceId account.deviceIds)
      (appendMissing claims.backendId account.backendIds) account.createdAt).accountId = accountId := haccount.named
  refine hconsistent.join hwell haccount hjoining hnamed (fun id => ?_) rfl ?_ (fun _ _ h => h)
    (fun id stored hget backendId hmem => ?_) (fun id owner hget => ?_)
  · rw [hid]
    exact mem_appendMissing
  · rw [hid]
    rfl
  · have hold : ∀ account, before.state.accounts.get? id = some account → backendId ∈ account.backendIds →
        (before.state.backendOwners.set claims.backendId accountId).get? backendId = some account.accountId := by
      intro account hstored hlisted
      have howned := hconsistent.owned id account hstored backendId hlisted
      by_cases hsame : backendId = claims.backendId
      · subst hsame
        rw [OrderedMap.get?_set_self, hprevious _ howned]
      · rw [OrderedMap.get?_set_ne hsame]
        exact howned
    obtain hget | ⟨rfl, rfl⟩ := get?_of_set hget
    · exact hold stored hget hmem
    · obtain hmem | rfl := mem_appendMissing.mp hmem
      · obtain hprior | ⟨-, -, hempty⟩ := haccount.stored
        · exact hold account hprior hmem
        · rw [hempty] at hmem
          cases hmem
      · have hself := OrderedMap.get?_set_self before.state.backendOwners claims.backendId id
        exact hself.trans (congrArg some haccount.named.symm)
  · have hself : (before.state.accounts.set accountId { account with
          deviceIds := appendMissing claims.deviceId account.deviceIds
          backendIds := appendMissing claims.backendId account.backendIds }).get? accountId = _ :=
      OrderedMap.get?_set_self _ _ _
    obtain hget | ⟨rfl, rfl⟩ := get?_of_set hget
    · obtain ⟨stored, hstored, hlisted⟩ := hconsistent.owners id owner hget
      by_cases hsame : owner = accountId
      · subst hsame
        refine ⟨_, hself, mem_appendMissing.mpr (.inl ?_)⟩
        obtain hprior | ⟨hnone, -⟩ := haccount.stored
        · rw [hstored] at hprior
          rwa [← Option.some.inj hprior]
        · rw [hnone] at hstored
          cases hstored
      · exact ⟨stored, (OrderedMap.get?_set_ne hsame _).trans hstored, hlisted⟩
    · exact ⟨_, hself, mem_appendMissing.mpr (.inr rfl)⟩

theorem accepted_consistent {inviteId challengeId : JsString} {challenge : DeviceChallenge}
    {invite : StoredDeviceInvite} {account : StoredAccount} (createdAt : Int) (hbefore : Loadable options before)
    (hopened : before.memory.get? challengeId = some challenge)
    (hunknown : before.state.devices.get? challenge.deviceId = none)
    (hknown : before.state.accounts.get? invite.accountId = some account) :
    (before.state.accepted inviteId account invite.accountId {
      deviceId := challenge.deviceId
      publicKey := challenge.devicePublicKey
      accountId := account.accountId
      createdAt }).Consistent options.crypto := by
  have hconsistent := hbefore.consistent
  have hid : account.accountId = invite.accountId := (hbefore.wellTyped.accounts _ account hknown).1
  have hnamed : (StoredAccount.mk account.accountId (account.deviceIds ++ [challenge.deviceId]) account.backendIds
      account.createdAt).accountId = invite.accountId := hid
  have hself := OrderedMap.get?_set_self before.state.accounts invite.accountId
    (StoredAccount.mk account.accountId (account.deviceIds ++ [challenge.deviceId]) account.backendIds
      account.createdAt)
  refine hconsistent.join hbefore.wellTyped ⟨hid, .inl hknown⟩
    ⟨hid, hbefore.challenges challengeId challenge hopened, fun prior hprior => ?_⟩ hnamed (fun id => ?_) rfl rfl
    (fun id invite hget => (OrderedMap.get?_of_erase hget).2) (fun id stored hget backendId hmem => ?_)
    (fun id owner hget => ?_)
  · rw [hunknown] at hprior
    cases hprior
  · rw [List.mem_append, List.mem_singleton]
  · obtain hget | ⟨rfl, rfl⟩ := get?_of_set hget
    · exact hconsistent.owned id stored hget backendId hmem
    · exact hconsistent.owned _ account hknown backendId hmem
  · obtain ⟨stored, hstored, hlisted⟩ := hconsistent.owners id owner hget
    by_cases hsame : owner = invite.accountId
    · subst hsame
      rw [hknown] at hstored
      obtain rfl := Option.some.inj hstored
      exact ⟨_, hself, hlisted⟩
    · exact ⟨stored, (OrderedMap.get?_set_ne hsame _).trans hstored, hlisted⟩

theorem deviceRevoked_consistent {key : JsString} {target : StoredDevice} (revokedAt : Int)
    (hbefore : Loadable options before) (hknown : before.state.devices.get? key = some target) :
    ({ before.state with devices := before.state.devices.set key { target with revokedAt := some revokedAt } } :
      StoredTrustState).Consistent options.crypto := by
  have hconsistent := hbefore.consistent
  have hmember : ∀ deviceId stored, before.state.devices.get? deviceId = some stored →
      ∃ kept, (before.state.devices.set key { target with revokedAt := some revokedAt }).get? deviceId = some kept ∧
        kept.accountId = stored.accountId := by
    intro deviceId stored hstored
    by_cases hsame : deviceId = key
    · subst hsame
      rw [hknown] at hstored
      obtain rfl := Option.some.inj hstored
      exact ⟨_, OrderedMap.get?_set_self _ _ _, rfl⟩
    · exact ⟨stored, (OrderedMap.get?_set_ne hsame _).trans hstored, rfl⟩
  refine ⟨fun id stored hget => ?_, fun id stored hget => ?_, fun id account hget deviceId hmem => ?_,
    hconsistent.owned, hconsistent.owners, fun id invite hget => ?_⟩
  · obtain hget | ⟨rfl, rfl⟩ := get?_of_set hget
    · exact hconsistent.derived id stored hget
    · exact hconsistent.derived _ target hknown
  · obtain hget | ⟨rfl, rfl⟩ := get?_of_set hget
    · exact hconsistent.listed id stored hget
    · exact hconsistent.listed _ target hknown
  · obtain ⟨stored, hstored, hsame⟩ := hconsistent.members id account hget deviceId hmem
    obtain ⟨kept, hkept, heq⟩ := hmember deviceId stored hstored
    exact ⟨kept, hkept, heq.trans hsame⟩
  · obtain ⟨haccount, stored, hstored, hsame⟩ := hconsistent.invites id invite hget
    obtain ⟨kept, hkept, heq⟩ := hmember _ stored hstored
    exact ⟨haccount, kept, hkept, heq.trans hsame⟩

theorem backendRevoked_consistent {backendId accountId : JsString} {account : StoredAccount} (revokedAt : Int)
    (hbefore : Loadable options before) (hknown : before.state.accounts.get? accountId = some account)
    (howned : before.state.backendOwners.get? backendId = some accountId) :
    ((before.state.disowned backendId accountId revokedAt).withoutBackend accountId account
      (some (.str backendId))).Consistent options.crypto := by
  have hconsistent := hbefore.consistent
  have hid : account.accountId = accountId := (hbefore.wellTyped.accounts _ account hknown).1
  have hkept : ∀ id stored, before.state.accounts.get? id = some stored →
      ∃ kept, (before.state.accounts.set accountId { account with
          backendIds := account.backendIds.filter fun id => ¬ isStr id (some (.str backendId)) }).get? id = some kept ∧
        kept.deviceIds = stored.deviceIds ∧ ∀ id ∈ stored.backendIds, id ≠ backendId → id ∈ kept.backendIds := by
    intro id stored hstored
    by_cases hsame : id = accountId
    · subst hsame
      rw [hknown] at hstored
      obtain rfl := Option.some.inj hstored
      refine ⟨_, OrderedMap.get?_set_self _ _ _, rfl, fun id hmem hne => ?_⟩
      exact List.mem_filter.mpr ⟨hmem, by simpa [isStr, Value.isStr] using hne.symm⟩
    · exact ⟨stored, (OrderedMap.get?_set_ne hsame _).trans hstored, rfl, fun _ hmem _ => hmem⟩
  refine ⟨hconsistent.derived, fun id stored hget => ?_, fun id stored hget deviceId hmem => ?_,
    fun id stored hget other hmem => ?_, fun id owner hget => ?_, fun id invite hget => ?_⟩
  · obtain ⟨account, haccount, hlisted⟩ := hconsistent.listed id stored hget
    obtain ⟨kept, hkept, hdeviceIds, -⟩ := hkept _ account haccount
    exact ⟨kept, hkept, hdeviceIds ▸ hlisted⟩
  · obtain hget | ⟨rfl, rfl⟩ := get?_of_set hget
    · exact hconsistent.members id stored hget deviceId hmem
    · exact hconsistent.members _ account hknown deviceId hmem
  · by_cases hsame : id = accountId
    · subst hsame
      obtain rfl := Option.some.inj ((OrderedMap.get?_set_self _ _ _).symm.trans hget)
      obtain ⟨hmem, hne⟩ := List.mem_filter.mp hmem
      have hother : other ≠ backendId := by
        rintro rfl
        simp [isStr, Value.isStr] at hne
      exact (OrderedMap.get?_erase_ne hother).trans (hconsistent.owned _ account hknown other hmem)
    · have hstored := (OrderedMap.get?_set_ne hsame _).symm.trans hget
      have howner := hconsistent.owned id stored hstored other hmem
      have hother : other ≠ backendId := by
        rintro rfl
        rw [howned, (hbefore.wellTyped.accounts id stored hstored).1] at howner
        exact hsame (Option.some.inj howner).symm
      exact (OrderedMap.get?_erase_ne hother).trans howner
  · obtain ⟨hne, hget⟩ := OrderedMap.get?_of_erase hget
    obtain ⟨account, haccount, hlisted⟩ := hconsistent.owners id owner hget
    obtain ⟨kept, hkept, -, hbackendIds⟩ := hkept _ account haccount
    exact ⟨kept, hkept, hbackendIds id hlisted hne⟩
  · obtain ⟨⟨account, haccount⟩, hdevice⟩ := hconsistent.invites id invite hget
    obtain ⟨kept, hkept, -⟩ := hkept _ account haccount
    exact ⟨⟨kept, hkept⟩, hdevice⟩

theorem Effect.consistent {call : Call} {state : StoredTrustState} (h : Effect options before limit call state)
    (hbefore : Loadable options before) (hregular : Regular options before limit call) :
    state.Consistent options.crypto := by
  have hconsistent := hbefore.consistent
  cases h with
  | ticketUsed verified unused read =>
    have hpruned := hconsistent.pruned before.tick.tick.clock
    exact ⟨hpruned.derived, hpruned.listed, hpruned.members, hpruned.owned, hpruned.owners, hpruned.invites⟩
  | @paired claims pairId accountId account device completedAt kind pair named unconfirmed owner accountIds accounts
      devices time =>
    obtain ⟨hclaims, hderived⟩ := hregular.claims claims rfl
    exact paired_consistent completedAt hbefore hderived
      (fun _ howner => owner_paired hclaims hbefore.wellTyped owner accountIds howner) accounts devices
  | @invited challengeId signature challenge actor n secret createdAt expiresAt answered active drawn created later =>
    refine ⟨hconsistent.derived, hconsistent.listed, hconsistent.members, hconsistent.owned, hconsistent.owners,
      forall_set hconsistent.invites ⟨?_, actor, ?_, rfl⟩⟩
    · obtain ⟨account, haccount, -⟩ := hconsistent.listed challenge.deviceId actor active.1
      exact ⟨account, haccount⟩
    · dsimp only
      rw [(hbefore.wellTyped.devices _ actor active.1).1]
      exact active.1
  | accepted answered pairId invited unexpired proved unknown known created =>
    exact accepted_consistent _ hbefore answered.opened unknown known
  | deviceRevoked answered active known same time => exact deviceRevoked_consistent _ hbefore known
  | @backendRevoked challengeId signature challenge actor account revokedAt answered active owned known time =>
    obtain ⟨backendId, hnamed⟩ | hnone := hregular.backend challengeId signature challenge rfl answered.opened
    · rw [hnamed] at owned ⊢
      exact backendRevoked_consistent _ hbefore known owned
    · rw [hnone] at owned
      cases owned
  | backendDisowned answered active owned unknown time =>
    obtain ⟨account, haccount, -⟩ := hconsistent.listed _ _ active.1
    rw [unknown] at haccount
    cases haccount

theorem Swept.loads {after : RendezvousTrustStore} {state : StoredTrustState} (h : Swept before after state)
    (hbefore : Loadable options before) : trust_store.loads options.crypto state = true := by
  rw [loads_iff]
  obtain rfl | ⟨time, -, -, rfl⟩ := h
  · exact ⟨hbefore.wellTyped, hbefore.consistent⟩
  · exact ⟨hbefore.wellTyped.pruned time, hbefore.consistent.pruned time⟩

/-- A call of a regular run leaves a state that the next start accepts, on the disk as well. -/
theorem Stored.loads {after : RendezvousTrustStore} {call : Call} {returned : Bool}
    (h : Stored options before call after returned) (hsha256 : ∀ bytes, bytes ≠ [] → options.crypto.sha256 bytes ≠ [])
    (hbefore : Loadable options before) (hdisk : trust_store.loads options.crypto before.disk = true)
    (hregular : Regular options before after.clock call) : Reloads options after := by
  have heffect : ∀ state, Effect options before after.clock call state →
      trust_store.loads options.crypto state = true :=
    fun state h => (loads_iff _ _).mpr ⟨h.wellTyped hsha256 hbefore hregular, h.consistent hbefore hregular⟩
  cases h with
  | swept returned state disk =>
    have hstate := state.loads hbefore
    refine ⟨hstate, ?_⟩
    obtain hsame | hsame := disk
    · rw [hsame]
      exact hdisk
    · rw [hsame]
      exact hstate
  | saved effect disk =>
    refine ⟨heffect _ effect, ?_⟩
    rw [disk]
    exact heffect _ effect
  | unsaved effect failed disk =>
    refine ⟨heffect _ effect, ?_⟩
    obtain hswept | hsame | hsame := disk
    · exact hswept.loads hbefore
    · rw [hsame]
      exact hdisk
    · rw [hsame]
      exact heffect _ effect

/-- The invariant of a regular run. -/
structure Reloadable (options : TrustStoreOptions) (store : RendezvousTrustStore) : Prop where
  loadable : Loadable options store
  disk : loads options.crypto store.disk = true

theorem Reloadable.reloads {store : RendezvousTrustStore} (h : Reloadable options store) : Reloads options store :=
  ⟨(loads_iff _ _).mpr ⟨h.loadable.wellTyped, h.loadable.consistent⟩, h.disk⟩

theorem Reloadable.request {store : RendezvousTrustStore} (h : Reloadable options store)
    (hsha256 : ∀ bytes, bytes ≠ [] → options.crypto.sha256 bytes ≠ []) {request : Request}
    (hregular : RegularEvent options store (.request request)) :
    Reloadable options (afterCall options store request) := by
  have hran := ran options store request
  have hmeeting : Loadable options (meeting store request) :=
    ⟨h.loadable.wellTyped, h.loadable.consistent, h.loadable.challenges⟩
  have hreloads := hran.stored.loads hsha256 hmeeting h.disk
    ⟨hregular.clock, hregular.limit, hregular.claims, hregular.backend⟩
  obtain ⟨hwell, hconsistent⟩ := (loads_iff _ _).mp hreloads.1
  refine ⟨⟨hwell, hconsistent, fun id challenge hget => ?_⟩, hreloads.2⟩
  obtain hopen | ⟨body, -, hopened⟩ := hran.memory id challenge hget
  · exact h.loadable.challenges id challenge hopen
  · obtain ⟨key, device, hdevice, -, hdeviceId, hpublicKey⟩ | ⟨-, hderived⟩ := hopened.identity
    · rw [hdeviceId, hpublicKey]
      exact h.loadable.consistent.derived key device hdevice
    · exact hderived

theorem Reloadable.next {store : RendezvousTrustStore} (h : Reloadable options store)
    (hsha256 : ∀ bytes, bytes ≠ [] → options.crypto.sha256 bytes ≠ []) {event : Event}
    (hregular : RegularEvent options store event) : Reloadable options (next options store event) := by
  cases event with
  | request request => exact h.request hsha256 hregular
  | restart =>
    unfold trust_store.next
    dsimp only
    split
    · rename_i hloads
      obtain ⟨hwell, hconsistent⟩ := (loads_iff _ _).mp hloads
      refine ⟨⟨hwell, hconsistent, ?_⟩, h.disk⟩
      rintro id challenge hget
      cases hget
    · exact h

/-- In every regular run, whatever becomes of the writes, the next start accepts the state that the store has and the
    one that it left on the disk. -/
theorem always_reloads (hsha256 : ∀ bytes, bytes ≠ [] → options.crypto.sha256 bytes ≠ [])
    (start : RendezvousTrustStore) (hstart : Started options start) (hdisk : start.disk = start.state) (events : List Event)
    (hregular : EveryStep (next options) start (RegularEvent options) events) :
    Always (next options) start (Reloads options) events := by
  obtain ⟨hwell, hconsistent⟩ := (loads_iff _ _).mp hstart.loaded
  have hreloadable : Reloadable options start := by
    refine ⟨⟨hwell, hconsistent, ?_⟩, hdisk ▸ hstart.loaded⟩
    rw [hstart.memory]
    rintro id challenge hget
    cases hget
  have halways : Always (next options) start (Reloadable options) events :=
    always_of_everyStep hreloadable (fun _ _ h hregular => h.next hsha256 hregular) hregular
  exact fun before hbefore => (halways before hbefore).reloads

private def pairFirst : Event :=
  .request { call := .confirmPairing (pairingClaims (js "d_QUJD") (js "QUJD")) }

private def revokedBackend (backendId : Value) : DeviceChallenge where
  challengeId := js "ch_1"
  nonce := js "2"
  purpose := .revokeBackend
  deviceId := js "d_QUJD"
  devicePublicKey := js "QUJD"
  backendId := some backendId
  connectionId := none
  pairId := none
  targetDeviceId := none
  expiresAt := 120001

/-- A device pairs with a backend, and then revokes the backend that `backendId` names. -/
private def revoking (backendId : Value) : List Event :=
  let request : DeviceChallengeRequest := {
    purpose := some (.str (js "revoke_backend"))
    deviceId := some (.str (js "d_QUJD"))
    backendId := some backendId }
  let signature := plainSignature (js "QUJD") (deviceChallengePayload (revokedBackend backendId))
  [pairFirst, .request { call := .createChallenge request },
    .request { call := .revokeBackend (js "ch_1") signature }]

theorem regular_pairFirst : RegularEvent plainOptions (freshStore 1) pairFirst := by
  refine ⟨by decide, by decide +kernel, ?_, ?_⟩
  · intro claims h
    cases h
    exact ⟨by constructor <;> decide, by decide +kernel⟩
  · intro challengeId signature challenge h
    cases h

/-- A backend that a text names is revoked, and the state that is written can be read again. -/
theorem always_reloads_revoking :
    Always (next plainOptions) (freshStore 1) (Reloads plainOptions) (revoking (.str (js "b_x"))) := by
  refine always_reloads (fun _ h => h) (freshStore 1) ⟨rfl, by decide +kernel⟩ rfl _ ?_
  simp only [revoking, everyStep_cons]
  refine ⟨regular_pairFirst, ⟨by decide +kernel, by decide +kernel, ?_, ?_⟩,
    ⟨by decide +kernel, by decide +kernel, ?_, ?_⟩, everyStep_nil⟩
  · intro claims h
    cases h
  · intro challengeId signature challenge h
    cases h
  · intro claims h
    cases h
  · intro challengeId signature challenge h hopened
    cases h
    have hnamed : ((run (next plainOptions) (freshStore 1) ((revoking (.str (js "b_x"))).take 2)).memory.get?
        (js "ch_1")).all (fun challenge => isStr (js "b_x") challenge.backendId) = true := by
      decide +kernel
    rw [show (run (next plainOptions) (freshStore 1) ((revoking (.str (js "b_x"))).take 2)).memory.get? (js "ch_1") =
      some challenge from hopened] at hnamed
    exact .inl ⟨js "b_x", isStr_iff.mp hnamed⟩

/-- A backend that a list of one text names loses its owner, but the account keeps its id: the state that is written
    does not load. -/
theorem revoked_backend_stays_listed :
    ¬ Always (next plainOptions) (freshStore 1) (Reloads plainOptions) (revoking (.arr [.str (js "b_x")])) := by
  intro halways
  have hreloads := halways.last
  unfold Reloads at hreloads
  revert hreloads
  decide +kernel

end pipane.trust_store

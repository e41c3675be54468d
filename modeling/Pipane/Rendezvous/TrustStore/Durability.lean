import Pipane.Rendezvous.TrustStore.Authority

open javascript json durable transition pipane.trust_protocol pipane.node_trust_crypto

namespace pipane.trust_store

/-- `disk` has every record of `state`, and beyond them only invites and used tickets that have expired. -/
structure Contains (clock : Int) (disk state : StoredTrustState) : Prop where
  accounts : disk.accounts = state.accounts
  devices : disk.devices = state.devices
  owners : disk.backendOwners = state.backendOwners
  revocations : disk.backendRevocations = state.backendRevocations
  completions : disk.pairingCompletions = state.pairingCompletions
  invites : ∀ id invite, state.deviceInvites.get? id = some invite → disk.deviceInvites.get? id = some invite
  expiredInvites : ∀ id invite, disk.deviceInvites.get? id = some invite →
    state.deviceInvites.get? id = some invite ∨ invite.expiresAt ≤ clock
  tickets : ∀ id expiresAt, state.usedTickets.get? id = some expiresAt → disk.usedTickets.get? id = some expiresAt
  expiredTickets : ∀ id expiresAt, disk.usedTickets.get? id = some expiresAt →
    state.usedTickets.get? id = some expiresAt ∨ expiresAt ≤ clock

/-- A call that throws changes nothing stored but what has expired, one that returns leaves its effect on the disk, and
    a restart finds what was in memory. -/
def Durable (options : TrustStoreOptions) (store : RendezvousTrustStore) : Event → Prop
  | .request request =>
    let after := afterCall options store request
    (replyOf options store request = none → Swept store after after.state) ∧
      ∀ reply, replyOf options store request = some reply → Contains after.clock after.disk after.state
  | .restart => Contains store.clock (next options store .restart).state store.state

/-- The write of the call's own effect does not fail. The write of a pruning may. -/
def SaveSucceeds : Event → Prop
  | .request request => request.circumstances.saved = .written
  | .restart => True

theorem Contains.refl (clock : Int) (state : StoredTrustState) : Contains clock state state :=
  ⟨rfl, rfl, rfl, rfl, rfl, fun _ _ h => h, fun _ _ h => .inl h, fun _ _ h => h, fun _ _ h => .inl h⟩

theorem Contains.later {clock later : Int} {disk state : StoredTrustState} (h : Contains clock disk state)
    (hlater : clock ≤ later) : Contains later disk state :=
  ⟨h.accounts, h.devices, h.owners, h.revocations, h.completions, h.invites,
    fun id invite hget => (h.expiredInvites id invite hget).imp_right fun hexpired => hexpired.trans hlater, h.tickets,
    fun id expiresAt hget => (h.expiredTickets id expiresAt hget).imp_right fun hexpired => hexpired.trans hlater⟩

theorem get?_pruned {α : Type} {record : OrderedMap JsString α} {expiry : α → Int} {time clock : Int}
    {id : JsString} {a : α} (hget : record.get? id = some a) (htime : time ≤ clock) :
    (record.filter fun a => time < expiry a).get? id = some a ∨ expiry a ≤ clock := by
  by_cases hexpired : time < expiry a
  · left
    rw [OrderedMap.get?_filter, hget, Option.filter_some, if_pos (by simpa using hexpired)]
  · exact .inr ((not_lt.mp hexpired).trans htime)

theorem Contains.pruned {clock time : Int} {disk state : StoredTrustState} (h : Contains clock disk state)
    (htime : time ≤ clock) : Contains clock disk (state.pruned time) := by
  refine ⟨h.accounts, h.devices, h.owners, h.revocations, h.completions, fun id invite hget => ?_,
    fun id invite hget => ?_, fun id expiresAt hget => ?_, fun id expiresAt hget => ?_⟩
  · exact h.invites id invite (OrderedMap.get?_of_filter hget).1
  · obtain hstate | hexpired := h.expiredInvites id invite hget
    · exact get?_pruned hstate htime
    · exact .inr hexpired
  · exact h.tickets id expiresAt (OrderedMap.get?_of_filter hget).1
  · obtain hstate | hexpired := h.expiredTickets id expiresAt hget
    · exact get?_pruned hstate htime
    · exact .inr hexpired

theorem Swept.contains {before after : RendezvousTrustStore} {state : StoredTrustState}
    (h : Swept before after state) (hclock : before.clock ≤ after.clock)
    (hdisk : Contains before.clock before.disk before.state) : Contains after.clock before.disk state := by
  obtain rfl | ⟨time, -, htime, rfl⟩ := h
  · exact hdisk.later hclock
  · exact (hdisk.later hclock).pruned htime

/-- Every device belongs to a stored account. -/
def Grounded (state : StoredTrustState) : Prop :=
  ∀ id device, state.devices.get? id = some device → ∃ account, state.accounts.get? device.accountId = some account

variable {options : TrustStoreOptions}

theorem account_kept {accounts : OrderedMap JsString StoredAccount} {key id : JsString}
    {written account : StoredAccount} (h : accounts.get? id = some account) :
    ∃ account, (accounts.set key written).get? id = some account := by
  rw [OrderedMap.get?_set]
  split
  · exact ⟨written, rfl⟩
  · exact ⟨account, h⟩

theorem Effect.grounded {before : RendezvousTrustStore} {call : Call} {state : StoredTrustState}
    {limit : Int} (h : Effect options before limit call state) (hsound : Sound before) (hgrounded : Grounded before.state) :
    Grounded state := by
  intro id device hdevice
  cases h with
  | ticketUsed verified unused read => exact hgrounded id device hdevice
  | invited answered active drawn created later => exact hgrounded id device hdevice
  | backendDisowned answered active owned unknown time => exact hgrounded id device hdevice
  | backendRevoked answered active owned known time =>
    obtain ⟨account, haccount⟩ := hgrounded id device hdevice
    exact account_kept haccount
  | deviceRevoked answered active known same time =>
    obtain hdevice | ⟨-, rfl⟩ := get?_of_set hdevice
    · exact hgrounded id device hdevice
    · have hknown := hgrounded _ _ known
      exact hknown
  | accepted answered pairId invited unexpired proved unknown known created =>
    obtain hdevice | ⟨-, rfl⟩ := get?_of_set hdevice
    · obtain ⟨account, haccount⟩ := hgrounded id device hdevice
      exact account_kept haccount
    · have hkey := hsound.accounts _ _ known
      dsimp only
      rw [hkey]
      exact ⟨_, OrderedMap.get?_set_self _ _ _⟩
  | @paired claims _ paired _ _ _ kind pair named unconfirmed owner accountIds accounts devices time =>
    obtain hdevice | ⟨-, rfl⟩ := get?_of_set hdevice
    · obtain ⟨account, haccount⟩ := hgrounded id device hdevice
      exact account_kept haccount
    · have haccount : device.accountId = paired := by
        obtain ⟨-, -, -, -, hsame⟩ | ⟨-, -, -, rfl⟩ := devices
        · exact hsame
        · rfl
      rw [haccount]
      exact ⟨_, OrderedMap.get?_set_self _ _ _⟩

/-- The disk keeps up with the memory, whose records are sound. -/
structure UpToDate (store : RendezvousTrustStore) : Prop where
  sound : Sound store
  grounded : Grounded store.state
  disk : Contains store.clock store.disk store.state

/-- A call that leaves something unwritten is one whose own write failed. -/
theorem UpToDate.stored {store : RendezvousTrustStore} (h : UpToDate store) {request : Request}
    (hsaved : request.circumstances.saved = .written) :
    (replyOf options store request = none →
        Swept store (afterCall options store request) (afterCall options store request).state) ∧
      Contains (afterCall options store request).clock (afterCall options store request).disk
        (afterCall options store request).state := by
  have hran := ran options store request
  have hstored := hran.stored
  cases hreply : replyOf options store request with
  | none =>
    rw [hreply] at hstored
    cases hstored with
    | swept returned state disk =>
      refine ⟨fun _ => state, ?_⟩
      obtain hdisk | hdisk := disk
      · rw [hdisk]
        exact state.contains hran.clock h.disk
      · rw [hdisk]
        exact Contains.refl _ _
    | unsaved effect failed disk =>
      obtain hfailed | ⟨id, device, hdevice, hnone⟩ := failed
      · exact absurd hsaved hfailed
      · obtain ⟨account, haccount⟩ := h.grounded id device hdevice
        rw [show (meeting store request).state = store.state from rfl, haccount] at hnone
        cases hnone
  | some reply =>
    rw [hreply] at hstored
    refine ⟨fun h => (by cases h), ?_⟩
    cases hstored with
    | swept returned state disk =>
      obtain hdisk | hdisk := disk
      · rw [hdisk]
        exact state.contains hran.clock h.disk
      · rw [hdisk]
        exact Contains.refl _ _
    | saved effect disk =>
      rw [disk]
      exact Contains.refl _ _

theorem UpToDate.next {store : RendezvousTrustStore} (h : UpToDate store) {event : Event}
    (hsaved : SaveSucceeds event) : UpToDate (next options store event) := by
  cases event with
  | request request =>
    refine ⟨h.sound.afterCall request, ?_, (h.stored hsaved).2⟩
    obtain hswept | heffect := (ran options store request).stored.swept_or_effect
    · intro id device hdevice
      change (afterCall options store request).state.devices.get? id = some device at hdevice
      rw [hswept.records.1] at hdevice
      obtain ⟨account, haccount⟩ := h.grounded id device hdevice
      refine ⟨account, ?_⟩
      change (afterCall options store request).state.accounts.get? device.accountId = some account
      rw [hswept.records.2.1]
      exact haccount
    · exact heffect.grounded ⟨h.sound.devices, h.sound.accounts, h.sound.owners, h.sound.challenges⟩ h.grounded
  | restart =>
    unfold trust_store.next
    dsimp only
    split
    · refine ⟨⟨?_, ?_, ?_, ?_⟩, ?_, Contains.refl _ _⟩
      · exact h.disk.devices ▸ h.sound.devices
      · exact h.disk.accounts ▸ h.sound.accounts
      · exact h.disk.owners ▸ h.sound.owners
      · rintro id challenge hget
        cases hget
      · intro id device hdevice
        change store.disk.devices.get? id = some device at hdevice
        change ∃ account, store.disk.accounts.get? device.accountId = some account
        rw [h.disk.devices] at hdevice
        rw [h.disk.accounts]
        exact h.grounded id device hdevice
    · exact h

theorem UpToDate.durable {store : RendezvousTrustStore} (h : UpToDate store) {event : Event}
    (hsaved : SaveSucceeds event) : Durable options store event := by
  cases event with
  | request request => exact ⟨(h.stored hsaved).1, fun _ _ => (h.stored hsaved).2⟩
  | restart =>
    change Contains store.clock
      (if loads options.crypto store.disk then store.restarted ∅ else store).state store.state
    split
    · exact h.disk
    · exact Contains.refl _ _

/-- While no write of a call's own effect fails, every call is durable, whatever becomes of the writes that follow a
    pruning, and every restart finds what was in memory. -/
theorem durable_of_saves (start : RendezvousTrustStore) (hstart : Started options start)
    (hdisk : start.disk = start.state) (events : List Event)
    (hsaves : EveryStep (next options) start (fun _ event => SaveSucceeds event) events) :
    EveryStep (next options) start (Durable options) events := by
  have hgrounded : Grounded start.state := by
    intro id device hdevice
    obtain ⟨-, hconsistent⟩ := (loads_iff options.crypto start.state).mp hstart.loaded
    obtain ⟨account, haccount, -⟩ := hconsistent.listed id device hdevice
    exact ⟨account, haccount⟩
  have hupToDate : Always (next options) start UpToDate events :=
    always_of_everyStep ⟨hstart.sound, hgrounded, hdisk ▸ Contains.refl _ _⟩ (fun _ _ h hsaved => h.next hsaved) hsaves
  exact everyStep_of_always hupToDate hsaves fun _ _ h hsaved => h.durable hsaved

private def pairing : Call :=
  .confirmPairing (pairingClaims (js "d_QUJD") (js "QUJD"))

/-- The first write fails after a pairing was entered in memory, and the pruning before a later challenge fails too. -/
theorem durable_of_saves_pairing :
    EveryStep (next plainOptions) (freshStore 1) (Durable plainOptions)
      [.request { call := pairing },
        .request { call := .createChallenge { purpose := some (.str (js "discover")) },
                   circumstances := { ticks := [], pruned := .failed, saved := .written } }, .restart] := by
  refine durable_of_saves (freshStore 1) ⟨rfl, by decide +kernel⟩ rfl _ ?_
  rw [everyStep_cons, everyStep_cons, everyStep_cons]
  exact ⟨rfl, rfl, trivial, everyStep_nil⟩

private def unsavedPairing : Event :=
  .request { call := pairing, circumstances := { ticks := [], pruned := .written, saved := .failed } }

/-- A pairing whose write fails is thrown and stays in memory; the call that repeats it then returns, although the disk
    does not have the pairing. -/
theorem unsaved_pairing_confirmed :
    ¬ EveryStep (next plainOptions) (freshStore 1) (Durable plainOptions)
      [unsavedPairing, .request { call := pairing }] := by
  intro hdurable
  rw [everyStep_cons, everyStep_cons] at hdurable
  obtain ⟨-, ⟨-, hreturned⟩, -⟩ := hdurable
  have hreply : (replyOf plainOptions (next plainOptions (freshStore 1) unsavedPairing) { call := pairing }).isSome =
      true := by
    decide +kernel
  obtain ⟨reply, hreply⟩ := Option.isSome_iff_exists.mp hreply
  have hlost := congrArg (fun record => (record.get? (js "pair_0")).isSome) (hreturned reply hreply).completions
  revert hlost
  decide +kernel

end pipane.trust_store

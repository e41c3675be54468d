import Pipane.Rendezvous.RendezvousHub.Routing

open javascript json durable transition pipane.trust_protocol pipane.node_trust_crypto pipane.rendezvous_protocol

namespace pipane.trust_store

def Revoked (store : RendezvousTrustStore) (deviceId : JsString) : Prop :=
  ∃ device, store.state.devices.get? deviceId = some device ∧ device.revokedAt ≠ none

/-- The request accepts a stored invite before it expires, with its secret and for a device that is unknown. -/
structure AcceptsFor (options : TrustStoreOptions) (before : RendezvousTrustStore)
    (challengeId inviteId secret : JsString) (challenge : DeviceChallenge) (invite : StoredDeviceInvite) : Prop where
  opened : before.memory.get? challengeId = some challenge
  invited : before.state.deviceInvites.get? inviteId = some invite
  unexpired : before.tick.tick.clock < invite.expiresAt
  proved : secretsEqual (hashDeviceInviteSecret options secret) invite.secretHash = true
  unknown : before.state.devices.get? challenge.deviceId = none

variable {options : TrustStoreOptions}

/-- An effect that brings a device to an account accepts an invite, or confirms the pairing of an unknown device. -/
theorem Effect.added {before : RendezvousTrustStore} {limit : Int} {call : Call} {state : StoredTrustState}
    (h : Effect options before limit call state) {accountId deviceId : JsString}
    (hbefore : ¬ Member before.state accountId deviceId) (hafter : Member state accountId deviceId) :
    (∃ challengeId signature inviteId secret challenge invite,
      call = .acceptDeviceInvite challengeId signature inviteId secret ∧
        AcceptsFor options before challengeId inviteId secret challenge invite) ∨
      ∃ claims, call = .confirmPairing claims ∧ before.state.devices.get? claims.deviceId = none := by
  cases h with
  | ticketUsed verified unused read => exact absurd hafter hbefore
  | invited answered active drawn created later => exact absurd hafter hbefore
  | backendDisowned answered active owned unknown time => exact absurd hafter hbefore
  | @backendRevoked _ _ _ actor account _ answered active owned known time =>
    obtain hdevice | ⟨listed, hlisted, hmem⟩ := hafter
    · exact absurd (.inl hdevice) hbefore
    · obtain hmember | ⟨rfl, hmem⟩ := member_of_accounts before.state rfl hlisted hmem
      · exact absurd hmember hbefore
      · exact absurd (.inr ⟨account, known, hmem⟩) hbefore
  | deviceRevoked answered active known same time =>
    obtain ⟨device, hdevice, rfl⟩ | hlisted := hafter
    · obtain hmember | ⟨rfl, haccount⟩ := member_of_devices before.state rfl hdevice
      · exact absurd hmember hbefore
      · exact absurd (.inl ⟨_, known, haccount.symm⟩) hbefore
    · exact absurd (.inr hlisted) hbefore
  | accepted answered pairId invited unexpired proved unknown known created =>
    exact .inl ⟨_, _, _, _, _, _, rfl, answered.opened, invited, unexpired, proved, unknown⟩
  | @paired claims pairId paired account written _ kind pair named unconfirmed owner accountIds accounts devices time =>
    obtain ⟨hstored, -, -, -, hsame⟩ | ⟨hunknown, -⟩ := devices
    · -- the device of the ticket was one of the account already
      exfalso
      have hpaired : Member before.state paired claims.deviceId := .inl ⟨written, hstored, hsame⟩
      obtain ⟨device, hdevice, rfl⟩ | ⟨listed, hlisted, hmem⟩ := hafter
      · obtain hmember | ⟨rfl, haccount⟩ := member_of_devices before.state rfl hdevice
        · exact hbefore hmember
        · exact hbefore (haccount.trans hsame ▸ hpaired)
      · obtain hmember | ⟨rfl, hmem⟩ := member_of_accounts before.state rfl hlisted hmem
        · exact hbefore hmember
        · have hmem : deviceId ∈ account.deviceIds ∨ deviceId = claims.deviceId := by
            simp only [appendMissing] at hmem
            split at hmem
            · exact .inl hmem
            · simpa using hmem
          obtain hmem | rfl := hmem
          · obtain hknown | ⟨-, createdAt, -, rfl⟩ := accounts
            · exact hbefore (.inr ⟨account, hknown, hmem⟩)
            · exact absurd hmem List.not_mem_nil
          · exact hbefore hpaired
    · exact .inr ⟨claims, rfl, hunknown⟩

theorem consumed {store after : RendezvousTrustStore} {request : Request} {ticket : JsString}
    {claims : ConnectionTicketClaims} (hcall : request.call = .consumeRouteTicket ticket)
    (hserve : serve options store request = .ok (.claims claims) after) :
    verifyConnectionTicket options.crypto ticket options.ticketPublicKey (meeting store request).tick.clock = .ok claims ∧
      after.state.devices = store.state.devices := by
  have hreply : replyOf options store request = some (.claims claims) := by
    rw [replyOf, hserve]
  have hafter : trust_store.afterCall options store request = after := by
    rw [afterCall, hserve]
  obtain ⟨read, hread, hverified, -, hstate, -⟩ := replied Reply.claims (by rw [hcall]; rfl)
    (consumeRouteTicket_outcome ticket) hreply
  cases hread
  rw [hafter] at hstate
  refine ⟨hverified, ?_⟩
  rw [hstate]
  rfl

end pipane.trust_store

namespace pipane.rendezvous_hub

open pipane.trust_store (Revoked Member)

/-- The devices whose invites, pairings and tickets an event makes use of. -/
inductive Delegates (hub : RendezvousHub) : Event → JsString → Prop
  | invite {challengeId signature inviteId secret : JsString} {invite : trust_store.StoredDeviceInvite}
      (invited : hub.trustStore.state.deviceInvites.get? inviteId = some invite) :
      Delegates hub (.called (.acceptDeviceInvite challengeId signature inviteId secret)) invite.createdByDeviceId
  | pairing {event : Event} {claims : ConnectionTicketClaims} (calls : Calls hub event (.confirmPairing claims)) :
      Delegates hub event claims.deviceId

/-- Nothing that a revoked device made brings a device to an account, and no new route is one of a revoked device. -/
structure Effective (options : RendezvousHubOptions) (hub : RendezvousHub) (input : Input) : Prop where
  members : ∀ creator accountId deviceId, Delegates hub input.event creator → Revoked hub.trustStore creator →
    Member (step options hub input).trustStore.state accountId deviceId →
    Member hub.trustStore.state accountId deviceId
  routes : ∀ ref route, (step options hub input).Has ref route → Revoked hub.trustStore route.claims.deviceId →
    ∃ standing, hub.Has ref standing

/-- No invite of a revoked device is accepted with its secret, and no browser brings a valid ticket by which a revoked
    device wanted to pair. -/
def Unclaimed (options : RendezvousHubOptions) (hub : RendezvousHub) (input : Input) : Prop :=
  let met : trust_store.RendezvousTrustStore :=
    { hub.trustStore with circumstances := input.surroundings.circumstances }
  match input.event with
  | .called (.acceptDeviceInvite challengeId _ inviteId secret) => ∀ challenge invite,
      trust_store.AcceptsFor options.trust met challengeId inviteId secret challenge invite →
      ¬ Revoked hub.trustStore invite.createdByDeviceId
  | .browserMessage _ raw => ∀ backendId ticket iceServers claims,
      decodeBrowserCommand raw = .ok (.connectBackend backendId ticket iceServers) →
      verifyConnectionTicket options.trust.crypto ticket options.trust.ticketPublicKey met.tick.clock = .ok claims →
      claims.kind = .pairing → ¬ Revoked hub.trustStore claims.deviceId
  | _ => True

variable {options : RendezvousHubOptions}

theorem Calls.claims {hub : RendezvousHub} {event : Event} {claims other : ConnectionTicketClaims}
    (h : Calls hub event (.confirmPairing claims)) (hindexed : hub.Indexed)
    (hother : Calls hub event (.confirmPairing other)) : claims = other := by
  cases h with
  | called call =>
    cases hother
    rfl
  | confirming decoded opened registered has connection owner =>
    cases hother with
    | confirming decoded' opened' registered' has' connection' owner' =>
      rw [decoded] at decoded'
      cases decoded'
      obtain rfl := hindexed.unique has has' (.inl (connection.trans connection'.symm))
      rw [Option.some.inj (has.1.symm.trans has'.1)]

theorem effective_members {hub : RendezvousHub} (h : hub.Routed) {input : Input}
    (hunclaimed : Unclaimed options hub input) {creator accountId deviceId : JsString}
    (hdelegates : Delegates hub input.event creator) (hrevoked : Revoked hub.trustStore creator)
    (hafter : Member (step options hub input).trustStore.state accountId deviceId) :
    Member hub.trustStore.state accountId deviceId := by
  by_contra hbefore
  obtain hsame | ⟨call, hcalls, hstore⟩ := (effects_step options input h.indexed).2
  · rw [hsame] at hafter
    exact hbefore hafter
  · rw [hstore] at hafter
    obtain hswept | heffect :=
      (trust_store.ran options.trust hub.trustStore
        ⟨call, input.surroundings.circumstances⟩).stored.swept_or_effect
    · obtain ⟨hdevices, haccounts, -⟩ := hswept.records
      unfold Member at hafter
      rw [hdevices, haccounts] at hafter
      exact hbefore hafter
    · obtain ⟨event, surroundings⟩ := input
      obtain ⟨challengeId, signature, inviteId, secret, challenge, invite, hcall, haccepts⟩ |
        ⟨claims, hcall, hunknown⟩ := heffect.added hbefore hafter
      · obtain rfl : call = _ := hcall
        cases hcalls
        cases hdelegates with
        | invite invited =>
          obtain rfl := Option.some.inj (invited.symm.trans haccepts.invited)
          exact hunclaimed challenge _ haccepts hrevoked
        | pairing calls => cases calls
      · obtain rfl : call = _ := hcall
        obtain ⟨device, hdevice, -⟩ := hrevoked
        cases hdelegates with
        | invite invited => cases hcalls
        | pairing calls =>
          rw [calls.claims h.indexed hcalls] at hdevice
          cases hdevice.symm.trans hunknown

theorem effective_routes {hub : RendezvousHub} (h : hub.Routed) {input : Input}
    (hunclaimed : Unclaimed options hub input) {ref : RouteRef} {route : BrowserRoute}
    (hhas : (step options hub input).Has ref route) (hrevoked : Revoked hub.trustStore route.claims.deviceId) :
    ∃ standing, hub.Has ref standing := by
  obtain ⟨standing, hstanding, -⟩ | ⟨raw, iceServers, hevent, hdecoded, hgranted⟩ := (step_routes h input).2 ref route hhas
  · exact ⟨standing, hstanding⟩
  · exfalso
    obtain ⟨event, surroundings⟩ := input
    obtain rfl : event = _ := hevent
    obtain ⟨store, hserve, hadmitted⟩ := hgranted.consumed
    obtain ⟨hverified, hdevices⟩ := trust_store.consumed rfl hserve
    cases hadmitted with
    | connection accountId kind account named owner active =>
      obtain ⟨device, hdevice, hrevokedAt⟩ := hrevoked
      rw [trust_store.isDeviceActive, hdevices, hdevice, Option.any_some] at active
      exact hrevokedAt (of_decide_eq_true active)
    | pairing pairId pairing kind pair opened unexpired backend =>
      exact hunclaimed _ _ _ _ hdecoded hverified kind hrevoked

/-- In every run that uses nothing a revoked device made, a revoked device brings no device to an account and gets no
    route. -/
theorem delegation_effective (start : RendezvousHub) (hstart : Unconnected start) (inputs : List Input)
    (hunclaimed : EveryStep (step options) start (Unclaimed options) inputs) :
    EveryStep (step options) start (Effective options) inputs := by
  have hrouted : Always (step options) start RendezvousHub.Routed inputs :=
    always_of_step hstart.routed (fun _ input h => (step_routes h input).1) inputs
  refine everyStep_of_always hrouted hunclaimed fun hub input h hunclaimed => ⟨?_, ?_⟩
  · exact fun _ _ _ hdelegates hrevoked hafter => effective_members h hunclaimed hdelegates hrevoked hafter
  · exact fun _ _ hhas hrevoked => effective_routes h hunclaimed hhas hrevoked

theorem unclaimed_of_lookups {hub : RendezvousHub} {challengeId signature inviteId secret creator : JsString}
    {surroundings : Surroundings}
    (hinvite : (hub.trustStore.state.deviceInvites.get? inviteId).all
      (fun invite => invite.createdByDeviceId = creator) = true)
    (hcreator : (hub.trustStore.state.devices.get? creator).all (fun device => device.revokedAt = none) = true) :
    Unclaimed options hub ⟨.called (.acceptDeviceInvite challengeId signature inviteId secret), surroundings⟩ := by
  rintro challenge invite haccepts ⟨device, hdevice, hrevokedAt⟩
  have hinvited : hub.trustStore.state.deviceInvites.get? inviteId = some invite := haccepts.invited
  rw [hinvited, Option.all_some] at hinvite
  rw [of_decide_eq_true hinvite] at hdevice
  rw [hdevice, Option.all_some] at hcreator
  exact hrevokedAt (of_decide_eq_true hcreator)

/-- A device accepts an invite, and the one that made it is revoked. -/
theorem delegation_effective_accepting :
    EveryStep (step plainHubOptions) invitingHub (Effective plainHubOptions)
      [acceptChallenging, accepting 0, revokeChallenging "R0hJ", revoking "R0hJ" 2] := by
  refine delegation_effective invitingHub ⟨rfl, rfl, rfl, rfl⟩ _ ?_
  simp only [everyStep_cons]
  refine ⟨trivial, ?_, trivial, trivial, everyStep_nil⟩
  have hlookups : ((step plainHubOptions invitingHub acceptChallenging).trustStore.state.deviceInvites.get?
          (js "invite_0")).all (fun invite => invite.createdByDeviceId = js "d_R0hJ") = true ∧
      ((step plainHubOptions invitingHub acceptChallenging).trustStore.state.devices.get? (js "d_R0hJ")).all
        (fun device => device.revokedAt = none) = true := by
    decide +kernel
  exact unclaimed_of_lookups hlookups.1 hlookups.2

theorem not_effective_of_lookups {hub : RendezvousHub} {input : Input} {creator accountId deviceId : JsString}
    {deviceIds : List JsString} {revokedAt : Int} (hdelegates : Delegates hub input.event creator)
    (hcreator : (hub.trustStore.state.devices.get? creator).map (fun device => device.revokedAt) =
      some (some revokedAt))
    (hunknown : hub.trustStore.state.devices.get? deviceId = none)
    (haccount : (hub.trustStore.state.accounts.get? accountId).map (fun account => account.deviceIds) = some deviceIds)
    (hmissing : deviceId ∉ deviceIds)
    (hafter : ((step options hub input).trustStore.state.devices.get? deviceId).map (fun device => device.accountId) =
      some accountId) : ¬ Effective options hub input := by
  intro heffective
  obtain ⟨device, hdevice, hrevokedAt⟩ := Option.map_eq_some_iff.mp hcreator
  obtain ⟨added, hadded, hmember⟩ := Option.map_eq_some_iff.mp hafter
  have hrevoked : Revoked hub.trustStore creator := ⟨device, hdevice, by simp [hrevokedAt]⟩
  obtain ⟨known, hknown, -⟩ | ⟨account, hlisted, hmem⟩ :=
    heffective.members creator accountId deviceId hdelegates hrevoked (.inl ⟨added, hadded, hmember⟩)
  · cases hknown.symm.trans hunknown
  · rw [hlisted, Option.map_some] at haccount
    rw [Option.some.inj haccount] at hmem
    exact hmissing hmem

private def inviterRevoked : RendezvousHub :=
  run (step plainHubOptions) invitingHub [revokeChallenging "R0hJ", revoking "R0hJ" 0, acceptChallenging]

/-- The device that made an invite is revoked, and another device still comes to the account by the invite. -/
theorem invite_of_revoked_device_accepted :
    ¬ EveryStep (step plainHubOptions) invitingHub (Effective plainHubOptions)
      ([revokeChallenging "R0hJ", revoking "R0hJ" 0, acceptChallenging] ++ [accepting 2]) := by
  intro heffective
  obtain ⟨-, hlast⟩ := everyStep_snoc.mp heffective
  have hlookups : (inviterRevoked.trustStore.state.deviceInvites.get? (js "invite_0")).map
        (fun invite => invite.createdByDeviceId) = some (js "d_R0hJ") ∧
      (inviterRevoked.trustStore.state.devices.get? (js "d_R0hJ")).map (fun device => device.revokedAt) =
        some (some 1) ∧
      inviterRevoked.trustStore.state.devices.get? (js "d_REVG") = none ∧
      (inviterRevoked.trustStore.state.accounts.get? (js "a_0")).map (fun account => account.deviceIds) =
        some [js "d_R0hJ"] ∧
      ((step plainHubOptions inviterRevoked (accepting 2)).trustStore.state.devices.get? (js "d_REVG")).map
        (fun device => device.accountId) = some (js "a_0") := by
    decide +kernel
  obtain ⟨hinvite, hcreator, hunknown, haccount, hafter⟩ := hlookups
  obtain ⟨invite, hinvited, hcreated⟩ := Option.map_eq_some_iff.mp hinvite
  have hdelegates : Delegates inviterRevoked (accepting 2).event (js "d_R0hJ") := hcreated ▸ .invite hinvited
  exact not_effective_of_lookups hdelegates hcreator hunknown haccount (by decide) hafter hlast

end pipane.rendezvous_hub

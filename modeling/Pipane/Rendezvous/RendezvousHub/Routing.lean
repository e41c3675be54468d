import Pipane.Lib.Transition
import Pipane.Rendezvous.RendezvousHub.Signals
import Pipane.Rendezvous.TrustStore.Authority

open javascript json durable transition pipane.trust_protocol pipane.rendezvous_protocol pipane.ice_server_provider
open pipane.backend_identity (backendRegistrationPayload)
open pipane.trust_store (RevocationResult)

namespace pipane.rendezvous_hub

/-- A revocation is about a route: about its device, or about its backend and the account of the route. -/
def Concerns (result : RevocationResult) (route : BrowserRoute) : Prop :=
  match result.deviceId with
  | some deviceId => deviceId = route.claims.deviceId
  | none => propertyKey result.backendId = route.backendId ∧ route.claims.accountId = some result.accountId

/-- The store revokes something that a route of the table is about. -/
def Revokes (options : RendezvousHubOptions) (hub : RendezvousHub) (input : Input) (ref : RouteRef) : Prop :=
  ∃ call result route, input.event = .called call ∧ hub.Has ref route ∧ Concerns result route ∧
    trust_store.replyOf options.trust hub.trustStore { call, circumstances := input.surroundings.circumstances } =
      some (.revocation result)

/-- The routes of a device that is to be revoked carry the account of the device, and a backend that is to be revoked is
    named by its id itself. -/
def Named (hub : RendezvousHub) (input : Input) : Prop :=
  match input.event with
  | .called (.revokeDevice challengeId _) => ∀ challenge target ref route,
      hub.trustStore.memory.get? challengeId = some challenge →
      hub.trustStore.state.devices.get? (propertyKey challenge.targetDeviceId) = some target → hub.Has ref route →
      route.claims.deviceId = target.deviceId → route.claims.accountId = some target.accountId
  | .called (.revokeBackend challengeId _) => ∀ challenge ref route,
      hub.trustStore.memory.get? challengeId = some challenge → hub.Has ref route →
      propertyKey challenge.backendId = route.backendId → challenge.backendId = some (.str route.backendId)
  | _ => True

section

variable (options : RendezvousHubOptions)

/-- A route came from a ticket of its own, and nothing revoked it since. -/
structure Created (start : RendezvousHub) (inputs : List Input) (ref : RouteRef) (route : BrowserRoute) : Prop where
  opened : ∃ earlier opening later granted raw iceServers, inputs = earlier ++ opening :: later ∧
    opening.event = .browserMessage granted.browser raw ∧
    decodeBrowserCommand raw = .ok (.connectBackend granted.backendId granted.ticket iceServers) ∧
    SameRoute granted route ∧
    RendezvousHub.Granted options (run (step options) start earlier) opening.surroundings granted ∧
    ∀ mid revoking rest, later = mid ++ revoking :: rest →
      ¬ Revokes options (run (step options) start (earlier ++ opening :: mid)) revoking ref

/-- The two tables hold the same routes, one for each connection id and one for each browser, and each is to a registered
    backend and came from its ticket. -/
structure Routing (start : RendezvousHub) (inputs : List Input) : Prop where
  indexed : (run (step options) start inputs).Indexed
  unique : ∀ ref other route otherRoute, (run (step options) start inputs).Has ref route →
    (run (step options) start inputs).Has other otherRoute →
    route.connectionId = otherRoute.connectionId ∨ route.browser = otherRoute.browser → ref = other
  registered : (run (step options) start inputs).Registered
  created : ∀ ref route, (run (step options) start inputs).Has ref route → Created options start inputs ref route

/-- Every signal that a step sends is forwarded along a route. -/
def Forwards (hub : RendezvousHub) (input : Input) : Prop :=
  ∀ m ∈ (step options hub input).sent, m.isSignal = true → Forwarded hub input.event m

/-- A hub that nobody has connected to yet. -/
structure Unconnected (hub : RendezvousHub) : Prop where
  backends : hub.backends = ∅
  browserRoutes : hub.browserRoutes = ∅
  routes : hub.routes = ∅
  objects : hub.objects = ∅

end

theorem Unconnected.routed {hub : RendezvousHub} (h : Unconnected hub) : hub.Routed := by
  obtain ⟨-, hbrowserRoutes, hroutes, hobjects⟩ := h
  refine ⟨⟨?_, ?_, ?_, ?_⟩, ?_⟩
  · rw [hroutes]
    intro connectionId ref hget
    cases hget
  · rw [hbrowserRoutes]
    intro socket ref hget
    cases hget
  · rw [hobjects]
    intro ref route hget
    cases hget
  · rw [hobjects]
    intro ref route hget
    cases hget
  · intro ref route hhas
    rw [RendezvousHub.Has, hobjects] at hhas
    cases hhas.1

variable {options : RendezvousHubOptions}

theorem cleared {hub : RendezvousHub} (h : hub.Routed) : ({ hub with sent := [] } : RendezvousHub).Routed :=
  ⟨⟨h.indexed.byConnection, h.indexed.byBrowser, h.indexed.inverse, h.indexed.allocated⟩, h.registered⟩

theorem granted_cleared {hub : RendezvousHub} {surroundings : Surroundings} {route : BrowserRoute}
    (h : RendezvousHub.Granted options { hub with sent := [] } surroundings route) :
    RendezvousHub.Granted options hub surroundings route := by
  obtain ⟨⟨store, hserve, hadmitted⟩, hbackendId, hconnectionId⟩ := h
  refine ⟨⟨store, hserve, ?_⟩, hbackendId, hconnectionId⟩
  cases hadmitted with
  | connection accountId kind account named owner active => exact .connection accountId kind account named owner active
  | pairing pairId pairing kind pair opened unexpired backend =>
    exact .pairing pairId pairing kind pair opened unexpired backend

theorem step_routes {hub : RendezvousHub} (h : hub.Routed) (input : Input) :
    (step options hub input).Routed ∧ ∀ ref kept, (step options hub input).Has ref kept →
      (∃ route, hub.Has ref route ∧ SameRoute route kept) ∨
        ∃ raw iceServers, input.event = .browserMessage kept.browser raw ∧
          decodeBrowserCommand raw = .ok (.connectBackend kept.backendId kept.ticket iceServers) ∧
          RendezvousHub.Granted options hub input.surroundings kept := by
  obtain hadvances | ⟨socket, raw, _, _, iceServers, route, hevent, hdecoded, hgranted, hadds, rfl, rfl, rfl⟩ :=
    handle_cases (cleared h) options input.surroundings input.event
  · exact ⟨hadvances.routed, fun ref kept hhas => .inl (hadvances.kept.has hhas)⟩
  · refine ⟨hadds.routed, fun ref kept hhas => ?_⟩
    obtain ⟨object, hobject⟩ | ⟨-, rfl⟩ := hadds.made ref kept hhas.1
    · left
      obtain ⟨kept', hkept, hsame⟩ := hadds.objects ref object hobject
      obtain rfl := Option.some.inj (hkept.symm.trans hhas.1)
      refine ⟨object, ⟨hobject, ?_⟩, hsame⟩
      obtain hroute | rfl := hadds.routes _ ref hhas.2
      · rwa [hsame.connectionId] at hroute
      · exact absurd (h.indexed.allocated _ object hobject) (Nat.lt_irrefl _)
    · exact .inr ⟨raw, iceServers, hevent, hdecoded, granted_cleared hgranted⟩

/-- A revocation whose routes are named closes every route that it is about. -/
theorem not_concerned {hub : RendezvousHub} (h : hub.Routed) {input : Input} {call : trust_store.Call}
    {result : RevocationResult} {ref : RouteRef} {route : BrowserRoute} (hnamed : Named hub input)
    (hevent : input.event = .called call)
    (hreply : trust_store.replyOf options.trust hub.trustStore
      { call, circumstances := input.surroundings.circumstances } = some (.revocation result))
    (hhas : hub.Has ref route) (hconcerns : Concerns result route) {kept : BrowserRoute} :
    ¬ (step options hub input).Has ref kept := by
  intro hkept
  obtain ⟨event, surroundings⟩ := input
  obtain rfl : event = .called call := hevent
  have hstep : ∃ store, step options hub ⟨.called call, surroundings⟩ =
      ({ hub with sent := [], trustStore := store } : RendezvousHub).notifyRevocation result := by
    change ∃ store, RendezvousHub.callStore options surroundings { hub with sent := [] } call = _
    unfold RendezvousHub.callStore
    unfold trust_store.replyOf at hreply
    split at hreply
    · rename_i reply store hserve
      cases hreply
      simp only [hserve]
      exact ⟨store, rfl⟩
    · cases hreply
  obtain ⟨store, hstep⟩ := hstep
  rw [hstep] at hkept
  have hrouted : ({ hub with sent := [], trustStore := store } : RendezvousHub).Routed :=
    ⟨⟨h.indexed.byConnection, h.indexed.byBrowser, h.indexed.inverse, h.indexed.allocated⟩, h.registered⟩
  have hspared := RendezvousHub.revokes_notifyRevocation hrouted result hkept
  have hobject : hub.objects.get? ref = some kept := by
    have hget := hkept.1
    rwa [RendezvousHub.objects_notifyRevocation hrouted] at hget
  obtain rfl := Option.some.inj (hobject.symm.trans hhas.1)
  have hrevocation := trust_store.revocation_reply hreply
  cases hrevocation with
  | device opened known =>
    have haccount := hnamed _ _ ref kept opened known hhas hconcerns.symm
    have hdevice : some _ = some kept.claims.deviceId := congrArg some hconcerns
    simp [RendezvousHub.revokes, haccount, hdevice, truthy] at hspared
  | backend opened owned =>
    obtain ⟨hbackend, haccount⟩ := hconcerns
    have hnamed := hnamed _ ref kept opened hhas hbackend
    simp [RendezvousHub.revokes, haccount, hnamed, isStr, Value.isStr, trust_store.present] at hspared

theorem Created.step {start : RendezvousHub} {inputs : List Input} {ref : RouteRef} {route kept : BrowserRoute}
    {input : Input} (h : Created options start inputs ref route) (hsame : SameRoute route kept)
    (hspared : ¬ Revokes options (run (step options) start inputs) input ref) :
    Created options start (inputs ++ [input]) ref kept := by
  obtain ⟨earlier, opening, later, granted, raw, iceServers, rfl, hevent, hdecoded, hkept, hgranted, hlater⟩ := h.opened
  refine ⟨earlier, opening, later ++ [input], granted, raw, iceServers, ?_, hevent, hdecoded, hkept.trans hsame,
    hgranted, ?_⟩
  · rw [List.append_assoc, List.cons_append]
  · intro mid revoking rest hsplit
    obtain rfl | ⟨rest, last, rfl⟩ := rest.eq_nil_or_concat
    · obtain ⟨rfl, hlast⟩ := List.append_inj' hsplit rfl
      rw [← List.singleton_inj.mp hlast]
      exact hspared
    · rw [List.concat_eq_append, ← List.cons_append, ← List.append_assoc] at hsplit
      exact hlater mid revoking rest (List.append_inj' hsplit rfl).1

/-- In every run whose revocations name their routes, the tables describe the same routes, each to a registered backend and
    from a ticket of its own that was not revoked since, and signals go along routes only. -/
theorem hub_routing (start : RendezvousHub) (hstart : Unconnected start) (inputs : List Input)
    (hnamed : EveryStep (step options) start Named inputs) :
    Routing options start inputs ∧ EveryStep (step options) start (Forwards options) inputs := by
  have hrouted : ∀ inputs, Always (step options) start RendezvousHub.Routed inputs :=
    always_of_step hstart.routed (fun _ input h => (step_routes h input).1)
  have hindexed := (hrouted inputs).last.indexed
  refine ⟨⟨hindexed, fun ref other route otherRoute hhas hother hsame => ?_, (hrouted inputs).last.registered, ?_⟩, ?_⟩
  · exact hindexed.unique hhas hother hsame
  · clear hindexed
    induction inputs using List.reverseRecOn with
    | nil =>
      intro ref route hhas
      rw [run_nil, RendezvousHub.Has, hstart.objects] at hhas
      cases hhas.1
    | append_singleton inputs input ih =>
      obtain ⟨hbefore, hlast⟩ := everyStep_snoc.mp hnamed
      have hmid := (hrouted inputs).last
      intro ref kept hkept
      rw [run_snoc] at hkept
      obtain ⟨route, hhas, hsame⟩ | ⟨raw, iceServers, hevent, hdecoded, hgranted⟩ :=
        (step_routes hmid input).2 ref kept hkept
      · refine (ih hbefore ref route hhas).step hsame ?_
        rintro ⟨call, result, concerned, hevent, hhas, hconcerns, hreply⟩
        exact not_concerned hmid hlast hevent hreply hhas hconcerns hkept
      · refine ⟨inputs, input, [], kept, raw, iceServers, rfl, hevent, hdecoded, .refl kept, hgranted, ?_⟩
        intro mid revoking rest hsplit
        cases mid with
        | nil => cases hsplit
        | cons first mid => cases hsplit
  · exact everyStep_of_always (hrouted inputs) hnamed fun hub input h _ m hsent hsignal =>
      (effects_step options input h.indexed).1 m hsent hsignal

def plainHubOptions : RendezvousHubOptions where
  trust := trust_store.plainOptions
  iceServerProvider := { hmacSha1 := fun secret username => secret ++ username }

/-- A hub whose store is new. -/
def newHub : RendezvousHub where
  trustStore := trust_store.freshStore 1

def message (type : String) (properties : List (String × Value)) : JsString :=
  stringify (.obj ([(js "type", .str (js type)), (js "protocolVersion", .num (.int RENDEZVOUS_PROTOCOL_VERSION))] ++
    properties.map fun property => (js property.1, property.2)))

def text (s : String) : Value := .str (js s)

/-- A backend that connects and registers. -/
def registering : List Input :=
  [{ event := .backendAccepted 1 },
    { event := .backendMessage 1 (message "register_backend" [("publicKey", text "QUJD"),
        ("signature", .str (trust_store.plainSignature (js "QUJD") (backendRegistrationPayload (js "0")))),
        ("metadata", .obj [(js "softwareVersion", text "1"), (js "protocolVersions", .arr [.num (.int 1)])])]) }]

def pairingOpening (pairId : String) : Input where
  event := .backendMessage 1 (message "open_pairing" [("pairId", text pairId), ("expiresAt", .num (.int 600000))])

/-- The challenge of a new device whose key is `REVG`, when `n` texts have been drawn. -/
def pairChallenge (n : Nat) (connectionId pairId : String) : DeviceChallenge where
  challengeId := js "ch_" ++ decimal n
  nonce := decimal (n + 1)
  purpose := .pair
  deviceId := js "d_REVG"
  devicePublicKey := js "REVG"
  backendId := some (text "b_QUJD")
  connectionId := some (text connectionId)
  pairId := some (text pairId)
  targetDeviceId := none
  expiresAt := 120001

def pairClaims (n : Nat) (connectionId pairId : String) : Value :=
  trust_store.claimsValue .pairing (js "t_" ++ decimal (n + 2)) (pairChallenge n connectionId pairId) (js "REVG") none
    (some (text pairId)) 1 120001

def pairTicket (n : Nat) (connectionId pairId : String) : JsString :=
  let encodedClaims := trust_store.encodeClaims (pairClaims n connectionId pairId)
  encodedClaims ++ 0x2E ::
    trust_store.plainOptions.sign (n + 3) (textEncode (connectionTicketSignaturePayload encodedClaims))

/-- A device that is issued a ticket to pair with. -/
def pairTicketing (n : Nat) (connectionId pairId : String) : List Input :=
  [{ event := .called (.createChallenge {
        purpose := some (text "pair")
        backendId := some (text "b_QUJD")
        connectionId := some (text connectionId)
        pairId := some (text pairId)
        devicePublicKey := some (text "REVG") }) },
    { event := .called (.issuePairingTicket (js "ch_" ++ decimal n)
        (trust_store.plainSignature (js "REVG") (deviceChallengePayload (pairChallenge n connectionId pairId)))) }]

def connecting (socket : Socket) (ticket : JsString) : Input where
  event := .browserMessage socket (message "connect_backend" [("backendId", text "b_QUJD"), ("ticket", .str ticket)])

def confirming (connectionId : String) : Input where
  event := .backendMessage 1 (message "confirm_pairing" [("connectionId", text connectionId)])

/-- A store with one account, whose device has made an invite with the secret `s`. -/
def invitingState : trust_store.StoredTrustState where
  accounts := (∅ : OrderedMap JsString trust_store.StoredAccount).set (js "a_0")
    { accountId := js "a_0", deviceIds := [js "d_R0hJ"], backendIds := [js "b_QUJD"], createdAt := 0 }
  devices := (∅ : OrderedMap JsString trust_store.StoredDevice).set (js "d_R0hJ")
    { deviceId := js "d_R0hJ", publicKey := js "R0hJ", accountId := js "a_0", createdAt := 0 }
  backendOwners := (∅ : OrderedMap JsString JsString).set (js "b_QUJD") (js "a_0")
  deviceInvites := (∅ : OrderedMap JsString trust_store.StoredDeviceInvite).set (js "invite_0") {
    inviteId := js "invite_0"
    secretHash := trust_store.hashDeviceInviteSecret trust_store.plainOptions (js "s")
    accountId := js "a_0"
    createdByDeviceId := js "d_R0hJ"
    createdAt := 0
    expiresAt := 600000 }

def invitingHub : RendezvousHub where
  trustStore := { trust_store.freshStore 1 with state := invitingState, disk := invitingState }

def acceptChallenge (n : Nat) : DeviceChallenge where
  challengeId := js "ch_" ++ decimal n
  nonce := decimal (n + 1)
  purpose := .acceptDeviceInvite
  deviceId := js "d_REVG"
  devicePublicKey := js "REVG"
  backendId := none
  connectionId := none
  pairId := some (text "invite_0")
  targetDeviceId := none
  expiresAt := 120001

/-- The device `d_REVG` accepts the invite, when `n` texts have been drawn. -/
def acceptChallenging : Input where
  event := .called (.createChallenge {
    purpose := some (text "accept_device_invite")
    pairId := some (text "invite_0")
    devicePublicKey := some (text "REVG") })

def accepting (n : Nat) : Input where
  event := .called (.acceptDeviceInvite (js "ch_" ++ decimal n)
    (trust_store.plainSignature (js "REVG") (deviceChallengePayload (acceptChallenge n))) (js "invite_0") (js "s"))

/-- The device with a key revokes itself, when `n` texts have been drawn. -/
def revokeChallenge (key : String) (n : Nat) : DeviceChallenge where
  challengeId := js "ch_" ++ decimal n
  nonce := decimal (n + 1)
  purpose := .revokeDevice
  deviceId := js "d_" ++ js key
  devicePublicKey := js key
  backendId := some (text "b_QUJD")
  connectionId := none
  pairId := none
  targetDeviceId := some (.str (js "d_" ++ js key))
  expiresAt := 120001

def revokeChallenging (key : String) : Input where
  event := .called (.createChallenge {
    purpose := some (text "revoke_device")
    backendId := some (text "b_QUJD")
    deviceId := some (.str (js "d_" ++ js key))
    targetDeviceId := some (.str (js "d_" ++ js key)) })

def revoking (key : String) (n : Nat) : Input where
  event := .called (.revokeDevice (js "ch_" ++ decimal n)
    (trust_store.plainSignature (js key) (deviceChallengePayload (revokeChallenge key n))))

def isRevocation : Event → Bool
  | .called (.revokeDevice _ _) => true
  | .called (.revokeBackend _ _) => true
  | _ => false

theorem named_of_not_revocation {hub : RendezvousHub} {input : Input} (h : isRevocation input.event = false) :
    Named hub input := by
  unfold Named
  split
  · rename_i hevent
    rw [hevent] at h
    cases h
  · rename_i hevent
    rw [hevent] at h
    cases h
  · trivial

theorem named_of_lookups {hub : RendezvousHub} {input : Input} {challengeId signature key accountId : JsString}
    (hevent : input.event = .called (.revokeDevice challengeId signature))
    (hkey : (hub.trustStore.memory.get? challengeId).all
      (fun challenge => propertyKey challenge.targetDeviceId = key) = true)
    (haccounts : hub.objects.values.all (fun route => route.claims.accountId = some accountId) = true)
    (htarget : (hub.trustStore.state.devices.get? key).map (fun device => device.accountId) = some accountId) :
    Named hub input := by
  unfold Named
  rw [hevent]
  intro challenge target ref route hopened hknown hhas _
  rw [hopened, Option.all_some] at hkey
  rw [of_decide_eq_true hkey] at hknown
  rw [hknown] at htarget
  rw [of_decide_eq_true (List.all_eq_true.mp haccounts route (OrderedMap.mem_values_of_get? hhas.1))]
  exact htarget.symm

private def pairedInputs : List Input :=
  registering ++ pairingOpening "p1" :: pairTicketing 0 "c1" "p1" ++
    [connecting 2 (pairTicket 0 "c1" "p1"), confirming "c1"] ++ [revokeChallenging "REVG"]

/-- A device that pairs with a backend and revokes itself. -/
theorem hub_routing_pairing :
    Routing plainHubOptions newHub (pairedInputs ++ [revoking "REVG" 5]) ∧
      EveryStep (step plainHubOptions) newHub (Forwards plainHubOptions) (pairedInputs ++ [revoking "REVG" 5]) := by
  refine hub_routing newHub ⟨rfl, rfl, rfl, rfl⟩ _ (everyStep_snoc.mpr ⟨?_, ?_⟩)
  · have hcalm : ∀ input ∈ pairedInputs, isRevocation input.event = false := by
      decide
    exact everyStep_of_forall fun input hinput hub => named_of_not_revocation (hcalm input hinput)
  · have hlookups : ((run (step plainHubOptions) newHub pairedInputs).trustStore.memory.get?
            (js "ch_" ++ decimal 5)).all
          (fun challenge => propertyKey challenge.targetDeviceId = js "d_REVG") = true ∧
        (run (step plainHubOptions) newHub pairedInputs).objects.values.all
          (fun route => route.claims.accountId = some (js "a_4")) = true ∧
        ((run (step plainHubOptions) newHub pairedInputs).trustStore.state.devices.get? (js "d_REVG")).map
          (fun device => device.accountId) = some (js "a_4") := by
      decide +kernel
    exact named_of_lookups rfl hlookups.1 hlookups.2.1 hlookups.2.2

private def revokedInputs : List Input :=
  registering ++ pairingOpening "p1" :: pairTicketing 0 "c1" "p1" ++
    [acceptChallenging, accepting 4, connecting 2 (pairTicket 0 "c1" "p1"), revokeChallenging "REVG"]

private def revokedDevice? (options : RendezvousHubOptions) (hub : RendezvousHub) (input : Input) : Option JsString :=
  match input.event with
  | .called call =>
    match trust_store.replyOf options.trust hub.trustStore
        { call, circumstances := input.surroundings.circumstances } with
    | some (.revocation result) => result.deviceId
    | _ => none
  | _ => none

theorem revokes_of_lookups {options : RendezvousHubOptions} {hub : RendezvousHub} {input : Input}
    {ref : RouteRef} {connectionId deviceId : JsString}
    (hobject : (hub.objects.get? ref).map (fun route => (route.connectionId, route.claims.deviceId)) =
      some (connectionId, deviceId))
    (hroute : hub.routes.get? connectionId = some ref) (hreply : revokedDevice? options hub input = some deviceId) :
    Revokes options hub input ref := by
  obtain ⟨standing, hget, hstanding⟩ := Option.map_eq_some_iff.mp hobject
  obtain ⟨rfl, rfl⟩ := Prod.mk.inj hstanding
  unfold revokedDevice? at hreply
  split at hreply
  · rename_i call hevent
    split at hreply
    · rename_i result hresult
      refine ⟨call, result, standing, hevent, ⟨hget, hroute⟩, ?_, hresult⟩
      rw [Concerns, hreply]
    · cases hreply
  · cases hreply

/-- A device is issued a ticket to pair, joins an account by an invite, opens a route by the ticket and is revoked. The
    route stays. -/
theorem revoked_route_stays : ¬ Routing plainHubOptions invitingHub (revokedInputs ++ [revoking "REVG" 6]) := by
  intro hrouting
  have hstates : ((run (step plainHubOptions) invitingHub revokedInputs).objects.get? 0).map
        (fun route => (route.connectionId, route.claims.deviceId)) = some (js "c1", js "d_REVG") ∧
      (run (step plainHubOptions) invitingHub revokedInputs).routes.get? (js "c1") = some 0 ∧
      revokedDevice? plainHubOptions (run (step plainHubOptions) invitingHub revokedInputs) (revoking "REVG" 6) =
        some (js "d_REVG") ∧
      (step plainHubOptions (run (step plainHubOptions) invitingHub revokedInputs) (revoking "REVG" 6)).routes.get?
        (js "c1") = some 0 := by
    decide +kernel
  obtain ⟨hobject, hroute, hreply, htable⟩ := hstates
  have hindexed := hrouting.indexed
  rw [run_snoc] at hindexed
  obtain ⟨route, hstanding, -⟩ := hindexed.has htable
  have hhas : (run (step plainHubOptions) invitingHub (revokedInputs ++ [revoking "REVG" 6])).Has 0 route := by
    rw [run_snoc]
    exact hstanding
  obtain ⟨earlier, opening, later, granted, raw, iceServers, hsplit, hevent, -, -, -, hlater⟩ :=
    (hrouting.created 0 route hhas).opened
  obtain rfl | ⟨mid, last, rfl⟩ := later.eq_nil_or_concat
  · obtain ⟨-, hlast⟩ := List.append_inj' hsplit rfl
    rw [← List.singleton_inj.mp hlast] at hevent
    cases hevent
  · rw [List.concat_eq_append, ← List.cons_append, ← List.append_assoc] at hsplit
    obtain ⟨hbefore, hlast⟩ := List.append_inj' hsplit rfl
    obtain rfl := List.singleton_inj.mp hlast
    refine hlater mid (revoking "REVG" 6) [] (List.concat_eq_append ..) ?_
    rw [← hbefore]
    exact revokes_of_lookups hobject hroute hreply

end pipane.rendezvous_hub

import Pipane.Lib.OrderedMap
import Pipane.Server.BackendIdentity

open javascript json pipane.trust_protocol pipane.node_trust_crypto pipane.rendezvous_protocol pipane.backend_identity

namespace pipane.backend_webrtc

def MAX_AUTHENTICATION_FRAME_BYTES : Nat := 32 * 1024

def PIPANE_DATA_CHANNEL_LABEL : JsString := js "pipane"

def PIPANE_DATA_CHANNEL_PROTOCOL : JsString := js "pipane.v1"

/-! State objects, data channels, timers and pending authorizations are compared by identity. -/

abbrev PeerRef := Nat

abbrev ChannelRef := Nat

abbrev TimerRef := Nat

abbrev AuthorizationRef := Nat

structure BackendConnectionRequest where
  connectionId : JsString
  ticket : JsString
  iceServers : List Value

structure BackendAuthorizationResult where
  accountId : JsString
  deviceId : JsString
deriving DecidableEq

structure BackendWebRtcManagerOptions where
  crypto : NodeCrypto
  identity : BackendIdentity

variable (options : BackendWebRtcManagerOptions)

/-- A request whose ticket was verified with the key of the rendezvous and is one for this route. -/
structure VerifiedRequest where
  request : BackendConnectionRequest
  claims : ConnectionTicketClaims
  ticketPublicKey : JsString
  openedAt : Int
  verified : verifyConnectionTicket options.crypto request.ticket ticketPublicKey openedAt = .ok claims
  connectionId : claims.connectionId = request.connectionId
  backendId : claims.backendId = options.identity.backendId
  deviceId : deriveDeviceId options.crypto claims.devicePublicKey = .ok claims.deviceId

/-- `bindings` holds every binding that was signed for the peer, the last one first. -/
structure PeerState where
  opened : VerifiedRequest options
  offerSdp : Option JsString := none
  bindings : List BackendIdentityBinding := []
  authenticated : Option BackendAuthorizationResult := none
  authenticationTimer : Option TimerRef := none

def PeerState.connectionId {options : BackendWebRtcManagerOptions} (state : PeerState options) : JsString :=
  state.opened.request.connectionId

/-- The binding that a frame has to name. -/
def PeerState.binding {options : BackendWebRtcManagerOptions} (state : PeerState options) :
    Option BackendIdentityBinding :=
  state.bindings.head?

/-- A frame that names the ticket and a binding of a peer, under a signature of the device of the ticket. -/
structure DeviceProof where
  opened : VerifiedRequest options
  binding : BackendIdentityBinding
  hello : DataChannelAuthenticateFrame
  ticket : hello.ticket = opened.request.ticket
  bindingSignature : hello.bindingSignature = binding.signature
  signed : verifyDeviceSignature options.crypto opened.claims.devicePublicKey
    (deviceConnectionProofPayload hello.ticket hello.bindingSignature) hello.deviceSignature = true

/-- An `authenticateChannel` that has not settled: it waits for `authorize`, or it was rejected. -/
structure PendingAuthentication where
  peer : PeerRef
  channel : ChannelRef
  proof : Except String (DeviceProof options)

structure AuthenticatedDataChannel where
  peer : PeerRef
  channel : ChannelRef
  proof : DeviceProof options
  authorization : BackendAuthorizationResult

/-- What the manager hands to the signaling client. -/
inductive Outgoing
  | answer (connectionId sdp : JsString)
  | candidate (connectionId candidate : JsString) (sdpMid : Option JsString)
  | identityBinding (connectionId : JsString) (binding : BackendIdentityBinding)
  | closeConnection (connectionId reason : JsString)

/-- `exposed` holds what the listeners were given, `reported` the connections for which an error was reported and
    `sent` what was sent, both since the last event. -/
structure BackendWebRtcManager where
  peers : OrderedMap JsString PeerRef := ∅
  states : OrderedMap PeerRef (PeerState options) := ∅
  channels : OrderedMap ChannelRef PeerRef := ∅
  timers : OrderedMap TimerRef PeerRef := ∅
  authentications : OrderedMap AuthorizationRef (PendingAuthentication options) := ∅
  allocated : Nat := 0
  exposed : List (AuthenticatedDataChannel options) := []
  reported : List JsString := []
  sent : List Outgoing := []

/-- What the manager meets during one event: the key of the rendezvous, the time, whether the signaling client is
    registered, whether a call of the WebRTC library throws, and whether the data channel does. -/
structure Surroundings where
  ticketPublicKey : Option JsString := none
  now : Int := 0
  online : Bool := true
  peerThrows : Bool := false
  channelThrows : Bool := false

inductive PeerConnectionState
  | new
  | connecting
  | connected
  | disconnected
  | failed
  | closed
deriving DecidableEq

namespace BackendWebRtcManager

variable {options : BackendWebRtcManagerOptions} (surroundings : Surroundings)

/-- `this.peers.get(state.request.connectionId) === state` -/
def isCurrent (manager : BackendWebRtcManager options) (peer : PeerRef) (state : PeerState options) : Bool :=
  manager.peers.get? state.connectionId = some peer

def setState (manager : BackendWebRtcManager options) (peer : PeerRef) (state : PeerState options) :
    BackendWebRtcManager options :=
  { manager with states := manager.states.set peer state }

def clearTimeout (manager : BackendWebRtcManager options) (timer : Option TimerRef) : BackendWebRtcManager options :=
  match timer with
  | none => manager
  | some timer => { manager with timers := manager.timers.erase timer }

def send (manager : BackendWebRtcManager options) (message : Outgoing) : BackendWebRtcManager options :=
  if surroundings.online then { manager with sent := manager.sent ++ [message] } else manager

def report (manager : BackendWebRtcManager options) (connectionId : JsString) : BackendWebRtcManager options :=
  { manager with reported := manager.reported ++ [connectionId] }

def removePeer (manager : BackendWebRtcManager options) (connectionId : JsString) : BackendWebRtcManager options :=
  match manager.peers.get? connectionId with
  | none => manager
  | some peer =>
    let manager := { manager with peers := manager.peers.erase connectionId }
    match manager.states.get? peer with
    | none => manager
    | some state => manager.clearTimeout state.authenticationTimer

def failPeer (manager : BackendWebRtcManager options) (connectionId : JsString) : BackendWebRtcManager options :=
  ((manager.report connectionId).send surroundings
    (.closeConnection connectionId (js "WebRTC negotiation failed"))).removePeer connectionId

def rejectRequest (manager : BackendWebRtcManager options) (connectionId : JsString) (message : String) :
    BackendWebRtcManager options :=
  (manager.report connectionId).send surroundings (.closeConnection connectionId (js message))

variable (options) in
/-- The checks of a request. -/
def openRequest (request : BackendConnectionRequest) : Except String (VerifiedRequest options) :=
  match surroundings.ticketPublicKey with
  | none => .error "Rendezvous ticket verification key is unavailable"
  | some key =>
    match hverified : verifyConnectionTicket options.crypto request.ticket key surroundings.now with
    | .error message => .error message
    | .ok claims =>
      if hroute : claims.connectionId = request.connectionId ∧ claims.backendId = options.identity.backendId then
        match hdevice : deriveDeviceId options.crypto claims.devicePublicKey with
        | .error message => .error message
        | .ok deviceId =>
          if hsame : deviceId = claims.deviceId then
            .ok ⟨request, claims, key, surroundings.now, hverified, hroute.1, hroute.2, by rw [hdevice, hsame]⟩
          else .error "Connection ticket device identity is invalid"
      else .error "Connection ticket does not match this backend route"

def createPeer (manager : BackendWebRtcManager options) (request : BackendConnectionRequest) :
    BackendWebRtcManager options :=
  let manager := manager.removePeer request.connectionId
  match openRequest options surroundings request with
  | .error message => manager.rejectRequest surroundings request.connectionId message
  | .ok opened =>
    if surroundings.peerThrows then manager
    else { manager with
      peers := manager.peers.set request.connectionId manager.allocated
      states := manager.states.set manager.allocated { opened }
      allocated := manager.allocated + 1 }

/-- `onLocalDescription` -/
def localDescription (manager : BackendWebRtcManager options) (peer : PeerRef) (sdp : JsString) (type : SdpType) :
    BackendWebRtcManager options :=
  match manager.states.get? peer with
  | none => manager
  | some state =>
    match state.offerSdp with
    | none => manager
    | some offerSdp =>
      if ¬ manager.isCurrent peer state ∨ type ≠ .answer ∨ offerSdp = [] then manager
      else
        match signBackendIdentityBinding options.crypto options.identity state.connectionId offerSdp sdp
            state.opened.claims.expiresAt with
        | .error _ => manager.failPeer surroundings state.connectionId
        | .ok binding =>
          let manager := manager.setState peer { state with bindings := binding :: state.bindings }
          if ¬ surroundings.online then manager.failPeer surroundings state.connectionId
          else (manager.send surroundings (.answer state.connectionId sdp)).send surroundings
            (.identityBinding state.connectionId binding)

/-- `onLocalCandidate` -/
def localCandidate (manager : BackendWebRtcManager options) (peer : PeerRef) (candidate mid : JsString) :
    BackendWebRtcManager options :=
  match manager.states.get? peer with
  | none => manager
  | some state =>
    if ¬ manager.isCurrent peer state then manager
    else if ¬ surroundings.online then manager.failPeer surroundings state.connectionId
    else manager.send surroundings
      (.candidate state.connectionId candidate (if mid = [] then none else some mid))

/-- `onStateChange`: the callback knows its connection id only. -/
def stateChanged (manager : BackendWebRtcManager options) (peer : PeerRef) (connectionState : PeerConnectionState) :
    BackendWebRtcManager options :=
  match manager.states.get? peer with
  | none => manager
  | some state =>
    if connectionState = .failed ∨ connectionState = .closed then manager.removePeer state.connectionId else manager

def handleDataChannel (manager : BackendWebRtcManager options) (peer : PeerRef) (label protocol : JsString) :
    BackendWebRtcManager options :=
  match manager.states.get? peer with
  | none => manager
  | some state =>
    if label ≠ PIPANE_DATA_CHANNEL_LABEL ∨ protocol ≠ PIPANE_DATA_CHANNEL_PROTOCOL then manager
    else { manager with
      states := manager.states.set peer { state with authenticationTimer := some manager.allocated }
      timers := manager.timers.set manager.allocated peer
      channels := manager.channels.set (manager.allocated + 1) peer
      allocated := manager.allocated + 2 }

/-- A timeout that fires: the callback knows its connection id only. -/
def timedOut (manager : BackendWebRtcManager options) (timer : TimerRef) : BackendWebRtcManager options :=
  match manager.timers.get? timer with
  | none => manager
  | some peer =>
    let manager := { manager with timers := manager.timers.erase timer }
    match manager.states.get? peer with
    | none => manager
    | some state => manager.failPeer surroundings state.connectionId

def failAuthentication (manager : BackendWebRtcManager options) (state : PeerState options) :
    BackendWebRtcManager options :=
  manager.failPeer surroundings state.connectionId

/-- The checks of `authenticateChannel` before it calls `authorize`. -/
def proveDevice (state : PeerState options) (hello : DataChannelAuthenticateFrame) :
    Except String (DeviceProof options) :=
  match state.binding with
  | none => .error "Backend identity binding is not ready"
  | some binding =>
    if state.opened.claims.expiresAt ≤ surroundings.now then .error "Connection ticket expired during negotiation"
    else if hmatch : hello.ticket = state.opened.request.ticket ∧ hello.bindingSignature = binding.signature then
      if hsigned : verifyDeviceSignature options.crypto state.opened.claims.devicePublicKey
          (deviceConnectionProofPayload hello.ticket hello.bindingSignature) hello.deviceSignature = true then
        .ok ⟨state.opened, binding, hello, hmatch.1, hmatch.2, hsigned⟩
      else .error "Invalid device connection signature"
    else .error "Device proof does not match the negotiated connection"

def authenticateChannel (manager : BackendWebRtcManager options) (peer : PeerRef) (channel : ChannelRef)
    (state : PeerState options) (hello : DataChannelAuthenticateFrame) : BackendWebRtcManager options :=
  { manager with
    authentications := manager.authentications.set manager.allocated
      { peer, channel, proof := proveDevice surroundings state hello }
    allocated := manager.allocated + 1 }

/-- A frame that cannot begin an authentication. -/
def isRefused (raw : JsString) : Bool :=
  MAX_AUTHENTICATION_FRAME_BYTES < (textEncode raw).length || (decodeDataChannelAuthenticateFrame raw).isNone

def channelMessage (manager : BackendWebRtcManager options) (channel : ChannelRef) (raw : JsString) :
    BackendWebRtcManager options :=
  match manager.channels.get? channel with
  | none => manager
  | some peer =>
    match manager.states.get? peer with
    | none => manager
    | some state =>
      if state.authenticated.isSome then manager
      else if MAX_AUTHENTICATION_FRAME_BYTES < (textEncode raw).length then
        manager.failAuthentication surroundings state
      else
        match decodeDataChannelAuthenticateFrame raw with
        | none => manager.failAuthentication surroundings state
        | some hello => manager.authenticateChannel surroundings peer channel state hello

/-- The handler of a rejected `authenticateChannel`. -/
def catchRejection (manager : BackendWebRtcManager options) (peer : PeerRef) (state : PeerState options) :
    BackendWebRtcManager options :=
  if manager.isCurrent peer state then manager.failAuthentication surroundings state else manager

def reject (manager : BackendWebRtcManager options) (ref : AuthorizationRef)
    (pending : PendingAuthentication options) (message : String) : BackendWebRtcManager options :=
  { manager with authentications := manager.authentications.set ref { pending with proof := .error message } }

/-- `authenticateChannel` goes on after `authorize` resolved. What it throws from then on is handled later. -/
def completeAuthentication (manager : BackendWebRtcManager options) (ref : AuthorizationRef)
    (pending : PendingAuthentication options) (state : PeerState options) (proof : DeviceProof options)
    (authorization : BackendAuthorizationResult) : BackendWebRtcManager options :=
  if ¬ manager.isCurrent pending.peer state then
    manager.reject ref pending "Connection closed during authorization"
  else if authorization.deviceId ≠ state.opened.claims.deviceId then
    manager.reject ref pending "Authorized device does not match the ticket"
  else
    let manager := (manager.setState pending.peer
      { state with authenticated := some authorization, authenticationTimer := none }).clearTimeout
        state.authenticationTimer
    if surroundings.channelThrows then manager.reject ref pending "DataChannel is closed"
    else { manager with
      exposed := manager.exposed ++ [⟨pending.peer, pending.channel, proof, authorization⟩] }

/-- A pending authentication goes on: `outcome` is what `authorize` came to, if it was called. -/
def continueAuthentication (manager : BackendWebRtcManager options) (ref : AuthorizationRef)
    (outcome : Except String BackendAuthorizationResult) : BackendWebRtcManager options :=
  match manager.authentications.get? ref with
  | none => manager
  | some pending =>
    let manager := { manager with authentications := manager.authentications.erase ref }
    match manager.states.get? pending.peer with
    | none => manager
    | some state =>
      match pending.proof with
      | .error _ => manager.catchRejection surroundings pending.peer state
      | .ok proof =>
        match outcome with
        | .error message => manager.reject ref pending message
        | .ok authorization =>
          manager.completeAuthentication surroundings ref pending state proof authorization

def applySignal (manager : BackendWebRtcManager options) (connectionId : JsString) (signal : IceSignal) :
    BackendWebRtcManager options :=
  match manager.peers.get? connectionId with
  | none => manager.send surroundings (.closeConnection connectionId (js "Unknown backend WebRTC connection"))
  | some peer =>
    match manager.states.get? peer with
    | none => manager
    | some state =>
      match signal.description? with
      | none => if surroundings.peerThrows then manager.failPeer surroundings connectionId else manager
      | some (.answer, _) => manager.failPeer surroundings connectionId
      | some (.offer, sdp) =>
        let manager := manager.setState peer { state with offerSdp := some sdp }
        if surroundings.peerThrows then manager.failPeer surroundings connectionId else manager

/-- The loop of `closeAuthorization` over the peers. -/
def closeAuthorized (manager : BackendWebRtcManager options) (picks : BackendAuthorizationResult → Bool) :
    List (JsString × PeerRef) → BackendWebRtcManager options
  | [] => manager
  | (connectionId, peer) :: rest =>
    match manager.states.get? peer with
    | none => manager.closeAuthorized picks rest
    | some state =>
      if state.authenticated.any picks then (manager.removePeer connectionId).closeAuthorized picks rest
      else manager.closeAuthorized picks rest

def closeAuthorization (manager : BackendWebRtcManager options) (accountId : JsString) (deviceId : Option JsString) :
    BackendWebRtcManager options :=
  manager.closeAuthorized (fun authorization => authorization.accountId = accountId &&
    (deviceId.all fun deviceId => deviceId = [] || authorization.deviceId = deviceId)) manager.peers.entries

def close (manager : BackendWebRtcManager options) : BackendWebRtcManager options :=
  manager.peers.keys.foldl removePeer manager

end BackendWebRtcManager

/-- What happens to the manager: what the signaling client passes on, the callbacks of peers, data channels and timers,
    pending authentications that go on, and the calls of the server. -/
inductive Event
  | connectionRequest (request : BackendConnectionRequest)
  | signal (connectionId : JsString) (signal : IceSignal)
  | connectionClosed (connectionId : JsString)
  | localDescription (peer : PeerRef) (sdp : JsString) (type : SdpType)
  | localCandidate (peer : PeerRef) (candidate mid : JsString)
  | stateChanged (peer : PeerRef) (connectionState : PeerConnectionState)
  | dataChannel (peer : PeerRef) (label protocol : JsString)
  | channelMessage (channel : ChannelRef) (raw : JsString)
  | timedOut (timer : TimerRef)
  | authenticationContinued (ref : AuthorizationRef) (outcome : Except String BackendAuthorizationResult)
  | authorizationClosed (accountId : JsString) (deviceId : Option JsString)
  | closed

structure Input where
  event : Event
  surroundings : Surroundings := {}

variable {options}

def handle (surroundings : Surroundings) (manager : BackendWebRtcManager options) : Event → BackendWebRtcManager options
  | .connectionRequest request => manager.createPeer surroundings request
  | .signal connectionId signal => manager.applySignal surroundings connectionId signal
  | .connectionClosed connectionId => manager.removePeer connectionId
  | .localDescription peer sdp type => manager.localDescription surroundings peer sdp type
  | .localCandidate peer candidate mid => manager.localCandidate surroundings peer candidate mid
  | .stateChanged peer connectionState => manager.stateChanged peer connectionState
  | .dataChannel peer label protocol => manager.handleDataChannel peer label protocol
  | .channelMessage channel raw => manager.channelMessage surroundings channel raw
  | .timedOut timer => manager.timedOut surroundings timer
  | .authenticationContinued ref outcome => manager.continueAuthentication surroundings ref outcome
  | .authorizationClosed accountId deviceId => manager.closeAuthorization accountId deviceId
  | .closed => manager.close

def step (manager : BackendWebRtcManager options) (input : Input) : BackendWebRtcManager options :=
  handle input.surroundings { manager with reported := [], sent := [] } input.event

end pipane.backend_webrtc

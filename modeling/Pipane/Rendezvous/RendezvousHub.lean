import Pipane.Rendezvous.IceServerProvider
import Pipane.Rendezvous.TrustStore
import Pipane.Server.BackendIdentity

open javascript json durable pipane.trust_protocol pipane.rendezvous_protocol pipane.backend_identity
open pipane.ice_server_provider
open pipane.trust_store (RendezvousTrustStore TrustStoreOptions RevocationResult)

namespace pipane.rendezvous_hub

def MAX_PAIRING_LIFETIME_MS : Int := 15 * 60000

abbrev Socket := Nat

/-- A route object; the hub compares routes by identity. -/
abbrev RouteRef := Nat

structure RegisteredBackend where
  backendId : JsString
  publicKey : JsString
  metadata : BackendRegistrationMetadata
  socket : Socket

structure BackendHandshake where
  nonce : JsString
  registered : Option RegisteredBackend := none

structure BrowserRoute where
  connectionId : JsString
  backendId : JsString
  browser : Socket
  ticket : JsString
  claims : ConnectionTicketClaims
  offerSdp : Option JsString := none
  answerSdp : Option JsString := none

structure ActivePairing where
  pairId : JsString
  backendId : JsString
  expiresAt : Int

inductive Sent
  | backend (socket : Socket) (message : BackendRendezvousMessage)
  | browser (socket : Socket) (message : BrowserRendezvousMessage)

structure RendezvousHubOptions where
  trust : TrustStoreOptions
  iceServerProvider : IceServerProvider

/-- `objects` holds the route objects that were ever made, `closing` the sockets that are no longer open, and `sent`
    what was sent since the last event. -/
structure RendezvousHub where
  trustStore : RendezvousTrustStore
  backendHandshakes : OrderedMap Socket BackendHandshake := ∅
  backends : OrderedMap JsString RegisteredBackend := ∅
  browserRoutes : OrderedMap Socket RouteRef := ∅
  routes : OrderedMap JsString RouteRef := ∅
  pairings : OrderedMap JsString ActivePairing := ∅
  objects : OrderedMap RouteRef BrowserRoute := ∅
  allocated : Nat := 0
  closing : List Socket := []
  nonces : Nat := 0
  sent : List Sent := []

/-- What the hub meets during one event: the circumstances of the trust store, and the readings of its own clock. -/
structure Surroundings where
  circumstances : Circumstances := { ticks := [], pruned := .written, saved := .written }
  now : Int := 0
  later : Int := 0

namespace RendezvousHub

def isOpen (hub : RendezvousHub) (socket : Socket) : Bool :=
  socket ∉ hub.closing

def close (hub : RendezvousHub) (socket : Socket) : RendezvousHub :=
  { hub with closing := socket :: hub.closing }

def send (hub : RendezvousHub) (socket : Socket) (message : Sent) : RendezvousHub :=
  if hub.isOpen socket then { hub with sent := hub.sent ++ [message] } else hub

def sendBackend (hub : RendezvousHub) (socket : Socket) (message : BackendRendezvousMessage) : RendezvousHub :=
  hub.send socket (.backend socket message)

def sendBrowser (hub : RendezvousHub) (socket : Socket) (message : BrowserRendezvousMessage) : RendezvousHub :=
  hub.send socket (.browser socket message)

def sendError (hub : RendezvousHub) (socket : Socket) (code : RendezvousErrorCode) (message : JsString)
    (connectionId : Option JsString) : RendezvousHub :=
  hub.sendBackend socket (.error code message connectionId)

def sendBrowserError (hub : RendezvousHub) (socket : Socket) (code : RendezvousErrorCode) (message : JsString)
    (connectionId : Option JsString) : RendezvousHub :=
  hub.sendBrowser socket (.error code message connectionId)

def isBackendOnline (hub : RendezvousHub) (backendId : JsString) : Bool :=
  (hub.backends.get? backendId).any fun backend => hub.isOpen backend.socket

/-- A pairing that has expired or whose backend is gone is dropped when it is looked up. -/
def getOpenPairing (hub : RendezvousHub) (pairId : JsString) (now : Int) : Option ActivePairing × RendezvousHub :=
  match hub.pairings.get? pairId with
  | none => (none, hub)
  | some pairing =>
    if pairing.expiresAt ≤ now ∨ ¬ hub.isBackendOnline pairing.backendId then
      (none, { hub with pairings := hub.pairings.erase pairId })
    else (some pairing, hub)

def dropRoute (hub : RendezvousHub) (ref : RouteRef) (route : BrowserRoute) : RendezvousHub :=
  let hub := if hub.routes.get? route.connectionId = some ref then
      { hub with routes := hub.routes.erase route.connectionId } else hub
  if hub.browserRoutes.get? route.browser = some ref then
    { hub with browserRoutes := hub.browserRoutes.erase route.browser } else hub

/-- The hub without a route. -/
def removeRoute (hub : RendezvousHub) (ref : RouteRef) : RendezvousHub :=
  match hub.objects.get? ref with
  | none => hub
  | some route => hub.dropRoute ref route

/-- The loops over `[...this.routes.values()]` that close the routes which a test picks. -/
def closeRoutes (hub : RendezvousHub) (refs : List RouteRef) (picks : BrowserRoute → Bool) (reason : JsString) :
    RendezvousHub :=
  match refs with
  | [] => hub
  | ref :: refs =>
    match hub.objects.get? ref with
    | none => hub.closeRoutes refs picks reason
    | some route =>
      if picks route then
        ((hub.removeRoute ref).sendBrowser route.browser (.connectionClosed route.connectionId reason)).closeRoutes refs
          picks reason
      else hub.closeRoutes refs picks reason

/-- Whether a revocation concerns a route. -/
def revokes (result : RevocationResult) (route : BrowserRoute) : Bool :=
  route.claims.accountId = some result.accountId &&
    (!truthy result.backendId || isStr route.backendId result.backendId) &&
    (!trust_store.present result.deviceId || result.deviceId = some route.claims.deviceId)

def affectedBackends (hub : RendezvousHub) (result : RevocationResult) : List RegisteredBackend :=
  if truthy result.backendId then
    match result.backendId with
    | some (.str backendId) => (hub.backends.get? backendId).toList
    | _ => []
  else
    hub.backends.values.filter fun backend =>
      trust_store.getBackendOwner hub.trustStore backend.backendId = some result.accountId

def sendBackends (hub : RendezvousHub) (backends : List RegisteredBackend) (message : BackendRendezvousMessage) :
    RendezvousHub :=
  backends.foldl (fun hub backend => hub.sendBackend backend.socket message) hub

def notifyRevocation (hub : RendezvousHub) (result : RevocationResult) : RendezvousHub :=
  let hub := hub.sendBackends (hub.affectedBackends result) (.authorizationRevoked result.accountId result.deviceId)
  hub.closeRoutes hub.routes.values (revokes result) (js "Authorization revoked")

def acceptBackend (hub : RendezvousHub) (socket : Socket) : RendezvousHub :=
  let nonce := decimal hub.nonces
  let hub := { hub with
    backendHandshakes := hub.backendHandshakes.set socket { nonce }
    nonces := hub.nonces + 1 }
  hub.sendBackend socket (.challenge nonce)

def onRegistrationTimeout (hub : RendezvousHub) (socket : Socket) : RendezvousHub :=
  match hub.backendHandshakes.get? socket with
  | some { registered := none, .. } =>
    (hub.sendError socket .unauthorizedConnection (js "Backend registration timed out") none).close socket
  | _ => hub

def removeRegisteredBackend (hub : RendezvousHub) (backend : RegisteredBackend) (reason : JsString) : RendezvousHub :=
  let hub := if (hub.backends.get? backend.backendId).any fun current => current.socket = backend.socket then
      { hub with backends := hub.backends.erase backend.backendId } else hub
  let hub := { hub with pairings := hub.pairings.filter fun pairing => pairing.backendId ≠ backend.backendId }
  hub.closeRoutes hub.routes.values (fun route => route.backendId = backend.backendId) reason

def removeBackendSocket (hub : RendezvousHub) (socket : Socket) : RendezvousHub :=
  match hub.backendHandshakes.get? socket with
  | none => hub
  | some handshake =>
    let hub := { hub with backendHandshakes := hub.backendHandshakes.erase socket }
    match handshake.registered with
    | none => hub
    | some backend =>
      if (hub.backends.get? backend.backendId).any fun current => current.socket = socket then
        hub.removeRegisteredBackend backend (js "Backend disconnected")
      else hub

/-- An older registration of the same backend gives way. -/
def replaceBackend (hub : RendezvousHub) (backendId : JsString) (socket : Socket) : RendezvousHub :=
  match hub.backends.get? backendId with
  | none => hub
  | some previous =>
    if previous.socket = socket then hub
    else (hub.removeRegisteredBackend previous (js "Backend reconnected")).close previous.socket

section

variable (options : RendezvousHubOptions) (surroundings : Surroundings)

def completeRegistration (hub : RendezvousHub) (handshake : BackendHandshake) (backend : RegisteredBackend) :
    RendezvousHub :=
  let hub := { hub with
    backendHandshakes := hub.backendHandshakes.set backend.socket { handshake with registered := some backend }
    backends := hub.backends.set backend.backendId backend }
  let hub := hub.sendBackend backend.socket (.registered backend.backendId options.trust.ticketPublicKey
    (issue options.iceServerProvider backend.backendId surroundings.now))
  match trust_store.getPendingBackendRevocation hub.trustStore backend.backendId with
  | none => hub
  | some pending => hub.sendBackend backend.socket (.authorizationRevoked pending.accountId none)

def registerBackend (hub : RendezvousHub) (socket : Socket) (handshake : BackendHandshake)
    (publicKey signature : JsString) (metadata : BackendRegistrationMetadata) : RendezvousHub :=
  if ¬ verifyBackendChallenge options.trust.crypto publicKey handshake.nonce signature then
    (hub.sendError socket .unauthorizedConnection (js "Invalid backend registration signature") none).close socket
  else
    match deriveBackendId options.trust.crypto publicKey with
    | .error _ => (hub.sendError socket .invalidMessage (js "Invalid backend public key") none).close socket
    | .ok backendId =>
      (hub.replaceBackend backendId socket).completeRegistration options surroundings handshake
        { backendId, publicKey, metadata, socket }

def openPairing (hub : RendezvousHub) (backend : RegisteredBackend) (pairId : JsString) (expiresAt : Int) :
    RendezvousHub :=
  if expiresAt ≤ surroundings.now ∨ surroundings.now + MAX_PAIRING_LIFETIME_MS < expiresAt then
    hub.sendError backend.socket .invalidPairing (js "Pairing expiry is outside the allowed window") none
  else
    let (existing, hub) := hub.getOpenPairing pairId surroundings.later
    if existing.any fun pairing => pairing.backendId ≠ backend.backendId then
      hub.sendError backend.socket .invalidPairing (js "Pairing id is already active") none
    else
      let pairing : ActivePairing := { pairId, backendId := backend.backendId, expiresAt }
      { hub with pairings := hub.pairings.set pairId pairing }.sendBackend backend.socket (.pairingOpened pairId expiresAt)

/-- The route of a connection, if it is one of the backend. -/
def routeForBackend (hub : RendezvousHub) (backend : RegisteredBackend) (connectionId : JsString) :
    Option (RouteRef × BrowserRoute) :=
  match hub.routes.get? connectionId with
  | none => none
  | some ref =>
    match hub.objects.get? ref with
    | none => none
    | some route => if route.backendId = backend.backendId then some (ref, route) else none

def refuseBackend (hub : RendezvousHub) (backend : RegisteredBackend) (connectionId : JsString) : RendezvousHub :=
  hub.sendError backend.socket .unauthorizedConnection (js "Connection does not belong to this backend")
    (some connectionId)

/-- The store's answer to the confirmation of an open pairing. -/
def completePairing (hub : RendezvousHub) (backend : RegisteredBackend) (ref : RouteRef) (route : BrowserRoute)
    (pairId : JsString) : RendezvousHub :=
  match trust_store.serve options.trust hub.trustStore
      { call := .confirmPairing route.claims, circumstances := surroundings.circumstances } with
  | .ok (.confirmation confirmation) store =>
    { hub with
      trustStore := store
      objects := hub.objects.set ref
        { route with claims := { route.claims with accountId := some confirmation.accountId } }
      pairings := hub.pairings.erase pairId }.sendBackend backend.socket
      (.pairingConfirmed route.connectionId pairId confirmation.accountId confirmation.deviceId)
  | .ok _ store => { hub with trustStore := store }
  | .error message store =>
    { hub with trustStore := store }.sendError backend.socket .invalidPairing (js message) (some route.connectionId)

def confirmPairing (hub : RendezvousHub) (backend : RegisteredBackend) (connectionId : JsString) : RendezvousHub :=
  match hub.routeForBackend backend connectionId with
  | none => hub.refuseBackend backend connectionId
  | some (ref, route) =>
    if route.claims.kind ≠ .pairing ∨ ¬ trust_store.present route.claims.pairId then
      hub.sendError backend.socket .invalidPairing (js "Connection is not a pairing attempt") (some connectionId)
    else
      let pairId := route.claims.pairId.getD []
      let (pairing, hub) := hub.getOpenPairing pairId surroundings.now
      if pairing.any fun pairing => pairing.backendId = backend.backendId then
        hub.completePairing options surroundings backend ref route pairId
      else
        hub.sendError backend.socket .invalidPairing (js "Pairing capability is missing or expired") (some connectionId)

def relayBackendSignal (hub : RendezvousHub) (backend : RegisteredBackend) (connectionId : JsString)
    (signal : IceSignal) : RendezvousHub :=
  match hub.routeForBackend backend connectionId with
  | none => hub.refuseBackend backend connectionId
  | some (ref, route) =>
    match signal.description? with
    | none => hub.sendBrowser route.browser (.signal connectionId signal)
    | some (.offer, _) =>
      hub.sendError backend.socket .invalidMessage (js "Backend must send an SDP answer") (some connectionId)
    | some (.answer, sdp) =>
      { hub with objects := hub.objects.set ref { route with answerSdp := some sdp } }.sendBrowser route.browser
        (.signal connectionId signal)

def closeFromBackend (hub : RendezvousHub) (backend : RegisteredBackend) (connectionId reason : JsString) :
    RendezvousHub :=
  match hub.routeForBackend backend connectionId with
  | none => hub.refuseBackend backend connectionId
  | some (ref, route) => (hub.removeRoute ref).sendBrowser route.browser (.connectionClosed connectionId reason)

def checkBinding (backend : RegisteredBackend) (route : BrowserRoute) (connectionId : JsString)
    (binding : BackendIdentityBinding) : Except String Unit := do
  let some offerSdp := route.offerSdp | throw "SDP exchange is incomplete"
  let some answerSdp := route.answerSdp | throw "SDP exchange is incomplete"
  if binding.backendId ≠ backend.backendId ∨ binding.publicKey ≠ backend.publicKey ∨
      binding.connectionId ≠ connectionId then
    throw "Backend binding identity does not match the route"
  if binding.offerSha256 ≠ sha256Base64Url options.trust.crypto offerSdp ∨
      binding.answerSha256 ≠ sha256Base64Url options.trust.crypto answerSdp then
    throw "Backend identity binding is invalid"
  let fingerprint ← extractDtlsFingerprint answerSdp
  if binding.dtlsFingerprint ≠ fingerprint ∨ (binding.expiresAt : Int) ≠ route.claims.expiresAt ∨
      ¬ verifyBackendIdentityBinding options.trust.crypto binding then
    throw "Backend identity binding is invalid"

def relayBackendBinding (hub : RendezvousHub) (backend : RegisteredBackend) (connectionId : JsString)
    (relayed : RelayedBinding) : RendezvousHub :=
  match hub.routeForBackend backend connectionId with
  | none => hub.refuseBackend backend connectionId
  | some (_, route) =>
    match checkBinding options backend route connectionId relayed.binding with
    | .ok _ => hub.sendBrowser route.browser (.connectionBinding connectionId relayed)
    | .error message =>
      (hub.sendError backend.socket .invalidMessage (js message) (some connectionId)).closeFromBackend backend
        connectionId (js "Backend identity binding failed")

def handleBackendCommand (hub : RendezvousHub) (backend : RegisteredBackend) :
    BackendRendezvousCommand → RendezvousHub
  | .registerBackend _ _ _ => hub.sendError backend.socket .invalidMessage (js "Backend is already registered") none
  | .openPairing pairId expiresAt => hub.openPairing surroundings backend pairId expiresAt
  | .confirmPairing connectionId => hub.confirmPairing options surroundings backend connectionId
  | .signal connectionId signal => hub.relayBackendSignal backend connectionId signal
  | .connectionBinding connectionId binding => hub.relayBackendBinding options backend connectionId binding
  | .closeConnection connectionId reason =>
    hub.closeFromBackend backend connectionId (reason.getD (js "Backend closed connection"))

def handleBackendMessage (hub : RendezvousHub) (socket : Socket) (raw : JsString) : RendezvousHub :=
  match decodeBackendCommand raw with
  | .error error => hub.sendError socket error.code error.message none
  | .ok command =>
    match hub.backendHandshakes.get? socket with
    | none => hub.sendError socket .unauthorizedConnection (js "Unknown backend connection") none
    | some handshake =>
      match handshake.registered with
      | some backend => hub.handleBackendCommand options surroundings backend command
      | none =>
        match command with
        | .registerBackend publicKey signature metadata =>
          hub.registerBackend options surroundings socket handshake publicKey signature metadata
        | _ =>
          hub.sendError socket .unauthorizedConnection (js "Backend must register before other commands") none

/-- The checks of a consumed ticket, with the hub after them. -/
def admitTicket (hub : RendezvousHub) (backendId : JsString) (claims : ConnectionTicketClaims) :
    Except String Unit × RendezvousHub :=
  if claims.backendId ≠ backendId then (.error "Ticket targets another backend", hub)
  else
    match claims.kind with
    | .pairing =>
      let (pairing, hub) := if trust_store.present claims.pairId then
          hub.getOpenPairing (claims.pairId.getD []) surroundings.now
        else (none, hub)
      if pairing.any fun pairing => pairing.backendId = backendId then (.ok (), hub)
      else (.error "Pairing capability is missing or expired", hub)
    | .connection =>
      if trust_store.present claims.accountId ∧ trust_store.getBackendOwner hub.trustStore backendId = claims.accountId ∧
          trust_store.isDeviceActive hub.trustStore claims.deviceId then (.ok (), hub)
      else (.error "Ticket authorization was revoked", hub)

/-- A browser that had a route to another backend, or to the same one, leaves it. -/
def leaveRoute (hub : RendezvousHub) (socket : Socket) : RendezvousHub :=
  match hub.browserRoutes.get? socket with
  | none => hub
  | some ref =>
    match hub.objects.get? ref with
    | none => hub
    | some previous =>
      let hub := hub.removeRoute ref
      match hub.backends.get? previous.backendId with
      | none => hub
      | some previousBackend =>
        hub.sendBackend previousBackend.socket
          (.connectionClosed previous.connectionId (js "Browser opened another connection"))

def addRoute (hub : RendezvousHub) (route : BrowserRoute) : RendezvousHub :=
  { hub with
    objects := hub.objects.set hub.allocated route
    allocated := hub.allocated + 1
    routes := hub.routes.set route.connectionId hub.allocated
    browserRoutes := hub.browserRoutes.set route.browser hub.allocated }

/-- The route of an admitted ticket. -/
def establishRoute (hub : RendezvousHub) (socket : Socket) (backend : RegisteredBackend) (backendId ticket : JsString)
    (claims : ConnectionTicketClaims) (browserIceServers : List Value) : RendezvousHub :=
  if (hub.routes.get? claims.connectionId).isSome then
    hub.sendBrowserError socket .invalidTicket (js "Connection id is already active") none
  else
    let hub := (hub.leaveRoute socket).addRoute
      { connectionId := claims.connectionId, backendId, browser := socket, ticket, claims }
    let hub := hub.sendBackend backend.socket (.connectionRequest claims.connectionId ticket
      (issue options.iceServerProvider backendId surroundings.later ++ browserIceServers))
    hub.sendBrowser socket (.backendConnected backendId claims.connectionId)

def connectBrowser (hub : RendezvousHub) (socket : Socket) (backendId ticket : JsString)
    (browserIceServers : List Value) : RendezvousHub :=
  match hub.backends.get? backendId with
  | none => hub.sendBrowserError socket .backendOffline (js "Backend is offline") none
  | some backend =>
    if ¬ hub.isOpen backend.socket then hub.sendBrowserError socket .backendOffline (js "Backend is offline") none
    else
      match trust_store.serve options.trust hub.trustStore
          { call := .consumeRouteTicket ticket, circumstances := surroundings.circumstances } with
      | .error message store =>
        { hub with trustStore := store }.sendBrowserError socket .invalidTicket (js message) none
      | .ok (.claims claims) store =>
        match { hub with trustStore := store }.admitTicket surroundings backendId claims with
        | (.error message, hub) => hub.sendBrowserError socket .invalidTicket (js message) none
        | (.ok _, hub) => hub.establishRoute options surroundings socket backend backendId ticket claims browserIceServers
      | .ok _ store => { hub with trustStore := store }

/-- The signal or the close of a browser that has the route. -/
def handleRouteCommand (hub : RendezvousHub) (socket : Socket) (ref : RouteRef) (route : BrowserRoute)
    (backend : RegisteredBackend) (connectionId : JsString) : IceSignal ⊕ Option JsString → RendezvousHub
  | .inl signal =>
    match signal.description? with
    | none => hub.sendBackend backend.socket (.signal connectionId signal)
    | some (.answer, _) =>
      hub.sendBrowserError socket .invalidMessage (js "Browser must send an SDP offer") (some connectionId)
    | some (.offer, sdp) =>
      { hub with objects := hub.objects.set ref { route with offerSdp := some sdp } }.sendBackend backend.socket
        (.signal connectionId signal)
  | .inr reason =>
    (hub.removeRoute ref).sendBackend backend.socket
      (.connectionClosed connectionId (reason.getD (js "Browser closed connection")))

/-- A command about a connection, which has to be the one of the browser. -/
def handleConnectionCommand (hub : RendezvousHub) (socket : Socket) (connectionId : JsString)
    (command : IceSignal ⊕ Option JsString) : RendezvousHub :=
  let refused := hub.sendBrowserError socket .unauthorizedConnection
    (js "Connection does not belong to this browser") (some connectionId)
  match hub.browserRoutes.get? socket with
  | none => refused
  | some ref =>
    match hub.objects.get? ref with
    | none => refused
    | some route =>
      if route.connectionId ≠ connectionId then refused
      else
        match hub.backends.get? route.backendId with
        | none =>
          (hub.removeRoute ref).sendBrowserError socket .backendOffline (js "Backend is offline") (some connectionId)
        | some backend =>
          if ¬ hub.isOpen backend.socket then
            (hub.removeRoute ref).sendBrowserError socket .backendOffline (js "Backend is offline") (some connectionId)
          else hub.handleRouteCommand socket ref route backend connectionId command

def handleBrowserMessage (hub : RendezvousHub) (socket : Socket) (raw : JsString) : RendezvousHub :=
  match decodeBrowserCommand raw with
  | .error error => hub.sendBrowserError socket error.code error.message none
  | .ok (.connectBackend backendId ticket iceServers) =>
    hub.connectBrowser options surroundings socket backendId ticket
      ((iceServers.map fun iceServers => iceServers.servers).getD [])
  | .ok (.signal connectionId signal) => hub.handleConnectionCommand socket connectionId (.inl signal)
  | .ok (.closeConnection connectionId reason) => hub.handleConnectionCommand socket connectionId (.inr reason)

end

def removeBrowser (hub : RendezvousHub) (socket : Socket) : RendezvousHub :=
  match hub.browserRoutes.get? socket with
  | none => hub
  | some ref =>
    match hub.objects.get? ref with
    | none => hub
    | some route =>
      let hub := hub.removeRoute ref
      match hub.backends.get? route.backendId with
      | none => hub
      | some backend =>
        hub.sendBackend backend.socket (.connectionClosed route.connectionId (js "Browser disconnected"))

/-- `close`: the sockets of the backends and of the browsers with a route are closed, and everything is forgotten. -/
def shutDown (hub : RendezvousHub) : RendezvousHub :=
  { hub with
    closing := hub.backends.values.map (fun backend => backend.socket) ++ hub.browserRoutes.keys ++ hub.closing
    backendHandshakes := ∅
    backends := ∅
    browserRoutes := ∅
    routes := ∅
    pairings := ∅ }

/-- A call of the HTTP interface. A revocation is passed on. -/
def callStore (options : RendezvousHubOptions) (surroundings : Surroundings) (hub : RendezvousHub)
    (call : trust_store.Call) : RendezvousHub :=
  match trust_store.serve options.trust hub.trustStore { call, circumstances := surroundings.circumstances } with
  | .ok (.revocation result) store => { hub with trustStore := store }.notifyRevocation result
  | .ok _ store => { hub with trustStore := store }
  | .error _ store => { hub with trustStore := store }

end RendezvousHub

/-- What happens to the hub. A socket may stop being open before its close is reported, and messages that were on their
    way are still handled then. -/
inductive Event
  | backendAccepted (socket : Socket)
  | registrationTimedOut (socket : Socket)
  | backendMessage (socket : Socket) (raw : JsString)
  | backendClosed (socket : Socket)
  | browserMessage (socket : Socket) (raw : JsString)
  | browserClosed (socket : Socket)
  | closing (socket : Socket)
  | pairingLookedUp (pairId : JsString)
  | called (call : trust_store.Call)
  | shutDown

structure Input where
  event : Event
  surroundings : Surroundings := {}

def handle (options : RendezvousHubOptions) (surroundings : Surroundings) (hub : RendezvousHub) :
    Event → RendezvousHub
  | .backendAccepted socket => hub.acceptBackend socket
  | .registrationTimedOut socket => hub.onRegistrationTimeout socket
  | .backendMessage socket raw => hub.handleBackendMessage options surroundings socket raw
  | .backendClosed socket => hub.removeBackendSocket socket
  | .browserMessage socket raw => hub.handleBrowserMessage options surroundings socket raw
  | .browserClosed socket => hub.removeBrowser socket
  | .closing socket => hub.close socket
  | .pairingLookedUp pairId => (hub.getOpenPairing pairId surroundings.now).2
  | .called call => hub.callStore options surroundings call
  | .shutDown => hub.shutDown

def step (options : RendezvousHubOptions) (hub : RendezvousHub) (input : Input) : RendezvousHub :=
  handle options input.surroundings { hub with sent := [] } input.event

end pipane.rendezvous_hub

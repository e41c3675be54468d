import Mathlib.Logic.Function.Basic
import Pipane.Client.WebRtcFrameTransport.Lifecycle
import Pipane.Lib.OrderedMap
import Pipane.Shared.BackendProtocol

open javascript pipane.backend_protocol pipane.frame_transport pipane.webrtc_frame_transport

namespace pipane.workspace_backend_client

structure AuthorizedBackendDescriptor where
  backendId : JsString
  online : Bool
  protocolVersions : List Nat
deriving DecidableEq

def isCompatible (descriptor : AuthorizedBackendDescriptor) : Bool :=
  BACKEND_PROTOCOL_VERSION ∈ descriptor.protocolVersions

/-- What the workspace uses of a `WsAgentAdapter`. -/
structure BackendClient where
  options : TransportOptions
  transport : WebRtcFrameTransport
  sessionSubscriptionActive : Bool
  sessionNonce : Nat
  sessionPath : Option JsString
  /-- The session that the backend was last asked for over the channel that is open. -/
  subscription : Option JsString

namespace BackendClient

def created (options : TransportOptions) : BackendClient where
  options := options
  transport := .fresh
  sessionSubscriptionActive := true
  sessionNonce := 0
  sessionPath := none
  subscription := none

def isConnected (self : BackendClient) : Bool :=
  self.transport.isConnected

def isReconnecting (self : BackendClient) : Bool :=
  self.transport.reconnectTimer

/-- `send` rejects without a channel, and a rejection is only logged. -/
def subscribeToSession (self : BackendClient) (sessionPath : Option JsString) : BackendClient :=
  { self with subscription := if self.isConnected then sessionPath else none }

/-- `requestFullSessionSync(this._sessionPath)` of a client whose subscription is active. -/
def resubscribe (self : BackendClient) : BackendClient :=
  if self.sessionSubscriptionActive ∧ self.sessionPath ≠ none then self.subscribeToSession self.sessionPath
  else self

def handleTransportConnectionChange (self : BackendClient) (event : FrameTransportConnectionEvent) : BackendClient :=
  if ¬ event.connected then { self with subscription := none }
  else if event.reconnected then self.resubscribe
  else self

/-- The transport takes a step, and its events reach the client. -/
def onTransport (self : BackendClient) (event : TransportEvent) : BackendClient :=
  let transport := self.transport.step self.options event
  (transport.emitted.drop self.transport.emitted.length).foldl handleTransportConnectionChange { self with transport }

def connect (self : BackendClient) : BackendClient :=
  self.onTransport .connect

def disconnect (self : BackendClient) : BackendClient :=
  self.onTransport .close

def setSessionSubscriptionActive (self : BackendClient) (active : Bool) : BackendClient :=
  if active = self.sessionSubscriptionActive then self
  else
    let self := { self with sessionSubscriptionActive := active, sessionNonce := self.sessionNonce + 1 }
    if active then self.resubscribe else self.subscribeToSession none

/-- `switchSession`, up to the wait for the cache. -/
def switchSession (self : BackendClient) (sessionPath : JsString) : BackendClient :=
  { self with
    sessionSubscriptionActive := true
    sessionNonce := self.sessionNonce + 1
    sessionPath := some sessionPath }

/-- The rest of `switchSession`. -/
def requestFullSessionSync (self : BackendClient) (nonce : Nat) : BackendClient :=
  if nonce ≠ self.sessionNonce then self else self.subscribeToSession self.sessionPath

def newSession (self : BackendClient) : BackendClient :=
  { self with
    sessionSubscriptionActive := true
    sessionNonce := self.sessionNonce + 1
    sessionPath := none }.subscribeToSession none

/-- A frame of the backend makes the client ask for a session: a sync of its session that cannot be applied, or a
    `session_attached` for it or for the session of its first prompt. -/
def recover (self : BackendClient) (sessionPath : JsString) : BackendClient :=
  { self with sessionPath := some sessionPath }.subscribeToSession (some sessionPath)

/-- `restoreCachedSessionPreview`, up to the wait for the cache. -/
def restoreCachedSessionPreview (self : BackendClient) (sessionPath : JsString) : BackendClient :=
  { self with sessionNonce := self.sessionNonce + 1, sessionPath := some sessionPath }

/-- The backend answers a request for the session that it does not exist. -/
def sessionMissing (self : BackendClient) (nonce : Nat) : BackendClient :=
  if nonce ≠ self.sessionNonce ∨ self.sessionPath = none then self else self.newSession

variable {self : BackendClient}

@[simp] theorem transport_resubscribe : self.resubscribe.transport = self.transport := by
  unfold resubscribe
  split <;> rfl

@[simp] theorem transport_handleTransportConnectionChange (event : FrameTransportConnectionEvent) :
    (self.handleTransportConnectionChange event).transport = self.transport := by
  unfold handleTransportConnectionChange
  split
  · rfl
  · split
    · exact transport_resubscribe
    · rfl

theorem transport_handleAll (self : BackendClient) (emitted : List FrameTransportConnectionEvent) :
    (emitted.foldl handleTransportConnectionChange self).transport = self.transport := by
  induction emitted generalizing self with
  | nil => rfl
  | cons first rest ih => rw [List.foldl_cons, ih, transport_handleTransportConnectionChange]

theorem transport_onTransport (self : BackendClient) (event : TransportEvent) :
    (self.onTransport event).transport = self.transport.step self.options event :=
  transport_handleAll _ _

@[simp] theorem transport_setSessionSubscriptionActive (active : Bool) :
    (self.setSessionSubscriptionActive active).transport = self.transport := by
  unfold setSessionSubscriptionActive
  split
  · rfl
  · dsimp only
    split
    · exact transport_resubscribe
    · rfl

@[simp] theorem transport_requestFullSessionSync (nonce : Nat) :
    (self.requestFullSessionSync nonce).transport = self.transport := by
  unfold requestFullSessionSync
  split <;> rfl

@[simp] theorem transport_sessionMissing (nonce : Nat) :
    (self.sessionMissing nonce).transport = self.transport := by
  unfold sessionMissing
  split <;> rfl

end BackendClient

/-- `RemoteBackendManager`. -/
structure RemoteBackendManager where
  deviceId : JsString
  descriptors : List AuthorizedBackendDescriptor
  clients : OrderedMap JsString Nat

/-- `connecting` and `initializing` name the operations that are under way. -/
structure BackendContext where
  descriptor : AuthorizedBackendDescriptor
  client : Option Nat
  connecting : Option Nat
  initialized : Bool
  initializing : Option Nat

def BackendContext.created (descriptor : AuthorizedBackendDescriptor) : BackendContext where
  descriptor := descriptor
  client := none
  connecting := none
  initialized := false
  initializing := none

/-- How far an operation is that `connectContext` started. -/
inductive ConnectionPhase
  | connecting
  | listing
  | connected
  | failed
deriving DecidableEq

structure Connection where
  context : Nat
  phase : ConnectionPhase
deriving DecidableEq

/-- An operation that `ensureConversationInitialized` started, and how it ended. -/
structure Initialization where
  context : Nat
  settled : Option Bool
deriving DecidableEq

inductive CallKind
  | switchSession (sessionPath : JsString)
  | newSession
  | activateBackend
deriving DecidableEq

/-- What a call waits for: the connection, the deactivation of the backend that was active, the restored subscription,
    the end of `activateContext`, the initialization, the cache, the subscription. -/
inductive CallPhase
  | connecting (connection : Nat)
  | deactivating
  | restoring
  | activated
  | initializing (initialization : Nat)
  | initialized
  | opening (nonce : Nat)
  | subscribing
  | succeeded
  | failed
deriving DecidableEq

/-- A call of `switchSession`, `newSession` or `activateBackend`. -/
structure Call where
  kind : CallKind
  backendId : JsString
  context : Nat
  phase : CallPhase
deriving DecidableEq

/-- An attempt of `connect` or of a discovery to connect a context. -/
structure Attempt where
  context : Nat
  connection : Nat
deriving DecidableEq

/-- A call of `connect`; `settled` once an attempt succeeded. -/
structure ConnectCall where
  attempts : List Attempt
  settled : Bool
deriving DecidableEq

inductive RemovalPhase
  | revoking
  | revoked
  | done
deriving DecidableEq

/-- A call of `removeBackend`, with the context that it found. -/
structure Removal where
  backendId : JsString
  context : Nat
  phase : RemovalPhase
deriving DecidableEq

inductive DiscoveryPhase
  | listing
  | listed (descriptors : List AuthorizedBackendDescriptor)
  | joining (attempts : List Attempt)
  | done
deriving DecidableEq

structure WorkspaceBackendClient where
  contexts : OrderedMap JsString Nat
  objects : Nat → BackendContext
  objectCount : Nat
  clients : Nat → BackendClient
  clientCount : Nat
  manager : RemoteBackendManager
  activeId : JsString
  connectedOnce : Bool
  connections : List Connection
  initializations : List Initialization
  calls : List Call
  connects : List ConnectCall
  removals : List Removal
  discoveries : List DiscoveryPhase

namespace WorkspaceBackendClient

def updateClient (self : WorkspaceBackendClient) (client : Nat) (f : BackendClient → BackendClient) :
    WorkspaceBackendClient :=
  { self with clients := Function.update self.clients client (f (self.clients client)) }

/-- The same for a client that may be missing. -/
def updateClient? (self : WorkspaceBackendClient) (client : Option Nat) (f : BackendClient → BackendClient) :
    WorkspaceBackendClient :=
  match client with
  | none => self
  | some client => self.updateClient client f

def updateContext (self : WorkspaceBackendClient) (context : Nat) (f : BackendContext → BackendContext) :
    WorkspaceBackendClient :=
  { self with objects := Function.update self.objects context (f (self.objects context)) }

def contextClient (self : WorkspaceBackendClient) (context : Nat) : Option Nat :=
  (self.objects context).client

section

variable {self : WorkspaceBackendClient}

@[simp] theorem clients_updateClient_self (client : Nat) (f : BackendClient → BackendClient) :
    (self.updateClient client f).clients client = f (self.clients client) :=
  Function.update_self client _ self.clients

theorem clients_updateClient_of_ne {client other : Nat} (h : other ≠ client) (f : BackendClient → BackendClient) :
    (self.updateClient client f).clients other = self.clients other :=
  Function.update_of_ne h _ self.clients

@[simp] theorem objects_updateClient? (client : Option Nat) (f : BackendClient → BackendClient) :
    (self.updateClient? client f).objects = self.objects := by
  cases client <;> rfl

@[simp] theorem contexts_updateClient? (client : Option Nat) (f : BackendClient → BackendClient) :
    (self.updateClient? client f).contexts = self.contexts := by
  cases client <;> rfl

@[simp] theorem activeId_updateClient? (client : Option Nat) (f : BackendClient → BackendClient) :
    (self.updateClient? client f).activeId = self.activeId := by
  cases client <;> rfl

theorem objects_updateContext_self (context : Nat) (f : BackendContext → BackendContext) :
    (self.updateContext context f).objects context = f (self.objects context) :=
  Function.update_self context _ self.objects

theorem objects_updateContext_of_ne {context other : Nat} (h : other ≠ context)
    (f : BackendContext → BackendContext) :
    (self.updateContext context f).objects other = self.objects other :=
  Function.update_of_ne h _ self.objects

theorem contextClient_updateContext {context : Nat} {f : BackendContext → BackendContext}
    (hf : (f (self.objects context)).client = (self.objects context).client) (other : Nat) :
    (self.updateContext context f).contextClient other = self.contextClient other := by
  unfold contextClient
  by_cases hsame : other = context
  · subst hsame
    rw [objects_updateContext_self, hf]
  · rw [objects_updateContext_of_ne hsame]

theorem descriptor_updateContext {context : Nat} {f : BackendContext → BackendContext}
    (hf : (f (self.objects context)).descriptor = (self.objects context).descriptor) (other : Nat) :
    ((self.updateContext context f).objects other).descriptor = (self.objects other).descriptor := by
  by_cases hsame : other = context
  · subst hsame
    rw [objects_updateContext_self, hf]
  · rw [objects_updateContext_of_ne hsame]

end

/-- The client of the active backend. -/
def activeClient (self : WorkspaceBackendClient) : Option Nat :=
  (self.contexts.get? self.activeId).bind self.contextClient

def isClientConnected (self : WorkspaceBackendClient) (client : Option Nat) : Bool :=
  client.any fun client => (self.clients client).isConnected

/-- `manager.getClient(backendId)`; `none` when it throws. -/
def getClient (self : WorkspaceBackendClient) (backendId : JsString) : Option (Nat × WorkspaceBackendClient) :=
  match self.manager.clients.get? backendId with
  | some client => some (client, self)
  | none =>
    match self.manager.descriptors.find? fun descriptor => descriptor.backendId = backendId with
    | none => none
    | some descriptor =>
      if descriptor.online ∧ ¬ isCompatible descriptor then none
      else
        some (self.clientCount, { self with
          clients := Function.update self.clients self.clientCount
            (.created { backendId, deviceId := self.manager.deviceId })
          clientCount := self.clientCount + 1
          manager := { self.manager with clients := self.manager.clients.set backendId self.clientCount } })

def ensureClient (self : WorkspaceBackendClient) (context : Nat) : Option (Nat × WorkspaceBackendClient) :=
  if ¬ isCompatible (self.objects context).descriptor then none
  else
    match self.contextClient context with
    | some client => some (client, self)
    | none =>
      (self.getClient (self.objects context).descriptor.backendId).map fun created =>
        (created.1, created.2.updateContext context fun object => { object with client := some created.1 })

/-- The operation that connects a context. -/
def connectContext (self : WorkspaceBackendClient) (context : Nat) : Option (Nat × WorkspaceBackendClient) :=
  match (self.objects context).connecting with
  | some connection => some (connection, self)
  | none =>
    (self.ensureClient context).map fun ensured =>
      (ensured.2.connections.length,
        { (ensured.2.updateContext context fun object =>
            { object with connecting := some ensured.2.connections.length }).updateClient ensured.1 .connect with
          connections := ensured.2.connections ++ [{ context, phase := .connecting }] })

/-- The attempts of `connect` and of a discovery. -/
def connectAll (self : WorkspaceBackendClient) : List Nat → List Attempt × WorkspaceBackendClient
  | [] => ([], self)
  | context :: rest =>
    match self.connectContext context with
    | none => self.connectAll rest
    | some (connection, next) =>
      ({ context, connection } :: (next.connectAll rest).1, (next.connectAll rest).2)

def setActiveBackend (self : WorkspaceBackendClient) (backendId : JsString) : WorkspaceBackendClient :=
  { self with activeId := backendId }

/-- `chooseInitialBackend(requested)`; `none` when it throws. -/
def chooseInitialBackend (self : WorkspaceBackendClient) (requested : Option JsString) : Option JsString :=
  let compatible := (self.contexts.values.map fun context => (self.objects context).descriptor).filter isCompatible
  if requested.any fun backendId => compatible.any (·.backendId = backendId) then requested
  else ((compatible.find? (·.online)).or compatible.head?).map (·.backendId)

/-- A new context for a descriptor. -/
def addContext (self : WorkspaceBackendClient) (descriptor : AuthorizedBackendDescriptor) : WorkspaceBackendClient :=
  { self with
    contexts := self.contexts.set descriptor.backendId self.objectCount
    objects := Function.update self.objects self.objectCount (.created descriptor)
    objectCount := self.objectCount + 1 }

def empty (manager : RemoteBackendManager) : WorkspaceBackendClient where
  contexts := ∅
  objects _ := .created { backendId := [], online := false, protocolVersions := [] }
  objectCount := 0
  clients _ := .created { backendId := [], deviceId := [] }
  clientCount := 0
  manager := manager
  activeId := []
  connectedOnce := false
  connections := []
  initializations := []
  calls := []
  connects := []
  removals := []
  discoveries := []

/-- The constructor, with a manager that has no clients yet; `none` when it throws. -/
def create (descriptors managed : List AuthorizedBackendDescriptor) (deviceId : JsString)
    (initialBackendId : Option JsString) : Option WorkspaceBackendClient :=
  let self := descriptors.foldl addContext (empty { deviceId, descriptors := managed, clients := ∅ })
  match self.chooseInitialBackend initialBackendId with
  | none => none
  | some backendId =>
    match self.contexts.get? backendId with
    | none => none
    | some context => ((self.setActiveBackend backendId).ensureClient context).map Prod.snd

/-! The calls of the user interface -/

def connect (self : WorkspaceBackendClient) : WorkspaceBackendClient :=
  let candidates := self.contexts.values.filter fun context =>
    (self.objects context).descriptor.online && isCompatible (self.objects context).descriptor
  let (attempts, next) := self.connectAll candidates
  { next with connects := next.connects ++ [{ attempts, settled := false }] }

def addCall (self : WorkspaceBackendClient) (call : Call) : WorkspaceBackendClient :=
  { self with calls := self.calls ++ [call] }

def setPhase (self : WorkspaceBackendClient) (n : Nat) (call : Call) (phase : CallPhase) : WorkspaceBackendClient :=
  { self with calls := self.calls.set n { call with phase } }

/-- `activateContext` with a client that is connected. -/
def deactivateOther (self : WorkspaceBackendClient) (backendId : JsString) : CallPhase × WorkspaceBackendClient :=
  if self.activeId ≠ backendId then
    (.deactivating, self.updateClient? self.activeClient (·.setSessionSubscriptionActive false))
  else (.activated, self)

/-- A call of `switchSession`, `newSession` or `activateBackend`, up to its first wait. -/
def activate (self : WorkspaceBackendClient) (kind : CallKind) (backendId : JsString) : WorkspaceBackendClient :=
  let failed := self.addCall { kind, backendId, context := 0, phase := .failed }
  match self.contexts.get? backendId with
  | none => failed
  | some context =>
    match self.ensureClient context with
    | none => failed
    | some (client, ensured) =>
      if (ensured.clients client).isConnected then
        let (phase, next) := ensured.deactivateOther backendId
        next.addCall { kind, backendId, context, phase }
      else
        match ensured.connectContext context with
        | none => ensured.addCall { kind, backendId, context, phase := .failed }
        | some (connection, next) => next.addCall { kind, backendId, context, phase := .connecting connection }

def restoreCachedSessionPreview (self : WorkspaceBackendClient) (backendId sessionPath : JsString) :
    WorkspaceBackendClient :=
  match (self.contexts.get? backendId).bind self.ensureClient with
  | none => self
  | some (client, ensured) =>
    (ensured.setActiveBackend backendId).updateClient client (·.restoreCachedSessionPreview sessionPath)

/-- The calls that need a connected client of a backend, such as `deleteSession`. -/
def useBackend (self : WorkspaceBackendClient) (backendId : JsString) : WorkspaceBackendClient :=
  match self.contexts.get? backendId with
  | none => self
  | some context =>
    match self.ensureClient context with
    | none => self
    | some (client, ensured) =>
      if (ensured.clients client).isConnected then ensured
      else ((ensured.connectContext context).map Prod.snd).getD ensured

def removeBackend (self : WorkspaceBackendClient) (backendId : JsString) : WorkspaceBackendClient :=
  match self.contexts.get? backendId with
  | none => self
  | some context => { self with removals := self.removals ++ [{ backendId, context, phase := .revoking }] }

/-- The timer of the discovery fires. -/
def discover (self : WorkspaceBackendClient) : WorkspaceBackendClient :=
  { self with discoveries := self.discoveries ++ [.listing] }

def disconnect (self : WorkspaceBackendClient) : WorkspaceBackendClient :=
  self.contexts.values.foldl (fun self context => self.updateClient? (self.contextClient context) .disconnect) self

/-! What the calls wait for -/

/-- `client.connect` of a connection settles. -/
def onClientConnected (self : WorkspaceBackendClient) (n : Nat) (ok : Bool) : WorkspaceBackendClient :=
  match self.connections[n]? with
  | some connection =>
    if connection.phase ≠ .connecting then self
    else if ok then { self with connections := self.connections.set n { connection with phase := .listing } }
    else
      { (self.updateContext connection.context fun object => { object with connecting := none }) with
        connections := self.connections.set n { connection with phase := .failed } }
  | none => self

/-- `refreshContextSessions` of a connection ends, well or not. -/
def onSessionsListed (self : WorkspaceBackendClient) (n : Nat) : WorkspaceBackendClient :=
  match self.connections[n]? with
  | some connection =>
    if connection.phase ≠ .listing then self
    else
      { (self.updateContext connection.context fun object => { object with connecting := none }) with
        connections := self.connections.set n { connection with phase := .connected } }
  | none => self

def connectionPhase (self : WorkspaceBackendClient) (n : Nat) : Option ConnectionPhase :=
  self.connections[n]?.map (·.phase)

/-- An attempt has connected its context: it becomes the active one where the active client is not connected. -/
def publishAttempt (self : WorkspaceBackendClient) (attempt : Attempt) : WorkspaceBackendClient :=
  let self := { self with connectedOnce := true }
  if self.isClientConnected self.activeClient then self
  else self.setActiveBackend (self.objects attempt.context).descriptor.backendId

/-- `Promise.any` of a call of `connect` yields an attempt. -/
def onFirstConnected (self : WorkspaceBackendClient) (n : Nat) (attempt : Attempt) : WorkspaceBackendClient :=
  match self.connects[n]? with
  | some call =>
    if call.settled ∨ attempt ∉ call.attempts then self
    else if self.connectionPhase attempt.connection ≠ some .connected then self
    else { self.publishAttempt attempt with connects := self.connects.set n { call with settled := true } }
  | none => self

/-- `manager.refreshAuthorizedBackends` settles. -/
def onListed (self : WorkspaceBackendClient) (n : Nat) (result : Option (List AuthorizedBackendDescriptor)) :
    WorkspaceBackendClient :=
  match self.discoveries[n]?, result with
  | some .listing, none => { self with discoveries := self.discoveries.set n .done }
  | some .listing, some descriptors =>
    { self with
      manager := { self.manager with descriptors }
      discoveries := self.discoveries.set n (.listed descriptors) }
  | _, _ => self

/-- A context whose backend is no longer listed. -/
def dropContext (self : WorkspaceBackendClient) (entry : JsString × Nat) : WorkspaceBackendClient :=
  { self.updateClient? (self.contextClient entry.2) .disconnect with contexts := self.contexts.erase entry.1 }

/-- A descriptor that is listed. -/
def mergeDescriptor (self : WorkspaceBackendClient) (descriptor : AuthorizedBackendDescriptor) :
    WorkspaceBackendClient :=
  match self.contexts.get? descriptor.backendId with
  | some context => self.updateContext context fun object => { object with descriptor }
  | none => self.addContext descriptor

/-- The contexts after a discovery. -/
def mergeDescriptors (self : WorkspaceBackendClient) (descriptors : List AuthorizedBackendDescriptor) :
    WorkspaceBackendClient :=
  let gone := self.contexts.entries.filter fun entry => ¬ descriptors.any (·.backendId = entry.1)
  descriptors.foldl mergeDescriptor (gone.foldl dropContext self)

/-- The active backend of a discovery; `none` when `chooseInitialBackend` throws. -/
def keepActive (self : WorkspaceBackendClient) : Option WorkspaceBackendClient :=
  if self.contexts.contains self.activeId then some self
  else (self.chooseInitialBackend none).map self.setActiveBackend

/-- The contexts that a discovery connects. -/
def candidates (self : WorkspaceBackendClient) : List Nat :=
  self.contexts.values.filter fun context =>
    (self.objects context).descriptor.online && isCompatible (self.objects context).descriptor &&
      !(self.isClientConnected (self.contextClient context)) &&
      !((self.contextClient context).any fun client => (self.clients client).isReconnecting)

/-- The rest of `refreshAuthorizedBackends`, up to the wait for its attempts. -/
def onDiscovered (self : WorkspaceBackendClient) (n : Nat) : WorkspaceBackendClient :=
  match self.discoveries[n]? with
  | some (.listed descriptors) =>
    let merged := self.mergeDescriptors descriptors
    let finished := { merged with discoveries := merged.discoveries.set n .done }
    if merged.contexts.size = 0 then finished
    else
      match merged.keepActive with
      | none => finished
      | some active =>
        let (attempts, next) := active.connectAll active.candidates
        { next with discoveries := next.discoveries.set n (.joining attempts) }
  | _ => self

def onCandidateConnected (self : WorkspaceBackendClient) (n : Nat) (attempt : Attempt) : WorkspaceBackendClient :=
  match self.discoveries[n]? with
  | some (.joining attempts) =>
    if attempt ∉ attempts ∨ self.connectionPhase attempt.connection ≠ some .connected then self
    else
      { self.publishAttempt attempt with
        discoveries := self.discoveries.set n (.joining (attempts.filter (· ≠ attempt))) }
  | _ => self

/-- `manager.revokeBackend` ends, well or not. -/
def onRevoked (self : WorkspaceBackendClient) (n : Nat) (ok : Bool) : WorkspaceBackendClient :=
  match self.removals[n]? with
  | some removal =>
    if removal.phase ≠ .revoking then self
    else if ¬ ok then { self with removals := self.removals.set n { removal with phase := .done } }
    else
      { self.updateClient? (self.manager.clients.get? removal.backendId) .disconnect with
        manager := { self.manager with
          descriptors := self.manager.descriptors.filter fun descriptor => descriptor.backendId ≠ removal.backendId
          clients := self.manager.clients.erase removal.backendId }
        removals := self.removals.set n { removal with phase := .revoked } }
  | none => self

/-- The context that `removeBackend` goes on with: a connected one, else one that is online, else the first one. -/
def nextContext (self : WorkspaceBackendClient) : Option Nat :=
  ((self.contexts.values.find? fun context => self.isClientConnected (self.contextClient context)).or
    (self.contexts.values.find? fun context => (self.objects context).descriptor.online)).or self.contexts.values.head?

/-- The rest of `removeBackend`. -/
def onRemoved (self : WorkspaceBackendClient) (n : Nat) : WorkspaceBackendClient :=
  match self.removals[n]? with
  | some removal =>
    if removal.phase ≠ .revoked then self
    else
      let removed := { self.dropContext (removal.backendId, removal.context) with
        removals := self.removals.set n { removal with phase := .done } }
      if removed.activeId ≠ removal.backendId then removed
      else
        match removed.nextContext with
        | none => removed
        | some context => removed.setActiveBackend (removed.objects context).descriptor.backendId
  | none => self

def onInitialized (self : WorkspaceBackendClient) (n : Nat) (ok : Bool) : WorkspaceBackendClient :=
  match self.initializations[n]? with
  | some initialization =>
    if initialization.settled.isSome then self
    else
      { (self.updateContext initialization.context fun object =>
          { object with initialized := object.initialized || ok, initializing := none }) with
        initializations := self.initializations.set n { initialization with settled := some ok } }
  | none => self

/-- `activateContext` goes on. -/
def resumeActivation (self : WorkspaceBackendClient) (n : Nat) (call : Call) : WorkspaceBackendClient :=
  let (phase, next) := self.deactivateOther call.backendId
  next.setPhase n call phase

/-- The backend of a call becomes the active one. -/
def publishCall (self : WorkspaceBackendClient) (n : Nat) (call : Call) : WorkspaceBackendClient :=
  let self := self.setActiveBackend call.backendId
  if call.kind = .activateBackend then
    let restored := self.updateClient? (self.contextClient call.context) (·.setSessionSubscriptionActive true)
    restored.setPhase n call .restoring
  else self.setPhase n call .activated

/-- `ensureConversationInitialized`. -/
def startInitialization (self : WorkspaceBackendClient) (n : Nat) (call : Call) : WorkspaceBackendClient :=
  if (self.objects call.context).initialized then self.setPhase n call .initialized
  else
    match (self.objects call.context).initializing with
    | some initialization => self.setPhase n call (.initializing initialization)
    | none =>
      { (self.updateContext call.context fun object =>
          { object with initializing := some self.initializations.length }).setPhase n call
            (.initializing self.initializations.length) with
        initializations := self.initializations ++ [{ context := call.context, settled := none }] }

/-- What a call does with the active context. -/
def continueCall (self : WorkspaceBackendClient) (n : Nat) (call : Call) : WorkspaceBackendClient :=
  match call.kind, self.contextClient call.context with
  | .switchSession sessionPath, some client =>
    (self.updateClient client (·.switchSession sessionPath)).setPhase n call
      (.opening ((self.clients client).sessionNonce + 1))
  | .switchSession _, none => self.setPhase n call .failed
  | _, _ => self.startInitialization n call

/-- The conversation is initialized. -/
def finishCall (self : WorkspaceBackendClient) (n : Nat) (call : Call) : WorkspaceBackendClient :=
  match call.kind with
  | .newSession => (self.updateClient? (self.contextClient call.context) .newSession).setPhase n call .succeeded
  | _ => self.setPhase n call .succeeded

/-- A call goes on after a wait; `ok` says how a wait of its client ended. -/
def onResumed (self : WorkspaceBackendClient) (n : Nat) (ok : Bool) : WorkspaceBackendClient :=
  match self.calls[n]? with
  | none => self
  | some call =>
    match call.phase with
    | .connecting connection =>
      match self.connectionPhase connection with
      | some .connected => self.resumeActivation n call
      | some .failed => self.setPhase n call .failed
      | _ => self
    | .deactivating => self.publishCall n call
    | .restoring => self.setPhase n call .activated
    | .activated => self.continueCall n call
    | .initializing initialization =>
      match self.initializations[initialization]?.bind (·.settled) with
      | some true => self.finishCall n call
      | some false => self.setPhase n call .failed
      | none => self
    | .initialized => self.finishCall n call
    | .opening nonce =>
      if ok then
        (self.updateClient? (self.contextClient call.context) (·.requestFullSessionSync nonce)).setPhase n call
          .subscribing
      else self.setPhase n call .failed
    | .subscribing => self.setPhase n call (if ok then .succeeded else .failed)
    | .succeeded => self
    | .failed => self

/-- The carrier of a client takes a step of its own: only the workspace connects and closes a client. -/
def onTransport (self : WorkspaceBackendClient) (client : Nat) (event : TransportEvent) : WorkspaceBackendClient :=
  if self.clientCount ≤ client then self
  else
    match event with
    | .connect | .close => self
    | event => self.updateClient client (·.onTransport event)

end WorkspaceBackendClient

/-- Calls of the user interface, ends of what is waited for, and what happens to the carriers of the clients. -/
inductive WorkspaceEvent
  | connect
  | activate (kind : CallKind) (backendId : JsString)
  | restoreCachedSessionPreview (backendId sessionPath : JsString)
  | useBackend (backendId : JsString)
  | removeBackend (backendId : JsString)
  | discover
  | disconnect
  | clientConnected (connection : Nat) (ok : Bool)
  | sessionsListed (connection : Nat)
  | firstConnected (connect : Nat) (attempt : Attempt)
  | listed (discovery : Nat) (result : Option (List AuthorizedBackendDescriptor))
  | discovered (discovery : Nat)
  | candidateConnected (discovery : Nat) (attempt : Attempt)
  | revoked (removal : Nat) (ok : Bool)
  | removed (removal : Nat)
  | initialized (initialization : Nat) (ok : Bool)
  | resumed (call : Nat) (ok : Bool)
  | transport (client : Nat) (event : TransportEvent)
  | recovered (client : Nat) (sessionPath : JsString)
  | focus (client : Nat)
  | sessionMissing (client nonce : Nat)

def step (self : WorkspaceBackendClient) : WorkspaceEvent → WorkspaceBackendClient
  | .connect => self.connect
  | .activate kind backendId => self.activate kind backendId
  | .restoreCachedSessionPreview backendId sessionPath => self.restoreCachedSessionPreview backendId sessionPath
  | .useBackend backendId => self.useBackend backendId
  | .removeBackend backendId => self.removeBackend backendId
  | .discover => self.discover
  | .disconnect => self.disconnect
  | .clientConnected connection ok => self.onClientConnected connection ok
  | .sessionsListed connection => self.onSessionsListed connection
  | .firstConnected connect attempt => self.onFirstConnected connect attempt
  | .listed discovery result => self.onListed discovery result
  | .discovered discovery => self.onDiscovered discovery
  | .candidateConnected discovery attempt => self.onCandidateConnected discovery attempt
  | .revoked removal ok => self.onRevoked removal ok
  | .removed removal => self.onRemoved removal
  | .initialized initialization ok => self.onInitialized initialization ok
  | .resumed call ok => self.onResumed call ok
  | .transport client event => self.onTransport client event
  | .recovered client sessionPath => self.updateClient client (·.recover sessionPath)
  | .focus client => self.updateClient client .resubscribe
  | .sessionMissing client nonce => self.updateClient client (·.sessionMissing nonce)

end pipane.workspace_backend_client

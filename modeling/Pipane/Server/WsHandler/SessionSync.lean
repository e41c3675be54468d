import Pipane.Lib.OrderedMap
import Pipane.Server.SessionJsonl
import Pipane.Shared.DataChannelFraming
import Pipane.Shared.WsProtocol

open javascript json pipane.data_channel_framing pipane.jsonl_sync pipane.session_jsonl pipane.ws_protocol

namespace pipane.ws_handler

def SESSION_SYNC_CONTENT_BATCH_TARGET_BYTES : Nat := 8 * 1024 * 1024

/-- What the handler keeps of a connection. `isOpen` is the connection's own `readyState`. -/
structure ClientState where
  isOpen : Bool
  subscribedSession : Option JsString
  lastVersion : Nat
  /-- The last state that was sent, as JSON. -/
  lastJson : JsString
  lastHash : JsString

structure SessionRevision where
  revision : Nat
  hash : JsString

/-- The part of `WsHandler` that publishes session states. `attached` holds the sessions of the registry's
    attached actors, `pendingDetachedSyncs` the paths whose trailing-edge timer is set. -/
structure WsHandler (Ws : Type) where
  clients : OrderedMap Ws ClientState
  attached : OrderedMap JsString SessionJsonl
  sessionRevisions : OrderedMap JsString SessionRevision
  subscribedFileSizes : OrderedMap JsString Nat
  pendingDetachedSyncs : OrderedMap JsString Unit

/-- What a call leaves: the handler, the messages sent, and the error that was thrown. -/
structure Outcome (Ws : Type) where
  handler : WsHandler Ws
  sent : List (Ws × SessionSyncMessage)
  failure : Option String

def byteLength (text : JsString) : Nat :=
  (textEncode text).length

/-- `state.messages` and the other properties of a parsed state. -/
def stateParts (json : JsString) : Option (List Value × List (JsString × Value)) :=
  match parse json with
  | some (.obj members) =>
    match members.lookup (js "messages") with
    | some (.arr messages) => some (messages, members.filter fun member => member.1 ≠ js "messages")
    | _ => none
  | _ => none

def messageLimitError (singleFrameBytes limit : Nat) : String :=
  s!"One materialized session message requires {singleFrameBytes} bytes; the per-message sync limit is {limit} bytes"

def batchLimitError (count : Nat) : String :=
  s!"Session sync requires {count} batches; the limit is {MAX_SEGMENTED_SESSION_SYNC_BATCHES}"

def stateLimitError (stateBytes : Nat) : String :=
  s!"Session state requires {stateBytes} bytes; the segmented sync limit is {MAX_SEGMENTED_SESSION_SYNC_BYTES} bytes"

/-- The batches that are full, and the one that is being filled. -/
structure ContentBatches where
  batches : List (List ContentAddressedMessage)
  current : List ContentAddressedMessage
  currentBytes : Nat

/-- The loop body of `makeContentBatches`. -/
def addToBatches (envelopeBytes : Nat) (filled : ContentBatches) (message : ContentAddressedMessage) :
    Except String ContentBatches :=
  let messageBytes := byteLength (stringify message.value)
  let nextBytes := envelopeBytes + filled.currentBytes + messageBytes + if filled.current = [] then 0 else 1
  let filled :=
    if filled.current ≠ [] ∧ SESSION_SYNC_CONTENT_BATCH_TARGET_BYTES < nextBytes then
      { batches := filled.batches ++ [filled.current], current := [], currentBytes := 0 }
    else filled
  let singleFrameBytes := envelopeBytes + messageBytes
  let limit := MAX_DATA_CHANNEL_FRAME_BYTES - 1024
  if limit < singleFrameBytes then
    .error (messageLimitError singleFrameBytes limit)
  else
    .ok { filled with
      current := filled.current ++ [message]
      currentBytes := filled.currentBytes + (messageBytes + if filled.current = [] then 0 else 1) }

def makeContentBatches (sessionPath : JsString) (revision : Nat) (hash transferId : JsString)
    (messages : List ContentAddressedMessage) : Except String (List SessionSyncMessage) :=
  let envelopeBytes :=
    byteLength (encodeServerMessage (contentBatchPayload sessionPath revision hash transferId 0 [])) - 2
  match messages.foldlM (addToBatches envelopeBytes) { batches := [], current := [], currentBytes := 0 } with
  | .error error => .error error
  | .ok filled =>
    let batches := if filled.current = [] then filled.batches else filled.batches ++ [filled.current]
    if MAX_SEGMENTED_SESSION_SYNC_BATCHES < batches.length then .error (batchLimitError batches.length)
    else
      .ok (batches.mapIdx fun batchIndex batch =>
        { sessionPath, revision, op := .content_batch hash transferId batchIndex batch })

section

variable {Ws : Type} [DecidableEq Ws] (computeHashSync : JsString → JsString)

/-- The bodies that a client does not know, each once. -/
def unknownMessages (known : List JsString) (messages : List Value) : List ContentAddressedMessage :=
  messages.foldl (fun emitted message =>
    let hash := computeHashSync (stringify message)
    if hash ∈ known ∨ hash ∈ emitted.map ContentAddressedMessage.hash then emitted
    else emitted ++ [⟨hash, message⟩]) []

/-- The messages that answer a subscription, for the given revision of the state. -/
def makeInitialSessionSync (sessionPath json hash : JsString) (revision : Nat) (command : SubscribeSession) :
    Except String (List SessionSyncMessage) :=
  if command.cachedStateHash = some hash then
    .ok [{ sessionPath, revision, op := .not_modified hash }]
  else
    match command.knownMessageHashes with
    | none => .ok [{ sessionPath, revision, op := .sync (.full json hash) }]
    | some known =>
      match stateParts json with
      | none => .error "state.messages is not iterable"
      | some (stateMessages, metadata) =>
        let messageHashes := stateMessages.map fun message => computeHashSync (stringify message)
        let messages := unknownMessages computeHashSync known stateMessages
        if command.segmentedContent then
          if MAX_SEGMENTED_SESSION_SYNC_BYTES < byteLength json then .error (stateLimitError (byteLength json))
          else
            let transferId := base36 revision ++ 0x2D :: hash.take 16
            match makeContentBatches sessionPath revision hash transferId messages with
            | .error error => .error error
            | .ok batches =>
              .ok ({ sessionPath, revision, op := .content_manifest hash transferId messageHashes metadata batches.length } ::
                batches)
        else .ok [{ sessionPath, revision, op := .content hash messageHashes messages metadata }]

namespace WsHandler

def start : WsHandler Ws where
  clients := ∅
  attached := ∅
  sessionRevisions := ∅
  subscribedFileSizes := ∅
  pendingDetachedSyncs := ∅

/-- `revisionForState`: the same state keeps its revision. -/
def revisionForState (self : WsHandler Ws) (sessionPath hash : JsString) : Nat × WsHandler Ws :=
  let next (current : Nat) : Nat × WsHandler Ws :=
    (current + 1, { self with
      sessionRevisions := self.sessionRevisions.set sessionPath { revision := current + 1, hash } })
  match self.sessionRevisions.get? sessionPath with
  | some current => if current.hash = hash then (current.revision, self) else next current.revision
  | none => next 0

def acceptConnection (self : WsHandler Ws) (ws : Ws) : WsHandler Ws :=
  { self with
    clients := self.clients.set ws
      { isOpen := true, subscribedSession := none, lastVersion := 0, lastJson := [], lastHash := [] } }

/-- The connection is no longer reported open. -/
def closeConnection (self : WsHandler Ws) (ws : Ws) : WsHandler Ws :=
  match self.clients.get? ws with
  | none => self
  | some client => { self with clients := self.clients.set ws { client with isOpen := false } }

/-- The messages that reach a client: `sendMessage` drops those for a connection that is not open. -/
def sendMessages (ws : Ws) (client : ClientState) (messages : List SessionSyncMessage) :
    List (Ws × SessionSyncMessage) :=
  if client.isOpen then messages.map (ws, ·) else []

/-- The rest of `handleSubscribeSession` once the state to publish is known. -/
def publishInitial (self : WsHandler Ws) (ws : Ws) (client : ClientState) (sessionPath json hash : JsString)
    (version : Nat) (command : SubscribeSession) : Outcome Ws :=
  let client := { client with
    subscribedSession := some sessionPath
    lastVersion := version
    lastJson := json
    lastHash := hash }
  let (revision, self) := { self with clients := self.clients.set ws client }.revisionForState sessionPath hash
  match makeInitialSessionSync computeHashSync sessionPath json hash revision command with
  | .error error => { handler := self, sent := [], failure := some error }
  | .ok messages => { handler := self, sent := sendMessages ws client messages, failure := none }

/-- `resolved` is what the path confinement makes of the requested path, `none` when it throws. `disk` and
    `size` are what the two file-system calls observe, in this order. -/
def handleSubscribeSession (self : WsHandler Ws) (ws : Ws) (command : SubscribeSession)
    (resolved : Option JsString) (disk : SessionState) (size : Nat) : Outcome Ws :=
  match self.clients.get? ws with
  | none => { handler := self, sent := [], failure := none }
  | some client =>
    if command.sessionPath = [] then
      let client := { client with subscribedSession := none, lastVersion := 0, lastJson := [], lastHash := [] }
      { handler := { self with clients := self.clients.set ws client }, sent := [], failure := none }
    else
      match resolved with
      | none => { handler := self, sent := [], failure := some "Session not found" }
      | some sessionPath =>
        match self.attached.get? sessionPath with
        | some session =>
          self.publishInitial computeHashSync ws client sessionPath session.json (session.hash computeHashSync)
            session.version command
        | none =>
          let serialized := serializeSessionState computeHashSync disk
          { self with subscribedFileSizes := self.subscribedFileSizes.set sessionPath size }.publishInitial
            computeHashSync ws client sessionPath serialized.json serialized.hash 0 command

/-- A loop over the clients: `push` says what becomes of a client's record and what is sent to it. -/
def pushToClients (self : WsHandler Ws) (push : ClientState → ClientState × Option SessionSyncMessage) :
    Outcome Ws where
  handler := { self with clients := self.clients.mapValues fun _ client => (push client).1 }
  sent := self.clients.entries.filterMap fun entry => (push entry.2).2.map (entry.1, ·)
  failure := none

def pushSnapshot (sessionPath json hash : JsString) (revision : Nat) (client : ClientState) :
    ClientState × Option SessionSyncMessage :=
  if client.subscribedSession ≠ some sessionPath ∨ ¬ client.isOpen ∨ client.lastHash = hash then (client, none)
  else
    ({ client with lastJson := json, lastHash := hash, lastVersion := 0 },
      some { sessionPath, revision, op := .sync (computeSyncOp client.lastJson json client.lastHash hash) })

def pushSnapshotToSubscribers (self : WsHandler Ws) (sessionPath json hash : JsString) : Outcome Ws :=
  let (revision, self) := self.revisionForState sessionPath hash
  self.pushToClients (pushSnapshot sessionPath json hash revision)

def pushUpdate (sessionPath : JsString) (session : SessionJsonl) (revision : Nat) (client : ClientState) :
    ClientState × Option SessionSyncMessage :=
  if client.subscribedSession ≠ some sessionPath ∨ ¬ client.isOpen then (client, none)
  else
    match session.computeSyncOp computeHashSync client.lastJson client.lastHash with
    | none => (client, none)
    | some syncOp =>
      ({ client with
        lastJson := session.json
        lastHash := session.hash computeHashSync
        lastVersion := session.version },
      some { sessionPath, revision, op := .sync syncOp })

/-- Push an update to all clients subscribed to an attached session. -/
def pushUpdateToSubscribers (self : WsHandler Ws) (sessionPath : JsString) (session : SessionJsonl) : Outcome Ws :=
  let (revision, self) := self.revisionForState sessionPath (session.hash computeHashSync)
  self.pushToClients (pushUpdate computeHashSync sessionPath session revision)

def isAttached (self : WsHandler Ws) (sessionPath : JsString) : Bool :=
  self.attached.contains sessionPath

def hasSubscribers (self : WsHandler Ws) (sessionPath : JsString) : Bool :=
  self.clients.values.any fun client => client.subscribedSession = some sessionPath

/-- Called by the file watcher when a JSONL file changes on disk. -/
def notifySessionFileChanged (self : WsHandler Ws) (sessionPath : JsString) : WsHandler Ws :=
  if self.isAttached sessionPath ∨ ¬ self.hasSubscribers sessionPath then self
  else { self with pendingDetachedSyncs := self.pendingDetachedSyncs.set sessionPath () }

/-- `newSize` and `disk` are what the two file-system calls observe, in this order. -/
def flushDetachedSessionSync (self : WsHandler Ws) (sessionPath : JsString) (newSize : Nat) (disk : SessionState) :
    Outcome Ws :=
  if self.isAttached sessionPath ∨ ¬ self.hasSubscribers sessionPath then
    { handler := self, sent := [], failure := none }
  else if newSize = (self.subscribedFileSizes.get? sessionPath).getD 0 then
    { handler := self, sent := [], failure := none }
  else
    let serialized := serializeSessionState computeHashSync disk
    { self with subscribedFileSizes := self.subscribedFileSizes.set sessionPath newSize }.pushSnapshotToSubscribers
      sessionPath serialized.json serialized.hash

/-- The timer that `notifySessionFileChanged` set. -/
def onFlushTimer (self : WsHandler Ws) (sessionPath : JsString) (newSize : Nat) (disk : SessionState) :
    Outcome Ws :=
  if ¬ self.pendingDetachedSyncs.contains sessionPath then { handler := self, sent := [], failure := none }
  else
    { self with pendingDetachedSyncs := self.pendingDetachedSyncs.erase sessionPath }.flushDetachedSessionSync
      computeHashSync sessionPath newSize disk

/-- The final snapshot of a released session: the messages on disk with the live values that the file may
    not hold yet. -/
def releaseSnapshot (disk live : SessionState) (preserveLiveControls : Bool) : SessionState :=
  { disk with
    model := if preserveLiveControls then live.model else disk.model
    thinkingLevel := if preserveLiveControls then live.thinkingLevel else disk.thinkingLevel
    toolCallTimings := live.toolCallTimings
    error := live.error
    timings_canonical := live.timings_canonical }

/-- `releaseActor` from the detach on; `disk` and `size` are what the two file-system calls observe. -/
def releaseActor (self : WsHandler Ws) (sessionPath : JsString) (preserveLiveControls : Bool) (disk : SessionState)
    (size : Nat) : Outcome Ws :=
  let state :=
    match self.attached.get? sessionPath with
    | some live => releaseSnapshot disk live.state preserveLiveControls
    | none => disk
  let serialized := serializeSessionState computeHashSync state
  { self with
    attached := self.attached.erase sessionPath
    subscribedFileSizes := self.subscribedFileSizes.set sessionPath size }.pushSnapshotToSubscribers
      sessionPath serialized.json serialized.hash

end WsHandler

end

end pipane.ws_handler

import Pipane.Lib.OrderedMap
import Pipane.Lib.Transition
import Pipane.Shared.JsonlSync
import Pipane.Shared.WsProtocol.SessionState

open javascript json pipane.jsonl_sync pipane.ws_protocol

namespace pipane.ws_agent_adapter

def MAX_KNOWN_SESSION_MESSAGE_HASHES : Nat := 4096

/-- A session as it was selected: navigation always changes the nonce. -/
structure Scope where
  sessionPath : JsString
  sessionNonce : Nat
deriving DecidableEq

structure ScopedSessionSync where
  message : SessionSyncMessage
  scope : Scope

structure PendingSegmentedSessionSync where
  scope : Scope
  revision : Nat
  hash : JsString
  transferId : JsString
  messageHashes : List JsString
  state : List (JsString × Value)
  batchCount : Nat
  nextBatchIndex : Nat
  receivedBytes : Nat
  messages : List ContentAddressedMessage

/-- The bodies of a content snapshot, by hash. -/
structure ContentInventory where
  hash : JsString
  hashes : List JsString
  objects : OrderedMap JsString Value

/-- A batch whose final hash is being computed; `result` is what `applySyncOps` will resolve with. -/
structure Verification where
  scope : Scope
  syncMessages : List ScopedSessionSync
  nextRevision : Option Nat
  contentInventory : Option ContentInventory
  result : Option SyncResult

/-- What the browser cache gives for a session, its hash checked. -/
structure CachedSessionState (computeHash : JsString → JsString) where
  json : JsString
  hash : JsString
  messageHashes : List JsString
  messageObjects : OrderedMap JsString Value
  hash_eq : computeHash json = hash

/-- The rest of the function that restores a cached session. -/
inductive RestoreContinuation
  | switchSession
  | restoreCachedSessionPreview
deriving DecidableEq

/-- A `restoreCachedSession` that waits for the cache. -/
structure Restore where
  scope : Scope
  continuation : RestoreContinuation
  previewPending : Bool
  painted : Bool

/-- A restored snapshot that is painted two frames later. -/
structure Hydration where
  scope : Scope
  hash : JsString

/-- A `subscribe_session` request without its response. -/
structure PendingSubscribe where
  id : Nat
  sessionNonce : Nat
  sessionPath : Option JsString

/-- A `subscribe_session` frame on its way, with the scope it was sent for. -/
structure SentSubscribe where
  id : Nat
  sessionNonce : Nat
  command : SubscribeSession

/-- The carrier, with the frames that the server has not read yet. -/
structure FrameTransport where
  isConnected : Bool
  everConnected : Bool
  outgoing : List SentSubscribe

/-- What one commit of the sync path left on record: the scope it was started in, those of its frames, and
    the one selected when it was done. -/
structure Commit where
  data : JsString
  hash : JsString
  started : Scope
  frames : List Scope
  selected : Scope

/-- The same for a cached snapshot. -/
structure RestoredSnapshot where
  hash : JsString
  started : Scope
  selected : Scope

/-- The part of `WsAgentAdapter` that keeps the selected session in step with the server. `isVirtual` is
    `_sessionStatus === "virtual"`; `frameCallbacks` counts the animation frames asked for. -/
structure WsAgentAdapter where
  transport : FrameTransport
  requestId : Nat
  pendingRequests : List PendingSubscribe
  supportsContentAddressedSync : Bool
  supportsSegmentedSync : Bool
  hasSessionCache : Bool
  sessionPath : Option JsString
  sessionNonce : Nat
  isVirtual : Bool
  sessionSubscriptionActive : Bool
  syncJson : JsString
  syncHash : JsString
  syncRevision : Option Nat
  awaitingFullSync : Option Scope
  cachedStateHash : Option JsString
  cachedMessageHashes : List JsString
  cachedMessageObjects : OrderedMap JsString Value
  startupCachedSessionPath : Option JsString
  pendingSessionSyncs : List ScopedSessionSync
  pendingSegmentedSessionSync : Option PendingSegmentedSessionSync
  sessionSyncFlushScheduled : Bool
  sessionSyncFlushInProgress : Bool
  frameCallbacks : Nat
  verification : Option Verification
  restores : List Restore
  hydrations : List Hydration
  error : Option JsString
  commits : List Commit
  restored : List RestoredSnapshot

/-- `JSON.stringify({ messages, ...state })` for messages given by their hashes, `none` if one is missing. -/
def materialize (objects : OrderedMap JsString Value) (messageHashes : List JsString)
    (state : List (JsString × Value)) : Option JsString :=
  (messageHashes.mapM objects.get?).map fun messages =>
    stringify (.obj (state.foldl defineMember [(js "messages", .arr messages)]))

/-- `[...new Set(values)]`. -/
def distinct (values : List JsString) : List JsString :=
  values.foldl (fun seen value => if value ∈ seen then seen else seen ++ [value]) []

def isMissingSessionError (error : JsString) : Bool :=
  decide (js "Session file not found" <:+: error)

/-- The revision after a batch, or the message that leaves a gap. -/
def checkRevisions : Option Nat → List ScopedSessionSync → Except ScopedSessionSync (Option Nat)
  | revision, [] => .ok revision
  | revision, m :: messages =>
    match m.message.op with
    | .sync (.delta _ _ _) =>
      if revision.map (· + 1) = some m.message.revision then checkRevisions (some m.message.revision) messages
      else .error m
    | _ => checkRevisions (some m.message.revision) messages

/-- The operations of a batch and the inventory of its last content snapshot. -/
structure BatchOps where
  syncOps : List SyncOp
  contentInventory : Option ContentInventory

/-- The loop body that turns a message into operations; `none` asks for a full sync. -/
def addSyncOp (syncJson syncHash : JsString) (cachedMessageObjects : OrderedMap JsString Value) (batch : BatchOps) :
    SessionSyncOp → Option BatchOps
  | .sync op => some { batch with syncOps := batch.syncOps ++ [op] }
  | .not_modified hash => if syncJson = [] ∨ syncHash ≠ hash then none else some batch
  | .content hash messageHashes messages state =>
    let objects := messages.foldl (fun objects body => objects.set body.hash body.message) cachedMessageObjects
    (materialize objects messageHashes state).map fun data =>
      { syncOps := batch.syncOps ++ [.full data hash]
        contentInventory := some { hash, hashes := messageHashes, objects } }
  | .content_manifest .. => some batch
  | .content_batch .. => some batch

def SessionSyncOp.isDelta : SessionSyncOp → Bool
  | .sync (.delta ..) => true
  | _ => false

def SessionSyncOp.isContent : SessionSyncOp → Bool
  | .content .. => true
  | _ => false

def SessionSyncOp.isFullOrDelta : SessionSyncOp → Bool
  | .sync _ => true
  | _ => false

/-- A delta follows the first content snapshot of the batch. -/
def hasDeltaAfterContent (syncMessages : List ScopedSessionSync) : Bool :=
  ((syncMessages.dropWhile fun m => !SessionSyncOp.isContent m.message.op).drop 1).any
    fun m => SessionSyncOp.isDelta m.message.op

def messageBytes (messages : List ContentAddressedMessage) : Nat :=
  (messages.map fun body => (textEncode (stringify body.message)).length).sum

section

variable (computeHash : JsString → JsString)

namespace WsAgentAdapter

def start : WsAgentAdapter where
  transport := { isConnected := false, everConnected := false, outgoing := [] }
  requestId := 0
  pendingRequests := []
  supportsContentAddressedSync := false
  supportsSegmentedSync := false
  hasSessionCache := false
  sessionPath := none
  sessionNonce := 0
  isVirtual := true
  sessionSubscriptionActive := true
  syncJson := []
  syncHash := []
  syncRevision := none
  awaitingFullSync := none
  cachedStateHash := none
  cachedMessageHashes := []
  cachedMessageObjects := ∅
  startupCachedSessionPath := none
  pendingSessionSyncs := []
  pendingSegmentedSessionSync := none
  sessionSyncFlushScheduled := false
  sessionSyncFlushInProgress := false
  frameCallbacks := 0
  verification := none
  restores := []
  hydrations := []
  error := none
  commits := []
  restored := []

/-- The scope of a session path under the current nonce. -/
def scopeOf (self : WsAgentAdapter) (sessionPath : JsString) : Scope :=
  { sessionPath, sessionNonce := self.sessionNonce }

/-- The scope that is selected. -/
def selected (self : WsAgentAdapter) : Scope :=
  self.scopeOf (self.sessionPath.getD [])

def IsSelected (self : WsAgentAdapter) (scope : Scope) : Prop :=
  self.sessionPath = some scope.sessionPath ∧ self.sessionNonce = scope.sessionNonce

instance (self : WsAgentAdapter) (scope : Scope) : Decidable (self.IsSelected scope) :=
  inferInstanceAs (Decidable (_ ∧ _))

def clearCachedInventory (self : WsAgentAdapter) : WsAgentAdapter :=
  { self with cachedStateHash := none, cachedMessageHashes := [], cachedMessageObjects := ∅ }

def clearSessionSyncQueue (self : WsAgentAdapter) : WsAgentAdapter :=
  { self with
    pendingSessionSyncs := []
    pendingSegmentedSessionSync := none
    sessionSyncFlushScheduled := false }

/-- `send` for a `subscribe_session`. Without a carrier the request is rejected. -/
def sendSubscribe (self : WsAgentAdapter) (sessionPath : Option JsString) (command : SubscribeSession) :
    WsAgentAdapter :=
  if ¬ self.transport.isConnected then self
  else
    let id := self.requestId + 1
    { self with
      requestId := id
      pendingRequests := self.pendingRequests ++ [{ id, sessionNonce := self.sessionNonce, sessionPath }]
      transport := { self.transport with
        outgoing := self.transport.outgoing ++ [{ id, sessionNonce := self.sessionNonce, command }] } }

def subscribeToSession (self : WsAgentAdapter) (sessionPath : Option JsString) (forceFull : Bool) : WsAgentAdapter :=
  let knownMessageHashes := distinct self.cachedMessageHashes
  let path := sessionPath.getD []
  let supportsSegmentedSync := decide (path ≠ []) && self.supportsSegmentedSync
  let canResume := !forceFull && decide (path ≠ []) && self.supportsContentAddressedSync
    && decide (self.cachedStateHash.getD [] ≠ []) && decide (self.syncJson ≠ [])
    && decide (knownMessageHashes.length ≤ MAX_KNOWN_SESSION_MESSAGE_HASHES)
    && decide (self.cachedStateHash = some self.syncHash)
  self.sendSubscribe sessionPath
    { sessionPath := path
      cachedStateHash := if canResume then self.cachedStateHash else none
      knownMessageHashes :=
        if canResume then some knownMessageHashes else if supportsSegmentedSync then some [] else none
      segmentedContent := supportsSegmentedSync }

/-- Reset the sync base and request exactly one authoritative full snapshot. -/
def requestFullSessionSync (self : WsAgentAdapter) (sessionPath : JsString) (forceFull : Bool) : WsAgentAdapter :=
  if self.awaitingFullSync = some (self.scopeOf sessionPath) then self
  else
    let self := { self with awaitingFullSync := some (self.scopeOf sessionPath) }
    let preserveCachedBase := !forceFull && decide (self.cachedStateHash.getD [] ≠ [])
      && decide (self.cachedStateHash = some self.syncHash)
    let self :=
      if preserveCachedBase then self
      else
        let self := { self with syncJson := [], syncHash := [], syncRevision := none }
        if forceFull then self.clearCachedInventory else self
    self.clearSessionSyncQueue.subscribeToSession (some sessionPath) forceFull

/-- Ask for an animation frame to flush the queue in. -/
def scheduleFlush (self : WsAgentAdapter) : WsAgentAdapter :=
  { self with sessionSyncFlushScheduled := true, frameCallbacks := self.frameCallbacks + 1 }

/-- A newer full snapshot supersedes queued history, but every delta after that full is retained. -/
def queueSessionSync (self : WsAgentAdapter) (syncMsg : ScopedSessionSync) : WsAgentAdapter :=
  if SessionSyncOp.isDelta syncMsg.message.op then
    { self with pendingSessionSyncs := self.pendingSessionSyncs ++ [syncMsg] }
  else
    { self with
      awaitingFullSync := if self.awaitingFullSync = some syncMsg.scope then none else self.awaitingFullSync
      pendingSessionSyncs := [syncMsg] }

/-- Deltas that arrive while their scope awaits a full sync have no usable base and are dropped. -/
def enqueueSessionSync (self : WsAgentAdapter) (syncMsg : ScopedSessionSync) : WsAgentAdapter :=
  if SessionSyncOp.isDelta syncMsg.message.op ∧ self.awaitingFullSync = some syncMsg.scope then self
  else
    let self := self.queueSessionSync syncMsg
    if self.sessionSyncFlushScheduled ∨ self.sessionSyncFlushInProgress then self else self.scheduleFlush

def completeSegmentedSessionSync (self : WsAgentAdapter) : WsAgentAdapter :=
  match self.pendingSegmentedSessionSync with
  | none => self
  | some pending =>
    if ¬ self.IsSelected pending.scope then self
    else
      { self with pendingSegmentedSessionSync := none }.enqueueSessionSync
        { message :=
            { sessionPath := pending.scope.sessionPath
              revision := pending.revision
              op := .content pending.hash pending.messageHashes pending.messages pending.state }
          scope := pending.scope }

/-- The transfer is inconsistent: ask for the session again. -/
def restartSegmentedSessionSync (self : WsAgentAdapter) (pending : PendingSegmentedSessionSync) : WsAgentAdapter :=
  { self with pendingSegmentedSessionSync := none, awaitingFullSync := none }.requestFullSessionSync
    pending.scope.sessionPath true

def receiveManifest (self : WsAgentAdapter) (sessionPath : JsString) (revision : Nat) (hash transferId : JsString)
    (messageHashes : List JsString) (state : List (JsString × Value)) (batchCount : Nat) : WsAgentAdapter :=
  let pending : PendingSegmentedSessionSync :=
    { scope := self.scopeOf sessionPath, revision, hash, transferId, messageHashes, state, batchCount,
      nextBatchIndex := 0, receivedBytes := 0, messages := [] }
  let self := { self with pendingSegmentedSessionSync := some pending }
  if batchCount = 0 then self.completeSegmentedSessionSync else self

def receiveBatch (self : WsAgentAdapter) (sessionPath : JsString) (revision : Nat) (hash transferId : JsString)
    (batchIndex : Nat) (messages : List ContentAddressedMessage) : WsAgentAdapter :=
  match self.pendingSegmentedSessionSync with
  | none => self
  | some pending =>
    if transferId ≠ pending.transferId then self
    else if sessionPath ≠ pending.scope.sessionPath ∨ revision ≠ pending.revision ∨ hash ≠ pending.hash ∨
        batchIndex ≠ pending.nextBatchIndex ∨ pending.batchCount ≤ batchIndex then
      self.restartSegmentedSessionSync pending
    else
      let receivedBytes := pending.receivedBytes + messageBytes messages
      if MAX_SEGMENTED_SESSION_SYNC_BYTES < receivedBytes then self.restartSegmentedSessionSync pending
      else
        let received := { pending with
          receivedBytes
          messages := pending.messages ++ messages
          nextBatchIndex := pending.nextBatchIndex + 1 }
        let self := { self with pendingSegmentedSessionSync := some received }
        if received.nextBatchIndex = received.batchCount then self.completeSegmentedSessionSync else self

/-- The `session_sync` case of `handleMessage`. -/
def handleSessionSync (self : WsAgentAdapter) (message : SessionSyncMessage) : WsAgentAdapter :=
  if self.sessionPath ≠ some message.sessionPath then self
  else
    match message.op with
    | .content_manifest hash transferId messageHashes state batchCount =>
      self.receiveManifest message.sessionPath message.revision hash transferId messageHashes state batchCount
    | .content_batch hash transferId batchIndex messages =>
      self.receiveBatch message.sessionPath message.revision hash transferId batchIndex messages
    | _ => self.enqueueSessionSync { message, scope := self.scopeOf message.sessionPath }

/-- The `finally` of `flushSessionSyncQueue`. -/
def finishFlush (self : WsAgentAdapter) : WsAgentAdapter :=
  let self := { self with sessionSyncFlushInProgress := false }
  if self.pendingSessionSyncs ≠ [] ∧ ¬ self.sessionSyncFlushScheduled then self.scheduleFlush else self

/-- `applySessionSyncBatch` up to the computation of the hash; a batch that ends before it finishes the
    flush. -/
def applySessionSyncBatch (self : WsAgentAdapter) (syncMessages : List ScopedSessionSync) : WsAgentAdapter :=
  let syncSessionPath := self.sessionPath.getD []
  let scope := self.selected
  if syncSessionPath = [] ∨ syncMessages = [] ∨ ∃ m ∈ syncMessages, m.scope ≠ scope then self.finishFlush
  else
    match checkRevisions self.syncRevision syncMessages with
    | .error _ => (self.requestFullSessionSync syncSessionPath true).finishFlush
    | .ok nextRevision =>
      match syncMessages.foldlM
          (fun batch m => addSyncOp self.syncJson self.syncHash self.cachedMessageObjects batch m.message.op)
          { syncOps := [], contentInventory := none } with
      | none => (self.requestFullSessionSync syncSessionPath true).finishFlush
      | some batch =>
        match batch.syncOps with
        | [] => { self with syncRevision := nextRevision }.finishFlush
        | op :: _ =>
          if SessionSyncOp.isDelta (.sync op) ∧ self.syncHash = [] then self.finishFlush
          else
            { self with
              verification := some
                { scope, syncMessages, nextRevision, contentInventory := batch.contentInventory
                  result := applySyncOps computeHash self.syncJson self.syncHash batch.syncOps } }

/-- The callback of an animation frame. -/
def onFrame (self : WsAgentAdapter) : WsAgentAdapter :=
  if self.frameCallbacks = 0 then self
  else
    let self := { self with frameCallbacks := self.frameCallbacks - 1, sessionSyncFlushScheduled := false }
    if self.sessionSyncFlushInProgress then self
    else
      { self with sessionSyncFlushInProgress := true, pendingSessionSyncs := [] }.applySessionSyncBatch computeHash
        self.pendingSessionSyncs

/-- The inventory that a committed batch leaves eligible for cache resumption. -/
def keepInventory (self : WsAgentAdapter) (batch : Verification) : WsAgentAdapter :=
  match batch.contentInventory with
  | some inventory =>
    if ¬ hasDeltaAfterContent batch.syncMessages then
      { self with
        cachedStateHash := some inventory.hash
        cachedMessageHashes := inventory.hashes
        cachedMessageObjects := inventory.objects }
    else self.clearCachedInventory
  | none =>
    if batch.syncMessages.any fun m => SessionSyncOp.isFullOrDelta m.message.op then self.clearCachedInventory
    else self

def commitOf (self : WsAgentAdapter) (batch : Verification) (result : SyncResult) : Commit where
  data := result.data
  hash := result.hash
  started := batch.scope
  frames := batch.syncMessages.map ScopedSessionSync.scope
  selected := self.selected

def commitSync (self : WsAgentAdapter) (batch : Verification) (result : SyncResult)
    (state : List (JsString × Value)) : WsAgentAdapter :=
  let self :=
    { self with
      syncJson := result.data
      syncHash := result.hash
      syncRevision := batch.nextRevision
      commits := self.commits ++ [self.commitOf batch result] }
  { self.keepInventory batch with error := (stringMember (js "error") (.obj state)).filter (· ≠ []) }

/-- `applySessionSyncBatch` once the hash is there. -/
def onHashSettled (self : WsAgentAdapter) : WsAgentAdapter :=
  match self.verification with
  | none => self
  | some batch =>
    let self := { self with verification := none }
    -- Hashing is asynchronous. Never let an old session commit into a newer one.
    if ¬ self.IsSelected batch.scope then self.finishFlush
    else
      match batch.result with
      | none => (self.requestFullSessionSync batch.scope.sessionPath true).finishFlush
      | some result =>
        match decodeSessionStateJson result.data with
        | .error error => { self with error := some (js "Protocol error: " ++ error.message) }.finishFlush
        | .ok state => (self.commitSync batch result state).finishFlush

def newSession (self : WsAgentAdapter) : WsAgentAdapter :=
  let self := { self with
    sessionSubscriptionActive := true
    sessionNonce := self.sessionNonce + 1
    sessionPath := none
    isVirtual := true
    syncJson := []
    syncHash := []
    syncRevision := none
    awaitingFullSync := none
    error := none }
  self.clearSessionSyncQueue.clearCachedInventory.subscribeToSession none false

/-- What a cache that is not there leaves to do. -/
def resume (self : WsAgentAdapter) (continuation : RestoreContinuation) (sessionPath : JsString) : WsAgentAdapter :=
  match continuation with
  | .switchSession => self.requestFullSessionSync sessionPath false
  | .restoreCachedSessionPreview => self

def restoreCachedSession (self : WsAgentAdapter) (continuation : RestoreContinuation) (sessionPath : JsString)
    (prefetched : Bool) : WsAgentAdapter :=
  if ¬ self.hasSessionCache ∨ continuation = .switchSession ∧ ¬ self.supportsContentAddressedSync then
    self.resume continuation sessionPath
  else
    { self with
      restores := self.restores ++
        [{ scope := self.scopeOf sessionPath, continuation, previewPending := !prefetched, painted := false }] }

def switchSession (self : WsAgentAdapter) (sessionPath : JsString) (prefetched : Bool) : WsAgentAdapter :=
  let reuseStartupCache :=
    self.startupCachedSessionPath = some sessionPath ∧ self.syncJson ≠ [] ∧ self.syncHash ≠ []
  let self := { self with
    sessionSubscriptionActive := true
    sessionNonce := self.sessionNonce + 1
    sessionPath := some sessionPath
    isVirtual := false
    startupCachedSessionPath := none
    awaitingFullSync := none }
  let self := self.clearSessionSyncQueue
  if reuseStartupCache then self.requestFullSessionSync sessionPath false
  else
    let self := { self with error := none, syncJson := [], syncHash := [], syncRevision := none }
    self.clearCachedInventory.restoreCachedSession .switchSession sessionPath prefetched

def restoreCachedSessionPreview (self : WsAgentAdapter) (sessionPath : JsString) (prefetched : Bool) :
    WsAgentAdapter :=
  if ¬ self.hasSessionCache then self
  else
    let self := { self with
      sessionNonce := self.sessionNonce + 1
      sessionPath := some sessionPath
      isVirtual := false
      awaitingFullSync := none
      error := none
      syncJson := []
      syncHash := []
      syncRevision := none }
    self.clearSessionSyncQueue.clearCachedInventory.restoreCachedSession .restoreCachedSessionPreview sessionPath
      prefetched

/-- The preview has been read; `none` stands for a rejected read. -/
def onPreviewSettled (self : WsAgentAdapter) (index : Nat) (preview : Option Bool) : WsAgentAdapter :=
  match self.restores[index]? with
  | none => self
  | some restore =>
    if ¬ restore.previewPending then self
    else
      let ended := { self with restores := self.restores.eraseIdx index }
      match preview with
      | none => if self.IsSelected restore.scope then ended.resume restore.continuation restore.scope.sessionPath else ended
      | some found =>
        if ¬ self.IsSelected restore.scope then ended
        else
          { self with
            isVirtual := self.isVirtual && !found
            restores := self.restores.set index { restore with previewPending := false, painted := found } }

/-- The rest of `switchSession` or `restoreCachedSessionPreview`, which look at the selection again. -/
def finishRestore (self : WsAgentAdapter) (restore : Restore) (found : Bool) : WsAgentAdapter :=
  if ¬ self.IsSelected restore.scope then self
  else
    match restore.continuation with
    | .switchSession => self.requestFullSessionSync restore.scope.sessionPath false
    | .restoreCachedSessionPreview =>
      if found then { self with startupCachedSessionPath := some restore.scope.sessionPath } else self

section

variable {computeHash}

def restoredOf (self : WsAgentAdapter) (hash : JsString) (started : Scope) : RestoredSnapshot where
  hash := hash
  started := started
  selected := self.selected

def assignRestored (self : WsAgentAdapter) (restore : Restore) (cached : CachedSessionState computeHash) :
    WsAgentAdapter :=
  let self := { self with
    syncJson := cached.json
    syncHash := cached.hash
    syncRevision := none
    cachedStateHash := some cached.hash
    cachedMessageHashes := cached.messageHashes
    cachedMessageObjects := cached.messageObjects
    restored := self.restored ++ [self.restoredOf cached.hash restore.scope] }
  if restore.painted then
    { self with hydrations := self.hydrations ++ [{ scope := restore.scope, hash := cached.hash }] }
  else { self with isVirtual := false }

/-- The cache has answered, or failed, which counts as no answer. -/
def onCacheSettled (self : WsAgentAdapter) (index : Nat) (cached : Option (CachedSessionState computeHash)) :
    WsAgentAdapter :=
  match self.restores[index]? with
  | none => self
  | some restore =>
    if restore.previewPending then self
    else
      let self := { self with restores := self.restores.eraseIdx index }
      if ¬ self.IsSelected restore.scope then self
      else
        match cached with
        | none => self.finishRestore restore restore.painted
        | some cached => (self.assignRestored restore cached).finishRestore restore true

end

/-- The second of the two frames that a restored snapshot is painted in. -/
def onHydrate (self : WsAgentAdapter) (index : Nat) : WsAgentAdapter :=
  match self.hydrations[index]? with
  | none => self
  | some hydration =>
    let self := { self with hydrations := self.hydrations.eraseIdx index }
    if ¬ self.IsSelected hydration.scope ∨ self.syncHash ≠ hydration.hash then self
    else
      { self with
        isVirtual := false
        restored := self.restored ++ [self.restoredOf hydration.hash hydration.scope] }

def setSessionSubscriptionActive (self : WsAgentAdapter) (active : Bool) : WsAgentAdapter :=
  if active = self.sessionSubscriptionActive then self
  else
    let self := { self with
      sessionSubscriptionActive := active
      sessionNonce := self.sessionNonce + 1
      awaitingFullSync := none }
    let self := self.clearSessionSyncQueue
    if ¬ active then self.subscribeToSession none false
    else
      match self.sessionPath with
      | none => self
      | some sessionPath =>
        if sessionPath ≠ [] ∧ ¬ self.isVirtual then self.requestFullSessionSync sessionPath false else self

/-- The `session_attached` case of `handleMessage`; `pendingNewPrompt` says that a new-session prompt is
    open. -/
def onSessionAttached (self : WsAgentAdapter) (sessionPath : JsString) (pendingNewPrompt : Bool) : WsAgentAdapter :=
  if self.sessionPath = some sessionPath ∨ self.isVirtual ∧ pendingNewPrompt then
    let self := if self.isVirtual then { self with sessionPath := some sessionPath } else self
    { self with isVirtual := false }.requestFullSessionSync sessionPath false
  else self

/-- The response to a new-session prompt that was sent under the given nonce. -/
def onPromptSettled (self : WsAgentAdapter) (sessionNonce : Nat) (newSessionPath : JsString) : WsAgentAdapter :=
  if self.sessionNonce ≠ sessionNonce ∨ newSessionPath = [] ∨ self.sessionPath.getD [] ≠ [] then self
  else { self with sessionPath := some newSessionPath, isVirtual := false }.requestFullSessionSync newSessionPath false

/-- The tab regains focus. -/
def syncStateOnFocus (self : WsAgentAdapter) : WsAgentAdapter :=
  match self.sessionPath with
  | none => self
  | some sessionPath =>
    if self.sessionSubscriptionActive ∧ sessionPath ≠ [] ∧ ¬ self.isVirtual then
      self.subscribeToSession (some sessionPath) false
    else self

/-- A compaction has ended. -/
def onCompacted (self : WsAgentAdapter) (sessionPath : JsString) : WsAgentAdapter :=
  if self.sessionPath = some sessionPath then self.subscribeToSession (some sessionPath) false else self

/-- A response to a `subscribe_session`, and the `catch` of `subscribeToSession` for an error. -/
def onSubscribeSettled (self : WsAgentAdapter) (id : Nat) (error : Option JsString) : WsAgentAdapter :=
  match self.pendingRequests.find? fun pending => pending.id = id with
  | none => self
  | some pending =>
    let self := { self with pendingRequests := self.pendingRequests.filter fun pending => pending.id ≠ id }
    match error, pending.sessionPath with
    | some error, some sessionPath =>
      if pending.sessionNonce ≠ self.sessionNonce ∨ self.sessionPath ≠ some sessionPath then self
      else if sessionPath ≠ [] ∧ isMissingSessionError error then self.newSession
      else self
    | _, _ => self

/-- `transport.send` threw for the frame that was handed over last: its request is rejected. -/
def onSendRefused (self : WsAgentAdapter) : WsAgentAdapter :=
  match self.transport.outgoing.getLast? with
  | none => self
  | some sent =>
    { self with
      transport := { self.transport with outgoing := self.transport.outgoing.dropLast }
      pendingRequests := self.pendingRequests.filter fun pending => pending.id ≠ sent.id }

def onSubscribeTimedOut (self : WsAgentAdapter) (id : Nat) : WsAgentAdapter :=
  { self with pendingRequests := self.pendingRequests.filter fun pending => pending.id ≠ id }

/-- A request that was made over the old carrier can never complete here. -/
def onReconnected (self : WsAgentAdapter) : WsAgentAdapter :=
  match self.sessionPath with
  | none => self
  | some sessionPath =>
    if self.sessionSubscriptionActive ∧ sessionPath ≠ [] ∧ ¬ self.isVirtual then
      { self with awaitingFullSync := none }.requestFullSessionSync sessionPath false
    else self

/-- The carrier has connected, for the first time or again. -/
def onConnected (self : WsAgentAdapter) : WsAgentAdapter :=
  if self.transport.isConnected then self
  else if self.transport.everConnected then
    { self with transport := { isConnected := true, everConnected := true, outgoing := [] } }.onReconnected
  else
    { self with
      transport := { isConnected := true, everConnected := true, outgoing := [] }
      isVirtual := self.isVirtual || decide (self.sessionPath.getD [] = []) }

/-- Subscriptions are not resumable: their requests are rejected and dropped. -/
def onDisconnected (self : WsAgentAdapter) : WsAgentAdapter :=
  { self with
    transport := { self.transport with isConnected := false, outgoing := [] }
    pendingRequests := [] }

end WsAgentAdapter

/-- What the synchronization reacts to. Frames, settled promises and callbacks come in any order. -/
inductive Event
  | switchSession (sessionPath : JsString) (prefetched : Bool)
  | newSession
  | restoreCachedSessionPreview (sessionPath : JsString) (prefetched : Bool)
  | setSessionSubscriptionActive (active : Bool)
  | sessionSync (message : SessionSyncMessage)
  | frame
  | hashSettled
  | previewSettled (index : Nat) (preview : Option Bool)
  | cacheSettled (index : Nat) (cached : Option (CachedSessionState computeHash))
  | hydrate (index : Nat)
  | sessionAttached (sessionPath : JsString) (pendingNewPrompt : Bool)
  | promptSettled (sessionNonce : Nat) (newSessionPath : JsString)
  | focus
  | compacted (sessionPath : JsString)
  | subscribeSettled (id : Nat) (error : Option JsString)
  | subscribeTimedOut (id : Nat)
  | connected
  | disconnected
  | sendRefused
  | capabilities (contentAddressed segmented sessionCache : Bool)

def step (self : WsAgentAdapter) : Event computeHash → WsAgentAdapter
  | .switchSession sessionPath prefetched => self.switchSession sessionPath prefetched
  | .newSession => self.newSession
  | .restoreCachedSessionPreview sessionPath prefetched => self.restoreCachedSessionPreview sessionPath prefetched
  | .setSessionSubscriptionActive active => self.setSessionSubscriptionActive active
  | .sessionSync message => self.handleSessionSync message
  | .frame => self.onFrame computeHash
  | .hashSettled => self.onHashSettled
  | .previewSettled index preview => self.onPreviewSettled index preview
  | .cacheSettled index cached => self.onCacheSettled index cached
  | .hydrate index => self.onHydrate index
  | .sessionAttached sessionPath pendingNewPrompt => self.onSessionAttached sessionPath pendingNewPrompt
  | .promptSettled sessionNonce newSessionPath => self.onPromptSettled sessionNonce newSessionPath
  | .focus => self.syncStateOnFocus
  | .compacted sessionPath => self.onCompacted sessionPath
  | .subscribeSettled id error => self.onSubscribeSettled id error
  | .subscribeTimedOut id => self.onSubscribeTimedOut id
  | .connected => self.onConnected
  | .disconnected => self.onDisconnected
  | .sendRefused => self.onSendRefused
  | .capabilities contentAddressed segmented sessionCache =>
    { self with
      supportsContentAddressedSync := contentAddressed
      supportsSegmentedSync := segmented
      hasSessionCache := sessionCache }

end

end pipane.ws_agent_adapter

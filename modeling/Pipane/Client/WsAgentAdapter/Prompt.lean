import Mathlib.Logic.Function.Basic
import Pipane.Lib.JsString
import Pipane.Lib.OrderedMap

open javascript

namespace pipane.ws_agent_adapter.prompts

/-- What the user sees: a session, or the virtual view that will create one. Every navigation opens a view. -/
inductive Origin
  | session (sessionPath : JsString)
  | view (view : Nat)
deriving DecidableEq

/-- One input of the user, with what was displayed when it was made. -/
structure Submission where
  id : Nat
  text : JsString
  origin : Origin
deriving DecidableEq

/-- The `sessionPath` of a command; `new` is `"__new__"`. -/
inductive Target
  | new
  | session (sessionPath : JsString)
deriving DecidableEq

inductive CommandType
  | prompt
  | steer
  | fork_prompt
deriving DecidableEq

/-- A command that submits an input, with the view it is sent from. -/
structure ClientCommand where
  type : CommandType
  sessionPath : Target
  message : Submission
  operationId : Option Nat
  view : Nat
deriving DecidableEq

structure Frame where
  id : Nat
  command : ClientCommand
deriving DecidableEq

/-- A key of `_startingPrompts`: `virtual:${nonce}` or a session path. -/
inductive StartKey
  | virtual (sessionNonce : Nat)
  | session (sessionPath : JsString)
deriving DecidableEq

/-- A prompt whose session is starting: what `ready` has resolved with, and whether `finished` has. The view
    and the key are those it was created under. -/
structure StartingPrompt where
  key : StartKey
  view : Nat
  ready : Option (Option JsString)
  finished : Bool

/-- Where a `prompt` is suspended. -/
inductive PromptPhase
  | slashCommand
  | ready (entry : Nat)
  | finished (entry : Nat) (attachedPath : Option JsString)
deriving DecidableEq

structure PromptCall where
  submission : Submission
  phase : PromptPhase
deriving DecidableEq

/-- The data of a successful response. -/
structure ResponseData where
  newSessionPath : Option JsString
  sessionCreated : Bool
deriving DecidableEq

/-- What is left of a function that waits for a response. -/
inductive Continuation
  | promptNew (sessionNonce view : Nat) (key : StartKey) (entry : Nat)
  | promptSession (key : StartKey) (entry : Nat) (sessionPath : JsString)
  | steer
  | forkPrompt (sessionNonce : Nat)
  | flush (batch index : Nat)
  | compact (sessionPath : JsString)
deriving DecidableEq

/-- A request without its response; a `compact` submits no input and has no frame here. -/
structure PendingRequest where
  id : Nat
  frame : Option Frame
  continuation : Continuation
deriving DecidableEq

/-- A command with an operation id is replayed after a reconnection. -/
def PendingRequest.resumable (pending : PendingRequest) : Bool :=
  pending.frame.any fun frame => frame.command.operationId.isSome

/-- A promise that is settled and whose continuation has not run yet; `none` for a rejection. -/
structure Settlement where
  continuation : Continuation
  result : Option ResponseData
deriving DecidableEq

/-- One prompt of a flushed compaction queue, and whether it was accepted. -/
structure FlushItem where
  prompt : Submission
  accepted : Option Bool
deriving DecidableEq

structure FlushBatch where
  sessionPath : JsString
  items : List FlushItem
deriving DecidableEq

def FlushBatch.ofQueue (sessionPath : JsString) (queue : List Submission) : FlushBatch where
  sessionPath := sessionPath
  items := queue.map fun prompt => { prompt, accepted := none }

inductive SessionStatus
  | running
  | done
deriving DecidableEq

/-- A virtual view that has taken over a session. -/
structure Adoption where
  view : Nat
  sessionPath : JsString
deriving DecidableEq

/-- The part of `WsAgentAdapter` that submits input. `isVirtual` is `_sessionStatus === "virtual"`; `view`
    counts the views, `sent` lists the frames that were handed to the carrier the first time. -/
structure WsAgentAdapter where
  isConnected : Bool
  everConnected : Bool
  outgoing : List Frame
  requestId : Nat
  randomUUIDs : Nat
  submissions : Nat
  pendingRequests : List PendingRequest
  settled : List Settlement
  calls : List PromptCall
  sessionPath : Option JsString
  sessionNonce : Nat
  view : Nat
  isVirtual : Bool
  sessionSubscriptionActive : Bool
  pendingNewPrompt : Bool
  hasModel : Bool
  startingPrompts : OrderedMap StartKey Nat
  entries : Nat → StartingPrompt
  entryCount : Nat
  globalSessionStatus : OrderedMap JsString SessionStatus
  compactingSessions : List JsString
  compactionQueues : OrderedMap JsString (List Submission)
  batches : List FlushBatch
  sent : List Frame
  adoptions : List Adoption

/-- A path that JavaScript takes for true. -/
def truthy (sessionPath : Option JsString) : Option JsString :=
  sessionPath.filter (· ≠ [])

/-- The slash commands that `handleSlashCommand` handles. -/
inductive SlashCommand
  | new
  | compact
  | other
deriving DecidableEq

def slashCommand (text : JsString) : Option SlashCommand :=
  let trimmed := trim text
  if trimmed = js "/new" then some .new
  else if trimmed = js "/compact" ∨ js "/compact " <+: trimmed then some .compact
  else if trimmed = js "/help" ∨ trimmed = js "/session" ∨ trimmed = js "/fork" ∨ js "/name " <+: trimmed ∨
      trimmed = js "/reload" then some .other
  else none

namespace WsAgentAdapter

def start : WsAgentAdapter where
  isConnected := false
  everConnected := false
  outgoing := []
  requestId := 0
  randomUUIDs := 0
  submissions := 0
  pendingRequests := []
  settled := []
  calls := []
  sessionPath := none
  sessionNonce := 0
  view := 0
  isVirtual := true
  sessionSubscriptionActive := true
  pendingNewPrompt := false
  hasModel := false
  startingPrompts := ∅
  entries := fun _ => { key := .virtual 0, view := 0, ready := none, finished := false }
  entryCount := 0
  globalSessionStatus := ∅
  compactingSessions := []
  compactionQueues := ∅
  batches := []
  sent := []
  adoptions := []

/-- `resolveReady` of a starting prompt: only the first call counts. -/
def resolveReady (self : WsAgentAdapter) (entry : Nat) (sessionPath : Option JsString) : WsAgentAdapter :=
  let starting := self.entries entry
  { self with
    entries := Function.update self.entries entry { starting with ready := some (starting.ready.getD sessionPath) } }

def createStartingPrompt (self : WsAgentAdapter) (key : StartKey) : WsAgentAdapter :=
  { self with
    startingPrompts := self.startingPrompts.set key self.entryCount
    entries := Function.update self.entries self.entryCount
      { key, view := self.view, ready := none, finished := false }
    entryCount := self.entryCount + 1 }

def finishStartingPrompt (self : WsAgentAdapter) (key : StartKey) (entry : Nat) (attachedPath : Option JsString) :
    WsAgentAdapter :=
  let self := self.resolveReady entry attachedPath
  { self with
    entries := Function.update self.entries entry { self.entries entry with finished := true }
    startingPrompts :=
      if self.startingPrompts.get? key = some entry then self.startingPrompts.erase key else self.startingPrompts }

/-- The prompt that is starting under a key becomes ready. -/
def resolveStarting (self : WsAgentAdapter) (key : StartKey) (sessionPath : JsString) : WsAgentAdapter :=
  match self.startingPrompts.get? key with
  | none => self
  | some entry => self.resolveReady entry (some sessionPath)

def setGlobalSessionStatus (self : WsAgentAdapter) (sessionPath : JsString) (status : SessionStatus) :
    WsAgentAdapter :=
  let self := { self with globalSessionStatus := self.globalSessionStatus.set sessionPath status }
  if status = .running then self.resolveStarting (.session sessionPath) sessionPath else self

def isRunning (self : WsAgentAdapter) (sessionPath : JsString) : Bool :=
  decide (self.globalSessionStatus.get? sessionPath = some .running)

/-- Without a carrier the promise is rejected. -/
def send (self : WsAgentAdapter) (command : ClientCommand) (continuation : Continuation) : WsAgentAdapter :=
  if ¬ self.isConnected then { self with settled := self.settled ++ [{ continuation, result := none }] }
  else
    let frame : Frame := { id := self.requestId + 1, command }
    { self with
      requestId := self.requestId + 1
      pendingRequests := self.pendingRequests ++ [{ id := frame.id, frame := some frame, continuation }]
      outgoing := self.outgoing ++ [frame]
      sent := self.sent ++ [frame] }

/-- `send` for a command with a fresh operation id. -/
def sendOperation (self : WsAgentAdapter) (type : CommandType) (sessionPath : Target) (message : Submission)
    (continuation : Continuation) : WsAgentAdapter :=
  { self with randomUUIDs := self.randomUUIDs + 1 }.send
    { type, sessionPath, message, operationId := some self.randomUUIDs, view := self.view } continuation

def newSession (self : WsAgentAdapter) : WsAgentAdapter :=
  { self with
    sessionSubscriptionActive := true
    sessionNonce := self.sessionNonce + 1
    view := self.view + 1
    pendingNewPrompt := false
    sessionPath := none
    isVirtual := true }

/-- The selection of a session by `switchSession` or `restoreCachedSessionPreview`, which leaves the
    subscription as it is. -/
def selectSession (self : WsAgentAdapter) (sessionPath : JsString) : WsAgentAdapter :=
  { self with
    sessionNonce := self.sessionNonce + 1
    view := self.view + 1
    pendingNewPrompt := false
    sessionPath := some sessionPath
    isVirtual := false }

def switchSession (self : WsAgentAdapter) (sessionPath : JsString) : WsAgentAdapter :=
  { self with sessionSubscriptionActive := true }.selectSession sessionPath

def restoreCachedSessionPreview (self : WsAgentAdapter) (sessionPath : JsString) : WsAgentAdapter :=
  self.selectSession sessionPath

def setSessionSubscriptionActive (self : WsAgentAdapter) (active : Bool) : WsAgentAdapter :=
  if active = self.sessionSubscriptionActive then self
  else { self with sessionSubscriptionActive := active, sessionNonce := self.sessionNonce + 1 }

/-- A virtual view takes over a session. -/
def adopt (self : WsAgentAdapter) (sessionPath : JsString) : WsAgentAdapter :=
  { self with
    sessionPath := some sessionPath
    isVirtual := false
    adoptions := self.adoptions ++ [{ view := self.view, sessionPath }] }

/-- The `session_attached` case of `handleMessage`. -/
def onSessionAttached (self : WsAgentAdapter) (sessionPath : JsString) : WsAgentAdapter :=
  let self := self.setGlobalSessionStatus sessionPath .running
  if self.isVirtual then
    if self.sessionPath = some sessionPath ∨ self.pendingNewPrompt then
      (self.adopt sessionPath).resolveStarting (.virtual self.sessionNonce) sessionPath
    else self
  else self

def enqueueCompactionPrompt (self : WsAgentAdapter) (sessionPath : JsString) (prompt : Submission) :
    WsAgentAdapter :=
  if ¬ self.hasModel then self
  else
    { self with
      compactionQueues := self.compactionQueues.set sessionPath
        ((self.compactionQueues.get? sessionPath).getD [] ++ [prompt]) }

/-- The requests of a flushed queue. They have no operation id. -/
def sendFlushed (self : WsAgentAdapter) (sessionPath : JsString) (batch : Nat) :
    Nat → List Submission → WsAgentAdapter
  | _, [] => self
  | index, prompt :: prompts =>
    (self.send
      { type := .prompt, sessionPath := .session sessionPath, message := prompt, operationId := none,
        view := self.view }
      (.flush batch index)).sendFlushed sessionPath batch (index + 1) prompts

def flushCompactionQueue (self : WsAgentAdapter) (sessionPath : JsString) : WsAgentAdapter :=
  match self.compactionQueues.get? sessionPath with
  | none => self
  | some queue =>
    if queue = [] then self
    else
      let batch := self.batches.length
      let self := { self with
        compactionQueues := self.compactionQueues.erase sessionPath
        batches := self.batches ++ [FlushBatch.ofQueue sessionPath queue] }
      self.sendFlushed sessionPath batch 0 queue

/-- `allSettled` of a flushed queue: what failed goes back to the front. -/
def requeue (self : WsAgentAdapter) (index : Nat) : WsAgentAdapter :=
  match self.batches[index]? with
  | none => self
  | some batch =>
    if ∃ item ∈ batch.items, item.accepted = none then self
    else
      let self := { self with batches := self.batches.set index { batch with items := [] } }
      let failed := (batch.items.filter fun item => item.accepted = some false).map FlushItem.prompt
      if failed = [] then self
      else
        { self with
          compactionQueues := self.compactionQueues.set batch.sessionPath
            (failed ++ (self.compactionQueues.get? batch.sessionPath).getD []) }

/-- `removeSteering` for a prompt that waits for the end of a compaction. -/
def removeQueued (self : WsAgentAdapter) (sessionPath : JsString) (index : Nat) : WsAgentAdapter :=
  let queue := (self.compactionQueues.get? sessionPath).getD []
  if queue.length ≤ index then self
  else
    let next := queue.eraseIdx index
    { self with
      compactionQueues :=
        if next = [] then self.compactionQueues.erase sessionPath else self.compactionQueues.set sessionPath next }

/-- A handled command, with its effect on this part of the adapter. -/
def handleSlashCommand (self : WsAgentAdapter) (text : JsString) : Option WsAgentAdapter :=
  match slashCommand text with
  | none => none
  | some .new => some self.newSession
  | some .other => some self
  | some .compact =>
    match truthy self.sessionPath with
    | none => some self
    | some sessionPath =>
      let self := { self with compactingSessions := self.compactingSessions ++ [sessionPath] }
      if ¬ self.isConnected then
        some { self with settled := self.settled ++ [{ continuation := .compact sessionPath, result := none }] }
      else
        some { self with
          requestId := self.requestId + 1
          pendingRequests := self.pendingRequests ++
            [{ id := self.requestId + 1, frame := none, continuation := .compact sessionPath }] }

/-- `prompt` up to its first await. -/
def prompt (self : WsAgentAdapter) (submission : Submission) : WsAgentAdapter :=
  match self.handleSlashCommand submission.text with
  | some handled => handled
  | none => { self with calls := self.calls ++ [{ submission, phase := .slashCommand }] }

/-- What is displayed. -/
def origin (self : WsAgentAdapter) : Origin :=
  if self.isVirtual then .view self.view else .session (self.sessionPath.getD [])

/-- A new input of the user. -/
def submission (self : WsAgentAdapter) (text : JsString) : Submission where
  id := self.submissions
  text := text
  origin := self.origin

def countSubmission (self : WsAgentAdapter) : WsAgentAdapter :=
  { self with submissions := self.submissions + 1 }

/-- The user calls `prompt`. -/
def callPrompt (self : WsAgentAdapter) (text : JsString) : WsAgentAdapter :=
  self.countSubmission.prompt (self.submission text)

def steer (self : WsAgentAdapter) (text : JsString) : WsAgentAdapter :=
  match truthy self.sessionPath with
  | none => self
  | some sessionPath =>
    if text = [] then self
    else
      let steering := self.submission text
      let self := self.countSubmission
      if sessionPath ∈ self.compactingSessions then self.enqueueCompactionPrompt sessionPath steering
      else if self.isRunning sessionPath then self.sendOperation .steer (.session sessionPath) steering .steer
      else self

def forkAndPrompt (self : WsAgentAdapter) (text : JsString) : WsAgentAdapter :=
  match truthy self.sessionPath with
  | none => self.callPrompt text
  | some sessionPath =>
    if self.isVirtual then self.callPrompt text
    else if ¬ self.hasModel then self
    else
      self.countSubmission.sendOperation .fork_prompt (.session sessionPath) (self.submission text)
        (.forkPrompt self.sessionNonce)

/-- The key under which a prompt from here starts its session. -/
def promptStartKey (self : WsAgentAdapter) : Option StartKey :=
  if self.isVirtual then some (.virtual self.sessionNonce) else self.sessionPath.map .session

/-- The prompt that is starting its session from here. -/
def existingStart (self : WsAgentAdapter) : Option Nat :=
  (self.promptStartKey.filter (· ≠ .session [])).bind self.startingPrompts.get?

/-- The part of `prompt` that starts a turn. -/
def startPrompt (self : WsAgentAdapter) (submission : Submission) : WsAgentAdapter :=
  if ¬ self.hasModel then self
  else
    let key := self.promptStartKey.getD (.virtual self.sessionNonce)
    let entry := self.entryCount
    let self := self.createStartingPrompt key
    if self.isVirtual then
      { self with pendingNewPrompt := true }.sendOperation .prompt .new submission
        (.promptNew self.sessionNonce self.view key entry)
    else
      match truthy self.sessionPath with
      | none => self
      | some sessionPath =>
        self.sendOperation .prompt (.session sessionPath) submission (.promptSession key entry sessionPath)

/-- `prompt` after `handleSlashCommand`: it reads what is displayed now. -/
def afterSlashCommand (self : WsAgentAdapter) (submission : Submission) : WsAgentAdapter :=
  let sessionPath := truthy self.sessionPath
  match sessionPath.filter (· ∈ self.compactingSessions) with
  | some sessionPath => self.enqueueCompactionPrompt sessionPath submission
  | none =>
    match self.existingStart with
    | some entry => { self with calls := self.calls ++ [{ submission, phase := .ready entry }] }
    | none =>
      match sessionPath.filter self.isRunning with
      | some sessionPath => self.sendOperation .steer (.session sessionPath) submission .steer
      | none => self.startPrompt submission

/-- `prompt` after `existingStart.ready`. -/
def afterReady (self : WsAgentAdapter) (submission : Submission) (entry : Nat) (attachedPath : Option JsString) :
    WsAgentAdapter :=
  match (truthy attachedPath).filter self.isRunning with
  | some sessionPath => self.sendOperation .steer (.session sessionPath) submission .steer
  | none => { self with calls := self.calls ++ [{ submission, phase := .finished entry attachedPath }] }

/-- `prompt` after `existingStart.finished`. -/
def afterFinished (self : WsAgentAdapter) (submission : Submission) (attachedPath : Option JsString) :
    WsAgentAdapter :=
  match truthy attachedPath with
  | none => self
  | some _ => self.prompt submission

/-- A suspended `prompt` goes on, once what it waits for is there. -/
def resumeCall (self : WsAgentAdapter) (index : Nat) : WsAgentAdapter :=
  match self.calls[index]? with
  | none => self
  | some call =>
    let resumed := { self with calls := self.calls.eraseIdx index }
    match call.phase with
    | .slashCommand => resumed.afterSlashCommand call.submission
    | .ready entry =>
      match (self.entries entry).ready with
      | none => self
      | some attachedPath => resumed.afterReady call.submission entry attachedPath
    | .finished entry attachedPath =>
      if (self.entries entry).finished then resumed.afterFinished call.submission attachedPath else self

/-- The response to a new-session prompt; `none` for an error. -/
def onPromptNewSettled (self : WsAgentAdapter) (sessionNonce : Nat) (key : StartKey) (entry : Nat)
    (result : Option ResponseData) : WsAgentAdapter :=
  let adopted :=
    match result with
    | none => self
    | some res =>
      if self.sessionNonce ≠ sessionNonce then self
      else
        match truthy res.newSessionPath with
        | none => self
        | some newSessionPath =>
          if res.sessionCreated ∧ truthy self.sessionPath = none then self.adopt newSessionPath else self
  let self := { adopted with pendingNewPrompt := false }
  self.finishStartingPrompt key entry (if self.sessionNonce = sessionNonce then self.sessionPath else none)

def onForkPromptSettled (self : WsAgentAdapter) (sessionNonce : Nat) (result : Option ResponseData) :
    WsAgentAdapter :=
  match result with
  | none => self
  | some data =>
    if self.sessionNonce ≠ sessionNonce then self
    else
      match truthy data.newSessionPath with
      | none => self
      | some newSessionPath => self.switchSession newSessionPath

/-- The `finally` of a compaction. -/
def onCompacted (self : WsAgentAdapter) (sessionPath : JsString) : WsAgentAdapter :=
  { self with compactingSessions := self.compactingSessions.filter (· ≠ sessionPath) }.flushCompactionQueue sessionPath

def onFlushSettled (self : WsAgentAdapter) (batch index : Nat) (result : Option ResponseData) : WsAgentAdapter :=
  { self with
    batches := self.batches.modify batch fun batch =>
      { batch with items := batch.items.modify index fun item => { item with accepted := some result.isSome } } }

/-- The continuation of a settled promise runs. -/
def resume (self : WsAgentAdapter) (index : Nat) : WsAgentAdapter :=
  match self.settled[index]? with
  | none => self
  | some settlement =>
    let self := { self with settled := self.settled.eraseIdx index }
    match settlement.continuation with
    | .promptNew sessionNonce _ key entry => self.onPromptNewSettled sessionNonce key entry settlement.result
    | .promptSession key entry sessionPath => self.finishStartingPrompt key entry (some sessionPath)
    | .steer => self
    | .forkPrompt sessionNonce => self.onForkPromptSettled sessionNonce settlement.result
    | .flush batch index => self.onFlushSettled batch index settlement.result
    | .compact sessionPath => self.onCompacted sessionPath

/-- A request is over: its promise is settled. -/
def settle (self : WsAgentAdapter) (id : Nat) (result : Option ResponseData) : WsAgentAdapter :=
  match self.pendingRequests.find? fun pending => pending.id = id with
  | none => self
  | some pending =>
    { self with
      pendingRequests := self.pendingRequests.filter fun pending => pending.id ≠ id
      settled := self.settled ++ [{ continuation := pending.continuation, result }] }

/-- `transport.send` threw for the frame that was handed over last, in `send` or in a replay. -/
def onSendRefused (self : WsAgentAdapter) (replayed : Bool) : WsAgentAdapter :=
  match self.outgoing.getLast? with
  | none => self
  | some frame =>
    let self := { self with outgoing := self.outgoing.dropLast }
    if replayed then self else self.settle frame.id none

/-- Unresolved operations keep their frame; other requests are rejected. -/
def handleTransportDisconnected (self : WsAgentAdapter) : WsAgentAdapter :=
  { self with
    isConnected := false
    outgoing := []
    pendingRequests := self.pendingRequests.filter fun pending => pending.resumable
    settled := self.settled ++
      (self.pendingRequests.filter fun pending => !pending.resumable).map fun pending =>
        { continuation := pending.continuation, result := none } }

/-- Replay unresolved idempotent operations under their identities. -/
def onReconnected (self : WsAgentAdapter) : WsAgentAdapter :=
  { self with
    isConnected := true
    outgoing := (self.pendingRequests.filter fun pending => pending.resumable).filterMap PendingRequest.frame }

def onConnected (self : WsAgentAdapter) : WsAgentAdapter :=
  if self.isConnected then self
  else if self.everConnected then self.onReconnected
  else
    { self with
      isConnected := true
      everConnected := true
      isVirtual := self.isVirtual || decide (truthy self.sessionPath = none) }

/-- `disconnect`: the adapter is closed. -/
def disconnect (self : WsAgentAdapter) : WsAgentAdapter :=
  { self with
    isConnected := false
    outgoing := []
    pendingRequests := []
    settled := self.settled ++ self.pendingRequests.map fun pending =>
      { continuation := pending.continuation, result := none } }

end WsAgentAdapter

end pipane.ws_agent_adapter.prompts

import Pipane.Server.FrameConnection.Connections
import Pipane.Server.WsHandler.Agreement
import Pipane.Server.WsHandler.Segments

open javascript json pipane.data_channel_framing pipane.frame_connection pipane.jsonl_sync pipane.session_jsonl
open pipane.ws_protocol

namespace pipane.ws_handler

/-- The options of frames that carry a session state. -/
def sessionSyncOptions : FrameSendOptions where
  priority := some .bulk
  transferKey := some ACTIVE_SESSION_SYNC_TRANSFER_KEY

def controlOptions : FrameSendOptions where
  priority := some .control
  transferKey := none

section

variable {σ : Type} (connection : ServerFrameConnection σ)

/-- `sendMessage`: nothing is sent over a connection that is not open. -/
def sendMessage (state : σ) (frame : JsString) (options : FrameSendOptions) : σ × Option String :=
  if ¬ connection.isOpen state then (state, none) else connection.send state frame options

/-- `sendMessage` of a message that is no `session_sync`. -/
def sendControl (state : σ) (payload : ServerMessagePayload) : σ × Option String :=
  sendMessage connection state (encodeServerMessage payload.members) controlOptions

/-- The messages one by one, up to an exception. -/
def sendEach (state : σ) : List SessionSyncMessage → σ × Option String
  | [] => (state, none)
  | payload :: payloads =>
    match sendMessage connection state payload.encode sessionSyncOptions with
    | (state, some error) => (state, some error)
    | (state, none) => sendEach state payloads

def sendInitialSessionSync (state : σ) (payloads : List SessionSyncMessage) : σ × Option String :=
  match connection.sendSequence with
  | none => sendEach connection state payloads
  | some sendSequence =>
    if 1 < payloads.length then sendSequence state (payloads.map SessionSyncMessage.encode) sessionSyncOptions
    else sendEach connection state payloads

end

/-- A `subscribe_session` command with its id. -/
structure SubscribeCommand where
  id : JsString
  command : SubscribeSession

/-- The empty data of the response. -/
def noData : JsonObject where
  members := []
  canonical := canonical_emptyObject

def successResponse (id : JsString) : ServerMessagePayload :=
  .success id .subscribe_session noData

def errorResponse (id error : JsString) : ServerMessagePayload :=
  .failure (some id) (js "subscribe_session") none error

/-- What a subscription meets: what the path confinement makes of the requested path, what the two file-system calls
    observe, the extension statuses of the sessions, and where `pi` is not installed the text that says so. -/
structure Circumstances where
  resolved : Except String JsString
  disk : SessionState
  size : Nat
  extensionStatuses : JsString → OrderedMap JsString JsString
  piMissing : Option (JsString × ServerMessagePayload)

/-- The end of `handleSubscribeSession`: the extension status and the response. -/
def confirm {σ : Type} (connection : ServerFrameConnection σ) (state : σ) (sessionPath : JsString)
    (command : SubscribeCommand) (circumstances : Circumstances) : σ × Option String :=
  match sendControl connection state (.extension_status sessionPath (circumstances.extensionStatuses sessionPath)) with
  | (state, some error) => (state, some error)
  | (state, none) => sendControl connection state (successResponse command.id)

/-- What a command leaves: the handler, the connection, the exception of the handler, and the error that the open
    connection was given as the answer. -/
structure Answered (Ws σ : Type) where
  handler : WsHandler Ws
  connection : σ
  failure : Option String
  error : Option JsString

section

variable {Ws σ : Type} [DecidableEq Ws] (computeHashSync : JsString → JsString) (connection : ServerFrameConnection σ)

namespace WsHandler

/-- The record of a client that subscribes to a state. -/
def subscribed (client : ClientState) (sessionPath json hash : JsString) (version : Nat) : ClientState :=
  { client with subscribedSession := some sessionPath, lastVersion := version, lastJson := json, lastHash := hash }

/-- The record of a client without a subscription. -/
def unsubscribed (client : ClientState) : ClientState :=
  { client with subscribedSession := none, lastVersion := 0, lastJson := [], lastHash := [] }

/-- The state that a subscription publishes, with its version and the handler that read it. -/
def stateToPublish (self : WsHandler Ws) (sessionPath : JsString) (circumstances : Circumstances) :
    SessionState × Nat × WsHandler Ws :=
  match self.attached.get? sessionPath with
  | some session => (session.state, session.version, self)
  | none => (circumstances.disk, 0,
      { self with subscribedFileSizes := self.subscribedFileSizes.set sessionPath circumstances.size })

/-- The rest of `handleSubscribeSession` from the first assignment on. -/
def subscribe (self : WsHandler Ws) (state : σ) (ws : Ws) (client : ClientState) (sessionPath : JsString)
    (command : SubscribeCommand) (circumstances : Circumstances) : WsHandler Ws × σ × Option String :=
  let (published, version, self) := self.stateToPublish sessionPath circumstances
  let hash := computeHashSync published.json
  let client := subscribed client sessionPath published.json hash version
  let (revision, self) := { self with clients := self.clients.set ws client }.revisionForState sessionPath hash
  match makeInitialSessionSync computeHashSync sessionPath published.json hash revision command.command with
  | .error error => (self, state, some error)
  | .ok payloads =>
    match sendInitialSessionSync connection state payloads with
    | (state, some error) => (self, state, some error)
    | (state, none) => (self, confirm connection state sessionPath command circumstances)

/-- `handleSubscribeSession` with what it sends. -/
def runSubscribe (self : WsHandler Ws) (state : σ) (ws : Ws) (command : SubscribeCommand)
    (circumstances : Circumstances) : WsHandler Ws × σ × Option String :=
  match self.clients.get? ws with
  | none => (self, state, none)
  | some client =>
    if command.command.sessionPath = [] then
      match connection.cancel state ACTIVE_SESSION_SYNC_TRANSFER_KEY with
      | (state, some error) => (self, state, some error)
      | (state, none) =>
        let sent := sendControl connection state (successResponse command.id)
        ({ self with clients := self.clients.set ws (unsubscribed client) }, sent.1, sent.2)
    else
      match circumstances.resolved with
      | .error error => (self, state, some error)
      | .ok sessionPath =>
        match connection.cancel state ACTIVE_SESSION_SYNC_TRANSFER_KEY with
        | (state, some error) => (self, state, some error)
        | (state, none) => self.subscribe computeHashSync connection state ws client sessionPath command circumstances

/-- `sendError`, with the answer that an open connection was given. -/
def sendError (self : WsHandler Ws) (state : σ) (command : SubscribeCommand) (failure : Option String)
    (error : JsString) : Answered Ws σ where
  handler := self
  connection := (sendControl connection state (errorResponse command.id error)).1
  failure := failure
  error := if connection.isOpen state then some error else none

/-- What `handleMessage` does with the exception of a handler. -/
def answer (command : SubscribeCommand) : WsHandler Ws × σ × Option String → Answered Ws σ
  | (self, state, some error) => self.sendError connection state command (some error) (js error)
  | (self, state, none) => { handler := self, connection := state, failure := none, error := none }

/-- `handleMessage` of a `subscribe_session` command. -/
def handleSubscribe (self : WsHandler Ws) (state : σ) (ws : Ws) (command : SubscribeCommand)
    (circumstances : Circumstances) : Answered Ws σ :=
  match circumstances.piMissing with
  | some (text, payload) =>
    match sendControl connection state payload with
    | (state, some error) => self.sendError connection state command (some error) (js error)
    | (state, none) => self.sendError connection state command none text
  | none =>
    answer connection command (self.runSubscribe computeHashSync connection state ws command circumstances)

end WsHandler

end

section

variable {Ws : Type} [DecidableEq Ws] {computeHashSync : JsString → JsString}

/-- A connection that throws is closed. -/
structure ClosesOnThrow {σ : Type} (connection : ServerFrameConnection σ) : Prop where
  send : ∀ {state frame options error}, (connection.send state frame options).2 = some error →
    connection.isOpen (connection.send state frame options).1 = false
  sendSequence : ∀ {sendSequence state frames error}, connection.sendSequence = some sendSequence →
    (sendSequence state frames sessionSyncOptions).2 = some error →
      connection.isOpen (sendSequence state frames sessionSyncOptions).1 = false

theorem closesOnThrow (route : Route) : ClosesOnThrow route.connection where
  send h := route.isOpen_send_error h
  sendSequence {sendSequence state frames error} hsome h := by
    cases route with
    | webSocket =>
      cases hsome
      exact isOpen_sendSequence_error rfl h
    | application => cases hsome

section

variable {σ : Type} {connection : ServerFrameConnection σ} (hcloses : ClosesOnThrow connection)

include hcloses

theorem isOpen_sendMessage_error {state : σ} {frame : JsString} {options : FrameSendOptions} {error : String}
    (h : (sendMessage connection state frame options).2 = some error) :
    connection.isOpen (sendMessage connection state frame options).1 = false := by
  unfold sendMessage at h ⊢
  split at h
  · cases h
  · rename_i hopen
    rw [if_neg hopen]
    exact hcloses.send h

theorem isOpen_sendControl_error {state : σ} {payload : ServerMessagePayload} {error : String}
    (h : (sendControl connection state payload).2 = some error) :
    connection.isOpen (sendControl connection state payload).1 = false :=
  isOpen_sendMessage_error hcloses h

theorem isOpen_sendEach_error {payloads : List SessionSyncMessage} {state : σ} {error : String}
    (h : (sendEach connection state payloads).2 = some error) :
    connection.isOpen (sendEach connection state payloads).1 = false := by
  induction payloads generalizing state with
  | nil => cases h
  | cons payload payloads ih =>
    rw [sendEach] at h ⊢
    split at h
    · rename_i hsent
      have hclosed := isOpen_sendMessage_error hcloses (congrArg Prod.snd hsent)
      rw [hsent] at hclosed
      exact hclosed
    · exact ih h

theorem isOpen_sendInitialSessionSync_error {payloads : List SessionSyncMessage} {state : σ} {error : String}
    (h : (sendInitialSessionSync connection state payloads).2 = some error) :
    connection.isOpen (sendInitialSessionSync connection state payloads).1 = false := by
  unfold sendInitialSessionSync at h ⊢
  split at h
  · exact isOpen_sendEach_error hcloses h
  · rename_i hsome
    split at h
    · rename_i hlong
      rw [if_pos hlong]
      exact hcloses.sendSequence hsome h
    · rename_i hshort
      rw [if_neg hshort]
      exact isOpen_sendEach_error hcloses h

theorem isOpen_confirm_error {state : σ} {sessionPath : JsString} {command : SubscribeCommand}
    {circumstances : Circumstances} {error : String}
    (h : (confirm connection state sessionPath command circumstances).2 = some error) :
    connection.isOpen (confirm connection state sessionPath command circumstances).1 = false := by
  unfold confirm at h ⊢
  split at h
  · rename_i hsent
    have hclosed := isOpen_sendControl_error hcloses (congrArg Prod.snd hsent)
    rw [hsent] at hclosed
    exact hclosed
  · exact isOpen_sendControl_error hcloses h

end

/-- Why `makeInitialSessionSync` throws for a state. -/
theorem makeInitialSessionSync_error_iff {computeHashSync : JsString → JsString} {sessionPath hash : JsString}
    {revision : Nat} {state : SessionState} {command : SubscribeSession} :
    (∃ error, makeInitialSessionSync computeHashSync sessionPath state.json hash revision command = .error error) ↔
      command.cachedStateHash ≠ some hash ∧ command.segmentedContent = true ∧ ∃ known,
        command.knownMessageHashes = some known ∧
          ¬ Sendable computeHashSync sessionPath revision hash known state := by
  constructor
  · rintro ⟨error, herror⟩
    by_cases hstale : command.cachedStateHash = some hash
    · rw [makeInitialSessionSync, if_pos hstale] at herror
      cases herror
    · refine ⟨hstale, ?_⟩
      cases hknown : command.knownMessageHashes with
      | none =>
        rw [makeInitialSessionSync, if_neg hstale] at herror
        simp only [hknown] at herror
        cases herror
      | some known =>
        by_cases hsegmented : command.segmentedContent = true
        · refine ⟨hsegmented, known, rfl, fun hsendable => ?_⟩
          obtain ⟨batches, hmake, -⟩ := makeInitialSessionSync_sendable hstale hknown hsegmented hsendable
          rw [hmake] at herror
          cases herror
        · rw [makeInitialSessionSync, if_neg hstale] at herror
          simp only [hknown, stateParts_json] at herror
          rw [if_neg hsegmented] at herror
          cases herror
  · rintro ⟨hstale, hsegmented, known, hknown, hrefused⟩
    exact makeInitialSessionSync_refused hstale hknown hsegmented hrefused

namespace WsHandler

variable {Ws : Type} [DecidableEq Ws] (computeHashSync : JsString → JsString)

/-- What a client's record says about the state that it has. -/
def record (client : ClientState) : Option JsString × JsString × JsString :=
  (client.subscribedSession, client.lastJson, client.lastHash)

/-- The record of a client is as it was, or the one of a client without a subscription. -/
def KeepsRecord (before after : WsHandler Ws) (ws : Ws) : Prop :=
  ∀ client, before.clients.get? ws = some client → ∃ next, after.clients.get? ws = some next ∧
    (record next = record client ∨ record next = (none, [], []))

/-- The record that a subscription to a session sets, and the revision of its state. -/
def publishedRecord (self : WsHandler Ws) (sessionPath : JsString) (circumstances : Circumstances) :
    Option JsString × JsString × JsString :=
  let published := (self.stateToPublish sessionPath circumstances).1
  (some sessionPath, published.json, computeHashSync published.json)

def publishedRevision (self : WsHandler Ws) (sessionPath : JsString) (circumstances : Circumstances) : Nat :=
  (self.revisionForState sessionPath (computeHashSync (self.stateToPublish sessionPath circumstances).1.json)).1

/-- A client with another record subscribes, over a connection that survives the cancellation of the transfer before,
    to a session with a state that a segmented answer cannot carry. -/
def SubscribesUnsendable {σ : Type} (connection : ServerFrameConnection σ) (self : WsHandler Ws) (state : σ) (ws : Ws)
    (command : SubscribeCommand) (circumstances : Circumstances) : Prop :=
  circumstances.piMissing = none ∧
  (connection.cancel state ACTIVE_SESSION_SYNC_TRANSFER_KEY).2 = none ∧
  connection.isOpen (connection.cancel state ACTIVE_SESSION_SYNC_TRANSFER_KEY).1 = true ∧
  command.command.sessionPath ≠ [] ∧ ∃ client sessionPath known,
    self.clients.get? ws = some client ∧ circumstances.resolved = .ok sessionPath ∧
    record client ≠ publishedRecord computeHashSync self sessionPath circumstances ∧
    command.command.cachedStateHash ≠
      some (computeHashSync (self.stateToPublish sessionPath circumstances).1.json) ∧
    command.command.segmentedContent = true ∧ command.command.knownMessageHashes = some known ∧
    ¬ Sendable computeHashSync sessionPath (publishedRevision computeHashSync self sessionPath circumstances)
      (computeHashSync (self.stateToPublish sessionPath circumstances).1.json) known
      (self.stateToPublish sessionPath circumstances).1

variable {computeHashSync}

section

variable {σ : Type} {connection : ServerFrameConnection σ} {self : WsHandler Ws} {state : σ} {ws : Ws}
  {client : ClientState} {sessionPath : JsString} {command : SubscribeCommand} {circumstances : Circumstances}

theorem clients_stateToPublish : (self.stateToPublish sessionPath circumstances).2.2.clients = self.clients := by
  unfold stateToPublish
  split
  · rfl
  · rfl

theorem sessionRevisions_stateToPublish :
    (self.stateToPublish sessionPath circumstances).2.2.sessionRevisions = self.sessionRevisions := by
  unfold stateToPublish
  split
  · rfl
  · rfl

theorem revisionForState_congr {handler other : WsHandler Ws} (h : handler.sessionRevisions = other.sessionRevisions)
    (sessionPath hash : JsString) :
    (handler.revisionForState sessionPath hash).1 = (other.revisionForState sessionPath hash).1 := by
  unfold revisionForState
  rw [h]
  split
  · split
    · rfl
    · rfl
  · rfl

theorem handler_subscribe :
    (self.subscribe computeHashSync connection state ws client sessionPath command circumstances).1 =
      ({ (self.stateToPublish sessionPath circumstances).2.2 with
        clients := (self.stateToPublish sessionPath circumstances).2.2.clients.set ws (subscribed client sessionPath
          (self.stateToPublish sessionPath circumstances).1.json
          (computeHashSync (self.stateToPublish sessionPath circumstances).1.json)
          (self.stateToPublish sessionPath circumstances).2.1) }.revisionForState sessionPath
        (computeHashSync (self.stateToPublish sessionPath circumstances).1.json)).2 := by
  unfold subscribe
  simp only
  split
  · rfl
  · split
    · rfl
    · rfl

theorem handler_publishInitial {json hash : JsString} {version : Nat} {command : SubscribeSession} :
    (self.publishInitial computeHashSync ws client sessionPath json hash version command).handler =
      ({ self with clients := self.clients.set ws (subscribed client sessionPath json hash version) }.revisionForState
        sessionPath hash).2 := by
  unfold publishInitial
  simp only
  split
  · rfl
  · rfl

theorem clients_subscribe :
    ∃ next, (self.subscribe computeHashSync connection state ws client sessionPath command circumstances).1.clients =
      self.clients.set ws next ∧ record next = publishedRecord computeHashSync self sessionPath circumstances := by
  refine ⟨subscribed client sessionPath (self.stateToPublish sessionPath circumstances).1.json
    (computeHashSync (self.stateToPublish sessionPath circumstances).1.json)
    (self.stateToPublish sessionPath circumstances).2.1, ?_, rfl⟩
  rw [handler_subscribe, clients_revisionForState, clients_stateToPublish]

theorem keepsRecord_subscribe (computeHashSync : JsString → JsString) (connection : ServerFrameConnection σ) (state : σ)
    (sessionPath : JsString) (command : SubscribeCommand) (circumstances : Circumstances)
    (hclient : self.clients.get? ws = some client) :
    KeepsRecord self (self.subscribe computeHashSync connection state ws client sessionPath command circumstances).1 ws ↔
      record client = publishedRecord computeHashSync self sessionPath circumstances := by
  obtain ⟨next, hclients, hrecord⟩ :
      ∃ next, (self.subscribe computeHashSync connection state ws client sessionPath command circumstances).1.clients =
        self.clients.set ws next ∧ record next = publishedRecord computeHashSync self sessionPath circumstances :=
    clients_subscribe
  have hnext : (self.subscribe computeHashSync connection state ws client sessionPath command
      circumstances).1.clients.get? ws = some next := by
    rw [hclients, OrderedMap.get?_set_self]
  constructor
  · intro hkeeps
    obtain ⟨other, hother, hsame | hnone⟩ := hkeeps client hclient
    · rw [hnext] at hother
      cases hother
      rw [← hsame, hrecord]
    · rw [hnext] at hother
      cases hother
      rw [hrecord] at hnone
      cases hnone
  · intro hsame before hbefore
    rw [hclient] at hbefore
    cases hbefore
    exact ⟨next, hnext, .inl (hrecord.trans hsame.symm)⟩

/-- A subscription that fails over a connection that stays open is one whose answer was refused. -/
theorem subscribe_fails (hcloses : ClosesOnThrow connection) :
    ((∃ error, (self.subscribe computeHashSync connection state ws client sessionPath command circumstances).2.2 =
        some error) ∧
      connection.isOpen
        (self.subscribe computeHashSync connection state ws client sessionPath command circumstances).2.1 = true) ↔
    connection.isOpen state = true ∧ ∃ error, makeInitialSessionSync computeHashSync sessionPath
      (self.stateToPublish sessionPath circumstances).1.json
      (computeHashSync (self.stateToPublish sessionPath circumstances).1.json)
      (publishedRevision computeHashSync self sessionPath circumstances) command.command = .error error := by
  have hrevision : ({ (self.stateToPublish sessionPath circumstances).2.2 with
      clients := (self.stateToPublish sessionPath circumstances).2.2.clients.set ws (subscribed client sessionPath
        (self.stateToPublish sessionPath circumstances).1.json
        (computeHashSync (self.stateToPublish sessionPath circumstances).1.json)
        (self.stateToPublish sessionPath circumstances).2.1) }.revisionForState sessionPath
      (computeHashSync (self.stateToPublish sessionPath circumstances).1.json)).1 =
        publishedRevision computeHashSync self sessionPath circumstances := by
    refine revisionForState_congr ?_ _ _
    exact sessionRevisions_stateToPublish
  unfold subscribe
  simp only [hrevision]
  cases makeInitialSessionSync computeHashSync sessionPath (self.stateToPublish sessionPath circumstances).1.json
      (computeHashSync (self.stateToPublish sessionPath circumstances).1.json)
      (publishedRevision computeHashSync self sessionPath circumstances) command.command with
  | error error =>
    exact ⟨fun h => ⟨h.2, error, rfl⟩, fun h => ⟨⟨error, rfl⟩, h.1⟩⟩
  | ok payloads =>
    simp only
    refine iff_of_false ?_ ?_
    · rintro ⟨⟨error, hfailure⟩, hopen⟩
      split at hfailure
      · rename_i hsent
        have hclosed := isOpen_sendInitialSessionSync_error hcloses (congrArg Prod.snd hsent)
        rw [hsent] at hclosed hopen
        rw [hclosed] at hopen
        cases hopen
      · rename_i hsent
        rw [hsent] at hopen
        have hclosed := isOpen_confirm_error hcloses hfailure
        rw [hclosed] at hopen
        cases hopen
    · rintro ⟨-, error, herror⟩
      cases herror

theorem runSubscribe_subscribe {before : σ} (hclient : self.clients.get? ws = some client)
    (hpath : command.command.sessionPath ≠ []) (hresolved : circumstances.resolved = .ok sessionPath)
    (hcancel : connection.cancel before ACTIVE_SESSION_SYNC_TRANSFER_KEY = (state, none)) :
    self.runSubscribe computeHashSync connection before ws command circumstances =
      self.subscribe computeHashSync connection state ws client sessionPath command circumstances := by
  unfold runSubscribe
  rw [hclient]
  simp only
  rw [if_neg hpath, hresolved]
  simp only [hcancel]

/-- The handler is the one that a subscription leaves whatever becomes of its messages. -/
theorem runSubscribe_refines (hcancel : (connection.cancel state ACTIVE_SESSION_SYNC_TRANSFER_KEY).2 = none) :
    (self.runSubscribe computeHashSync connection state ws command circumstances).1 =
      (self.handleSubscribeSession computeHashSync ws command.command circumstances.resolved.toOption circumstances.disk
        circumstances.size).handler := by
  obtain ⟨next, hnext⟩ : ∃ next, connection.cancel state ACTIVE_SESSION_SYNC_TRANSFER_KEY = (next, none) :=
    ⟨_, Prod.ext rfl hcancel⟩
  unfold runSubscribe handleSubscribeSession
  cases self.clients.get? ws with
  | none => rfl
  | some client =>
    simp only [hnext]
    split
    · rfl
    · cases circumstances.resolved with
      | error error => rfl
      | ok sessionPath =>
        simp only [Except.toOption, handler_subscribe]
        unfold stateToPublish
        cases self.attached.get? sessionPath with
        | some session => rw [handler_publishInitial]; rfl
        | none => rw [handler_publishInitial]; rfl

theorem handler_answer (result : WsHandler Ws × σ × Option String) :
    (answer connection command result).handler = result.1 := by
  obtain ⟨handler, state, _ | error⟩ := result
  · rfl
  · rfl

omit [DecidableEq Ws] in
theorem error_answer (result : WsHandler Ws × σ × Option String) :
    (answer connection command result).error.isSome = true ↔
      (∃ error, result.2.2 = some error) ∧ connection.isOpen result.2.1 = true := by
  obtain ⟨handler, state, _ | error⟩ := result
  · refine iff_of_false Bool.noConfusion ?_
    rintro ⟨⟨error, herror⟩, -⟩
    cases herror
  · rw [answer, sendError]
    simp only
    split
    · rename_i hopen
      exact iff_of_true rfl ⟨⟨error, rfl⟩, hopen⟩
    · rename_i hclosed
      exact iff_of_false Bool.noConfusion fun h => hclosed h.2

theorem keepsRecord_self : KeepsRecord self self ws := by
  intro client hclient
  exact ⟨client, hclient, .inl rfl⟩

end

/-- A subscription that is answered with an error leaves the record of the client as it was, or without a subscription,
    exactly unless its state cannot be sent. -/
theorem atomic_subscribe_iff (route : Route) (self : WsHandler Ws) (carrier : Carrier) (ws : Ws)
    (command : SubscribeCommand) (circumstances : Circumstances) :
    ((self.handleSubscribe computeHashSync route.connection carrier ws command circumstances).error.isSome →
      KeepsRecord self (self.handleSubscribe computeHashSync route.connection carrier ws command circumstances).handler
        ws) ↔
    ¬ SubscribesUnsendable computeHashSync route.connection self carrier ws command circumstances := by
  have hcloses := closesOnThrow route
  unfold handleSubscribe
  cases hmissing : circumstances.piMissing with
  | some missing =>
    obtain ⟨text, payload⟩ := missing
    refine iff_of_true (fun _ => ?_) fun h => by rw [h.1] at hmissing; cases hmissing
    simp only
    split
    · exact keepsRecord_self
    · exact keepsRecord_self
  | none =>
    simp only
    unfold runSubscribe
    cases hclient : self.clients.get? ws with
    | none =>
      refine iff_of_true (fun h => ?_) ?_
      · cases h
      · rintro ⟨-, -, -, -, client, sessionPath, known, hfound, -⟩
        rw [hclient] at hfound
        cases hfound
    | some client =>
      simp only
      by_cases hempty : command.command.sessionPath = []
      · rw [if_pos hempty]
        refine iff_of_true (fun _ => ?_) fun h => h.2.2.2.1 hempty
        rw [handler_answer]
        split
        · exact keepsRecord_self
        · intro before hbefore
          exact ⟨unsubscribed client, OrderedMap.get?_set_self _ _ _, .inr rfl⟩
      · rw [if_neg hempty]
        cases hresolved : circumstances.resolved with
        | error error =>
          refine iff_of_true (fun _ => keepsRecord_self) ?_
          rintro ⟨-, -, -, -, _, _, _, -, hfound, -⟩
          rw [hresolved] at hfound
          cases hfound
        | ok sessionPath =>
          simp only
          cases hcancel : (route.connection.cancel carrier ACTIVE_SESSION_SYNC_TRANSFER_KEY).2 with
          | some error =>
            refine iff_of_true (fun _ => ?_) ?_
            · rw [handler_answer]
              split
              · exact keepsRecord_self
              · rename_i hcancelled
                rw [hcancelled] at hcancel
                cases hcancel
            · rintro ⟨-, hfound, -⟩
              rw [hcancel] at hfound
              cases hfound
          | none =>
            obtain ⟨state, hstate⟩ : ∃ state,
                route.connection.cancel carrier ACTIVE_SESSION_SYNC_TRANSFER_KEY = (state, none) :=
              ⟨_, Prod.ext rfl hcancel⟩
            simp only [hstate]
            rw [handler_answer, error_answer, subscribe_fails hcloses, makeInitialSessionSync_error_iff]
            have hkeeps := keepsRecord_subscribe computeHashSync route.connection state sessionPath command circumstances
              hclient
            constructor
            · rintro h ⟨-, -, hopen, -, found, path, known, hfound, hpath, hother, hstale, hsegmented, hknown, hunsendable⟩
              rw [hclient] at hfound
              cases hfound
              rw [hresolved] at hpath
              cases hpath
              rw [hstate] at hopen
              exact hother (hkeeps.mp (h ⟨hopen, hstale, hsegmented, known, hknown, hunsendable⟩))
            · rintro h ⟨hopen, hstale, hsegmented, known, hknown, hunsendable⟩
              refine hkeeps.mpr (by_contra fun hother => h ?_)
              refine ⟨hmissing, hcancel, ?_, hempty, client, sessionPath, known, hclient, hresolved, hother, hstale, hsegmented,
                hknown, hunsendable⟩
              rw [hstate]
              exact hopen

end WsHandler

end

namespace WsHandler

/-- One client without a subscription, and an attached session of ten million short messages. -/
private def crowdedHandler : WsHandler Nat :=
  { (start : WsHandler Nat).acceptConnection 0 with
    attached := (∅ : OrderedMap JsString SessionJsonl).set (js "/sessions/a.jsonl")
      { state := crowdedState 10000000, version := 1 } }

private def crowdedCommand : SubscribeCommand where
  id := js "1"
  command := segmentedSubscription

private def existingPath : Circumstances where
  resolved := .ok (js "/sessions/a.jsonl")
  disk := crowdedState 0
  size := 0
  extensionStatuses := fun _ => ∅
  piMissing := none

/-- A segmented subscription to a state of 300 megabytes is answered with an error, and the client is subscribed to a
    state that it never received. -/
theorem refused_state_recorded :
    ¬ ((crowdedHandler.handleSubscribe sha256js Route.webSocket.connection (.fresh (js "w") []) 0 crowdedCommand
        existingPath).error.isSome →
      KeepsRecord crowdedHandler (crowdedHandler.handleSubscribe sha256js Route.webSocket.connection (.fresh (js "w") [])
        0 crowdedCommand existingPath).handler 0) := by
  obtain ⟨client, hclient, hnone⟩ : ∃ client, crowdedHandler.clients.get? 0 = some client ∧
      client.subscribedSession = none :=
    ⟨_, OrderedMap.get?_set_self _ _ _, rfl⟩
  have hpublished : (crowdedHandler.stateToPublish (js "/sessions/a.jsonl") existingPath).1 = crowdedState 10000000 := by
    unfold stateToPublish
    rw [crowdedHandler, OrderedMap.get?_set_self]
  obtain ⟨carrier, hcancel, hopen⟩ : ∃ carrier, Route.webSocket.connection.cancel (.fresh (js "w") [])
      ACTIVE_SESSION_SYNC_TRANSFER_KEY = (carrier, none) ∧ Route.webSocket.connection.isOpen carrier = true :=
    ⟨_, rfl, rfl⟩
  have hpath : crowdedCommand.command.sessionPath ≠ [] := by decide
  have hhandle : crowdedHandler.handleSubscribe sha256js Route.webSocket.connection (.fresh (js "w") []) 0 crowdedCommand
      existingPath = answer Route.webSocket.connection crowdedCommand (crowdedHandler.subscribe sha256js
        Route.webSocket.connection carrier 0 client (js "/sessions/a.jsonl") crowdedCommand existingPath) := by
    rw [← runSubscribe_subscribe hclient hpath rfl hcancel]
    rfl
  have hunsendable : ¬ Sendable sha256js (js "/sessions/a.jsonl")
      (publishedRevision sha256js crowdedHandler (js "/sessions/a.jsonl") existingPath)
      (sha256js (crowdedHandler.stateToPublish (js "/sessions/a.jsonl") existingPath).1.json) []
      (crowdedHandler.stateToPublish (js "/sessions/a.jsonl") existingPath).1 := by
    intro h
    have hsize := h.size
    have hlarge : 30 * 9999999 ≤ byteLength (crowdedState 10000000).json := (byteLength_crowded 9999999).1
    rw [hpublished, MAX_SEGMENTED_SESSION_SYNC_BYTES] at hsize
    omega
  rw [hhandle, handler_answer, error_answer, subscribe_fails (closesOnThrow _), makeInitialSessionSync_error_iff,
    keepsRecord_subscribe _ _ _ _ _ _ hclient]
  intro hatomic
  have hsame := hatomic ⟨hopen, (Option.some_ne_none _).symm, rfl, [], rfl, hunsendable⟩
  have hsession : client.subscribedSession = some (js "/sessions/a.jsonl") := congrArg Prod.fst hsame
  rw [hnone] at hsession
  cases hsession

end WsHandler

end pipane.ws_handler

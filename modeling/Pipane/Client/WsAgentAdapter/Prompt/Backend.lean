import Pipane.Client.WsAgentAdapter.Prompt
import Pipane.Lib.Transition
import Pipane.Server.WsHandler.ControlOperations

open javascript transition pipane.ws_handler

namespace pipane.ws_agent_adapter.prompts

/-- A handler that runs for a command, and whether it has passed the input to the Pi process. -/
structure Execution where
  frame : Frame
  dispatched : Bool
deriving DecidableEq

/-- A session that the server created for a command. -/
structure CreatedSession where
  frame : Frame
  sessionPath : JsString
deriving DecidableEq

/-- The server: its receipts, its running handlers, and what it has done. -/
structure Backend where
  controlOperations : ControlOperations Nat ClientCommand
  executions : List Execution
  taken : List Nat
  dispatched : List Frame
  created : List CreatedSession

namespace Backend

def start : Backend where
  controlOperations := ∅
  executions := []
  taken := []
  dispatched := []
  created := []

/-- A command arrives. -/
def receive (self : Backend) (frame : Frame) : Backend :=
  let admitted := self.controlOperations.runIdempotentControl frame.command.operationId frame.command
  let self := { self with controlOperations := admitted.2 }
  if admitted.1 = .executed then
    { self with
      executions := self.executions ++ [{ frame, dispatched := false }]
      taken := self.taken ++ frame.command.operationId.toList }
  else self

/-- A handler creates the session of a new-session prompt or of a fork, under a fresh path. -/
def create (self : Backend) (index : Nat) (sessionPath : JsString) : Backend :=
  match self.executions[index]? with
  | none => self
  | some execution =>
    if sessionPath ∈ self.created.map CreatedSession.sessionPath ∨
        ¬ (execution.frame.command.sessionPath = .new ∨ execution.frame.command.type = .fork_prompt) then self
    else { self with created := self.created ++ [{ frame := execution.frame, sessionPath }] }

/-- A handler passes its input to the Pi process, as a prompt or as steering. -/
def dispatch (self : Backend) (index : Nat) : Backend :=
  match self.executions[index]? with
  | none => self
  | some execution =>
    if execution.dispatched then self
    else
      { self with
        executions := self.executions.set index { execution with dispatched := true }
        dispatched := self.dispatched ++ [execution.frame] }

/-- A handler ends. -/
def settle (self : Backend) (index : Nat) : Backend :=
  match self.executions[index]? with
  | none => self
  | some execution =>
    { self with
      executions := self.executions.eraseIdx index
      controlOperations := self.controlOperations.onSettled execution.frame.command.operationId }

@[simp] theorem receive_created (self : Backend) (frame : Frame) : (self.receive frame).created = self.created := by
  unfold receive
  extract_lets admitted next
  split
  · rfl
  · rfl

@[simp] theorem dispatch_created (self : Backend) (index : Nat) : (self.dispatch index).created = self.created := by
  rw [dispatch]
  split
  · rfl
  · split
    · rfl
    · rfl

@[simp] theorem settle_created (self : Backend) (index : Nat) : (self.settle index).created = self.created := by
  rw [settle]
  split
  · rfl
  · rfl

end Backend

structure System where
  client : WsAgentAdapter
  backend : Backend

/-- The user, the settled promises, the carrier and the server act in any order. -/
inductive Event
  | callPrompt (text : JsString)
  | steer (text : JsString)
  | forkAndPrompt (text : JsString)
  | removeQueued (sessionPath : JsString) (index : Nat)
  | newSession
  | switchSession (sessionPath : JsString)
  | restoreCachedSessionPreview (sessionPath : JsString)
  | setSessionSubscriptionActive (active : Bool)
  | modelChanged (hasModel : Bool)
  | resumeCall (index : Nat)
  | resume (index : Nat)
  | requeue (index : Nat)
  | sessionStatusChange (sessionPath : JsString) (status : SessionStatus)
  | allSessionStatuses (statuses : OrderedMap JsString SessionStatus)
  | sessionAttached (sessionPath : JsString)
  | responseArrives (id : Nat) (result : Option ResponseData)
  | timedOut (id : Nat)
  | sendRefused (replayed : Bool)
  | connected
  | disconnected
  | closed
  | serverReceives
  | serverCreates (index : Nat) (sessionPath : JsString)
  | serverDispatches (index : Nat)
  | serverSettles (index : Nat)

/-- The session that a virtual view asked for, and no other command. -/
def CreatedBy (created : List CreatedSession) (view : Nat) (sessionPath : JsString) : Prop :=
  ∃ session ∈ created, session.sessionPath = sessionPath ∧ session.frame.command.sessionPath = .new ∧
    session.frame.command.view = view

/-- A response to a new-session prompt names the session that the server created for it. -/
def MayAnswer (created : List CreatedSession) (pending : PendingRequest) (data : ResponseData) : Prop :=
  ∀ frame ∈ pending.frame, frame.command.sessionPath = .new → ∀ sessionPath ∈ data.newSessionPath,
    { frame, sessionPath } ∈ created

instance (created : List CreatedSession) (pending : PendingRequest) (data : ResponseData) :
    Decidable (MayAnswer created pending data) :=
  inferInstanceAs (Decidable (∀ frame ∈ pending.frame, _ → ∀ sessionPath ∈ data.newSessionPath, _))

namespace System

def start : System where
  client := .start
  backend := .start

/-- A response arrives, which the server may have sent. -/
def respond (self : System) (id : Nat) (result : Option ResponseData) : System :=
  match self.client.pendingRequests.find? fun pending => pending.id = id with
  | none => self
  | some pending =>
    if ∃ data ∈ result, ¬ MayAnswer self.backend.created pending data then self
    else { self with client := self.client.settle id result }

def step (self : System) : Event → System
  | .callPrompt text => { self with client := self.client.callPrompt text }
  | .steer text => { self with client := self.client.steer text }
  | .forkAndPrompt text => { self with client := self.client.forkAndPrompt text }
  | .removeQueued sessionPath index => { self with client := self.client.removeQueued sessionPath index }
  | .newSession => { self with client := self.client.newSession }
  | .switchSession sessionPath => { self with client := self.client.switchSession sessionPath }
  | .restoreCachedSessionPreview sessionPath =>
    { self with client := self.client.restoreCachedSessionPreview sessionPath }
  | .setSessionSubscriptionActive active => { self with client := self.client.setSessionSubscriptionActive active }
  | .modelChanged hasModel => { self with client := { self.client with hasModel } }
  | .resumeCall index => { self with client := self.client.resumeCall index }
  | .resume index => { self with client := self.client.resume index }
  | .requeue index => { self with client := self.client.requeue index }
  | .sessionStatusChange sessionPath status =>
    { self with client := self.client.setGlobalSessionStatus sessionPath status }
  | .allSessionStatuses statuses => { self with client := { self.client with globalSessionStatus := statuses } }
  | .sessionAttached sessionPath =>
    if sessionPath ∈ self.backend.created.map CreatedSession.sessionPath then
      { self with client := self.client.onSessionAttached sessionPath }
    else self
  | .responseArrives id result => self.respond id result
  | .timedOut id => if self.client.isConnected then { self with client := self.client.settle id none } else self
  | .sendRefused replayed => { self with client := self.client.onSendRefused replayed }
  | .connected => { self with client := self.client.onConnected }
  | .disconnected => { self with client := self.client.handleTransportDisconnected }
  | .closed => { self with client := self.client.disconnect }
  | .serverReceives =>
    match self.client.outgoing with
    | [] => self
    | frame :: outgoing =>
      { client := { self.client with outgoing }, backend := self.backend.receive frame }
  | .serverCreates index sessionPath => { self with backend := self.backend.create index sessionPath }
  | .serverDispatches index => { self with backend := self.backend.dispatch index }
  | .serverSettles index => { self with backend := self.backend.settle index }

end System

end pipane.ws_agent_adapter.prompts

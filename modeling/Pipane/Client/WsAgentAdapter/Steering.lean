import Mathlib.Logic.Function.Basic
import Pipane.Lib.Transition
import Pipane.Server.SessionActor.Mailbox

open javascript transition pipane.session_actor

namespace pipane.ws_agent_adapter.steering

/-- A steering message with the number of the steer that brought it. The code sees the text only. -/
structure Entry where
  steer : Nat
  text : JsString
deriving DecidableEq

def texts (queue : List Entry) : List JsString :=
  queue.map Entry.text

/-- A command on its way to the server. `shown` is the queue that the user saw when removing the entry at `index`; the
    command itself carries the index only. -/
inductive Command
  | steer (entry : Entry)
  | remove_steering (index : Nat) (shown : List Entry)
deriving DecidableEq

/-- A frame on its way to the client: a `session_sync`, or the response to a steer. -/
inductive Frame
  | session_sync (steeringQueue : List Entry)
  | response (steer : Nat) (success : Bool)
deriving DecidableEq

/-- A client that shows the session. `pendingRequests` are its steers without a response. `applied` is the queue of the
    last snapshot it has applied, `unconfirmed` the entries added since, and `changed` says that the server has
    changed the queue since its last snapshot for the client. -/
structure Client where
  steeringQueue : List Entry
  pendingRequests : List Nat
  outgoing : List Command
  incoming : List Frame
  changed : Bool
  applied : Option (List Entry)
  unconfirmed : List Entry
deriving DecidableEq

namespace Client

def fresh : Client where
  steeringQueue := []
  pendingRequests := []
  outgoing := []
  incoming := []
  changed := false
  applied := none
  unconfirmed := []

/-- `prompt` or `steer` while the session runs: the entry is shown at once, and the request sent. -/
def enqueueSteering (self : Client) (entry : Entry) : Client :=
  { self with
    steeringQueue := self.steeringQueue ++ [entry]
    pendingRequests := self.pendingRequests ++ [entry.steer]
    outgoing := self.outgoing ++ [.steer entry]
    unconfirmed := self.unconfirmed ++ [entry] }

/-- `removeSteering(index)`. An index past the steers is that of a prompt held back for a compaction, which the server
    does not know. -/
def removeSteering (self : Client) (index : Nat) : Client :=
  if self.steeringQueue.length ≤ index then self
  else { self with outgoing := self.outgoing ++ [.remove_steering index self.steeringQueue] }

/-- The next frame. The end of a steer's request changes nothing that is shown. -/
def deliver (self : Client) : Client :=
  match self.incoming with
  | [] => self
  | .session_sync steeringQueue :: incoming =>
    { self with steeringQueue, incoming, applied := some steeringQueue, unconfirmed := [] }
  | .response steer _ :: incoming =>
    { self with incoming, pendingRequests := self.pendingRequests.erase steer }

/-- The request of a steer ends without a response. -/
def timeOut (self : Client) (steer : Nat) : Client :=
  { self with pendingRequests := self.pendingRequests.erase steer }

/-- Every steer has ended, and every frame has been delivered. -/
structure Settled (client : Client) : Prop where
  requests : client.pendingRequests = []
  outgoing : client.outgoing = []
  incoming : client.incoming = []
  changed : client.changed = false

end Client

/-- What happens to the actor besides the commands of clients. -/
inductive ActorEvent
  | attach (lease : HeldLease) (session : LiveSession)
  | begin_turn
  | process_event (proc generation : Nat) (event : PiEvent)
  | mark_failed
  | detach
deriving DecidableEq

def ActorEvent.act (actor : SessionActor) : ActorEvent → SessionActor
  | .attach lease session => actor.attach lease session
  | .begin_turn => actor.beginTurn
  | .process_event proc generation event => actor.applyProcessEvent proc generation event
  | .mark_failed => actor.markFailed
  | .detach => actor.detach false

/-- The first entry with the text goes. -/
def dequeue (text : JsString) (queue : List Entry) : List Entry :=
  queue.eraseP fun entry => entry.text = text

/-- What an event of the actor leaves of its queue. -/
def ActorEvent.leave (actor : SessionActor) (queue : List Entry) : ActorEvent → List Entry
  | .process_event proc generation event =>
    if actor.owns proc generation = true ∧ actor.session ≠ none then
      match event with
      | .agent_end => []
      | .user_message_end text => dequeue text queue
      | .agent_start | .agent_settled | .other => queue
    else queue
  | .detach => if actor.lease = none ∨ actor.session = none then queue else []
  | .attach _ _ | .begin_turn | .mark_failed => queue

/-- A session, its clients and the frames between them. `queue` are the entries of the actor's queue. `request` is the
    steer whose request waits for Pi, with its client; it keeps what else concerns the actor waiting. `handled` are the
    steers that the server has read, in order, and `refused` those of them that it did not queue. -/
structure System where
  actor : SessionActor
  queue : List Entry
  request : Option (Nat × Entry)
  clients : Nat → Client
  steers : Nat
  handled : List Entry
  refused : List Entry

/-- `steered`, `removed`, `delivered` and `timedOut` happen at a client. The server reads a client's next command, hears
    from Pi about the request under way, pushes a snapshot to a client, or does something else with the actor. -/
inductive Event
  | steered (client : Nat) (text : JsString)
  | removed (client index : Nat)
  | delivered (client : Nat)
  | timedOut (client steer : Nat)
  | received (client : Nat)
  | answered (success : Bool)
  | acted (event : ActorEvent)
  | pushed (client : Nat)
deriving DecidableEq

namespace System

def fresh (sessionPath : JsString) : System where
  actor := SessionActor.create sessionPath
  queue := []
  request := none
  clients := fun _ => Client.fresh
  steers := 0
  handled := []
  refused := []

def updateClient (self : System) (client : Nat) (change : Client → Client) : System :=
  { self with clients := Function.update self.clients client (change (self.clients client)) }

/-- The actor and its queue after a change, of which every client is owed a snapshot. -/
def replaceQueue (self : System) (actor : SessionActor) (queue : List Entry) : System :=
  { self with
    actor
    queue
    clients :=
      if queue = self.queue then self.clients
      else fun client => { self.clients client with changed := true } }

/-- `handleSteer` up to the request to Pi. -/
def receiveSteer (self : System) (client : Nat) (entry : Entry) : System :=
  let self := { self with handled := self.handled ++ [entry] }
  if ¬ self.actor.isTurnActive ∨ self.actor.process = none then
    let self := { self with refused := self.refused ++ [entry] }
    self.updateClient client fun sender => { sender with incoming := sender.incoming ++ [.response entry.steer false] }
  else
    let self := { self with request := some (client, entry) }
    self.replaceQueue (self.actor.enqueueSteering entry.text) (self.queue ++ [entry])

/-- `handleRemoveSteering`. -/
def receiveRemoval (self : System) (index : Nat) : System :=
  self.replaceQueue (self.actor.removeSteeringByIndex index) (self.queue.eraseIdx index)

/-- The next command of a client has its turn with the actor. -/
def receive (self : System) (client : Nat) : System :=
  match self.request, (self.clients client).outgoing with
  | some _, _ => self
  | none, [] => self
  | none, command :: outgoing =>
    let self := self.updateClient client fun sender => { sender with outgoing }
    match command with
    | .steer entry => self.receiveSteer client entry
    | .remove_steering index _ => self.receiveRemoval index

/-- `sendSteering` from the end of the request on: a steer that was rejected is taken back. -/
def answer (self : System) (success : Bool) : System :=
  match self.request with
  | none => self
  | some (client, entry) =>
    let self := { self with request := none }
    let self :=
      if success then self
      else self.replaceQueue (self.actor.dequeueSteering entry.text) (dequeue entry.text self.queue)
    self.updateClient client fun sender => { sender with incoming := sender.incoming ++ [.response entry.steer success] }

/-- An event of the actor has its turn. -/
def act (self : System) (event : ActorEvent) : System :=
  match self.request with
  | some _ => self
  | none => self.replaceQueue (event.act self.actor) (event.leave self.actor self.queue)

def react (self : System) : Event → System
  | .steered client text =>
    { self.updateClient client (·.enqueueSteering { steer := self.steers, text }) with steers := self.steers + 1 }
  | .removed client index => self.updateClient client (·.removeSteering index)
  | .delivered client => self.updateClient client Client.deliver
  | .timedOut client steer => self.updateClient client (·.timeOut steer)
  | .received client => self.receive client
  | .answered success => self.answer success
  | .acted event => self.act event
  | .pushed client =>
    self.updateClient client fun viewer =>
      { viewer with incoming := viewer.incoming ++ [.session_sync self.queue], changed := false }

end System

/-- The session after any events. -/
def reached (sessionPath : JsString) (events : List Event) : System :=
  run System.react (System.fresh sessionPath) events

/-! The entries are those of the actor's queue. -/

theorem texts_dequeue (text : JsString) (queue : List Entry) : texts (dequeue text queue) = (texts queue).erase text := by
  rw [texts, texts, dequeue, List.erase_eq_eraseP, List.eraseP_map]
  congr 1
  refine congrArg (List.eraseP · queue) (funext fun entry => ?_)
  rw [Function.comp_apply, Bool.beq_eq_decide_eq]
  exact decide_eq_decide.mpr eq_comm

theorem texts_eraseIdx (queue : List Entry) (index : Nat) : texts (queue.eraseIdx index) = (texts queue).eraseIdx index := by
  rw [texts, texts, List.eraseIdx_map]

theorem texts_leave {actor : SessionActor} {queue : List Entry} (h : actor.steeringQueue = texts queue)
    (event : ActorEvent) : (event.act actor).steeringQueue = texts (event.leave actor queue) := by
  cases event with
  | attach lease session => rw [ActorEvent.act, SessionActor.steeringQueue_attach, h, ActorEvent.leave]
  | begin_turn => rw [ActorEvent.act, SessionActor.steeringQueue_beginTurn, h, ActorEvent.leave]
  | mark_failed => rw [ActorEvent.act, SessionActor.steeringQueue_markFailed, h, ActorEvent.leave]
  | detach =>
    rw [ActorEvent.act, SessionActor.steeringQueue_detach, ActorEvent.leave]
    split
    · exact h
    · rfl
  | process_event proc generation event =>
    rw [ActorEvent.act, ActorEvent.leave.eq_def]
    dsimp only
    by_cases happlied : actor.owns proc generation = true ∧ actor.session ≠ none
    · rw [if_pos happlied, SessionActor.steeringQueue_applyProcessEvent happlied]
      cases event with
      | agent_end => rfl
      | user_message_end text =>
        dsimp only
        rw [texts_dequeue, h]
      | agent_start | agent_settled | other => exact h
    · rw [if_neg happlied, SessionActor.steeringQueue_applyProcessEvent_of_not happlied]
      exact h

theorem texts_removeSteeringByIndex {actor : SessionActor} {queue : List Entry} (h : actor.steeringQueue = texts queue)
    (index : Nat) : (actor.removeSteeringByIndex index).steeringQueue = texts (queue.eraseIdx index) := by
  rw [texts_eraseIdx, SessionActor.removeSteeringByIndex]
  split
  · rename_i hrange
    rw [List.eraseIdx_of_length_le (by rw [← h]; omega)]
    exact h
  · rw [SessionActor.steeringQueue_setSteeringQueue, h, Int.toNat_natCast]

namespace System

variable {s : System}

@[simp] theorem queue_updateClient (client : Nat) (change : Client → Client) :
    (s.updateClient client change).queue = s.queue := rfl

@[simp] theorem actor_updateClient (client : Nat) (change : Client → Client) :
    (s.updateClient client change).actor = s.actor := rfl

/-- Each entry belongs to one place of the actor's queue. -/
def Paired (s : System) : Prop :=
  s.actor.steeringQueue = texts s.queue

theorem Paired.react (h : s.Paired) (event : Event) : (s.react event).Paired := by
  cases event with
  | steered | removed | delivered | timedOut | pushed => exact h
  | received client =>
    rw [System.react, receive]
    split
    · exact h
    · exact h
    · rename_i command outgoing _ _
      cases command with
      | steer entry =>
        dsimp only
        rw [receiveSteer]
        split
        · exact h
        · change (s.actor.enqueueSteering entry.text).steeringQueue = texts (s.queue ++ [entry])
          rw [SessionActor.steeringQueue_enqueueSteering, h, texts, texts, List.map_append]
          rfl
      | remove_steering index shown => exact texts_removeSteeringByIndex h index
  | answered success =>
    rw [System.react, answer]
    split
    · exact h
    · rename_i client entry _
      cases success with
      | true => exact h
      | false =>
        change (s.actor.dequeueSteering entry.text).steeringQueue = texts (dequeue entry.text s.queue)
        rw [SessionActor.steeringQueue_dequeueSteering, texts_dequeue, h]
  | acted event =>
    rw [System.react, act]
    split
    · exact h
    · exact texts_leave h event

end System

theorem paired_reached (sessionPath : JsString) (events : List Event) : (reached sessionPath events).Paired := by
  induction events using List.reverseRecOn with
  | nil => rfl
  | append_singleton events event ih =>
    rw [reached, run_snoc]
    exact ih.react event

end pipane.ws_agent_adapter.steering

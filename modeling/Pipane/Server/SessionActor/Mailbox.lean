import Pipane.Lib.Transition
import Pipane.Server.SessionActor

open javascript transition pipane.session_jsonl

namespace pipane.session_actor

namespace SessionActor

/-- `syncSteeringQueue` after the queue was replaced. -/
def setSteeringQueue (self : SessionActor) (queue : List JsString) : SessionActor :=
  { self with
    steeringQueue := queue
    session := self.session.map fun session => { session with steeringQueue := queue } }

def enqueueSteering (self : SessionActor) (message : JsString) : SessionActor :=
  self.setSteeringQueue (self.steeringQueue ++ [message])

def removeSteeringByIndex (self : SessionActor) (index : Int) : SessionActor :=
  if index < 0 ∨ self.steeringQueue.length ≤ index then self
  else self.setSteeringQueue (self.steeringQueue.eraseIdx index.toNat)

/-- The first entry with the text goes. -/
def dequeueSteering (self : SessionActor) (text : JsString) : SessionActor :=
  if text ∈ self.steeringQueue then self.setSteeringQueue (self.steeringQueue.erase text) else self

def clearSteering (self : SessionActor) : SessionActor :=
  if self.steeringQueue = [] then self else self.setSteeringQueue []

/-- `transition`; the methods ask for legal transitions only. -/
def transition (self : SessionActor) (next : SessionPhase) : SessionActor :=
  if next ∈ LEGAL_TRANSITIONS self.phase then { self with phase := next } else self

def attach (self : SessionActor) (lease : HeldLease) (session : LiveSession) : SessionActor :=
  if self.phase ≠ .detached ∨ self.isAttached then self
  else ({ self.transition .attaching with lease := some lease, session := some session } : SessionActor).transition .ready

def beginTurn (self : SessionActor) : SessionActor :=
  if self.phase ≠ .ready ∨ self.lease = none ∨ self.session = none then self
  else ({ self with turnGeneration := self.turnGeneration + 1 } : SessionActor).transition .starting

def markFailed (self : SessionActor) : SessionActor :=
  if self.phase = .detached ∨ self.phase = .releasing ∨ self.phase = .failed then self else self.transition .failed

/-- `detach`. A listener of the emptied queue that throws leaves the actor `releasing`. -/
def detach (self : SessionActor) (listenerThrows : Bool) : SessionActor :=
  if self.lease = none ∨ self.session = none then self
  else
    let emptied := { self.transition .releasing with turnEventCleanup := none, steeringQueue := [] }
    if self.steeringQueue ≠ [] ∧ listenerThrows then emptied
    else ({ emptied with lease := none, session := none } : SessionActor).transition .detached

/-- The phase in which an event ends the work of a turn. -/
def settle (self : SessionActor) : SessionActor :=
  if self.phase = .starting ∨ self.phase = .running then self.transition .settling else self

/-- `applyProcessEvent` in its turn, of an event of the process that the actor owns. -/
def applyProcessEvent (self : SessionActor) (proc generation : Nat) (event : PiEvent) : SessionActor :=
  if ¬ self.owns proc generation ∨ self.session = none then self
  else
    match event with
    | .agent_start => if self.phase = .starting then self.transition .running else self
    | .agent_end => self.settle.clearSteering
    | .agent_settled => self.settle
    | .user_message_end text => self.dequeueSteering text
    | .other => self

@[simp] theorem steeringQueue_setSteeringQueue (self : SessionActor) (queue : List JsString) :
    (self.setSteeringQueue queue).steeringQueue = queue := rfl

@[simp] theorem steeringQueue_enqueueSteering (self : SessionActor) (message : JsString) :
    (self.enqueueSteering message).steeringQueue = self.steeringQueue ++ [message] := rfl

@[simp] theorem steeringQueue_dequeueSteering (self : SessionActor) (text : JsString) :
    (self.dequeueSteering text).steeringQueue = self.steeringQueue.erase text := by
  unfold dequeueSteering
  split
  · rfl
  · rename_i habsent
    rw [List.erase_of_not_mem habsent]

@[simp] theorem steeringQueue_clearSteering (self : SessionActor) : self.clearSteering.steeringQueue = [] := by
  unfold clearSteering
  split
  · assumption
  · rfl

@[simp] theorem steeringQueue_transition (self : SessionActor) (next : SessionPhase) :
    (self.transition next).steeringQueue = self.steeringQueue := by
  unfold transition
  split
  · rfl
  · rfl

@[simp] theorem steeringQueue_attach (self : SessionActor) (lease : HeldLease) (session : LiveSession) :
    (self.attach lease session).steeringQueue = self.steeringQueue := by
  unfold attach
  split
  · rfl
  · rw [steeringQueue_transition]
    exact steeringQueue_transition self _

@[simp] theorem steeringQueue_beginTurn (self : SessionActor) :
    self.beginTurn.steeringQueue = self.steeringQueue := by
  unfold beginTurn
  split
  · rfl
  · rw [steeringQueue_transition]

@[simp] theorem steeringQueue_markFailed (self : SessionActor) :
    self.markFailed.steeringQueue = self.steeringQueue := by
  unfold markFailed
  split
  · rfl
  · exact steeringQueue_transition self _

@[simp] theorem steeringQueue_settle (self : SessionActor) : self.settle.steeringQueue = self.steeringQueue := by
  unfold settle
  split
  · exact steeringQueue_transition self _
  · rfl

theorem steeringQueue_detach (self : SessionActor) (listenerThrows : Bool) :
    (self.detach listenerThrows).steeringQueue =
      if self.lease = none ∨ self.session = none then self.steeringQueue else [] := by
  unfold detach
  split
  · rfl
  · split
    · rfl
    · rw [steeringQueue_transition]

theorem steeringQueue_applyProcessEvent_of_not {self : SessionActor} {proc generation : Nat}
    (h : ¬ (self.owns proc generation = true ∧ self.session ≠ none)) (event : PiEvent) :
    (self.applyProcessEvent proc generation event).steeringQueue = self.steeringQueue := by
  unfold applyProcessEvent
  rw [if_pos]
  rw [not_and_or, not_not] at h
  exact h

theorem steeringQueue_applyProcessEvent {self : SessionActor} {proc generation : Nat}
    (h : self.owns proc generation = true ∧ self.session ≠ none) (event : PiEvent) :
    (self.applyProcessEvent proc generation event).steeringQueue =
      match event with
      | .agent_end => []
      | .user_message_end text => self.steeringQueue.erase text
      | .agent_start => self.steeringQueue
      | .agent_settled => self.steeringQueue
      | .other => self.steeringQueue := by
  unfold applyProcessEvent
  rw [if_neg (by simp [h.1, h.2])]
  cases event with
  | agent_start =>
    change (if self.phase = .starting then self.transition .running else self).steeringQueue = self.steeringQueue
    split
    · exact steeringQueue_transition self _
    · rfl
  | agent_end => exact steeringQueue_clearSteering _
  | agent_settled => exact steeringQueue_settle self
  | user_message_end text => exact steeringQueue_dequeueSteering self text
  | other => rfl

end SessionActor

/-- How the request for a steer ends: a response that says that Pi took the steer or that it did not, or no
    response. Pi may have taken a steer whose response never came. -/
inductive Outcome
  | success
  | failure (error : JsString)
  | rejected (error : JsString) (taken : Bool)
deriving DecidableEq

/-- What is enqueued with an actor. The steps of the commands other than a steer are operations of their own, so
    more orders are possible here than in the code. A message of the user is the delivery of a steer, or another one. -/
inductive Operation
  | attach (lease : HeldLease) (session : LiveSession)
  | begin_turn
  | steer (message : JsString)
  | process_event (proc generation : Nat) (event : PiEvent) (delivery : Bool)
  | remove_steering (index : Int)
  | mark_failed
  | detach
deriving DecidableEq

/-- An operation is enqueued, the first one that waits is run, or the request of a steer ends. -/
inductive Event
  | enqueue (operation : Operation)
  | run (listenerThrows : Bool)
  | answered (outcome : Outcome) (listenerThrows : Bool)
deriving DecidableEq

/-- An actor and the operations that wait for it. `steering` is the steer whose request is under way, which keeps
    the others waiting, and `answers` says how the steers ended. `undelivered` are the steers that Pi has accepted
    and not yet delivered back, and `removed` says that the user has removed an entry. -/
structure Mailbox where
  actor : SessionActor
  waiting : List Operation
  steering : Option JsString
  answers : List (Except JsString Unit)
  undelivered : List JsString
  removed : Bool
deriving DecidableEq

namespace Mailbox

def start (sessionPath : JsString) : Mailbox where
  actor := SessionActor.create sessionPath
  waiting := []
  steering := none
  answers := []
  undelivered := []
  removed := false

def notAttachedError : JsString :=
  js "Session is not attached (agent not running)"

def listenerError : JsString :=
  js "Outgoing frame queue limit exceeded"

/-- `sendSteering` up to the request. -/
def sendSteering (self : Mailbox) (message : JsString) (listenerThrows : Bool) : Mailbox :=
  if ¬ self.actor.isTurnActive ∨ self.actor.process = none then
    { self with answers := self.answers ++ [.error notAttachedError] }
  else if listenerThrows then
    { self with
      actor := self.actor.enqueueSteering message
      answers := self.answers ++ [.error listenerError] }
  else { self with actor := self.actor.enqueueSteering message, steering := some message }

/-- `sendSteering` from the end of the request on. -/
def finishSteering (self : Mailbox) (message : JsString) (listenerThrows : Bool) : Outcome → Mailbox
  | .success =>
    { self with
      steering := none
      answers := self.answers ++ [.ok ()]
      undelivered := self.undelivered ++ [message] }
  | .failure _ => { self with steering := none, answers := self.answers ++ [.ok ()] }
  | .rejected error taken =>
    { self with
      actor := self.actor.dequeueSteering message
      steering := none
      answers := self.answers ++
        [.error (if listenerThrows ∧ message ∈ self.actor.steeringQueue then listenerError else error)]
      undelivered := if taken then self.undelivered ++ [message] else self.undelivered }

/-- An event of Pi is applied, and the oldest steer is delivered with it if it is a delivery. -/
def applyProcessEvent (self : Mailbox) (proc generation : Nat) (event : PiEvent) (delivery : Bool) : Mailbox :=
  { self with
    actor := self.actor.applyProcessEvent proc generation event
    undelivered :=
      if delivery ∧ self.actor.owns proc generation ∧ self.actor.session ≠ none then self.undelivered.tail
      else self.undelivered }

def removeSteering (self : Mailbox) (index : Int) : Mailbox :=
  { self with
    actor := self.actor.removeSteeringByIndex index
    removed := self.removed || decide (0 ≤ index ∧ index < self.actor.steeringQueue.length) }

/-- The turn is over, and what Pi has not delivered goes with its process. -/
def detach (self : Mailbox) (listenerThrows : Bool) : Mailbox :=
  if self.actor.lease = none ∨ self.actor.session = none then self
  else { self with actor := self.actor.detach listenerThrows, undelivered := [], removed := false }

def execute (self : Mailbox) (listenerThrows : Bool) : Operation → Mailbox
  | .attach lease session => { self with actor := self.actor.attach lease session }
  | .begin_turn => { self with actor := self.actor.beginTurn }
  | .steer message => self.sendSteering message listenerThrows
  | .process_event proc generation event delivery => self.applyProcessEvent proc generation event delivery
  | .remove_steering index => self.removeSteering index
  | .mark_failed => { self with actor := self.actor.markFailed }
  | .detach => self.detach listenerThrows

def step (self : Mailbox) : Event → Mailbox
  | .enqueue operation => { self with waiting := self.waiting ++ [operation] }
  | .run listenerThrows =>
    match self.steering, self.waiting with
    | none, operation :: rest => { self with waiting := rest }.execute listenerThrows operation
    | _, _ => self
  | .answered outcome listenerThrows =>
    match self.steering with
    | some message => self.finishSteering message listenerThrows outcome
    | none => self

end Mailbox

end pipane.session_actor

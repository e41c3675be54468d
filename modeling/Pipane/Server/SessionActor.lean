import Pipane.Lib.JsString
import Pipane.Server.SessionJsonl

open javascript pipane.session_jsonl

namespace pipane.session_actor

inductive SessionPhase
  | detached
  | attaching
  | ready
  | starting
  | running
  | settling
  | releasing
  | failed
deriving DecidableEq

def SessionPhase.name : SessionPhase → JsString
  | .detached => js "detached"
  | .attaching => js "attaching"
  | .ready => js "ready"
  | .starting => js "starting"
  | .running => js "running"
  | .settling => js "settling"
  | .releasing => js "releasing"
  | .failed => js "failed"

def LEGAL_TRANSITIONS : SessionPhase → List SessionPhase
  | .detached => [.attaching]
  | .attaching => [.ready, .failed, .releasing]
  | .ready => [.starting, .releasing, .failed]
  | .starting => [.running, .settling, .releasing, .failed]
  | .running => [.settling, .releasing, .failed]
  | .settling => [.releasing, .failed]
  | .releasing => [.detached]
  | .failed => [.releasing]

/-- A lease object and its process. -/
structure HeldLease where
  id : Nat
  process : Nat
deriving DecidableEq

/-- What the runtime reads and writes of the `SessionJsonl` of an attached session. -/
structure LiveSession where
  steeringQueue : List JsString
  model : Option ModelRef
  thinkingLevel : JsString
deriving DecidableEq

/-- Serialized owner of one session's mutable runtime state. `commandTail` lists the threads whose commands it
    has not finished, first the one that runs. -/
structure SessionActor where
  sessionPath : JsString
  phase : SessionPhase
  lease : Option HeldLease
  session : Option LiveSession
  turnGeneration : Nat
  steeringQueue : List JsString
  turnEventCleanup : Option Nat
  commandTail : List Nat
deriving DecidableEq

namespace SessionActor

def create (sessionPath : JsString) : SessionActor where
  sessionPath := sessionPath
  phase := .detached
  lease := none
  session := none
  turnGeneration := 0
  steeringQueue := []
  turnEventCleanup := none
  commandTail := []

def process (self : SessionActor) : Option Nat :=
  self.lease.map HeldLease.process

def isAttached (self : SessionActor) : Bool :=
  self.lease.isSome

def isTurnActive (self : SessionActor) : Bool :=
  self.phase = .starting ∨ self.phase = .running ∨ self.phase = .settling

def assertAvailable (self : SessionActor) (operation : JsString) : Except JsString Unit :=
  if self.isTurnActive then
    .error (js "Cannot " ++ operation ++ js " while session turn is " ++ self.phase.name)
  else if self.phase ≠ .detached ∧ self.phase ≠ .ready then
    .error (js "Cannot " ++ operation ++ js " while session is " ++ self.phase.name)
  else .ok ()

def owns (self : SessionActor) (proc : Nat) (generation : Nat) : Bool :=
  self.process = some proc ∧ generation = self.turnGeneration

end SessionActor

/-- The events of Pi that a turn reacts to; a message of the user ends with its text. -/
inductive PiEvent
  | agent_start
  | agent_end
  | agent_settled
  | user_message_end (text : JsString)
  | other
deriving DecidableEq

structure AppliedProcessEvent where
  accepted : Bool
  started : Bool
  ended : Bool
  settled : Bool
deriving DecidableEq

end pipane.session_actor

import Mathlib.Logic.Function.Basic
import Pipane.Lib.Async
import Pipane.Server.ProcessPool.Leases
import Pipane.Server.SessionActor
import Pipane.Server.SessionRegistry

open async javascript pipane.process_pool pipane.session_actor pipane.session_jsonl pipane.session_registry

namespace pipane.ws_handler.runtime

/-- What the handlers learn from the file system. Session paths are canonical; the last two are what a session
    file says of its cwd and of the model and thinking level to go on with. -/
structure Files where
  existsSync : JsString → Bool
  isConfined : JsString → Bool
  getSessionCwd : JsString → Option JsString
  readSessionFromDisk : JsString → Option ModelRef × JsString

namespace Files

def resolveExisting (self : Files) (sessionPath : JsString) : Except JsString JsString :=
  if ¬ self.existsSync sessionPath then .error (js "Session file not found")
  else if ¬ self.isConfined sessionPath then .error (js "Session path escapes the Pi sessions directory")
  else .ok sessionPath

/-- A path that Pi allocated before it has flushed the new file. -/
def resolvePending (self : Files) (sessionPath : JsString) : Except JsString JsString :=
  if ¬ self.isConfined sessionPath then .error (js "Session path escapes the Pi sessions directory")
  else .ok sessionPath

end Files

/-- The locals of a running command. `lease` is one that the handler would release itself, `inside` the actor whose
    queue it has reached the head of, and `forking` says that it has sent a `fork` for its actor. -/
structure Command where
  finished : Bool
  sessionPath : JsString
  actor : Option Nat
  proc : Option Nat
  lease : Option HeldLease
  generation : Option Nat
  promptAccepted : Bool
  sessionCreated : Bool
  inside : Option Nat
  forking : Bool

def Command.none : Command where
  finished := true
  sessionPath := []
  actor := .none
  proc := .none
  lease := .none
  generation := .none
  promptAccepted := false
  sessionCreated := false
  inside := .none
  forking := false

/-- The forwarding of a turn's events. -/
structure TurnEventObserver where
  actor : Nat
  process : Nat
  generation : Nat
  subscribed : Bool
  started : Bool

/-- What `waitForPromptSettlement` listens to, in the order in which it happens. -/
inductive Signal
  | settled (observer : Nat)
  | exited (proc : Nat)
deriving DecidableEq

/-- A signal that an error path sent to a process. `withdrawn` and `contested` are what the pool said of the
    process at that moment: that it leases it no more, and that another command had leased it. -/
structure Kill where
  process : Nat
  command : Nat
  withdrawn : Bool
  contested : Bool
deriving DecidableEq

/-- An RPC that was sent on behalf of a session's actor, the session that Pi had opened at that moment, and
    whether a command that changes the session was still unanswered. -/
structure ActorRpc where
  sessionPath : JsString
  command : PiRpcCommand
  session : Option JsString
  outstanding : Bool
deriving DecidableEq

/-- What the run is judged by; no handler reads it. `attachThrew` stands for a listener that threw while an
    actor attached a lease that its handler kept, `listenerThrew` for one that threw anywhere else, and
    `joinedTurn` for a prompt for a new session that found a turn in progress. -/
structure History where
  releases : List Nat
  kills : List Kill
  rpcs : List ActorRpc
  illegalTransition : Bool
  attachThrew : Bool
  listenerThrew : Bool
  sendThrew : Bool
  joinedTurn : Bool

/-- The state that the commands of `WsHandler` share. `sendFails` and `hostFails` say which of the next calls
    that send frames to clients, and of the next calls to the host, throw. -/
structure System where
  pool : ProcessPool
  actors : Nat → SessionActor
  actorCount : Nat
  registry : SessionRegistry
  observers : List TurnEventObserver
  signals : List Signal
  commands : Nat → Command
  files : Files
  defaultCwd : JsString
  piAvailable : Bool
  clock : Nat
  sendFails : List Bool
  hostFails : List Bool
  history : History

/-- The processes and leases that a signal leaves alone. -/
def KillSafe (pool : ProcessPool) (kill : Kill) : Prop :=
  pool.Withdrawn kill.process ∧ ∀ (lease : Nat) (object : RpcProcessLease), pool.leaseObjects[lease]? = some object →
    object.process = kill.process → object.released = false → object.acquiredBy = kill.command

/-- The pool had withdrawn the process when the signal was sent, and no other command had it. -/
def Kill.Proper (kill : Kill) : Prop :=
  kill.withdrawn = true ∧ kill.contested = false

structure History.Grows (before after : History) : Prop where
  illegalTransition : before.illegalTransition = true → after.illegalTransition = true
  attachThrew : before.attachThrew = true → after.attachThrew = true
  listenerThrew : before.listenerThrew = true → after.listenerThrew = true
  sendThrew : before.sendThrew = true → after.sendThrew = true
  joinedTurn : before.joinedTurn = true → after.joinedTurn = true

/-- What every step of the handlers and of their environment keeps. -/
structure Adds (before after : System) : Prop where
  pool : before.pool.Valid → before.pool.Keeps after.pool
  created : before.actorCount ≤ after.actorCount
  paths : ∀ actor < before.actorCount, (after.actors actor).sessionPath = (before.actors actor).sessionPath
  generation : ∀ actor < before.actorCount, (before.actors actor).turnGeneration ≤ (after.actors actor).turnGeneration
  history : before.history.Grows after.history
  kills : before.pool.Valid → ∀ kill ∈ after.history.kills, kill ∈ before.history.kills ∨
    (kill.Proper → KillSafe after.pool kill)

theorem History.Grows.refl (history : History) : history.Grows history :=
  ⟨id, id, id, id, id⟩

theorem History.Grows.trans {first second third : History} (h : first.Grows second) (hnext : second.Grows third) :
    first.Grows third :=
  ⟨hnext.illegalTransition ∘ h.illegalTransition, hnext.attachThrew ∘ h.attachThrew,
    hnext.listenerThrew ∘ h.listenerThrew, hnext.sendThrew ∘ h.sendThrew, hnext.joinedTurn ∘ h.joinedTurn⟩

theorem KillSafe.of_grows {before after : ProcessPool} {kill : Kill} (h : KillSafe before kill)
    (hgrows : before.Grows after) : KillSafe after kill := by
  obtain ⟨hwithdrawn, hholders⟩ := h
  refine ⟨hgrows.withdrawn _ hwithdrawn, fun lease object hobject hprocess hreleased => ?_⟩
  by_cases hold : lease < before.leaseObjects.length
  · have hbefore := List.getElem?_eq_getElem hold
    obtain ⟨later, hlater, hlaterProcess, hholder, hkept⟩ := hgrows.kept lease _ hbefore
    rw [hobject] at hlater
    cases hlater
    rw [hholder]
    refine hholders lease _ hbefore (hlaterProcess.symm.trans hprocess) ?_
    by_contra hwas
    rw [Bool.not_eq_false] at hwas
    rw [hkept hwas] at hreleased
    cases hreleased
  · have hfresh := hgrows.fresh lease object hobject (Nat.not_lt.mp hold)
    rw [hprocess] at hfresh
    exact absurd hwithdrawn hfresh

theorem Adds.refl (s : System) : Adds s s where
  pool h := h.keeps_self
  created := Nat.le_refl _
  paths _ _ := rfl
  generation _ _ := Nat.le_refl _
  history := .refl _
  kills _ _ hkill := .inl hkill

theorem Adds.trans {s t u : System} (h : Adds s t) (hnext : Adds t u) : Adds s u where
  pool hvalid := (h.pool hvalid).trans hnext.pool
  created := Nat.le_trans h.created hnext.created
  paths actor hactor :=
    (hnext.paths actor (Nat.lt_of_lt_of_le hactor h.created)).trans (h.paths actor hactor)
  generation actor hactor :=
    Nat.le_trans (h.generation actor hactor) (hnext.generation actor (Nat.lt_of_lt_of_le hactor h.created))
  history := h.history.trans hnext.history
  kills hvalid kill hkill := by
    have hmiddle := (h.pool hvalid).1
    obtain hbefore | hsafe := hnext.kills hmiddle kill hkill
    · refine (h.kills hvalid kill hbefore).imp_right fun hsafe hproper => ?_
      exact (hsafe hproper).of_grows (hnext.pool hmiddle).2
    · exact .inr hsafe

instance : Evolving System where
  Evolves := Adds
  refl := Adds.refl
  trans := Adds.trans

theorem Adds.frame {s t : System} (hpool : t.pool = s.pool) (hhistory : t.history = s.history)
    (hcreated : s.actorCount ≤ t.actorCount)
    (hactors : ∀ actor < s.actorCount, (t.actors actor).sessionPath = (s.actors actor).sessionPath ∧
      (s.actors actor).turnGeneration ≤ (t.actors actor).turnGeneration) : Adds s t where
  pool h := by rw [hpool]; exact h.keeps_self
  created := hcreated
  paths actor hactor := (hactors actor hactor).1
  generation actor hactor := (hactors actor hactor).2
  history := by rw [hhistory]; exact .refl _
  kills _ kill hkill := by rw [hhistory] at hkill; exact .inl hkill

theorem Adds.ofPool {s : System} {pool : ProcessPool} (h : s.pool.Valid → s.pool.Keeps pool) : Adds s { s with pool } where
  pool := h
  created := Nat.le_refl _
  paths _ _ := rfl
  generation _ _ := Nat.le_refl _
  history := .refl _
  kills _ _ hkill := .inl hkill

theorem Adds.ofHistory {s : System} {history : History} (hgrows : s.history.Grows history)
    (hkills : history.kills = s.history.kills) : Adds s { s with history } where
  pool h := h.keeps_self
  created := Nat.le_refl _
  paths _ _ := rfl
  generation _ _ := Nat.le_refl _
  history := hgrows
  kills _ kill hkill := by
    simp only [hkills] at hkill
    exact .inl hkill

namespace System

def setActor (s : System) (actor : Nat) (next : SessionActor) : System :=
  { s with actors := Function.update s.actors actor next }

def setCommand (s : System) (command : Nat) (next : Command) : System :=
  { s with commands := Function.update s.commands command next }

end System

/-- A part of a handler that nothing interrupts. -/
abbrev Block := Atomic System JsString

def updateActor (actor : Nat) (update : SessionActor → SessionActor)
    (h : ∀ self, (update self).sessionPath = self.sessionPath ∧ self.turnGeneration ≤ (update self).turnGeneration := by
      exact fun _ => ⟨rfl, Nat.le_refl _⟩) : Block Unit :=
  Atomic.modify (fun s => s.setActor actor (update (s.actors actor))) fun s => by
    refine Adds.frame rfl rfl (Nat.le_refl _) fun other _ => ?_
    simp only [System.setActor, Function.update_apply]
    split
    · subst other
      exact h _
    · exact ⟨rfl, Nat.le_refl _⟩

def updateRegistry (update : SessionRegistry → SessionRegistry) : Block Unit :=
  Atomic.modify (fun s => { s with registry := update s.registry }) fun _ => Adds.frame rfl rfl (Nat.le_refl _) fun _ _ => ⟨rfl, Nat.le_refl _⟩

def updateCommand (self : Nat) (update : Command → Command) : Block Unit :=
  Atomic.modify (fun s => s.setCommand self (update (s.commands self))) fun _ => Adds.frame rfl rfl (Nat.le_refl _) fun _ _ => ⟨rfl, Nat.le_refl _⟩

def updateObserver (observer : Nat) (update : TurnEventObserver → TurnEventObserver) : Block Unit :=
  Atomic.modify (fun s => { s with observers := s.observers.modify observer update }) fun _ =>
    Adds.frame rfl rfl (Nat.le_refl _) fun _ _ => ⟨rfl, Nat.le_refl _⟩

def signal (event : Signal) : Block Unit :=
  Atomic.modify (fun s => { s with signals := s.signals ++ [event] }) fun _ => Adds.frame rfl rfl (Nat.le_refl _) fun _ _ => ⟨rfl, Nat.le_refl _⟩

/-- An entry of the history that is no signal to a process. -/
def note (entry : History → History) (hgrows : ∀ history : History, history.Grows (entry history))
    (hkills : ∀ history, (entry history).kills = history.kills) : Block Unit :=
  Atomic.modify (fun s => { s with history := entry s.history }) fun _ => Adds.ofHistory (hgrows _) (hkills _)

/-- A call of the pool. -/
def onPool {α : Type} (call : ProcessPool → α × ProcessPool)
    (h : ∀ pool : ProcessPool, pool.Valid → pool.Keeps (call pool).2) : Block α where
  run s := (.ok (call s.pool).1, { s with pool := (call s.pool).2 })
  evolves s := Adds.ofPool (h s.pool)

def readSystem : Block System :=
  Atomic.get

def readActor (actor : Nat) : Block SessionActor := do
  let s ← readSystem
  pure (s.actors actor)

def readCommand (self : Nat) : Block Command := do
  let s ← readSystem
  pure (s.commands self)

def ofExcept {α : Type} : Except JsString α → Block α
  | .ok value => pure value
  | .error error => throw error

def sendError : JsString :=
  js "Outgoing frame queue limit exceeded"

/-- Frames that are sent to clients; one that has too many frames queued makes the call throw. -/
def sendFrames (mark : History → Bool → History) (hgrows : ∀ (history : History) failed, history.Grows (mark history failed))
    (hkills : ∀ history failed, (mark history failed).kills = history.kills) : Block Unit where
  run s :=
    let failed := s.sendFails.head?.getD false
    (if failed then .error sendError else .ok (),
      { s with sendFails := s.sendFails.tail, history := mark s.history failed })
  evolves s :=
    { pool := fun h => h.keeps_self
      created := Nat.le_refl _
      paths := fun _ _ => rfl
      generation := fun _ _ => Nat.le_refl _
      history := hgrows _ _
      kills := fun _ kill hkill => by
        simp only [hkills] at hkill
        exact .inl hkill }

/-- A message that a handler sends. -/
def sendMessage : Block Unit :=
  sendFrames (fun history failed => { history with sendThrew := history.sendThrew || failed })
    (fun _ _ => ⟨id, id, id, fun h => by simp [h], id⟩) fun _ _ => rfl

/-- A message that the listener of the registry sends. -/
def notifyListener : Block Unit :=
  sendFrames (fun history failed => { history with listenerThrew := history.listenerThrew || failed })
    (fun _ _ => ⟨id, id, fun h => by simp [h], id, id⟩) fun _ _ => rfl

def hostError : JsString :=
  js "Host call failed"

/-- The outcome of a call to the host: a catalog refresh, an uploaded image, a copied file. -/
def hostCall : Block Unit where
  run s := (if s.hostFails.head?.getD false then .error hostError else .ok (), { s with hostFails := s.hostFails.tail })
  evolves _ := Adds.frame rfl rfl (Nat.le_refl _) fun _ _ => ⟨rfl, Nat.le_refl _⟩

/-- `transition` of an actor; phase changes reach no listener that does anything. -/
def transition (actor : Nat) (next : SessionPhase) : Block Unit := do
  let self ← readActor actor
  if next = self.phase then pure ()
  else if next ∈ LEGAL_TRANSITIONS self.phase then updateActor actor fun self => { self with phase := next }
  else do
    note (fun history => { history with illegalTransition := true }) (fun _ => ⟨fun _ => rfl, id, id, id, id⟩) fun _ => rfl
    throw (js "Illegal session transition " ++ self.phase.name ++ js " -> " ++ next.name)

/-- `registry.find(sessionPath)?.session` is pushed to its subscribers. -/
def emitSteeringQueueUpdate (actor : Nat) : Block Unit := do
  let s ← readSystem
  match (s.registry.find (s.actors actor).sessionPath).bind fun registered => (s.actors registered).session with
  | some _ => notifyListener
  | none => pure ()

def publishAttached (actor : Nat) : Block Unit := do
  let self ← readActor actor
  updateRegistry fun registry => { registry with statuses := registry.statuses.set self.sessionPath .running }
  notifyListener

/-- The `attached` event of an actor in the registry. -/
def emitAttached (actor proc : Nat) : Block Unit := do
  updateRegistry fun registry => { registry with actorsByProcess := registry.actorsByProcess.set proc actor }
  let s ← readSystem
  if s.registry.pendingActors.contains (s.actors actor).sessionPath then pure () else publishAttached actor

/-- The `detached` event of an actor in the registry. -/
def emitDetached (actor proc : Nat) : Block Unit := do
  let self ← readActor actor
  updateRegistry fun registry =>
    if registry.actorsByProcess.get? proc = some actor then
      { registry with actorsByProcess := registry.actorsByProcess.erase proc }
    else registry
  let s ← readSystem
  if s.registry.pendingActors.contains self.sessionPath then
    updateRegistry fun registry => { registry with
      pendingActors := registry.pendingActors.erase self.sessionPath
      actors := registry.actors.erase self.sessionPath }
  else do
    updateRegistry fun registry => { registry with statuses := registry.statuses.set self.sessionPath .done }
    notifyListener

/-- `attach` of an actor. -/
def attach (actor : Nat) (lease : HeldLease) (session : LiveSession) : Block Unit := do
  let self ← readActor actor
  if self.phase ≠ .detached ∨ self.isAttached then
    throw (js "Session is already owned in phase " ++ self.phase.name)
  else do
    transition actor .attaching
    updateActor actor fun self => { self with lease := some lease, session := some session }
    transition actor .ready
    emitAttached actor lease.process

def beginTurn (actor : Nat) : Block Nat := do
  let self ← readActor actor
  if self.phase ≠ .ready ∨ self.lease = none ∨ self.session = none then
    throw (js "Cannot start turn while session is " ++ self.phase.name)
  else do
    updateActor actor (fun self => { self with turnGeneration := self.turnGeneration + 1 }) fun _ =>
      ⟨rfl, Nat.le_succ _⟩
    transition actor .starting
    pure (self.turnGeneration + 1)

/-- `syncSteeringQueue` after the queue of an actor was replaced. -/
def setSteeringQueue (actor : Nat) (queue : List JsString) : Block Unit := do
  updateActor actor fun self => { self with
    steeringQueue := queue
    session := self.session.map fun session => { session with steeringQueue := queue } }
  emitSteeringQueueUpdate actor

def enqueueSteering (actor : Nat) (message : JsString) : Block Unit := do
  let self ← readActor actor
  setSteeringQueue actor (self.steeringQueue ++ [message])

def removeSteeringByIndex (actor : Nat) (index : Int) : Block Unit := do
  let self ← readActor actor
  if index < 0 ∨ self.steeringQueue.length ≤ index then pure ()
  else setSteeringQueue actor (self.steeringQueue.eraseIdx index.toNat)

def dequeueSteering (actor : Nat) (text : JsString) : Block Unit := do
  let self ← readActor actor
  if text ∈ self.steeringQueue then setSteeringQueue actor (self.steeringQueue.erase text) else pure ()

def clearSteering (actor : Nat) : Block Unit := do
  let self ← readActor actor
  if self.steeringQueue = [] then pure () else setSteeringQueue actor []

def markFailed (actor : Nat) : Block Unit := do
  let self ← readActor actor
  if self.phase = .detached ∨ self.phase = .releasing ∨ self.phase = .failed then pure ()
  else transition actor .failed

/-- `lease.release()`. -/
def releaseLease (lease : HeldLease) : Block Unit := do
  note (fun history => { history with releases := history.releases ++ [lease.id] }) (fun _ => ⟨id, id, id, id, id⟩)
    fun _ => rfl
  onPool (fun pool => ((), pool.releaseLease lease.id)) fun _ h => h.releaseLease lease.id

/-- Release all runtime ownership. -/
def detach (actor : Nat) : Block Unit := do
  let self ← readActor actor
  match self.lease, self.session with
  | some lease, some _ => do
    transition actor .releasing
    match self.turnEventCleanup with
    | some observer => updateObserver observer fun observer => { observer with subscribed := false }
    | none => pure ()
    updateActor actor fun self => { self with turnEventCleanup := none }
    if self.steeringQueue = [] then pure ()
    else do
      updateActor actor fun self => { self with steeringQueue := [] }
      emitSteeringQueueUpdate actor
    updateActor actor fun self => { self with lease := none, session := none }
    releaseLease lease
    transition actor .detached
    emitDetached actor lease.process
  | _, _ => pure ()

/-- `applyProcessEvent` of an actor, in its turn. -/
def applyProcessEvent (actor proc generation : Nat) (event : PiEvent) : Block AppliedProcessEvent := do
  let self ← readActor actor
  if ¬ self.owns proc generation ∨ self.session = none then
    pure { accepted := false, started := false, ended := false, settled := false }
  else
    match event with
    | .agent_start => do
      if self.phase = .starting then transition actor .running else pure ()
      pure { accepted := true, started := true, ended := false, settled := false }
    | .agent_end => do
      if self.phase = .starting ∨ self.phase = .running then transition actor .settling else pure ()
      clearSteering actor
      pure { accepted := true, started := false, ended := true, settled := false }
    | .agent_settled => do
      if self.phase = .starting ∨ self.phase = .running then transition actor .settling else pure ()
      pure { accepted := true, started := true, ended := true, settled := true }
    | .user_message_end text => do
      dequeueSteering actor text
      pure { accepted := true, started := false, ended := false, settled := false }
    | .other => pure { accepted := true, started := false, ended := false, settled := false }

/-- `registry.get(sessionPath)`: the actor of a session, created on demand. -/
def getOrCreate (sessionPath : JsString) : Block Nat := do
  let s ← readSystem
  match s.registry.find sessionPath with
  | some actor => pure actor
  | none => do
    Atomic.modify (fun s => { s.setActor s.actorCount (SessionActor.create sessionPath) with
      actorCount := s.actorCount + 1
      registry := { s.registry with actors := s.registry.actors.set sessionPath s.actorCount } }) fun s => by
        refine Adds.frame rfl rfl (Nat.le_succ _) fun other hother => ?_
        simp only [System.setActor, Function.update_of_ne (Nat.ne_of_lt hother), Nat.le_refl, true_and]
    pure s.actorCount

/-- Own a Pi-allocated path without advertising it until a real turn persists it. -/
def getPending (sessionPath : JsString) : Block Nat := do
  let s ← readSystem
  match s.registry.find sessionPath with
  | some actor => pure actor
  | none => do
    updateRegistry fun registry => { registry with pendingActors := registry.pendingActors.set sessionPath () }
    getOrCreate sessionPath

/-- Make an attached pending actor visible as a normal running session. -/
def promotePending (sessionPath : JsString) : Block Unit := do
  let s ← readSystem
  if s.registry.pendingActors.contains sessionPath then do
    updateRegistry fun registry => { registry with pendingActors := registry.pendingActors.erase sessionPath }
    match s.registry.find sessionPath with
    | some actor => if (s.actors actor).isAttached then publishAttached actor else pure ()
    | none => pure ()
  else pure ()

/-- Drop a pending actor that failed before it acquired runtime ownership. -/
def discardPending (sessionPath : JsString) : Block Unit := do
  let s ← readSystem
  if s.registry.pendingActors.contains sessionPath then
    if ((s.registry.find sessionPath).map fun actor => (s.actors actor).isAttached) = some true then
      throw (js "Cannot discard attached pending session " ++ sessionPath)
    else
      updateRegistry fun registry => { registry with
        pendingActors := registry.pendingActors.erase sessionPath
        actors := registry.actors.erase sessionPath }
  else pure ()

end pipane.ws_handler.runtime

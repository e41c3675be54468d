import Pipane.Server.WsHandler.Runtime

open async javascript pipane.process_pool pipane.session_actor pipane.session_jsonl pipane.session_registry

namespace pipane.ws_handler.runtime

/-- What a handler waits for: its turn in the queue of an actor, the answer to an RPC, a turn's end or the exit of
    its process, or something else that takes a while. -/
inductive Wait
  | turn (actor : Nat)
  | rpc (request : Nat)
  | settlement (observer proc since : Nat)
  | tick
  | never

/-- The first signal that settles the race of a turn's end with an exit that comes after `since`. -/
def firstSignal (signals : List Signal) (observer proc since : Nat) : Option Signal :=
  (signals.zipIdx.find? fun entry =>
    entry.1 = .settled observer ∨ (entry.1 = .exited proc ∧ since ≤ entry.2)).map Prod.fst

def rpcOutcome (s : System) (request : Nat) : Option (Except JsString PiRpcResponse) :=
  s.pool.requests[request]?.bind RpcRequest.outcome

def ready (self : Nat) : Wait → System → Bool
  | .turn actor, s => (s.actors actor).commandTail.head? = some self
  | .rpc request, s => (rpcOutcome s request).isSome
  | .settlement observer proc since, s => (firstSignal s.signals observer proc since).isSome
  | .tick, _ => true
  | .never, _ => false

/-- A handler, or a part of it. -/
abbrev Routine := Coroutine System Wait JsString

def joinQueue (self actor : Nat) : Block Unit :=
  updateActor actor fun owner => { owner with commandTail := owner.commandTail ++ [self] }

def enterQueue (self actor : Nat) : Block Unit :=
  updateCommand self fun me => { me with inside := some actor }

def leaveQueue (self actor : Nat) : Block Unit := do
  updateActor actor fun owner => { owner with commandTail := owner.commandTail.tail }
  updateCommand self fun me => { me with inside := none, forking := false }

/-- How an enqueued command ends for the one who awaits it. -/
def named {α : Type} (operation : JsString) : Except JsString α → Except JsString α
  | .ok value => .ok value
  | .error error => .error (js "[" ++ operation ++ js "] " ++ error)

/-- `enqueue` of an actor: serialize one command or internal event for its session. -/
def enqueue {α : Type} (self actor : Nat) (operation : JsString) (body : Routine α) : Routine α := do
  joinQueue self actor
  Coroutine.suspend (.turn actor)
  enterQueue self actor
  let result ← body.attempt
  leaveQueue self actor
  Coroutine.suspend .tick
  Coroutine.ofExcept (named operation result)

/-- An RPC on behalf of an actor as the history has it; one to a process that has ended is not sent. -/
def actorRpc (s : System) (actor proc : Nat) (command : PiRpcCommand) : List ActorRpc :=
  if s.pool.hasNoExitCode proc then
    [{ sessionPath := (s.actors actor).sessionPath
       command
       session := (s.pool.processes[proc]?).bind RpcProcess.session
       outstanding := s.pool.requests.any fun request =>
         request.process = proc && request.command.changesSession && !request.answered }]
  else []

def noteRpc (actor proc : Nat) (command : PiRpcCommand) : Block Unit :=
  Atomic.modify
    (fun s => { s with history := { s.history with rpcs := s.history.rpcs ++ actorRpc s actor proc command } })
    fun _ => Adds.ofHistory ⟨id, id, id, id, id⟩ rfl

def startRpc (onBehalfOf : Option Nat) (proc : Nat) (command : PiRpcCommand) : Block Nat := do
  match onBehalfOf with
  | some actor => noteRpc actor proc command
  | none => pure ()
  onPool (fun pool => pool.sendRpc proc command) fun _ h => h.sendRpc proc command

def readRpc (request : Nat) : Block PiRpcResponse := do
  let s ← readSystem
  match rpcOutcome s request with
  | some outcome => ofExcept outcome
  | none => throw ProcessPool.deadError

/-- `pool.sendRpc`; `onBehalfOf` names the actor whose session the command is for. -/
def sendRpc (onBehalfOf : Option Nat) (proc : Nat) (command : PiRpcCommand) : Routine PiRpcResponse := do
  let request ← startRpc onBehalfOf proc command
  Coroutine.suspend (.rpc request)
  readRpc request

def checkResponse (command : PiRpcCommand) : PiRpcResponse → Except JsString PiRpcData
  | .success data => .ok data
  | .failure error => .error (if error = [] then js "RPC command failed: " ++ command.type else error)

def sendRpcChecked (onBehalfOf : Option Nat) (proc : Nat) (command : PiRpcCommand) : Routine PiRpcData := do
  let response ← sendRpc onBehalfOf proc command
  ofExcept (checkResponse command response)

def waitForReady (proc : Nat) : Routine Unit :=
  tryCatch (do
    let _ ← sendRpc none proc .get_state
    pure ()) fun _ => pure ()

/-- The handler keeps a lease that the pool has made for it. -/
def keepLease (self : Nat) : Except JsString (Option Nat) → Block (Option HeldLease)
  | .error error => throw error
  | .ok none => pure none
  | .ok (some id) => do
    let s ← readSystem
    let lease : HeldLease := { id, process := (s.pool.leaseObjects[id]?).elim 0 RpcProcessLease.process }
    updateCommand self fun me => { me with lease := some lease }
    pure (some lease)

def acquire (self : Nat) (cwd : JsString) : Block (Option HeldLease) := do
  let s ← readSystem
  let result ← onPool (fun pool => pool.acquire s.files.existsSync self cwd) fun _ h => h.acquire _ self cwd
  keepLease self result

def acquireAny (self : Nat) : Block (Option HeldLease) := do
  let result ← onPool (fun pool => pool.acquireAny self) fun _ h => h.acquireAny self
  keepLease self result

def evictIdleDifferentCwd (cwd : JsString) : Block (Option Nat) :=
  onPool (fun pool => pool.evictIdleDifferentCwd cwd) fun _ h => h.evictIdleDifferentCwd cwd

/-- The loop of `acquireProcess`, of which a run sees at most `rounds` rounds. -/
def acquireProcessFrom (self : Nat) (cwd : JsString) (startedAt : Nat) : Nat → Routine HeldLease
  | 0 => do
    Coroutine.suspend .never
    throw []
  | rounds + 1 => do
    let acquired ← acquire self cwd
    match acquired with
    | some lease => pure lease
    | none => do
      let evicted ← evictIdleDifferentCwd cwd
      let s ← readSystem
      if evicted.isSome then do
        Coroutine.suspend .tick
        acquireProcessFrom self cwd startedAt rounds
      else if 60000 ≤ s.clock - startedAt then
        throw (js "Timed out waiting for available pi process for cwd: " ++ cwd)
      else do
        Coroutine.suspend .tick
        acquireProcessFrom self cwd startedAt rounds

/-- Acquire an atomically reserved process lease for a cwd. -/
def acquireProcess (self : Nat) (cwd : JsString) (rounds : Nat) : Routine HeldLease := do
  let s ← readSystem
  if ¬ s.piAvailable then throw (js "pi was not found") else acquireProcessFrom self cwd s.clock rounds

def acquireAnyProcess (self rounds : Nat) : Routine HeldLease := do
  let existing ← acquireAny self
  match existing with
  | some lease => pure lease
  | none => do
    let s ← readSystem
    acquireProcess self s.defaultCwd rounds

/-- `release()` of the lease that the handler keeps. -/
def releaseHeld (self : Nat) : Block Unit := do
  let me ← readCommand self
  match me.lease with
  | some lease => do
    releaseLease lease
    updateCommand self fun me => { me with lease := none }
  | none => pure ()

def replacePiSession (proc : Nat) (command : PiRpcCommand) : Routine Unit := do
  let data ← sendRpcChecked none proc command
  if data.cancelled then throw (js "Pi " ++ command.type ++ js " was cancelled") else pure ()

/-- Build the active materialized view owned by a SessionActor. -/
def createSessionState (actor : Nat) : Block LiveSession := do
  let s ← readSystem
  let (model, thinkingLevel) := s.files.readSessionFromDisk (s.actors actor).sessionPath
  pure { steeringQueue := [], model, thinkingLevel }

def dropLease (self : Nat) : Block Unit :=
  updateCommand self fun me => { me with lease := none }

/-- `attach` in a handler that leaves the lease to the actor even where a listener throws. -/
def attachOwned (self actor : Nat) (lease : HeldLease) : Block Unit := do
  let session ← createSessionState actor
  tryCatch (attach actor lease session) fun error => do
    let owner ← readActor actor
    if owner.process = some lease.process then dropLease self else pure ()
    throw error
  dropLease self

/-- `attach` in a handler that gives its lease up in the next statement. -/
def attachUnowned (self actor : Nat) (lease : HeldLease) : Block Unit := do
  let session ← createSessionState actor
  tryCatch (attach actor lease session) fun error => do
    let owner ← readActor actor
    if owner.process = some lease.process then
      note (fun history => { history with attachThrew := true }) (fun _ => ⟨id, fun _ => rfl, id, id, id⟩) fun _ => rfl
    else pure ()
    throw error
  dropLease self

/-- Read final messages from disk and push them to the subscribers. -/
def releaseActor (actor : Nat) : Block Unit := do
  detach actor
  sendMessage

/-- What `acquireForActor` does where it fails. -/
def abandonLease (self actor : Nat) (lease : HeldLease) (error : JsString) : Block Unit := do
  let owner ← readActor actor
  if owner.process = some lease.process then detach actor else releaseHeld self
  throw error

def cwdOf (s : System) (sessionPath : JsString) : JsString :=
  match s.files.getSessionCwd sessionPath with
  | some cwd => if s.files.existsSync cwd then cwd else s.defaultCwd
  | none => s.defaultCwd

/-- Acquire, switch, and transfer a process lease to a detached actor. -/
def acquireForActor (self actor rounds : Nat) : Routine Nat := do
  let owner ← readActor actor
  match owner.process with
  | some proc => pure proc
  | none => do
    let s ← readSystem
    let lease ← acquireProcess self (cwdOf s owner.sessionPath) rounds
    tryCatch (do
      replacePiSession lease.process (.switch_session owner.sessionPath)
      attachOwned self actor lease
      sendMessage) fun error => Coroutine.lift (abandonLease self actor lease error)
    pure lease.process

def sendSteering (actor : Nat) (message : JsString) : Routine Unit := do
  let owner ← readActor actor
  match owner.process with
  | some proc =>
    if owner.isTurnActive then do
      enqueueSteering actor message
      tryCatch (do
        let _ ← sendRpc (some actor) proc (.steer message)
        pure ()) fun error => do
          dequeueSteering actor message
          throw error
    else throw (js "Session is not attached (agent not running)")
  | none => throw (js "Session is not attached (agent not running)")

/-- `publishEffectiveControlState`: what Pi reports replaces the session's controls. -/
def publishEffectiveControlState (actor : Nat) (data : PiRpcData) : Block Unit := do
  let owner ← readActor actor
  match owner.session, data.model with
  | some session, some model =>
    if session.model = some model ∧ session.thinkingLevel = data.thinkingLevel then pure ()
    else do
      updateActor actor fun owner => { owner with
        session := owner.session.map fun session => { session with
          model := some model
          thinkingLevel := data.thinkingLevel } }
      sendMessage
  | _, _ => pure ()

/-- Refresh controls after extensions or model clamps that happened in-turn. -/
def reconcileEffectiveControlState (proc actor : Nat) : Routine Unit := do
  let data ← sendRpcChecked none proc .get_state
  publishEffectiveControlState actor data

def MODEL_CATALOG_RETRY_DELAYS_MS : List Nat :=
  [100, 250, 500, 1000, 2000, 4000, 8000, 16000]

def modelNotFound (model : ModelRef) : JsString :=
  js "Model not found: " ++ model.provider ++ js "/" ++ model.modelId

/-- Retry only Pi's exact missing-model response. -/
def setRequestedModelAfter (actor proc : Nat) (model : ModelRef) : List Nat → JsString → Routine Unit
  | [], lastError => throw lastError
  | delayMs :: delays, _ => do
    if 0 < delayMs then Coroutine.suspend .tick else pure ()
    let result ← (sendRpcChecked (some actor) proc (.set_model model)).attempt
    match result with
    | .ok _ => pure ()
    | .error message =>
      if message ≠ modelNotFound model then throw message
      else setRequestedModelAfter actor proc model delays message

def setRequestedModel (actor proc : Nat) (model : ModelRef) : Routine Unit :=
  setRequestedModelAfter actor proc model (0 :: MODEL_CATALOG_RETRY_DELAYS_MS) []

structure ControlCommand where
  message : JsString
  model : Option ModelRef
  thinkingLevel : Option JsString
  images : Bool

/-- Apply a client's requested controls, then publish pi's effective state before the prompt starts. -/
def applyRequestedControlState (proc actor : Nat) (command : ControlCommand) : Routine Unit := do
  match command.model with
  | none => throw (js "BUG: prompt command received without model")
  | some model => do
    let before ← sendRpcChecked none proc .get_state
    if before.model ≠ some model then setRequestedModel actor proc model else pure ()
    match command.thinkingLevel with
    | some level => do
      let _ ← sendRpcChecked (some actor) proc (.set_thinking_level level)
      pure ()
    | none => pure ()
    let after ← sendRpcChecked none proc .get_state
    if after.model ≠ some model then
      throw (js "Failed to switch model to " ++ model.provider ++ js "/" ++ model.modelId)
    else do
      publishEffectiveControlState actor after
      sendMessage

def materializePromptImages (images : Bool) : Routine Unit := do
  if images then do
    Coroutine.suspend .tick
    hostCall
  else pure ()

def hasStarted (s : System) (observer : Nat) : Bool :=
  (s.observers[observer]?).elim false TurnEventObserver.started

def didPromptStart (proc observer : Nat) : Routine Bool := do
  let s ← readSystem
  if hasStarted s observer then pure true
  else
    tryCatch (do
      let data ← sendRpcChecked none proc .get_state
      let s ← readSystem
      pure (data.isStreaming || hasStarted s observer)) fun _ => pure true

def exitedError (proc : Nat) : JsString :=
  js s!"pi process #{proc} exited before the turn settled"

def settle (signal : Option Signal) (proc : Nat) : Block Unit :=
  match signal with
  | some (.settled _) => pure ()
  | _ => throw (exitedError proc)

def waitForPromptSettlement (proc observer : Nat) (promptStarted : Option Bool) : Routine Unit := do
  let didStart ← match promptStarted with
    | some promptStarted => pure promptStarted
    | none => didPromptStart proc observer
  if ¬ didStart then pure ()
  else do
    let s ← readSystem
    if s.pool.hasNoExitCode proc then do
      Coroutine.suspend (.settlement observer proc s.signals.length)
      let later ← readSystem
      settle (firstSignal later.signals observer proc s.signals.length) proc
    else settle (firstSignal s.signals observer proc s.signals.length) proc

def setTurnEventCleanup (actor generation observer : Nat) : Block Unit := do
  let owner ← readActor actor
  if generation ≠ owner.turnGeneration ∨ ¬ owner.isTurnActive then
    updateObserver observer fun observer => { observer with subscribed := false }
  else do
    match owner.turnEventCleanup with
    | some before => updateObserver before fun observer => { observer with subscribed := false }
    | none => pure ()
    updateActor actor fun owner => { owner with turnEventCleanup := some observer }

def setupTurnEventForwarding (actor proc generation : Nat) : Block Nat := do
  let s ← readSystem
  if (s.actors actor).session = none ∨ ¬ (s.actors actor).owns proc generation then
    throw (js "setupTurnEventForwarding called without actor ownership for " ++ (s.actors actor).sessionPath)
  else do
    Atomic.modify (fun s => { s with observers := s.observers ++ [{
      actor, process := proc, generation, subscribed := true, started := false }] }) fun _ =>
        Adds.frame rfl rfl (Nat.le_refl _) fun _ _ => ⟨rfl, Nat.le_refl _⟩
    setTurnEventCleanup actor generation s.observers.length
    pure s.observers.length

def injectSessionError (actor : Nat) : Block Unit := do
  let owner ← readActor actor
  match owner.session with
  | some _ => sendMessage
  | none => pure ()

def timedOut (error : JsString) : Bool :=
  (js "Timeout waiting for RPC response to prompt") <:+: error

/-- `buildPromptFailureMessage`, without the tails that it takes from the session and from Pi. -/
def buildPromptFailureMessage (error : JsString) : JsString :=
  if timedOut error then js "Prompt timed out waiting for pi RPC response" else error

/-- `proc.process.kill("SIGTERM")` in an error path. -/
def killProcess (self proc : Nat) : Block Unit :=
  Atomic.modify (fun s => { s with
    pool := (s.pool.kill proc).2
    history := { s.history with kills := s.history.kills ++ [{
      process := proc
      command := self
      withdrawn := s.pool.isDecommissioning proc || s.pool.isFinalized proc
      contested := s.pool.leaseObjects.any fun lease =>
        lease.process = proc && !lease.released && lease.acquiredBy ≠ self }] } }) fun s =>
    { pool := fun h => h.kill proc
      created := Nat.le_refl _
      paths := fun _ _ => rfl
      generation := fun _ _ => Nat.le_refl _
      history := ⟨id, id, id, id, id⟩
      kills := by
        intro hvalid kill hkill
        obtain hkill | hkill := List.mem_append.mp hkill
        · exact .inl hkill
        · refine .inr fun ⟨hwithdrawn, hcontested⟩ => ?_
          obtain rfl := List.mem_singleton.mp hkill
          refine KillSafe.of_grows ⟨?_, fun lease object hobject hprocess hreleased => ?_⟩ (hvalid.kill proc).2
          · exact (Bool.or_eq_true _ _).mp hwithdrawn
          · simp only [List.any_eq_false, Bool.and_eq_true, decide_eq_true_eq, not_and] at hcontested
            by_contra hother
            refine hcontested object (List.mem_of_getElem? hobject) ⟨hprocess, ?_⟩ hother
            simp [hreleased] }

/-- The body of a `prompt failure`. -/
def failTurn (actor proc : Nat) : Block Unit := do
  let owner ← readActor actor
  if owner.process ≠ some proc then pure ()
  else do
    markFailed actor
    injectSessionError actor
    releaseActor actor

/-- The end of an error path: a process that no actor owns is signalled. -/
def abandonProcess (self : Nat) (error : JsString) : Block Unit := do
  let s ← readSystem
  match (s.commands self).proc with
  | some proc => if s.pool.hasNoExitCode proc then killProcess self proc else pure ()
  | none => pure ()
  if (s.commands self).promptAccepted then pure () else throw error

/-- The error path of `handlePrompt` and of `handleForkPrompt`; the first one drops the actor of a new session
    that it could not attach. -/
def turnFailed (self : Nat) (operation : JsString) (isNewSession : Bool) (error : JsString) : Routine Unit := do
  releaseHeld self
  let s ← readSystem
  let me := s.commands self
  match me.actor with
  | none => abandonProcess self error
  | some actor => do
    if isNewSession ∧ ¬ (s.actors actor).isAttached then discardPending me.sessionPath else pure ()
    let s ← readSystem
    match me.proc with
    | none => abandonProcess self error
    | some proc =>
      if (s.actors actor).process = some proc then do
        enqueue self actor operation (Coroutine.lift (failTurn actor proc))
        let s ← readSystem
        if timedOut error ∧ s.pool.hasNoExitCode proc then killProcess self proc else pure ()
        if (s.commands self).promptAccepted then pure () else throw (buildPromptFailureMessage error)
      else abandonProcess self error

/-- A prompt; without a session path it is for a new session, in `cwd`. -/
structure PromptCommand where
  sessionPath : Option JsString
  cwd : Option JsString
  control : ControlCommand

/-- The process of a prompt for a new session, and the session that Pi has created in it. -/
def createSession (self : Nat) (command : PromptCommand) (rounds : Nat) : Routine Unit := do
  let s ← readSystem
  let lease ← acquireProcess self (command.cwd.getD s.defaultCwd) rounds
  updateCommand self fun me => { me with proc := some lease.process }
  waitForReady lease.process
  replacePiSession lease.process .new_session
  let data ← sendRpcChecked none lease.process .get_state
  let s ← readSystem
  match data.sessionFile with
  | some createdPath => do
    let sessionPath ← ofExcept (s.files.resolvePending createdPath)
    updateCommand self fun me => { me with sessionPath }
  | none => throw (js "Failed to get session path from new session")

/-- A handler looks the actor up that it will attach. -/
def lookUpActor (self : Nat) (sessionPath : JsString) (isNewSession : Bool) : Block Nat := do
  let actor ← if isNewSession then getPending sessionPath else getOrCreate sessionPath
  updateCommand self fun me => { me with actor := some actor }
  pure actor

def startTurn (self actor proc : Nat) : Block Nat := do
  updateCommand self fun me => { me with proc := some proc }
  let generation ← beginTurn actor
  updateCommand self fun me => { me with generation := some generation }
  setupTurnEventForwarding actor proc generation

/-- A prompt finds a turn in progress. -/
def joinTurn (self : Nat) : Block Unit := do
  let me ← readCommand self
  match me.lease with
  | some _ =>
    note (fun history => { history with joinedTurn := true }) (fun _ => ⟨id, id, id, id, fun _ => rfl⟩) fun _ => rfl
  | none => pure ()

/-- The process of a prompt's turn: its own, or one that is acquired for the actor. -/
def processForTurn (self actor rounds : Nat) : Routine Nat := do
  let me ← readCommand self
  match me.lease with
  | some lease => do
    attachUnowned self actor lease
    sendMessage
    pure lease.process
  | none => acquireForActor self actor rounds

/-- A new session that Pi has made use of becomes visible. -/
def publishCreated (self : Nat) (promptStarted : Bool) : Block Unit := do
  let s ← readSystem
  let sessionPath := (s.commands self).sessionPath
  if promptStarted || s.files.existsSync sessionPath then do
    updateCommand self fun me => { me with sessionCreated := true }
    promotePending sessionPath
    sendMessage
  else pure ()

/-- The body of `prompt start`: the observer of the turn, and whether a turn has started. -/
def startPrompt (self actor : Nat) (command : PromptCommand) (rounds : Nat) : Routine (Option (Nat × Bool)) := do
  let owner ← readActor actor
  if owner.isTurnActive then do
    joinTurn self
    sendSteering actor command.control.message
    pure none
  else do
    ofExcept (owner.assertAvailable (js "start prompt"))
    let proc ← processForTurn self actor rounds
    let observer ← startTurn self actor proc
    applyRequestedControlState proc actor command.control
    materializePromptImages command.control.images
    let response ← sendRpc (some actor) proc (.prompt command.control.message)
    match response with
    | .failure error => throw error
    | .success _ => do
      let promptStarted ← didPromptStart proc observer
      if command.sessionPath = none then publishCreated self promptStarted else pure ()
      updateCommand self fun me => { me with promptAccepted := true }
      reconcileEffectiveControlState proc actor
      pure (some (observer, promptStarted))

/-- The body of a `prompt settlement`. -/
def settlePrompt (self actor : Nat) : Routine Unit := do
  let s ← readSystem
  match (s.commands self).proc, (s.commands self).generation with
  | some proc, some generation =>
    if ¬ (s.actors actor).owns proc generation then pure ()
    else do
      reconcileEffectiveControlState proc actor
      releaseActor actor
  | _, _ => pure ()

/-- A turn of the command's own, up to the release of its actor. -/
def awaitTurn (self actor observer : Nat) (operation : JsString) (promptStarted : Option Bool) : Routine Unit := do
  let me ← readCommand self
  match me.proc with
  | some proc => do
    waitForPromptSettlement proc observer promptStarted
    enqueue self actor operation (settlePrompt self actor)
  | none => pure ()

def runPrompt (self : Nat) (command : PromptCommand) (rounds : Nat) : Routine Unit := do
  if command.sessionPath = none then createSession self command rounds else pure ()
  let me ← readCommand self
  let actor ← lookUpActor self me.sessionPath (command.sessionPath = none)
  let start ← enqueue self actor (js "prompt start") (startPrompt self actor command rounds)
  match start with
  | none => updateCommand self fun me => { me with promptAccepted := true }
  | some (observer, promptStarted) =>
    awaitTurn self actor observer (js "prompt settlement") (some promptStarted)

def missingPath : JsString :=
  js "Missing sessionPath"

/-- The path of a session that exists, in the locals of a handler. -/
def resolveExisting (self : Nat) (sessionPath : JsString) : Block JsString := do
  let s ← readSystem
  let sessionPath ← ofExcept (s.files.resolveExisting sessionPath)
  updateCommand self fun me => { me with sessionPath }
  pure sessionPath

def handlePrompt (self : Nat) (command : PromptCommand) (rounds : Nat) : Routine Unit := do
  match command.sessionPath with
  | some requestedPath =>
    if requestedPath = [] then throw missingPath
    else do
      let _ ← resolveExisting self requestedPath
      updateCommand self fun me => { me with sessionCreated := true }
  | none => pure ()
  tryCatch (runPrompt self command rounds)
    (turnFailed self (js "prompt failure") (command.sessionPath = none))

def cloneSessionFile (newSessionPath : JsString) : Routine Unit := do
  Coroutine.suspend .tick
  hostCall
  let s ← readSystem
  let _ ← ofExcept (s.files.resolveExisting newSessionPath)
  pure ()

/-- The body of `fork prompt source` and of `fork current state`. -/
def cloneSource (source : Nat) (operation newSessionPath : JsString) : Routine Unit := do
  let owner ← readActor source
  ofExcept (owner.assertAvailable operation)
  cloneSessionFile newSessionPath

structure ForkPromptCommand where
  sessionPath : JsString
  newSessionPath : JsString
  control : ControlCommand

/-- The process of a fork's turn, with the copied session open in it. -/
def processForFork (self actor : Nat) (cwd : JsString) (rounds : Nat) : Routine Nat := do
  let lease ← acquireProcess self cwd rounds
  updateCommand self fun me => { me with proc := some lease.process }
  waitForReady lease.process
  let owner ← readActor actor
  replacePiSession lease.process (.switch_session owner.sessionPath)
  attachUnowned self actor lease
  sendMessage
  sendMessage
  pure lease.process

/-- The body of `fork prompt start`. -/
def startForkPrompt (self actor : Nat) (cwd : JsString) (command : ForkPromptCommand) (rounds : Nat) : Routine Nat := do
  let owner ← readActor actor
  ofExcept (owner.assertAvailable (js "fork and prompt"))
  let proc ← processForFork self actor cwd rounds
  let observer ← startTurn self actor proc
  applyRequestedControlState proc actor command.control
  materializePromptImages command.control.images
  let _ ← sendRpcChecked (some actor) proc (.prompt command.control.message)
  updateCommand self fun me => { me with promptAccepted := true }
  reconcileEffectiveControlState proc actor
  pure observer

def runForkPrompt (self actor : Nat) (cwd : JsString) (command : ForkPromptCommand) (rounds : Nat) : Routine Unit := do
  let observer ← enqueue self actor (js "fork prompt start") (startForkPrompt self actor cwd command rounds)
  awaitTurn self actor observer (js "fork prompt settlement") none

def handleForkPrompt (self : Nat) (command : ForkPromptCommand) (rounds : Nat) : Routine Unit := do
  let sessionPath ← resolveExisting self command.sessionPath
  if command.control.message = [] then throw (js "Missing message")
  else do
    let source ← getOrCreate sessionPath
    enqueue self source (js "fork prompt source") (cloneSource source (js "fork and prompt") command.newSessionPath)
    let s ← readSystem
    let actor ← lookUpActor self command.newSessionPath false
    tryCatch (runForkPrompt self actor (cwdOf s sessionPath) command rounds)
      (turnFailed self (js "fork prompt failure") false)

def handleForkCurrent (self : Nat) (sessionPath newSessionPath : JsString) : Routine Unit := do
  let sessionPath ← resolveExisting self sessionPath
  let source ← getOrCreate sessionPath
  enqueue self source (js "fork current state") (cloneSource source (js "fork current state") newSessionPath)

def notAttached : JsString :=
  js "Session is not attached (agent not running)"

def handleSteer (self : Nat) (sessionPath message : JsString) : Routine Unit :=
  if sessionPath = [] then throw missingPath
  else do
    let s ← readSystem
    match s.registry.find sessionPath with
    | some actor => enqueue self actor (js "steer") (sendSteering actor message)
    | none => throw notAttached

def handleRemoveSteering (self : Nat) (sessionPath : JsString) (index : Int) : Routine Unit :=
  if sessionPath = [] then throw missingPath
  else do
    let s ← readSystem
    match s.registry.find sessionPath with
    | some actor => enqueue self actor (js "remove steering") (Coroutine.lift (removeSteeringByIndex actor index))
    | none => pure ()
    sendMessage

def abortTurn (actor : Nat) : Routine Unit := do
  let owner ← readActor actor
  match owner.process with
  | some proc =>
    if owner.isTurnActive then do
      let _ ← sendRpc (some actor) proc .abort
      pure ()
    else pure ()
  | none => pure ()

def handleAbort (self : Nat) (sessionPath : JsString) : Routine Unit := do
  let s ← readSystem
  match if sessionPath = [] then none else s.registry.find sessionPath with
  | some actor => enqueue self actor (js "abort") (abortTurn actor)
  | none => pure ()
  sendMessage

def hardKill (actor : Nat) : Block Unit := do
  let owner ← readActor actor
  match owner.process with
  | some proc => do
    let _ ← onPool (fun pool => pool.forceKill proc) fun _ h => h.forceKill proc
    markFailed actor
    releaseActor actor
  | none => pure ()

def handleHardKill (self : Nat) (sessionPath : JsString) : Routine Unit :=
  if sessionPath = [] then throw missingPath
  else do
    let s ← readSystem
    match s.registry.find sessionPath with
    | some actor => enqueue self actor (js "hard kill") (Coroutine.lift (hardKill actor))
    | none => pure ()
    sendMessage

/-- A command of an available session on a process that is released after it. -/
def useActor {α : Type} (self actor : Nat) (operation : JsString) (rounds : Nat) (body : Nat → Routine α) : Routine α := do
  let owner ← readActor actor
  ofExcept (owner.assertAvailable operation)
  let proc ← acquireForActor self actor rounds
  (body proc).finallyDo (Coroutine.lift (releaseActor actor))

def checkSucceeded : PiRpcResponse → Except JsString Unit
  | .success _ => .ok ()
  | .failure error => .error error

def handleCompact (self : Nat) (sessionPath : JsString) (rounds : Nat) : Routine Unit := do
  let sessionPath ← resolveExisting self sessionPath
  let actor ← lookUpActor self sessionPath false
  let response ← enqueue self actor (js "compact") (useActor self actor (js "compact") rounds fun proc =>
    sendRpc (some actor) proc .compact)
  ofExcept (checkSucceeded response)
  sendMessage

def handleSetSessionName (self : Nat) (sessionPath name : JsString) (rounds : Nat) : Routine Unit := do
  let sessionPath ← resolveExisting self sessionPath
  let actor ← lookUpActor self sessionPath false
  let response ← enqueue self actor (js "set session name") (useActor self actor (js "rename session") rounds fun proc =>
    sendRpc (some actor) proc (.set_session_name name))
  ofExcept (checkSucceeded response)
  sendMessage

/-- The `fork` of Pi and the session that it has opened. -/
def forkSession (self actor proc : Nat) (entryId : JsString) : Routine Unit := do
  updateCommand self fun me => { me with forking := true }
  let _ ← sendRpcChecked (some actor) proc (.fork entryId)
  let data ← sendRpcChecked none proc .get_state
  let s ← readSystem
  match data.sessionFile with
  | some returnedPath => do
    let _ ← ofExcept (s.files.resolveExisting returnedPath)
    pure ()
  | none => pure ()

def handleFork (self : Nat) (sessionPath entryId : JsString) (rounds : Nat) : Routine Unit := do
  let sessionPath ← resolveExisting self sessionPath
  if entryId = [] then throw (js "Missing entryId")
  else do
    let actor ← lookUpActor self sessionPath false
    enqueue self actor (js "fork") (useActor self actor (js "fork") rounds fun proc =>
      forkSession self actor proc entryId)
    sendMessage

/-- The body of `get session stats`: a lease that was acquired to inspect a detached session is released. -/
def inspectSession (self actor rounds : Nat) : Routine Unit := do
  let owner ← readActor actor
  let proc ← acquireForActor self actor rounds
  (do
    let _ ← sendRpcChecked (some actor) proc .get_session_stats
    pure ()).finallyDo (if owner.process = none then Coroutine.lift (releaseActor actor) else pure ())

def handleGetSessionStats (self : Nat) (sessionPath : JsString) (rounds : Nat) : Routine Unit := do
  let sessionPath ← resolveExisting self sessionPath
  let actor ← lookUpActor self sessionPath false
  enqueue self actor (js "get session stats") (inspectSession self actor rounds)
  sendMessage

/-- A command on a leased process of no session. -/
def useLease (self proc : Nat) (command : PiRpcCommand) : Routine Unit :=
  (do
    let _ ← sendRpcChecked none proc command
    sendMessage).finallyDo (Coroutine.lift (releaseHeld self))

def handleGetAvailableModels (self rounds : Nat) : Routine Unit := do
  Coroutine.suspend .tick
  hostCall
  let lease ← acquireAnyProcess self rounds
  useLease self lease.process .get_available_models

def handleGetDefaultModel (self rounds : Nat) : Routine Unit := do
  let lease ← acquireAnyProcess self rounds
  useLease self lease.process .get_state

/-- The cwd of the conversation whose commands are asked for. -/
def commandsCwd (s : System) (cwd sessionPath : Option JsString) : Except JsString JsString :=
  match sessionPath with
  | none => .ok (cwd.getD s.defaultCwd)
  | some requestedPath =>
    match s.files.resolveExisting requestedPath with
    | .ok sessionPath => .ok (cwdOf s sessionPath)
    | .error error =>
      if s.files.existsSync requestedPath then .error error
      else
        match s.files.resolvePending requestedPath with
        | .error error => .error error
        | .ok pendingPath =>
          match (s.registry.find pendingPath).bind fun actor => (s.actors actor).process with
          | none => .error error
          | some proc => .ok ((s.pool.processes[proc]?).elim s.defaultCwd RpcProcess.cwd)

def handleGetCommands (self : Nat) (cwd sessionPath : Option JsString) (rounds : Nat) : Routine Unit := do
  let s ← readSystem
  let cwd ← ofExcept (commandsCwd s cwd sessionPath)
  let lease ← acquireProcess self cwd rounds
  useLease self lease.process .get_commands

def decommissionAll : Block Unit :=
  onPool (fun pool => ((), pool.decommissionAll)) fun _ h => h.decommissionAll

def handleReloadProcesses : Routine Unit := do
  decommissionAll
  sendMessage

/-- The body of a session mutation that the REST interface runs. -/
def mutateSession (actor : Nat) (operation : JsString) : Routine Unit := do
  let owner ← readActor actor
  ofExcept (owner.assertAvailable operation)
  Coroutine.suspend .tick
  hostCall

def runSessionMutation (self : Nat) (sessionPath operation : JsString) : Routine Unit := do
  let actor ← getOrCreate sessionPath
  enqueue self actor operation (mutateSession actor operation)

/-- The body of a `process exit`. -/
def exitTurn (actor proc : Nat) : Block Unit := do
  let owner ← readActor actor
  if owner.process ≠ some proc then pure ()
  else do
    markFailed actor
    releaseActor actor

/-- The pool drops a process that has ended, and the waiting turns hear of its exit. -/
def finalizeProcess (proc : Nat) (exitCode : Option Int) (exits : Bool) : Block Unit := do
  onPool (fun pool => ((), pool.finalizeProcess proc exitCode)) fun _ h => h.finalizeProcess proc exitCode
  if exits then signal (.exited proc) else pure ()

/-- A process exits, or it fails to spawn; `handleProcessExit` cleans the owning actor up. -/
def onProcessExit (self proc : Nat) (exitCode : Option Int) (exits : Bool) : Routine Unit := do
  let s ← readSystem
  if s.pool.isFinalized proc then pure ()
  else do
    finalizeProcess proc exitCode exits
    let s ← readSystem
    match s.registry.getActorForProcess proc with
    | some actor => enqueue self actor (js "process exit") (Coroutine.lift (exitTurn actor proc))
    | none => pure ()

/-- What the forwarding of a turn makes of an event that its actor has applied. -/
def onApplied (observer : Nat) (result : AppliedProcessEvent) : Block Unit := do
  if result.started then updateObserver observer fun observer => { observer with started := true } else pure ()
  if result.settled then signal (.settled observer) else pure ()

/-- Pi emits an event that an observer is subscribed to. -/
def onProcessEvent (self observer : Nat) (event : PiEvent) : Routine Unit := do
  let s ← readSystem
  match s.observers[observer]? with
  | some forwarding =>
    if forwarding.subscribed then do
      let result ← enqueue self forwarding.actor (js "process event")
        (Coroutine.lift (applyProcessEvent forwarding.actor forwarding.process forwarding.generation event))
      onApplied observer result
    else pure ()
  | none => pure ()

/-- What clients, the REST interface, Pi and the system start. -/
inductive Input
  | prompt (command : PromptCommand) (rounds : Nat)
  | steer (sessionPath message : JsString)
  | remove_steering (sessionPath : JsString) (index : Int)
  | abort (sessionPath : JsString)
  | hard_kill (sessionPath : JsString)
  | compact (sessionPath : JsString) (rounds : Nat)
  | get_available_models (rounds : Nat)
  | get_default_model (rounds : Nat)
  | get_commands (cwd sessionPath : Option JsString) (rounds : Nat)
  | reload_processes
  | get_session_stats (sessionPath : JsString) (rounds : Nat)
  | fork (sessionPath entryId : JsString) (rounds : Nat)
  | fork_current (sessionPath newSessionPath : JsString)
  | fork_prompt (command : ForkPromptCommand) (rounds : Nat)
  | set_session_name (sessionPath name : JsString) (rounds : Nat)
  | session_mutation (sessionPath operation : JsString)
  | process_event (observer : Nat) (event : PiEvent)
  | process_exit (proc : Nat) (exitCode : Option Int) (exits : Bool)

/-- A handler from its start to its end. -/
def runCommand (self : Nat) (handler : Routine Unit) : Routine Unit := do
  updateCommand self fun _ => { Command.none with finished := false }
  let result ← handler.attempt
  updateCommand self fun me => { me with finished := true }
  ofExcept result

def handle : Input → Nat → Routine Unit
  | .prompt command rounds, self => runCommand self (handlePrompt self command rounds)
  | .steer sessionPath message, self => runCommand self (handleSteer self sessionPath message)
  | .remove_steering sessionPath index, self => runCommand self (handleRemoveSteering self sessionPath index)
  | .abort sessionPath, self => runCommand self (handleAbort self sessionPath)
  | .hard_kill sessionPath, self => runCommand self (handleHardKill self sessionPath)
  | .compact sessionPath rounds, self => runCommand self (handleCompact self sessionPath rounds)
  | .get_available_models rounds, self => runCommand self (handleGetAvailableModels self rounds)
  | .get_default_model rounds, self => runCommand self (handleGetDefaultModel self rounds)
  | .get_commands cwd sessionPath rounds, self => runCommand self (handleGetCommands self cwd sessionPath rounds)
  | .reload_processes, self => runCommand self handleReloadProcesses
  | .get_session_stats sessionPath rounds, self => runCommand self (handleGetSessionStats self sessionPath rounds)
  | .fork sessionPath entryId rounds, self => runCommand self (handleFork self sessionPath entryId rounds)
  | .fork_current sessionPath newSessionPath, self =>
    runCommand self (handleForkCurrent self sessionPath newSessionPath)
  | .fork_prompt command rounds, self => runCommand self (handleForkPrompt self command rounds)
  | .set_session_name sessionPath name rounds, self =>
    runCommand self (handleSetSessionName self sessionPath name rounds)
  | .session_mutation sessionPath operation, self => runCommand self (runSessionMutation self sessionPath operation)
  | .process_event observer event, self => onProcessEvent self observer event
  | .process_exit proc exitCode exits, self => onProcessExit self proc exitCode exits

/-- What Pi, the timers, the host and the clients do to the state that the handlers share. -/
inductive Change
  | rpcResponse (request : Nat) (response : PiRpcResponse) (opened : Option JsString) (sameCommand : Bool)
  | rpcTimeout (request : Nat)
  | prewarm (cwd : JsString)
  | resumePrewarm (index : Nat)
  | decommissionAll
  | files (files : Files)
  | clock (now : Nat)
  | piAvailable (available : Bool)
  | sendFails (fails : List Bool)
  | hostFails (fails : List Bool)

def applyChange (s : System) : Change → System
  | .rpcResponse request response opened sameCommand =>
    { s with pool := s.pool.onRpcResponse request response opened sameCommand }
  | .rpcTimeout request => { s with pool := s.pool.onRpcTimeout request }
  | .prewarm cwd => { s with pool := s.pool.prewarm s.files.existsSync cwd }
  | .resumePrewarm index => { s with pool := s.pool.resumePrewarm s.files.existsSync index }
  | .decommissionAll => { s with pool := s.pool.decommissionAll }
  | .files files => { s with files }
  | .clock now => { s with clock := now }
  | .piAvailable available => { s with piAvailable := available }
  | .sendFails fails => { s with sendFails := fails }
  | .hostFails fails => { s with hostFails := fails }

theorem adds_applyChange (s : System) (change : Change) : Adds s (applyChange s change) := by
  cases change with
  | rpcResponse request response opened sameCommand =>
    exact Adds.ofPool fun h => h.onRpcResponse request response opened sameCommand
  | rpcTimeout request => exact Adds.ofPool fun h => h.onRpcTimeout request
  | prewarm cwd => exact Adds.ofPool fun h => h.continuePrewarm s.files.existsSync cwd _ _
  | resumePrewarm index => exact Adds.ofPool fun h => h.resumePrewarm s.files.existsSync index
  | decommissionAll => exact Adds.ofPool fun h => h.decommissionAll
  | files files => exact Adds.frame rfl rfl (Nat.le_refl _) fun _ _ => ⟨rfl, Nat.le_refl _⟩
  | clock now => exact Adds.frame rfl rfl (Nat.le_refl _) fun _ _ => ⟨rfl, Nat.le_refl _⟩
  | piAvailable available => exact Adds.frame rfl rfl (Nat.le_refl _) fun _ _ => ⟨rfl, Nat.le_refl _⟩
  | sendFails fails => exact Adds.frame rfl rfl (Nat.le_refl _) fun _ _ => ⟨rfl, Nat.le_refl _⟩
  | hostFails fails => exact Adds.frame rfl rfl (Nat.le_refl _) fun _ _ => ⟨rfl, Nat.le_refl _⟩

/-- The commands of `WsHandler` on one server. -/
def program : Program System Wait JsString Input Change where
  body := handle
  ready := ready
  environment := applyChange
  environment_evolves := adds_applyChange

/-- A server that was just started. -/
def System.start (maxProcesses prewarmCount : Nat) (defaultCwd : JsString) (files : Files) : System where
  pool := ProcessPool.start maxProcesses prewarmCount
  actors := fun _ => SessionActor.create []
  actorCount := 0
  registry := SessionRegistry.start
  observers := []
  signals := []
  commands := fun _ => Command.none
  files := files
  defaultCwd := defaultCwd
  piAvailable := true
  clock := 0
  sendFails := []
  hostFails := []
  history := {
    releases := []
    kills := []
    rpcs := []
    illegalTransition := false
    attachThrew := false
    listenerThrew := false
    sendThrew := false
    joinedTurn := false }

end pipane.ws_handler.runtime

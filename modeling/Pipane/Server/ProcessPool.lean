import Pipane.Lib.JsString
import Pipane.Lib.OrderedMap
import Pipane.Server.SessionJsonl

open javascript pipane.session_jsonl

namespace pipane.process_pool

/-- The RPC commands of Pi that the server sends. -/
inductive PiRpcCommand
  | new_session
  | switch_session (sessionPath : JsString)
  | fork (entryId : JsString)
  | get_state
  | prompt (message : JsString)
  | steer (message : JsString)
  | abort
  | compact
  | set_session_name (name : JsString)
  | set_model (model : ModelRef)
  | set_thinking_level (level : JsString)
  | get_session_stats
  | get_available_models
  | get_commands
deriving DecidableEq

def PiRpcCommand.type : PiRpcCommand → JsString
  | .new_session => js "new_session"
  | .switch_session _ => js "switch_session"
  | .fork _ => js "fork"
  | .get_state => js "get_state"
  | .prompt _ => js "prompt"
  | .steer _ => js "steer"
  | .abort => js "abort"
  | .compact => js "compact"
  | .set_session_name _ => js "set_session_name"
  | .set_model _ => js "set_model"
  | .set_thinking_level _ => js "set_thinking_level"
  | .get_session_stats => js "get_session_stats"
  | .get_available_models => js "get_available_models"
  | .get_commands => js "get_commands"

/-- The commands through which Pi changes its session. -/
def PiRpcCommand.changesSession : PiRpcCommand → Bool
  | .new_session | .switch_session _ | .fork _ => true
  | _ => false

/-- What the handlers read of the data of a response. -/
structure PiRpcData where
  cancelled : Bool
  sessionFile : Option JsString
  model : Option ModelRef
  thinkingLevel : JsString
  isStreaming : Bool
deriving DecidableEq

inductive PiRpcResponse
  | success (data : PiRpcData)
  | failure (error : JsString)
deriving DecidableEq

/-- A request to a process: whether Pi has answered it, in time or late, and what its promise was settled with. -/
structure RpcRequest where
  process : Nat
  command : PiRpcCommand
  answered : Bool
  outcome : Option (Except JsString PiRpcResponse)

/-- A process that was spawned. `session` is the one that Pi has opened, `finalized` says that its exit was
    handled; a process that a signal has ended keeps an empty exit code. -/
structure RpcProcess where
  cwd : JsString
  exitCode : Option Int
  killed : Bool
  finalized : Bool
  session : Option JsString

/-- Exclusive ownership of one pooled process, and who acquired it. -/
structure RpcProcessLease where
  process : Nat
  released : Bool
  acquiredBy : Nat

/-- A `prewarm` that waits for the process that it has spawned last. -/
structure Prewarm where
  cwd : JsString
  needed : Nat
  next : Nat
  request : Nat

/-- Processes, leases and requests are named by their positions in `processes`, `leaseObjects` and `requests`;
    `pools`, `leases` and `decommissioning` are the maps of the source. -/
structure ProcessPool where
  maxProcesses : Nat
  prewarmCount : Nat
  processes : List RpcProcess
  pools : OrderedMap JsString (List Nat)
  leaseObjects : List RpcProcessLease
  leases : OrderedMap Nat Nat
  decommissioning : OrderedMap Nat Unit
  requests : List RpcRequest
  prewarms : List Prewarm

def timeoutError (command : PiRpcCommand) : JsString :=
  js "Timeout waiting for RPC response to " ++ command.type

def exitError (proc : Nat) : JsString :=
  js s!"pi process #{proc} exited unexpectedly"

namespace ProcessPool

def start (maxProcesses prewarmCount : Nat) : ProcessPool where
  maxProcesses := maxProcesses
  prewarmCount := prewarmCount
  processes := []
  pools := ∅
  leaseObjects := []
  leases := ∅
  decommissioning := ∅
  requests := []
  prewarms := []

/-- `proc.process.exitCode === null`. -/
def hasNoExitCode (self : ProcessPool) (proc : Nat) : Bool :=
  match self.processes[proc]? with
  | some process => process.exitCode.isNone
  | none => false

def isFinalized (self : ProcessPool) (proc : Nat) : Bool :=
  match self.processes[proc]? with
  | some process => process.finalized
  | none => false

def isLeased (self : ProcessPool) (proc : Nat) : Bool :=
  self.leases.contains proc

def isDecommissioning (self : ProcessPool) (proc : Nat) : Bool :=
  self.decommissioning.contains proc

def getAllProcesses (self : ProcessPool) : List Nat :=
  self.pools.values.flatten

def totalProcesses (self : ProcessPool) : Nat :=
  (self.getAllProcesses.filter self.hasNoExitCode).length

def isAvailable (self : ProcessPool) (proc : Nat) : Bool :=
  self.hasNoExitCode proc && !self.leases.contains proc && !self.decommissioning.contains proc

def updateProcess (self : ProcessPool) (proc : Nat) (update : RpcProcess → RpcProcess) : ProcessPool :=
  match self.processes[proc]? with
  | some process => { self with processes := self.processes.set proc (update process) }
  | none => self

def poolForCwd (self : ProcessPool) (cwd : JsString) : List Nat :=
  (self.pools.get? cwd).getD []

/-- The position of the process that is spawned next, and the pool with it. -/
def spawn (self : ProcessPool) (cwd : JsString) : Nat × ProcessPool :=
  let proc := self.processes.length
  (proc, { self with
    processes := self.processes ++ [{ cwd, exitCode := none, killed := false, finalized := false, session := none }]
    pools := self.pools.set cwd (self.poolForCwd cwd ++ [proc]) })

def spawnError (cwd : JsString) : JsString :=
  js "Cannot spawn pi process: directory does not exist: " ++ cwd

/-- `kill`: a process that has ended cannot be signalled. -/
def kill (self : ProcessPool) (proc : Nat) : Bool × ProcessPool :=
  if self.isFinalized proc then (false, self)
  else (true, self.updateProcess proc fun process => { process with killed := true })

def markReleased (self : ProcessPool) (lease : Nat) : ProcessPool :=
  match self.leaseObjects[lease]? with
  | some object => { self with leaseObjects := self.leaseObjects.set lease { object with released := true } }
  | none => self

/-- A process exit, or an error before it could start; pending requests are rejected. -/
def finalizeProcess (self : ProcessPool) (proc : Nat) (exitCode : Option Int) : ProcessPool :=
  match self.processes[proc]? with
  | none => self
  | some process =>
    if process.finalized then self
    else
      let remaining := (self.poolForCwd process.cwd).erase proc
      let self := { self with
        processes := self.processes.set proc { process with exitCode, finalized := true }
        pools :=
          if remaining = [] then self.pools.erase process.cwd else self.pools.set process.cwd remaining }
      let self :=
        match self.leases.get? proc with
        | some lease => self.markReleased lease
        | none => self
      { self with
        leases := self.leases.erase proc
        decommissioning := self.decommissioning.erase proc
        requests := self.requests.map fun request =>
          if request.process = proc ∧ request.outcome.isNone then
            { request with outcome := some (.error (exitError proc)) }
          else request }

def unavailableError (proc : Nat) : JsString :=
  js s!"pi process #{proc} is not available"

def reserve (self : ProcessPool) (holder proc : Nat) : Except JsString Nat × ProcessPool :=
  if ¬ self.isAvailable proc then (.error (unavailableError proc), self)
  else
    let lease := self.leaseObjects.length
    (.ok lease, { self with
      leaseObjects := self.leaseObjects ++ [{ process := proc, released := false, acquiredBy := holder }]
      leases := self.leases.set proc lease })

/-- Atomically reserve a matching process, spawning one when capacity allows. -/
def acquire (self : ProcessPool) (existsSync : JsString → Bool) (holder : Nat) (cwd : JsString) :
    Except JsString (Option Nat) × ProcessPool :=
  let reserved (result : Except JsString Nat × ProcessPool) : Except JsString (Option Nat) × ProcessPool :=
    (result.1.map some, result.2)
  match (self.poolForCwd cwd).find? self.isAvailable with
  | some idle => reserved (self.reserve holder idle)
  | none =>
    if self.maxProcesses ≤ self.totalProcesses then (.ok none, self)
    else if ¬ existsSync cwd then (.error (spawnError cwd), self)
    else
      let (proc, self) := self.spawn cwd
      reserved (self.reserve holder proc)

/-- Reserve any idle live process, regardless of cwd. -/
def acquireAny (self : ProcessPool) (holder : Nat) : Except JsString (Option Nat) × ProcessPool :=
  match self.getAllProcesses.find? self.isAvailable with
  | some idle =>
    let (result, self) := self.reserve holder idle
    (result.map some, self)
  | none => (.ok none, self)

def hasBeenKilled (self : ProcessPool) (proc : Nat) : Bool :=
  match self.processes[proc]? with
  | some process => process.killed
  | none => false

/-- Called only by `RpcProcessLease.release()`. -/
def releaseLease (self : ProcessPool) (lease : Nat) : ProcessPool :=
  match self.leaseObjects[lease]? with
  | none => self
  | some object =>
    if object.released then self
    else if self.leases.get? object.process ≠ some lease then self.markReleased lease
    else
      let self := { self with leases := self.leases.erase object.process }.markReleased lease
      if self.isDecommissioning object.process ∧ self.hasNoExitCode object.process ∧ ¬ self.hasBeenKilled object.process then
        (self.kill object.process).2
      else self

inductive Decommissioned
  | ignored
  | draining
  | killed
deriving DecidableEq

def decommission (self : ProcessPool) (proc : Nat) : Decommissioned × ProcessPool :=
  if ¬ self.hasNoExitCode proc ∨ self.isDecommissioning proc then (.ignored, self)
  else
    let self := { self with decommissioning := self.decommissioning.set proc () }
    if self.isLeased proc then (.draining, self) else (.killed, (self.kill proc).2)

/-- Evict an idle process from a different cwd to free capacity. -/
def evictIdleDifferentCwd (self : ProcessPool) (targetCwd : JsString) : Option Nat × ProcessPool :=
  match (self.pools.entries.filter fun entry => entry.1 ≠ targetCwd).findSome? fun entry =>
      entry.2.find? self.isAvailable with
  | some victim => (some victim, (self.decommission victim).2)
  | none => (none, self)

/-- Immediately kill one process while keeping it unavailable until exit. -/
def forceKill (self : ProcessPool) (proc : Nat) : Bool × ProcessPool :=
  if ¬ self.hasNoExitCode proc then (false, self)
  else { self with decommissioning := self.decommissioning.set proc () }.kill proc

/-- Kill idle processes now and mark leased processes for kill on release. -/
def decommissionAll (self : ProcessPool) : ProcessPool :=
  self.getAllProcesses.foldl (fun self proc => (self.decommission proc).2) self

def deadError : JsString :=
  js "RPC process is dead"

/-- The request that is made, and the pool with it. -/
def sendRpc (self : ProcessPool) (proc : Nat) (command : PiRpcCommand) : Nat × ProcessPool :=
  let request : RpcRequest :=
    if self.hasNoExitCode proc then { process := proc, command, answered := false, outcome := none }
    else { process := proc, command, answered := true, outcome := some (.error deadError) }
  (self.requests.length, { self with requests := self.requests ++ [request] })

/-- A promise that is settled keeps its outcome. -/
def settle (self : ProcessPool) (request : Nat) (outcome : Except JsString PiRpcResponse) : ProcessPool :=
  match self.requests[request]? with
  | none => self
  | some pending =>
    if pending.outcome.isSome then self
    else { self with requests := self.requests.set request { pending with outcome := some outcome } }

/-- The timer of a request that is still pending. A timed-out request may still be executing, so its process
    never returns to the idle pool. -/
def onRpcTimeout (self : ProcessPool) (request : Nat) : ProcessPool :=
  match self.requests[request]? with
  | none => self
  | some pending =>
    if pending.outcome.isSome then self
    else
      ((self.settle request (.error (timeoutError pending.command))).decommission pending.process).2

/-- The session that Pi has after it has answered a command; `opened` is the one that it has created for it. -/
def sessionAfter (command : PiRpcCommand) (response : PiRpcResponse) (opened session : Option JsString) :
    Option JsString :=
  match command, response with
  | .new_session, .success data => if data.cancelled then session else opened
  | .switch_session sessionPath, .success data => if data.cancelled then session else some sessionPath
  | .fork _, .success data => if data.cancelled then session else opened
  | _, _ => session

/-- The state that Pi reports names the session that it has. -/
def reportSession (command : PiRpcCommand) (session : Option JsString) : PiRpcResponse → PiRpcResponse
  | .success data => .success { data with sessionFile := if command = .get_state then session else none }
  | .failure error => .failure error

def mismatchError (command : PiRpcCommand) : JsString :=
  js "Mismatched RPC response for " ++ command.type

/-- Pi answers a request, in time or late. `sameCommand` is false for a response that names another command. -/
def onRpcResponse (self : ProcessPool) (request : Nat) (response : PiRpcResponse) (opened : Option JsString)
    (sameCommand : Bool) : ProcessPool :=
  match self.requests[request]? with
  | none => self
  | some pending =>
    match self.processes[pending.process]? with
    | none => self
    | some process =>
      if pending.answered ∨ process.finalized then self
      else
        let response := reportSession pending.command process.session response
        let session := sessionAfter pending.command response opened process.session
        { self with
          processes := self.processes.set pending.process { process with session }
          requests := self.requests.set request { pending with answered := true } }.settle request
            (if sameCommand then .ok response else .error (mismatchError pending.command))

/-- The loop of `prewarm` from its `next` process on, up to the next wait. -/
def continuePrewarm (self : ProcessPool) (existsSync : JsString → Bool) (cwd : JsString) (needed next : Nat) :
    ProcessPool :=
  if needed ≤ next ∨ self.maxProcesses ≤ self.totalProcesses ∨ ¬ existsSync cwd then self
  else
    let (proc, self) := self.spawn cwd
    if next + 1 < needed then
      let (request, self) := self.sendRpc proc .get_state
      { self with prewarms := self.prewarms ++ [{ cwd, needed, next := next + 1, request }] }
    else self

def prewarm (self : ProcessPool) (existsSync : JsString → Bool) (cwd : JsString) : ProcessPool :=
  let existing := ((self.poolForCwd cwd).filter self.hasNoExitCode).length
  self.continuePrewarm existsSync cwd (min self.prewarmCount self.maxProcesses - existing) 0

/-- A `prewarm` goes on when its process is ready or will not be. -/
def resumePrewarm (self : ProcessPool) (existsSync : JsString → Bool) (index : Nat) : ProcessPool :=
  match self.prewarms[index]? with
  | none => self
  | some waiting =>
    match self.requests[waiting.request]? with
    | none => self
    | some request =>
      if request.outcome.isNone then self
      else
        { self with prewarms := self.prewarms.eraseIdx index }.continuePrewarm existsSync waiting.cwd waiting.needed
          waiting.next

end ProcessPool

end pipane.process_pool

import Mathlib.Data.List.Basic
import Pipane.Lib.Json
import Pipane.Server.ProcessPool.Leases

open javascript json transition

namespace pipane.process_pool

/-- A line of Pi that is a response. -/
structure PiRpcMessage where
  id : Option JsString
  command : JsString
  result : PiRpcResponse
deriving DecidableEq

/-- A call of `sendRpc`, with the calls of `resolve` and `reject` on its promise, in order. `timer` says that its
    timer is armed, `timedOut` that it has fired. -/
structure RpcCall where
  process : Nat
  id : JsString
  command : JsString
  timer : Bool
  timedOut : Bool
  settlements : List (Except JsString PiRpcMessage)
deriving DecidableEq

/-- The requests of a pool. `pendingRequests` is the map of each process, from the ids to the positions in `calls`. -/
structure RpcPool where
  pool : ProcessPool
  requestIds : Nat → Nat
  pendingRequests : Nat → OrderedMap JsString Nat
  calls : List RpcCall

/-- What is done with a pool, and what its processes and timers do to it. A process that ends by a signal, or that
    reports an error while it runs, has no exit code. -/
inductive RpcEvent
  | acquire (existsSync : JsString → Bool) (holder : Nat) (cwd : JsString)
  | acquireAny (holder : Nat)
  | release (lease : Nat)
  | evictIdleDifferentCwd (targetCwd : JsString)
  | forceKill (proc : Nat)
  | decommissionAll
  | spawn (cwd : JsString)
  | sendRpc (proc : Nat) (command : JsString)
  | line (proc : Nat) (message : PiRpcMessage)
  | timeout (call : Nat)
  | exit (proc : Nat) (exitCode : Option Int)
  | error (proc : Nat) (exitCode : Option Int)

def RpcCall.settle (self : RpcCall) (outcome : Except JsString PiRpcMessage) : RpcCall :=
  { self with timer := false, settlements := self.settlements ++ [outcome] }

/-- A request that is sent, with its timer armed. -/
def RpcCall.sent (process : Nat) (id command : JsString) : RpcCall where
  process := process
  id := id
  command := command
  timer := true
  timedOut := false
  settlements := []

/-- A request to a process that is dead. -/
def RpcCall.dead (process : Nat) (command : JsString) : RpcCall where
  process := process
  id := []
  command := command
  timer := false
  timedOut := false
  settlements := [.error ProcessPool.deadError]

namespace RpcPool

def start (maxProcesses prewarmCount : Nat) : RpcPool where
  pool := ProcessPool.start maxProcesses prewarmCount
  requestIds _ := 0
  pendingRequests _ := ∅
  calls := []

def withPool (self : RpcPool) (pool : ProcessPool) : RpcPool :=
  { self with pool }

def sendRpc (self : RpcPool) (proc : Nat) (command : JsString) : RpcPool :=
  if ¬ self.pool.hasNoExitCode proc then { self with calls := self.calls ++ [RpcCall.dead proc command] }
  else
    let id := js "req_" ++ decimal (self.requestIds proc + 1)
    { self with
      requestIds := Function.update self.requestIds proc (self.requestIds proc + 1)
      pendingRequests :=
        Function.update self.pendingRequests proc ((self.pendingRequests proc).set id self.calls.length)
      calls := self.calls ++ [RpcCall.sent proc id command] }

def mismatchedError (expected received : JsString) : JsString :=
  js "Mismatched RPC response for " ++ expected ++ js ": received " ++ received

/-- How a response settles the request with its id. -/
def outcomeFor (call : RpcCall) (message : PiRpcMessage) : Except JsString PiRpcMessage :=
  if message.command ≠ call.command then .error (mismatchedError call.command message.command) else .ok message

/-- A response on the stdout of a process, which is read until the process has ended. -/
def onLine (self : RpcPool) (proc : Nat) (message : PiRpcMessage) : RpcPool :=
  if self.pool.isFinalized proc then self
  else
    match message.id.bind (self.pendingRequests proc).get? with
    | none => self
    | some request =>
      { self with
        pendingRequests :=
          Function.update self.pendingRequests proc ((self.pendingRequests proc).erase (message.id.getD []))
        calls := self.calls.modify request fun call => call.settle (outcomeFor call message) }

/-- The timer of a request. A timed-out request may still be executing, so its process never returns to the
    idle pool. -/
def onTimeout (self : RpcPool) (request : Nat) : RpcPool :=
  match self.calls[request]? with
  | none => self
  | some call =>
    if ¬ call.timer then self
    else
      { self with
        pool := (self.pool.decommission call.process).2
        pendingRequests :=
          Function.update self.pendingRequests call.process ((self.pendingRequests call.process).erase call.id)
        calls := self.calls.set request { call.settle (.error (js "Timeout waiting for RPC response to " ++ call.command)) with
          timedOut := true } }

/-- A process has ended: its pending requests are rejected. -/
def finalizeProcess (self : RpcPool) (proc : Nat) (exitCode : Option Int) (error : JsString) : RpcPool :=
  if self.pool.processes.length ≤ proc ∨ self.pool.isFinalized proc then self
  else
    { self with
      pool := self.pool.finalizeProcess proc exitCode
      pendingRequests := Function.update self.pendingRequests proc ∅
      calls := self.calls.mapIdx fun request call =>
        if request ∈ (self.pendingRequests proc).values then call.settle (.error error) else call }

def exitedError (proc : Nat) : JsString :=
  js "pi process #" ++ decimal (proc + 1) ++ js " exited unexpectedly"

def spawnFailedError (proc : Nat) : JsString :=
  js "pi process #" ++ decimal (proc + 1) ++ js " failed to spawn"

def step (self : RpcPool) : RpcEvent → RpcPool
  | .acquire existsSync holder cwd => self.withPool (self.pool.acquire existsSync holder cwd).2
  | .acquireAny holder => self.withPool (self.pool.acquireAny holder).2
  | .release lease => self.withPool (self.pool.releaseLease lease)
  | .evictIdleDifferentCwd targetCwd => self.withPool (self.pool.evictIdleDifferentCwd targetCwd).2
  | .forceKill proc => self.withPool (self.pool.forceKill proc).2
  | .decommissionAll => self.withPool self.pool.decommissionAll
  | .spawn cwd =>
    if self.pool.maxProcesses ≤ self.pool.totalProcesses then self else self.withPool (self.pool.spawn cwd).2
  | .sendRpc proc command => self.sendRpc proc command
  | .line proc message => self.onLine proc message
  | .timeout request => self.onTimeout request
  | .exit proc exitCode => self.finalizeProcess proc exitCode (exitedError proc)
  | .error proc exitCode => self.finalizeProcess proc exitCode (spawnFailedError proc)

end RpcPool

end pipane.process_pool

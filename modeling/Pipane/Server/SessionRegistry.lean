import Pipane.Lib.JsString
import Pipane.Lib.OrderedMap

namespace pipane.session_registry

inductive SessionRuntimeStatus
  | running
  | done
deriving DecidableEq

/-- Registry and process index for per-session actors, which are named by their numbers. -/
structure SessionRegistry where
  actors : OrderedMap JsString Nat
  actorsByProcess : OrderedMap Nat Nat
  pendingActors : OrderedMap JsString Unit
  statuses : OrderedMap JsString SessionRuntimeStatus

namespace SessionRegistry

def start : SessionRegistry where
  actors := ∅
  actorsByProcess := ∅
  pendingActors := ∅
  statuses := ∅

def find (self : SessionRegistry) (sessionPath : JsString) : Option Nat :=
  self.actors.get? sessionPath

def getActorForProcess (self : SessionRegistry) (proc : Nat) : Option Nat :=
  self.actorsByProcess.get? proc

end SessionRegistry

end pipane.session_registry

import Pipane.Lib.Json.RoundTrip
import Pipane.Shared.JsonlSync

open javascript json pipane.jsonl_sync

namespace pipane.session_jsonl

structure ModelRef where
  provider : JsString
  modelId : JsString
deriving DecidableEq

/-- The canonical session state that gets serialized to JSON and sent to clients. The two parts that Pi
    supplies as JSON are canonical values. -/
structure SessionState where
  /-- Flat message array: the complete view of the conversation, including in-flight data. -/
  messages : List Value
  isStreaming : Bool
  pendingToolCalls : List JsString
  /-- Server-observed execution boundaries, keyed by tool call ID. -/
  toolCallTimings : Value
  model : Option ModelRef
  thinkingLevel : JsString
  steeringQueue : List JsString
  error : Option JsString
  messages_canonical : CanonicalItems messages
  timings_canonical : toolCallTimings.Canonical

namespace SessionState

def modelValue : Option ModelRef → Value
  | none => .null
  | some model => .obj [(js "provider", .str model.provider), (js "modelId", .str model.modelId)]

/-- The properties after `messages`, in the order of the object literals that build a state; an absent
    error is not serialized. -/
def metadata (state : SessionState) : List (JsString × Value) :=
  [(js "isStreaming", .bool state.isStreaming),
    (js "pendingToolCalls", .arr (state.pendingToolCalls.map .str)),
    (js "toolCallTimings", state.toolCallTimings),
    (js "model", modelValue state.model),
    (js "thinkingLevel", .str state.thinkingLevel),
    (js "steeringQueue", .arr (state.steeringQueue.map .str))] ++
  (state.error.map fun error => (js "error", .str error)).toList

def value (state : SessionState) : Value :=
  .obj ((js "messages", .arr state.messages) :: state.metadata)

/-- `JSON.stringify(state)`. -/
def json (state : SessionState) : JsString :=
  stringify state.value

end SessionState

structure Serialized where
  json : JsString
  hash : JsString
deriving DecidableEq

/-- Serialize a canonical session state using the wire protocol's hash format. -/
def serializeSessionState (computeHashSync : JsString → JsString) (state : SessionState) : Serialized where
  json := state.json
  hash := computeHashSync state.json

/-- The materialized view of an attached session: the state at its last rebuild. -/
structure SessionJsonl where
  state : SessionState
  /-- Monotonically increasing version for change detection. -/
  version : Nat

namespace SessionJsonl

def json (self : SessionJsonl) : JsString :=
  self.state.json

def hash (computeHashSync : JsString → JsString) (self : SessionJsonl) : JsString :=
  computeHashSync self.json

/-- The operation to send to a client, `none` if it holds the current state already. -/
def computeSyncOp (computeHashSync : JsString → JsString) (self : SessionJsonl) (clientJson clientHash : JsString) :
    Option SyncOp :=
  if clientHash = self.hash computeHashSync then none
  else some (jsonl_sync.computeSyncOp clientJson self.json clientHash (self.hash computeHashSync))

end SessionJsonl

theorem SessionState.value_canonical (state : SessionState) : state.value.Canonical := by
  have hmodel : (modelValue state.model).Canonical := by
    cases state.model with
    | none => trivial
    | some model =>
      refine ⟨?_, trivial, trivial, trivial⟩
      change [js "provider", js "modelId"].Nodup
      decide
  have hpending := canonicalItems_strings state.pendingToolCalls
  have hsteering := canonicalItems_strings state.steeringQueue
  cases herror : state.error with
  | none =>
    rw [value, metadata, herror]
    refine ⟨?_, state.messages_canonical, trivial, hpending, state.timings_canonical, hmodel, trivial, hsteering,
      trivial⟩
    change [js "messages", js "isStreaming", js "pendingToolCalls", js "toolCallTimings", js "model",
      js "thinkingLevel", js "steeringQueue"].Nodup
    decide
  | some error =>
    rw [value, metadata, herror]
    refine ⟨?_, state.messages_canonical, trivial, hpending, state.timings_canonical, hmodel, trivial, hsteering,
      trivial, trivial⟩
    change [js "messages", js "isStreaming", js "pendingToolCalls", js "toolCallTimings", js "model",
      js "thinkingLevel", js "steeringQueue", js "error"].Nodup
    decide

end pipane.session_jsonl

import Pipane.Lib.Json.RoundTrip
import Pipane.Lib.OrderedMap
import Pipane.Shared.WsProtocol.ClientCommand

open javascript json pipane.jsonl_sync

namespace pipane.ws_protocol

/-- A `Record<string, unknown>` that `JSON.stringify` can write. -/
structure JsonObject where
  members : List (JsString × Value)
  canonical : (Value.obj members).Canonical

def JsonObject.value (object : JsonObject) : Value :=
  .obj object.members

inductive SessionRuntimeStatus
  | running
  | done

def SessionRuntimeStatus.value : SessionRuntimeStatus → Value
  | .running => .str (js "running")
  | .done => .str (js "done")

inductive NotifyType
  | info
  | warning
  | error

def NotifyType.value : NotifyType → Value
  | .info => .str (js "info")
  | .warning => .str (js "warning")
  | .error => .str (js "error")

def ProtocolErrorCode.text : ProtocolErrorCode → JsString
  | .invalid_json => js "invalid_json"
  | .invalid_message => js "invalid_message"
  | .unsupported_version => js "unsupported_version"
  | .unknown_command => js "unknown_command"
  | .unknown_message => js "unknown_message"

/-- The code of an error response; `none` is `command_failed`, which no decoder reports. -/
def errorCode (code : Option ProtocolErrorCode) : JsString :=
  code.elim (js "command_failed") ProtocolErrorCode.text

structure ToolCallTiming where
  startedAt : Number
  completedAt : Option Number
  startedCanonical : startedAt.Canonical
  completedCanonical : ∀ n ∈ completedAt, n.Canonical

def ToolCallTiming.value (timing : ToolCallTiming) : Value :=
  .obj ((js "startedAt", .num timing.startedAt) :: optionalMember "completedAt" timing.completedAt .num)

/-- `Record<string, …>` as a JSON object. -/
def recordValue {α : Type} (entries : OrderedMap JsString α) (write : α → Value) : Value :=
  .obj (entries.entries.map fun entry => (entry.1, write entry.2))

structure WireSessionStateMetadata where
  isStreaming : Bool
  pendingToolCalls : List JsString
  toolCallTimings : OrderedMap JsString ToolCallTiming
  model : Option CompactModelRef
  thinkingLevel : ThinkingLevelValue
  steeringQueue : List JsString
  error : Option JsString

def WireSessionStateMetadata.value (state : WireSessionStateMetadata) : Value :=
  .obj ([(js "isStreaming", .bool state.isStreaming), (js "pendingToolCalls", textsValue state.pendingToolCalls),
    (js "toolCallTimings", recordValue state.toolCallTimings ToolCallTiming.value),
    (js "model", state.model.elim .null CompactModelRef.value),
    (js "thinkingLevel", .str state.thinkingLevel.text), (js "steeringQueue", textsValue state.steeringQueue)] ++
      optionalMember "error" state.error .str)

/-- A `ContentAddressedMessage` with a message of any shape. -/
structure MessageBody where
  hash : JsString
  message : JsonObject

def MessageBody.value (body : MessageBody) : Value :=
  .obj [(js "hash", .str body.hash), (js "message", body.message.value)]

def patchValue (patch : Patch) : Value :=
  .obj [(js "offset", natValue patch.offset), (js "deleteCount", natValue patch.deleteCount),
    (js "insert", .str patch.insert)]

/-- The operation of a `session_sync` message. -/
inductive WireSyncOp
  | sync (op : SyncOp)
  | content (hash : JsString) (messageHashes : List JsString) (messages : List MessageBody)
    (state : WireSessionStateMetadata)
  | content_manifest (hash transferId : JsString) (messageHashes : List JsString) (state : WireSessionStateMetadata)
    (batchCount : Nat)
  | content_batch (hash transferId : JsString) (batchIndex : Nat) (messages : List MessageBody)
  | not_modified (hash : JsString)

def WireSyncOp.members : WireSyncOp → List (JsString × Value)
  | .sync (.full data hash) => [(js "op", .str (js "full")), (js "data", .str data), (js "hash", .str hash)]
  | .sync (.delta patches hash baseHash) =>
    [(js "op", .str (js "delta")), (js "patches", .arr (patches.map patchValue)), (js "hash", .str hash),
      (js "baseHash", .str baseHash)]
  | .content hash messageHashes messages state =>
    [(js "op", .str (js "content")), (js "hash", .str hash), (js "messageHashes", textsValue messageHashes),
      (js "messages", .arr (messages.map MessageBody.value)), (js "state", state.value)]
  | .content_manifest hash transferId messageHashes state batchCount =>
    [(js "op", .str (js "content_manifest")), (js "hash", .str hash), (js "transferId", .str transferId),
      (js "messageHashes", textsValue messageHashes), (js "state", state.value),
      (js "batchCount", natValue batchCount)]
  | .content_batch hash transferId batchIndex messages =>
    [(js "op", .str (js "content_batch")), (js "hash", .str hash), (js "transferId", .str transferId),
      (js "batchIndex", natValue batchIndex), (js "messages", .arr (messages.map MessageBody.value))]
  | .not_modified hash => [(js "op", .str (js "not_modified")), (js "hash", .str hash)]

inductive ServerMessagePayload
  | success (id : JsString) (command : ClientCommandType) (data : JsonObject)
  | failure (id : Option JsString) (command : JsString) (code : Option ProtocolErrorCode) (error : JsString)
  | init (sessionStatuses : OrderedMap JsString SessionRuntimeStatus)
    (steeringQueues : OrderedMap JsString (List JsString)) (providerUsageStatuses : OrderedMap JsString JsString)
  | pi_install_required (command : JsString) (installable installing : Bool) (message : JsString)
  | session_status_change (sessionPath : JsString) (status : SessionRuntimeStatus)
  | provider_usage (statuses : OrderedMap JsString JsString)
  | extension_status (sessionPath : JsString) (statuses : OrderedMap JsString JsString)
  | extension_notification (sessionPath : JsString) (operationId : Option JsString) (message : JsString)
    (notifyType : NotifyType)
  | session_sync (sessionPath : JsString) (revision : Nat) (op : WireSyncOp)
  | control_state (sessionPath : JsString) (controlRevision : Option Nat) (model : JsonObject)
    (thinkingLevel : ThinkingLevelValue)
  | session_attached (sessionPath : JsString) (cwd firstMessage : Option JsString)
  | sessions_changed (file : JsString)

/-- The members of a server message after its version, in the order in which they are written. -/
def ServerMessagePayload.members : ServerMessagePayload → List (JsString × Value)
  | .success id command data =>
    [(js "type", .str (js "response")), (js "id", .str id), (js "command", .str command.text),
      (js "success", .bool true), (js "data", data.value)]
  | .failure id command code error =>
    [(js "type", .str (js "response")), (js "id", id.elim .null .str), (js "command", .str command),
      (js "success", .bool false), (js "code", .str (errorCode code)), (js "error", .str error)]
  | .init sessionStatuses steeringQueues providerUsageStatuses =>
    [(js "type", .str (js "init")), (js "sessionStatuses", recordValue sessionStatuses SessionRuntimeStatus.value),
      (js "steeringQueues", recordValue steeringQueues textsValue),
      (js "providerUsageStatuses", recordValue providerUsageStatuses .str)]
  | .pi_install_required command installable installing message =>
    [(js "type", .str (js "pi_install_required")), (js "command", .str command), (js "installable", .bool installable),
      (js "installing", .bool installing), (js "message", .str message)]
  | .session_status_change sessionPath status =>
    [(js "type", .str (js "session_status_change")), (js "sessionPath", .str sessionPath), (js "status", status.value)]
  | .provider_usage statuses =>
    [(js "type", .str (js "provider_usage")), (js "statuses", recordValue statuses .str)]
  | .extension_status sessionPath statuses =>
    [(js "type", .str (js "extension_status")), (js "sessionPath", .str sessionPath),
      (js "statuses", recordValue statuses .str)]
  | .extension_notification sessionPath operationId message notifyType =>
    [(js "type", .str (js "extension_notification")), (js "sessionPath", .str sessionPath)] ++
      (optionalMember "operationId" operationId .str ++
        [(js "message", .str message), (js "notifyType", notifyType.value)])
  | .session_sync sessionPath revision op =>
    (js "type", .str (js "session_sync")) :: (js "sessionPath", .str sessionPath) ::
      (js "revision", natValue revision) :: op.members
  | .control_state sessionPath controlRevision model thinkingLevel =>
    [(js "type", .str (js "control_state")), (js "sessionPath", .str sessionPath)] ++
      (optionalMember "controlRevision" controlRevision natValue ++
        [(js "model", model.value), (js "thinkingLevel", .str thinkingLevel.text)])
  | .session_attached sessionPath cwd firstMessage =>
    [(js "type", .str (js "session_attached")), (js "sessionPath", .str sessionPath)] ++
      (optionalMember "cwd" cwd .str ++ optionalMember "firstMessage" firstMessage .str)
  | .sessions_changed file => [(js "type", .str (js "sessions_changed")), (js "file", .str file)]

end pipane.ws_protocol

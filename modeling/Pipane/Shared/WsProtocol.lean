import Pipane.Lib.Json
import Pipane.Shared.JsonlSync

open javascript json pipane.jsonl_sync

namespace pipane.ws_protocol

def WS_PROTOCOL_VERSION : Nat := 1

def MAX_SEGMENTED_SESSION_SYNC_BATCHES : Nat := 4096

def MAX_SEGMENTED_SESSION_SYNC_BYTES : Nat := 256 * 1024 * 1024

structure SubscribeSession where
  sessionPath : JsString
  /-- Exact authoritative state previously cached by this browser. -/
  cachedStateHash : Option JsString
  /-- Content hashes for cached materialized display messages. -/
  knownMessageHashes : Option (List JsString)
  /-- Accept a manifest followed by bounded content batches. -/
  segmentedContent : Bool
deriving DecidableEq

structure ContentAddressedMessage where
  hash : JsString
  message : Value

/-- The operation of a `session_sync` message. -/
inductive SessionSyncOp
  | sync (op : SyncOp)
  | not_modified (hash : JsString)
  | content (hash : JsString) (messageHashes : List JsString) (messages : List ContentAddressedMessage)
    (state : List (JsString × Value))
  | content_manifest (hash transferId : JsString) (messageHashes : List JsString)
    (state : List (JsString × Value)) (batchCount : Nat)
  | content_batch (hash transferId : JsString) (batchIndex : Nat) (messages : List ContentAddressedMessage)

structure SessionSyncMessage where
  sessionPath : JsString
  /-- Monotonic revision of the authoritative state for this session. -/
  revision : Nat
  op : SessionSyncOp

def ContentAddressedMessage.value (body : ContentAddressedMessage) : Value :=
  .obj [(js "hash", .str body.hash), (js "message", body.message)]

/-- `encodeServerMessage(payload)`. -/
def encodeServerMessage (payload : List (JsString × Value)) : JsString :=
  stringify (.obj ((js "protocolVersion", .num (.int WS_PROTOCOL_VERSION)) :: payload))

/-- The payload of a content batch, whose size bounds what goes into the batch. -/
def contentBatchPayload (sessionPath : JsString) (revision : Nat) (hash transferId : JsString) (batchIndex : Nat)
    (messages : List ContentAddressedMessage) : List (JsString × Value) :=
  [(js "type", .str (js "session_sync")), (js "sessionPath", .str sessionPath),
    (js "revision", .num (.int revision)), (js "op", .str (js "content_batch")), (js "hash", .str hash),
    (js "transferId", .str transferId), (js "batchIndex", .num (.int batchIndex)),
    (js "messages", .arr (messages.map ContentAddressedMessage.value))]

end pipane.ws_protocol

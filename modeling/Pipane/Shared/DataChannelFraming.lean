import Pipane.Lib.Base64
import Pipane.Lib.Json
import Pipane.Lib.OrderedMap
import Mathlib.Algebra.BigOperators.Group.List.Basic

open javascript json

namespace pipane.data_channel_framing

def CHUNK_KEY : JsString := js "__pipaneDataChannelChunk"

def CANCEL_KEY : JsString := js "__pipaneDataChannelCancel"

def CHUNK_PREFIX : JsString := js "\x7b\"__pipaneDataChannelChunk\":1,"

def CANCEL_PREFIX : JsString := js "\x7b\"__pipaneDataChannelCancel\":1,"

/-- Keep physical messages below conservative browser and SCTP limits. -/
def DATA_CHANNEL_CHUNK_PAYLOAD_BYTES : Nat := 12000

def MAX_DATA_CHANNEL_MESSAGE_BYTES : Nat := 16 * 1024

def MAX_DATA_CHANNEL_FRAME_BYTES : Nat := 64 * 1024 * 1024

def MAX_DATA_CHANNEL_PENDING_FRAMES : Nat := 4

def MAX_DATA_CHANNEL_QUEUED_BYTES : Nat := 96 * 1024 * 1024

/-- The transfer key of the active conversation, whose receive progress is shown. -/
def ACTIVE_SESSION_SYNC_TRANSFER_KEY : JsString := js "active-session-sync"

def MAX_CHUNKS_PER_FRAME : Nat :=
  (MAX_DATA_CHANNEL_FRAME_BYTES + (DATA_CHANNEL_CHUNK_PAYLOAD_BYTES - 1)) / DATA_CHANNEL_CHUNK_PAYLOAD_BYTES

structure DataChannelChunk where
  id : JsString
  index : Nat
  total : Nat
  data : JsString
deriving DecidableEq

structure PendingFrame where
  total : Nat
  nextIndex : Nat
  byteLength : Nat
  chunks : List (List UInt8)
deriving DecidableEq

def isChunkIdUnit (u : UInt16) : Bool :=
  (65 ≤ u.toNat && u.toNat ≤ 90) || (97 ≤ u.toNat && u.toNat ≤ 122) || (48 ≤ u.toNat && u.toNat ≤ 57) ||
    u == 0x5F || u == 0x2D

/-- `CHUNK_ID_PATTERN.test(id)`, the pattern being `/^[A-Za-z0-9_-]{1,64}$/u`. -/
def isChunkId (id : JsString) : Bool :=
  1 ≤ id.length && id.length ≤ 64 && id.all isChunkIdUnit

/-- `encodeBase64(bytes)`. Building the binary string piece by piece does not change it. -/
def encodeBase64 (bytes : List UInt8) : JsString :=
  base64.encode bytes

/-- `decodeBase64(value)`: the pattern and `atob` accept the same texts. -/
def decodeBase64 (value : JsString) : Except String (List UInt8) :=
  match base64.decode value with
  | none => .error "DataChannel chunk payload is not valid base64"
  | some bytes =>
    if encodeBase64 bytes ≠ value then .error "DataChannel chunk payload is not canonical base64"
    else .ok bytes

/-- The envelope that `JSON.stringify` writes for a chunk. -/
def chunkValue (chunk : DataChannelChunk) : Value :=
  .obj [(CHUNK_KEY, .num (.int 1)), (js "id", .str chunk.id), (js "index", .num (.int chunk.index)),
    (js "total", .num (.int chunk.total)), (js "data", .str chunk.data)]

def cancelValue (id : JsString) : Value :=
  .obj [(CANCEL_KEY, .num (.int 1)), (js "id", .str id)]

/-- `bytes.subarray(index * payload, index * payload + payload)`. -/
def chunkBytes (bytes : List UInt8) (index : Nat) : List UInt8 :=
  (bytes.drop (index * DATA_CHANNEL_CHUNK_PAYLOAD_BYTES)).take DATA_CHANNEL_CHUNK_PAYLOAD_BYTES

def chunkCount (byteLength : Nat) : Nat :=
  (byteLength + (DATA_CHANNEL_CHUNK_PAYLOAD_BYTES - 1)) / DATA_CHANNEL_CHUNK_PAYLOAD_BYTES

def encodeChunk (bytes : List UInt8) (id : JsString) (total index : Nat) : Except String JsString :=
  let message := stringify (chunkValue { id, index, total, data := encodeBase64 (chunkBytes bytes index) })
  if MAX_DATA_CHANNEL_MESSAGE_BYTES < (textEncode message).length then
    .error "Encoded DataChannel chunk exceeds the physical message limit"
  else .ok message

/-- Encode one logical text frame into conservatively sized DataChannel messages. -/
def encodeDataChannelFrame (frame id : JsString) : Except String (List JsString) :=
  if ¬ isChunkId id then .error "DataChannel frame id is invalid"
  else
    let bytes := textEncode frame
    if MAX_DATA_CHANNEL_FRAME_BYTES < bytes.length then
      .error "DataChannel frame exceeds the reassembly limit"
    else if bytes.length ≤ DATA_CHANNEL_CHUNK_PAYLOAD_BYTES then .ok [frame]
    else (List.range (chunkCount bytes.length)).mapM (encodeChunk bytes id (chunkCount bytes.length))

/-- Cancel one incomplete logical frame without exposing a carrier envelope upstream. -/
def encodeDataChannelFrameCancellation (id : JsString) : Except String JsString :=
  if ¬ isChunkId id then .error "DataChannel frame id is invalid"
  else .ok (stringify (cancelValue id))

/-- `Number.isSafeInteger(value)` and `value >= 0`, as a natural number. -/
def safeNatural : Value → Option Nat
  | .num (.int n) => if 0 ≤ n ∧ n ≤ 9007199254740991 then some n.toNat else none
  | _ => none

def isObject : Value → Bool
  | .obj _ => true
  | _ => false

/-- `envelope[key] === 1`. -/
def hasMarker (key : JsString) (envelope : Value) : Bool :=
  match envelope.get? key with
  | some (.num (.int n)) => n == 1
  | _ => false

/-- The `id` of an envelope when it is a string of the id pattern. -/
def envelopeId (envelope : Value) : Option JsString :=
  match envelope.get? (js "id") with
  | some (.str id) => if isChunkId id then some id else none
  | _ => none

def parseCancel (message : JsString) : Except String JsString :=
  match parse message with
  | none => .error "DataChannel cancellation is not valid JSON"
  | some value =>
    if ¬ isObject value then .error "DataChannel cancellation must be an object"
    else
      match hasMarker CANCEL_KEY value, envelopeId value with
      | true, some id => .ok id
      | _, _ => .error "DataChannel cancellation envelope is invalid"

/-- The fields of a chunk envelope, `none` when one of them fails its check. -/
def chunkFields (value : Value) : Option DataChannelChunk := do
  if ¬ hasMarker CHUNK_KEY value then none
  let id ← envelopeId value
  let index ← (value.get? (js "index")).bind safeNatural
  let total ← (value.get? (js "total")).bind safeNatural
  if total < 2 ∨ MAX_CHUNKS_PER_FRAME < total ∨ total ≤ index then none
  match value.get? (js "data") with
  | some (.str data) => some { id, index, total, data }
  | _ => none

def parseChunk (message : JsString) : Except String DataChannelChunk :=
  match parse message with
  | none => .error "DataChannel chunk is not valid JSON"
  | some value =>
    if ¬ isObject value then .error "DataChannel chunk must be an object"
    else
      match chunkFields value with
      | some chunk => .ok chunk
      | none => .error "DataChannel chunk envelope is invalid"

/-- The frames whose chunks have begun to arrive. -/
structure DataChannelFrameDecoder where
  pending : OrderedMap JsString PendingFrame

namespace DataChannelFrameDecoder

def fresh : DataChannelFrameDecoder := ⟨∅⟩

/-- The entry a chunk belongs to; the first chunk of a frame opens one. -/
def pendingFor (self : DataChannelFrameDecoder) (chunk : DataChannelChunk) : Except String PendingFrame :=
  match self.pending.get? chunk.id with
  | some pending => .ok pending
  | none =>
    if chunk.index ≠ 0 then .error "DataChannel chunk sequence does not start at zero"
    else if MAX_DATA_CHANNEL_PENDING_FRAMES ≤ self.pending.size then
      .error "Too many DataChannel frames are pending"
    else .ok { total := chunk.total, nextIndex := 0, byteLength := 0, chunks := [] }

/-- The entry after one more chunk. -/
def appendChunk (pending : PendingFrame) (chunk : DataChannelChunk) : Except String PendingFrame :=
  if pending.total ≠ chunk.total ∨ chunk.index ≠ pending.nextIndex then
    .error "DataChannel chunks are inconsistent or out of order"
  else
    match decodeBase64 chunk.data with
    | .error error => .error error
    | .ok bytes =>
      if bytes.length = 0 ∨ DATA_CHANNEL_CHUNK_PAYLOAD_BYTES < bytes.length then
        .error "DataChannel chunk payload size is invalid"
      else if MAX_DATA_CHANNEL_FRAME_BYTES < pending.byteLength + bytes.length then
        .error "DataChannel frame exceeds the reassembly limit"
      else
        .ok { pending with
          byteLength := pending.byteLength + bytes.length
          chunks := pending.chunks ++ [bytes]
          nextIndex := pending.nextIndex + 1 }

/-- The part of `accept` inside its `try` block. -/
def acceptEnvelope (self : DataChannelFrameDecoder) (message : JsString) :
    Except String (DataChannelFrameDecoder × Option JsString) :=
  if CANCEL_PREFIX.isPrefixOf message then
    match parseCancel message with
    | .error error => .error error
    | .ok id => .ok (⟨self.pending.erase id⟩, none)
  else
    match parseChunk message with
    | .error error => .error error
    | .ok chunk =>
      match self.pendingFor chunk with
      | .error error => .error error
      | .ok opened =>
        match appendChunk opened chunk with
        | .error error => .error error
        | .ok pending =>
          if pending.nextIndex < pending.total then .ok (⟨self.pending.set chunk.id pending⟩, none)
          else
            match textDecodeFatal pending.chunks.flatten with
            | none => .error "The encoded data was not valid"
            | some frame => .ok (⟨self.pending.erase chunk.id⟩, some frame)

/-- Reassemble carrier chunks while passing ordinary application frames through unchanged. A failure
    drops every pending frame before it is thrown again. -/
def accept (self : DataChannelFrameDecoder) (message : JsString) :
    DataChannelFrameDecoder × Except String (Option JsString) :=
  if ¬ CHUNK_PREFIX.isPrefixOf message ∧ ¬ CANCEL_PREFIX.isPrefixOf message then
    (self, .ok (some message))
  else
    match self.acceptEnvelope message with
    | .ok (next, frame) => (next, .ok frame)
    | .error error => (fresh, .error error)

end DataChannelFrameDecoder

end pipane.data_channel_framing

import Pipane.Shared.DataChannelFraming

open javascript pipane.data_channel_framing

namespace pipane.frame_connection

inductive Priority
  | control
  | bulk
deriving DecidableEq

structure FrameSendOptions where
  priority : Option Priority
  /-- Identifies a cancellable logical transfer such as the active session snapshot. -/
  transferKey : Option JsString
deriving DecidableEq

structure PhysicalMessage where
  value : JsString
  byteLength : Nat
deriving DecidableEq

/-- A frame as the caller handed it over: in which call, and where in that call's sequence. The queue
    never reads the two numbers; they tell equal texts apart. -/
structure LogicalFrame where
  call : Nat
  position : Nat
  text : JsString
deriving DecidableEq

/-- A cancellation envelope has no source. -/
structure OutgoingFrame where
  id : JsString
  messages : List PhysicalMessage
  nextIndex : Nat
  transferKey : Option JsString
  source : Option LogicalFrame
deriving DecidableEq

/-- `iterator` holds the frames it has not returned yet. -/
structure OutgoingSequence where
  iterator : List LogicalFrame
  current : Option OutgoingFrame
  transferKey : Option JsString
deriving DecidableEq

inductive BulkItem
  | frame (frame : OutgoingFrame)
  | sequence (sequence : OutgoingSequence)
deriving DecidableEq

/-- Bounded two-lane scheduler shared by server WebSocket and DataChannel carriers. Control frames may
    overtake queued bulk chunks, while each logical frame keeps its own ordered chunk sequence. -/
structure PrioritizedFrameQueue where
  idPrefix : JsString
  control : List OutgoingFrame
  bulk : List BulkItem
  nextFrameId : Nat
  queuedBytes : Int
deriving DecidableEq

/-- One call of the carrier's `write`, with the frame the message belongs to and whether it is that
    frame's last message. -/
structure Written where
  source : Option LogicalFrame
  last : Bool
  message : JsString
deriving DecidableEq

/-- What a call leaves: the queue, the messages written, and the error that reached `onFailure` or the
    caller. -/
structure Outcome where
  queue : PrioritizedFrameQueue
  written : List Written
  failure : Option String
deriving DecidableEq

inductive FlushStep
  | stopped
  | skipped (queue : PrioritizedFrameQueue)
  | wrote (queue : PrioritizedFrameQueue) (written : Written)
  | failed (queue : PrioritizedFrameQueue) (error : String)

/-- A transfer key as frames carry it: the empty key is none. -/
def presentKey : Option JsString → Option JsString
  | some (u :: key) => some (u :: key)
  | _ => none

def frameId (idPrefix : JsString) (transferKey : Option JsString) (sequence : Nat) : JsString :=
  if transferKey = some ACTIVE_SESSION_SYNC_TRANSFER_KEY then
    ACTIVE_SESSION_SYNC_TRANSFER_KEY ++ 0x5F :: base36 sequence
  else
    idPrefix ++ base36 sequence

def physicalMessage (value : JsString) : PhysicalMessage where
  value := value
  byteLength := (textEncode value).length

namespace OutgoingFrame

def advance (frame : OutgoingFrame) : OutgoingFrame :=
  { frame with nextIndex := frame.nextIndex + 1 }

def isComplete (frame : OutgoingFrame) : Bool :=
  frame.nextIndex = frame.messages.length

def isPartial (frame : OutgoingFrame) : Bool :=
  0 < frame.nextIndex && frame.nextIndex < frame.messages.length

/-- The bytes of the messages that are not written yet. -/
def remainingBytes (frame : OutgoingFrame) : Nat :=
  ((frame.messages.drop frame.nextIndex).map PhysicalMessage.byteLength).sum

def written (frame : OutgoingFrame) (message : PhysicalMessage) : Written where
  source := frame.source
  last := frame.advance.isComplete
  message := message.value

end OutgoingFrame

namespace BulkItem

def transferKey : BulkItem → Option JsString
  | .frame outgoing => outgoing.transferKey
  | .sequence outgoing => outgoing.transferKey

/-- The frame of an item whose messages exist already. -/
def current : BulkItem → Option OutgoingFrame
  | .frame outgoing => some outgoing
  | .sequence outgoing => outgoing.current

/-- What becomes of an item when its current frame is replaced. A sequence stays until its iterator is
    done. -/
def replace : BulkItem → Option OutgoingFrame → List BulkItem
  | .frame _, next => (next.map BulkItem.frame).toList
  | .sequence outgoing, next => [.sequence { outgoing with current := next }]

end BulkItem

namespace PrioritizedFrameQueue

def fresh (idPrefix : JsString) : PrioritizedFrameQueue where
  idPrefix := idPrefix
  control := []
  bulk := []
  nextFrameId := 0
  queuedBytes := 0

/-- The frame number is used up even when the frame is refused. -/
def createFrame (self : PrioritizedFrameQueue) (frame : LogicalFrame) (transferKey : Option JsString) :
    PrioritizedFrameQueue × Except String OutgoingFrame :=
  let self := { self with nextFrameId := self.nextFrameId + 1 }
  let id := frameId self.idPrefix transferKey self.nextFrameId
  match encodeDataChannelFrame frame.text id with
  | .error error => (self, .error error)
  | .ok values =>
    let messages := values.map physicalMessage
    let addedBytes := (messages.map PhysicalMessage.byteLength).sum
    if MAX_DATA_CHANNEL_QUEUED_BYTES < self.queuedBytes + addedBytes then
      (self, .error "Carrier outgoing frame queue exceeds its limit")
    else
      ({ self with queuedBytes := self.queuedBytes + addedBytes },
        .ok { id, messages, nextIndex := 0, transferKey := presentKey transferKey, source := some frame })

/-- `cancellationIds` and the queue's byte count after the unsent part of a frame is dropped. -/
def discardFrame (discarded : Int × List JsString) (frame : OutgoingFrame) : Int × List JsString :=
  (discarded.1 - frame.remainingBytes,
    if frame.isPartial then discarded.2 ++ [frame.id] else discarded.2)

/-- The write of a frame's next message; `put` places the frame, or its absence once it is complete,
    back in the queue. -/
def writeNext (self : PrioritizedFrameQueue) (frame : OutgoingFrame)
    (put : PrioritizedFrameQueue → Option OutgoingFrame → PrioritizedFrameQueue) : FlushStep :=
  match frame.messages[frame.nextIndex]? with
  | none => .failed (put self (some frame)) "Cannot read properties of undefined (reading 'value')"
  | some message =>
    let self := { self with queuedBytes := self.queuedBytes - message.byteLength }
    .wrote (put self (if frame.advance.isComplete then none else some frame.advance)) (frame.written message)

def putControl (rest : List OutgoingFrame) (self : PrioritizedFrameQueue) (frame : Option OutgoingFrame) :
    PrioritizedFrameQueue :=
  { self with control := frame.toList ++ rest }

def putBulk (item : BulkItem) (rest : List BulkItem) (self : PrioritizedFrameQueue)
    (frame : Option OutgoingFrame) : PrioritizedFrameQueue :=
  { self with bulk := item.replace frame ++ rest }

/-- One round of the loop in `flush` after `canWrite` has answered true. -/
def flushOnce (self : PrioritizedFrameQueue) : FlushStep :=
  match self.control with
  | frame :: rest => self.writeNext frame (putControl rest)
  | [] =>
    match self.bulk with
    | [] => .stopped
    | .frame frame :: rest => self.writeNext frame (putBulk (.frame frame) rest)
    | .sequence sequence :: rest =>
      match sequence.current, sequence.iterator with
      | some frame, _ => self.writeNext frame (putBulk (.sequence sequence) rest)
      | none, [] => .skipped { self with bulk := rest }
      | none, next :: iterator =>
        let sequence := { sequence with iterator }
        match self.createFrame next sequence.transferKey with
        | (self, .error error) => .failed { self with bulk := .sequence sequence :: rest } error
        | (self, .ok frame) => self.writeNext frame (putBulk (.sequence sequence) rest)

/-- `flush` with the answers that `canWrite` gives; after the last one it answers false. -/
def flush (self : PrioritizedFrameQueue) : List Bool → Outcome
  | [] => { queue := self, written := [], failure := none }
  | false :: _ => { queue := self, written := [], failure := none }
  | true :: canWrite =>
    match self.flushOnce with
    | .stopped => { queue := self, written := [], failure := none }
    | .skipped queue => queue.flush canWrite
    | .failed queue error => { queue, written := [], failure := some error }
    | .wrote queue written =>
      let outcome := queue.flush canWrite
      { outcome with written := written :: outcome.written }

def enqueue (self : PrioritizedFrameQueue) (frame : LogicalFrame) (options : FrameSendOptions)
    (canWrite : List Bool) : Outcome :=
  match self.createFrame frame options.transferKey with
  | (self, .error error) => { queue := self, written := [], failure := some error }
  | (self, .ok outgoing) =>
    if options.priority = some .bulk then
      flush { self with bulk := self.bulk ++ [.frame outgoing] } canWrite
    else
      flush { self with control := self.control ++ [outgoing] } canWrite

def enqueueSequence (self : PrioritizedFrameQueue) (frames : List LogicalFrame) (options : FrameSendOptions)
    (canWrite : List Bool) : Outcome :=
  if options.priority ≠ some .bulk then
    { queue := self, written := [], failure := some "Carrier frame sequences must use bulk priority" }
  else
    let sequence : OutgoingSequence :=
      { iterator := frames, current := none, transferKey := presentKey options.transferKey }
    flush { self with bulk := self.bulk ++ [.sequence sequence] } canWrite

/-- The frame that carries the cancellation of the given id. -/
def cancellation (idPrefix id value : JsString) : OutgoingFrame where
  id := idPrefix ++ 0x63 :: id
  messages := [physicalMessage value]
  nextIndex := 0
  transferKey := none
  source := none

/-- The frames that `cancelTransfer` maps the cancelled ids to. -/
def createCancellations (self : PrioritizedFrameQueue) :
    List JsString → PrioritizedFrameQueue × Except String (List OutgoingFrame)
  | [] => (self, .ok [])
  | id :: ids =>
    match encodeDataChannelFrameCancellation id with
    | .error error => (self, .error error)
    | .ok value =>
      let created := createCancellations
        { self with queuedBytes := self.queuedBytes + (physicalMessage value).byteLength } ids
      (created.1, created.2.map (cancellation self.idPrefix id value :: ·))

def cancelTransfer (self : PrioritizedFrameQueue) (transferKey : JsString) (canWrite : List Bool) : Outcome :=
  let control := self.control.filter fun frame => frame.transferKey = some transferKey
  let bulk := self.bulk.filter fun item => item.transferKey = some transferKey
  let discarded := (control.reverse ++ bulk.reverse.filterMap BulkItem.current).foldl discardFrame
    (self.queuedBytes, [])
  let self := { self with
    control := self.control.filter fun frame => frame.transferKey ≠ some transferKey
    bulk := self.bulk.filter fun item => item.transferKey ≠ some transferKey
    queuedBytes := discarded.1 }
  match self.createCancellations discarded.2 with
  | (self, .error error) => { queue := self, written := [], failure := some error }
  | (self, .ok cancellations) => flush { self with control := cancellations ++ self.control } canWrite

end PrioritizedFrameQueue

/-- A call of the queue's owner, with the answers of `canWrite` during the call. -/
inductive Call
  | enqueue (frame : JsString) (options : FrameSendOptions) (canWrite : List Bool)
  | enqueueSequence (frames : List JsString) (options : FrameSendOptions) (canWrite : List Bool)
  | cancelTransfer (transferKey : JsString) (canWrite : List Bool)
  | flush (canWrite : List Bool)

/-- The frames of a call, numbered. -/
def logicalFrames (call : Nat) (frames : List JsString) : List LogicalFrame :=
  frames.mapIdx fun position text => { call, position, text }

namespace PrioritizedFrameQueue

def perform (self : PrioritizedFrameQueue) (number : Nat) : Call → Outcome
  | .enqueue frame options canWrite =>
    self.enqueue { call := number, position := 0, text := frame } options canWrite
  | .enqueueSequence frames options canWrite =>
    self.enqueueSequence (logicalFrames number frames) options canWrite
  | .cancelTransfer transferKey canWrite => self.cancelTransfer transferKey canWrite
  | .flush canWrite => self.flush canWrite

/-- A run of calls, of which the first has the given number. -/
def runFrom (self : PrioritizedFrameQueue) (number : Nat) : List Call → PrioritizedFrameQueue × List Written
  | [] => (self, [])
  | call :: calls =>
    let outcome := self.perform number call
    let rest := outcome.queue.runFrom (number + 1) calls
    (rest.1, outcome.written ++ rest.2)

end PrioritizedFrameQueue

end pipane.frame_connection

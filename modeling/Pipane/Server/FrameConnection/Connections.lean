import Pipane.Server.FrameConnection
import Pipane.Server.FrameRouter

open javascript pipane.data_channel_framing

namespace pipane.frame_connection

variable {σ : Type}

/-- What a connection is to those who send over it. A call leaves the connection and the exception that it throws;
    `sendSequence` and `cancelTransfer` may be missing. -/
structure ServerFrameConnection (σ : Type) where
  isOpen : σ → Bool
  send : σ → JsString → FrameSendOptions → σ × Option String
  sendSequence : Option (σ → List JsString → FrameSendOptions → σ × Option String)
  cancelTransfer : Option (σ → JsString → σ × Option String)

/-- `connection.cancelTransfer?.(transferKey)` -/
def ServerFrameConnection.cancel (connection : ServerFrameConnection σ) (state : σ) (transferKey : JsString) :
    σ × Option String :=
  match connection.cancelTransfer with
  | none => (state, none)
  | some cancelTransfer => cancelTransfer state transferKey

/-- `clear`, which a connection calls once it is closed. -/
def PrioritizedFrameQueue.clear (self : PrioritizedFrameQueue) : PrioritizedFrameQueue :=
  { self with control := [], bulk := [], queuedBytes := 0 }

/-- A `WebSocketFrameConnection` or a `DataChannelFrameConnection`. `canWrite` holds what `canWrite` answers in the
    calls to come, and `calls` counts the calls that have been made. -/
structure Carrier where
  queue : PrioritizedFrameQueue
  isOpen : Bool
  canWrite : List (List Bool)
  calls : Nat
  written : List Written
deriving DecidableEq

namespace Carrier

def fresh (idPrefix : JsString) (canWrite : List (List Bool)) : Carrier where
  queue := .fresh idPrefix
  isOpen := true
  canWrite := canWrite
  calls := 0
  written := []

/-- The answers of `canWrite` during the next call. -/
def answers (carrier : Carrier) : List Bool :=
  carrier.canWrite.headD []

/-- What a call leaves where nothing failed. -/
def after (carrier : Carrier) (outcome : Outcome) : Carrier where
  queue := outcome.queue
  isOpen := carrier.isOpen
  canWrite := carrier.canWrite.tail
  calls := carrier.calls + 1
  written := carrier.written ++ outcome.written

/-- `onFailure` of the queue closes the connection, which clears the queue. -/
def failed (carrier : Carrier) : Carrier :=
  { carrier with isOpen := false, queue := carrier.queue.clear }

/-- What a flush leaves: it closes the connection where something failed, and throws nothing. -/
def flushed (carrier : Carrier) (outcome : Outcome) : Carrier :=
  if outcome.failure.isSome then (carrier.after outcome).failed else carrier.after outcome

/-- `send`: where the frame cannot be queued the connection is closed before the exception goes on. -/
def send (closedError : String) (carrier : Carrier) (frame : JsString) (options : FrameSendOptions) :
    Carrier × Option String :=
  if ¬ carrier.isOpen then (carrier, some closedError)
  else
    let frame : LogicalFrame := { call := carrier.calls, position := 0, text := frame }
    let outcome := carrier.queue.enqueue frame options carrier.answers
    match (carrier.queue.createFrame frame options.transferKey).2 with
    | .error error => ((carrier.after outcome).failed, some error)
    | .ok _ => (carrier.flushed outcome, none)

def sendSequence (closedError : String) (carrier : Carrier) (frames : List JsString) (options : FrameSendOptions) :
    Carrier × Option String :=
  if ¬ carrier.isOpen then (carrier, some closedError)
  else if options.priority ≠ some .bulk then (carrier, some "Carrier frame sequences must use bulk priority")
  else (carrier.flushed (carrier.queue.enqueueSequence (logicalFrames carrier.calls frames) options carrier.answers), none)

/-- The queue without the frames of a transfer, and the ids of those that were partly written. -/
def keptQueue (queue : PrioritizedFrameQueue) (transferKey : JsString) : PrioritizedFrameQueue × List JsString :=
  let control := queue.control.filter fun frame => frame.transferKey = some transferKey
  let bulk := queue.bulk.filter fun item => item.transferKey = some transferKey
  let discarded := (control.reverse ++ bulk.reverse.filterMap BulkItem.current).foldl PrioritizedFrameQueue.discardFrame
    (queue.queuedBytes, [])
  ({ queue with
    control := queue.control.filter fun frame => frame.transferKey ≠ some transferKey
    bulk := queue.bulk.filter fun item => item.transferKey ≠ some transferKey
    queuedBytes := discarded.1 }, discarded.2)

/-- `cancelTransfer` catches nothing itself; the flush at its end does. -/
def cancelTransfer (carrier : Carrier) (transferKey : JsString) : Carrier × Option String :=
  let outcome := carrier.queue.cancelTransfer transferKey carrier.answers
  match ((keptQueue carrier.queue transferKey).1.createCancellations (keptQueue carrier.queue transferKey).2).2 with
  | .error error => (carrier.after outcome, some error)
  | .ok _ => (carrier.flushed outcome, none)

/-- The queue of a connection is flushed when its buffer has room again. -/
def flush (carrier : Carrier) : Carrier :=
  carrier.flushed (carrier.queue.flush carrier.answers)

end Carrier

/-- A carrier by the text of the error that it throws once it is closed. -/
def carrierConnection (closedError : String) : ServerFrameConnection Carrier where
  isOpen := Carrier.isOpen
  send := Carrier.send closedError
  sendSequence := some (Carrier.sendSequence closedError)
  cancelTransfer := some Carrier.cancelTransfer

def WebSocketFrameConnection : ServerFrameConnection Carrier :=
  carrierConnection "WebSocket frame connection is closed"

def DataChannelFrameConnection : ServerFrameConnection Carrier :=
  carrierConnection "DataChannel frame connection is closed"

end pipane.frame_connection

namespace pipane.frame_router

open pipane.frame_connection

/-- The sending side of a `RoutedFrameConnection`: it passes on all but `sendSequence`, which it does not have. -/
def RoutedFrameConnection.over {σ : Type} (connection : ServerFrameConnection σ) : ServerFrameConnection σ where
  isOpen := connection.isOpen
  send := connection.send
  sendSequence := none
  cancelTransfer := some connection.cancel

end pipane.frame_router

namespace pipane.frame_connection

/-- The connections that the server hands to the handler of v1 frames: a local WebSocket, and the application side of a
    DataChannel. -/
inductive Route
  | webSocket
  | application
deriving DecidableEq

def Route.connection : Route → ServerFrameConnection Carrier
  | .webSocket => WebSocketFrameConnection
  | .application => frame_router.RoutedFrameConnection.over DataChannelFrameConnection

/-- What the frames of the connection are numbered with. -/
def Route.idPrefix : Route → JsString
  | .webSocket => js "w"
  | .application => js "s"

theorem isOpen_send_error {closedError error : String} {carrier : Carrier} {frame : JsString}
    {options : FrameSendOptions} (h : (carrier.send closedError frame options).2 = some error) :
    (carrier.send closedError frame options).1.isOpen = false := by
  unfold Carrier.send at h ⊢
  split at h
  · rename_i hclosed
    rw [if_pos hclosed]
    exact Bool.not_eq_true _ ▸ hclosed
  · rename_i hopen
    rw [if_neg hopen]
    simp only at h ⊢
    split at h
    · rfl
    · cases h

theorem isOpen_sendSequence_error {closedError error : String} {carrier : Carrier} {frames : List JsString}
    {options : FrameSendOptions} (hbulk : options.priority = some .bulk)
    (h : (carrier.sendSequence closedError frames options).2 = some error) :
    (carrier.sendSequence closedError frames options).1.isOpen = false := by
  unfold Carrier.sendSequence at h ⊢
  split at h
  · rename_i hclosed
    rw [if_pos hclosed]
    exact Bool.not_eq_true _ ▸ hclosed
  · rw [if_neg (not_not_intro hbulk)] at h
    cases h

theorem Route.isOpen_send_error (route : Route) {error : String} {carrier : Carrier} {frame : JsString}
    {options : FrameSendOptions} (h : (route.connection.send carrier frame options).2 = some error) :
    route.connection.isOpen (route.connection.send carrier frame options).1 = false := by
  cases route with
  | webSocket => exact frame_connection.isOpen_send_error h
  | application => exact frame_connection.isOpen_send_error h

end pipane.frame_connection

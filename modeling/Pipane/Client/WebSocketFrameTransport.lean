import Pipane.Client.FrameTransport
import Pipane.Lib.Transition
import Pipane.Shared.DataChannelFraming

open javascript transition pipane.data_channel_framing pipane.frame_transport

namespace pipane.websocket_frame_transport

def MAX_RECONNECT_DELAY_MS : Nat := 10000

/-- `readyState` of a WebSocket. -/
inductive ReadyState
  | CONNECTING
  | OPEN
  | CLOSING
  | CLOSED
deriving DecidableEq

/-- A socket with the variables of the `openSocket` call that made it. `outcome` is how its promise was settled. -/
structure CarrierSocket where
  readyState : ReadyState
  reconnected : Bool
  opened : Bool
  outcome : Option (Except String Unit)

namespace CarrierSocket

/-- Only the first settlement of a promise counts. -/
def settle (self : CarrierSocket) (result : Except String Unit) : CarrierSocket :=
  { self with outcome := self.outcome.or (some result) }

/-- `socket.close(...)`: the close event comes later. -/
def close (self : CarrierSocket) : CarrierSocket :=
  if self.readyState = .CONNECTING ∨ self.readyState = .OPEN then { self with readyState := .CLOSING } else self

/-- Data can still come over the socket, now or once it has opened. -/
def Live (self : CarrierSocket) : Prop := self.readyState = .CONNECTING ∨ self.readyState = .OPEN

instance (self : CarrierSocket) : Decidable self.Live := by
  unfold Live
  infer_instance

end CarrierSocket

/-- An emitted event and what `isConnected` answered at that moment. -/
structure Emission where
  event : FrameTransportConnectionEvent
  isConnected : Bool
deriving DecidableEq

/-- A frame given to the listeners: the socket whose message completed it, the current socket at that moment, and
    the messages that the decoder had accepted since its last reset. -/
structure Delivery where
  socket : Nat
  current : Option Nat
  seen : List (Nat × JsString)
  frame : JsString
deriving DecidableEq

/-- The transport with every socket it ever made. `seen`, `delivered` and `emitted` are histories. -/
structure WebSocketFrameTransport where
  sockets : List CarrierSocket
  socket : Option Nat
  endpoint : Option JsString
  reconnecting : Bool
  reconnectAttempt : Nat
  reconnectTimer : Option Nat
  manuallyClosed : Bool
  decoder : DataChannelFrameDecoder
  seen : List (Nat × JsString)
  delivered : List Delivery
  emitted : List Emission

/-- Calls from outside, the reconnect timer and the events of the sockets. `created` is what `createWebSocket` does
    where it is called, `listenerThrew` whether a frame listener throws. -/
inductive Event
  | connect (endpoint : JsString) (created : Except String Unit)
  | close
  | reconnectTimer (created : Except String Unit)
  | opened (socket : Nat)
  | message (socket : Nat) (data : JsString) (listenerThrew : Bool)
  | failed (socket : Nat)
  | closed (socket : Nat)

namespace WebSocketFrameTransport

def fresh : WebSocketFrameTransport where
  sockets := []
  socket := none
  endpoint := none
  reconnecting := false
  reconnectAttempt := 0
  reconnectTimer := none
  manuallyClosed := false
  decoder := .fresh
  seen := []
  delivered := []
  emitted := []

def isConnected (self : WebSocketFrameTransport) : Bool :=
  (self.socket.bind (self.sockets[·]?)).any (·.readyState = .OPEN)

def updateSocket (self : WebSocketFrameTransport) (socket : Nat) (f : CarrierSocket → CarrierSocket) :
    WebSocketFrameTransport :=
  { self with sockets := self.sockets.modify socket f }

def resetDecoder (self : WebSocketFrameTransport) : WebSocketFrameTransport :=
  { self with decoder := .fresh, seen := [] }

def emitConnectionChange (self : WebSocketFrameTransport) (event : FrameTransportConnectionEvent) :
    WebSocketFrameTransport :=
  { self with emitted := self.emitted ++ [{ event, isConnected := self.isConnected }] }

/-- `openSocket` up to the events of the new socket, with the error of a promise that rejects at once. -/
def openSocket (self : WebSocketFrameTransport) (reconnected : Bool) (created : Except String Unit) :
    WebSocketFrameTransport × Except String Unit :=
  match self.endpoint with
  | none | some [] => (self, .error "Backend transport endpoint is missing")
  | some (_ :: _) =>
    match created with
    | .error error => (self, .error error)
    | .ok () =>
      ({ self with
        sockets := self.sockets ++ [{ readyState := .CONNECTING, reconnected, opened := false, outcome := none }]
        socket := some self.sockets.length }, .ok ())

def connect (self : WebSocketFrameTransport) (endpoint : JsString) (created : Except String Unit) :
    WebSocketFrameTransport × Except String Unit :=
  if self.isConnected then (self, .ok ())
  else { self with endpoint := some endpoint, manuallyClosed := false }.openSocket false created

def close (self : WebSocketFrameTransport) : WebSocketFrameTransport :=
  let self := { self with manuallyClosed := true, reconnecting := false, reconnectTimer := none }.resetDecoder
  match self.socket with
  | none => self
  | some socket => self.updateSocket socket .close

/-- `500 * 2 ** (attempt - 1)`, at most ten seconds. -/
def reconnectDelay (attempt : Nat) : Nat :=
  min (500 * 2 ^ (attempt - 1)) MAX_RECONNECT_DELAY_MS

def scheduleReconnect (self : WebSocketFrameTransport) : WebSocketFrameTransport :=
  if self.reconnectTimer.isSome ∨ self.manuallyClosed then self
  else
    { self with
      reconnecting := true
      reconnectAttempt := self.reconnectAttempt + 1
      reconnectTimer := some (reconnectDelay (self.reconnectAttempt + 1)) }

/-- The callback of the reconnect timer; a rejection is dropped. -/
def onReconnectTimer (self : WebSocketFrameTransport) (created : Except String Unit) : WebSocketFrameTransport :=
  match self.reconnectTimer with
  | none => self
  | some _ => ({ self with reconnectTimer := none }.openSocket true created).1

/-- A connecting socket opens; `onopen` then ignores it unless it is the current one. -/
def onopen (self : WebSocketFrameTransport) (socket : Nat) : WebSocketFrameTransport :=
  match self.sockets[socket]? with
  | none => self
  | some carrier =>
    if carrier.readyState ≠ .CONNECTING then self
    else
      let self := self.updateSocket socket fun carrier => { carrier with readyState := .OPEN }
      if self.socket ≠ some socket then self
      else
        { self.updateSocket socket fun carrier => { carrier with opened := true }.settle (.ok ()) with
          reconnecting := false
          reconnectAttempt := 0 }.emitConnectionChange { connected := true, reconnected := carrier.reconnected }

/-- `onmessage`. An open socket is the only one that a message comes from. -/
def onmessage (self : WebSocketFrameTransport) (socket : Nat) (data : JsString) (listenerThrew : Bool) :
    WebSocketFrameTransport :=
  match self.sockets[socket]? with
  | none => self
  | some carrier =>
    if carrier.readyState ≠ .OPEN then self
    else
      let (decoder, result) := self.decoder.accept data
      let self := { self with decoder, seen := self.seen ++ [(socket, data)] }
      match result with
      | .error _ => self.updateSocket socket .close
      | .ok none => self
      | .ok (some frame) =>
        let delivery := { socket, current := self.socket, seen := self.seen, frame }
        let self := { self with delivered := self.delivered ++ [delivery] }
        if listenerThrew then self.updateSocket socket .close else self

def onerror (self : WebSocketFrameTransport) (socket : Nat) : WebSocketFrameTransport :=
  self.updateSocket socket fun carrier =>
    if carrier.reconnected then carrier else carrier.settle (.error "WebSocket connection failed")

/-- A socket that is not closed closes, and `onclose` runs. -/
def onclose (self : WebSocketFrameTransport) (socket : Nat) : WebSocketFrameTransport :=
  match self.sockets[socket]? with
  | none => self
  | some carrier =>
    if carrier.readyState = .CLOSED then self
    else
      let self := self.updateSocket socket fun carrier =>
        { carrier with readyState := .CLOSED }.settle (.error "WebSocket closed before connecting")
      let self := { self with socket := if self.socket = some socket then none else self.socket }.resetDecoder
      let self :=
        if ¬ self.manuallyClosed ∧ (carrier.opened ∨ carrier.reconnected) then self.scheduleReconnect else self
      if carrier.opened then self.emitConnectionChange { connected := false, reconnected := false } else self

def step (self : WebSocketFrameTransport) : Event → WebSocketFrameTransport
  | .connect endpoint created => (self.connect endpoint created).1
  | .close => self.close
  | .reconnectTimer created => self.onReconnectTimer created
  | .opened socket => self.onopen socket
  | .message socket data listenerThrew => self.onmessage socket data listenerThrew
  | .failed socket => self.onerror socket
  | .closed socket => self.onclose socket

end WebSocketFrameTransport

end pipane.websocket_frame_transport

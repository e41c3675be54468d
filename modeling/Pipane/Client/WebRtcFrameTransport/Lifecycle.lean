import Pipane.Client.FrameTransport
import Pipane.Client.WebRtcFrameTransport
import Pipane.Lib.Json.Coerce
import Pipane.Shared.DataChannelFraming

open javascript json transition pipane.data_channel_framing pipane.frame_transport pipane.trust_protocol

namespace pipane.webrtc_frame_transport

/-- `readyState` of a data channel. -/
inductive ChannelState
  | connecting
  | «open»
  | closing
  | closed
deriving DecidableEq

/-- One call of `establishConnection`. `claims` are there once the authorization was accepted and the rendezvous
    client, the peer and the channel were made; `failing` is a failure whose diagnostics are being collected;
    `reconnects` says that the reconnect timer waits for the call. The handshake is `Attempt`. -/
structure Establishment where
  claims : Option ConnectionTicketClaims
  channelState : ChannelState
  settled : Bool
  authenticated : Bool
  failing : Option JsString
  outcome : Option (Except JsString Unit)
  reconnects : Bool

namespace Establishment

def start : Establishment where
  claims := none
  channelState := .connecting
  settled := false
  authenticated := false
  failing := none
  outcome := none
  reconnects := false

/-- Only the first settlement of the promise counts. -/
def settle (self : Establishment) (result : Except JsString Unit) : Establishment :=
  { self with outcome := self.outcome.or (some result) }

/-- `authorize()` has not answered. -/
def Authorizing (self : Establishment) : Prop :=
  self.claims = none ∧ self.failing = none ∧ self.outcome = none

instance (self : Establishment) : Decidable self.Authorizing :=
  decidable_of_iff (self.claims.isNone ∧ self.failing.isNone ∧ self.outcome.isNone) (by simp [Authorizing])

end Establishment

/-- The transport. `current` is the call whose rendezvous client, peer and channel it holds; the three are set and
    dropped together. `delivered` and `emitted` are histories. -/
structure WebRtcFrameTransport where
  establishments : List Establishment
  current : Option Nat
  connected : Bool
  manuallyClosed : Bool
  everConnected : Bool
  reconnectAttempt : Nat
  reconnectTimer : Bool
  connecting : Option Nat
  decoder : DataChannelFrameDecoder
  delivered : List JsString
  emitted : List FrameTransportConnectionEvent

/-- What the constructor takes. -/
structure TransportOptions where
  backendId : JsString
  deviceId : JsString

/-- What `authorize()` led to: the decoded claims of the ticket, and whether the rendezvous client, the peer and
    the channel could be made. -/
structure Authorization where
  claims : Except JsString ConnectionTicketClaims
  created : Except JsString Unit

/-- Calls from outside, the reconnect timer, and what a call of `establishConnection` waits for. `failed` is a
    rejection of the handshake, an error of the rendezvous client or the timer of the attempt; `broken` is a failed
    ICE path, connection or channel or a closed route; `sendFailed` is a throwing `channel.send`. -/
inductive TransportEvent
  | connect
  | close
  | reconnectTimer
  | authorizeSettled (establishment : Nat) (result : Except JsString Authorization)
  | rendezvousConnected (establishment : Nat) (connectionId : JsString)
  | channelOpened (establishment : Nat)
  | message (establishment : Nat) (data : JsString) (listenerThrew : Bool)
  | failed (establishment : Nat) (message : JsString)
  | broken (establishment : Nat) (message : JsString)
  | channelClosed (establishment : Nat)
  | diagnosticsCollected (establishment : Nat)
  | connectSettled (establishment : Nat)
  | sendFailed

/-- The check of the first frame of a channel. -/
def checkAuthenticated (options : TransportOptions) (frame : JsString) : Except JsString Unit :=
  match parse frame with
  | none => .error (js "Backend returned an invalid authentication frame")
  | some result =>
    if (result.get? (js "protocolVersion")).all (! ·.isInt TRUST_PROTOCOL_VERSION) ∨
        ¬ isStr (js "authenticated") (result.get? (js "type")) then
      let message := result.get? (js "message")
      .error (if truthy message then propertyKey message else js "Backend rejected DataChannel authentication")
    else if ¬ isStr options.deviceId (result.get? (js "deviceId")) then
      .error (js "Backend authenticated an unexpected browser device")
    else .ok ()

namespace WebRtcFrameTransport

def fresh : WebRtcFrameTransport where
  establishments := []
  current := none
  connected := false
  manuallyClosed := false
  everConnected := false
  reconnectAttempt := 0
  reconnectTimer := false
  connecting := none
  decoder := .fresh
  delivered := []
  emitted := []

def isConnected (self : WebRtcFrameTransport) : Bool :=
  self.connected && (self.current.bind (self.establishments[·]?)).any (·.channelState = .open)

def update (self : WebRtcFrameTransport) (establishment : Nat) (f : Establishment → Establishment) :
    WebRtcFrameTransport :=
  { self with establishments := self.establishments.modify establishment f }

def emitConnectionChange (self : WebRtcFrameTransport) (event : FrameTransportConnectionEvent) :
    WebRtcFrameTransport :=
  { self with emitted := self.emitted ++ [event] }

/-- `channel.close()` starts the closing of the channel. -/
def closeChannel (self : WebRtcFrameTransport) : WebRtcFrameTransport :=
  match self.current with
  | none => self
  | some establishment =>
    self.update establishment fun call =>
      if call.channelState = .closed then call else { call with channelState := .closing }

def closeInternal (self : WebRtcFrameTransport) : WebRtcFrameTransport :=
  let wasConnected := self.connected
  let self := { self.closeChannel with connected := false, current := none, decoder := .fresh }
  if wasConnected then self.emitConnectionChange { connected := false, reconnected := false } else self

def close (self : WebRtcFrameTransport) : WebRtcFrameTransport :=
  { self with manuallyClosed := true, reconnectTimer := false }.closeInternal

def connect (self : WebRtcFrameTransport) : WebRtcFrameTransport :=
  if self.isConnected ∨ self.connecting.isSome then self
  else
    { self with
      reconnectTimer := false
      manuallyClosed := false
      establishments := self.establishments ++ [.start]
      connecting := some self.establishments.length }

def scheduleReconnect (self : WebRtcFrameTransport) : WebRtcFrameTransport :=
  if self.manuallyClosed ∨ self.reconnectTimer then self
  else { self with reconnectAttempt := self.reconnectAttempt + 1, reconnectTimer := true }

/-- The callback of the reconnect timer waits for the promise that `connect` returns. -/
def onReconnectTimer (self : WebRtcFrameTransport) : WebRtcFrameTransport :=
  if ¬ self.reconnectTimer then self
  else
    let self := { self with reconnectTimer := false }
    if self.isConnected then self
    else
      let self := self.connect
      match self.connecting with
      | none => self
      | some establishment => self.update establishment fun call => { call with reconnects := true }

def handleDisconnected (self : WebRtcFrameTransport) : WebRtcFrameTransport :=
  if self.manuallyClosed ∨ ¬ self.connected then self else self.closeInternal.scheduleReconnect

/-- `fail` of a call; the rejection of a current one waits for its diagnostics. -/
def fail (self : WebRtcFrameTransport) (establishment : Nat) (message : JsString) : WebRtcFrameTransport :=
  match self.establishments[establishment]? with
  | none => self
  | some call =>
    if call.settled ∨ call.claims = none then self
    else if self.current ≠ some establishment then
      self.update establishment fun call => { call with settled := true }.settle (.error message)
    else self.update establishment fun call => { call with settled := true, failing := some message }

/-- `establishConnection` from the answer of `authorize()` to the new channel. -/
def onAuthorizeSettled (options : TransportOptions) (self : WebRtcFrameTransport) (establishment : Nat)
    (result : Except JsString Authorization) : WebRtcFrameTransport :=
  match self.establishments[establishment]? with
  | none => self
  | some call =>
    if ¬ call.Authorizing then self
    else
      match result with
      | .error message => self.update establishment fun call => { call with failing := some message }
      | .ok authorization =>
        match authorization.claims with
        | .error message => self.update establishment fun call => call.settle (.error message)
        | .ok claims =>
          if claims.backendId ≠ options.backendId ∨ claims.deviceId ≠ options.deviceId then
            self.update establishment fun call =>
              call.settle (.error (js "Connection ticket does not match this browser and backend"))
          else
            match authorization.created with
            | .error message => self.update establishment fun call => call.settle (.error message)
            | .ok () =>
              { self.update establishment fun call => { call with claims := some claims } with
                current := some establishment }

def onRendezvousConnected (self : WebRtcFrameTransport) (establishment : Nat) (connectionId : JsString) :
    WebRtcFrameTransport :=
  match (self.establishments[establishment]?).bind (·.claims) with
  | none => self
  | some claims =>
    if connectionId ≠ claims.connectionId then
      self.fail establishment (js "Rendezvous route does not match the connection ticket")
    else self

def onChannelOpened (self : WebRtcFrameTransport) (establishment : Nat) : WebRtcFrameTransport :=
  self.update establishment fun call =>
    if call.channelState = .connecting then { call with channelState := .open } else call

def onmessage (options : TransportOptions) (self : WebRtcFrameTransport) (establishment : Nat) (data : JsString)
    (listenerThrew : Bool) : WebRtcFrameTransport :=
  match self.establishments[establishment]? with
  | none => self
  | some call =>
    if self.current ≠ some establishment then self
    else if ¬ call.authenticated then
      match checkAuthenticated options data with
      | .error message => self.fail establishment message
      | .ok () =>
        { { self.update establishment fun call =>
              { call with authenticated := true, settled := true }.settle (.ok ()) with
            connected := true
            reconnectAttempt := 0 }.emitConnectionChange
              { connected := true, reconnected := self.everConnected } with
          everConnected := true }
    else
      let (decoder, decoded) := self.decoder.accept data
      let self := { self with decoder }
      match decoded with
      | .error _ => self.handleDisconnected
      | .ok none => self
      | .ok (some frame) =>
        let self := { self with delivered := self.delivered ++ [frame] }
        if listenerThrew then self.handleDisconnected else self

/-- A callback that reports a broken connection: it fails the call or ends the established connection. -/
def onBroken (self : WebRtcFrameTransport) (establishment : Nat) (message : JsString) : WebRtcFrameTransport :=
  match self.establishments[establishment]? with
  | none => self
  | some call =>
    if self.current ≠ some establishment then self
    else if ¬ call.settled then self.fail establishment message
    else self.handleDisconnected

def onChannelClosed (self : WebRtcFrameTransport) (establishment : Nat) : WebRtcFrameTransport :=
  (self.update establishment fun call => { call with channelState := .closed }).onBroken establishment
    (js "WebRTC DataChannel closed before authentication")

/-- The end of `fail` or of a failed authorization. -/
def onDiagnosticsCollected (self : WebRtcFrameTransport) (establishment : Nat) : WebRtcFrameTransport :=
  match (self.establishments[establishment]?).bind (·.failing) with
  | none => self
  | some message =>
    (if self.current = some establishment then self.closeInternal else self).update establishment fun call =>
      { call with failing := none }.settle (.error message)

/-- The reactions to the settled promise of a call. -/
def onConnectSettled (self : WebRtcFrameTransport) (establishment : Nat) : WebRtcFrameTransport :=
  match self.establishments[establishment]? with
  | none => self
  | some call =>
    match call.outcome with
    | none => self
    | some result =>
      let self :=
        { self.update establishment fun call => { call with reconnects := false } with
          connecting := if self.connecting = some establishment then none else self.connecting }
      match result with
      | .ok () => self
      | .error _ => if call.reconnects then self.scheduleReconnect else self

/-- `flushOutgoing` whose `channel.send` throws. -/
def onSendFailed (self : WebRtcFrameTransport) : WebRtcFrameTransport :=
  if self.isConnected then self.handleDisconnected else self

def step (options : TransportOptions) (self : WebRtcFrameTransport) : TransportEvent → WebRtcFrameTransport
  | .connect => self.connect
  | .close => self.close
  | .reconnectTimer => self.onReconnectTimer
  | .authorizeSettled establishment result => self.onAuthorizeSettled options establishment result
  | .rendezvousConnected establishment connectionId => self.onRendezvousConnected establishment connectionId
  | .channelOpened establishment => self.onChannelOpened establishment
  | .message establishment data listenerThrew => self.onmessage options establishment data listenerThrew
  | .failed establishment message => self.fail establishment message
  | .broken establishment message => self.onBroken establishment message
  | .channelClosed establishment => self.onChannelClosed establishment
  | .diagnosticsCollected establishment => self.onDiagnosticsCollected establishment
  | .connectSettled establishment => self.onConnectSettled establishment
  | .sendFailed => self.onSendFailed

end WebRtcFrameTransport

end pipane.webrtc_frame_transport

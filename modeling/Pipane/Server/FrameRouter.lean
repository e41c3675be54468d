import Pipane.Shared.BackendProtocol.Codec

open javascript pipane.backend_protocol

namespace pipane.frame_router

variable {ρ : Type} [DecidableEq ρ]

/-- One side of a connection, with what its listeners were given. -/
structure RoutedFrameConnection (ρ : Type) where
  messageListeners : List ρ
  delivered : List (ρ × JsString)

namespace RoutedFrameConnection

/-- `on("message", listener)`: the listeners are a set. -/
def on (self : RoutedFrameConnection ρ) (listener : ρ) : RoutedFrameConnection ρ :=
  if listener ∈ self.messageListeners then self
  else { self with messageListeners := self.messageListeners ++ [listener] }

def emitMessage (self : RoutedFrameConnection ρ) (raw : JsString) : RoutedFrameConnection ρ :=
  { self with delivered := self.delivered ++ self.messageListeners.map fun listener => (listener, raw) }

end RoutedFrameConnection

/-- What `routeFrameConnection` returns. -/
structure RoutedConnections (ρ : Type) where
  application : RoutedFrameConnection ρ
  semantic : RoutedFrameConnection ρ

/-- The listener that `routeFrameConnection` puts on the connection. -/
def RoutedConnections.onMessage (self : RoutedConnections ρ) (raw : JsString) : RoutedConnections ρ :=
  if isBackendProtocolFrame raw then { self with semantic := self.semantic.emitMessage raw }
  else { self with application := self.application.emitMessage raw }

end pipane.frame_router

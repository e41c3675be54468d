namespace pipane.frame_transport

/-- What a transport tells its listeners when its connection changes. -/
structure FrameTransportConnectionEvent where
  connected : Bool
  reconnected : Bool
deriving DecidableEq

end pipane.frame_transport

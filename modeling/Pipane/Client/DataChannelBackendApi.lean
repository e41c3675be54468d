import Pipane.Lib.OrderedMap
import Pipane.Shared.BackendProtocol.Codec

open javascript json pipane.backend_protocol

namespace pipane.data_channel_backend_api

structure PendingRequest where
  method : JsString

/-- How a pending request is settled. -/
inductive Settlement
  | resolve (result : Value)
  | reject (error : BackendApiErrorPayload)
  | mismatch (expected received : JsString)

/-- The requests that wait for their responses, and those that were settled. -/
structure DataChannelBackendApi where
  pending : OrderedMap JsString PendingRequest
  settled : List (JsString × Settlement)

namespace DataChannelBackendApi

def handleFrame (self : DataChannelBackendApi) (raw : JsString) : DataChannelBackendApi :=
  if ¬ isBackendProtocolFrame raw then self
  else
    match decodeBackendResponse raw with
    | .invalid _ _ _ => self
    | .ok response =>
      match self.pending.get? response.id with
      | none => self
      | some pending =>
        let settlement : Settlement :=
          if response.method ≠ pending.method then .mismatch pending.method response.method
          else
            match response.outcome with
            | .ok result => .resolve result
            | .error error => .reject error
        { pending := self.pending.erase response.id, settled := self.settled ++ [(response.id, settlement)] }

end DataChannelBackendApi

end pipane.data_channel_backend_api

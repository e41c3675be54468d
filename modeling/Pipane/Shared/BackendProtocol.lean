import Pipane.Lib.Json

open javascript json

namespace pipane.backend_protocol

def BACKEND_PROTOCOL_VERSION : Nat := 2

structure BackendApiErrorPayload where
  code : JsString
  message : JsString

structure BackendRequestFrame where
  id : JsString
  method : JsString
  params : Value

/-- The rest of a response frame: its result or its error. -/
structure BackendResponseFrame where
  id : JsString
  method : JsString
  outcome : Except BackendApiErrorPayload Value

/-- What a frame decodes to. An invalid one keeps the id and the method it can be answered under. -/
inductive BackendProtocolDecodeResult
  | ok (value : BackendRequestFrame)
  | invalid (error : BackendApiErrorPayload) (requestId : Option JsString) (method : JsString)

def BackendApiErrorPayload.value (error : BackendApiErrorPayload) : Value :=
  .obj [(js "code", .str error.code), (js "message", .str error.message)]

/-- `encodeBackendFrame` of a response. -/
def encodeBackendFrame (frame : BackendResponseFrame) : JsString :=
  let outcome :=
    match frame.outcome with
    | .ok result => [(js "success", Value.bool true), (js "result", result)]
    | .error error => [(js "success", Value.bool false), (js "error", error.value)]
  stringify (.obj ([(js "v", .num (.int BACKEND_PROTOCOL_VERSION)), (js "kind", .str (js "response")),
    (js "id", .str frame.id), (js "method", .str frame.method)] ++ outcome))

end pipane.backend_protocol

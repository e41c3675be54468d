import Pipane.Lib.Json.Coerce
import Pipane.Shared.BackendProtocol

open javascript json

namespace pipane.backend_protocol

def BACKEND_PROTOCOL_MAX_FRAME_BYTES : Nat := 3 * 1024 * 1024

def BACKEND_METHODS : List JsString :=
  [js "backend.capabilities", js "sessions.list", js "sessions.delete", js "sessions.forkMessages",
    js "sessions.raw", js "files.read", js "files.upload.create", js "files.upload.append",
    js "files.upload.complete", js "files.upload.abort", js "host.browse", js "host.mkdir", js "settings.get",
    js "settings.validate", js "settings.patch", js "settings.save", js "updates.get", js "updates.run"]

def BACKEND_ERROR_CODES : List JsString :=
  [js "invalid_json", js "invalid_request", js "unsupported_version", js "unknown_method", js "not_found",
    js "forbidden", js "conflict", js "internal_error"]

def isBackendMethod (value : JsString) : Bool :=
  value ∈ BACKEND_METHODS

def isRecord : Option Value → Bool
  | some (.obj _) => true
  | _ => false

def isString : Option Value → Bool
  | some (.str _) => true
  | _ => false

/-- A non-empty string, as itself. -/
def nonEmptyString? : Option Value → Option JsString
  | some (.str s) => if s = [] then none else some s
  | _ => none

def isNonEmptyString (value : Option Value) : Bool :=
  (nonEmptyString? value).isSome

/-- `Number.isSafeInteger(value)` and not negative. -/
def isNaturalNumber : Option Value → Bool
  | some (.num (.int n)) => isSafeInteger n && 0 ≤ n
  | _ => false

/-- The string a property holds, or the empty one. -/
def stringOrEmpty : Option Value → JsString
  | some (.str s) => s
  | _ => []

def string? : Option Value → Option JsString
  | some (.str s) => some s
  | _ => none

def hasOnlyKeys (value : Value) (keys : List JsString) : Bool :=
  match value with
  | .obj members => members.length = keys.length ∧ ∀ member ∈ members, member.1 ∈ keys
  | _ => false

def validateParams (method : JsString) (params : Value) : Bool :=
  let field (key : String) := params.get? (js key)
  if method ∈ [js "backend.capabilities", js "sessions.list", js "settings.get", js "updates.get"] then
    hasOnlyKeys params []
  else if method ∈ [js "sessions.delete", js "sessions.forkMessages", js "sessions.raw"] then
    hasOnlyKeys params [js "sessionPath"] && isNonEmptyString (field "sessionPath")
  else if method = js "files.read" then
    hasOnlyKeys params [js "sessionPath", js "path"] && isNonEmptyString (field "sessionPath") &&
      isNonEmptyString (field "path")
  else if method = js "files.upload.create" then
    hasOnlyKeys params [js "fileName", js "mimeType", js "size"] && isNonEmptyString (field "fileName") &&
      isNonEmptyString (field "mimeType") && isNaturalNumber (field "size")
  else if method = js "files.upload.append" then
    hasOnlyKeys params [js "uploadId", js "offset", js "data"] && isNonEmptyString (field "uploadId") &&
      isNaturalNumber (field "offset") && isNonEmptyString (field "data")
  else if method ∈ [js "files.upload.complete", js "files.upload.abort"] then
    hasOnlyKeys params [js "uploadId"] && isNonEmptyString (field "uploadId")
  else if method = js "host.browse" then
    hasOnlyKeys params [js "path"] && isString (field "path")
  else if method = js "host.mkdir" then
    hasOnlyKeys params [js "parentPath", js "name"] && isNonEmptyString (field "parentPath") &&
      isNonEmptyString (field "name")
  else if method ∈ [js "settings.validate", js "settings.save"] then
    hasOnlyKeys params [js "content"] && isString (field "content")
  else if method = js "settings.patch" then
    hasOnlyKeys params [js "patch"] && isRecord (field "patch")
  else if method = js "updates.run" then
    hasOnlyKeys params [js "target"] &&
      (isStr (js "pipane") (field "target") || isStr (js "pi") (field "target") ||
        isStr (js "extensions") (field "target"))
  else false

/-- The object in a frame of this protocol. -/
def parseEnvelope (raw : JsString) : Except BackendApiErrorPayload Value :=
  if BACKEND_PROTOCOL_MAX_FRAME_BYTES < (textEncode raw).length then
    .error { code := js "invalid_request", message := js "Backend frame exceeds the size limit" }
  else
    match parse raw with
    | none => .error { code := js "invalid_json", message := js "Backend frame is not valid JSON" }
    | some value =>
      if ¬ isRecord (some value) then
        .error { code := js "invalid_request", message := js "Backend frame must be an object" }
      else if ¬ (value.get? (js "v")).any (·.isInt BACKEND_PROTOCOL_VERSION) then
        .error {
          code := js "unsupported_version"
          message := js "Unsupported backend protocol version: " ++ propertyKey (value.get? (js "v")) }
      else .ok value

def decodeBackendRequest (raw : JsString) : BackendProtocolDecodeResult :=
  match parseEnvelope raw with
  | .error error => .invalid error none []
  | .ok value =>
    let malformed : BackendProtocolDecodeResult :=
      .invalid { code := js "invalid_request", message := js "Backend request envelope is malformed" }
        (string? (value.get? (js "id"))) (stringOrEmpty (value.get? (js "method")))
    match nonEmptyString? (value.get? (js "id")), nonEmptyString? (value.get? (js "method")),
        value.get? (js "params") with
    | some id, some method, some params =>
      if ¬ isStr (js "request") (value.get? (js "kind")) ∨ ¬ isRecord (some params) then malformed
      else if ¬ isBackendMethod method then
        .invalid { code := js "unknown_method", message := js "Unknown backend method: " ++ method } (some id) method
      else if ¬ validateParams method params then
        .invalid { code := js "invalid_request", message := js "Invalid parameters for " ++ method } (some id) method
      else .ok { id, method, params }
    | _, _, _ => malformed

/-- `isApiError`, as the payload. -/
def apiError? : Option Value → Option BackendApiErrorPayload
  | some (.obj members) =>
    match string? ((Value.obj members).get? (js "code")), nonEmptyString? ((Value.obj members).get? (js "message")) with
    | some code, some message => if code ∈ BACKEND_ERROR_CODES then some { code, message } else none
    | _, _ => none
  | _ => none

/-- What a response decodes to. -/
inductive BackendResponseDecodeResult
  | ok (value : BackendResponseFrame)
  | invalid (error : BackendApiErrorPayload) (requestId : Option JsString) (method : JsString)

def decodeBackendResponse (raw : JsString) : BackendResponseDecodeResult :=
  match parseEnvelope raw with
  | .error error => .invalid error none []
  | .ok value =>
    let malformed : BackendResponseDecodeResult :=
      .invalid { code := js "invalid_request", message := js "Backend response envelope is malformed" }
        (string? (value.get? (js "id"))) (stringOrEmpty (value.get? (js "method")))
    match nonEmptyString? (value.get? (js "id")), nonEmptyString? (value.get? (js "method")),
        value.get? (js "success") with
    | some id, some method, some (.bool success) =>
      if ¬ isStr (js "response") (value.get? (js "kind")) then malformed
      else if success then
        match value.get? (js "result") with
        | none =>
          .invalid { code := js "invalid_request", message := js "Successful response is missing result" } (some id)
            method
        | some result => .ok { id, method, outcome := .ok result }
      else
        match apiError? (value.get? (js "error")) with
        | none =>
          .invalid { code := js "invalid_request", message := js "Failed response is missing a valid error" } (some id)
            method
        | some error => .ok { id, method, outcome := .error error }
    | _, _, _ => malformed

/-- `encodeBackendFrame` of a response whose result may be `undefined`, which `JSON.stringify` leaves out. -/
def encodeBackendResponse (id method : JsString) (outcome : Except BackendApiErrorPayload (Option Value)) : JsString :=
  match outcome with
  | .ok (some result) => encodeBackendFrame { id, method, outcome := .ok result }
  | .ok none =>
    stringify (.obj [(js "v", .num (.int BACKEND_PROTOCOL_VERSION)), (js "kind", .str (js "response")),
      (js "id", .str id), (js "method", .str method), (js "success", .bool true)])
  | .error error => encodeBackendFrame { id, method, outcome := .error error }

/-- `encodeBackendFrame` of a request. -/
def encodeBackendRequest (request : BackendRequestFrame) : JsString :=
  stringify (.obj [(js "v", .num (.int BACKEND_PROTOCOL_VERSION)), (js "kind", .str (js "request")),
    (js "id", .str request.id), (js "method", .str request.method), (js "params", request.params)])

/-- `/"v"\s*:\s*2(?:\s*[,}])/u` at the start of a text. -/
def startsVersion (text : JsString) : Bool :=
  match text.dropPrefix? (js "\"v\"") with
  | none => false
  | some rest =>
    match rest.dropWhile javascript.isWhitespace with
    | 0x3A :: rest =>
      match rest.dropWhile javascript.isWhitespace with
      | 0x32 :: rest =>
        match rest.dropWhile javascript.isWhitespace with
        | [] => false
        | u :: _ => u = 0x2C ∨ u = 0x7D
      | _ => false
    | _ => false

/-- `/"kind"\s*:\s*"(?:request|response|event)"/u` at the start of a text. -/
def startsKind (text : JsString) : Bool :=
  match text.dropPrefix? (js "\"kind\"") with
  | none => false
  | some rest =>
    match rest.dropWhile javascript.isWhitespace with
    | 0x3A :: rest =>
      let rest := rest.dropWhile javascript.isWhitespace
      (js "\"request\"").isPrefixOf rest || (js "\"response\"").isPrefixOf rest || (js "\"event\"").isPrefixOf rest
    | _ => false

/-- Told apart from an application frame by its first 128 code units. -/
def isBackendProtocolFrame (raw : JsString) : Bool :=
  let start := raw.take 128
  start.tails.any startsVersion && start.tails.any startsKind

end pipane.backend_protocol

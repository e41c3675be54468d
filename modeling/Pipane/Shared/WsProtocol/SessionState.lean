import Pipane.Shared.WsProtocol

open javascript json

namespace pipane.ws_protocol

inductive ProtocolErrorCode
  | invalid_json
  | invalid_message
  | unsupported_version
  | unknown_command
  | unknown_message
deriving DecidableEq

structure ProtocolDecodeError where
  code : ProtocolErrorCode
  message : JsString
  requestId : Option JsString
  command : JsString
deriving DecidableEq

/-- The message of a `ValidationFailure`. -/
def validationFailure (path : JsString) (message : String) : JsString :=
  path ++ js ": " ++ js message

def record (value : Option Value) (path : JsString) : Except JsString (List (JsString × Value)) :=
  match value with
  | some (.obj members) => .ok members
  | _ => .error (validationFailure path "expected an object")

def string (value : Option Value) (path : JsString) (allowEmpty : Bool) : Except JsString JsString :=
  match value with
  | some (.str text) =>
    if text = [] ∧ ¬ allowEmpty then .error (validationFailure path "expected a non-empty string") else .ok text
  | _ => .error (validationFailure path (if allowEmpty then "expected a string" else "expected a non-empty string"))

def optionalString (value : Option Value) (path : JsString) : Except JsString Unit :=
  match value with
  | none => .ok ()
  | some value => (string (some value) path true).map fun _ => ()

def boolean (value : Option Value) (path : JsString) : Except JsString Bool :=
  match value with
  | some (.bool b) => .ok b
  | _ => .error (validationFailure path "expected a boolean")

/-- Every number that `JSON.parse` keeps here is finite. -/
def finiteNumber (value : Option Value) (path : JsString) : Except JsString Unit :=
  match value with
  | some (.num _) => .ok ()
  | _ => .error (validationFailure path "expected a finite number")

def array (value : Option Value) (path : JsString) : Except JsString (List Value) :=
  match value with
  | some (.arr items) => .ok items
  | _ => .error (validationFailure path "expected an array")

def itemPath (path : JsString) (index : Nat) : JsString :=
  path ++ 0x5B :: decimal index ++ [0x5D]

def memberPath (path key : JsString) : JsString :=
  path ++ 0x2E :: key

def stringArray (value : Option Value) (path : JsString) : Except JsString Unit := do
  let items ← array value path
  items.zipIdx.forM fun (item, index) => (string (some item) (itemPath path index) true).map fun _ => ()

mutual

/-- `String(value)`. -/
def toText : Value → JsString
  | .null => js "null"
  | .bool b => js (if b then "true" else "false")
  | .num n => stringifyNumber n
  | .str text => text
  | .arr items => joinTexts items
  | .obj _ => js "[object Object]"

/-- `items.join()`: `null` contributes nothing. -/
def joinTexts : List Value → JsString
  | [] => []
  | [.null] => []
  | [item] => toText item
  | .null :: items => 0x2C :: joinTexts items
  | item :: items => toText item ++ 0x2C :: joinTexts items

end

def THINKING_LEVELS : List JsString :=
  [js "off", js "minimal", js "low", js "medium", js "high", js "xhigh", js "max"]

def thinkingLevel (value : Option Value) (path : JsString) : Except JsString Unit :=
  if (value.elim (js "undefined") toText) ∈ THINKING_LEVELS then .ok ()
  else .error (validationFailure path "expected a supported thinking level")

def compactModel (value : Option Value) (path : JsString) : Except JsString Unit := do
  let model ← record value path
  let _ ← string (model.lookup (js "provider")) (memberPath path (js "provider")) false
  let _ ← string (model.lookup (js "modelId")) (memberPath path (js "modelId")) false
  return ()

def toolCallTiming (path : JsString) (value : Value) : Except JsString Unit := do
  let timing ← record (some value) path
  finiteNumber (timing.lookup (js "startedAt")) (memberPath path (js "startedAt"))
  match timing.lookup (js "completedAt") with
  | none => return ()
  | some completedAt => finiteNumber (some completedAt) (memberPath path (js "completedAt"))

def validateSessionStateMetadata (state : List (JsString × Value)) (path : JsString) : Except JsString Unit := do
  let _ ← boolean (state.lookup (js "isStreaming")) (memberPath path (js "isStreaming"))
  stringArray (state.lookup (js "pendingToolCalls")) (memberPath path (js "pendingToolCalls"))
  let timingsPath := memberPath path (js "toolCallTimings")
  let timings ← record (state.lookup (js "toolCallTimings")) timingsPath
  timings.forM fun (toolCallId, value) => toolCallTiming (memberPath timingsPath toolCallId) value
  match state.lookup (js "model") with
  | some .null => pure ()
  | model => compactModel model (memberPath path (js "model"))
  thinkingLevel (state.lookup (js "thinkingLevel")) (memberPath path (js "thinkingLevel"))
  stringArray (state.lookup (js "steeringQueue")) (memberPath path (js "steeringQueue"))
  optionalString (state.lookup (js "error")) (memberPath path (js "error"))

def validateSessionState (value : Value) : Except JsString (List (JsString × Value)) := do
  let path := js "$session"
  let state ← record (some value) path
  let messagesPath := memberPath path (js "messages")
  let messages ← array (state.lookup (js "messages")) messagesPath
  messages.zipIdx.forM fun (item, index) => do
    let message ← record (some item) (itemPath messagesPath index)
    let _ ← string (message.lookup (js "role")) (memberPath (itemPath messagesPath index) (js "role")) false
  validateSessionStateMetadata state path
  return state

/-- The text of a string property. -/
def stringMember (key : JsString) (value : Value) : Option JsString :=
  match value.get? key with
  | some (.str text) => some text
  | _ => none

def decodeFailure (value : Value) (message fallbackCommand : JsString) : ProtocolDecodeError where
  code := .invalid_message
  message := message
  requestId := stringMember (js "id") value
  command := (stringMember (js "type") value).getD fallbackCommand

/-- The members of a state text, or why it is refused. -/
def decodeSessionStateJson (raw : JsString) : Except ProtocolDecodeError (List (JsString × Value)) :=
  match parse raw with
  | none => .error { code := .invalid_json, message := js "Invalid JSON", requestId := none, command := js "parse" }
  | some value =>
    match validateSessionState value with
    | .error message => .error (decodeFailure value message (js "session_sync"))
    | .ok state => .ok state

end pipane.ws_protocol

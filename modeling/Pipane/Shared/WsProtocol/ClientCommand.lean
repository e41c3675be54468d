import Pipane.Lib.Json.Coerce
import Pipane.Shared.WsProtocol.SessionState

open javascript json

namespace pipane.ws_protocol

def MAX_KNOWN_SESSION_MESSAGE_HASHES : Nat := 4096

inductive ThinkingLevelValue
  | off
  | minimal
  | low
  | medium
  | high
  | xhigh
  | max
deriving DecidableEq

def ThinkingLevelValue.text : ThinkingLevelValue → JsString
  | .off => js "off"
  | .minimal => js "minimal"
  | .low => js "low"
  | .medium => js "medium"
  | .high => js "high"
  | .xhigh => js "xhigh"
  | .max => js "max"

structure CompactModelRef where
  provider : JsString
  modelId : JsString
deriving DecidableEq

def CompactModelRef.value (model : CompactModelRef) : Value :=
  .obj [(js "provider", .str model.provider), (js "modelId", .str model.modelId)]

inductive WireImage
  | inlined (data mimeType : JsString)
  | uploaded (uploadedPath mimeType : JsString)
deriving DecidableEq

def WireImage.value : WireImage → Value
  | .inlined data mimeType =>
    .obj [(js "type", .str (js "image")), (js "data", .str data), (js "mimeType", .str mimeType)]
  | .uploaded uploadedPath mimeType =>
    .obj [(js "type", .str (js "image")), (js "uploadedPath", .str uploadedPath), (js "mimeType", .str mimeType)]

inductive ClientCommandType
  | install_pi
  | subscribe_session
  | prompt
  | steer
  | remove_steering
  | abort
  | hard_kill
  | compact
  | get_available_models
  | get_default_model
  | get_session_statuses
  | get_session_stats
  | fork
  | fork_current
  | fork_prompt
  | set_session_name
  | get_commands
  | reload_processes
deriving DecidableEq

def ClientCommandType.text : ClientCommandType → JsString
  | .install_pi => js "install_pi"
  | .subscribe_session => js "subscribe_session"
  | .prompt => js "prompt"
  | .steer => js "steer"
  | .remove_steering => js "remove_steering"
  | .abort => js "abort"
  | .hard_kill => js "hard_kill"
  | .compact => js "compact"
  | .get_available_models => js "get_available_models"
  | .get_default_model => js "get_default_model"
  | .get_session_statuses => js "get_session_statuses"
  | .get_session_stats => js "get_session_stats"
  | .fork => js "fork"
  | .fork_current => js "fork_current"
  | .fork_prompt => js "fork_prompt"
  | .set_session_name => js "set_session_name"
  | .get_commands => js "get_commands"
  | .reload_processes => js "reload_processes"

/-- What `prompt` and `fork_prompt` share. -/
structure PromptFields where
  sessionPath : JsString
  message : JsString
  model : CompactModelRef
  /-- Stable browser-generated identity retained across carrier reconnects. -/
  operationId : Option JsString
  thinkingLevel : Option ThinkingLevelValue
  controlRevision : Option Nat
  images : Option (List WireImage)
deriving DecidableEq

inductive ClientCommandPayload
  | install_pi
  | subscribe_session (command : SubscribeSession)
  | prompt (fields : PromptFields) (cwd : Option JsString)
  | steer (sessionPath message : JsString) (operationId : Option JsString)
  | remove_steering (sessionPath : JsString) (index : Nat)
  | abort (sessionPath : JsString)
  | hard_kill (sessionPath : JsString)
  | compact (sessionPath : JsString) (customInstructions : Option JsString)
  | get_available_models
  | get_default_model
  | get_session_statuses
  | get_session_stats (sessionPath : JsString)
  | fork (sessionPath entryId : JsString)
  | fork_current (sessionPath : JsString) (operationId : Option JsString)
  | fork_prompt (fields : PromptFields)
  | set_session_name (sessionPath name : JsString)
  | get_commands (sessionPath cwd : Option JsString)
  | reload_processes
deriving DecidableEq

/-- A member that `JSON.stringify` leaves out when it is `undefined`. -/
def optionalMember {α : Type} (key : String) (value : Option α) (write : α → Value) : List (JsString × Value) :=
  match value with
  | none => []
  | some value => [(js key, write value)]

def natValue (n : Nat) : Value :=
  .num (.int n)

def textsValue (texts : List JsString) : Value :=
  .arr (texts.map .str)

def PromptFields.optionalMembers (fields : PromptFields) : List (JsString × Value) :=
  optionalMember "operationId" fields.operationId .str ++
    (optionalMember "thinkingLevel" fields.thinkingLevel (fun level => .str level.text) ++
      (optionalMember "controlRevision" fields.controlRevision natValue ++
        optionalMember "images" fields.images fun images => .arr (images.map WireImage.value)))

namespace ClientCommandPayload

def type : ClientCommandPayload → ClientCommandType
  | .install_pi => .install_pi
  | .subscribe_session _ => .subscribe_session
  | .prompt _ _ => .prompt
  | .steer _ _ _ => .steer
  | .remove_steering _ _ => .remove_steering
  | .abort _ => .abort
  | .hard_kill _ => .hard_kill
  | .compact _ _ => .compact
  | .get_available_models => .get_available_models
  | .get_default_model => .get_default_model
  | .get_session_statuses => .get_session_statuses
  | .get_session_stats _ => .get_session_stats
  | .fork _ _ => .fork
  | .fork_current _ _ => .fork_current
  | .fork_prompt _ => .fork_prompt
  | .set_session_name _ _ => .set_session_name
  | .get_commands _ _ => .get_commands
  | .reload_processes => .reload_processes

/-- The members after `type`, in the order in which they are sent. -/
def fields : ClientCommandPayload → List (JsString × Value)
  | .install_pi | .get_available_models | .get_default_model | .get_session_statuses | .reload_processes => []
  | .subscribe_session command =>
    (js "sessionPath", .str command.sessionPath) ::
      (optionalMember "cachedStateHash" command.cachedStateHash .str ++
        (optionalMember "knownMessageHashes" command.knownMessageHashes textsValue ++
          if command.segmentedContent then [(js "segmentedContent", .bool true)] else []))
  | .prompt fields cwd =>
    (js "sessionPath", .str fields.sessionPath) ::
      (optionalMember "cwd" cwd .str ++
        (js "message", .str fields.message) :: (js "model", fields.model.value) :: fields.optionalMembers)
  | .fork_prompt fields =>
    (js "sessionPath", .str fields.sessionPath) ::
      (js "message", .str fields.message) :: (js "model", fields.model.value) :: fields.optionalMembers
  | .steer sessionPath message operationId =>
    (js "sessionPath", .str sessionPath) :: (js "message", .str message) ::
      optionalMember "operationId" operationId .str
  | .remove_steering sessionPath index =>
    [(js "sessionPath", .str sessionPath), (js "index", natValue index)]
  | .abort sessionPath | .hard_kill sessionPath | .get_session_stats sessionPath =>
    [(js "sessionPath", .str sessionPath)]
  | .compact sessionPath customInstructions =>
    (js "sessionPath", .str sessionPath) :: optionalMember "customInstructions" customInstructions .str
  | .fork sessionPath entryId => [(js "sessionPath", .str sessionPath), (js "entryId", .str entryId)]
  | .fork_current sessionPath operationId =>
    (js "sessionPath", .str sessionPath) :: optionalMember "operationId" operationId .str
  | .set_session_name sessionPath name => [(js "sessionPath", .str sessionPath), (js "name", .str name)]
  | .get_commands sessionPath cwd =>
    optionalMember "sessionPath" sessionPath .str ++ optionalMember "cwd" cwd .str

end ClientCommandPayload

/-- The members of a command, in the order in which they are written. -/
def commandMembers (payload : ClientCommandPayload) (id : JsString) : List (JsString × Value) :=
  (js "protocolVersion", natValue WS_PROTOCOL_VERSION) :: (js "id", .str id) ::
    (js "type", .str payload.type.text) :: payload.fields

def encodeClientCommand (payload : ClientCommandPayload) (id : JsString) : JsString :=
  stringify (.obj (commandMembers payload id))

structure ValidationFailure where
  code : ProtocolErrorCode
  message : JsString

/-- A failure with the default code. -/
def invalidMessage {α : Type} (result : Except JsString α) : Except ValidationFailure α :=
  result.mapError fun message => { code := .invalid_message, message }

def isOperationIdUnit (u : UInt16) : Bool :=
  (65 ≤ u.toNat && u.toNat ≤ 90) || (97 ≤ u.toNat && u.toNat ≤ 122) || (48 ≤ u.toNat && u.toNat ≤ 57) ||
    u == 0x5F || u == 0x2D

/-- `/^[a-f0-9]{64}$/u` -/
def isContentHash (text : JsString) : Bool :=
  text.length = 64 && text.all fun u => (97 ≤ u.toNat && u.toNat ≤ 102) || (48 ≤ u.toNat && u.toNat ≤ 57)

def contentHash (value : Option Value) (path : JsString) : Except JsString Unit := do
  let hash ← string value path false
  if ¬ isContentHash hash then .error (validationFailure path "expected a lowercase SHA-256 hash") else .ok ()

def integer (value : Option Value) (path : JsString) : Except JsString Unit :=
  match value with
  | some (.num (.int n)) =>
    if isSafeInteger n ∧ 0 ≤ n then .ok ()
    else .error (validationFailure path "expected a non-negative safe integer")
  | _ => .error (validationFailure path "expected a non-negative safe integer")

def image (path : JsString) (item : Value) : Except JsString Unit := do
  let image ← record (some item) path
  if ¬ isStr (js "image") (image.lookup (js "type")) then
    .error (validationFailure (memberPath path (js "type")) "expected 'image'")
  let _ ← string (image.lookup (js "mimeType")) (memberPath path (js "mimeType")) false
  let hasData := (image.lookup (js "data")).isSome
  let hasUploadedPath := (image.lookup (js "uploadedPath")).isSome
  if hasData = hasUploadedPath then
    .error (validationFailure path "expected exactly one of data or uploadedPath")
  if hasData then (string (image.lookup (js "data")) (memberPath path (js "data")) true).map fun _ => ()
  else (string (image.lookup (js "uploadedPath")) (memberPath path (js "uploadedPath")) false).map fun _ => ()

def images (value : Option Value) (path : JsString) : Except JsString Unit := do
  let items ← array value path
  items.zipIdx.forM fun (item, index) => image (itemPath path index) item

def knownMessageHashes (value : Option Value) (path : JsString) : Except JsString Unit := do
  let hashes ← array value path
  hashes.zipIdx.forM fun (hash, index) => contentHash (some hash) (itemPath path index)
  if MAX_KNOWN_SESSION_MESSAGE_HASHES < hashes.length then
    .error (path ++ js ": " ++ (js "expected at most " ++ decimal MAX_KNOWN_SESSION_MESSAGE_HASHES ++ js " hashes"))

def segmentedContent (value : Option Value) (path : JsString) : Except JsString Unit :=
  match value with
  | some (.bool true) => .ok ()
  | _ => .error (validationFailure path "expected true")

end pipane.ws_protocol

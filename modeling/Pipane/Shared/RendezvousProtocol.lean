import Pipane.Shared.TrustProtocol

open javascript json pipane.trust_protocol

namespace pipane.rendezvous_protocol

def RENDEZVOUS_PROTOCOL_VERSION : Nat := 2

def MAX_ICE_SERVERS : Nat := 8

def MAX_ICE_URLS_PER_SERVER : Nat := 8

def MAX_ICE_URL_LENGTH : Nat := 512

def MAX_ICE_USERNAME_LENGTH : Nat := 512

def MAX_ICE_CREDENTIAL_LENGTH : Nat := 1024

inductive RendezvousErrorCode
  | invalidJson
  | invalidMessage
  | unsupportedVersion
  | unknownMessage
  | backendOffline
  | unauthorizedConnection
  | invalidTicket
  | invalidPairing
deriving DecidableEq

structure RendezvousDecodeError where
  code : RendezvousErrorCode
  message : JsString
deriving DecidableEq

/-! What the decoders accept. A property that is missing is `none`. -/

def isRecord : Value → Bool
  | .obj _ => true
  | _ => false

def isString (value : Option Value) : Bool :=
  (nonEmptyString? value).isSome

def isOptionalString (value : Option Value) : Bool :=
  value.isNone || isString value

def isPositiveInteger (value : Option Value) : Bool :=
  (positiveInteger? value).isSome

def isNull : Option Value → Bool
  | some .null => true
  | _ => false

def isBackendMetadata (value : Value) : Bool :=
  isRecord value && isOptionalString (value.get? (js "name")) && isString (value.get? (js "softwareVersion")) &&
    match value.get? (js "protocolVersions") with
    | some (.arr versions) => versions ≠ [] && versions.all fun version => isPositiveInteger (some version)
    | _ => false

def isIceSignal (value : Value) : Bool :=
  if isStr (js "description") (value.get? (js "kind")) then
    (isStr (js "offer") (value.get? (js "type")) || isStr (js "answer") (value.get? (js "type"))) &&
      isString (value.get? (js "sdp"))
  else if isStr (js "candidate") (value.get? (js "kind")) then
    isString (value.get? (js "candidate")) &&
      (isNull (value.get? (js "sdpMid")) || isString (value.get? (js "sdpMid"))) &&
      (isNull (value.get? (js "sdpMLineIndex")) || (nonNegativeInteger? (value.get? (js "sdpMLineIndex"))).isSome)
  else false

/-- The typed reading of a binding. -/
def backendIdentityBinding? (value : Value) : Option BackendIdentityBinding := do
  let property (name : String) := value.get? (js name)
  if (← property "version").isInt TRUST_PROTOCOL_VERSION = false then none
  let backendId ← nonEmptyString? (property "backendId")
  let publicKey ← nonEmptyString? (property "publicKey")
  let connectionId ← nonEmptyString? (property "connectionId")
  let offerSha256 ← nonEmptyString? (property "offerSha256")
  let answerSha256 ← nonEmptyString? (property "answerSha256")
  let dtlsFingerprint ← nonEmptyString? (property "dtlsFingerprint")
  let expiresAt ← positiveInteger? (property "expiresAt")
  let signature ← nonEmptyString? (property "signature")
  return { version := TRUST_PROTOCOL_VERSION, backendId, publicKey, connectionId, offerSha256, answerSha256,
           dtlsFingerprint, expiresAt := expiresAt.toNat, signature }

/-- `\s` in a regular expression. -/
def isSpaceUnit (u : UInt16) : Bool :=
  let n := u.toNat
  9 ≤ n && n ≤ 13 || n = 0x20 || n = 0xA0 || n = 0x1680 || 0x2000 ≤ n && n ≤ 0x200A || n = 0x2028 || n = 0x2029 ||
    n = 0x202F || n = 0x205F || n = 0x3000 || n = 0xFEFF

/-- The letter that the flags `iu` compare a unit as, for the letters of the ICE expressions. -/
def foldUnit (u : UInt16) : UInt16 :=
  if 0x41 ≤ u.toNat ∧ u.toNat ≤ 0x5A then u + 0x20 else if u = 0x17F then 0x73 else u

/-- `text.toLowerCase()` of letters that are not folded to others. -/
def lowerUnit (u : UInt16) : UInt16 :=
  if 0x41 ≤ u.toNat ∧ u.toNat ≤ 0x5A then u + 0x20 else u

/-- The rest of a text after a literal, whatever the case of its letters. -/
def afterFolded (literal text : JsString) : Option JsString :=
  if (text.take literal.length).map foldUnit = literal then some (text.drop literal.length) else none

def isHostUnit (u : UInt16) : Bool :=
  u ≠ 0x2F && u ≠ 0x3F && u ≠ 0x23 && u ≠ 0x3A

def isDigitUnit (u : UInt16) : Bool :=
  0x30 ≤ u.toNat && u.toNat ≤ 0x39

/-- `(?:\?transport=(udp|tcp))?$`: whether the text names a transport. -/
def transportEnd (text : JsString) : Option Bool :=
  if text = [] then some false
  else
    match afterFolded (js "?transport=") text with
    | some transport =>
      if transport.map foldUnit = js "udp" ∨ transport.map foldUnit = js "tcp" then some true else none
    | none => none

/-- `(?::(\d{1,5}))?(?:\?transport=(udp|tcp))?$`: the port and whether the text names a transport. -/
def portEnd (text : JsString) : Option (Option Nat × Bool) :=
  match text with
  | 0x3A :: rest =>
    let digits := rest.takeWhile isDigitUnit
    if 1 ≤ digits.length ∧ digits.length ≤ 5 then
      (transportEnd (rest.drop digits.length)).map fun transport => (some (digitsValue digits), transport)
    else none
  | _ => (transportEnd text).map fun transport => (none, transport)

/-- `\[[^\]]+\]` and what follows it. -/
def afterBrackets (text : JsString) : Option JsString :=
  match text with
  | 0x5B :: rest =>
    let inside := rest.takeWhile (· ≠ 0x5D)
    match inside, rest.drop inside.length with
    | _ :: _, _ :: after => some after
    | _, _ => none
  | _ => none

/-- `(\[[^\]]+\]|[^/?#:]+)` and the end of the expression. -/
def hostEnd (text : JsString) : Option (Option Nat × Bool) :=
  ((afterBrackets text).bind portEnd).or
    (let host := text.takeWhile isHostUnit
    if host = [] then none else portEnd (text.drop host.length))

def afterSlashes (text : JsString) : JsString :=
  match text with
  | 0x2F :: 0x2F :: rest => rest
  | _ => text

/-- The parts of an ICE server URL that the checks look at. -/
structure IceServerUrl where
  scheme : JsString
  port : Option Nat
  transport : Bool

/-- `/^(stun|turns?):(?:\/\/)?(\[[^\]]+\]|[^/?#:]+)(?::(\d{1,5}))?(?:\?transport=(udp|tcp))?$/iu` -/
def matchIceServerUrl (url : JsString) : Option IceServerUrl :=
  let scheme := url.takeWhile (· ≠ 0x3A)
  if scheme.map foldUnit = js "stun" ∨ scheme.map foldUnit = js "turn" ∨ scheme.map foldUnit = js "turns" then
    match url.drop scheme.length with
    | 0x3A :: rest => (hostEnd (afterSlashes rest)).map fun matched => ⟨scheme, matched.1, matched.2⟩
    | _ => none
  else none

/-- `/^turns?:/iu.test(url)` -/
def isTurnScheme (url : JsString) : Bool :=
  (afterFolded (js "turn:") url).isSome || (afterFolded (js "turns:") url).isSome

def isPort (port : Option Nat) : Bool :=
  match port with
  | none => true
  | some port => 0 < port && port ≤ 65535

def isIceServerUrl : Value → Bool
  | .str url =>
    url ≠ [] && url.length ≤ MAX_ICE_URL_LENGTH && !url.any isSpaceUnit &&
      match matchIceServerUrl url with
      | none => false
      | some matched => !(matched.scheme.map lowerUnit = js "stun" && matched.transport) && isPort matched.port
  | _ => false

def isOptionalBoundedString (value : Option Value) (maximumLength : Nat) : Bool :=
  match value with
  | none => true
  | some (.str text) => text ≠ [] && text.length ≤ maximumLength
  | some _ => false

/-- `typeof server.urls === "string" ? [server.urls] : server.urls`, where that is a list. -/
def serverUrls (server : Value) : Option (List Value) :=
  match server.get? (js "urls") with
  | some (.str url) => some [.str url]
  | some (.arr urls) => some urls
  | _ => none

def isIceServer (server : Value) : Bool :=
  isRecord server && isOptionalBoundedString (server.get? (js "username")) MAX_ICE_USERNAME_LENGTH &&
    isOptionalBoundedString (server.get? (js "credential")) MAX_ICE_CREDENTIAL_LENGTH &&
    match serverUrls server with
    | none => false
    | some urls => urls ≠ [] && urls.length ≤ MAX_ICE_URLS_PER_SERVER && urls.all isIceServerUrl

def isIceServers : Option Value → Bool
  | some (.arr servers) => servers.length ≤ MAX_ICE_SERVERS && servers.all isIceServer
  | _ => false

def isTurnUrl : Value → Bool
  | .str url => isTurnScheme url
  | _ => false

def hasTurnUrl (server : Value) : Bool :=
  (serverUrls server).any fun urls => urls.any isTurnUrl

def isSupplementalIceServers (value : Option Value) : Bool :=
  isIceServers value &&
    match value with
    | some (.arr servers) =>
      servers.any hasTurnUrl && servers.all fun server =>
        !hasTurnUrl server || truthy (server.get? (js "username")) && truthy (server.get? (js "credential"))
    | _ => false

/-! Values that a decoder has accepted are passed on as they came. -/

structure BackendRegistrationMetadata where
  value : Value
  valid : isBackendMetadata value = true

structure IceSignal where
  value : Value
  valid : isIceSignal value = true

structure RelayedBinding where
  value : Value
  binding : BackendIdentityBinding
  valid : backendIdentityBinding? value = some binding

structure IceServers where
  servers : List Value
  valid : isIceServers (some (.arr servers)) = true

inductive SdpType
  | offer
  | answer
deriving DecidableEq

/-- The type and the SDP of a description; `none` is a candidate. -/
def IceSignal.description? (signal : IceSignal) : Option (SdpType × JsString) :=
  if isStr (js "description") (signal.value.get? (js "kind")) then
    (nonEmptyString? (signal.value.get? (js "sdp"))).map fun sdp =>
      (if isStr (js "offer") (signal.value.get? (js "type")) then .offer else .answer, sdp)
  else none

inductive BackendRendezvousCommand
  | registerBackend (publicKey signature : JsString) (metadata : BackendRegistrationMetadata)
  | openPairing (pairId : JsString) (expiresAt : Int)
  | confirmPairing (connectionId : JsString)
  | signal (connectionId : JsString) (signal : IceSignal)
  | connectionBinding (connectionId : JsString) (binding : RelayedBinding)
  | closeConnection (connectionId : JsString) (reason : Option JsString)

inductive BrowserRendezvousCommand
  | connectBackend (backendId ticket : JsString) (iceServers : Option IceServers)
  | signal (connectionId : JsString) (signal : IceSignal)
  | closeConnection (connectionId : JsString) (reason : Option JsString)

/-- The hub does not check what it sends to a backend. -/
inductive BackendRendezvousMessage
  | challenge (nonce : JsString)
  | registered (backendId ticketPublicKey : JsString) (iceServers : List Value)
  | pairingOpened (pairId : JsString) (expiresAt : Int)
  | pairingConfirmed (connectionId pairId accountId deviceId : JsString)
  | connectionRequest (connectionId ticket : JsString) (iceServers : List Value)
  | signal (connectionId : JsString) (signal : IceSignal)
  | connectionClosed (connectionId reason : JsString)
  | authorizationRevoked (accountId : JsString) (deviceId : Option JsString)
  | error (code : RendezvousErrorCode) (message : JsString) (connectionId : Option JsString)

inductive BrowserRendezvousMessage
  | backendConnected (backendId connectionId : JsString)
  | signal (connectionId : JsString) (signal : IceSignal)
  | connectionBinding (connectionId : JsString) (binding : RelayedBinding)
  | connectionClosed (connectionId reason : JsString)
  | error (code : RendezvousErrorCode) (message : JsString) (connectionId : Option JsString)

def invalidMessage (message : String) : RendezvousDecodeError :=
  { code := .invalidMessage, message := js message }

def unknownMessage (type : JsString) : RendezvousDecodeError :=
  { code := .unknownMessage, message := js "Unknown rendezvous message: " ++ type }

/-- The type of a message and its object. -/
def parseEnvelope (raw : JsString) : Except RendezvousDecodeError (JsString × Value) :=
  match parse raw with
  | none => .error { code := .invalidJson, message := js "Message is not valid JSON" }
  | some value =>
    match nonEmptyString? (value.get? (js "type")) with
    | none => .error (invalidMessage "Message must be an object with a type")
    | some type =>
      if (value.get? (js "protocolVersion")).any (·.isInt RENDEZVOUS_PROTOCOL_VERSION) then .ok (type, value)
      else .error {
        code := .unsupportedVersion
        message := js "Unsupported rendezvous protocol version: " ++ propertyKey (value.get? (js "protocolVersion")) }

/-- What a decoder makes of the properties of a message of a known type. -/
def orInvalid {α : Type} (decoded : Option α) (message : String) : Except RendezvousDecodeError α :=
  match decoded with
  | some a => .ok a
  | none => .error (invalidMessage message)

section

variable (value : Value)

def string? (name : String) : Option JsString :=
  nonEmptyString? (value.get? (js name))

/-- A string that may be missing. -/
def missingOrString? (name : String) : Option (Option JsString) :=
  optionalString? (value.get? (js name))

def metadata? : Option BackendRegistrationMetadata :=
  match value.get? (js "metadata") with
  | some metadata => if h : isBackendMetadata metadata = true then some ⟨metadata, h⟩ else none
  | none => none

def iceSignal? : Option IceSignal :=
  match value.get? (js "signal") with
  | some signal => if h : isIceSignal signal = true then some ⟨signal, h⟩ else none
  | none => none

def relayedBinding? : Option RelayedBinding :=
  match value.get? (js "binding") with
  | some binding =>
    match h : backendIdentityBinding? binding with
    | some read => some ⟨binding, read, h⟩
    | none => none
  | none => none

/-- The servers of a browser, which may be missing. -/
def supplementalIceServers? : Option (Option IceServers) :=
  match value.get? (js "iceServers") with
  | none => some none
  | some (.arr servers) =>
    if h : isIceServers (some (.arr servers)) = true then
      if isSupplementalIceServers (some (.arr servers)) then some (some ⟨servers, h⟩) else none
    else none
  | _ => none

end

def decodeBackendCommand (raw : JsString) : Except RendezvousDecodeError BackendRendezvousCommand := do
  let (type, value) ← parseEnvelope raw
  if type = js "register_backend" then
    orInvalid (do return .registerBackend (← string? value "publicKey") (← string? value "signature") (← metadata? value))
      "register_backend requires publicKey, signature, and valid metadata"
  else if type = js "open_pairing" then
    orInvalid (do return .openPairing (← string? value "pairId") (← positiveInteger? (value.get? (js "expiresAt"))))
      "open_pairing requires pairId and expiresAt"
  else if type = js "confirm_pairing" then
    orInvalid (do return .confirmPairing (← string? value "connectionId")) "confirm_pairing requires connectionId"
  else if type = js "signal" then
    orInvalid (do return .signal (← string? value "connectionId") (← iceSignal? value))
      "signal requires connectionId and a valid ICE signal"
  else if type = js "connection_binding" then
    orInvalid (do return .connectionBinding (← string? value "connectionId") (← relayedBinding? value))
      "connection_binding requires connectionId and a valid binding"
  else if type = js "close_connection" then
    orInvalid (do return .closeConnection (← string? value "connectionId") (← missingOrString? value "reason"))
      "close_connection requires connectionId and an optional reason"
  else .error (unknownMessage type)

def decodeBrowserCommand (raw : JsString) : Except RendezvousDecodeError BrowserRendezvousCommand := do
  let (type, value) ← parseEnvelope raw
  if type = js "connect_backend" then
    orInvalid (do
        return .connectBackend (← string? value "backendId") (← string? value "ticket")
          (← supplementalIceServers? value))
      "connect_backend requires backendId, ticket, and valid optional TURN servers"
  else if type = js "signal" then
    orInvalid (do return .signal (← string? value "connectionId") (← iceSignal? value))
      "signal requires connectionId and a valid ICE signal"
  else if type = js "close_connection" then
    orInvalid (do return .closeConnection (← string? value "connectionId") (← missingOrString? value "reason"))
      "close_connection requires connectionId and an optional reason"
  else .error (unknownMessage type)

end pipane.rendezvous_protocol

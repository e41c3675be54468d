import Pipane.Shared.RendezvousProtocol

open javascript json
open pipane.trust_protocol pipane.rendezvous_protocol

namespace pipane.turn_relay

def DEFAULT_CREDENTIAL_TTL_SECONDS : Int := 3600

def MAX_PROFILE_URLS : Nat := 8

inductive TurnRelayProfile
  | metered (application apiKey : JsString)
  | coturnRest (urls : List JsString) (sharedSecret : JsString) (ttlSeconds : Int)
  | static (iceServers : List Value)

/-- The URL form of the other checks, a transport allowed after every scheme. -/
def isIceUrl : Value → Bool
  | .str url =>
    url ≠ [] && url.length ≤ 512 && !url.any isSpaceUnit &&
      match matchIceServerUrl url with
      | none => false
      | some matched => isPort matched.port
  | _ => false

def isTurnUrl : Value → Bool
  | .str url => isIceUrl (.str url) && isTurnScheme url
  | _ => false

/-- The property as it came, where it is a string. -/
def stringMember (key : String) (value : Value) : List (JsString × Value) :=
  match value.get? (js key) with
  | some (.str text) => [(js key, .str text)]
  | _ => []

def validateIceServer (entry : Value) : Except JsString Value :=
  if isRecord entry = false then throw (js "Every ICE server must be an object")
  else
    match serverUrls entry, entry.get? (js "urls") with
    | some urls, some given =>
      if urls = [] ∨ 8 < urls.length ∨ urls.all isIceUrl = false then
        throw (js "ICE server URLs contain an unsupported STUN or TURN URL")
      else if isOptionalBoundedString (entry.get? (js "username")) 512 = false ∨
          isOptionalBoundedString (entry.get? (js "credential")) 1024 = false then
        throw (js "TURN username or credential is invalid")
      else if urls.any isTurnUrl ∧ (stringMember "username" entry = [] ∨ stringMember "credential" entry = []) then
        throw (js "TURN server records require a username and credential")
      else return .obj ((js "urls", given) :: (stringMember "username" entry ++ stringMember "credential" entry))
    | _, _ => throw (js "ICE server URLs contain an unsupported STUN or TURN URL")

/-- The records a list is kept as. Every caller requires a TURN URL. -/
def validateIceServers (value : Option Value) (requireTurn : Bool) : Except JsString (List Value) :=
  match value with
  | some (.arr entries) =>
    if entries = [] ∨ 8 < entries.length then
      throw (js "TURN credentials must contain between one and eight ICE server records")
    else do
      let result ← entries.mapM validateIceServer
      if requireTurn ∧ ¬ entries.any (fun entry => (serverUrls entry).any fun urls => urls.any isTurnUrl) then
        throw (js "At least one turn: or turns: URL is required")
      else return result
  | _ => throw (js "TURN credentials must contain between one and eight ICE server records")

/-- The TURN URLs of a profile, each once. -/
def validateTurnUrls (value : Option Value) : Except JsString (List JsString) :=
  match value with
  | some (.arr items) =>
    if items = [] ∨ MAX_PROFILE_URLS < items.length then throw (js "Add between one and eight TURN URLs")
    else do
      let urls ← items.mapM fun item =>
        match item with
        | .str url => if isTurnUrl (.str url) then pure url else throw (js "Unsupported TURN URL: " ++ url)
        | _ => throw (js "Unsupported TURN URL: " ++ item.text)
      return (urls.foldl (fun (kept : List JsString) url => if url ∈ kept then kept else kept ++ [url]) [])
  | _ => throw (js "Add between one and eight TURN URLs")

/-- `/^https?:\/\//u` taken away. -/
def withoutScheme (application : JsString) : JsString :=
  if (js "http://").isPrefixOf application then application.drop 7
  else if (js "https://").isPrefixOf application then application.drop 8
  else application

/-- `/\.metered\.live(?:\/.*)?$/u` taken away. -/
def withoutHost : JsString → JsString
  | [] => []
  | u :: rest =>
    let after := (u :: rest).drop 13
    if (js ".metered.live").isPrefixOf (u :: rest) ∧
        (after = [] ∨ after.head? = some 0x2F ∧ ¬ after.any fun v => v.toNat ∈ [0x0A, 0x0D, 0x2028, 0x2029]) then []
    else u :: withoutHost rest

/-- `/^[a-z0-9](?:[a-z0-9-]{0,61}[a-z0-9])?$/u` -/
def isApplication (application : JsString) : Bool :=
  let isLetter := fun (u : UInt16) => (0x61 ≤ u.toNat && u.toNat ≤ 0x7A) || isDigitUnit u
  1 ≤ application.length && application.length ≤ 63 && application.all (fun u => isLetter u || u == 0x2D) &&
    application.head?.all isLetter && application.getLast?.all isLetter

def normalizeMeteredApplication (value : Option Value) : Except JsString JsString :=
  match value with
  | some (.str text) =>
    let application := withoutHost (withoutScheme ((trim text).map fun u => if u = 0x212A then 0x6B else lowerUnit u))
    if isApplication application then return application
    else throw (js "Enter the Metered application name, for example “my-app”")
  | _ => throw (js "A Metered application name is required")

def validateTurnRelayProfile (value : Value) : Except JsString TurnRelayProfile := do
  if isRecord value = false ∨ ¬ (value.get? (js "version")).any (·.isInt 1) then
    throw (js "TURN relay settings are malformed")
  else if isStr (js "metered") (value.get? (js "kind")) then
    let application ← normalizeMeteredApplication (value.get? (js "application"))
    match value.get? (js "apiKey") with
    | some (.str apiKey) =>
      if trim apiKey = [] ∨ 2048 < apiKey.length then throw (js "A valid Metered TURN API key is required")
      else return .metered application (trim apiKey)
    | _ => throw (js "A valid Metered TURN API key is required")
  else if isStr (js "coturn-rest") (value.get? (js "kind")) then
    let urls ← validateTurnUrls (value.get? (js "urls"))
    match value.get? (js "sharedSecret") with
    | some (.str sharedSecret) =>
      if sharedSecret = [] ∨ 1024 < sharedSecret.length then throw (js "A valid coturn REST shared secret is required")
      else
        match (value.get? (js "ttlSeconds")).getD (.num (.int DEFAULT_CREDENTIAL_TTL_SECONDS)) with
        | .num (.int ttlSeconds) =>
          if ttlSeconds < 60 ∨ 86400 < ttlSeconds then
            throw (js "coturn credential lifetime must be between 60 and 86400 seconds")
          else return .coturnRest urls sharedSecret ttlSeconds
        | _ => throw (js "coturn credential lifetime must be between 60 and 86400 seconds")
    | _ => throw (js "A valid coturn REST shared secret is required")
  else if isStr (js "static") (value.get? (js "kind")) then
    return .static (← validateIceServers (value.get? (js "iceServers")) true)
  else throw (js "Choose a supported TURN relay provider")

/-- `BrowserRendezvousClient.sendConnectCommand`: the message that carries the servers of a browser. -/
def connectCommand (backendId ticket : JsString) (iceServers : List Value) : JsString :=
  stringify (.obj ([(js "protocolVersion", .num (.int RENDEZVOUS_PROTOCOL_VERSION)),
    (js "type", .str (js "connect_backend")), (js "backendId", .str backendId), (js "ticket", .str ticket)] ++
    if iceServers = [] then [] else [(js "iceServers", .arr iceServers)]))

end pipane.turn_relay

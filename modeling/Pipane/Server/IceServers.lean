import Pipane.Shared.RendezvousProtocol

open javascript json
open pipane.rendezvous_protocol

namespace pipane.ice_servers

inductive RelayType
  | TurnUdp
  | TurnTcp
  | TurnTls
deriving DecidableEq

/-- A server in the shape of the native library. -/
inductive NodeIceServer
  | stun (url : JsString)
  | relay (hostname : JsString) (port : Nat) (username password : Option Value) (relayType : RelayType)

/-- The groups of a matched TURN URL. -/
structure TurnUrl where
  scheme : JsString
  host : JsString
  port : Option Nat
  transport : Option JsString

/-- `(?:\?transport=(udp|tcp))?$` -/
def matchTransport (text : JsString) : Option (Option JsString) :=
  if text = [] then some none
  else
    match afterFolded (js "?transport=") text with
    | some transport =>
      if transport.map foldUnit = js "udp" ∨ transport.map foldUnit = js "tcp" then some (some transport) else none
    | none => none

/-- `(?::(\d+))?(?:\?transport=(udp|tcp))?$` -/
def matchPort (text : JsString) : Option (Option Nat × Option JsString) :=
  match text with
  | 0x3A :: rest =>
    let digits := rest.takeWhile isDigitUnit
    if digits = [] then none
    else (matchTransport (rest.drop digits.length)).map fun transport => (some (digitsValue digits), transport)
  | _ => (matchTransport text).map fun transport => (none, transport)

def isTurnHostUnit (u : UInt16) : Bool :=
  u ≠ 0x3A && u ≠ 0x3F

/-- `(\[[^\]]+\]|[^:?]+)` and the end of the expression; the host is what stands before the rest. -/
def matchHost (text : JsString) : Option (JsString × Option Nat × Option JsString) :=
  ((afterBrackets text).bind fun after =>
      (matchPort after).map fun matched => (text.take (text.length - after.length), matched)).or
    (let host := text.takeWhile isTurnHostUnit
    if host = [] then none else (matchPort (text.drop host.length)).map fun matched => (host, matched))

/-- `/^(turns?):(?:\/\/)?(\[[^\]]+\]|[^:?]+)(?::(\d+))?(?:\?transport=(udp|tcp))?$/iu` -/
def matchTurnUrl (url : JsString) : Option TurnUrl :=
  let scheme := url.takeWhile (· ≠ 0x3A)
  if scheme.map foldUnit = js "turn" ∨ scheme.map foldUnit = js "turns" then
    match url.drop scheme.length with
    | 0x3A :: rest =>
      ((matchHost (afterSlashes rest)).or (matchHost rest)).map fun matched =>
        ⟨scheme, matched.1, matched.2.1, matched.2.2⟩
    | _ => none
  else none

/-- `host.replace(/^\[|\]$/gu, "")` -/
def withoutBrackets (host : JsString) : JsString :=
  let opened := if host.head? = some 0x5B then host.drop 1 else host
  if opened.getLast? = some 0x5D then opened.dropLast else opened

def toNodeIceServer (server : Value) (url : Value) : Except JsString NodeIceServer :=
  match url with
  | .str url =>
    if (js "stun:").isPrefixOf url then return .stun url
    else
      match matchTurnUrl url with
      | none => throw (js "Unsupported ICE server URL: " ++ url)
      | some matched =>
        let secure := matched.scheme.map lowerUnit = js "turns"
        return .relay (withoutBrackets matched.host) (matched.port.getD (if secure then 5349 else 3478))
          (server.get? (js "username")) (server.get? (js "credential"))
          (if secure then .TurnTls
          else if matched.transport.map (·.map lowerUnit) = some (js "tcp") then .TurnTcp
          else .TurnUdp)
  | _ => throw (js "url.startsWith is not a function")

/-- The servers of one record, one for each of its URLs. -/
def toNodeServers (server : Value) : Except JsString (List NodeIceServer) :=
  match server.get? (js "urls") with
  | some (.arr urls) => urls.mapM (toNodeIceServer server)
  | some url => [url].mapM (toNodeIceServer server)
  | none => throw (js "Cannot read properties of undefined (reading 'startsWith')")

/-- Converts browser ICE server records into the explicit relay shape of the native library. -/
def toNodeIceServers (servers : List Value) : Except JsString (List NodeIceServer) :=
  (servers.mapM toNodeServers).map List.flatten

end pipane.ice_servers

import Pipane.Lib.Json.Coerce

open javascript json

namespace pipane.ice_server_provider

def DEFAULT_TTL_SECONDS : Int := 600

structure TurnCredentialOptions where
  urls : List JsString
  secret : JsString
  ttlSeconds : Int := DEFAULT_TTL_SECONDS

/-- `hmacSha1` is the base64 text of the digest. -/
structure IceServerProvider where
  staticServers : List Value := []
  turn : Option TurnCredentialOptions := none
  hmacSha1 : JsString → JsString → JsString

/-- The relay server whose user name expires, with a credential that the relay can recompute. -/
def turnServer (hmacSha1 : JsString → JsString → JsString) (turn : TurnCredentialOptions) (subject : JsString)
    (now : Int) : Value :=
  let username := stringifyNumber (.int (now / 1000 + turn.ttlSeconds)) ++ 0x3A :: subject
  .obj [(js "urls", .arr (turn.urls.map .str)), (js "username", .str username),
    (js "credential", .str (hmacSha1 turn.secret username))]

def issue (provider : IceServerProvider) (subject : JsString) (now : Int) : List Value :=
  match provider.turn with
  | none => provider.staticServers
  | some turn =>
    if turn.urls = [] then provider.staticServers
    else provider.staticServers ++ [turnServer provider.hmacSha1 turn subject now]

end pipane.ice_server_provider

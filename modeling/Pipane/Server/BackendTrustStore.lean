import Pipane.Lib.Durable
import Pipane.Lib.OrderedMap
import Pipane.Shared.NodeTrustCrypto

open javascript json durable pipane.trust_protocol pipane.node_trust_crypto

namespace pipane.backend_trust_store

def DEFAULT_PAIRING_TTL_MS : Int := 5 * 60000

def MAX_PAIRING_TTL_MS : Int := 15 * 60000

structure StoredPairing where
  pairId : JsString
  secretHash : JsString
  expiresAt : Int
  usedAt : Option Int := none
deriving DecidableEq

structure StoredBackendTrust where
  ownerAccountId : Option JsString := none
  pairings : OrderedMap JsString StoredPairing := ∅
  usedTickets : OrderedMap JsString Int := ∅
  revokedDevices : OrderedMap JsString Int := ∅

abbrev BackendTrustStore := Store StoredBackendTrust Unit

abbrev BackendTrustOp (α : Type) := Op StoredBackendTrust Unit α

structure PairingCapability where
  pairId : JsString
  secret : JsString
  expiresAt : Int
deriving DecidableEq

structure ActivePairing where
  pairId : JsString
  expiresAt : Int
deriving DecidableEq

def randomText : BackendTrustOp JsString := do
  return decimal (← random)

def persist : BackendTrustOp Unit := do
  write (← get).circumstances.saved

def setState (state : StoredBackendTrust) : BackendTrustOp Unit :=
  modify fun store => { store with state := state }

/-- The stored state without what has expired. -/
def StoredBackendTrust.pruned (state : StoredBackendTrust) (now : Int) : StoredBackendTrust :=
  { state with
    pairings := state.pairings.filter fun pairing => now < pairing.expiresAt
    usedTickets := state.usedTickets.filter fun expiresAt => now < expiresAt }

def prune : BackendTrustOp Unit := do
  let now ← now
  let state := (← get).state
  let changed := state.pairings.values.any (fun pairing => pairing.expiresAt ≤ now) ||
    state.usedTickets.values.any fun expiresAt => expiresAt ≤ now
  setState (state.pruned now)
  if changed then write (← get).circumstances.pruned

def hashSecret (crypto : NodeCrypto) (secret : JsString) : JsString :=
  base64.encodeUrl (crypto.sha256 (textEncode (js "pipane-pairing-secret-v1" ++ 0x0A :: secret)))

def isPairingLifetime (ttlMs : Int) : Bool :=
  0 < ttlMs && ttlMs ≤ MAX_PAIRING_TTL_MS

def createPairing (crypto : NodeCrypto) (ttlMs : Int) : BackendTrustOp PairingCapability := do
  if ¬ isPairingLifetime ttlMs then throw "Pairing lifetime is outside the allowed range"
  prune
  let secret ← randomText
  let pairing : StoredPairing := {
    pairId := js "pair_" ++ (← randomText)
    secretHash := hashSecret crypto secret
    expiresAt := (← now) + ttlMs }
  let state := (← get).state
  setState { state with pairings := state.pairings.set pairing.pairId pairing }
  persist
  return { pairId := pairing.pairId, secret, expiresAt := pairing.expiresAt }

/-- The unused pairings that have not expired when each of them is looked at. -/
def activePairings : List StoredPairing → BackendTrustOp (List ActivePairing)
  | [] => return []
  | pairing :: rest => do
    if pairing.usedAt ≠ none then activePairings rest
    else
      let now ← now
      let active ← activePairings rest
      if now < pairing.expiresAt then return { pairId := pairing.pairId, expiresAt := pairing.expiresAt } :: active
      return active

def listActivePairings : BackendTrustOp (List ActivePairing) := do
  prune
  activePairings (← get).state.pairings.values

def secretsEqual (actual expected : JsString) : Bool :=
  textEncode actual = textEncode expected

def consumePairing (crypto : NodeCrypto) (pairId secret : JsString) : BackendTrustOp Unit := do
  let state := (← get).state
  let some pairing := state.pairings.get? pairId
    | throw "Pairing capability is missing, expired, or already used"
  if pairing.expiresAt ≤ (← now) then throw "Pairing capability is missing, expired, or already used"
  if pairing.usedAt ≠ none then throw "Pairing capability is missing, expired, or already used"
  if ¬ secretsEqual (hashSecret crypto secret) pairing.secretHash then throw "Invalid pairing secret"
  setState { state with pairings := state.pairings.set pairId { pairing with usedAt := some (← now) } }
  persist

/-- What the stored state says about a ticket that was not used. -/
def refusal (state : StoredBackendTrust) (claims : ConnectionTicketClaims) : Option String :=
  if claims.kind ≠ .connection then none
  else if claims.accountId = none ∨ claims.accountId = some [] ∨ claims.accountId ≠ state.ownerAccountId then
    some "Connection ticket account does not own this backend"
  else if (state.revokedDevices.get? claims.deviceId).isSome then some "Device authorization is revoked"
  else none

def authorizeTicket (claims : ConnectionTicketClaims) : BackendTrustOp Unit := do
  prune
  let state := (← get).state
  if (state.usedTickets.get? claims.ticketId).isSome then
    throw "Connection ticket was already used by this backend"
  match refusal state claims with
  | some message => throw message
  | none => return ()

def markTicketUsed (claims : ConnectionTicketClaims) : BackendTrustOp Unit := do
  let state := (← get).state
  if (state.usedTickets.get? claims.ticketId).isSome then
    throw "Connection ticket was already used by this backend"
  setState { state with usedTickets := state.usedTickets.set claims.ticketId claims.expiresAt }
  persist

def completePairing (accountId : JsString) : BackendTrustOp Unit := do
  let state := (← get).state
  if state.ownerAccountId.any fun owner => owner ≠ [] ∧ owner ≠ accountId then
    throw "Backend is already owned by another account"
  setState { state with ownerAccountId := some accountId }
  persist

def applyRevocation (accountId : JsString) (deviceId : Option JsString) : BackendTrustOp Unit := do
  let state := (← get).state
  if state.ownerAccountId ≠ some accountId then return ()
  match deviceId with
  | some deviceId =>
    if deviceId = [] then setState { state with ownerAccountId := none }
    else setState { state with revokedDevices := state.revokedDevices.set deviceId (← now) }
  | none => setState { state with ownerAccountId := none }
  persist

/-- The public operations. -/
inductive Call
  | createPairing (ttlMs : Int)
  | listActivePairings
  | consumePairing (pairId secret : JsString)
  | authorizeTicket (claims : ConnectionTicketClaims)
  | markTicketUsed (claims : ConnectionTicketClaims)
  | completePairing (accountId : JsString)
  | applyRevocation (accountId : JsString) (deviceId : Option JsString)

inductive Reply
  | done
  | capability (capability : PairingCapability)
  | pairings (pairings : List ActivePairing)

def perform (crypto : NodeCrypto) : Call → BackendTrustOp Reply
  | .createPairing ttlMs => return .capability (← createPairing crypto ttlMs)
  | .listActivePairings => return .pairings (← listActivePairings)
  | .consumePairing pairId secret => do
    consumePairing crypto pairId secret
    return .done
  | .authorizeTicket claims => do
    authorizeTicket claims
    return .done
  | .markTicketUsed claims => do
    markTicketUsed claims
    return .done
  | .completePairing accountId => do
    completePairing accountId
    return .done
  | .applyRevocation accountId deviceId => do
    applyRevocation accountId deviceId
    return .done

structure Request where
  call : Call
  circumstances : Circumstances := { ticks := [], pruned := .written, saved := .written }

def serve (crypto : NodeCrypto) (store : BackendTrustStore) (request : Request) :
    EStateM.Result String BackendTrustStore Reply :=
  perform crypto request.call { store with circumstances := request.circumstances }

def afterCall (crypto : NodeCrypto) (store : BackendTrustStore) (request : Request) : BackendTrustStore :=
  match serve crypto store request with
  | .ok _ after => after
  | .error _ after => after

def replyOf (crypto : NodeCrypto) (store : BackendTrustStore) (request : Request) : Option Reply :=
  match serve crypto store request with
  | .ok reply _ => some reply
  | .error _ _ => none

/-- A restart reads the file. -/
inductive Event
  | request (request : Request)
  | restart

def next (crypto : NodeCrypto) (store : BackendTrustStore) : Event → BackendTrustStore
  | .request request => afterCall crypto store request
  | .restart => store.restarted ()

end pipane.backend_trust_store

import Pipane.Lib.Durable
import Pipane.Lib.OrderedMap
import Pipane.Shared.NodeTrustCrypto

open javascript json durable pipane.trust_protocol pipane.node_trust_crypto

namespace pipane.trust_store

def ACCOUNT_ID_PREFIX : JsString := js "a_"

def TICKET_ID_PREFIX : JsString := js "t_"

def CHALLENGE_ID_PREFIX : JsString := js "ch_"

def DEVICE_INVITE_ID_PREFIX : JsString := js "invite_"

def DEVICE_INVITE_TTL_MS : Int := 10 * 60000

structure StoredAccount where
  accountId : JsString
  deviceIds : List JsString
  backendIds : List JsString
  createdAt : Int
deriving DecidableEq

structure StoredDevice where
  deviceId : JsString
  publicKey : JsString
  accountId : JsString
  createdAt : Int
  revokedAt : Option Int := none
deriving DecidableEq

structure PairingCompletion where
  pairId : JsString
  ticketId : JsString
  accountId : JsString
  deviceId : JsString
  backendId : JsString
  completedAt : Int
deriving DecidableEq

structure StoredDeviceInvite where
  inviteId : JsString
  secretHash : JsString
  accountId : JsString
  createdByDeviceId : JsString
  createdAt : Int
  expiresAt : Int
deriving DecidableEq

structure BackendRevocation where
  accountId : JsString
  revokedAt : Int
deriving DecidableEq

structure StoredTrustState where
  accounts : OrderedMap JsString StoredAccount := ∅
  devices : OrderedMap JsString StoredDevice := ∅
  backendOwners : OrderedMap JsString JsString := ∅
  backendRevocations : OrderedMap JsString BackendRevocation := ∅
  pairingCompletions : OrderedMap JsString PairingCompletion := ∅
  deviceInvites : OrderedMap JsString StoredDeviceInvite := ∅
  usedTickets : OrderedMap JsString Int := ∅

/-- What a trust store is built from. `sign` takes the randomness of one signature. -/
structure TrustStoreOptions where
  crypto : NodeCrypto
  ticketPublicKey : JsString
  sign : Nat → List UInt8 → JsString
  challengeTtlMs : Int := 2 * 60000
  ticketTtlMs : Int := 2 * 60000

/-- The trust store: the stored state, and the open challenges that no file holds. -/
abbrev RendezvousTrustStore := Store StoredTrustState (OrderedMap JsString DeviceChallenge)

abbrev TrustOp (α : Type) := Op StoredTrustState (OrderedMap JsString DeviceChallenge) α

structure PairingConfirmation where
  accountId : JsString
  deviceId : JsString
  backendId : JsString
deriving DecidableEq

/-- `backendId` is the property of the challenge, whatever it was. -/
structure RevocationResult where
  accountId : JsString
  deviceId : Option JsString := none
  backendId : Option Value := none

structure IssuedTicket where
  ticket : JsString
  claims : Value

structure DeviceInviteCapability where
  inviteId : JsString
  secret : JsString
  expiresAt : Int
deriving DecidableEq

structure DeviceInviteAcceptance where
  accountId : JsString
  deviceId : JsString
deriving DecidableEq

/-- `randomUUID()` and `randomBytes(32).toString("base64url")`: texts that are drawn once. -/
def randomText : TrustOp JsString := do
  return decimal (← random)

def persist : TrustOp Unit := do
  write (← get).circumstances.saved

def setState (state : StoredTrustState) : TrustOp Unit :=
  modify fun store => { store with state := state }

/-- The stored state without what has expired. -/
def StoredTrustState.pruned (state : StoredTrustState) (now : Int) : StoredTrustState :=
  { state with
    deviceInvites := state.deviceInvites.filter fun invite => now < invite.expiresAt
    usedTickets := state.usedTickets.filter fun expiresAt => now < expiresAt }

def prune : TrustOp Unit := do
  let now ← now
  modify fun store => { store with memory := store.memory.filter fun challenge => now < challenge.expiresAt }
  let state := (← get).state
  let changed := state.deviceInvites.values.any (fun invite => invite.expiresAt ≤ now) ||
    state.usedTickets.values.any fun expiresAt => expiresAt ≤ now
  setState (state.pruned now)
  if changed then write (← get).circumstances.pruned

section

variable (options : TrustStoreOptions)

def liftExcept {α : Type} (x : Except String α) : TrustOp α :=
  match x with
  | .ok a => return a
  | .error e => throw e

def hashDeviceInviteSecret (secret : JsString) : JsString :=
  base64.encodeUrl (options.crypto.sha256 (textEncode (js "pipane-device-invite-v1" ++ 0x0A :: secret)))

def secretsEqual (actual expected : JsString) : Bool :=
  textEncode actual = textEncode expected

def validateChallengeContext (request : DeviceChallengeRequest) : TrustOp DeviceChallengePurpose := do
  let purposes := [DeviceChallengePurpose.pair, .connect, .discover, .createDeviceInvite, .acceptDeviceInvite,
    .revokeDevice, .revokeBackend]
  let some purpose := purposes.find? fun purpose => isStr purpose.text request.purpose
    | throw "Unsupported device challenge purpose"
  if purpose ≠ .discover ∧ purpose ≠ .createDeviceInvite ∧ purpose ≠ .acceptDeviceInvite ∧
      ¬ truthy request.backendId then
    throw "backendId is required"
  if (purpose = .pair ∨ purpose = .connect) ∧ ¬ truthy request.connectionId then throw "connectionId is required"
  if purpose = .pair ∧ ¬ truthy request.pairId then throw "pairId is required"
  if purpose = .acceptDeviceInvite ∧
      (¬ truthy request.pairId ∨ ((← get).state.deviceInvites.get? (propertyKey request.pairId)).isNone) then
    throw "Device invite is missing or expired"
  if purpose = .revokeDevice ∧ ¬ truthy request.targetDeviceId then throw "targetDeviceId is required"
  return purpose

structure ChallengeIdentity where
  deviceId : JsString
  publicKey : JsString

/-- The id of a device whose key is a property of a request; a key that is no string is no canonical encoding. -/
def deriveRequestDeviceId (devicePublicKey : Option Value) : Except String ChallengeIdentity :=
  match devicePublicKey with
  | some (.str publicKey) =>
    (deriveDeviceId options.crypto publicKey).map fun deviceId => ⟨deviceId, publicKey⟩
  | _ => .error "Invalid public key encoding"

def resolveChallengeIdentity (request : DeviceChallengeRequest) (purpose : DeviceChallengePurpose) :
    TrustOp ChallengeIdentity := do
  if truthy request.deviceId then
    match (← get).state.devices.get? (propertyKey request.deviceId) with
    | some device =>
      if device.revokedAt ≠ none then throw "Device is unknown or revoked"
      if truthy request.devicePublicKey ∧ ¬ isStr device.publicKey request.devicePublicKey then
        throw "Device public key mismatch"
      return ⟨device.deviceId, device.publicKey⟩
    | none =>
      if (purpose = .pair ∨ purpose = .acceptDeviceInvite) ∧ truthy request.devicePublicKey then
        let identity ← liftExcept (deriveRequestDeviceId options request.devicePublicKey)
        if isStr identity.deviceId request.deviceId then return identity
      throw "Device is unknown or revoked"
  else
    if (purpose ≠ .pair ∧ purpose ≠ .acceptDeviceInvite) ∨ ¬ truthy request.devicePublicKey then
      throw "An existing device is required for this challenge"
    liftExcept (deriveRequestDeviceId options request.devicePublicKey)

def createChallenge (request : DeviceChallengeRequest) : TrustOp DeviceChallenge := do
  prune
  let purpose ← validateChallengeContext request
  let identity ← resolveChallengeIdentity options request purpose
  let challengeId ← randomText
  let nonce ← randomText
  let challenge : DeviceChallenge := {
    challengeId := CHALLENGE_ID_PREFIX ++ challengeId
    nonce
    purpose
    deviceId := identity.deviceId
    devicePublicKey := identity.publicKey
    backendId := request.backendId
    connectionId := request.connectionId
    pairId := request.pairId
    targetDeviceId := request.targetDeviceId
    expiresAt := (← now) + options.challengeTtlMs }
  modify fun store => { store with memory := store.memory.set challenge.challengeId challenge }
  return challenge

def consumeChallenge (challengeId signature : JsString) (expectedPurpose : DeviceChallengePurpose) :
    TrustOp DeviceChallenge := do
  let found := (← get).memory.get? challengeId
  modify fun store => { store with memory := store.memory.erase challengeId }
  let some challenge := found | throw "Device challenge is missing or expired"
  if challenge.expiresAt ≤ (← now) then throw "Device challenge is missing or expired"
  if challenge.purpose ≠ expectedPurpose then throw "Device challenge has the wrong purpose"
  if ¬ verifyDeviceSignature options.crypto challenge.devicePublicKey (deviceChallengePayload challenge) signature then
    throw "Invalid device challenge signature"
  return challenge

def requireActiveDevice (deviceId : JsString) : TrustOp StoredDevice := do
  let some device := (← get).state.devices.get? deviceId | throw "Device is unknown or revoked"
  if device.revokedAt ≠ none then throw "Device is unknown or revoked"
  return device

/-- A property of an object literal; `undefined` is not written to JSON. -/
def property (name : String) (value : Option Value) : List (JsString × Value) :=
  match value with
  | none => []
  | some value => [(js name, value)]

/-- The claims of a new ticket as they are written. -/
def claimsValue (kind : ConnectionTicketKind) (ticketId : JsString) (challenge : DeviceChallenge)
    (devicePublicKey : JsString) (accountId : Option JsString) (pairId : Option Value) (issuedAt expiresAt : Int) :
    Value :=
  .obj (property "version" (some (.num (.int CONNECTION_TICKET_VERSION))) ++ property "kind" (some (.str kind.text)) ++
    property "ticketId" (some (.str ticketId)) ++ property "backendId" challenge.backendId ++
    property "connectionId" challenge.connectionId ++ property "deviceId" (some (.str challenge.deviceId)) ++
    property "devicePublicKey" (some (.str devicePublicKey)) ++ property "accountId" (accountId.map .str) ++
    property "pairId" pairId ++ property "issuedAt" (some (.num (.int issuedAt))) ++
    property "expiresAt" (some (.num (.int expiresAt))))

def encodeClaims (claims : Value) : JsString :=
  base64.encodeUrl (textEncode (stringify claims))

def signTicket (claims : Value) : TrustOp JsString := do
  let encodedClaims := encodeClaims claims
  let signature := options.sign (← random) (textEncode (connectionTicketSignaturePayload encodedClaims))
  return encodedClaims ++ 0x2E :: signature

def issuePairingTicket (challengeId signature : JsString) : TrustOp IssuedTicket := do
  let challenge ← consumeChallenge options challengeId signature .pair
  let device := (← get).state.devices.get? challenge.deviceId
  let ticketId ← randomText
  let issuedAt ← now
  let expiresAt := (← now) + options.ticketTtlMs
  let claims := claimsValue .pairing (TICKET_ID_PREFIX ++ ticketId) challenge challenge.devicePublicKey
    (device.map fun device => device.accountId) challenge.pairId issuedAt expiresAt
  return { ticket := ← signTicket options claims, claims }

def issueConnectionTicket (challengeId signature : JsString) : TrustOp IssuedTicket := do
  let challenge ← consumeChallenge options challengeId signature .connect
  let device ← requireActiveDevice challenge.deviceId
  if (← get).state.backendOwners.get? (propertyKey challenge.backendId) ≠ some device.accountId then
    throw "Device account is not authorized for this backend"
  let ticketId ← randomText
  let issuedAt ← now
  let expiresAt := (← now) + options.ticketTtlMs
  let claims := claimsValue .connection (TICKET_ID_PREFIX ++ ticketId) { challenge with deviceId := device.deviceId }
    device.publicKey (some device.accountId) none issuedAt expiresAt
  return { ticket := ← signTicket options claims, claims }

def verifyTicket (ticket : JsString) : TrustOp ConnectionTicketClaims := do
  liftExcept (verifyConnectionTicket options.crypto ticket options.ticketPublicKey (← now))

def consumeRouteTicket (ticket : JsString) : TrustOp ConnectionTicketClaims := do
  let claims ← verifyTicket options ticket
  prune
  let state := (← get).state
  if (state.usedTickets.get? claims.ticketId).isSome then throw "Connection ticket was already used"
  setState { state with usedTickets := state.usedTickets.set claims.ticketId claims.expiresAt }
  persist
  return claims

/-- Whether a text that may be missing passes an `if`. -/
def present (text : Option JsString) : Bool :=
  text.any fun text => text ≠ []

/-- The account of a confirmed pairing, which the first pairing of an unowned backend creates. -/
def pairedAccountId (claims : ConnectionTicketClaims) (currentOwner : Option JsString) : TrustOp JsString :=
  match claims.accountId.or currentOwner with
  | some accountId =>
    if accountId = [] then do return ACCOUNT_ID_PREFIX ++ (← randomText) else return accountId
  | none => do return ACCOUNT_ID_PREFIX ++ (← randomText)

def appendMissing (id : JsString) (ids : List JsString) : List JsString :=
  if id ∈ ids then ids else ids ++ [id]

/-- What a confirmed pairing writes. -/
def StoredTrustState.paired (state : StoredTrustState) (claims : ConnectionTicketClaims) (account : StoredAccount)
    (device : StoredDevice) (pairId accountId : JsString) (completedAt : Int) : StoredTrustState :=
  { state with
    accounts := state.accounts.set accountId { account with
      deviceIds := appendMissing claims.deviceId account.deviceIds
      backendIds := appendMissing claims.backendId account.backendIds }
    devices := state.devices.set claims.deviceId device
    backendOwners := state.backendOwners.set claims.backendId accountId
    backendRevocations := state.backendRevocations.erase claims.backendId
    pairingCompletions := state.pairingCompletions.set pairId
      { pairId, ticketId := claims.ticketId, accountId, deviceId := claims.deviceId, backendId := claims.backendId,
        completedAt } }

def confirmPairing (claims : ConnectionTicketClaims) : TrustOp PairingConfirmation := do
  if claims.kind ≠ .pairing ∨ ¬ present claims.pairId then throw "Connection is not a pairing attempt"
  let pairId := claims.pairId.getD []
  let state := (← get).state
  match state.pairingCompletions.get? pairId with
  | some prior =>
    if prior.ticketId ≠ claims.ticketId then throw "Pairing capability was already used"
    return { accountId := prior.accountId, deviceId := prior.deviceId, backendId := prior.backendId }
  | none =>
    let currentOwner := state.backendOwners.get? claims.backendId
    if present claims.accountId ∧ present currentOwner ∧ claims.accountId ≠ currentOwner then
      throw "Backend is owned by another account"
    let existingDevice := state.devices.get? claims.deviceId
    if existingDevice.any fun device => device.revokedAt.any fun revokedAt => revokedAt ≠ 0 then
      throw "Device is revoked"
    if existingDevice.any fun device => device.publicKey ≠ claims.devicePublicKey then
      throw "Device public key mismatch"
    if existingDevice.any fun device => claims.accountId ≠ some device.accountId then
      throw "Device account mismatch"
    let accountId ← pairedAccountId claims currentOwner
    if existingDevice.any fun device => device.accountId ≠ accountId then
      throw "Device belongs to another account"
    let account ← match state.accounts.get? accountId with
      | some account => pure account
      | none => do pure { accountId, deviceIds := [], backendIds := [], createdAt := ← now }
    let device ← match existingDevice with
      | some device => pure device
      | none => do
        pure { deviceId := claims.deviceId, publicKey := claims.devicePublicKey, accountId, createdAt := ← now }
    setState (state.paired claims account device pairId accountId (← now))
    persist
    return { accountId, deviceId := claims.deviceId, backendId := claims.backendId }

def listAuthorizedBackendIds (challengeId signature : JsString) : TrustOp (List JsString) := do
  let challenge ← consumeChallenge options challengeId signature .discover
  let device ← requireActiveDevice challenge.deviceId
  let some account := (← get).state.accounts.get? device.accountId
    | throw "TypeError: Cannot read properties of undefined"
  return account.backendIds

def createDeviceInvite (challengeId signature : JsString) : TrustOp DeviceInviteCapability := do
  let challenge ← consumeChallenge options challengeId signature .createDeviceInvite
  let actor ← requireActiveDevice challenge.deviceId
  let secret ← randomText
  let invite : StoredDeviceInvite := {
    inviteId := DEVICE_INVITE_ID_PREFIX ++ (← randomText)
    secretHash := hashDeviceInviteSecret options secret
    accountId := actor.accountId
    createdByDeviceId := actor.deviceId
    createdAt := ← now
    expiresAt := (← now) + DEVICE_INVITE_TTL_MS }
  let state := (← get).state
  setState { state with deviceInvites := state.deviceInvites.set invite.inviteId invite }
  persist
  return { inviteId := invite.inviteId, secret, expiresAt := invite.expiresAt }

/-- What an accepted invite writes. -/
def StoredTrustState.accepted (state : StoredTrustState) (inviteId : JsString) (account : StoredAccount)
    (accountKey : JsString) (device : StoredDevice) : StoredTrustState :=
  { state with
    accounts := state.accounts.set accountKey { account with deviceIds := account.deviceIds ++ [device.deviceId] }
    devices := state.devices.set device.deviceId device
    deviceInvites := state.deviceInvites.erase inviteId }

def acceptDeviceInvite (challengeId signature inviteId secret : JsString) : TrustOp DeviceInviteAcceptance := do
  let challenge ← consumeChallenge options challengeId signature .acceptDeviceInvite
  if ¬ isStr inviteId challenge.pairId then throw "Device challenge does not match this invite"
  let state := (← get).state
  let some invite := state.deviceInvites.get? inviteId | throw "Device invite is missing or expired"
  if invite.expiresAt ≤ (← now) then throw "Device invite is missing or expired"
  if ¬ secretsEqual (hashDeviceInviteSecret options secret) invite.secretHash then
    throw "Invalid device invite secret"
  match state.devices.get? challenge.deviceId with
  | some existingDevice =>
    if existingDevice.accountId = invite.accountId then throw "This browser already has access to this account"
    throw "This browser already belongs to another account"
  | none =>
    let some account := state.accounts.get? invite.accountId | throw "Device invite account is missing"
    let device : StoredDevice := {
      deviceId := challenge.deviceId
      publicKey := challenge.devicePublicKey
      accountId := account.accountId
      createdAt := ← now }
    setState (state.accepted inviteId account invite.accountId device)
    persist
    return { accountId := account.accountId, deviceId := challenge.deviceId }

def revokeDevice (challengeId signature : JsString) : TrustOp RevocationResult := do
  let challenge ← consumeChallenge options challengeId signature .revokeDevice
  let actor ← requireActiveDevice challenge.deviceId
  let state := (← get).state
  let targetKey := propertyKey challenge.targetDeviceId
  let some target := state.devices.get? targetKey | throw "Target device does not belong to this account"
  if target.accountId ≠ actor.accountId then throw "Target device does not belong to this account"
  setState { state with devices := state.devices.set targetKey { target with revokedAt := some (← now) } }
  persist
  return { accountId := actor.accountId, deviceId := some target.deviceId }

/-- What a backend revocation writes before it looks for the account. -/
def StoredTrustState.disowned (state : StoredTrustState) (backendId accountId : JsString) (revokedAt : Int) :
    StoredTrustState :=
  { state with
    backendOwners := state.backendOwners.erase backendId
    backendRevocations := state.backendRevocations.set backendId { accountId, revokedAt } }

/-- What it takes from the account: the ids that are the property of the challenge itself. -/
def StoredTrustState.withoutBackend (state : StoredTrustState) (accountId : JsString) (account : StoredAccount)
    (backendId : Option Value) : StoredTrustState :=
  { state with
    accounts := state.accounts.set accountId
      { account with backendIds := account.backendIds.filter fun id => ¬ isStr id backendId } }

def revokeBackend (challengeId signature : JsString) : TrustOp RevocationResult := do
  let challenge ← consumeChallenge options challengeId signature .revokeBackend
  let actor ← requireActiveDevice challenge.deviceId
  let backendKey := propertyKey challenge.backendId
  let state := (← get).state
  if state.backendOwners.get? backendKey ≠ some actor.accountId then throw "Backend does not belong to this account"
  let disowned := state.disowned backendKey actor.accountId (← now)
  setState disowned
  let some account := disowned.accounts.get? actor.accountId | throw "TypeError: Cannot read properties of undefined"
  setState (disowned.withoutBackend actor.accountId account challenge.backendId)
  persist
  return { accountId := actor.accountId, backendId := challenge.backendId }

end

/-- The public operations. -/
inductive Call
  | createChallenge (request : DeviceChallengeRequest)
  | issuePairingTicket (challengeId signature : JsString)
  | issueConnectionTicket (challengeId signature : JsString)
  | verifyTicket (ticket : JsString)
  | consumeRouteTicket (ticket : JsString)
  | confirmPairing (claims : ConnectionTicketClaims)
  | listAuthorizedBackendIds (challengeId signature : JsString)
  | createDeviceInvite (challengeId signature : JsString)
  | acceptDeviceInvite (challengeId signature inviteId secret : JsString)
  | revokeDevice (challengeId signature : JsString)
  | revokeBackend (challengeId signature : JsString)

inductive Reply
  | challenge (challenge : DeviceChallenge)
  | ticket (issued : IssuedTicket)
  | claims (claims : ConnectionTicketClaims)
  | confirmation (confirmation : PairingConfirmation)
  | backendIds (backendIds : List JsString)
  | invite (invite : DeviceInviteCapability)
  | acceptance (acceptance : DeviceInviteAcceptance)
  | revocation (revocation : RevocationResult)

def perform (options : TrustStoreOptions) : Call → TrustOp Reply
  | .createChallenge request => return .challenge (← createChallenge options request)
  | .issuePairingTicket challengeId signature => return .ticket (← issuePairingTicket options challengeId signature)
  | .issueConnectionTicket challengeId signature =>
    return .ticket (← issueConnectionTicket options challengeId signature)
  | .verifyTicket ticket => return .claims (← verifyTicket options ticket)
  | .consumeRouteTicket ticket => return .claims (← consumeRouteTicket options ticket)
  | .confirmPairing claims => return .confirmation (← confirmPairing claims)
  | .listAuthorizedBackendIds challengeId signature =>
    return .backendIds (← listAuthorizedBackendIds options challengeId signature)
  | .createDeviceInvite challengeId signature => return .invite (← createDeviceInvite options challengeId signature)
  | .acceptDeviceInvite challengeId signature inviteId secret =>
    return .acceptance (← acceptDeviceInvite options challengeId signature inviteId secret)
  | .revokeDevice challengeId signature => return .revocation (← revokeDevice options challengeId signature)
  | .revokeBackend challengeId signature => return .revocation (← revokeBackend options challengeId signature)

/-- A call in the circumstances that it meets. -/
structure Request where
  call : Call
  circumstances : Circumstances := { ticks := [], pruned := .written, saved := .written }

def serve (options : TrustStoreOptions) (store : RendezvousTrustStore) (request : Request) :
    EStateM.Result String RendezvousTrustStore Reply :=
  perform options request.call { store with circumstances := request.circumstances }

/-- The store after a call, whether it returned or threw. -/
def afterCall (options : TrustStoreOptions) (store : RendezvousTrustStore) (request : Request) :
    RendezvousTrustStore :=
  match serve options store request with
  | .ok _ after => after
  | .error _ after => after

/-- What a call returned. -/
def replyOf (options : TrustStoreOptions) (store : RendezvousTrustStore) (request : Request) : Option Reply :=
  match serve options store request with
  | .ok reply _ => some reply
  | .error _ _ => none

def isDeviceActive (store : RendezvousTrustStore) (deviceId : JsString) : Bool :=
  (store.state.devices.get? deviceId).any fun device => device.revokedAt = none

def getBackendOwner (store : RendezvousTrustStore) (backendId : JsString) : Option JsString :=
  store.state.backendOwners.get? backendId

def getPendingBackendRevocation (store : RendezvousTrustStore) (backendId : JsString) : Option RevocationResult :=
  (store.state.backendRevocations.get? backendId).map fun revocation =>
    { accountId := revocation.accountId, backendId := some (.str backendId) }

end pipane.trust_store

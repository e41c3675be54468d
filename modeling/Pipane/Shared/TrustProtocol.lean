import Pipane.Lib.Json.Coerce

open javascript json

namespace pipane.trust_protocol

def TRUST_PROTOCOL_VERSION : Nat := 1

def CONNECTION_TICKET_VERSION : Nat := 1

inductive DeviceChallengePurpose
  | pair
  | connect
  | discover
  | createDeviceInvite
  | acceptDeviceInvite
  | revokeDevice
  | revokeBackend
deriving DecidableEq

def DeviceChallengePurpose.text : DeviceChallengePurpose → JsString
  | .pair => js "pair"
  | .connect => js "connect"
  | .discover => js "discover"
  | .createDeviceInvite => js "create_device_invite"
  | .acceptDeviceInvite => js "accept_device_invite"
  | .revokeDevice => js "revoke_device"
  | .revokeBackend => js "revoke_backend"

/-- A challenge keeps the context of its request as the request had it. -/
structure DeviceChallenge where
  challengeId : JsString
  nonce : JsString
  purpose : DeviceChallengePurpose
  deviceId : JsString
  devicePublicKey : JsString
  backendId : Option Value
  connectionId : Option Value
  pairId : Option Value
  targetDeviceId : Option Value
  expiresAt : Int

/-- The body of a challenge request. No one has checked the types of its properties. -/
structure DeviceChallengeRequest where
  purpose : Option Value := none
  deviceId : Option Value := none
  devicePublicKey : Option Value := none
  backendId : Option Value := none
  connectionId : Option Value := none
  pairId : Option Value := none
  targetDeviceId : Option Value := none

inductive ConnectionTicketKind
  | pairing
  | connection
deriving DecidableEq

def ConnectionTicketKind.text : ConnectionTicketKind → JsString
  | .pairing => js "pairing"
  | .connection => js "connection"

structure ConnectionTicketClaims where
  kind : ConnectionTicketKind
  ticketId : JsString
  backendId : JsString
  connectionId : JsString
  deviceId : JsString
  devicePublicKey : JsString
  accountId : Option JsString
  pairId : Option JsString
  issuedAt : Int
  expiresAt : Int
deriving DecidableEq

/-- A backend's statement about one negotiated connection. -/
structure BackendIdentityBinding where
  version : Nat
  backendId : JsString
  publicKey : JsString
  connectionId : JsString
  offerSha256 : JsString
  answerSha256 : JsString
  dtlsFingerprint : JsString
  expiresAt : Nat
  signature : JsString
deriving DecidableEq

/-- `lines.join("\n")`. -/
def joinLines : List JsString → JsString
  | [] => []
  | [line] => line
  | line :: lines => line ++ 0x0A :: joinLines lines

/-- What the backend signs: the binding without its signature. -/
def backendIdentityBindingPayload (binding : BackendIdentityBinding) : JsString :=
  joinLines [js "pipane-backend-binding-v" ++ decimal TRUST_PROTOCOL_VERSION, binding.backendId, binding.publicKey,
    binding.connectionId, binding.offerSha256, binding.answerSha256, binding.dtlsFingerprint,
    decimal binding.expiresAt]

/-- `String(n)` of an integer. -/
def integerText (n : Int) : JsString :=
  stringifyNumber (.int n)

/-- What a device signs to answer a challenge. -/
def deviceChallengePayload (challenge : DeviceChallenge) : JsString :=
  joinLines [js "pipane-device-challenge-v" ++ decimal TRUST_PROTOCOL_VERSION, challenge.challengeId, challenge.nonce,
    challenge.purpose.text, challenge.deviceId, challenge.devicePublicKey, textOrEmpty challenge.backendId,
    textOrEmpty challenge.connectionId, textOrEmpty challenge.pairId, textOrEmpty challenge.targetDeviceId,
    integerText challenge.expiresAt]

def connectionTicketSignaturePayload (encodedClaims : JsString) : JsString :=
  js "pipane-connection-ticket-v" ++ decimal CONNECTION_TICKET_VERSION ++ 0x0A :: encodedClaims

/-- What a device signs to authenticate its data channel. -/
def deviceConnectionProofPayload (ticket bindingSignature : JsString) : JsString :=
  joinLines [js "pipane-device-connection-v" ++ decimal TRUST_PROTOCOL_VERSION, ticket, bindingSignature]

/-- A property that must be a non-empty string. -/
def nonEmptyString? : Option Value → Option JsString
  | some (.str s) => if s = [] then none else some s
  | _ => none

/-- A property that may be missing and is a non-empty string otherwise. -/
def optionalString? : Option Value → Option (Option JsString)
  | none => some none
  | some v => (nonEmptyString? (some v)).map some

def nonNegativeInteger? : Option Value → Option Int
  | some (.num (.int n)) => if isSafeInteger n ∧ 0 ≤ n then some n else none
  | _ => none

def positiveInteger? : Option Value → Option Int
  | some (.num (.int n)) => if isSafeInteger n ∧ 0 < n then some n else none
  | _ => none

def ticketKind? (kind : Option Value) : Option ConnectionTicketKind :=
  [ConnectionTicketKind.pairing, .connection].find? fun expected => isStr expected.text kind

def parseConnectionTicketClaims (value : Value) : Option ConnectionTicketClaims := do
  let property (name : String) := value.get? (js name)
  if (← property "version").isInt CONNECTION_TICKET_VERSION = false then none
  let kind ← ticketKind? (property "kind")
  let ticketId ← nonEmptyString? (property "ticketId")
  let backendId ← nonEmptyString? (property "backendId")
  let connectionId ← nonEmptyString? (property "connectionId")
  let deviceId ← nonEmptyString? (property "deviceId")
  let devicePublicKey ← nonEmptyString? (property "devicePublicKey")
  let accountId ← optionalString? (property "accountId")
  let pairId ← optionalString? (property "pairId")
  let issuedAt ← nonNegativeInteger? (property "issuedAt")
  let expiresAt ← positiveInteger? (property "expiresAt")
  if expiresAt ≤ issuedAt then none
  if kind = .pairing ∧ pairId = none then none
  if kind = .connection ∧ accountId = none then none
  return { kind, ticketId, backendId, connectionId, deviceId, devicePublicKey, accountId, pairId, issuedAt, expiresAt }

/-- The first frame of a data channel. -/
structure DataChannelAuthenticateFrame where
  ticket : JsString
  bindingSignature : JsString
  deviceSignature : JsString
  pairingSecret : Option JsString

def decodeDataChannelAuthenticateFrame (raw : JsString) : Option DataChannelAuthenticateFrame := do
  let value ← parse raw
  let property (name : String) := value.get? (js name)
  if (← property "protocolVersion").isInt TRUST_PROTOCOL_VERSION = false then none
  if ¬ isStr (js "authenticate") (property "type") then none
  let ticket ← nonEmptyString? (property "ticket")
  let bindingSignature ← nonEmptyString? (property "bindingSignature")
  let deviceSignature ← nonEmptyString? (property "deviceSignature")
  let pairingSecret ← optionalString? (property "pairingSecret")
  return { ticket, bindingSignature, deviceSignature, pairingSecret }

/-- What every parsed ticket satisfies. -/
structure ConnectionTicketClaims.WellFormed (claims : ConnectionTicketClaims) : Prop where
  ticketId : claims.ticketId ≠ []
  backendId : claims.backendId ≠ []
  connectionId : claims.connectionId ≠ []
  deviceId : claims.deviceId ≠ []
  devicePublicKey : claims.devicePublicKey ≠ []
  accountId : claims.accountId ≠ some []
  pairId : claims.pairId ≠ some []
  pairing : claims.kind = .pairing → claims.pairId ≠ none
  connection : claims.kind = .connection → claims.accountId ≠ none
  issuedAt : 0 ≤ claims.issuedAt
  expiresAt : claims.issuedAt < claims.expiresAt ∧ isSafeInteger claims.expiresAt = true

theorem nonEmptyString?_eq {value : Option Value} {s : JsString} (h : nonEmptyString? value = some s) :
    value = some (.str s) ∧ s ≠ [] := by
  unfold nonEmptyString? at h
  split at h
  · split at h
    · cases h
    · cases h
      exact ⟨rfl, ‹_›⟩
  · cases h

theorem optionalString?_ne {value : Option Value} {s : Option JsString} (h : optionalString? value = some s) :
    s ≠ some [] := by
  unfold optionalString? at h
  split at h
  · cases h
    exact Option.some_ne_none _ |>.symm
  · obtain ⟨text, htext, rfl⟩ := Option.map_eq_some_iff.mp h
    exact fun hempty => (nonEmptyString?_eq htext).2 (Option.some.inj hempty)

theorem nonNegativeInteger?_le {value : Option Value} {n : Int} (h : nonNegativeInteger? value = some n) :
    0 ≤ n := by
  unfold nonNegativeInteger? at h
  split at h
  · split at h
    · cases h
      exact (‹_ ∧ _› : _ ∧ _).2
    · cases h
  · cases h

theorem positiveInteger?_safe {value : Option Value} {n : Int} (h : positiveInteger? value = some n) :
    isSafeInteger n = true := by
  unfold positiveInteger? at h
  split at h
  · split at h
    · cases h
      exact (‹_ ∧ _› : _ ∧ _).1
    · cases h
  · cases h

theorem parseConnectionTicketClaims_some {value : Value} {claims : ConnectionTicketClaims}
    (h : parseConnectionTicketClaims value = some claims) :
    claims.WellFormed ∧ value.get? (js "ticketId") = some (.str claims.ticketId) := by
  simp only [parseConnectionTicketClaims, Option.bind_eq_bind, Option.bind_none, Option.bind_eq_some_iff,
    Option.ite_none_left_eq_some, Option.pure_def, Option.some.injEq] at h
  obtain ⟨_, _, _, kind, _, ticketId, hticketId, backendId, hbackendId, connectionId, hconnectionId, deviceId, hdeviceId,
    devicePublicKey, hdevicePublicKey, accountId, haccountId, pairId, hpairId, issuedAt, hissuedAt, expiresAt, hexpiresAt,
    hlater, hpairing, hconnection, rfl⟩ := h
  refine ⟨⟨(nonEmptyString?_eq hticketId).2, (nonEmptyString?_eq hbackendId).2, (nonEmptyString?_eq hconnectionId).2,
    (nonEmptyString?_eq hdeviceId).2, (nonEmptyString?_eq hdevicePublicKey).2, optionalString?_ne haccountId,
    optionalString?_ne hpairId, fun hkind hnone => hpairing ⟨hkind, hnone⟩,
    fun hkind hnone => hconnection ⟨hkind, hnone⟩, nonNegativeInteger?_le hissuedAt,
    not_le.mp hlater, positiveInteger?_safe hexpiresAt⟩, (nonEmptyString?_eq hticketId).1⟩

end pipane.trust_protocol

import Pipane.Client.DeviceIdentity
import Pipane.Shared.NodeTrustCrypto
import Pipane.Shared.RendezvousProtocol

open javascript json pipane.trust_protocol pipane.node_trust_crypto pipane.rendezvous_protocol

namespace pipane.backend_identity

def BACKEND_ID_PREFIX : JsString := js "b_"

def decodePublicKey (publicKey : JsString) : Except String (List UInt8) := do
  if publicKey = [] ∨ ¬ publicKey.all isBase64UrlUnit then throw "Invalid public key encoding"
  let bytes := base64.decodeUrl publicKey
  if bytes = [] ∨ base64.encodeUrl bytes ≠ publicKey then throw "Invalid public key encoding"
  return bytes

def deriveBackendId (crypto : NodeCrypto) (publicKey : JsString) : Except String JsString := do
  let publicKeyBytes ← decodePublicKey publicKey
  match crypto.createPublicKey publicKeyBytes with
  | none => throw "Failed to read asymmetric key"
  | some key =>
    if ¬ crypto.isP256 key then throw "Backend identity must use a P-256 key"
    return BACKEND_ID_PREFIX ++ base64.encodeUrl (crypto.sha256 publicKeyBytes)

def verifyBackendSignature (crypto : NodeCrypto) (publicKey payload signature : JsString) : Bool :=
  match decodePublicKey publicKey with
  | .error _ => false
  | .ok bytes =>
    match crypto.createPublicKey bytes with
    | none => false
    | some key => crypto.isP256 key && crypto.verify key (textEncode payload) signature

/-- What a backend signs to register. -/
def backendRegistrationPayload (nonce : JsString) : JsString :=
  js "pipane-rendezvous-v" ++ decimal RENDEZVOUS_PROTOCOL_VERSION ++ 0x0A :: nonce

def verifyBackendChallenge (crypto : NodeCrypto) (publicKey nonce signature : JsString) : Bool :=
  verifyBackendSignature crypto publicKey (backendRegistrationPayload nonce) signature

def sha256Base64Url (crypto : NodeCrypto) (value : JsString) : JsString :=
  base64.encodeUrl (crypto.sha256 (textEncode value))

/-- The expression is the one that the browser searches an SDP with. -/
def extractDtlsFingerprint (sdp : JsString) : Except String JsString :=
  device_identity.extractFingerprint sdp

/-- `sign` signs a text with the private key. -/
structure BackendIdentity where
  backendId : JsString
  publicKey : JsString
  sign : JsString → JsString

def signBackendChallenge (identity : BackendIdentity) (nonce : JsString) : JsString :=
  identity.sign (backendRegistrationPayload nonce)

def signBackendIdentityBinding (crypto : NodeCrypto) (identity : BackendIdentity)
    (connectionId offerSdp answerSdp : JsString) (expiresAt : Int) : Except String BackendIdentityBinding := do
  let unsigned : BackendIdentityBinding := {
    version := TRUST_PROTOCOL_VERSION
    backendId := identity.backendId
    publicKey := identity.publicKey
    connectionId
    offerSha256 := sha256Base64Url crypto offerSdp
    answerSha256 := sha256Base64Url crypto answerSdp
    dtlsFingerprint := ← extractDtlsFingerprint answerSdp
    expiresAt := expiresAt.toNat
    signature := [] }
  return { unsigned with signature := identity.sign (backendIdentityBindingPayload unsigned) }

def verifyBackendIdentityBinding (crypto : NodeCrypto) (binding : BackendIdentityBinding) : Bool :=
  match deriveBackendId crypto binding.publicKey with
  | .error _ => false
  | .ok backendId =>
    binding.version = TRUST_PROTOCOL_VERSION && backendId = binding.backendId &&
      verifyBackendSignature crypto binding.publicKey (backendIdentityBindingPayload binding) binding.signature

end pipane.backend_identity

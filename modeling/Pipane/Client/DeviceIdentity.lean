import Pipane.Lib.Base64
import Pipane.Shared.TrustProtocol

open javascript pipane.trust_protocol

namespace pipane.device_identity

/-- The operations of `crypto.subtle` that verification calls: SHA-256, the import of an SPKI P-256 key, and
    ECDSA over SHA-256. -/
structure SubtleCrypto where
  CryptoKey : Type
  digest : List UInt8 → List UInt8
  importKey : List UInt8 → Option CryptoKey
  verify : CryptoKey → List UInt8 → List UInt8 → Bool

def encodeBase64Url (bytes : List UInt8) : JsString :=
  ((base64.encode bytes).filter fun u => u ≠ base64.pad).map fun u =>
    if u = 0x2B then 0x2D else if u = 0x2F then 0x5F else u

def isBase64UrlUnit (u : UInt16) : Bool :=
  (base64.decodeSextet u).isSome && u != 0x2B && u != 0x2F || u == 0x2D || u == 0x5F

/-- `padEnd(Math.ceil(value.length / 4) * 4, "=")` after the two replacements. -/
def standardBase64 (value : JsString) : JsString :=
  value.map (fun u => if u = 0x2D then 0x2B else if u = 0x5F then 0x2F else u) ++
    List.replicate ((value.length + 3) / 4 * 4 - value.length) base64.pad

def decodeBase64Url (value : JsString) : Except String (List UInt8) :=
  if value = [] ∨ ¬ value.all isBase64UrlUnit then .error "Invalid base64url value"
  else
    match base64.decode (standardBase64 value) with
    | none => .error "InvalidCharacterError"
    | some bytes => .ok bytes

def isLineTerminator (u : UInt16) : Bool :=
  u == 0x0A || u == 0x0D || u == 0x2028 || u == 0x2029

def isFingerprintUnit (u : UInt16) : Bool :=
  0x41 ≤ u.toNat && u.toNat ≤ 0x46 || 0x61 ≤ u.toNat && u.toNat ≤ 0x66 || 0x30 ≤ u.toNat && u.toNat ≤ 0x39 ||
    u == 0x3A

def upperFingerprintUnit (u : UInt16) : UInt16 :=
  if 0x61 ≤ u.toNat ∧ u.toNat ≤ 0x66 then u - 0x20 else u

/-- `\r?$` with the `m` flag; a carriage return ends a line itself. -/
def atLineEnd : JsString → Bool
  | [] => true
  | u :: _ => isLineTerminator u

/-- The rest of a text after a literal. -/
def afterLiteral (literal text : JsString) : Option JsString :=
  if literal.isPrefixOf text then some (text.drop literal.length) else none

/-- The value of a fingerprint attribute that starts here. -/
def fingerprintHere (text : JsString) : Option JsString := do
  let text ← afterLiteral (js "a=fingerprint:sha-") text
  let bits ← [js "1", js "224", js "256", js "384", js "512"].find? fun bits => (bits ++ [0x20]).isPrefixOf text
  let text := text.drop (bits.length + 1)
  let value := text.takeWhile isFingerprintUnit
  if value ≠ [] ∧ atLineEnd (text.dropWhile isFingerprintUnit) then
    some (js "sha-" ++ bits ++ 0x20 :: value.map upperFingerprintUnit)
  else none

/-- The first fingerprint attribute at the start of a line, `lineStart` saying whether one starts here. -/
def findFingerprint (lineStart : Bool) : JsString → Option JsString
  | [] => none
  | u :: text =>
    match if lineStart then fingerprintHere (u :: text) else none with
    | some fingerprint => some fingerprint
    | none => findFingerprint (isLineTerminator u) text

def extractFingerprint (sdp : JsString) : Except String JsString :=
  match findFingerprint true sdp with
  | none => .error "SDP answer is missing a DTLS certificate fingerprint"
  | some fingerprint => .ok fingerprint

structure Expected where
  backendId : JsString
  connectionId : JsString
  offerSdp : JsString
  answerSdp : JsString
  expiresAt : Nat
deriving DecidableEq

def sha256 (crypto : SubtleCrypto) (value : JsString) : JsString :=
  encodeBase64Url (crypto.digest (textEncode value))

def bindingMismatch : String :=
  "Backend identity binding does not match the negotiated connection"

/-- `now` is the clock when the hashes are there. -/
def verifyBrowserBackendBinding (crypto : SubtleCrypto) (now : Nat) (binding : BackendIdentityBinding)
    (expected : Expected) : Except String Unit := do
  let publicKeyBytes ← decodeBase64Url binding.publicKey
  let backendId := js "b_" ++ encodeBase64Url (crypto.digest publicKeyBytes)
  if binding.version ≠ TRUST_PROTOCOL_VERSION ∨ backendId ≠ expected.backendId ∨
      binding.backendId ≠ expected.backendId ∨ binding.connectionId ≠ expected.connectionId ∨
      binding.offerSha256 ≠ sha256 crypto expected.offerSdp ∨
      binding.answerSha256 ≠ sha256 crypto expected.answerSdp then
    throw bindingMismatch
  let fingerprint ← extractFingerprint expected.answerSdp
  if binding.dtlsFingerprint ≠ fingerprint ∨ binding.expiresAt ≠ expected.expiresAt ∨ binding.expiresAt ≤ now then
    throw bindingMismatch
  match crypto.importKey publicKeyBytes with
  | none => throw "DataError"
  | some publicKey =>
    let signature ← decodeBase64Url binding.signature
    if crypto.verify publicKey signature (textEncode (backendIdentityBindingPayload binding)) then return ()
    else throw "Backend identity binding signature is invalid"

end pipane.device_identity

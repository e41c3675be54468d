import Pipane.Lib.Base64.Url
import Pipane.Lib.BufferText
import Pipane.Shared.TrustProtocol

open javascript json pipane.trust_protocol

namespace pipane.node_trust_crypto

/-- The operations of `node:crypto` that the trust stores call. `verify` takes the signature as the base64url
    text that it arrives in. -/
structure NodeCrypto where
  KeyObject : Type
  sha256 : List UInt8 → List UInt8
  createPublicKey : List UInt8 → Option KeyObject
  isP256 : KeyObject → Bool
  exportSpki : KeyObject → List UInt8
  verify : KeyObject → List UInt8 → JsString → Bool

def DEVICE_ID_PREFIX : JsString := js "d_"

def isBase64UrlUnit (u : UInt16) : Bool :=
  (base64.urlSextet u).isSome && u != 0x2B && u != 0x2F

def decodeP256PublicKey (crypto : NodeCrypto) (publicKey : JsString) : Except String (List UInt8) := do
  if publicKey = [] ∨ ¬ publicKey.all isBase64UrlUnit then throw "Invalid public key encoding"
  let bytes := base64.decodeUrl publicKey
  if bytes = [] ∨ base64.encodeUrl bytes ≠ publicKey then throw "Invalid public key encoding"
  match crypto.createPublicKey bytes with
  | none => throw "Failed to read asymmetric key"
  | some key =>
    if ¬ crypto.isP256 key then throw "Identity must use P-256"
    if crypto.exportSpki key ≠ bytes then throw "Public key is not canonical"
    return bytes

def deriveDeviceId (crypto : NodeCrypto) (publicKey : JsString) : Except String JsString := do
  let bytes ← decodeP256PublicKey crypto publicKey
  return DEVICE_ID_PREFIX ++ base64.encodeUrl (crypto.sha256 bytes)

def verifyDeviceSignature (crypto : NodeCrypto) (publicKey payload signature : JsString) : Bool :=
  match decodeP256PublicKey crypto publicKey with
  | .error _ => false
  | .ok bytes =>
    match crypto.createPublicKey bytes with
    | none => false
    | some key => crypto.verify key (textEncode payload) signature

/-- The claims that a ticket carries before its signature. -/
def decodeClaims (encodedClaims : JsString) : Except String Value := do
  let bytes := base64.decodeUrl encodedClaims
  if base64.encodeUrl bytes ≠ encodedClaims then throw "Malformed connection ticket claims"
  match parse (bufferText bytes) with
  | none => throw "Malformed connection ticket claims"
  | some claims => return claims

/-- The two non-empty parts of a ticket. -/
def splitTicket (ticket : JsString) : Option (JsString × JsString) :=
  match ticket.splitOn 0x2E with
  | [encodedClaims, encodedSignature] =>
    if encodedClaims = [] ∨ encodedSignature = [] then none else some (encodedClaims, encodedSignature)
  | _ => none

def verifyConnectionTicket (crypto : NodeCrypto) (ticket publicKey : JsString) (now : Int) :
    Except String ConnectionTicketClaims := do
  let some (encodedClaims, encodedSignature) := splitTicket ticket | throw "Malformed connection ticket"
  let claims ← decodeClaims encodedClaims
  let some parsed := parseConnectionTicketClaims claims | throw "Invalid connection ticket claims"
  if ¬ verifyDeviceSignature crypto publicKey (connectionTicketSignaturePayload encodedClaims) encodedSignature then
    throw "Invalid connection ticket signature"
  if parsed.expiresAt ≤ now then throw "Connection ticket expired"
  if parsed.issuedAt > now + 30000 then throw "Connection ticket was issued in the future"
  return parsed

/-- What a ticket that verifies consists of. -/
theorem verifyConnectionTicket_ok {crypto : NodeCrypto} {ticket publicKey : JsString} {now : Int}
    {claims : ConnectionTicketClaims} (h : verifyConnectionTicket crypto ticket publicKey now = .ok claims) :
    ∃ encodedClaims encodedSignature value, splitTicket ticket = some (encodedClaims, encodedSignature) ∧
      decodeClaims encodedClaims = .ok value ∧ parseConnectionTicketClaims value = some claims ∧
      verifyDeviceSignature crypto publicKey (connectionTicketSignaturePayload encodedClaims) encodedSignature = true ∧
      now < claims.expiresAt := by
  unfold verifyConnectionTicket at h
  cases hsplit : splitTicket ticket with
  | none =>
    rw [hsplit] at h
    cases h
  | some parts =>
    obtain ⟨encodedClaims, encodedSignature⟩ := parts
    rw [hsplit] at h
    cases hdecode : decodeClaims encodedClaims with
    | error message =>
      simp only [hdecode] at h
      cases h
    | ok value =>
      cases hparse : parseConnectionTicketClaims value with
      | none =>
        simp only [hdecode, Except.bind, bind, hparse] at h
        cases h
      | some parsed =>
        simp only [hdecode, Except.bind, bind, hparse] at h
        by_cases hverify : verifyDeviceSignature crypto publicKey (connectionTicketSignaturePayload encodedClaims)
          encodedSignature = true
        · rw [if_neg (not_not.mpr hverify)] at h
          by_cases hexpired : parsed.expiresAt ≤ now
          · rw [if_pos hexpired] at h
            cases h
          · rw [if_neg hexpired] at h
            split at h
            · cases h
            · cases h
              exact ⟨encodedClaims, encodedSignature, value, rfl, hdecode, hparse, hverify, not_le.mp hexpired⟩
        · rw [if_pos hverify] at h
          cases h

end pipane.node_trust_crypto

import Pipane.Lib.Base64.Url
import Pipane.Lib.Checks
import Pipane.Lib.Json.RoundTrip
import Pipane.Rendezvous.TrustStore.Authority
import Pipane.Server.BackendIdentity

open javascript json durable pipane.trust_protocol pipane.node_trust_crypto pipane.backend_identity

namespace pipane.trust_store

/-! What a browser takes for a connection ticket. -/

def isAsciiWhitespace (u : UInt16) : Bool :=
  u == 0x09 || u == 0x0A || u == 0x0C || u == 0x0D || u == 0x20

/-- A full last quantum without its padding. -/
def dropPadding (text : JsString) : JsString :=
  if text.length % 4 ≠ 0 then text
  else
    match text.reverse with
    | 0x3D :: 0x3D :: rest => rest.reverse
    | 0x3D :: rest => rest.reverse
    | _ => text

/-- `atob`: white space is dropped, and the padding may be missing. -/
def atob (text : JsString) : Option (List UInt8) :=
  let text := dropPadding (text.filter fun u => ¬ isAsciiWhitespace u)
  if text.length % 4 = 1 then none else (text.mapM base64.decodeSextet).map base64.joinSextets

def malformedClaims : String :=
  "Connection ticket claims are malformed"

def decodeTicketClaims (ticket : JsString) : Except String ConnectionTicketClaims :=
  let encodedClaims := ticket.takeWhile fun u => u ≠ 0x2E
  if encodedClaims = [] then .error "Connection ticket is malformed"
  else
    match atob (device_identity.standardBase64 encodedClaims) with
    | none => .error malformedClaims
    | some bytes =>
      match (parse (bytes.map fun b => b.toUInt16)).bind parseConnectionTicketClaims with
      | none => .error malformedClaims
      | some claims => .ok claims

/-- What is signed: the fields of a challenge, of a binding without its signature, or of a connection proof. -/
inductive Signed
  | challenge (issued : DeviceChallenge)
  | binding (unsigned : BackendIdentityBinding)
  | connection (ticket bindingSignature : JsString)

def Signed.payload : Signed → JsString
  | .challenge issued => deviceChallengePayload issued
  | .binding unsigned => backendIdentityBindingPayload unsigned
  | .connection ticket bindingSignature => deviceConnectionProofPayload ticket bindingSignature

/-- The fields that the code signs: those of a challenge that the rendezvous creates for some request, of a binding that
    a backend makes under its own identity, and of a proof for a ticket that the browser connects with. -/
inductive Admitted (crypto : NodeCrypto) (options : TrustStoreOptions) : Signed → Prop
  | challenge {store later : RendezvousTrustStore} {request : DeviceChallengeRequest} {issued : DeviceChallenge}
      (hcreate : createChallenge options request store = .ok issued later) :
      Admitted crypto options (.challenge issued)
  | binding {identity : BackendIdentity} {connectionId offerSdp answerSdp : JsString} {expiresAt : Int}
      {signed : BackendIdentityBinding} (hidentity : deriveBackendId crypto identity.publicKey = .ok identity.backendId)
      (hsign : signBackendIdentityBinding crypto identity connectionId offerSdp answerSdp expiresAt = .ok signed) :
      Admitted crypto options (.binding { signed with signature := [] })
  | connection {ticket : JsString} {claims : ConnectionTicketClaims} (bindingSignature : JsString)
      (hticket : decodeTicketClaims ticket = .ok claims) : Admitted crypto options (.connection ticket bindingSignature)

/-- No challenge; every binding; and a connection proof if no other cut of its two texts at a line feed leaves a ticket
    in front. -/
def Signed.CutOnce : Signed → Prop
  | .challenge _ => False
  | .binding _ => True
  | .connection ticket bindingSignature => ∀ front back, ticket ++ 0x0A :: bindingSignature = front ++ 0x0A :: back →
      front ≠ ticket → ∀ claims, decodeTicketClaims front ≠ .ok claims

/-! Lines. -/

section

variable {a b s t : JsString}

theorem cut_first (ha : 0x0A ∉ a) (hb : 0x0A ∉ b) (h : a ++ 0x0A :: s = b ++ 0x0A :: t) : a = b ∧ s = t := by
  induction a generalizing b with
  | nil =>
    cases b with
    | nil => exact ⟨rfl, (List.cons.inj h).2⟩
    | cons u b => exact absurd ((List.cons.inj h).1 ▸ List.mem_cons_self) hb
  | cons u a ih =>
    cases b with
    | nil => exact absurd ((List.cons.inj h).1 ▸ List.mem_cons_self) ha
    | cons v b =>
      obtain ⟨hfirst, hrest⟩ := List.cons.inj h
      obtain ⟨hsame, htail⟩ := ih (fun hmem => ha (List.mem_cons_of_mem _ hmem))
        (fun hmem => hb (List.mem_cons_of_mem _ hmem)) hrest
      exact ⟨hfirst ▸ hsame ▸ rfl, htail⟩

theorem cut_last (hs : 0x0A ∉ s) (ht : 0x0A ∉ t) (h : a ++ 0x0A :: s = b ++ 0x0A :: t) : a = b ∧ s = t := by
  have hreverse := congrArg List.reverse h
  simp only [List.reverse_append, List.reverse_cons, List.append_assoc, List.singleton_append] at hreverse
  obtain ⟨htail, hfront⟩ := cut_first (mt List.mem_reverse.mp hs) (mt List.mem_reverse.mp ht) hreverse
  exact ⟨List.reverse_injective hfront, List.reverse_injective htail⟩

end

theorem noFeed_encodeUrl (bytes : List UInt8) : 0x0A ∉ base64.encodeUrl bytes := by
  intro hmem
  obtain ⟨u, hu, hunit⟩ := List.mem_map.mp hmem
  obtain ⟨hlow, -, -⟩ := base64.isTextUnit_of_mem_encode bytes u (List.mem_of_mem_filter hu)
  rw [base64.urlUnit] at hunit
  split at hunit
  · exact absurd hunit (by decide)
  split at hunit
  · exact absurd hunit (by decide)
  · rw [hunit] at hlow
    exact absurd hlow (by decide)

theorem noFeed_decimal (n : Nat) : 0x0A ∉ decimal n := by
  intro hmem
  exact absurd (List.all_eq_true.mp (decimal_all_isDigit n) _ hmem) (by decide)

theorem noFeed_fingerprintHere {text fingerprint : JsString}
    (h : device_identity.fingerprintHere text = some fingerprint) : 0x0A ∉ fingerprint := by
  rw [device_identity.fingerprintHere] at h
  obtain ⟨rest, -, h⟩ := Option.bind_eq_some_iff.mp h
  obtain ⟨bits, hbits, h⟩ := Option.bind_eq_some_iff.mp h
  dsimp only at h
  split at h
  · cases h
    have hbitsFeed : 0x0A ∉ bits := by
      have hmem := List.mem_of_find?_eq_some hbits
      simp only [List.mem_cons, List.not_mem_nil, or_false] at hmem
      rcases hmem with rfl | rfl | rfl | rfl | rfl
      all_goals decide
    rw [List.mem_append, List.mem_append, List.mem_cons]
    rintro ((hlabel | hmem) | hspace | hvalue)
    · exact absurd hlabel (by decide)
    · exact hbitsFeed hmem
    · exact absurd hspace (by decide)
    · obtain ⟨u, hu, hupper⟩ := List.mem_map.mp hvalue
      have hunit := List.all_eq_true.mp List.all_takeWhile u hu
      rw [device_identity.upperFingerprintUnit] at hupper
      split at hupper
      · rename_i hlower
        have hnat := congrArg UInt16.toNat hupper
        rw [UInt16.toNat_sub_of_le _ _ (by rw [UInt16.le_iff_toNat_le]; exact Nat.le_trans (by decide) hlower.1)] at hnat
        have hlow : (0x20 : UInt16).toNat = 32 := rfl
        have hten : (0x0A : UInt16).toNat = 10 := rfl
        omega
      · rw [hupper] at hunit
        exact absurd hunit (by decide)
  · cases h

theorem noFeed_extractDtlsFingerprint {sdp fingerprint : JsString} (h : extractDtlsFingerprint sdp = .ok fingerprint) :
    0x0A ∉ fingerprint := by
  have hfind : ∀ (lineStart : Bool) (text : JsString),
      device_identity.findFingerprint lineStart text = some fingerprint → 0x0A ∉ fingerprint := by
    intro lineStart text
    induction text generalizing lineStart with
    | nil => exact fun hnone => by cases hnone
    | cons u text ih =>
      intro hsome
      rw [device_identity.findFingerprint] at hsome
      split at hsome
      · rename_i found hfound
        cases hsome
        split at hfound
        · exact noFeed_fingerprintHere hfound
        · cases hfound
      · exact ih _ hsome
  rw [extractDtlsFingerprint, device_identity.extractFingerprint] at h
  split at h
  · cases h
  · rename_i found hfound
    cases h
    exact hfind true sdp hfound

theorem noFeed_decodePublicKey {publicKey : JsString} {bytes : List UInt8}
    (h : decodePublicKey publicKey = .ok bytes) : 0x0A ∉ publicKey := by
  simp only [decodePublicKey, throw, throwThe, MonadExceptOf.throw] at h
  split at h
  · cases h
  dsimp only [bind, Except.bind, pure, Except.pure] at h
  split at h
  · cases h
  · rename_i hcanonical
    rw [not_or, not_not] at hcanonical
    rw [← hcanonical.2]
    exact noFeed_encodeUrl _

theorem noFeed_deriveBackendId {crypto : NodeCrypto} {publicKey backendId : JsString}
    (h : deriveBackendId crypto publicKey = .ok backendId) : 0x0A ∉ publicKey ∧ 0x0A ∉ backendId := by
  obtain ⟨bytes, hbytes, h⟩ := checks.bind_eq_ok.mp h
  refine ⟨noFeed_decodePublicKey hbytes, ?_⟩
  split at h
  · cases h
  · dsimp only [bind, Except.bind, pure, Except.pure, throw, throwThe, MonadExceptOf.throw] at h
    split at h
    · cases h
    · cases h
      rw [List.mem_append]
      rintro (hlabel | hdigest)
      · exact absurd hlabel (by decide)
      · exact noFeed_encodeUrl _ hdigest

/-! A property of another form with the same text. -/

/-- `null` for nothing, and a list of the one value for a value. -/
def sameText : Option Value → Option Value
  | none => some .null
  | some .null => none
  | some v => some (.arr [v])

theorem textOrEmpty_sameText (v : Option Value) : textOrEmpty (sameText v) = textOrEmpty v := by
  cases v with
  | none => rfl
  | some v => cases v <;> rfl

theorem sameText_ne (v : Option Value) : sameText v ≠ v := by
  cases v with
  | none => exact fun h => by cases h
  | some v =>
    cases v with
    | arr items =>
      intro h
      have hsize := congrArg sizeOf h
      simp only [sameText, Option.some.sizeOf_spec, Value.arr.sizeOf_spec, List.cons.sizeOf_spec,
        List.nil.sizeOf_spec] at hsize
      omega
    | _ => exact fun h => by cases h

theorem truthy_sameText {v : Option Value} (h : truthy v = true) : truthy (sameText v) = true := by
  cases v with
  | none => cases h
  | some v =>
    cases v with
    | null => cases h
    | _ => rfl

theorem validateChallengeContext_retarget {store later : RendezvousTrustStore} {request : DeviceChallengeRequest}
    {purpose : DeviceChallengePurpose} {v : Option Value}
    (hvalidate : validateChallengeContext request store = .ok purpose later)
    (htruthy : truthy request.targetDeviceId = true → truthy v = true) :
    validateChallengeContext { request with targetDeviceId := v } store = .ok purpose later := by
  unfold validateChallengeContext at hvalidate ⊢
  dsimp only at hvalidate ⊢
  cases hfind : List.find? (fun purpose : DeviceChallengePurpose => isStr purpose.text request.purpose) _ with
  | none =>
    rw [hfind] at hvalidate
    cases hvalidate
  | some found =>
    rw [hfind] at hvalidate
    dsimp only at hvalidate ⊢
    split at hvalidate
    · cases hvalidate
    rename_i hbackend
    rw [if_neg hbackend]
    split at hvalidate
    · cases hvalidate
    rename_i hconnection
    rw [if_neg hconnection]
    split at hvalidate
    · cases hvalidate
    rename_i hpair
    rw [if_neg hpair]
    dsimp only [bind, EStateM.bind, get, getThe, MonadStateOf.get, EStateM.get] at hvalidate ⊢
    split at hvalidate
    · cases hvalidate
    rename_i hinvite
    rw [if_neg hinvite]
    split at hvalidate
    · cases hvalidate
    rename_i htarget
    rw [if_neg fun hboth => htarget ⟨hboth.1, fun htrue => hboth.2 (htruthy htrue)⟩]
    exact hvalidate

/-- The target device of a challenge is free but for its truth. -/
theorem createChallenge_retarget {options : TrustStoreOptions} {store later : RendezvousTrustStore}
    {request : DeviceChallengeRequest} {issued : DeviceChallenge} {v : Option Value}
    (hcreate : createChallenge options request store = .ok issued later)
    (htruthy : truthy request.targetDeviceId = true → truthy v = true) :
    issued.targetDeviceId = request.targetDeviceId ∧
      ∃ later', createChallenge options { request with targetDeviceId := v } store =
        .ok { issued with targetDeviceId := v } later' := by
  unfold createChallenge at hcreate ⊢
  simp only [bind, EStateM.bind] at hcreate ⊢
  cases hprune : prune store with
  | error e s => 
    rw [hprune] at hcreate
    cases hcreate
  | ok u pruned =>
    rw [hprune] at hcreate
    dsimp only at hcreate ⊢
    cases hvalidate : validateChallengeContext request pruned with
    | error e s =>
      rw [hvalidate] at hcreate
      cases hcreate
    | ok purpose valid =>
      rw [hvalidate] at hcreate
      rw [validateChallengeContext_retarget hvalidate htruthy]
      dsimp only at hcreate ⊢
      have hresolve : resolveChallengeIdentity options { request with targetDeviceId := v } purpose =
        resolveChallengeIdentity options request purpose := rfl
      rw [hresolve]
      cases hidentity : resolveChallengeIdentity options request purpose valid with
      | error e s =>
        rw [hidentity] at hcreate
        cases hcreate
      | ok identity resolved =>
        rw [hidentity] at hcreate
        cases hcreate
        exact ⟨rfl, _, rfl⟩

theorem payload_retarget (issued : DeviceChallenge) {v : Option Value}
    (h : textOrEmpty v = textOrEmpty issued.targetDeviceId) :
    deviceChallengePayload { issued with targetDeviceId := v } = deviceChallengePayload issued := by
  rw [deviceChallengePayload, deviceChallengePayload, h]

/-! The kinds. -/

/-- What the first line of a payload says before the version. -/
def Signed.kind : Signed → JsString
  | .challenge _ => js "pipane-device-challenge-v"
  | .binding _ => js "pipane-backend-binding-v"
  | .connection _ _ => js "pipane-device-connection-v"

theorem payload_eq_kind (signed : Signed) :
    ∃ rest, signed.payload = (signed.kind ++ decimal TRUST_PROTOCOL_VERSION) ++ 0x0A :: rest := by
  cases signed with
  | challenge issued => exact ⟨_, rfl⟩
  | binding unsigned => exact ⟨_, rfl⟩
  | connection ticket bindingSignature => exact ⟨_, rfl⟩

theorem kind_of_payload {one other : Signed} (h : one.payload = other.payload) : one.kind = other.kind := by
  have hfeed : ∀ signed : Signed, 0x0A ∉ signed.kind ++ decimal TRUST_PROTOCOL_VERSION := by
    intro signed hmem
    rcases List.mem_append.mp hmem with hkind | hversion
    · cases signed with
      | challenge issued =>
        have hnone : 0x0A ∉ js "pipane-device-challenge-v" := by decide
        exact hnone hkind
      | binding unsigned =>
        have hnone : 0x0A ∉ js "pipane-backend-binding-v" := by decide
        exact hnone hkind
      | connection ticket bindingSignature =>
        have hnone : 0x0A ∉ js "pipane-device-connection-v" := by decide
        exact hnone hkind
    · exact noFeed_decimal _ hversion
  obtain ⟨rest, hone⟩ := payload_eq_kind one
  obtain ⟨rest', hother⟩ := payload_eq_kind other
  rw [hone, hother] at h
  exact List.append_cancel_right (cut_first (hfeed one) (hfeed other) h).1

/-! Bindings. -/

/-- A binding of which only the connection id may hold line feeds. -/
structure PlainBinding (binding : BackendIdentityBinding) : Prop where
  version : binding.version = TRUST_PROTOCOL_VERSION
  backendId : 0x0A ∉ binding.backendId
  publicKey : 0x0A ∉ binding.publicKey
  offerSha256 : 0x0A ∉ binding.offerSha256
  answerSha256 : 0x0A ∉ binding.answerSha256
  dtlsFingerprint : 0x0A ∉ binding.dtlsFingerprint
  signature : binding.signature = []

theorem PlainBinding.eq_of_payload {one other : BackendIdentityBinding} (hone : PlainBinding one)
    (hother : PlainBinding other) (h : backendIdentityBindingPayload one = backendIdentityBindingPayload other) :
    one = other := by
  have hjoin : ∀ binding : BackendIdentityBinding, backendIdentityBindingPayload binding =
      (js "pipane-backend-binding-v" ++ decimal TRUST_PROTOCOL_VERSION) ++ 0x0A :: (binding.backendId ++ 0x0A ::
        (binding.publicKey ++ 0x0A :: ((((binding.connectionId ++ 0x0A :: binding.offerSha256) ++
          0x0A :: binding.answerSha256) ++ 0x0A :: binding.dtlsFingerprint) ++ 0x0A :: decimal binding.expiresAt))) := by
    intro binding
    simp only [backendIdentityBindingPayload, joinLines, List.append_assoc, List.cons_append]
  rw [hjoin, hjoin] at h
  have hbody := (List.cons.inj (List.append_cancel_left h)).2
  obtain ⟨hbackendId, hbody⟩ := cut_first hone.backendId hother.backendId hbody
  obtain ⟨hpublicKey, hbody⟩ := cut_first hone.publicKey hother.publicKey hbody
  obtain ⟨hbody, hexpires⟩ := cut_last (noFeed_decimal _) (noFeed_decimal _) hbody
  obtain ⟨hbody, hfingerprint⟩ := cut_last hone.dtlsFingerprint hother.dtlsFingerprint hbody
  obtain ⟨hbody, hanswer⟩ := cut_last hone.answerSha256 hother.answerSha256 hbody
  obtain ⟨hconnection, hoffer⟩ := cut_last hone.offerSha256 hother.offerSha256 hbody
  have hexpiresAt : one.expiresAt = other.expiresAt := by
    rw [← digitsValue_decimal one.expiresAt, hexpires, digitsValue_decimal]
  obtain ⟨_, _, _, _, _, _, _, _, _⟩ := one
  obtain ⟨_, _, _, _, _, _, _, _, _⟩ := other
  obtain ⟨rfl, -, -, -, -, -, rfl⟩ := hone
  obtain ⟨rfl, -, -, -, -, -, rfl⟩ := hother
  cases hbackendId
  cases hpublicKey
  cases hexpiresAt
  cases hfingerprint
  cases hanswer
  cases hconnection
  cases hoffer
  rfl

theorem plainBinding_of_sign {crypto : NodeCrypto} {identity : BackendIdentity}
    {connectionId offerSdp answerSdp : JsString} {expiresAt : Int} {signed : BackendIdentityBinding}
    (hidentity : deriveBackendId crypto identity.publicKey = .ok identity.backendId)
    (hsign : signBackendIdentityBinding crypto identity connectionId offerSdp answerSdp expiresAt = .ok signed) :
    PlainBinding { signed with signature := [] } := by
  obtain ⟨fingerprint, hfingerprint, hsigned⟩ := checks.bind_eq_ok.mp hsign
  cases hsigned
  obtain ⟨hpublicKey, hbackendId⟩ := noFeed_deriveBackendId hidentity
  exact ⟨rfl, hbackendId, hpublicKey, noFeed_encodeUrl _, noFeed_encodeUrl _,
    noFeed_extractDtlsFingerprint hfingerprint, rfl⟩

theorem deviceConnectionProofPayload_inj {ticket bindingSignature ticket' bindingSignature' : JsString} :
    deviceConnectionProofPayload ticket bindingSignature = deviceConnectionProofPayload ticket' bindingSignature' ↔
      ticket ++ 0x0A :: bindingSignature = ticket' ++ 0x0A :: bindingSignature' := by
  simp only [deviceConnectionProofPayload, joinLines, List.append_cancel_left_eq, List.cons.injEq, true_and]

/-- What is signed has its payload to itself, among all that the code signs of any kind, if and only if it can be cut in
    one way. -/
theorem payload_determines_iff (crypto : NodeCrypto) (options : TrustStoreOptions) {signed : Signed}
    (hadmitted : Admitted crypto options signed) :
    (∀ other, Admitted crypto options other → other.payload = signed.payload → other = signed) ↔ signed.CutOnce := by
  cases hadmitted with
  | @challenge store later request issued hcreate =>
    refine iff_of_false (fun hdetermines => ?_) id
    have htruthy := @truthy_sameText request.targetDeviceId
    obtain ⟨htarget, later', hretarget⟩ := createChallenge_retarget hcreate htruthy
    have hsame := hdetermines _ (.challenge hretarget) (payload_retarget issued (by rw [textOrEmpty_sameText, htarget]))
    have hfield := congrArg DeviceChallenge.targetDeviceId (Signed.challenge.inj hsame)
    rw [htarget] at hfield
    exact sameText_ne _ hfield
  | binding hidentity hsign =>
    refine iff_of_true (fun other hother hpayload => ?_) trivial
    cases hother with
    | challenge hcreate =>
      have hkind : js "pipane-device-challenge-v" = js "pipane-backend-binding-v" := kind_of_payload hpayload
      exact absurd hkind (by decide)
    | connection bindingSignature hticket =>
      have hkind : js "pipane-device-connection-v" = js "pipane-backend-binding-v" := kind_of_payload hpayload
      exact absurd hkind (by decide)
    | binding hidentity' hsign' =>
      exact congrArg Signed.binding
        ((plainBinding_of_sign hidentity' hsign').eq_of_payload (plainBinding_of_sign hidentity hsign) hpayload)
  | @connection ticket claims bindingSignature hticket =>
    constructor
    · intro hdetermines front back hcut hne claims' hfront
      have hsame := hdetermines (.connection front back) (.connection back hfront)
        (deviceConnectionProofPayload_inj.mpr hcut.symm)
      exact hne (Signed.connection.inj hsame).1
    · intro hcut other hother hpayload
      cases hother with
      | challenge hcreate =>
        have hkind : js "pipane-device-challenge-v" = js "pipane-device-connection-v" := kind_of_payload hpayload
        exact absurd hkind (by decide)
      | binding hidentity hsign =>
        have hkind : js "pipane-backend-binding-v" = js "pipane-device-connection-v" := kind_of_payload hpayload
        exact absurd hkind (by decide)
      | @connection ticket' claims' bindingSignature' hticket' =>
        have htexts := deviceConnectionProofPayload_inj.mp hpayload
        by_cases hsame : ticket' = ticket
        · subst hsame
          rw [(List.cons.inj (List.append_cancel_left htexts)).2]
        · exact absurd hticket' (hcut ticket' bindingSignature' htexts.symm hsame claims')

/-- A store that knows one device. -/
def pairedStore : RendezvousTrustStore :=
  let device : StoredDevice := { deviceId := js "d_QUJD", publicKey := js "QUJD", accountId := js "a_0", createdAt := 0 }
  let store := freshStore 1
  { store with state := { store.state with devices := store.state.devices.set device.deviceId device } }

/-- A device asks for its backends, and adds ids that nobody asked for. -/
def discoverRequest (connectionId pairId : String) : DeviceChallengeRequest where
  purpose := some (.str (js "discover"))
  deviceId := some (.str (js "d_QUJD"))
  connectionId := some (.str (js connectionId))
  pairId := some (.str (js pairId))

/-- The challenge for it. -/
def discoverChallenge (connectionId pairId : String) : DeviceChallenge where
  challengeId := CHALLENGE_ID_PREFIX ++ decimal 0
  nonce := decimal 1
  purpose := .discover
  deviceId := js "d_QUJD"
  devicePublicKey := js "QUJD"
  backendId := none
  connectionId := some (.str (js connectionId))
  pairId := some (.str (js pairId))
  targetDeviceId := none
  expiresAt := 120001

theorem createChallenge_discover (connectionId pairId : String) :
    ∃ later, createChallenge plainOptions (discoverRequest connectionId pairId) pairedStore =
      .ok (discoverChallenge connectionId pairId) later :=
  ⟨_, rfl⟩

/-- A challenge shares its payload. -/
theorem payload_determines_iff_discover :
    (∀ other, Admitted plainCrypto plainOptions other →
      other.payload = (Signed.challenge (discoverChallenge "c_0" "pair_0")).payload →
        other = .challenge (discoverChallenge "c_0" "pair_0")) ↔
      (Signed.challenge (discoverChallenge "c_0" "pair_0")).CutOnce := by
  obtain ⟨later, hcreate⟩ := createChallenge_discover "c_0" "pair_0"
  exact payload_determines_iff plainCrypto plainOptions (.challenge hcreate)

/-- Two challenges with the line feed of one id in different places. -/
theorem challenge_payloads_equal :
    ¬ ∀ one other, Admitted plainCrypto plainOptions one → Admitted plainCrypto plainOptions other →
      one.payload = other.payload → one = other := by
  intro hinjective
  obtain ⟨later, hone⟩ := createChallenge_discover "c_0\nd" "pair_0"
  obtain ⟨later', hother⟩ := createChallenge_discover "c_0" "d\npair_0"
  have hpayload : deviceChallengePayload (discoverChallenge "c_0\nd" "pair_0") =
      deviceChallengePayload (discoverChallenge "c_0" "d\npair_0") := rfl
  have hsame := hinjective _ _ (.challenge hone) (.challenge hother) hpayload
  have hfield := congrArg DeviceChallenge.connectionId (Signed.challenge.inj hsame)
  have htext := Value.str.inj (Option.some.inj hfield)
  exact absurd htext (by decide)

end pipane.trust_store

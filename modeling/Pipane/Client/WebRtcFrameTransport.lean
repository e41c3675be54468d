import Pipane.Client.DeviceIdentity
import Pipane.Lib.Transition

open javascript transition pipane.device_identity pipane.trust_protocol

namespace pipane.webrtc_frame_transport

inductive ConnectionFailureCode
  | rendezvous
  | authorization
  | datachannel
deriving DecidableEq

structure Failure where
  code : ConnectionFailureCode
  message : String
deriving DecidableEq

/-- What an attempt takes from the transport and from the claims of its ticket. -/
structure Config where
  backendId : JsString
  claimsConnectionId : JsString
  claimsExpiresAt : Nat

/-- A call of `verifyBrowserBackendBinding`. -/
structure Verification where
  binding : BackendIdentityBinding
  expected : Expected

/-- A call that succeeded with the clock it read. -/
structure VerifiedBinding (crypto : SubtleCrypto) extends Verification where
  now : Nat
  succeeded : verifyBrowserBackendBinding crypto now binding expected = .ok ()

/-- The local variables of one attempt, its calls that have not settled, and two histories: the calls that
    succeeded, and the values that were current when an SDP went to `setRemoteDescription`. -/
structure Attempt (crypto : SubtleCrypto) where
  isCurrentAttempt : Bool
  failure : Option Failure
  connectionId : JsString
  offerSdp : JsString
  answerSdp : JsString
  binding : Option BackendIdentityBinding
  remoteDescriptionSet : Bool
  verifying : List Verification
  settingRemoteDescription : Nat
  verified : List (VerifiedBinding crypto)
  remoteDescriptions : List Expected

inductive SdpType
  | offer
  | answer
deriving DecidableEq

/-- What an attempt waits for. Answers and bindings come from the rendezvous server in any order and number;
    calls settle in any order. -/
inductive Event
  | connected (connectionId : JsString)
  | offerCreated (sdp : JsString)
  | description (type : SdpType) (sdp : JsString)
  | identityBinding (binding : BackendIdentityBinding)
  | verificationSettled (index now : Nat)
  | remoteDescriptionSettled (error : Option String)
  | closed

variable {crypto : SubtleCrypto}

namespace Attempt

def start : Attempt crypto where
  isCurrentAttempt := true
  failure := none
  connectionId := []
  offerSdp := []
  answerSdp := []
  binding := none
  remoteDescriptionSet := false
  verifying := []
  settingRemoteDescription := 0
  verified := []
  remoteDescriptions := []

/-- Only the first failure counts; the attempt ends later, when its diagnostics are there. -/
def fail (self : Attempt crypto) (message : String) (code : ConnectionFailureCode) : Attempt crypto :=
  if self.failure.isSome then self else { self with failure := some { code, message } }

/-- The object literal that `applyAnswer` hands to the verification. -/
def expected (config : Config) (self : Attempt crypto) : Expected where
  backendId := config.backendId
  connectionId := self.connectionId
  offerSdp := self.offerSdp
  answerSdp := self.answerSdp
  expiresAt := config.claimsExpiresAt

/-- `applyAnswer` up to its first `await`. -/
def applyAnswer (config : Config) (self : Attempt crypto) : Attempt crypto :=
  if ¬ self.isCurrentAttempt ∨ self.answerSdp = [] ∨ self.remoteDescriptionSet then self
  else
    match self.binding with
    | none => self
    | some binding =>
      { self with verifying := self.verifying ++ [{ binding, expected := self.expected config }] }

/-- `applyAnswer` after a verification: the SDP is read again. -/
def onVerified (config : Config) (self : Attempt crypto) (check : VerifiedBinding crypto) : Attempt crypto :=
  { self with
    verified := self.verified ++ [check]
    remoteDescriptions := self.remoteDescriptions ++ [self.expected config]
    settingRemoteDescription := self.settingRemoteDescription + 1 }

def onConnected (config : Config) (self : Attempt crypto) (connectionId : JsString) : Attempt crypto :=
  if self.connectionId ≠ [] then self
  else if connectionId ≠ config.claimsConnectionId then
    { self with connectionId }.fail "Rendezvous route does not match the connection ticket" .authorization
  else { self with connectionId }

def onOfferCreated (config : Config) (self : Attempt crypto) (sdp : JsString) : Attempt crypto :=
  if self.connectionId = [] ∨ self.connectionId ≠ config.claimsConnectionId ∨ self.offerSdp ≠ [] then self
  else if sdp = [] then self.fail "Browser WebRTC offer is empty" .datachannel
  else { self with offerSdp := sdp }

def onSignal (config : Config) (self : Attempt crypto) (type : SdpType) (sdp : JsString) : Attempt crypto :=
  if ¬ self.isCurrentAttempt then self
  else if type ≠ .answer then self.fail "Browser expected an SDP answer" .authorization
  else { self with answerSdp := sdp }.applyAnswer config

def onIdentityBinding (config : Config) (self : Attempt crypto) (binding : BackendIdentityBinding) : Attempt crypto :=
  if ¬ self.isCurrentAttempt then self
  else { self with binding := some binding }.applyAnswer config

def onVerificationSettled (config : Config) (self : Attempt crypto) (index now : Nat) : Attempt crypto :=
  match self.verifying[index]? with
  | none => self
  | some call =>
    let self := { self with verifying := self.verifying.eraseIdx index }
    match h : verifyBrowserBackendBinding crypto now call.binding call.expected with
    | .error message => self.fail message .authorization
    | .ok () => self.onVerified config { call with now, succeeded := h }

def onRemoteDescriptionSettled (self : Attempt crypto) (error : Option String) : Attempt crypto :=
  if self.settingRemoteDescription = 0 then self
  else
    let self := { self with settingRemoteDescription := self.settingRemoteDescription - 1 }
    match error with
    | some message => self.fail message .authorization
    | none => { self with remoteDescriptionSet := true }

end Attempt

def step (config : Config) (self : Attempt crypto) : Event → Attempt crypto
  | .connected connectionId => self.onConnected config connectionId
  | .offerCreated sdp => self.onOfferCreated config sdp
  | .description type sdp => self.onSignal config type sdp
  | .identityBinding binding => self.onIdentityBinding config binding
  | .verificationSettled index now => self.onVerificationSettled config index now
  | .remoteDescriptionSettled error => self.onRemoteDescriptionSettled error
  | .closed => { self with isCurrentAttempt := false }

/-- Each SDP that was applied had passed a verification together with the local offer, the connection id and
    the backend id. -/
def AppliesVerifiedAnswers (self : Attempt crypto) : Prop :=
  ∀ applied ∈ self.remoteDescriptions, ∃ check ∈ self.verified, check.expected = applied

instance (self : Attempt crypto) : Decidable (AppliesVerifiedAnswers self) :=
  inferInstanceAs (Decidable (∀ applied ∈ self.remoteDescriptions, ∃ check ∈ self.verified, check.expected = applied))

/-- When a verification succeeds, the values that are current are those it checked, or have passed one
    before. -/
def CurrentAnswerIsVerified (config : Config) (self : Attempt crypto) : Event → Prop
  | .verificationSettled index now =>
    ∀ call, self.verifying[index]? = some call →
      verifyBrowserBackendBinding crypto now call.binding call.expected = .ok () →
      call.expected = self.expected config ∨ ∃ check ∈ self.verified, check.expected = self.expected config
  | _ => True

@[simp] theorem fail_remoteDescriptions (self : Attempt crypto) (message : String) (code : ConnectionFailureCode) :
    (self.fail message code).remoteDescriptions = self.remoteDescriptions := by
  rw [Attempt.fail]
  split <;> rfl

@[simp] theorem fail_verified (self : Attempt crypto) (message : String) (code : ConnectionFailureCode) :
    (self.fail message code).verified = self.verified := by
  rw [Attempt.fail]
  split <;> rfl

@[simp] theorem applyAnswer_remoteDescriptions (config : Config) (self : Attempt crypto) :
    (self.applyAnswer config).remoteDescriptions = self.remoteDescriptions := by
  rw [Attempt.applyAnswer]
  split
  · rfl
  · split <;> rfl

@[simp] theorem applyAnswer_verified (config : Config) (self : Attempt crypto) :
    (self.applyAnswer config).verified = self.verified := by
  rw [Attempt.applyAnswer]
  split
  · rfl
  · split <;> rfl

theorem step_histories (config : Config) (self : Attempt crypto) {event : Event}
    (h : ∀ index now, event ≠ .verificationSettled index now) :
    (step config self event).remoteDescriptions = self.remoteDescriptions ∧
      (step config self event).verified = self.verified := by
  cases event with
  | connected connectionId =>
    simp only [step, Attempt.onConnected]
    split
    · exact ⟨rfl, rfl⟩
    · split
      · simp
      · exact ⟨rfl, rfl⟩
  | offerCreated sdp =>
    simp only [step, Attempt.onOfferCreated]
    split
    · exact ⟨rfl, rfl⟩
    · split
      · simp
      · exact ⟨rfl, rfl⟩
  | description type sdp =>
    simp only [step, Attempt.onSignal]
    split
    · exact ⟨rfl, rfl⟩
    · split <;> simp
  | identityBinding binding =>
    simp only [step, Attempt.onIdentityBinding]
    split
    · exact ⟨rfl, rfl⟩
    · simp
  | verificationSettled index now => exact absurd rfl (h index now)
  | remoteDescriptionSettled error =>
    simp only [step, Attempt.onRemoteDescriptionSettled]
    split
    · exact ⟨rfl, rfl⟩
    · cases error <;> simp
  | closed => exact ⟨rfl, rfl⟩

theorem onVerificationSettled_cases (config : Config) (self : Attempt crypto) (index now : Nat) :
    ((step config self (.verificationSettled index now)).remoteDescriptions = self.remoteDescriptions ∧
      (step config self (.verificationSettled index now)).verified = self.verified ∧
      ∀ call, self.verifying[index]? = some call →
        verifyBrowserBackendBinding crypto now call.binding call.expected ≠ .ok ()) ∨
    ∃ check : VerifiedBinding crypto, self.verifying[index]? = some check.toVerification ∧ check.now = now ∧
      (step config self (.verificationSettled index now)).verified = self.verified ++ [check] ∧
      (step config self (.verificationSettled index now)).remoteDescriptions =
        self.remoteDescriptions ++ [self.expected config] := by
  simp only [step, Attempt.onVerificationSettled]
  cases hcall : self.verifying[index]? with
  | none => exact .inl ⟨rfl, rfl, fun _ h => by cases h⟩
  | some call =>
    simp only
    split
    · rename_i message herror
      refine .inl ⟨by simp, by simp, ?_⟩
      intro other hother hok
      cases hother
      rw [herror] at hok
      cases hok
    · rename_i hok
      exact .inr ⟨{ call with now, succeeded := hok }, rfl, rfl, rfl, rfl⟩

/-- A step keeps the property exactly when the answer it applies is verified. -/
theorem appliesVerifiedAnswers_step {config : Config} (self : Attempt crypto) (event : Event)
    (h : AppliesVerifiedAnswers self) :
    AppliesVerifiedAnswers (step config self event) ↔ CurrentAnswerIsVerified config self event := by
  have hother (hevent : ∀ index now, event ≠ .verificationSettled index now) :
      AppliesVerifiedAnswers (step config self event) := by
    obtain ⟨hremote, hverified⟩ := step_histories config self hevent
    rw [AppliesVerifiedAnswers, hremote, hverified]
    exact h
  cases event with
  | verificationSettled index now =>
    obtain ⟨hremote, hverified, hfails⟩ | ⟨check, hcall, rfl, hverified, hremote⟩ :=
      onVerificationSettled_cases config self index now
    · rw [AppliesVerifiedAnswers, hremote, hverified]
      exact iff_of_true h fun call hcall hok => absurd hok (hfails call hcall)
    · rw [AppliesVerifiedAnswers, hremote, hverified]
      constructor
      · intro hall call hsome _
        rw [hcall] at hsome
        cases hsome
        obtain ⟨passed, hpassed, hsame⟩ := hall (self.expected config) (by simp)
        rcases List.mem_append.mp hpassed with hbefore | hnow
        · exact .inr ⟨passed, hbefore, hsame⟩
        · rw [List.mem_singleton.mp hnow] at hsame
          exact .inl hsame
      · intro hcurrent applied happlied
        rcases List.mem_append.mp happlied with hbefore | hnow
        · obtain ⟨passed, hpassed, hsame⟩ := h applied hbefore
          exact ⟨passed, List.mem_append_left _ hpassed, hsame⟩
        · rw [List.mem_singleton.mp hnow]
          obtain hsame | ⟨passed, hpassed, hsame⟩ := hcurrent _ hcall check.succeeded
          · exact ⟨check, by simp, hsame⟩
          · exact ⟨passed, List.mem_append_left _ hpassed, hsame⟩
  | connected connectionId => exact iff_of_true (hother (by simp)) trivial
  | offerCreated sdp => exact iff_of_true (hother (by simp)) trivial
  | description type sdp => exact iff_of_true (hother (by simp)) trivial
  | identityBinding binding => exact iff_of_true (hother (by simp)) trivial
  | remoteDescriptionSettled error => exact iff_of_true (hother (by simp)) trivial
  | closed => exact iff_of_true (hother (by simp)) trivial

/-- A run applies only verified answers exactly when each verification that succeeds finds current what it
    checked, or what had passed before. -/
theorem applies_verified_answers_iff (crypto : SubtleCrypto) (config : Config) (events : List Event) :
    Always (step config) (@Attempt.start crypto) AppliesVerifiedAnswers events ↔
      EveryStep (step config) (@Attempt.start crypto) (CurrentAnswerIsVerified config) events :=
  always_iff_everyStep (fun _ h => absurd h List.not_mem_nil) appliesVerifiedAnswers_step events

/-- An instance for fixed runs: a text is its own hash, a payload its own signature. -/
def transparentCrypto : SubtleCrypto where
  CryptoKey := List UInt8
  digest bytes := bytes
  importKey bytes := some bytes
  verify _ signature data := signature == data

/-- What a backend signs for an answer. -/
def signedBinding (offerSdp answerSdp fingerprint : JsString) : BackendIdentityBinding :=
  let unsigned : BackendIdentityBinding :=
    { version := 1
      backendId := js "b_AAAA"
      publicKey := js "AAAA"
      connectionId := js "c"
      offerSha256 := sha256 transparentCrypto offerSdp
      answerSha256 := sha256 transparentCrypto answerSdp
      dtlsFingerprint := fingerprint
      expiresAt := 9
      signature := [] }
  { unsigned with signature := encodeBase64Url (textEncode (backendIdentityBindingPayload unsigned)) }

/-- The rendezvous server replaces the answer of the backend while the browser verifies it. -/
def replacedAnswer : List Event :=
  [.connected (js "c"), .offerCreated (js "o"), .description .answer (js "a=fingerprint:sha-256 AA"),
    .identityBinding (signedBinding (js "o") (js "a=fingerprint:sha-256 AA") (js "sha-256 AA")),
    .description .answer (js "a=fingerprint:sha-256 BB"), .verificationSettled 0 5]

theorem not_always_applies_replacedAnswer :
    ¬ Always (step ⟨js "b_AAAA", js "c", 9⟩) (@Attempt.start transparentCrypto) AppliesVerifiedAnswers
      replacedAnswer := by
  intro halways
  have hlast := halways.last
  revert hlast
  decide +kernel

end pipane.webrtc_frame_transport

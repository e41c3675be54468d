import Pipane.Client.WebRtcFrameTransport.Lifecycle
import Pipane.Lib.Json.RoundTrip
import Pipane.Lib.ListLookup

open javascript json transition pipane.data_channel_framing pipane.frame_transport pipane.trust_protocol

namespace pipane.webrtc_frame_transport

namespace WebRtcFrameTransport

/-- Not connected, and no event and no frame since an earlier state. -/
structure SilentSince (closed now : WebRtcFrameTransport) : Prop where
  disconnected : now.isConnected = false
  emitted : now.emitted = closed.emitted
  delivered : now.delivered = closed.delivered

variable {options : TransportOptions} {self : WebRtcFrameTransport}

theorem getElem?_update (self : WebRtcFrameTransport) (establishment other : Nat)
    (f : Establishment → Establishment) : (self.update establishment f).establishments[other]? =
      (self.establishments[other]?).map fun call => if establishment = other then f call else call := by
  unfold update
  rw [List.getElem?_modify]
  rfl

theorem mem_update {establishment : Nat} {f : Establishment → Establishment} {call : Establishment}
    (h : call ∈ (self.update establishment f).establishments) :
    call ∈ self.establishments ∨ ∃ before ∈ self.establishments, call = f before := by
  obtain ⟨other, hget⟩ := List.getElem?_of_mem h
  rw [getElem?_update] at hget
  obtain ⟨before, hbefore, rfl⟩ := Option.map_eq_some_iff.mp hget
  by_cases hsame : establishment = other
  · exact .inr ⟨before, List.mem_of_getElem? hbefore, if_pos hsame⟩
  · rw [if_neg hsame]
    exact .inl (List.mem_of_getElem? hbefore)

/-- A closed transport on which nothing can start again: it holds no channel, no timer runs and no call waits for
    its authorization. -/
structure Fenced (transport : WebRtcFrameTransport) : Prop where
  current : transport.current = none
  connected : transport.connected = false
  manuallyClosed : transport.manuallyClosed = true
  reconnectTimer : transport.reconnectTimer = false
  authorized : ∀ call ∈ transport.establishments, ¬ call.Authorizing

theorem Fenced.isConnected (h : Fenced self) : self.isConnected = false := by
  rw [WebRtcFrameTransport.isConnected, h.connected, Bool.false_and]

theorem Fenced.update (h : Fenced self) (establishment : Nat) {f : Establishment → Establishment}
    (hf : ∀ call, ¬ call.Authorizing → ¬ (f call).Authorizing) : Fenced (self.update establishment f) := by
  refine ⟨h.current, h.connected, h.manuallyClosed, h.reconnectTimer, ?_⟩
  intro call hcall
  obtain hbefore | ⟨before, hbefore, rfl⟩ := mem_update hcall
  · exact h.authorized call hbefore
  · exact hf before (h.authorized before hbefore)

/-- A closed transport that stays so, without an event or a frame. -/
structure Stays (before after : WebRtcFrameTransport) : Prop where
  fenced : Fenced after
  emitted : after.emitted = before.emitted
  delivered : after.delivered = before.delivered

theorem Fenced.stays (h : Fenced self) : Stays self self :=
  ⟨h, rfl, rfl⟩

theorem Fenced.stays_update (h : Fenced self) (establishment : Nat) {f : Establishment → Establishment}
    (hf : ∀ call, ¬ call.Authorizing → ¬ (f call).Authorizing) : Stays self (self.update establishment f) :=
  ⟨h.update establishment hf, rfl, rfl⟩

theorem not_authorizing_settle (call : Establishment) (result : Except JsString Unit) :
    ¬ (call.settle result).Authorizing := by
  rintro ⟨-, -, houtcome⟩
  unfold Establishment.settle at houtcome
  cases hbefore : call.outcome <;> simp [hbefore] at houtcome

theorem Fenced.stays_fail (h : Fenced self) (establishment : Nat) (message : JsString) :
    Stays self (self.fail establishment message) := by
  unfold fail
  split
  · exact h.stays
  · split
    · exact h.stays
    · rw [if_pos]
      · exact h.stays_update establishment fun call _ => not_authorizing_settle _ _
      · rw [h.current]
        exact Option.some_ne_none establishment |>.symm

theorem Fenced.stays_onBroken (h : Fenced self) (establishment : Nat) (message : JsString) :
    Stays self (self.onBroken establishment message) := by
  unfold onBroken
  split
  · exact h.stays
  · rw [if_pos]
    · exact h.stays
    · rw [h.current]
      exact Option.some_ne_none establishment |>.symm

theorem Fenced.closeInternal (h : Fenced self) : Stays self self.closeInternal := by
  unfold WebRtcFrameTransport.closeInternal closeChannel
  rw [h.current, h.connected]
  exact ⟨⟨rfl, rfl, h.manuallyClosed, h.reconnectTimer, h.authorized⟩, rfl, rfl⟩

theorem Fenced.stays_onConnectSettled (h : Fenced self) (establishment : Nat) :
    Stays self (self.onConnectSettled establishment) := by
  unfold onConnectSettled
  split
  · exact h.stays
  · split
    · exact h.stays
    · rename_i call _ result _
      have hupdated : Fenced { self.update establishment fun call => { call with reconnects := false } with
          connecting := if self.connecting = some establishment then none else self.connecting } := by
        have hsame := h.update establishment (f := fun call => { call with reconnects := false }) fun _ hcall => hcall
        exact ⟨hsame.current, hsame.connected, hsame.manuallyClosed, hsame.reconnectTimer, hsame.authorized⟩
      cases result with
      | ok _ => exact ⟨hupdated, rfl, rfl⟩
      | error message =>
        dsimp only
        split
        · unfold scheduleReconnect
          rw [if_pos (.inl hupdated.manuallyClosed)]
          exact ⟨hupdated, rfl, rfl⟩
        · exact ⟨hupdated, rfl, rfl⟩

/-- Only `connect` ends the silence of a fenced transport. -/
theorem Fenced.stays_step (h : Fenced self) {event : TransportEvent} (hconnect : event ≠ .connect) :
    Stays self (self.step options event) := by
  have hnone : ∀ establishment, self.current ≠ some establishment := by
    intro establishment hcurrent
    rw [h.current] at hcurrent
    cases hcurrent
  cases event with
  | connect => exact absurd rfl hconnect
  | close =>
    have hclosing : Fenced { self with manuallyClosed := true, reconnectTimer := false } :=
      ⟨h.current, h.connected, rfl, rfl, h.authorized⟩
    obtain ⟨hfenced, hemitted, hdelivered⟩ := hclosing.closeInternal
    exact ⟨hfenced, hemitted, hdelivered⟩
  | reconnectTimer =>
    simp only [step, onReconnectTimer, h.reconnectTimer, Bool.false_eq_true, not_false_eq_true, if_true]
    exact h.stays
  | authorizeSettled establishment result =>
    simp only [step, onAuthorizeSettled]
    split
    · exact h.stays
    · rename_i call hget
      rw [if_pos (h.authorized call (List.mem_of_getElem? hget))]
      exact h.stays
  | rendezvousConnected establishment connectionId =>
    simp only [step, onRendezvousConnected]
    split
    · exact h.stays
    · split
      · exact h.stays_fail _ _
      · exact h.stays
  | channelOpened establishment =>
    refine h.stays_update establishment fun call hcall => ?_
    split <;> exact hcall
  | message establishment data listenerThrew =>
    simp only [step, onmessage]
    split
    · exact h.stays
    · rw [if_pos (hnone establishment)]
      exact h.stays
  | failed establishment message => exact h.stays_fail establishment message
  | broken establishment message => exact h.stays_onBroken establishment message
  | channelClosed establishment =>
    obtain ⟨hupdated, -, -⟩ := h.stays_update establishment
      (f := fun call => { call with channelState := .closed }) fun _ hcall => hcall
    obtain ⟨hfenced, hemitted, hdelivered⟩ := hupdated.stays_onBroken establishment
      (js "WebRTC DataChannel closed before authentication")
    exact ⟨hfenced, hemitted, hdelivered⟩
  | diagnosticsCollected establishment =>
    simp only [step, onDiagnosticsCollected]
    split
    · exact h.stays
    · rw [if_neg (hnone establishment)]
      exact h.stays_update establishment fun call _ => not_authorizing_settle _ _
  | connectSettled establishment => exact h.stays_onConnectSettled establishment
  | sendFailed =>
    simp only [step, onSendFailed, h.isConnected, Bool.false_eq_true, if_false]
    exact h.stays

/-- The transport holds the channel of an authorized call, and only an authorized call is authenticated. -/
structure Adopted (transport : WebRtcFrameTransport) : Prop where
  current : ∀ {establishment : Nat}, transport.current = some establishment →
    ∃ call : Establishment, transport.establishments[establishment]? = some call ∧ call.claims ≠ none
  authenticated : ∀ call ∈ transport.establishments, call.authenticated = true → call.claims ≠ none

theorem Adopted.updated (h : Adopted self) (establishment : Nat) {f : Establishment → Establishment}
    (hclaims : ∀ call, call.claims ≠ none → (f call).claims ≠ none)
    (hauthenticated : ∀ call, self.establishments[establishment]? = some call → (f call).authenticated = true →
      (f call).claims ≠ none) : Adopted (self.update establishment f) := by
  constructor
  · intro current hcurrent
    obtain ⟨call, hget, hsome⟩ := h.current hcurrent
    refine ⟨_, (getElem?_update self establishment current f).trans (congrArg _ hget), ?_⟩
    split
    · exact hclaims call hsome
    · exact hsome
  · intro call hcall hauthentic
    obtain ⟨other, hget⟩ := List.getElem?_of_mem hcall
    rw [getElem?_update] at hget
    obtain ⟨before, hbefore, rfl⟩ := Option.map_eq_some_iff.mp hget
    by_cases hsame : establishment = other
    · subst hsame
      rw [if_pos rfl] at hauthentic ⊢
      exact hauthenticated before hbefore hauthentic
    · rw [if_neg hsame] at hauthentic ⊢
      exact h.authenticated before (List.mem_of_getElem? hbefore) hauthentic

theorem Adopted.kept (h : Adopted self) (establishment : Nat) {f : Establishment → Establishment}
    (hclaims : ∀ call, (f call).claims = call.claims)
    (hauthenticated : ∀ call, (f call).authenticated = call.authenticated) :
    Adopted (self.update establishment f) := by
  refine h.updated establishment ?_ ?_
  · intro call hsome
    rw [hclaims]
    exact hsome
  · intro call hget hauthentic
    rw [hauthenticated] at hauthentic
    rw [hclaims]
    exact h.authenticated call (List.mem_of_getElem? hget) hauthentic

theorem Adopted.of_same {next : WebRtcFrameTransport} (h : Adopted self)
    (hestablishments : next.establishments = self.establishments) (hcurrent : next.current = self.current) :
    Adopted next := by
  cases self
  cases next
  subst hestablishments hcurrent
  exact ⟨h.current, h.authenticated⟩

theorem Adopted.closeChannel (h : Adopted self) : Adopted self.closeChannel := by
  unfold WebRtcFrameTransport.closeChannel
  split
  · exact h
  · refine h.kept _ ?_ ?_ <;> intro call <;> split <;> rfl

theorem Adopted.closeInternal (h : Adopted self) : Adopted self.closeInternal := by
  have hdropped : Adopted { self.closeChannel with connected := false, current := none, decoder := .fresh } := by
    refine ⟨?_, h.closeChannel.authenticated⟩
    intro establishment hcurrent
    cases hcurrent
  unfold WebRtcFrameTransport.closeInternal
  dsimp only
  split
  · exact hdropped.of_same rfl rfl
  · exact hdropped

theorem Adopted.scheduleReconnect (h : Adopted self) : Adopted self.scheduleReconnect := by
  unfold WebRtcFrameTransport.scheduleReconnect
  split
  · exact h
  · exact h.of_same rfl rfl

theorem Adopted.handleDisconnected (h : Adopted self) : Adopted self.handleDisconnected := by
  unfold WebRtcFrameTransport.handleDisconnected
  split
  · exact h
  · exact h.closeInternal.scheduleReconnect

theorem Adopted.fail (h : Adopted self) (establishment : Nat) (message : JsString) :
    Adopted (self.fail establishment message) := by
  unfold WebRtcFrameTransport.fail
  split
  · exact h
  · split
    · exact h
    · split
      · exact h.kept establishment (fun _ => rfl) fun _ => rfl
      · exact h.kept establishment (fun _ => rfl) fun _ => rfl

theorem Adopted.connect (h : Adopted self) : Adopted self.connect := by
  unfold WebRtcFrameTransport.connect
  split
  · exact h
  · constructor
    · intro establishment hcurrent
      obtain ⟨call, hget, hsome⟩ := h.current hcurrent
      exact ⟨call, List.getElem?_concat_of_some hget _, hsome⟩
    · intro call hcall hauthentic
      obtain hcall | hcall := List.mem_append.mp hcall
      · exact h.authenticated call hcall hauthentic
      · rw [List.mem_singleton.mp hcall] at hauthentic
        cases hauthentic

theorem Adopted.onBroken (h : Adopted self) (establishment : Nat) (message : JsString) :
    Adopted (self.onBroken establishment message) := by
  unfold WebRtcFrameTransport.onBroken
  split
  · exact h
  · split
    · exact h
    · split
      · exact h.fail _ _
      · exact h.handleDisconnected

theorem Adopted.onReconnectTimer (h : Adopted self) : Adopted self.onReconnectTimer := by
  have htimed : Adopted { self with reconnectTimer := false } := h.of_same rfl rfl
  unfold WebRtcFrameTransport.onReconnectTimer
  split
  · exact h
  · dsimp only
    split
    · exact htimed
    · split
      · exact htimed.connect
      · exact htimed.connect.kept _ (fun _ => rfl) fun _ => rfl

theorem Adopted.onAuthorizeSettled (h : Adopted self) (establishment : Nat)
    (result : Except JsString Authorization) : Adopted (self.onAuthorizeSettled options establishment result) := by
  unfold WebRtcFrameTransport.onAuthorizeSettled
  split
  · exact h
  · rename_i call hget
    split
    · exact h
    · split
      · exact h.kept _ (fun _ => rfl) fun _ => rfl
      · split
        · exact h.kept _ (fun _ => rfl) fun _ => rfl
        · split
          · exact h.kept _ (fun _ => rfl) fun _ => rfl
          · split
            · exact h.kept _ (fun _ => rfl) fun _ => rfl
            · rename_i claims _ _ _ _
              have hupdated := h.updated establishment (f := fun call => { call with claims := some claims })
                (fun _ _ => Option.some_ne_none claims) fun _ _ _ => Option.some_ne_none claims
              refine ⟨?_, hupdated.authenticated⟩
              intro current hcurrent
              cases hcurrent
              refine ⟨{ call with claims := some claims }, ?_, Option.some_ne_none claims⟩
              refine (getElem?_update self establishment establishment _).trans ?_
              rw [hget, Option.map_some, if_pos rfl]

theorem Adopted.onmessage (h : Adopted self) (establishment : Nat) (data : JsString) (listenerThrew : Bool) :
    Adopted (self.onmessage options establishment data listenerThrew) := by
  unfold WebRtcFrameTransport.onmessage
  split
  · exact h
  · split
    · exact h
    · rename_i hcurrent
      rw [ne_eq, not_not] at hcurrent
      split
      · split
        · exact h.fail _ _
        · have hupdated := h.updated establishment
            (f := fun call => { call with authenticated := true, settled := true }.settle (.ok ()))
            (fun _ hsome => hsome) (by
              intro call hget _
              obtain ⟨owner, howner, hsome⟩ := h.current hcurrent
              rw [hget] at howner
              cases howner
              exact hsome)
          exact hupdated.of_same rfl rfl
      · dsimp only
        have hdecoded : Adopted { self with decoder := (self.decoder.accept data).1 } := h.of_same rfl rfl
        split
        · exact hdecoded.handleDisconnected
        · exact hdecoded
        · rename_i frame _
          have hheard : Adopted { self with
              decoder := (self.decoder.accept data).1, delivered := self.delivered ++ [frame] } :=
            h.of_same rfl rfl
          split
          · exact hheard.handleDisconnected
          · exact hheard

theorem Adopted.step (h : Adopted self) (event : TransportEvent) : Adopted (self.step options event) := by
  cases event with
  | connect => exact h.connect
  | close =>
    have hclosing : Adopted { self with manuallyClosed := true, reconnectTimer := false } := h.of_same rfl rfl
    exact hclosing.closeInternal
  | reconnectTimer => exact h.onReconnectTimer
  | authorizeSettled establishment result => exact h.onAuthorizeSettled establishment result
  | rendezvousConnected establishment connectionId =>
    simp only [WebRtcFrameTransport.step, onRendezvousConnected]
    split
    · exact h
    · split
      · exact h.fail _ _
      · exact h
  | channelOpened establishment =>
    refine h.kept establishment ?_ ?_ <;> intro call <;> split <;> rfl
  | message establishment data listenerThrew => exact h.onmessage establishment data listenerThrew
  | failed establishment message => exact h.fail establishment message
  | broken establishment message => exact h.onBroken establishment message
  | channelClosed establishment =>
    exact (h.kept establishment (f := fun call => { call with channelState := .closed }) (fun _ => rfl)
      fun _ => rfl).onBroken _ _
  | diagnosticsCollected establishment =>
    simp only [WebRtcFrameTransport.step, onDiagnosticsCollected]
    split
    · exact h
    · split
      · exact h.closeInternal.kept _ (fun _ => rfl) fun _ => rfl
      · exact h.kept _ (fun _ => rfl) fun _ => rfl
  | connectSettled establishment =>
    simp only [WebRtcFrameTransport.step, onConnectSettled]
    split
    · exact h
    · split
      · exact h
      · have hreacted : Adopted { self.update establishment fun call => { call with reconnects := false } with
            connecting := if self.connecting = some establishment then none else self.connecting } :=
          (h.kept establishment (f := fun call => { call with reconnects := false }) (fun _ => rfl)
            fun _ => rfl).of_same rfl rfl
        split
        · exact hreacted
        · split
          · exact hreacted.scheduleReconnect
          · exact hreacted
  | sendFailed =>
    simp only [WebRtcFrameTransport.step, onSendFailed]
    split
    · exact h.handleDisconnected
    · exact h

theorem adopted_run (options : TransportOptions) (events : List TransportEvent) :
    Adopted (run (WebRtcFrameTransport.step options) fresh events) := by
  refine (always_of_step ?_ (fun _ event h => h.step event) events).last
  constructor
  · intro establishment hcurrent
    cases hcurrent
  · intro call hcall
    cases hcall

theorem close_eq (self : WebRtcFrameTransport) : self.close.current = none ∧ self.close.connected = false ∧
    self.close.manuallyClosed = true ∧ self.close.reconnectTimer = false ∧
    self.close.establishments = self.closeChannel.establishments := by
  unfold close closeInternal closeChannel
  cases hconnected : self.connected <;> cases hcurrent : self.current <;> exact ⟨rfl, rfl, rfl, rfl, rfl⟩

theorem fenced_close (h : ∀ call ∈ self.establishments, ¬ call.Authorizing) : Fenced self.close := by
  obtain ⟨hcurrent, hconnected, hclosed, htimer, hestablishments⟩ := close_eq self
  refine ⟨hcurrent, hconnected, hclosed, htimer, ?_⟩
  rw [hestablishments]
  unfold closeChannel
  split
  · exact h
  · intro call hcall
    obtain hbefore | ⟨before, hbefore, rfl⟩ := mem_update hcall
    · exact h call hbefore
    · have hauthorizing := h before hbefore
      split <;> exact hauthorizing

theorem getElem?_close_of_authorizing (h : Adopted self) {establishment : Nat} {call : Establishment}
    (hget : self.establishments[establishment]? = some call) (hauthorizing : call.Authorizing) :
    self.close.establishments[establishment]? = some call := by
  rw [(close_eq self).2.2.2.2]
  unfold closeChannel
  split
  · exact hget
  · rename_i current hcurrent
    rw [getElem?_update, hget, Option.map_some, if_neg]
    rintro rfl
    obtain ⟨owner, howner, hsome⟩ := h.current hcurrent
    rw [hget] at howner
    cases howner
    exact hsome hauthorizing.1

/-- The frame with which a backend accepts the device. -/
def authenticatedFrame (options : TransportOptions) : JsString :=
  stringify (.obj [(js "protocolVersion", .num (.int TRUST_PROTOCOL_VERSION)), (js "type", .str (js "authenticated")),
    (js "deviceId", .str options.deviceId)])

theorem checkAuthenticated_authenticatedFrame (options : TransportOptions) :
    checkAuthenticated options (authenticatedFrame options) = .ok () := by
  unfold checkAuthenticated authenticatedFrame
  rw [parse_stringify]
  · have hbefore : (js "deviceId" == js "protocolVersion") = false ∧
        (js "deviceId" == js "type") = false := by
      decide
    have htype : (js "type" == js "protocolVersion") = false := by decide
    simp [Value.get?, List.lookup_cons, hbefore, htype, isStr, Value.isStr, Value.isInt]
  · refine ⟨?_, trivial, trivial, trivial, trivial⟩
    simp only [List.map_cons, List.map_nil]
    decide

/-- How a call that was waiting for its authorization can connect. -/
def resumption (claims : ConnectionTicketClaims) (establishment : Nat) (frame : JsString) : List TransportEvent :=
  [.authorizeSettled establishment (.ok { claims := .ok claims, created := .ok () }), .channelOpened establishment,
    .message establishment frame false]

/-- The claims of a ticket for this device and backend. -/
def ownClaims (options : TransportOptions) : ConnectionTicketClaims where
  kind := .connection
  ticketId := []
  backendId := options.backendId
  connectionId := []
  deviceId := options.deviceId
  devicePublicKey := []
  accountId := none
  pairId := none
  issuedAt := 0
  expiresAt := 0

theorem getElem?_onChannelOpened {establishment : Nat} {call : Establishment}
    (hget : self.establishments[establishment]? = some call) :
    ∃ opened : Establishment, (self.onChannelOpened establishment).establishments[establishment]? = some opened ∧
      opened.authenticated = call.authenticated := by
  refine ⟨if call.channelState = .connecting then { call with channelState := .open } else call, ?_, ?_⟩
  · refine (getElem?_update self establishment establishment _).trans ?_
    rw [hget, Option.map_some, if_pos rfl]
  · split <;> rfl

/-- The three events of a resumption take the call to a connected transport. -/
theorem emitted_resumption (h : Adopted self) {establishment : Nat} {call : Establishment} {frame : JsString}
    (hget : self.establishments[establishment]? = some call) (hauthorizing : call.Authorizing)
    (hframe : checkAuthenticated options frame = .ok ()) :
    (run (step options) self (resumption (ownClaims options) establishment frame)).emitted =
      self.emitted ++ [{ connected := true, reconnected := self.everConnected }] := by
  have hauthenticated : call.authenticated = false := by
    rw [Bool.eq_false_iff]
    exact fun hauthentic => h.authenticated call (List.mem_of_getElem? hget) hauthentic hauthorizing.1
  have hadopted : self.step options (.authorizeSettled establishment
      (.ok { claims := .ok (ownClaims options), created := .ok () })) =
        { self.update establishment fun call => { call with claims := some (ownClaims options) } with
          current := some establishment } := by
    simp only [step, onAuthorizeSettled, hget]
    rw [if_neg (not_not_intro hauthorizing), if_neg]
    simp [ownClaims]
  have hclaimed : ({ self.update establishment fun call => { call with claims := some (ownClaims options) } with
      current := some establishment } : WebRtcFrameTransport).establishments[establishment]? =
        some { call with claims := some (ownClaims options) } := by
    refine (getElem?_update self establishment establishment _).trans ?_
    rw [hget, Option.map_some, if_pos rfl]
  obtain ⟨opened, hopened, hsame⟩ := getElem?_onChannelOpened hclaimed
  have hunauthenticated : opened.authenticated = false := hsame.trans hauthenticated
  have hanswered (before : WebRtcFrameTransport) (hcurrent : before.current = some establishment)
      (hbefore : before.establishments[establishment]? = some opened) :
      (before.onmessage options establishment frame false).emitted =
        before.emitted ++ [{ connected := true, reconnected := before.everConnected }] := by
    unfold onmessage
    rw [hbefore]
    simp [hcurrent, hunauthenticated, hframe, emitConnectionChange, update]
  have hrun : run (step options) self (resumption (ownClaims options) establishment frame) =
      ((({ self.update establishment fun call => { call with claims := some (ownClaims options) } with
        current := some establishment } : WebRtcFrameTransport).onChannelOpened establishment).onmessage options
          establishment frame false) :=
    congrArg (fun state : WebRtcFrameTransport => (state.onChannelOpened establishment).onmessage options
      establishment frame false) hadopted
  rw [hrun]
  exact hanswered _ rfl hopened

/-- After `close`, and until a later `connect`, the transport neither connects nor emits nor delivers, whatever
    happens to the calls that were pending, if and only if no call was waiting for its authorization when it was
    closed. -/
theorem close_is_final (options : TransportOptions) (before : List TransportEvent) :
    (∀ after : List TransportEvent, (∀ event ∈ after, event ≠ .connect) →
      Always (step options) (run (step options) fresh (before ++ [.close]))
        (SilentSince (run (step options) fresh (before ++ [.close]))) after) ↔
      ∀ call ∈ (run (step options) fresh before).establishments, ¬ call.Authorizing := by
  rw [run_snoc]
  constructor
  · intro h call hmem hauthorizing
    obtain ⟨establishment, hget⟩ := List.getElem?_of_mem hmem
    have hadopted := adopted_run options before
    have hclosed := getElem?_close_of_authorizing hadopted hget hauthorizing
    have hsilent := (h (resumption (ownClaims options) establishment (authenticatedFrame options))
      (by simp [resumption])).last.emitted
    have hstopped : Adopted (step options (run (step options) fresh before) .close) := hadopted.step .close
    have hemitted := emitted_resumption hstopped hclosed hauthorizing (checkAuthenticated_authenticatedFrame options)
    rw [hemitted] at hsilent
    simp at hsilent
  · intro h after hafter
    have hfenced := fenced_close h
    have hstep : ∀ (state : WebRtcFrameTransport) (event : TransportEvent),
        Stays (run (step options) fresh before).close state → event ≠ .connect →
          Stays (run (step options) fresh before).close (state.step options event) := by
      intro state event hstays hconnect
      obtain ⟨hnext, hemitted, hdelivered⟩ : Stays state (state.step options event) :=
        hstays.fenced.stays_step hconnect
      exact ⟨hnext, hemitted.trans hstays.emitted, hdelivered.trans hstays.delivered⟩
    have halways := always_of_everyStep hfenced.stays hstep (everyStep_of_forall fun event hmem _ => hafter event hmem)
    intro passed hpassed
    obtain ⟨hnow, hemitted, hdelivered⟩ := halways passed hpassed
    exact ⟨hnow.isConnected, hemitted, hdelivered⟩

def laptop : TransportOptions where
  backendId := js "backend-1"
  deviceId := js "laptop"

/-- A close while the authorization is pending: the transport connects after it. -/
theorem closed_transport_connects :
    (run (step laptop) fresh ([.connect] ++ [.close] ++
      resumption (ownClaims laptop) 0 (authenticatedFrame laptop))).emitted =
        [{ connected := true, reconnected := false }] ∧
      (run (step laptop) fresh ([.connect] ++ [.close] ++
        resumption (ownClaims laptop) 0 (authenticatedFrame laptop))).isConnected = true := by
  decide +kernel

end WebRtcFrameTransport

end pipane.webrtc_frame_transport

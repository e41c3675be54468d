import Pipane.Client.WebSocketFrameTransport
import Pipane.Lib.ListLookup
import Mathlib.Data.List.Chain

open javascript transition pipane.data_channel_framing pipane.frame_transport

namespace pipane.websocket_frame_transport

/-- The decoder after some messages. -/
def decoderAfter (messages : List JsString) : DataChannelFrameDecoder :=
  messages.foldl (fun decoder message => (decoder.accept message).1) .fresh

theorem decoderAfter_concat (messages : List JsString) (message : JsString) :
    decoderAfter (messages ++ [message]) = ((decoderAfter messages).accept message).1 := by
  rw [decoderAfter, List.foldl_append]
  rfl

/-- The frame came from the socket that was current, through a decoder that had seen messages of that socket only. -/
def Delivery.Genuine (self : Delivery) : Prop :=
  self.current = some self.socket ∧ ∃ earlier message,
    self.seen = earlier ++ [(self.socket, message)] ∧ (∀ other ∈ earlier, other.1 = self.socket) ∧
    ((decoderAfter (earlier.map (·.2))).accept message).2 = .ok (some self.frame)

/-- The opening of the socket was reported and its close event is still to come. -/
def CarrierSocket.Reporting (self : CarrierSocket) : Prop :=
  self.opened = true ∧ self.readyState ≠ .CLOSED

namespace WebSocketFrameTransport

/-- The last connection event said that the transport is connected. -/
def reportedConnected (self : WebSocketFrameTransport) : Bool :=
  self.emitted.getLast?.any (·.event.connected)

/-- Connection events alternate, the first one saying that the transport is connected. -/
def Alternating (emitted : List Emission) : Prop :=
  List.IsChain (· ≠ ·) (false :: emitted.map (·.event.connected))

/-- At most one socket is live, listeners hear the current socket alone, and the connection events alternate and
    agree with `isConnected`: a connection that was reported and is over has its close event still to come. -/
structure SingleCarrier (transport : WebSocketFrameTransport) : Prop where
  live : ∀ {one other : Nat} {first second : CarrierSocket}, transport.sockets[one]? = some first →
    transport.sockets[other]? = some second → first.Live → second.Live → one = other
  delivered : ∀ delivery ∈ transport.delivered, delivery.Genuine
  alternating : Alternating transport.emitted
  agree : ∀ emission ∈ transport.emitted, emission.isConnected = emission.event.connected
  connected : transport.isConnected = true → transport.reportedConnected = true
  disconnected : transport.reportedConnected = true → transport.isConnected = false →
    ∃ carrier ∈ transport.sockets, carrier.readyState = .CLOSING

/-- No socket is connecting or open. -/
def NoneLive (self : WebSocketFrameTransport) : Prop :=
  ∀ carrier ∈ self.sockets, ¬ carrier.Live

/-- A socket is made only when no other one is live, and the current socket opens only after every socket that
    had opened before has closed. -/
def Settled (self : WebSocketFrameTransport) : Event → Prop
  | .connect endpoint created => self.isConnected = true ∨ endpoint = [] ∨ created ≠ .ok () ∨ self.NoneLive
  | .reconnectTimer created =>
    self.reconnectTimer = none ∨ self.endpoint.getD [] = [] ∨ created ≠ .ok () ∨ self.NoneLive
  | .opened socket =>
    self.socket = some socket → self.sockets[socket]?.any (·.readyState = .CONNECTING) = true →
      ∀ carrier ∈ self.sockets, carrier.opened = true → carrier.readyState = .CLOSED
  | .close | .message _ _ _ | .failed _ | .closed _ => True

/-- What settled steps keep. -/
structure Carried (transport : WebSocketFrameTransport) : Prop where
  current : ∀ {socket : Nat} {carrier : CarrierSocket}, transport.sockets[socket]? = some carrier → carrier.Live →
    transport.socket = some socket
  opened : ∀ {socket : Nat} {carrier : CarrierSocket}, transport.sockets[socket]? = some carrier → carrier.Live →
    (carrier.opened = true ↔ carrier.readyState = .OPEN)
  reporting : ∀ {one other : Nat} {first second : CarrierSocket}, transport.sockets[one]? = some first →
    transport.sockets[other]? = some second → first.Reporting → second.Reporting → one = other
  reported : transport.reportedConnected = true ↔ ∃ (socket : Nat) (carrier : CarrierSocket),
    transport.sockets[socket]? = some carrier ∧ carrier.Reporting
  seen : ∀ message ∈ transport.seen, ∃ carrier : CarrierSocket,
    transport.sockets[message.1]? = some carrier ∧ carrier.Reporting
  decoder : transport.decoder = decoderAfter (transport.seen.map (·.2))
  delivered : ∀ delivery ∈ transport.delivered, delivery.Genuine
  alternating : Alternating transport.emitted
  agree : ∀ emission ∈ transport.emitted, emission.isConnected = emission.event.connected

variable {self next : WebSocketFrameTransport}

theorem isConnected_iff : self.isConnected = true ↔ ∃ (socket : Nat) (carrier : CarrierSocket),
    self.socket = some socket ∧ self.sockets[socket]? = some carrier ∧ carrier.readyState = .OPEN := by
  unfold isConnected
  cases hsocket : self.socket with
  | none => simp
  | some socket =>
    cases hcarrier : self.sockets[socket]? with
    | none => simp [hcarrier]
    | some carrier => simp [hcarrier]

theorem Carried.singleCarrier (h : Carried self) : SingleCarrier self where
  live hone hother hfirst hsecond := Option.some.inj ((h.current hone hfirst).symm.trans (h.current hother hsecond))
  delivered := h.delivered
  alternating := h.alternating
  agree := h.agree
  connected hconnected := by
    obtain ⟨socket, carrier, -, hcarrier, hopen⟩ := isConnected_iff.mp hconnected
    refine h.reported.mpr ⟨socket, carrier, hcarrier, (h.opened hcarrier (.inr hopen)).mpr hopen, ?_⟩
    rw [hopen]
    decide
  disconnected hreported hconnected := by
    obtain ⟨socket, carrier, hcarrier, hopened, hclosed⟩ := h.reported.mp hreported
    refine ⟨carrier, List.mem_of_getElem? hcarrier, ?_⟩
    cases hstate : carrier.readyState with
    | CLOSING => rfl
    | CLOSED => exact absurd hstate hclosed
    | CONNECTING =>
      have hopen := (h.opened hcarrier (.inl hstate)).mp hopened
      rw [hstate] at hopen
      cases hopen
    | OPEN =>
      have hcurrent := h.current hcarrier (.inr hstate)
      rw [isConnected_iff.mpr ⟨socket, carrier, hcurrent, hcarrier, hstate⟩] at hconnected
      cases hconnected

theorem carried_fresh : Carried fresh where
  current h := by cases h
  opened h := by cases h
  reporting h := by cases h
  reported := by
    constructor
    · intro h
      cases h
    · rintro ⟨socket, carrier, h, -⟩
      cases h
  seen := by
    intro message h
    cases h
  decoder := rfl
  delivered := by
    intro delivery h
    cases h
  alternating := List.isChain_singleton _
  agree := by
    intro emission h
    cases h

theorem Carried.of_same (h : Carried self) (hsockets : next.sockets = self.sockets)
    (hsocket : next.socket = self.socket) (hdecoder : next.decoder = self.decoder) (hseen : next.seen = self.seen)
    (hdelivered : next.delivered = self.delivered) (hemitted : next.emitted = self.emitted) : Carried next := by
  cases self
  cases next
  subst hsockets hsocket hdecoder hseen hdelivered hemitted
  exact ⟨h.current, h.opened, h.reporting, h.reported, h.seen, h.decoder, h.delivered, h.alternating, h.agree⟩

theorem Carried.resetDecoder (h : Carried self) : Carried self.resetDecoder where
  current := h.current
  opened := h.opened
  reporting := h.reporting
  reported := h.reported
  seen := by
    intro message hmessage
    cases hmessage
  decoder := rfl
  delivered := h.delivered
  alternating := h.alternating
  agree := h.agree

theorem getElem?_updateSocket (self : WebSocketFrameTransport) (socket other : Nat)
    (f : CarrierSocket → CarrierSocket) : (self.updateSocket socket f).sockets[other]? =
      (self.sockets[other]?).map fun carrier => if socket = other then f carrier else carrier := by
  unfold updateSocket
  rw [List.getElem?_modify]
  rfl

/-- A write to every socket that keeps `opened` and may at most start to close a live one. -/
theorem Carried.map_sockets (h : Carried self) {f : Nat → CarrierSocket → CarrierSocket}
    (hsockets : ∀ other, next.sockets[other]? = (self.sockets[other]?).map (f other))
    (hopened : ∀ other carrier, (f other carrier).opened = carrier.opened)
    (hstate : ∀ other carrier, (f other carrier).readyState = carrier.readyState ∨
      carrier.Live ∧ (f other carrier).readyState = .CLOSING)
    (hsocket : next.socket = self.socket) (hdecoder : next.decoder = self.decoder) (hseen : next.seen = self.seen)
    (hdelivered : next.delivered = self.delivered) (hemitted : next.emitted = self.emitted) : Carried next := by
  have hlive : ∀ other carrier, (f other carrier).Live →
      carrier.Live ∧ (f other carrier).readyState = carrier.readyState := by
    intro other carrier hl
    obtain hsame | ⟨-, hclosing⟩ := hstate other carrier
    · unfold CarrierSocket.Live at hl ⊢
      rw [hsame] at hl
      exact ⟨hl, hsame⟩
    · unfold CarrierSocket.Live at hl
      rw [hclosing] at hl
      cases hl <;> contradiction
  have hreporting : ∀ other carrier, (f other carrier).Reporting ↔ carrier.Reporting := by
    intro other carrier
    unfold CarrierSocket.Reporting
    rw [hopened]
    obtain hsame | ⟨hl, hclosing⟩ := hstate other carrier
    · rw [hsame]
    · rw [hclosing]
      obtain hl | hl := hl <;> rw [hl] <;> simp
  refine ⟨?_, ?_, ?_, ?_, ?_, ?_, ?_, ?_, ?_⟩
  · intro other carrier hget hl
    rw [hsockets] at hget
    obtain ⟨before, hbefore, rfl⟩ := Option.map_eq_some_iff.mp hget
    rw [hsocket]
    exact h.current hbefore (hlive _ _ hl).1
  · intro other carrier hget hl
    rw [hsockets] at hget
    obtain ⟨before, hbefore, rfl⟩ := Option.map_eq_some_iff.mp hget
    rw [hopened, (hlive _ _ hl).2]
    exact h.opened hbefore (hlive _ _ hl).1
  · intro one other first second hone hother hfirst hsecond
    rw [hsockets] at hone hother
    obtain ⟨before, hbefore, rfl⟩ := Option.map_eq_some_iff.mp hone
    obtain ⟨before', hbefore', rfl⟩ := Option.map_eq_some_iff.mp hother
    exact h.reporting hbefore hbefore' ((hreporting _ _).mp hfirst) ((hreporting _ _).mp hsecond)
  · rw [reportedConnected, hemitted]
    refine h.reported.trans ?_
    constructor
    · rintro ⟨socket, carrier, hget, hreports⟩
      refine ⟨socket, f socket carrier, ?_, (hreporting _ _).mpr hreports⟩
      rw [hsockets, hget, Option.map_some]
    · rintro ⟨socket, carrier, hget, hreports⟩
      rw [hsockets] at hget
      obtain ⟨before, hbefore, rfl⟩ := Option.map_eq_some_iff.mp hget
      exact ⟨socket, before, hbefore, (hreporting _ _).mp hreports⟩
  · intro message hmessage
    rw [hseen] at hmessage
    obtain ⟨carrier, hget, hreports⟩ := h.seen message hmessage
    refine ⟨f message.1 carrier, ?_, (hreporting _ _).mpr hreports⟩
    rw [hsockets, hget, Option.map_some]
  · rw [hdecoder, hseen]
    exact h.decoder
  · rw [hdelivered]
    exact h.delivered
  · rw [hemitted]
    exact h.alternating
  · rw [hemitted]
    exact h.agree

theorem Carried.updateSocket (h : Carried self) (socket : Nat) {f : CarrierSocket → CarrierSocket}
    (hopened : ∀ carrier, (f carrier).opened = carrier.opened)
    (hstate : ∀ carrier, (f carrier).readyState = carrier.readyState ∨
      carrier.Live ∧ (f carrier).readyState = .CLOSING) : Carried (self.updateSocket socket f) := by
  refine h.map_sockets (fun other => getElem?_updateSocket self socket other f) ?_ ?_ rfl rfl rfl rfl rfl
  · intro other carrier
    split
    · exact hopened carrier
    · rfl
  · intro other carrier
    split
    · exact hstate carrier
    · exact .inl rfl

theorem Carried.closeSocket (h : Carried self) (socket : Nat) : Carried (self.updateSocket socket .close) := by
  refine h.updateSocket socket ?_ ?_ <;> intro carrier <;> unfold CarrierSocket.close
  · split <;> rfl
  · split
    · rename_i hlive
      exact .inr ⟨hlive, rfl⟩
    · exact .inl rfl

theorem carried_close (h : Carried self) : Carried self.close := by
  have hreset : Carried { self with
      manuallyClosed := true, reconnecting := false, reconnectTimer := none }.resetDecoder :=
    (h.of_same rfl rfl rfl rfl rfl rfl : Carried { self with
      manuallyClosed := true, reconnecting := false, reconnectTimer := none }).resetDecoder
  unfold close
  dsimp only
  split
  · exact hreset
  · exact hreset.closeSocket _

theorem carried_onerror (h : Carried self) (socket : Nat) : Carried (self.onerror socket) := by
  refine h.updateSocket socket ?_ ?_ <;> intro carrier
  · split <;> rfl
  · split <;> exact .inl rfl

/-- A new socket where no other one is live. -/
theorem Carried.openSocket (h : Carried self) {reconnected : Bool} {created : Except String Unit}
    (hnone : self.endpoint.getD [] = [] ∨ created ≠ .ok () ∨ self.NoneLive) :
    Carried (self.openSocket reconnected created).1 := by
  unfold WebSocketFrameTransport.openSocket
  split
  · exact h
  · exact h
  · rename_i unit units hendpoint
    split
    · exact h
    · rw [hendpoint] at hnone
      have hdead : self.NoneLive := by
        obtain hnone | hnone | hnone := hnone
        · cases hnone
        · exact absurd rfl hnone
        · exact hnone
      have hnew : ∀ {other : Nat} {carrier : CarrierSocket}, carrier.Reporting →
          (self.sockets ++ [⟨.CONNECTING, reconnected, false, none⟩])[other]? = some carrier →
          self.sockets[other]? = some carrier := by
        intro other carrier hreports hget
        obtain hget | ⟨-, rfl⟩ := List.getElem?_concat_cases hget
        · exact hget
        · exact absurd hreports.1 Bool.false_ne_true
      refine ⟨?_, ?_, ?_, ?_, ?_, h.decoder, h.delivered, h.alternating, h.agree⟩
      · intro other carrier hget hlive
        obtain hget | ⟨rfl, -⟩ := List.getElem?_concat_cases hget
        · exact absurd hlive (hdead carrier (List.mem_of_getElem? hget))
        · rfl
      · intro other carrier hget hlive
        obtain hget | ⟨-, rfl⟩ := List.getElem?_concat_cases hget
        · exact absurd hlive (hdead carrier (List.mem_of_getElem? hget))
        · simp
      · intro one other first second hone hother hfirst hsecond
        exact h.reporting (hnew hfirst hone) (hnew hsecond hother) hfirst hsecond
      · refine h.reported.trans ?_
        constructor
        · rintro ⟨socket, carrier, hget, hreports⟩
          exact ⟨socket, carrier, List.getElem?_concat_of_some hget _, hreports⟩
        · rintro ⟨socket, carrier, hget, hreports⟩
          exact ⟨socket, carrier, hnew hreports hget, hreports⟩
      · intro message hmessage
        obtain ⟨carrier, hget, hreports⟩ := h.seen message hmessage
        exact ⟨carrier, List.getElem?_concat_of_some hget _, hreports⟩

theorem carried_connect (h : Carried self) {endpoint : JsString} {created : Except String Unit}
    (hsettled : self.Settled (.connect endpoint created)) : Carried (self.connect endpoint created).1 := by
  unfold connect
  split
  · exact h
  · rename_i hconnected
    have hsame : Carried { self with endpoint := some endpoint, manuallyClosed := false } :=
      h.of_same rfl rfl rfl rfl rfl rfl
    exact hsame.openSocket (hsettled.resolve_left hconnected)

theorem carried_onReconnectTimer (h : Carried self) {created : Except String Unit}
    (hsettled : self.Settled (.reconnectTimer created)) : Carried (self.onReconnectTimer created) := by
  unfold onReconnectTimer
  split
  · exact h
  · rename_i delay htimer
    have hsame : Carried { self with reconnectTimer := none } := h.of_same rfl rfl rfl rfl rfl rfl
    refine hsame.openSocket (hsettled.resolve_left ?_)
    rw [htimer]
    exact Option.some_ne_none delay

theorem reportedConnected_concat (self : WebSocketFrameTransport) (emission : Emission) :
    { self with emitted := self.emitted ++ [emission] }.reportedConnected = emission.event.connected := by
  simp [reportedConnected]

theorem alternating_concat (self : WebSocketFrameTransport) (emission : Emission) :
    Alternating (self.emitted ++ [emission]) ↔
      Alternating self.emitted ∧ self.reportedConnected ≠ emission.event.connected := by
  unfold Alternating reportedConnected
  rw [List.map_append, ← List.cons_append, List.map_singleton, List.isChain_append]
  obtain hnil | ⟨before, last, hlast⟩ := List.eq_nil_or_concat self.emitted
  · rw [hnil]
    simp
  · have hend : (false :: List.map (·.event.connected) (before.concat last)).getLast? =
        some last.event.connected := by
      rw [List.concat_eq_append, List.map_append, ← List.cons_append, List.map_singleton, List.getLast?_concat]
    rw [hlast, hend]
    simp

/-- A message of an open socket goes through a decoder that has seen this socket only. -/
theorem carried_onmessage (h : Carried self) (socket : Nat) (data : JsString) (listenerThrew : Bool) :
    Carried (self.onmessage socket data listenerThrew) := by
  unfold onmessage
  split
  · exact h
  · rename_i carrier hget
    split
    · exact h
    · rename_i hopen
      rw [ne_eq, not_not] at hopen
      have hreports : carrier.Reporting := by
        refine ⟨(h.opened hget (.inr hopen)).mpr hopen, ?_⟩
        rw [hopen]
        decide
      have hseen : ∀ other ∈ self.seen, other.1 = socket := by
        intro other hother
        obtain ⟨sender, hsender, hsends⟩ := h.seen other hother
        exact h.reporting hsender hget hsends hreports
      have hdecoder : (self.decoder.accept data).1 = decoderAfter ((self.seen ++ [(socket, data)]).map (·.2)) := by
        rw [List.map_append, List.map_singleton, decoderAfter_concat, ← h.decoder]
      have hfed : Carried { self with
          decoder := (self.decoder.accept data).1, seen := self.seen ++ [(socket, data)] } := by
        refine ⟨h.current, h.opened, h.reporting, h.reported, ?_, hdecoder, h.delivered, h.alternating, h.agree⟩
        intro other hother
        obtain hother | hother := List.mem_append.mp hother
        · exact h.seen other hother
        · rw [List.mem_singleton.mp hother]
          exact ⟨carrier, hget, hreports⟩
      dsimp only
      split
      · exact hfed.closeSocket socket
      · exact hfed
      · rename_i frame hframe
        have hheard : Carried { self with
            decoder := (self.decoder.accept data).1
            seen := self.seen ++ [(socket, data)]
            delivered := self.delivered ++ [⟨socket, self.socket, self.seen ++ [(socket, data)], frame⟩] } := by
          refine ⟨hfed.current, hfed.opened, hfed.reporting, hfed.reported, hfed.seen, hdecoder, ?_, h.alternating,
            h.agree⟩
          intro delivery hdelivery
          obtain hdelivery | hdelivery := List.mem_append.mp hdelivery
          · exact h.delivered delivery hdelivery
          · rw [List.mem_singleton.mp hdelivery]
            refine ⟨h.current hget (.inr hopen), self.seen, data, rfl, hseen, ?_⟩
            rw [← h.decoder]
            exact hframe
        split
        · exact hheard.closeSocket socket
        · exact hheard

theorem getElem?_opened (self : WebSocketFrameTransport) (socket other : Nat) :
    ((self.updateSocket socket fun carrier => { carrier with readyState := .OPEN }).updateSocket socket
      fun carrier => { carrier with opened := true }.settle (.ok ())).sockets[other]? =
      (self.sockets[other]?).map fun before =>
        if socket = other then { { before with readyState := .OPEN } with opened := true }.settle (.ok ())
        else before := by
  rw [getElem?_updateSocket, getElem?_updateSocket, Option.map_map]
  congr 1
  funext before
  by_cases hsame : socket = other <;> simp [hsame]

/-- A current socket that is reported open where no opened socket was left. -/
theorem Carried.opens (h : Carried self) {socket : Nat} {carrier : CarrierSocket} (opened : CarrierSocket)
    (hget : self.sockets[socket]? = some carrier) (hlive : carrier.Live)
    (hnone : ∀ {other : Nat} {sender : CarrierSocket}, self.sockets[other]? = some sender → ¬ sender.Reporting)
    (hopened : opened.opened = true) (hopen : opened.readyState = .OPEN) {event : FrameTransportConnectionEvent}
    (hevent : event.connected = true)
    (hsockets : ∀ other, next.sockets[other]? = (self.sockets[other]?).map fun before =>
      if socket = other then opened else before)
    (hsocket : next.socket = self.socket) (hdecoder : next.decoder = self.decoder) (hseen : next.seen = self.seen)
    (hdelivered : next.delivered = self.delivered) (hemitted : next.emitted = self.emitted) :
    Carried (next.emitConnectionChange event) := by
  have hcurrent := h.current hget hlive
  have hself : next.sockets[socket]? = some opened := by
    rw [hsockets, hget, Option.map_some, if_pos rfl]
  have hreports : opened.Reporting := by
    refine ⟨hopened, ?_⟩
    rw [hopen]
    decide
  have hother : ∀ {other : Nat} {sender : CarrierSocket}, next.sockets[other]? = some sender →
      socket = other ∧ sender = opened ∨ self.sockets[other]? = some sender := by
    intro other sender hsender
    rw [hsockets] at hsender
    obtain ⟨before, hbefore, rfl⟩ := Option.map_eq_some_iff.mp hsender
    by_cases hsame : socket = other
    · exact .inl ⟨hsame, if_pos hsame⟩
    · rw [if_neg hsame]
      exact .inr hbefore
  have honly : ∀ {other : Nat} {sender : CarrierSocket}, next.sockets[other]? = some sender → sender.Reporting →
      socket = other := by
    intro other sender hsender hsends
    obtain ⟨hsame, -⟩ | hbefore := hother hsender
    · exact hsame
    · exact absurd hsends (hnone hbefore)
  have hsilent : self.reportedConnected = false := by
    rw [Bool.eq_false_iff]
    intro hreported
    obtain ⟨other, sender, hsender, hsends⟩ := h.reported.mp hreported
    exact hnone hsender hsends
  have hconnected : next.isConnected = true :=
    isConnected_iff.mpr ⟨socket, opened, hsocket.trans hcurrent, hself, hopen⟩
  unfold emitConnectionChange
  refine ⟨?_, ?_, ?_, ?_, ?_, ?_, ?_, ?_, ?_⟩
  · intro other sender hsender hsends
    obtain ⟨rfl, -⟩ | hbefore := hother hsender
    · exact hsocket.trans hcurrent
    · exact hsocket.trans (h.current hbefore hsends)
  · intro other sender hsender hsends
    obtain ⟨-, rfl⟩ | hbefore := hother hsender
    · rw [hopened, hopen]
      simp
    · exact h.opened hbefore hsends
  · intro one other first second hone hsecond hfirst hsends
    exact (honly hone hfirst).symm.trans (honly hsecond hsends)
  · rw [reportedConnected_concat]
    exact ⟨fun _ => ⟨socket, opened, hself, hreports⟩, fun _ => hevent⟩
  · intro message hmessage
    obtain ⟨sender, hsender, hsends⟩ := h.seen message (hseen ▸ hmessage)
    exact absurd hsends (hnone hsender)
  · exact hdecoder.trans (h.decoder.trans (by rw [hseen]))
  · exact hdelivered ▸ h.delivered
  · rw [alternating_concat, reportedConnected, hemitted]
    refine ⟨h.alternating, ?_⟩
    rw [hevent]
    exact Bool.eq_false_iff.mp hsilent
  · intro emission hemission
    obtain hemission | hemission := List.mem_append.mp hemission
    · exact h.agree emission (hemitted ▸ hemission)
    · rw [List.mem_singleton.mp hemission]
      exact hconnected.trans hevent.symm

theorem carried_onopen (h : Carried self) {socket : Nat} (hsettled : self.Settled (.opened socket)) :
    Carried (self.onopen socket) := by
  unfold onopen
  split
  · exact h
  · rename_i carrier hget
    split
    · exact h
    · rename_i hconnecting
      rw [ne_eq, not_not] at hconnecting
      have hcurrent := h.current hget (.inl hconnecting)
      have hclosed := hsettled hcurrent (by simp [hget, hconnecting])
      dsimp only
      rw [if_neg (by exact not_not_intro hcurrent)]
      refine h.opens ({ { carrier with readyState := .OPEN } with opened := true }.settle (.ok ())) hget
        (.inl hconnecting) ?_ rfl rfl rfl ?_ rfl rfl rfl rfl rfl
      · intro other sender hsender hsends
        exact hsends.2 (hclosed sender (List.mem_of_getElem? hsender) hsends.1)
      · intro other
        refine (getElem?_opened self socket other).trans ?_
        by_cases hsame : socket = other
        · subst hsame
          rw [hget]
          simp
        · simp [hsame]

/-- The sockets, the current socket and the decoder after a socket has closed. -/
structure Closes (before after : WebSocketFrameTransport) (socket : Nat) (closed : CarrierSocket) : Prop where
  sockets : ∀ other, after.sockets[other]? = (before.sockets[other]?).map fun carrier =>
    if socket = other then closed else carrier
  socket : after.socket = if before.socket = some socket then none else before.socket
  decoder : after.decoder = .fresh
  seen : after.seen = []
  delivered : after.delivered = before.delivered
  emitted : after.emitted = before.emitted

theorem Closes.other {socket : Nat} {closed : CarrierSocket} (hcloses : Closes self next socket closed) {other : Nat}
    {carrier : CarrierSocket} (hget : next.sockets[other]? = some carrier) :
    socket = other ∧ carrier = closed ∨ socket ≠ other ∧ self.sockets[other]? = some carrier := by
  rw [hcloses.sockets] at hget
  obtain ⟨before, hbefore, rfl⟩ := Option.map_eq_some_iff.mp hget
  by_cases hsame : socket = other
  · exact .inl ⟨hsame, if_pos hsame⟩
  · rw [if_neg hsame]
    exact .inr ⟨hsame, hbefore⟩

theorem Closes.live {socket : Nat} {closed : CarrierSocket} (hcloses : Closes self next socket closed)
    (h : Carried self) (hclosed : closed.readyState = .CLOSED) {other : Nat} {carrier : CarrierSocket}
    (hget : next.sockets[other]? = some carrier) (hlive : carrier.Live) :
    socket ≠ other ∧ self.sockets[other]? = some carrier ∧ next.socket = some other := by
  obtain ⟨-, rfl⟩ | ⟨hother, hbefore⟩ := hcloses.other hget
  · unfold CarrierSocket.Live at hlive
    rw [hclosed] at hlive
    cases hlive <;> contradiction
  · have hcurrent := h.current hbefore hlive
    refine ⟨hother, hbefore, ?_⟩
    rw [hcloses.socket, hcurrent, if_neg]
    rw [Option.some_inj]
    exact Ne.symm hother

/-- A socket that never opened closes. -/
theorem Carried.closesUnopened (h : Carried self) {socket : Nat} {closed : CarrierSocket}
    (hcloses : Closes self next socket closed) {carrier : CarrierSocket} (hget : self.sockets[socket]? = some carrier)
    (hunopened : carrier.opened = false) (hclosed : closed.readyState = .CLOSED) : Carried next := by
  have hreports : ∀ {other : Nat} {sender : CarrierSocket}, sender.Reporting →
      (next.sockets[other]? = some sender ↔ self.sockets[other]? = some sender) := by
    intro other sender hsends
    constructor
    · intro hsender
      obtain ⟨-, rfl⟩ | ⟨-, hbefore⟩ := hcloses.other hsender
      · exact absurd hclosed hsends.2
      · exact hbefore
    · intro hsender
      rw [hcloses.sockets, hsender, Option.map_some, if_neg]
      rintro rfl
      rw [hget] at hsender
      cases hsender
      rw [hsends.1] at hunopened
      cases hunopened
  refine ⟨?_, ?_, ?_, ?_, ?_, ?_, ?_, ?_, ?_⟩
  · intro other sender hsender hlive
    exact (hcloses.live h hclosed hsender hlive).2.2
  · intro other sender hsender hlive
    exact h.opened (hcloses.live h hclosed hsender hlive).2.1 hlive
  · intro one other first second hone hother hfirst hsecond
    exact h.reporting ((hreports hfirst).mp hone) ((hreports hsecond).mp hother) hfirst hsecond
  · rw [reportedConnected, hcloses.emitted]
    refine h.reported.trans ?_
    constructor <;> rintro ⟨other, sender, hsender, hsends⟩
    · exact ⟨other, sender, (hreports hsends).mpr hsender, hsends⟩
    · exact ⟨other, sender, (hreports hsends).mp hsender, hsends⟩
  · intro message hmessage
    rw [hcloses.seen] at hmessage
    cases hmessage
  · rw [hcloses.decoder, hcloses.seen]
    rfl
  · exact hcloses.delivered ▸ h.delivered
  · exact hcloses.emitted ▸ h.alternating
  · exact hcloses.emitted ▸ h.agree

/-- The one socket whose opening was reported closes. -/
theorem Carried.closesReported (h : Carried self) {socket : Nat} {closed : CarrierSocket}
    (hcloses : Closes self next socket closed) {carrier : CarrierSocket} (hget : self.sockets[socket]? = some carrier)
    (hreports : carrier.Reporting) (hclosed : closed.readyState = .CLOSED) {event : FrameTransportConnectionEvent}
    (hevent : event.connected = false) : Carried (next.emitConnectionChange event) := by
  have hnone : ∀ {other : Nat} {sender : CarrierSocket}, next.sockets[other]? = some sender →
      ¬ sender.Reporting := by
    intro other sender hsender hsends
    obtain ⟨-, rfl⟩ | ⟨hother, hbefore⟩ := hcloses.other hsender
    · exact hsends.2 hclosed
    · exact hother (h.reporting hget hbefore hreports hsends)
  have hconnected : next.isConnected = false := by
    rw [Bool.eq_false_iff]
    intro hconnected
    obtain ⟨other, sender, -, hsender, hopen⟩ := isConnected_iff.mp hconnected
    have hbefore := (hcloses.live h hclosed hsender (.inr hopen)).2.1
    refine hnone hsender ⟨(h.opened hbefore (.inr hopen)).mpr hopen, ?_⟩
    rw [hopen]
    decide
  unfold emitConnectionChange
  refine ⟨?_, ?_, ?_, ?_, ?_, ?_, ?_, ?_, ?_⟩
  · intro other sender hsender hlive
    exact (hcloses.live h hclosed hsender hlive).2.2
  · intro other sender hsender hlive
    exact h.opened (hcloses.live h hclosed hsender hlive).2.1 hlive
  · intro one other first second hone hother hfirst hsecond
    exact absurd hfirst (hnone hone)
  · rw [reportedConnected_concat, hevent]
    constructor
    · intro hfalse
      cases hfalse
    · rintro ⟨other, sender, hsender, hsends⟩
      exact absurd hsends (hnone hsender)
  · intro message hmessage
    rw [hcloses.seen] at hmessage
    cases hmessage
  · rw [hcloses.decoder, hcloses.seen]
    rfl
  · exact hcloses.delivered ▸ h.delivered
  · rw [alternating_concat, reportedConnected, hcloses.emitted]
    refine ⟨h.alternating, ?_⟩
    have hreported : self.reportedConnected = true := h.reported.mpr ⟨socket, carrier, hget, hreports⟩
    rw [hevent]
    exact ne_of_eq_of_ne hreported (by decide)
  · intro emission hemission
    obtain hemission | hemission := List.mem_append.mp hemission
    · exact h.agree emission (hcloses.emitted ▸ hemission)
    · rw [List.mem_singleton.mp hemission]
      exact hconnected.trans hevent.symm

theorem closes_scheduleReconnect {socket : Nat} {closed : CarrierSocket} (hcloses : Closes self next socket closed) :
    Closes self next.scheduleReconnect socket closed := by
  unfold scheduleReconnect
  split
  · exact hcloses
  · exact ⟨hcloses.sockets, hcloses.socket, hcloses.decoder, hcloses.seen, hcloses.delivered, hcloses.emitted⟩

theorem carried_onclose (h : Carried self) (socket : Nat) : Carried (self.onclose socket) := by
  unfold onclose
  split
  · exact h
  · rename_i carrier hget
    split
    · exact h
    · rename_i hopen
      extract_lets _ next scheduled
      have hcloses : Closes self next socket
          ({ carrier with readyState := .CLOSED }.settle (.error "WebSocket closed before connecting")) := by
        refine ⟨?_, rfl, rfl, rfl, rfl, rfl⟩
        intro other
        refine (getElem?_updateSocket self socket other _).trans ?_
        by_cases hsame : socket = other
        · subst hsame
          rw [hget]
          simp
        · simp [hsame]
      have hscheduled : Closes self scheduled socket
          ({ carrier with readyState := .CLOSED }.settle (.error "WebSocket closed before connecting")) := by
        unfold scheduled
        split
        · exact closes_scheduleReconnect hcloses
        · exact hcloses
      by_cases hopened : carrier.opened = true
      · rw [if_pos hopened]
        exact h.closesReported hscheduled hget ⟨hopened, hopen⟩ rfl rfl
      · rw [if_neg hopened]
        exact h.closesUnopened hscheduled hget (Bool.not_eq_true _ ▸ hopened) rfl

theorem carried_step {event : Event} (h : Carried self) (hsettled : self.Settled event) :
    Carried (self.step event) := by
  cases event with
  | connect endpoint created => exact carried_connect h hsettled
  | close => exact carried_close h
  | reconnectTimer created => exact carried_onReconnectTimer h hsettled
  | opened socket => exact carried_onopen h hsettled
  | message socket data listenerThrew => exact carried_onmessage h socket data listenerThrew
  | failed socket => exact carried_onerror h socket
  | closed socket => exact carried_onclose h socket

theorem noneLive_openSocket {reconnected : Bool} (hendpoint : self.endpoint.getD [] ≠ [])
    (h : SingleCarrier (self.openSocket reconnected (.ok ())).1) : self.NoneLive := by
  intro carrier hmem hlive
  obtain ⟨socket, hget⟩ := List.getElem?_of_mem hmem
  unfold WebSocketFrameTransport.openSocket at h
  split at h
  · rename_i hnone
    rw [hnone] at hendpoint
    exact hendpoint rfl
  · rename_i hempty
    rw [hempty] at hendpoint
    exact hendpoint rfl
  · have hsame := h.live (List.getElem?_concat_of_some hget _) (List.getElem?_concat_last self.sockets _) hlive
      (.inl rfl)
    obtain ⟨hlt, -⟩ := List.getElem?_eq_some_iff.mp hget
    omega

/-- A step that is not settled leaves two live sockets or repeats a connection event. -/
theorem settled_of_singleCarrier {event : Event} (h : Carried self) (hstep : SingleCarrier (self.step event)) :
    self.Settled event := by
  cases event with
  | close | message _ _ _ | failed _ | closed _ => trivial
  | connect endpoint created =>
    simp only [Settled]
    by_contra hnot
    simp only [not_or] at hnot
    obtain ⟨hconnected, hendpoint, hcreated, hlive⟩ := hnot
    rw [ne_eq, not_not] at hcreated
    subst hcreated
    simp only [step, connect, if_neg hconnected] at hstep
    have hnone : { self with endpoint := some endpoint, manuallyClosed := false }.NoneLive :=
      noneLive_openSocket hendpoint hstep
    exact hlive hnone
  | reconnectTimer created =>
    simp only [Settled]
    by_contra hnot
    simp only [not_or] at hnot
    obtain ⟨htimer, hendpoint, hcreated, hlive⟩ := hnot
    rw [ne_eq, not_not] at hcreated
    subst hcreated
    obtain ⟨delay, hdelay⟩ := Option.ne_none_iff_exists'.mp htimer
    simp only [step, onReconnectTimer, hdelay] at hstep
    have hnone : { self with reconnectTimer := none }.NoneLive := noneLive_openSocket hendpoint hstep
    exact hlive hnone
  | opened socket =>
    intro hcurrent hconnecting carrier hmem hopened
    by_contra hclosed
    obtain ⟨other, hget⟩ := List.getElem?_of_mem hmem
    have hreported : self.reportedConnected = true := h.reported.mpr ⟨other, carrier, hget, hopened, hclosed⟩
    cases hsome : self.sockets[socket]? with
    | none =>
      rw [hsome] at hconnecting
      cases hconnecting
    | some current =>
      have hstate : current.readyState = .CONNECTING := by simpa [hsome] using hconnecting
      simp only [step, onopen, hsome, ne_eq, hstate, not_true_eq_false, if_false] at hstep
      rw [if_neg (by exact not_not_intro hcurrent)] at hstep
      exact ((alternating_concat _ _).mp hstep.alternating).2 hreported

/-- In every run of connects, closes, timers and socket events there is one live carrier, listeners hear it alone
    and the connection events agree with it if and only if a socket is made only when no other one is live and the
    current socket opens only after every socket that had opened before has closed. -/
theorem single_carrier (events : List Event) :
    Always step fresh SingleCarrier events ↔ EveryStep step fresh Settled events :=
  always_iff_everyStep_of_invariant carried_fresh (fun _ _ h hsettled => carried_step h hsettled)
    (fun _ h => h.singleCarrier) (fun _ _ h hstep => settled_of_singleCarrier h hstep) events

/-- A connect while the reconnect timer is pending: the timer makes a socket next to the open one. -/
def racingTimer : List Event :=
  [.connect (js "wss://host/ws") (.ok ()), .opened 0, .closed 0, .connect (js "wss://host/ws") (.ok ()), .opened 1,
    .reconnectTimer (.ok ()), .opened 2, .message 1 (js "stale") false]

theorem replaced_socket_is_heard : ¬ Always step fresh SingleCarrier racingTimer := by
  intro h
  have hdelivered : (run step fresh racingTimer).delivered =
      [{ socket := 1, current := some 2, seen := [(1, js "stale")], frame := js "stale" }] := by
    decide
  have hgenuine := h.last.delivered _ (hdelivered ▸ List.mem_singleton_self _)
  exact absurd hgenuine.1 (by decide)

end WebSocketFrameTransport

end pipane.websocket_frame_transport

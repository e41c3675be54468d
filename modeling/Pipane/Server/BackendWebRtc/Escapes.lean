import Pipane.Rendezvous.TrustStore.Authority
import Pipane.Server.BackendWebRtc

open javascript json pipane.trust_protocol pipane.node_trust_crypto pipane.rendezvous_protocol pipane.backend_identity

namespace pipane.backend_webrtc

/-- What `send` of the rendezvous client looks at. -/
structure RendezvousClient where
  registered : Bool
  socketOpen : Bool
deriving DecidableEq

/-- `send`, which throws while the client is not registered or its socket is down. -/
def RendezvousClient.send (client : RendezvousClient) : Except String Unit :=
  if ¬ client.registered then .error "Backend is not registered with rendezvous"
  else if ¬ client.socketOpen then .error "Rendezvous WebSocket is not connected"
  else .ok ()

def RendezvousClient.isOnline (client : RendezvousClient) : Bool :=
  client.registered && client.socketOpen

theorem RendezvousClient.send_of_online {client : RendezvousClient} (h : client.isOnline = true) :
    client.send = .ok () := by
  rw [isOnline, Bool.and_eq_true] at h
  rw [send, if_neg (by simp [h.1]), if_neg (by simp [h.2])]

theorem RendezvousClient.send_of_offline {client : RendezvousClient} (h : client.isOnline = false) :
    ∃ error, client.send = .error error := by
  unfold send
  split
  · exact ⟨_, rfl⟩
  · split
    · exact ⟨_, rfl⟩
    · rename_i hregistered hopen
      rw [isOnline, not_not.mp hregistered, not_not.mp hopen] at h
      cases h

variable {options : BackendWebRtcManagerOptions}

/-- How a handler ends: the manager, the peers whose native connections it has closed, and the exception that
    leaves it. -/
structure Handled (options : BackendWebRtcManagerOptions) where
  manager : BackendWebRtcManager options
  closed : List PeerRef
  thrown : Option String

/-- The handlers of a peer that timers, native callbacks and the rendezvous client call. -/
inductive PeerEvent
  | localDescription (peer : PeerRef) (sdp : JsString) (type : SdpType)
  | localCandidate (peer : PeerRef) (candidate mid : JsString)
  | stateChanged (peer : PeerRef) (connectionState : PeerConnectionState)
  | channelMessage (channel : ChannelRef) (raw : JsString)
  | timedOut (timer : TimerRef)
  | authenticationContinued (ref : AuthorizationRef) (outcome : Except String BackendAuthorizationResult)
  | signal (connectionId : JsString) (signal : IceSignal)

def PeerEvent.event : PeerEvent → Event
  | .localDescription peer sdp type => .localDescription peer sdp type
  | .localCandidate peer candidate mid => .localCandidate peer candidate mid
  | .stateChanged peer connectionState => .stateChanged peer connectionState
  | .channelMessage channel raw => .channelMessage channel raw
  | .timedOut timer => .timedOut timer
  | .authenticationContinued ref outcome => .authenticationContinued ref outcome
  | .signal connectionId message => .signal connectionId message

namespace Handled

def done (manager : BackendWebRtcManager options) : Handled options where
  manager := manager
  closed := []
  thrown := none

variable (client : RendezvousClient) (surroundings : Surroundings) (manager : BackendWebRtcManager options)

/-- What the handlers meet, with the client as it is. -/
def met : Surroundings :=
  { surroundings with online := client.isOnline }

/-- `removePeer` closes the native connection of the peer that it removes. -/
def removePeer (connectionId : JsString) : Handled options where
  manager := manager.removePeer connectionId
  closed := (manager.peers.get? connectionId).toList
  thrown := none

/-- `failPeer`: the peer is removed also where the client throws, and the exception goes on. -/
def failPeer (connectionId : JsString) : Handled options :=
  match client.send with
  | .ok () =>
    { removePeer ((manager.report connectionId).send (met client surroundings)
        (.closeConnection connectionId (js "WebRTC negotiation failed"))) connectionId with thrown := none }
  | .error error => { removePeer (manager.report connectionId) connectionId with thrown := some error }

def localDescription (peer : PeerRef) (sdp : JsString) (type : SdpType) : Handled options :=
  match manager.states.get? peer with
  | none => done manager
  | some state =>
    match state.offerSdp with
    | none => done manager
    | some offerSdp =>
      if ¬ manager.isCurrent peer state ∨ type ≠ .answer ∨ offerSdp = [] then done manager
      else
        match signBackendIdentityBinding options.crypto options.identity state.connectionId offerSdp sdp
            state.opened.claims.expiresAt with
        | .error _ => failPeer client surroundings manager state.connectionId
        | .ok binding =>
          let manager := manager.setState peer { state with bindings := binding :: state.bindings }
          match client.send with
          | .error _ => failPeer client surroundings manager state.connectionId
          | .ok () => done ((manager.send (met client surroundings) (.answer state.connectionId sdp)).send
              (met client surroundings) (.identityBinding state.connectionId binding))

/-- `safeSendSignal` of a candidate of a current peer. -/
def localCandidate (peer : PeerRef) (candidate mid : JsString) : Handled options :=
  match manager.states.get? peer with
  | none => done manager
  | some state =>
    if ¬ manager.isCurrent peer state then done manager
    else
      match client.send with
      | .error _ => failPeer client surroundings manager state.connectionId
      | .ok () => done (manager.send (met client surroundings)
          (.candidate state.connectionId candidate (if mid = [] then none else some mid)))

def stateChanged (peer : PeerRef) (connectionState : PeerConnectionState) : Handled options :=
  match manager.states.get? peer with
  | none => done manager
  | some state =>
    if connectionState = .failed ∨ connectionState = .closed then removePeer manager state.connectionId
    else done manager

/-- An error frame that cannot be sent does not matter. -/
def failAuthentication (state : PeerState options) : Handled options :=
  failPeer client surroundings manager state.connectionId

def channelMessage (channel : ChannelRef) (raw : JsString) : Handled options :=
  match manager.channels.get? channel with
  | none => done manager
  | some peer =>
    match manager.states.get? peer with
    | none => done manager
    | some state =>
      if state.authenticated.isSome then done manager
      else if MAX_AUTHENTICATION_FRAME_BYTES < (textEncode raw).length then
        failAuthentication client surroundings manager state
      else
        match decodeDataChannelAuthenticateFrame raw with
        | none => failAuthentication client surroundings manager state
        | some hello => done (manager.authenticateChannel surroundings peer channel state hello)

def timedOut (timer : TimerRef) : Handled options :=
  match manager.timers.get? timer with
  | none => done manager
  | some peer =>
    let manager := { manager with timers := manager.timers.erase timer }
    match manager.states.get? peer with
    | none => done manager
    | some state => failPeer client surroundings manager state.connectionId

/-- The handler of a rejected `authenticateChannel`; what it throws is an unhandled rejection. -/
def continueAuthentication (ref : AuthorizationRef) (outcome : Except String BackendAuthorizationResult) :
    Handled options :=
  match manager.authentications.get? ref with
  | none => done manager
  | some pending =>
    let manager := { manager with authentications := manager.authentications.erase ref }
    match manager.states.get? pending.peer with
    | none => done manager
    | some state =>
      match pending.proof with
      | .error _ =>
        if manager.isCurrent pending.peer state then failAuthentication client surroundings manager state
        else done manager
      | .ok proof =>
        match outcome with
        | .error message => done (manager.reject ref pending message)
        | .ok authorization =>
          done (manager.completeAuthentication surroundings ref pending state proof authorization)

def applySignal (connectionId : JsString) (signal : IceSignal) : Handled options :=
  match manager.peers.get? connectionId with
  | none =>
    match client.send with
    | .ok () => done (manager.send (met client surroundings)
        (.closeConnection connectionId (js "Unknown backend WebRTC connection")))
    | .error error => { done manager with thrown := some error }
  | some peer =>
    match manager.states.get? peer with
    | none => done manager
    | some state =>
      match signal.description? with
      | none => if surroundings.peerThrows then failPeer client surroundings manager connectionId else done manager
      | some (.answer, _) => failPeer client surroundings manager connectionId
      | some (.offer, sdp) =>
        let manager := manager.setState peer { state with offerSdp := some sdp }
        if surroundings.peerThrows then failPeer client surroundings manager connectionId else done manager

end Handled

/-- A handler of a peer, with what leaves it. -/
def perform (client : RendezvousClient) (surroundings : Surroundings) (manager : BackendWebRtcManager options) :
    PeerEvent → Handled options
  | .localDescription peer sdp type => Handled.localDescription client surroundings manager peer sdp type
  | .localCandidate peer candidate mid => Handled.localCandidate client surroundings manager peer candidate mid
  | .stateChanged peer connectionState => Handled.stateChanged manager peer connectionState
  | .channelMessage channel raw => Handled.channelMessage client surroundings manager channel raw
  | .timedOut timer => Handled.timedOut client surroundings manager timer
  | .authenticationContinued ref outcome => Handled.continueAuthentication client surroundings manager ref outcome
  | .signal connectionId signal => Handled.applySignal client surroundings manager connectionId signal

section

variable {client : RendezvousClient} {surroundings : Surroundings} {manager : BackendWebRtcManager options}

theorem send_offline (h : client.isOnline = false) (message : Outgoing) :
    manager.send (Handled.met client surroundings) message = manager := by
  rw [BackendWebRtcManager.send, if_neg]
  rw [Handled.met, h]
  exact Bool.noConfusion

theorem reported_send {met : Surroundings} (message : Outgoing) :
    (manager.send met message).reported = manager.reported := by
  unfold BackendWebRtcManager.send
  split
  · rfl
  · rfl

theorem peers_send {met : Surroundings} (message : Outgoing) : (manager.send met message).peers = manager.peers := by
  unfold BackendWebRtcManager.send
  split
  · rfl
  · rfl

theorem peers_clearTimeout (timer : Option TimerRef) : (manager.clearTimeout timer).peers = manager.peers := by
  cases timer with
  | none => rfl
  | some timer => rfl

theorem reported_clearTimeout (timer : Option TimerRef) :
    (manager.clearTimeout timer).reported = manager.reported := by
  cases timer with
  | none => rfl
  | some timer => rfl

theorem reported_removePeer (connectionId : JsString) :
    (manager.removePeer connectionId).reported = manager.reported := by
  unfold BackendWebRtcManager.removePeer
  split
  · rfl
  · simp only
    split
    · rfl
    · exact reported_clearTimeout _

theorem reported_completeAuthentication (ref : AuthorizationRef) (pending : PendingAuthentication options)
    (state : PeerState options) (proof : DeviceProof options) (authorization : BackendAuthorizationResult) :
    (manager.completeAuthentication surroundings ref pending state proof authorization).reported =
      manager.reported := by
  unfold BackendWebRtcManager.completeAuthentication
  split
  · rfl
  · split
    · rfl
    · simp only
      split
      · exact reported_clearTimeout _
      · exact reported_clearTimeout _

theorem manager_failPeer (connectionId : JsString) : (Handled.failPeer client surroundings manager connectionId).manager =
    manager.failPeer (Handled.met client surroundings) connectionId := by
  unfold Handled.failPeer BackendWebRtcManager.failPeer
  cases honline : client.isOnline with
  | true =>
    rw [client.send_of_online honline]
    rfl
  | false =>
    obtain ⟨error, hsend⟩ := client.send_of_offline honline
    rw [hsend, send_offline honline]
    rfl

theorem manager_localDescription (peer : PeerRef) (sdp : JsString) (type : SdpType) :
    (Handled.localDescription client surroundings manager peer sdp type).manager =
      manager.localDescription (Handled.met client surroundings) peer sdp type := by
  have honline : (Handled.met client surroundings).online = client.isOnline := rfl
  unfold Handled.localDescription BackendWebRtcManager.localDescription
  cases manager.states.get? peer with
  | none => rfl
  | some state =>
    cases hoffer : state.offerSdp with
    | none => simp only [hoffer]; rfl
    | some offerSdp =>
      simp only [hoffer]
      split
      · rfl
      · cases signBackendIdentityBinding options.crypto options.identity state.connectionId offerSdp sdp
          state.opened.claims.expiresAt with
        | error error => exact manager_failPeer _
        | ok binding =>
          simp only
          cases hclient : client.isOnline with
          | true =>
            rw [client.send_of_online hclient, if_neg (by simp [honline, hclient])]
            rfl
          | false =>
            obtain ⟨error, hsend⟩ := client.send_of_offline hclient
            rw [hsend, if_pos (by simp [honline, hclient])]
            exact manager_failPeer _

theorem manager_localCandidate (peer : PeerRef) (candidate mid : JsString) :
    (Handled.localCandidate client surroundings manager peer candidate mid).manager =
      manager.localCandidate (Handled.met client surroundings) peer candidate mid := by
  have honline : (Handled.met client surroundings).online = client.isOnline := rfl
  unfold Handled.localCandidate BackendWebRtcManager.localCandidate
  cases manager.states.get? peer with
  | none => rfl
  | some state =>
    simp only
    split
    · rfl
    · cases hclient : client.isOnline with
      | true =>
        have hup : ¬ ¬ (Handled.met client surroundings).online = true := by rw [honline, hclient, not_not]
        rw [client.send_of_online hclient, if_neg hup]
        rfl
      | false =>
        have hdown : ¬ (Handled.met client surroundings).online = true := by
          rw [honline, hclient]
          exact Bool.noConfusion
        obtain ⟨error, hsend⟩ := client.send_of_offline hclient
        rw [hsend, if_pos hdown]
        exact manager_failPeer _

theorem manager_stateChanged (peer : PeerRef) (connectionState : PeerConnectionState) :
    (Handled.stateChanged manager peer connectionState).manager =
      manager.stateChanged peer connectionState := by
  unfold Handled.stateChanged BackendWebRtcManager.stateChanged
  cases manager.states.get? peer with
  | none => rfl
  | some state =>
    simp only
    split
    · rfl
    · rfl

theorem manager_channelMessage (channel : ChannelRef) (raw : JsString) :
    (Handled.channelMessage client surroundings manager channel raw).manager =
      manager.channelMessage (Handled.met client surroundings) channel raw := by
  unfold Handled.channelMessage BackendWebRtcManager.channelMessage
  cases manager.channels.get? channel with
  | none => rfl
  | some peer =>
    simp only
    cases manager.states.get? peer with
    | none => rfl
    | some state =>
      simp only
      split
      · rfl
      · split
        · exact manager_failPeer _
        · cases decodeDataChannelAuthenticateFrame raw with
          | none => exact manager_failPeer _
          | some hello => rfl

theorem manager_timedOut (timer : TimerRef) :
    (Handled.timedOut client surroundings manager timer).manager =
      manager.timedOut (Handled.met client surroundings) timer := by
  unfold Handled.timedOut BackendWebRtcManager.timedOut
  cases manager.timers.get? timer with
  | none => rfl
  | some peer =>
    simp only
    cases manager.states.get? peer with
    | none => rfl
    | some state => exact manager_failPeer _

theorem manager_continueAuthentication (ref : AuthorizationRef) (outcome : Except String BackendAuthorizationResult) :
    (Handled.continueAuthentication client surroundings manager ref outcome).manager =
      manager.continueAuthentication (Handled.met client surroundings) ref outcome := by
  unfold Handled.continueAuthentication BackendWebRtcManager.continueAuthentication
  cases manager.authentications.get? ref with
  | none => rfl
  | some pending =>
    simp only
    cases manager.states.get? pending.peer with
    | none => rfl
    | some state =>
      simp only
      cases pending.proof with
      | error error =>
        simp only [BackendWebRtcManager.catchRejection]
        split
        · exact manager_failPeer _
        · rfl
      | ok proof =>
        cases outcome with
        | error message => rfl
        | ok authorization => rfl

theorem manager_applySignal (connectionId : JsString) (message : IceSignal) :
    (Handled.applySignal client surroundings manager connectionId message).manager =
      manager.applySignal (Handled.met client surroundings) connectionId message := by
  have hthrows : (Handled.met client surroundings).peerThrows = surroundings.peerThrows := rfl
  unfold Handled.applySignal BackendWebRtcManager.applySignal
  rw [hthrows]
  cases manager.peers.get? connectionId with
  | none =>
    simp only
    cases hclient : client.isOnline with
    | true =>
      rw [client.send_of_online hclient]
      rfl
    | false =>
      obtain ⟨error, hsend⟩ := client.send_of_offline hclient
      rw [hsend, send_offline hclient]
      rfl
  | some peer =>
    simp only
    cases manager.states.get? peer with
    | none => rfl
    | some state =>
      simp only
      cases message.description? with
      | none =>
        simp only
        split
        · exact manager_failPeer _
        · rfl
      | some description =>
        obtain ⟨type, sdp⟩ := description
        cases type with
        | answer => exact manager_failPeer _
        | offer =>
          simp only
          split
          · exact manager_failPeer _
          · rfl

/-- The manager that a handler leaves is the one of the handler without exceptions. -/
theorem perform_refines (event : PeerEvent) :
    (perform client surroundings manager event).manager =
      handle (Handled.met client surroundings) manager event.event := by
  cases event with
  | localDescription peer sdp type => exact manager_localDescription peer sdp type
  | localCandidate peer candidate mid => exact manager_localCandidate peer candidate mid
  | stateChanged peer connectionState => exact manager_stateChanged peer connectionState
  | channelMessage channel raw => exact manager_channelMessage channel raw
  | timedOut timer => exact manager_timedOut timer
  | authenticationContinued ref outcome => exact manager_continueAuthentication ref outcome
  | signal connectionId message => exact manager_applySignal connectionId message

/-- The handler has something to hand to the rendezvous client: an answer or a candidate of a
    current peer, or a connection to close. -/
def ReachesClient (surroundings : Surroundings) (manager : BackendWebRtcManager options) : PeerEvent → Prop
  | .localDescription peer _ type => ∃ state offerSdp, manager.states.get? peer = some state ∧
      state.offerSdp = some offerSdp ∧ manager.isCurrent peer state = true ∧ type = .answer ∧ offerSdp ≠ []
  | .localCandidate peer _ _ => ∃ state, manager.states.get? peer = some state ∧ manager.isCurrent peer state = true
  | .stateChanged _ _ => False
  | .channelMessage channel raw => ∃ peer state, manager.channels.get? channel = some peer ∧
      manager.states.get? peer = some state ∧ state.authenticated = none ∧
        BackendWebRtcManager.isRefused raw = true
  | .timedOut timer => ∃ peer state, manager.timers.get? timer = some peer ∧ manager.states.get? peer = some state
  | .authenticationContinued ref _ => ∃ pending state error, manager.authentications.get? ref = some pending ∧
      manager.states.get? pending.peer = some state ∧ pending.proof = .error error ∧
        manager.isCurrent pending.peer state = true
  | .signal connectionId message => manager.peers.get? connectionId = none ∨ ∃ peer state,
      manager.peers.get? connectionId = some peer ∧ manager.states.get? peer = some state ∧
        (surroundings.peerThrows = true ∨ ∃ sdp, message.description? = some (.answer, sdp))

theorem thrown_failPeer (connectionId : JsString) :
    (Handled.failPeer client surroundings manager connectionId).thrown = none ↔ client.isOnline = true := by
  unfold Handled.failPeer
  cases honline : client.isOnline with
  | true =>
    rw [client.send_of_online honline]
    exact iff_of_true rfl rfl
  | false =>
    obtain ⟨error, hsend⟩ := client.send_of_offline honline
    rw [hsend]
    exact iff_of_false (Option.some_ne_none error) Bool.noConfusion

theorem thrown_failPeer_of_reaches {event : PeerEvent} (h : ReachesClient surroundings manager event)
    (failing : BackendWebRtcManager options) (connectionId : JsString) :
    (Handled.failPeer client surroundings failing connectionId).thrown = none ↔
      client.isOnline = true ∨ ¬ ReachesClient surroundings manager event := by
  rw [thrown_failPeer]
  exact ⟨.inl, fun hor => hor.resolve_right (not_not_intro h)⟩

theorem thrown_send {event : PeerEvent} (h : ReachesClient surroundings manager event)
    (failing sent : BackendWebRtcManager options) (connectionId : JsString) :
    (match client.send with
      | .error _ => Handled.failPeer client surroundings failing connectionId
      | .ok () => Handled.done sent).thrown = none ↔
      client.isOnline = true ∨ ¬ ReachesClient surroundings manager event := by
  cases honline : client.isOnline with
  | true =>
    rw [client.send_of_online honline]
    exact iff_of_true rfl (.inl rfl)
  | false =>
    obtain ⟨error, hsend⟩ := client.send_of_offline honline
    rw [hsend, ← honline]
    exact thrown_failPeer_of_reaches h failing connectionId

/-- An exception leaves a handler exactly where the client is offline and the handler has something for it. -/
theorem thrown_perform (event : PeerEvent) : (perform client surroundings manager event).thrown = none ↔
    client.isOnline = true ∨ ¬ ReachesClient surroundings manager event := by
  cases event with
  | localDescription peer sdp type =>
    change (Handled.localDescription client surroundings manager peer sdp type).thrown = none ↔ _
    unfold Handled.localDescription
    split
    · rename_i hstate
      refine iff_of_true rfl (.inr ?_)
      rintro ⟨other, _, hsome, -⟩
      rw [hstate] at hsome
      cases hsome
    · rename_i state hstate
      split
      · rename_i hoffer
        refine iff_of_true rfl (.inr ?_)
        rintro ⟨other, offerSdp, hsome, hoffered, -⟩
        rw [hstate] at hsome
        cases hsome
        rw [hoffer] at hoffered
        cases hoffered
      · rename_i offerSdp hoffer
        split
        · rename_i hidle
          refine iff_of_true rfl (.inr ?_)
          rintro ⟨other, offered, hsome, hoffered, hcurrent, htype, hfull⟩
          rw [hstate] at hsome
          cases hsome
          rw [hoffer] at hoffered
          cases hoffered
          exact hidle.elim (fun h => h hcurrent) (fun h => h.elim (fun h => h htype) hfull)
        · rename_i hbusy
          rw [not_or, not_or, not_not, not_not] at hbusy
          have hreaches : ReachesClient surroundings manager (.localDescription peer sdp type) :=
            ⟨state, offerSdp, hstate, hoffer, hbusy⟩
          split
          · exact thrown_failPeer_of_reaches hreaches _ _
          · exact thrown_send hreaches _ _ _
  | localCandidate peer candidate mid =>
    change (Handled.localCandidate client surroundings manager peer candidate mid).thrown = none ↔ _
    unfold Handled.localCandidate
    split
    · rename_i hstate
      refine iff_of_true rfl (.inr ?_)
      rintro ⟨other, hsome, -⟩
      rw [hstate] at hsome
      cases hsome
    · rename_i state hstate
      split
      · rename_i hstale
        refine iff_of_true rfl (.inr ?_)
        rintro ⟨other, hsome, hcurrent⟩
        rw [hstate] at hsome
        cases hsome
        exact hstale hcurrent
      · rename_i hcurrent
        have hreaches : ReachesClient surroundings manager (.localCandidate peer candidate mid) :=
          ⟨state, hstate, not_not.mp hcurrent⟩
        exact thrown_send hreaches _ _ _
  | stateChanged peer connectionState =>
    refine iff_of_true ?_ (.inr id)
    change (Handled.stateChanged manager peer connectionState).thrown = none
    unfold Handled.stateChanged
    split
    · rfl
    · split
      · rfl
      · rfl
  | channelMessage channel raw =>
    change (Handled.channelMessage client surroundings manager channel raw).thrown = none ↔ _
    unfold Handled.channelMessage
    split
    · rename_i hchannel
      refine iff_of_true rfl (.inr ?_)
      rintro ⟨other, _, hsome, -⟩
      rw [hchannel] at hsome
      cases hsome
    · rename_i peer hchannel
      split
      · rename_i hstate
        refine iff_of_true rfl (.inr ?_)
        rintro ⟨other, state, hpeer, hsome, -⟩
        rw [hchannel] at hpeer
        cases hpeer
        rw [hstate] at hsome
        cases hsome
      · rename_i state hstate
        have hreaches : ReachesClient surroundings manager (.channelMessage channel raw) ↔
            state.authenticated = none ∧ BackendWebRtcManager.isRefused raw = true := by
          constructor
          · rintro ⟨other, found, hpeer, hsome, hfacts⟩
            rw [hchannel] at hpeer
            cases hpeer
            rw [hstate] at hsome
            cases hsome
            exact hfacts
          · exact fun hfacts => ⟨peer, state, hchannel, hstate, hfacts⟩
        split
        · rename_i hauthenticated
          refine iff_of_true rfl (.inr fun h => ?_)
          rw [(hreaches.mp h).1] at hauthenticated
          cases hauthenticated
        · rename_i hfirst
          rw [Bool.not_eq_true, Option.isSome_eq_false_iff, Option.isNone_iff_eq_none] at hfirst
          split
          · rename_i hlarge
            refine thrown_failPeer_of_reaches (hreaches.mpr ⟨hfirst, ?_⟩) _ _
            rw [BackendWebRtcManager.isRefused, decide_eq_true hlarge, Bool.true_or]
          · rename_i hsmall
            split
            · rename_i hmalformed
              refine thrown_failPeer_of_reaches (hreaches.mpr ⟨hfirst, ?_⟩) _ _
              rw [BackendWebRtcManager.isRefused, hmalformed, Option.isNone_none, Bool.or_true]
            · rename_i hello hdecoded
              refine iff_of_true rfl (.inr fun h => ?_)
              have hrefused := (hreaches.mp h).2
              rw [BackendWebRtcManager.isRefused, hdecoded, decide_eq_false hsmall] at hrefused
              cases hrefused
  | timedOut timer =>
    change (Handled.timedOut client surroundings manager timer).thrown = none ↔ _
    unfold Handled.timedOut
    split
    · rename_i htimer
      refine iff_of_true rfl (.inr ?_)
      rintro ⟨other, _, hsome, -⟩
      rw [htimer] at hsome
      cases hsome
    · rename_i peer htimer
      simp only
      split
      · rename_i hstate
        refine iff_of_true rfl (.inr ?_)
        rintro ⟨other, state, hpeer, hsome⟩
        rw [htimer] at hpeer
        cases hpeer
        rw [hstate] at hsome
        cases hsome
      · rename_i state hstate
        have hreaches : ReachesClient surroundings manager (.timedOut timer) := ⟨peer, state, htimer, hstate⟩
        exact thrown_failPeer_of_reaches hreaches _ _
  | authenticationContinued ref outcome =>
    change (Handled.continueAuthentication client surroundings manager ref outcome).thrown = none ↔ _
    unfold Handled.continueAuthentication
    split
    · rename_i hpending
      refine iff_of_true rfl (.inr ?_)
      rintro ⟨other, _, _, hsome, -⟩
      rw [hpending] at hsome
      cases hsome
    · rename_i pending hpending
      simp only
      split
      · rename_i hstate
        refine iff_of_true rfl (.inr ?_)
        rintro ⟨other, state, error, hsome, hfound, -⟩
        rw [hpending] at hsome
        cases hsome
        rw [hstate] at hfound
        cases hfound
      · rename_i state hstate
        split
        · rename_i error hproof
          split
          · rename_i hcurrent
            have hreaches : ReachesClient surroundings manager (.authenticationContinued ref outcome) :=
              ⟨pending, state, error, hpending, hstate, hproof, hcurrent⟩
            exact thrown_failPeer_of_reaches hreaches _ _
          · rename_i hstale
            refine iff_of_true rfl (.inr ?_)
            rintro ⟨other, found, _, hsome, hfound, -, hcurrent⟩
            rw [hpending] at hsome
            cases hsome
            rw [hstate] at hfound
            cases hfound
            exact hstale hcurrent
        · rename_i proof hproof
          have hsettles : ¬ ReachesClient surroundings manager (.authenticationContinued ref outcome) := by
            rintro ⟨other, found, error, hsome, -, hrejected, -⟩
            rw [hpending] at hsome
            cases hsome
            rw [hproof] at hrejected
            cases hrejected
          split
          · exact iff_of_true rfl (.inr hsettles)
          · exact iff_of_true rfl (.inr hsettles)
  | signal connectionId message =>
    change (Handled.applySignal client surroundings manager connectionId message).thrown = none ↔ _
    unfold Handled.applySignal
    split
    · rename_i hunknown
      have hreaches : ReachesClient surroundings manager (.signal connectionId message) := .inl hunknown
      cases honline : client.isOnline with
      | true =>
        rw [client.send_of_online honline]
        exact iff_of_true rfl (.inl rfl)
      | false =>
        obtain ⟨error, hsend⟩ := client.send_of_offline honline
        rw [hsend]
        exact iff_of_false (Option.some_ne_none error) fun hor => hor.elim Bool.noConfusion fun h => h hreaches
    · rename_i peer hpeer
      have hknown : ∀ {state : PeerState options}, manager.states.get? peer = some state →
          (ReachesClient surroundings manager (.signal connectionId message) ↔
            surroundings.peerThrows = true ∨ ∃ sdp, message.description? = some (.answer, sdp)) := by
        intro state hstate
        constructor
        · rintro (hunknown | ⟨other, found, hsome, hfound, hfacts⟩)
          · rw [hpeer] at hunknown
            cases hunknown
          · exact hfacts
        · exact fun hfacts => .inr ⟨peer, state, hpeer, hstate, hfacts⟩
      split
      · rename_i hstate
        refine iff_of_true rfl (.inr ?_)
        rintro (hunknown | ⟨other, found, hsome, hfound, -⟩)
        · rw [hpeer] at hunknown
          cases hunknown
        · rw [hpeer] at hsome
          cases hsome
          rw [hstate] at hfound
          cases hfound
      · rename_i state hstate
        have hreaches := hknown hstate
        split
        · rename_i hcandidate
          split
          · rename_i hthrows
            exact thrown_failPeer_of_reaches (hreaches.mpr (.inl hthrows)) _ _
          · rename_i hfine
            refine iff_of_true rfl (.inr fun h => ?_)
            obtain hthrows | ⟨sdp, hanswer⟩ := hreaches.mp h
            · exact hfine hthrows
            · rw [hcandidate] at hanswer
              cases hanswer
        · rename_i sdp hanswer
          exact thrown_failPeer_of_reaches (hreaches.mpr (.inr ⟨sdp, hanswer⟩)) _ _
        · rename_i sdp hoffer
          simp only
          split
          · rename_i hthrows
            exact thrown_failPeer_of_reaches (hreaches.mpr (.inl hthrows)) _ _
          · rename_i hfine
            refine iff_of_true rfl (.inr fun h => ?_)
            obtain hthrows | ⟨other, hanswer⟩ := hreaches.mp h
            · exact hfine hthrows
            · rw [hoffer] at hanswer
              cases hanswer

/-- A handler that fails a peer goes to `failPeer`; every other one reports nothing. -/
theorem perform_cases (event : PeerEvent) :
    (perform client surroundings manager event).manager.reported = manager.reported ∨
      ∃ (failing : BackendWebRtcManager options) (connectionId : JsString),
        perform client surroundings manager event = Handled.failPeer client surroundings failing connectionId ∧
          failing.peers = manager.peers ∧ failing.reported = manager.reported := by
  cases event with
  | localDescription peer sdp type =>
    change (Handled.localDescription client surroundings manager peer sdp type).manager.reported = _ ∨
      ∃ failing connectionId, Handled.localDescription client surroundings manager peer sdp type = _ ∧ _
    unfold Handled.localDescription
    split
    · exact .inl rfl
    · split
      · exact .inl rfl
      · split
        · exact .inl rfl
        · split
          · exact .inr ⟨_, _, rfl, rfl, rfl⟩
          · simp only
            split
            · exact .inr ⟨_, _, rfl, rfl, rfl⟩
            · left
              rw [Handled.done, reported_send, reported_send]
              rfl
  | localCandidate peer candidate mid =>
    change (Handled.localCandidate client surroundings manager peer candidate mid).manager.reported = _ ∨
      ∃ failing connectionId, Handled.localCandidate client surroundings manager peer candidate mid = _ ∧ _
    unfold Handled.localCandidate
    split
    · exact .inl rfl
    · split
      · exact .inl rfl
      · split
        · exact .inr ⟨_, _, rfl, rfl, rfl⟩
        · exact .inl (reported_send _)
  | stateChanged peer connectionState =>
    left
    change (Handled.stateChanged manager peer connectionState).manager.reported = _
    unfold Handled.stateChanged
    split
    · rfl
    · split
      · exact reported_removePeer _
      · rfl
  | channelMessage channel raw =>
    change (Handled.channelMessage client surroundings manager channel raw).manager.reported = _ ∨
      ∃ failing connectionId, Handled.channelMessage client surroundings manager channel raw = _ ∧ _
    unfold Handled.channelMessage
    split
    · exact .inl rfl
    · split
      · exact .inl rfl
      · split
        · exact .inl rfl
        · split
          · exact .inr ⟨_, _, rfl, rfl, rfl⟩
          · split
            · exact .inr ⟨_, _, rfl, rfl, rfl⟩
            · exact .inl rfl
  | timedOut timer =>
    change (Handled.timedOut client surroundings manager timer).manager.reported = _ ∨
      ∃ failing connectionId, Handled.timedOut client surroundings manager timer = _ ∧ _
    unfold Handled.timedOut
    split
    · exact .inl rfl
    · simp only
      split
      · exact .inl rfl
      · exact .inr ⟨_, _, rfl, rfl, rfl⟩
  | authenticationContinued ref outcome =>
    change (Handled.continueAuthentication client surroundings manager ref outcome).manager.reported = _ ∨
      ∃ failing connectionId, Handled.continueAuthentication client surroundings manager ref outcome = _ ∧ _
    unfold Handled.continueAuthentication
    split
    · exact .inl rfl
    · simp only
      split
      · exact .inl rfl
      · split
        · split
          · exact .inr ⟨_, _, rfl, rfl, rfl⟩
          · exact .inl rfl
        · split
          · exact .inl rfl
          · exact .inl (reported_completeAuthentication _ _ _ _ _)
  | signal connectionId message =>
    change (Handled.applySignal client surroundings manager connectionId message).manager.reported = _ ∨
      ∃ failing connectionId', Handled.applySignal client surroundings manager connectionId message = _ ∧ _
    unfold Handled.applySignal
    split
    · split
      · exact .inl (reported_send _)
      · exact .inl rfl
    · split
      · exact .inl rfl
      · split
        · split
          · exact .inr ⟨_, _, rfl, rfl, rfl⟩
          · exact .inl rfl
        · exact .inr ⟨_, _, rfl, rfl, rfl⟩
        · simp only
          split
          · exact .inr ⟨_, _, rfl, rfl, rfl⟩
          · exact .inl rfl

/-- No connection has the identifier any more, and the native connection that had it was closed. -/
def IsRemoved (manager : BackendWebRtcManager options) (handled : Handled options) (connectionId : JsString) : Prop :=
  handled.manager.peers.get? connectionId = none ∧
    ∀ peer, manager.peers.get? connectionId = some peer → peer ∈ handled.closed

theorem isRemoved_removePeer (connectionId : JsString) :
    IsRemoved manager (Handled.removePeer manager connectionId) connectionId := by
  refine ⟨?_, ?_⟩
  · change (manager.removePeer connectionId).peers.get? connectionId = none
    unfold BackendWebRtcManager.removePeer
    split
    · assumption
    · simp only
      split
      · exact OrderedMap.get?_erase_self _ _
      · rw [peers_clearTimeout]
        exact OrderedMap.get?_erase_self _ _
  · intro peer hpeer
    change peer ∈ (manager.peers.get? connectionId).toList
    rw [hpeer]
    exact List.mem_singleton_self peer

theorem isRemoved_failPeer (connectionId : JsString) :
    IsRemoved manager (Handled.failPeer client surroundings manager connectionId) connectionId := by
  unfold Handled.failPeer
  split
  · have hpeers : ((manager.report connectionId).send (Handled.met client surroundings)
        (.closeConnection connectionId (js "WebRTC negotiation failed"))).peers = manager.peers := peers_send _
    rw [IsRemoved, ← hpeers]
    exact isRemoved_removePeer connectionId
  · exact isRemoved_removePeer connectionId

theorem reported_failPeer (connectionId : JsString) :
    (Handled.failPeer client surroundings manager connectionId).manager.reported =
      manager.reported ++ [connectionId] := by
  unfold Handled.failPeer
  split
  · exact (reported_removePeer _).trans (reported_send _)
  · exact reported_removePeer _

/-- A handler fails a connection: it reports an error for it, or the state of its native connection is one that cannot
    go on. -/
def Fails (client : RendezvousClient) (surroundings : Surroundings) (manager : BackendWebRtcManager options)
    (event : PeerEvent) (connectionId : JsString) : Prop :=
  connectionId ∈ (perform client surroundings manager event).manager.reported ∨
    ∃ peer state connectionState, event = .stateChanged peer connectionState ∧
      manager.states.get? peer = some state ∧ state.connectionId = connectionId ∧
        (connectionState = .failed ∨ connectionState = .closed)

/-- A connection that fails is removed and closed, whether or not an exception leaves the handler. -/
theorem isRemoved_of_fails {event : PeerEvent} {connectionId : JsString} (hstart : manager.reported = [])
    (hfails : Fails client surroundings manager event connectionId) :
    IsRemoved manager (perform client surroundings manager event) connectionId := by
  obtain hreported | ⟨peer, state, connectionState, rfl, hstate, rfl, hended⟩ := hfails
  · obtain hsame | ⟨failing, failed, hfailed, hpeers, hsame⟩ := perform_cases event
    · rw [hsame, hstart] at hreported
      cases hreported
    · rw [hfailed, reported_failPeer, hsame, hstart] at hreported
      obtain rfl := List.mem_singleton.mp hreported
      rw [hfailed, IsRemoved, ← hpeers]
      exact isRemoved_failPeer connectionId
  · have hperformed : perform client surroundings manager (.stateChanged peer connectionState) =
        Handled.removePeer manager state.connectionId := by
      change Handled.stateChanged manager peer connectionState = _
      unfold Handled.stateChanged
      rw [hstate]
      exact if_pos hended
    rw [hperformed]
    exact isRemoved_removePeer _

end

/-- The manager when an event comes. -/
def BackendWebRtcManager.begin (manager : BackendWebRtcManager options) : BackendWebRtcManager options :=
  { manager with reported := [], sent := [] }

/-- A handler of a peer ends without an exception, and every connection that it fails is removed and closed. -/
def Completes (client : RendezvousClient) (surroundings : Surroundings) (manager : BackendWebRtcManager options)
    (event : PeerEvent) : Prop :=
  (perform client surroundings manager.begin event).thrown = none ∧
    ∀ connectionId, Fails client surroundings manager.begin event connectionId →
      IsRemoved manager (perform client surroundings manager.begin event) connectionId

theorem reachesClient_begin {surroundings : Surroundings} {manager : BackendWebRtcManager options}
    (event : PeerEvent) : ReachesClient surroundings manager.begin event ↔ ReachesClient surroundings manager event := by
  cases event with
  | localDescription | localCandidate | stateChanged | channelMessage | timedOut => exact Iff.rfl
  | authenticationContinued | signal => exact Iff.rfl

/-- A handler of a peer completes exactly where the rendezvous client can send or the handler has nothing for it. -/
theorem peer_handlers_complete_iff (client : RendezvousClient) (surroundings : Surroundings)
    (manager : BackendWebRtcManager options) (event : PeerEvent) :
    Completes client surroundings manager event ↔
      client.isOnline = true ∨ ¬ ReachesClient surroundings manager event := by
  rw [← reachesClient_begin, ← thrown_perform]
  refine ⟨And.left, fun h => ⟨h, fun connectionId hfails => ?_⟩⟩
  exact isRemoved_of_fails rfl hfails

def pairingChallenge : DeviceChallenge where
  challengeId := js "ch_0"
  nonce := js "1"
  purpose := .pair
  deviceId := js "d_QUJD"
  devicePublicKey := js "QUJD"
  backendId := some (.str (js "b_x"))
  connectionId := some (.str (js "c_0"))
  pairId := some (.str (js "pair_0"))
  targetDeviceId := none
  expiresAt := 120001

def pairingClaims : Value :=
  trust_store.claimsValue .pairing (js "t_2") pairingChallenge (js "QUJD") none (some (.str (js "pair_0"))) 1 120001

def pairingTicket : JsString :=
  trust_store.encodeClaims pairingClaims ++ 0x2E :: trust_store.plainSignature (js "VElD")
    (connectionTicketSignaturePayload (trust_store.encodeClaims pairingClaims))

def plainOptions : BackendWebRtcManagerOptions where
  crypto := trust_store.plainCrypto
  identity := { backendId := js "b_x", publicKey := js "REVG", sign := trust_store.plainSignature (js "REVG") }

def pairingRequest : BackendConnectionRequest where
  connectionId := js "c_0"
  ticket := pairingTicket
  iceServers := []

def connecting : BackendWebRtcManager plainOptions :=
  step {} { event := .connectionRequest pairingRequest,
            surroundings := { ticketPublicKey := some (js "VElD"), now := 1 } }

/-- A candidate that the native connection finds while the rendezvous client reconnects: the callback throws. -/
theorem candidate_escapes : ¬ Completes ⟨false, false⟩ {} connecting (.localCandidate 0 (js "candidate") (js "0")) := by
  rw [Completes, not_and_or]
  left
  decide +kernel

end pipane.backend_webrtc

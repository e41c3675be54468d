import Pipane.Lib.Transition
import Pipane.Server.BackendWebRtc.Escapes

open javascript json transition pipane.trust_protocol pipane.node_trust_crypto pipane.rendezvous_protocol
open pipane.backend_identity

namespace pipane.backend_webrtc

variable {options : BackendWebRtcManagerOptions}

/-- The peer whose native callback, timer or authorization an event is. -/
def callbackPeer (manager : BackendWebRtcManager options) : Event → Option PeerRef
  | .localDescription peer _ _ | .localCandidate peer _ _ | .stateChanged peer _ | .dataChannel peer _ _ => some peer
  | .channelMessage channel _ => manager.channels.get? channel
  | .timedOut timer => manager.timers.get? timer
  | .authenticationContinued ref _ => (manager.authentications.get? ref).map PendingAuthentication.peer
  | .connectionRequest _ | .signal _ _ | .connectionClosed _ | .authorizationClosed _ _ | .closed => none

/-- The connection id of a peer belongs to another one by now. -/
def Superseded (manager : BackendWebRtcManager options) (peer successor : PeerRef) (connectionId : JsString) : Prop :=
  (∃ state, manager.states.get? peer = some state ∧ state.connectionId = connectionId) ∧
    manager.peers.get? connectionId = some successor ∧ successor ≠ peer

/-- An event leaves a peer that has a connection id as it is: it keeps the id, its state and its timer, and nothing was
    reported or closed for the id. -/
structure Spares (manager next : BackendWebRtcManager options) (connectionId : JsString) (peer : PeerRef) : Prop where
  current : next.peers.get? connectionId = some peer
  state : next.states.get? peer = manager.states.get? peer
  timers : ∀ timer, manager.timers.get? timer = some peer → next.timers.get? timer = some peer
  reported : connectionId ∉ next.reported
  sent : ∀ reason, Outgoing.closeConnection connectionId reason ∉ next.sent

/-- A channel that may be exposed: `authorize` resolved for the device of the ticket while the peer was current, and what
    the device proved was proved of the verified ticket of that peer and of a binding that was signed for it. -/
def Admitted (manager : BackendWebRtcManager options) (event : Event)
    (connection : AuthenticatedDataChannel options) : Prop :=
  ∃ ref state, event = .authenticationContinued ref (.ok connection.authorization) ∧
    manager.authentications.get? ref = some ⟨connection.peer, connection.channel, .ok connection.proof⟩ ∧
    manager.states.get? connection.peer = some state ∧
    manager.peers.get? state.connectionId = some connection.peer ∧
    connection.proof.opened = state.opened ∧ connection.proof.binding ∈ state.bindings ∧
    connection.authorization.deviceId = state.opened.claims.deviceId

/-- What is asked of an event: it exposes admitted channels only, at most one of a peer, and the callback of a peer
    spares the peer that has replaced it. -/
structure SafeStep (manager : BackendWebRtcManager options) (input : Input) : Prop where
  gate : ∀ connection ∈ (step manager input).exposed,
    connection ∈ manager.exposed ∨ Admitted manager input.event connection
  once : ((step manager input).exposed.map AuthenticatedDataChannel.peer).Nodup
  isolated : ∀ peer successor connectionId, callbackPeer manager input.event = some peer →
    Superseded manager peer successor connectionId → Spares manager (step manager input) connectionId successor

/-- A peer that was replaced does not end, time out or send a refused first frame, and no authorization resolves for a
    current peer of which a channel was exposed. -/
def Harmless (manager : BackendWebRtcManager options) (input : Input) : Prop :=
  match input.event with
  | .stateChanged peer connectionState =>
    connectionState = .failed ∨ connectionState = .closed →
      ∀ successor connectionId, ¬ Superseded manager peer successor connectionId
  | .timedOut timer => ∀ peer successor connectionId, manager.timers.get? timer = some peer →
      ¬ Superseded manager peer successor connectionId
  | .channelMessage channel raw => BackendWebRtcManager.isRefused raw = true →
      ∀ peer state successor connectionId, manager.channels.get? channel = some peer →
        manager.states.get? peer = some state → state.authenticated = none →
          ¬ Superseded manager peer successor connectionId
  | .authenticationContinued ref (.ok authorization) => ∀ pending state proof,
      manager.authentications.get? ref = some pending → manager.states.get? pending.peer = some state →
        pending.proof = .ok proof → manager.isCurrent pending.peer state = true →
          authorization.deviceId = state.opened.claims.deviceId → input.surroundings.channelThrows = false →
            pending.peer ∉ manager.exposed.map AuthenticatedDataChannel.peer
  | _ => True

/-- What a part of a handler leaves as it was, beside the peers, the timers that it clears and what it sends. -/
structure Quiet (manager next : BackendWebRtcManager options) : Prop where
  states : next.states = manager.states
  authentications : next.authentications = manager.authentications
  allocated : next.allocated = manager.allocated
  exposed : next.exposed = manager.exposed
  timers : ∀ timer peer, next.timers.get? timer = some peer → manager.timers.get? timer = some peer

theorem Quiet.refl (manager : BackendWebRtcManager options) : Quiet manager manager :=
  ⟨rfl, rfl, rfl, rfl, fun _ _ h => h⟩

theorem Quiet.trans {manager next last : BackendWebRtcManager options} (h : Quiet manager next)
    (hlast : Quiet next last) : Quiet manager last :=
  ⟨hlast.states.trans h.states, hlast.authentications.trans h.authentications, hlast.allocated.trans h.allocated,
    hlast.exposed.trans h.exposed, fun timer peer htimer => h.timers timer peer (hlast.timers timer peer htimer)⟩

section

variable {surroundings : Surroundings} (manager : BackendWebRtcManager options)

theorem quiet_begin : Quiet manager manager.begin :=
  ⟨rfl, rfl, rfl, rfl, fun _ _ h => h⟩

theorem quiet_send (message : Outgoing) : Quiet manager (manager.send surroundings message) := by
  unfold BackendWebRtcManager.send
  split
  · exact ⟨rfl, rfl, rfl, rfl, fun _ _ h => h⟩
  · exact .refl manager

theorem quiet_report (connectionId : JsString) : Quiet manager (manager.report connectionId) :=
  ⟨rfl, rfl, rfl, rfl, fun _ _ h => h⟩

theorem quiet_clearTimeout (timer : Option TimerRef) : Quiet manager (manager.clearTimeout timer) := by
  cases timer with
  | none => exact .refl manager
  | some timer => exact ⟨rfl, rfl, rfl, rfl, fun _ _ h => (OrderedMap.get?_of_erase h).2⟩

theorem quiet_removePeer (connectionId : JsString) : Quiet manager (manager.removePeer connectionId) := by
  unfold BackendWebRtcManager.removePeer
  split
  · exact .refl manager
  · rename_i peer hpeer
    have herased : Quiet manager { manager with peers := manager.peers.erase connectionId } :=
      ⟨rfl, rfl, rfl, rfl, fun _ _ h => h⟩
    simp only
    split
    · exact herased
    · exact herased.trans (quiet_clearTimeout _ _)

theorem quiet_failPeer (connectionId : JsString) : Quiet manager (manager.failPeer surroundings connectionId) :=
  ((quiet_report manager connectionId).trans (quiet_send _ _)).trans (quiet_removePeer _ _)

theorem quiet_rejectRequest (connectionId : JsString) (message : String) :
    Quiet manager (manager.rejectRequest surroundings connectionId message) :=
  (quiet_report manager connectionId).trans (quiet_send _ _)

theorem quiet_closeAuthorized (picks : BackendAuthorizationResult → Bool) (peers : List (JsString × PeerRef)) :
    Quiet manager (manager.closeAuthorized picks peers) := by
  induction peers generalizing manager with
  | nil => exact .refl manager
  | cons entry peers ih =>
    rw [BackendWebRtcManager.closeAuthorized]
    split
    · exact ih manager
    · split
      · exact (quiet_removePeer manager entry.1).trans (ih _)
      · exact ih manager

theorem quiet_close : Quiet manager manager.close := by
  have hloop : ∀ (connectionIds : List JsString) (manager : BackendWebRtcManager options),
      Quiet manager (connectionIds.foldl BackendWebRtcManager.removePeer manager) := by
    intro connectionIds
    induction connectionIds with
    | nil => exact Quiet.refl
    | cons connectionId connectionIds ih =>
      intro manager
      exact (quiet_removePeer manager connectionId).trans (ih _)
  exact hloop _ manager

end

/-- What the manager has recorded of its peers: a proof that waits for its authorization is one of the ticket and of a
    binding of its peer, and no reference is used before it is allocated. -/
structure Recorded (manager : BackendWebRtcManager options) : Prop where
  proofs : ∀ ref pending proof, manager.authentications.get? ref = some pending → pending.proof = .ok proof →
    ∃ state, manager.states.get? pending.peer = some state ∧ proof.opened = state.opened ∧
      proof.binding ∈ state.bindings
  states : ∀ peer state, manager.states.get? peer = some state → peer < manager.allocated
  timers : ∀ timer peer, manager.timers.get? timer = some peer → timer < manager.allocated

theorem recorded_start : Recorded ({} : BackendWebRtcManager options) where
  proofs _ _ _ h := by cases h
  states _ _ h := by cases h
  timers _ _ h := by cases h

section

variable {manager next : BackendWebRtcManager options}

theorem Recorded.quiet (h : Recorded manager) (hquiet : Quiet manager next) : Recorded next where
  proofs := by
    rw [hquiet.authentications, hquiet.states]
    exact h.proofs
  states := by
    rw [hquiet.states, hquiet.allocated]
    exact h.states
  timers timer peer htimer := by
    rw [hquiet.allocated]
    exact h.timers timer peer (hquiet.timers timer peer htimer)

theorem Recorded.setState (h : Recorded manager) {peer : PeerRef} {state changed : PeerState options}
    (hstate : manager.states.get? peer = some state) (hopened : changed.opened = state.opened)
    (hbindings : ∀ binding ∈ state.bindings, binding ∈ changed.bindings) :
    Recorded (manager.setState peer changed) where
  proofs ref pending proof hpending hproof := by
    obtain ⟨recorded, hrecorded, hticket, hbinding⟩ := h.proofs ref pending proof hpending hproof
    rw [BackendWebRtcManager.setState, OrderedMap.get?_set]
    split
    · rename_i hsame
      rw [hsame, hstate] at hrecorded
      cases hrecorded
      exact ⟨changed, rfl, hticket.trans hopened.symm, hbindings _ hbinding⟩
    · exact ⟨recorded, hrecorded, hticket, hbinding⟩
  states other recorded hrecorded := by
    rw [BackendWebRtcManager.setState, OrderedMap.get?_set] at hrecorded
    split at hrecorded
    · rename_i hsame
      rw [hsame]
      exact h.states peer state hstate
    · exact h.states other recorded hrecorded
  timers := h.timers

theorem Recorded.authentications (h : Recorded manager)
    {authentications : OrderedMap AuthorizationRef (PendingAuthentication options)}
    (hproofs : ∀ ref pending proof, authentications.get? ref = some pending → pending.proof = .ok proof →
      manager.authentications.get? ref = some pending ∨ ∃ state, manager.states.get? pending.peer = some state ∧
        proof.opened = state.opened ∧ proof.binding ∈ state.bindings) :
    Recorded { manager with authentications } where
  proofs ref pending proof hpending hproof := by
    obtain hold | hnew := hproofs ref pending proof hpending hproof
    · exact h.proofs ref pending proof hold hproof
    · exact hnew
  states := h.states
  timers := h.timers

theorem Recorded.reject (h : Recorded manager) (ref : AuthorizationRef) (pending : PendingAuthentication options)
    (message : String) : Recorded (manager.reject ref pending message) := by
  refine h.authentications fun other entry proof hentry hproof => ?_
  rw [OrderedMap.get?_set] at hentry
  split at hentry
  · cases hentry
    cases hproof
  · exact .inl hentry

theorem Recorded.allocate (h : Recorded manager) {allocated : Nat} (hallocated : manager.allocated ≤ allocated) :
    Recorded { manager with allocated } where
  proofs := h.proofs
  states peer state hstate := (h.states peer state hstate).trans_le hallocated
  timers timer peer htimer := (h.timers timer peer htimer).trans_le hallocated

end

section

variable {manager : BackendWebRtcManager options} (surroundings : Surroundings)

theorem recorded_createPeer (h : Recorded manager) (request : BackendConnectionRequest) :
    Recorded (manager.createPeer surroundings request) := by
  have hremoved := h.quiet (quiet_removePeer manager request.connectionId)
  unfold BackendWebRtcManager.createPeer
  simp only
  split
  · exact hremoved.quiet (quiet_rejectRequest _ _ _)
  · rename_i opened hopened
    split
    · exact hremoved
    · refine ⟨fun ref pending proof hpending hproof => ?_, fun peer state hstate => ?_, fun timer peer htimer => ?_⟩
      · obtain ⟨state, hstate, hproved⟩ := hremoved.proofs ref pending proof hpending hproof
        have hold := hremoved.states _ _ hstate
        refine ⟨state, ?_, hproved⟩
        rw [OrderedMap.get?_set_ne (Nat.ne_of_lt hold)]
        exact hstate
      · rw [OrderedMap.get?_set] at hstate
        split at hstate
        · rename_i hsame
          rw [hsame]
          exact Nat.lt_succ_self _
        · exact (hremoved.states peer state hstate).trans (Nat.lt_succ_self _)
      · exact (hremoved.timers timer peer htimer).trans (Nat.lt_succ_self _)

theorem recorded_localDescription (h : Recorded manager) (peer : PeerRef) (sdp : JsString) (type : SdpType) :
    Recorded (manager.localDescription surroundings peer sdp type) := by
  unfold BackendWebRtcManager.localDescription
  split
  · exact h
  · rename_i state hstate
    split
    · exact h
    · split
      · exact h
      · split
        · exact h.quiet (quiet_failPeer _ _)
        · rename_i binding hbinding
          have hsigned : Recorded (manager.setState peer { state with bindings := binding :: state.bindings }) :=
            h.setState hstate rfl fun _ hold => List.mem_cons_of_mem _ hold
          simp only
          split
          · exact hsigned.quiet (quiet_failPeer _ _)
          · exact hsigned.quiet ((quiet_send _ _).trans (quiet_send _ _))

theorem recorded_handleDataChannel (h : Recorded manager) (peer : PeerRef) (label protocol : JsString) :
    Recorded (manager.handleDataChannel peer label protocol) := by
  unfold BackendWebRtcManager.handleDataChannel
  split
  · exact h
  · rename_i state hstate
    split
    · exact h
    · have hset : Recorded (manager.setState peer { state with authenticationTimer := some manager.allocated }) :=
        h.setState hstate rfl fun _ hold => hold
      refine ⟨hset.proofs, fun other recorded hrecorded => ?_, fun timer owner htimer => ?_⟩
      · exact (hset.states other recorded hrecorded).trans_le (Nat.le_add_right _ _)
      · rw [OrderedMap.get?_set] at htimer
        split at htimer
        · rename_i hsame
          rw [hsame]
          exact Nat.lt_add_of_pos_right (by decide)
        · exact (h.timers timer owner htimer).trans_le (Nat.le_add_right _ _)

theorem proveDevice_ok {state : PeerState options} {hello : DataChannelAuthenticateFrame}
    {proof : DeviceProof options} (h : BackendWebRtcManager.proveDevice surroundings state hello = .ok proof) :
    proof.opened = state.opened ∧ proof.binding ∈ state.bindings := by
  unfold BackendWebRtcManager.proveDevice at h
  split at h
  · cases h
  · rename_i binding hbinding
    split at h
    · cases h
    · split at h
      · split at h
        · cases h
          exact ⟨rfl, List.mem_of_mem_head? hbinding⟩
        · cases h
      · cases h

theorem recorded_authenticateChannel (h : Recorded manager) {peer : PeerRef} {channel : ChannelRef}
    {state : PeerState options} (hstate : manager.states.get? peer = some state)
    (hello : DataChannelAuthenticateFrame) :
    Recorded (manager.authenticateChannel surroundings peer channel state hello) := by
  have hpending : Recorded { manager with authentications := (manager.authentications.set manager.allocated
      { peer, channel, proof := BackendWebRtcManager.proveDevice surroundings state hello }) } := by
    refine h.authentications fun ref pending proof hpending hproof => ?_
    rw [OrderedMap.get?_set] at hpending
    split at hpending
    · cases hpending
      exact .inr ⟨state, hstate, proveDevice_ok surroundings hproof⟩
    · exact .inl hpending
  exact hpending.allocate (Nat.le_succ _)

theorem recorded_channelMessage (h : Recorded manager) (channel : ChannelRef) (raw : JsString) :
    Recorded (manager.channelMessage surroundings channel raw) := by
  unfold BackendWebRtcManager.channelMessage
  split
  · exact h
  · split
    · exact h
    · rename_i state hstate
      split
      · exact h
      · split
        · exact h.quiet (quiet_failPeer _ _)
        · split
          · exact h.quiet (quiet_failPeer _ _)
          · exact recorded_authenticateChannel surroundings h hstate _

theorem recorded_completeAuthentication (h : Recorded manager) (ref : AuthorizationRef)
    {pending : PendingAuthentication options} {state : PeerState options}
    (hstate : manager.states.get? pending.peer = some state) (proof : DeviceProof options)
    (authorization : BackendAuthorizationResult) :
    Recorded (manager.completeAuthentication surroundings ref pending state proof authorization) := by
  unfold BackendWebRtcManager.completeAuthentication
  split
  · exact h.reject ref pending _
  · split
    · exact h.reject ref pending _
    · have hset : Recorded (manager.setState pending.peer
          { state with authenticated := some authorization, authenticationTimer := none }) :=
        h.setState hstate rfl fun _ hold => hold
      have hcleared := hset.quiet (quiet_clearTimeout _ state.authenticationTimer)
      simp only
      split
      · exact hcleared.reject ref pending _
      · exact ⟨hcleared.proofs, hcleared.states, hcleared.timers⟩

theorem recorded_continueAuthentication (h : Recorded manager) (ref : AuthorizationRef)
    (outcome : Except String BackendAuthorizationResult) :
    Recorded (manager.continueAuthentication surroundings ref outcome) := by
  unfold BackendWebRtcManager.continueAuthentication
  split
  · exact h
  · rename_i pending hpending
    have herased : Recorded { manager with authentications := manager.authentications.erase ref } :=
      h.authentications fun other entry proof hentry _ => .inl (OrderedMap.get?_of_erase hentry).2
    simp only
    split
    · exact herased
    · rename_i state hstate
      split
      · unfold BackendWebRtcManager.catchRejection
        split
        · exact herased.quiet (quiet_failPeer _ _)
        · exact herased
      · split
        · exact herased.reject ref pending _
        · exact recorded_completeAuthentication surroundings herased ref hstate _ _

theorem recorded_applySignal (h : Recorded manager) (connectionId : JsString) (signal : IceSignal) :
    Recorded (manager.applySignal surroundings connectionId signal) := by
  unfold BackendWebRtcManager.applySignal
  split
  · exact h.quiet (quiet_send _ _)
  · split
    · exact h
    · rename_i state hstate
      split
      · split
        · exact h.quiet (quiet_failPeer _ _)
        · exact h
      · exact h.quiet (quiet_failPeer _ _)
      · rename_i sdp hsdp
        have hset : Recorded (manager.setState _ { state with offerSdp := some sdp }) :=
          h.setState hstate rfl fun _ hold => hold
        simp only
        split
        · exact hset.quiet (quiet_failPeer _ _)
        · exact hset

theorem Recorded.step (h : Recorded manager) (input : Input) : Recorded (step manager input) := by
  have hbegin := h.quiet (quiet_begin manager)
  unfold backend_webrtc.step handle
  split
  · exact recorded_createPeer _ hbegin _
  · exact recorded_applySignal _ hbegin _ _
  · exact hbegin.quiet (quiet_removePeer _ _)
  · exact recorded_localDescription _ hbegin _ _ _
  · rename_i peer candidate mid hevent
    unfold BackendWebRtcManager.localCandidate
    split
    · exact hbegin
    · split
      · exact hbegin
      · split
        · exact hbegin.quiet (quiet_failPeer _ _)
        · exact hbegin.quiet (quiet_send _ _)
  · unfold BackendWebRtcManager.stateChanged
    split
    · exact hbegin
    · split
      · exact hbegin.quiet (quiet_removePeer _ _)
      · exact hbegin
  · exact recorded_handleDataChannel hbegin _ _ _
  · exact recorded_channelMessage _ hbegin _ _
  · rename_i timer hevent
    unfold BackendWebRtcManager.timedOut
    split
    · exact hbegin
    · have herased : Quiet manager.begin { manager.begin with timers := manager.begin.timers.erase timer } :=
        ⟨rfl, rfl, rfl, rfl, fun _ _ htimer => (OrderedMap.get?_of_erase htimer).2⟩
      simp only
      split
      · exact hbegin.quiet herased
      · exact hbegin.quiet (herased.trans (quiet_failPeer _ _))
  · exact recorded_continueAuthentication _ hbegin _ _
  · exact hbegin.quiet (quiet_closeAuthorized _ _ _)
  · exact hbegin.quiet (quiet_close _)

end

/-- A pending authentication that is granted: it was proved, its peer is current, and the channel takes the answer. -/
structure Grants (manager : BackendWebRtcManager options) (surroundings : Surroundings) (ref : AuthorizationRef)
    (authorization : BackendAuthorizationResult) (pending : PendingAuthentication options)
    (state : PeerState options) (proof : DeviceProof options) : Prop where
  waiting : manager.authentications.get? ref = some pending
  known : manager.states.get? pending.peer = some state
  proved : pending.proof = .ok proof
  current : manager.isCurrent pending.peer state = true
  device : authorization.deviceId = state.opened.claims.deviceId
  channel : surroundings.channelThrows = false

section

variable {manager : BackendWebRtcManager options} {surroundings : Surroundings}

theorem exposed_granted {ref : AuthorizationRef} {authorization : BackendAuthorizationResult}
    {pending : PendingAuthentication options} {state : PeerState options} {proof : DeviceProof options}
    (h : Grants manager surroundings ref authorization pending state proof) :
    (manager.continueAuthentication surroundings ref (.ok authorization)).exposed =
      manager.exposed ++ [⟨pending.peer, pending.channel, proof, authorization⟩] := by
  have hcurrent : ({ manager with authentications := manager.authentications.erase ref } :
      BackendWebRtcManager options).isCurrent pending.peer state = true := h.current
  unfold BackendWebRtcManager.continueAuthentication
  simp only [h.waiting, h.known, h.proved]
  unfold BackendWebRtcManager.completeAuthentication
  rw [if_neg (not_not_intro hcurrent), if_neg (not_not_intro h.device)]
  simp only [h.channel]
  exact congrArg (· ++ _) (quiet_clearTimeout _ state.authenticationTimer).exposed

theorem exposed_continueAuthentication (ref : AuthorizationRef) (outcome : Except String BackendAuthorizationResult) :
    (manager.continueAuthentication surroundings ref outcome).exposed = manager.exposed ∨
      ∃ authorization pending state proof, outcome = .ok authorization ∧
        Grants manager surroundings ref authorization pending state proof := by
  unfold BackendWebRtcManager.continueAuthentication
  split
  · exact .inl rfl
  · rename_i pending hpending
    simp only
    split
    · exact .inl rfl
    · rename_i state hstate
      split
      · unfold BackendWebRtcManager.catchRejection
        split
        · exact .inl (quiet_failPeer _ _).exposed
        · exact .inl rfl
      · rename_i proof hproof
        split
        · exact .inl rfl
        · rename_i authorization
          unfold BackendWebRtcManager.completeAuthentication
          split
          · exact .inl rfl
          · rename_i hcurrent
            split
            · exact .inl rfl
            · rename_i hdevice
              simp only
              split
              · exact .inl (quiet_clearTimeout _ state.authenticationTimer).exposed
              · rename_i hchannel
                exact .inr ⟨authorization, pending, state, proof, rfl, hpending, hstate, hproof, not_not.mp hcurrent,
                  not_not.mp hdevice, Bool.not_eq_true _ ▸ hchannel⟩

theorem exposed_createPeer (request : BackendConnectionRequest) :
    (manager.createPeer surroundings request).exposed = manager.exposed := by
  have hremoved := (quiet_removePeer manager request.connectionId).exposed
  unfold BackendWebRtcManager.createPeer
  simp only
  split
  · exact (quiet_rejectRequest _ _ _).exposed.trans hremoved
  · split
    · exact hremoved
    · exact hremoved

theorem exposed_localDescription (peer : PeerRef) (sdp : JsString) (type : SdpType) :
    (manager.localDescription surroundings peer sdp type).exposed = manager.exposed := by
  unfold BackendWebRtcManager.localDescription
  split
  · rfl
  · split
    · rfl
    · split
      · rfl
      · split
        · exact (quiet_failPeer _ _).exposed
        · simp only
          split
          · exact (quiet_failPeer _ _).exposed
          · exact ((quiet_send _ _).trans (quiet_send _ _)).exposed

theorem exposed_channelMessage (channel : ChannelRef) (raw : JsString) :
    (manager.channelMessage surroundings channel raw).exposed = manager.exposed := by
  unfold BackendWebRtcManager.channelMessage
  split
  · rfl
  · split
    · rfl
    · split
      · rfl
      · split
        · exact (quiet_failPeer _ _).exposed
        · split
          · exact (quiet_failPeer _ _).exposed
          · rfl

theorem exposed_applySignal (connectionId : JsString) (signal : IceSignal) :
    (manager.applySignal surroundings connectionId signal).exposed = manager.exposed := by
  unfold BackendWebRtcManager.applySignal
  split
  · exact (quiet_send _ _).exposed
  · split
    · rfl
    · split
      · split
        · exact (quiet_failPeer _ _).exposed
        · rfl
      · exact (quiet_failPeer _ _).exposed
      · simp only
        split
        · exact (quiet_failPeer _ _).exposed
        · rfl

/-- Only an authorization that resolves exposes a channel. -/
theorem exposed_step (manager : BackendWebRtcManager options) (input : Input) :
    (step manager input).exposed = manager.exposed ∨
      ∃ ref authorization pending state proof, input.event = .authenticationContinued ref (.ok authorization) ∧
        Grants manager input.surroundings ref authorization pending state proof := by
  unfold step handle
  split
  · exact .inl (exposed_createPeer _)
  · exact .inl (exposed_applySignal _ _)
  · exact .inl (quiet_removePeer _ _).exposed
  · exact .inl (exposed_localDescription _ _ _)
  · unfold BackendWebRtcManager.localCandidate
    split
    · exact .inl rfl
    · split
      · exact .inl rfl
      · split
        · exact .inl (quiet_failPeer _ _).exposed
        · exact .inl (quiet_send _ _).exposed
  · unfold BackendWebRtcManager.stateChanged
    split
    · exact .inl rfl
    · split
      · exact .inl (quiet_removePeer _ _).exposed
      · exact .inl rfl
  · unfold BackendWebRtcManager.handleDataChannel
    split
    · exact .inl rfl
    · split
      · exact .inl rfl
      · exact .inl rfl
  · exact .inl (exposed_channelMessage _ _)
  · unfold BackendWebRtcManager.timedOut
    split
    · exact .inl rfl
    · simp only
      split
      · exact .inl rfl
      · exact .inl (quiet_failPeer _ _).exposed
  · rename_i ref outcome hevent
    have hcases : (manager.begin.continueAuthentication input.surroundings ref outcome).exposed = manager.exposed ∨ _ :=
      exposed_continueAuthentication ref outcome
    obtain hsame | ⟨authorization, pending, state, proof, rfl, hgrants⟩ := hcases
    · exact .inl hsame
    · exact .inr ⟨ref, authorization, pending, state, proof, hevent, hgrants.waiting, hgrants.known, hgrants.proved,
        hgrants.current, hgrants.device, hgrants.channel⟩
  · exact .inl (quiet_closeAuthorized _ _ _).exposed
  · exact .inl (quiet_close _).exposed

theorem exposed_step_granted {input : Input} {ref : AuthorizationRef} {authorization : BackendAuthorizationResult}
    (hevent : input.event = .authenticationContinued ref (.ok authorization))
    {pending : PendingAuthentication options} {state : PeerState options} {proof : DeviceProof options}
    (h : Grants manager input.surroundings ref authorization pending state proof) :
    (step manager input).exposed = manager.exposed ++ [⟨pending.peer, pending.channel, proof, authorization⟩] := by
  have hbegin : Grants manager.begin input.surroundings ref authorization pending state proof :=
    ⟨h.waiting, h.known, h.proved, h.current, h.device, h.channel⟩
  rw [step, hevent]
  exact exposed_granted hbegin

theorem Recorded.gate (h : Recorded manager) (input : Input) :
    ∀ connection ∈ (backend_webrtc.step manager input).exposed,
      connection ∈ manager.exposed ∨ Admitted manager input.event connection := by
  obtain hsame | ⟨ref, authorization, pending, state, proof, hevent, hgrants⟩ := exposed_step manager input
  · rw [hsame]
    exact fun _ hmem => .inl hmem
  · rw [exposed_step_granted hevent hgrants]
    intro connection hmem
    obtain hold | hnew := List.mem_append.mp hmem
    · exact .inl hold
    · rw [List.mem_singleton.mp hnew]
      obtain ⟨recorded, hrecorded, hopened, hbinding⟩ := h.proofs ref pending proof hgrants.waiting hgrants.proved
      rw [hgrants.known] at hrecorded
      cases hrecorded
      refine .inr ⟨ref, state, hevent, ?_, hgrants.known, of_decide_eq_true hgrants.current, hopened, hbinding,
        hgrants.device⟩
      rw [hgrants.waiting, ← hgrants.proved]

theorem once_of_harmless {input : Input} (h : Harmless manager input)
    (honce : (manager.exposed.map AuthenticatedDataChannel.peer).Nodup) :
    ((step manager input).exposed.map AuthenticatedDataChannel.peer).Nodup := by
  obtain hsame | ⟨ref, authorization, pending, state, proof, hevent, hgrants⟩ := exposed_step manager input
  · rw [hsame]
    exact honce
  · rw [Harmless, hevent] at h
    have hfresh := h pending state proof hgrants.waiting hgrants.known hgrants.proved hgrants.current hgrants.device
      hgrants.channel
    rw [exposed_step_granted hevent hgrants, List.map_append, List.map_singleton]
    refine List.nodup_append.mpr ⟨honce, List.nodup_singleton _, fun other hother last hlast hsame => hfresh ?_⟩
    rw [List.mem_singleton.mp hlast] at hsame
    rwa [hsame] at hother

end

/-! A callback of a peer that has been replaced. -/

theorem Superseded.not_current {manager : BackendWebRtcManager options} {peer successor : PeerRef}
    {connectionId : JsString} (h : Superseded manager peer successor connectionId) {state : PeerState options}
    (hstate : manager.states.get? peer = some state) : manager.isCurrent peer state = false := by
  obtain ⟨⟨recorded, hrecorded, rfl⟩, hcurrent, hne⟩ := h
  rw [hstate] at hrecorded
  cases hrecorded
  rw [BackendWebRtcManager.isCurrent, hcurrent]
  exact decide_eq_false fun hsame => hne (Option.some.inj hsame)

theorem spares_of_untouched {manager next : BackendWebRtcManager options} {peer successor : PeerRef}
    {connectionId : JsString} (h : Superseded manager peer successor connectionId) (hpeers : next.peers = manager.peers)
    (hstate : next.states.get? successor = manager.states.get? successor)
    (htimers : ∀ timer, manager.timers.get? timer = some successor → next.timers.get? timer = some successor)
    (hreported : next.reported = []) (hsent : next.sent = []) : Spares manager next connectionId successor where
  current := by
    rw [hpeers]
    exact h.2.1
  state := hstate
  timers := htimers
  reported := by
    rw [hreported]
    exact List.not_mem_nil
  sent reason := by
    rw [hsent]
    exact List.not_mem_nil

section

variable {manager : BackendWebRtcManager options} {surroundings : Surroundings} {peer successor : PeerRef}
  {connectionId : JsString}

theorem spares_begin (h : Superseded manager peer successor connectionId) :
    Spares manager manager.begin connectionId successor :=
  spares_of_untouched h rfl rfl (fun _ htimer => htimer) rfl rfl

theorem spares_localDescription (h : Superseded manager peer successor connectionId) (sdp : JsString) (type : SdpType) :
    Spares manager (manager.begin.localDescription surroundings peer sdp type) connectionId successor := by
  unfold BackendWebRtcManager.localDescription
  split
  · exact spares_begin h
  · rename_i state hstate
    have hcurrent : manager.begin.isCurrent peer state = false := h.not_current hstate
    split
    · exact spares_begin h
    · rw [if_pos (.inl (by rw [hcurrent]; exact Bool.false_ne_true))]
      exact spares_begin h

theorem spares_localCandidate (h : Superseded manager peer successor connectionId) (candidate mid : JsString) :
    Spares manager (manager.begin.localCandidate surroundings peer candidate mid) connectionId successor := by
  unfold BackendWebRtcManager.localCandidate
  split
  · exact spares_begin h
  · rename_i state hstate
    have hcurrent : manager.begin.isCurrent peer state = false := h.not_current hstate
    rw [if_pos (by rw [hcurrent]; exact Bool.false_ne_true)]
    exact spares_begin h

theorem spares_stateChanged (h : Superseded manager peer successor connectionId) {connectionState : PeerConnectionState}
    (hstays : ¬ (connectionState = .failed ∨ connectionState = .closed)) :
    Spares manager (manager.begin.stateChanged peer connectionState) connectionId successor := by
  unfold BackendWebRtcManager.stateChanged
  split
  · exact spares_begin h
  · rw [if_neg hstays]
    exact spares_begin h

theorem spares_handleDataChannel (hrecorded : Recorded manager) (h : Superseded manager peer successor connectionId)
    (label protocol : JsString) :
    Spares manager (manager.begin.handleDataChannel peer label protocol) connectionId successor := by
  unfold BackendWebRtcManager.handleDataChannel
  split
  · exact spares_begin h
  · split
    · exact spares_begin h
    · refine spares_of_untouched h rfl ?_ ?_ rfl rfl
      · exact OrderedMap.get?_set_ne h.2.2 _
      · intro timer htimer
        have hbefore := hrecorded.timers timer successor htimer
        exact (OrderedMap.get?_set_ne (Nat.ne_of_lt hbefore) _).trans htimer

theorem spares_channelMessage {channel : ChannelRef} {raw : JsString}
    (hchannel : manager.channels.get? channel = some peer) (h : Superseded manager peer successor connectionId)
    (hrefused : BackendWebRtcManager.isRefused raw = true →
      ∀ state, manager.states.get? peer = some state → state.authenticated ≠ none) :
    Spares manager (manager.begin.channelMessage surroundings channel raw) connectionId successor := by
  unfold BackendWebRtcManager.channelMessage
  split
  · exact spares_begin h
  · rename_i owner howner
    cases hchannel.symm.trans howner
    split
    · exact spares_begin h
    · rename_i state hstate
      split
      · exact spares_begin h
      · rename_i hunauthenticated
        have haccepted : ¬ BackendWebRtcManager.isRefused raw = true := by
          intro hrefuse
          refine hunauthenticated (Option.isSome_iff_ne_none.mpr (hrefused hrefuse state hstate))
        rw [BackendWebRtcManager.isRefused, Bool.or_eq_true, not_or, decide_eq_true_eq] at haccepted
        rw [if_neg haccepted.1]
        split
        · rename_i hnone
          rw [hnone] at haccepted
          exact absurd rfl haccepted.2
        · exact spares_of_untouched h rfl rfl (fun _ htimer => htimer) rfl rfl

theorem spares_continueAuthentication {ref : AuthorizationRef} {pending : PendingAuthentication options}
    (hpending : manager.authentications.get? ref = some pending)
    (h : Superseded manager pending.peer successor connectionId) (outcome : Except String BackendAuthorizationResult) :
    Spares manager (manager.begin.continueAuthentication surroundings ref outcome) connectionId successor := by
  unfold BackendWebRtcManager.continueAuthentication
  split
  · exact spares_begin h
  · rename_i found hfound
    cases hpending.symm.trans hfound
    dsimp only
    split
    · exact spares_of_untouched h rfl rfl (fun _ htimer => htimer) rfl rfl
    · rename_i state hstate
      have hcurrent : ({ manager.begin with authentications := manager.begin.authentications.erase ref } :
          BackendWebRtcManager options).isCurrent pending.peer state = false := h.not_current hstate
      split
      · unfold BackendWebRtcManager.catchRejection
        rw [hcurrent, if_neg Bool.false_ne_true]
        exact spares_of_untouched h rfl rfl (fun _ htimer => htimer) rfl rfl
      · split
        · exact spares_of_untouched h rfl rfl (fun _ htimer => htimer) rfl rfl
        · unfold BackendWebRtcManager.completeAuthentication
          rw [if_pos (by rw [hcurrent]; exact Bool.false_ne_true)]
          exact spares_of_untouched h rfl rfl (fun _ htimer => htimer) rfl rfl

end

theorem Recorded.isolated {manager : BackendWebRtcManager options} (hrecorded : Recorded manager) {input : Input}
    (hharmless : Harmless manager input) (peer successor : PeerRef) (connectionId : JsString)
    (hcallback : callbackPeer manager input.event = some peer) (h : Superseded manager peer successor connectionId) :
    Spares manager (backend_webrtc.step manager input) connectionId successor := by
  obtain ⟨event, surroundings⟩ := input
  rw [backend_webrtc.step, ← BackendWebRtcManager.begin]
  cases event with
  | localDescription owner sdp type =>
    cases hcallback
    exact spares_localDescription h sdp type
  | localCandidate owner candidate mid =>
    cases hcallback
    exact spares_localCandidate h candidate mid
  | stateChanged owner connectionState =>
    cases hcallback
    exact spares_stateChanged h fun hends => hharmless hends successor connectionId h
  | dataChannel owner label protocol =>
    cases hcallback
    exact spares_handleDataChannel hrecorded h label protocol
  | channelMessage channel raw =>
    refine spares_channelMessage hcallback h fun hrefused state hstate hnone => ?_
    exact hharmless hrefused peer state successor connectionId hcallback hstate hnone h
  | timedOut timer => exact absurd h (hharmless peer successor connectionId hcallback)
  | authenticationContinued ref outcome =>
    obtain ⟨pending, hpending, rfl⟩ := Option.map_eq_some_iff.mp hcallback
    exact spares_continueAuthentication hpending h outcome
  | _ => cases hcallback

/-- In every run of harmless events. -/
theorem peers_isolated (options : BackendWebRtcManagerOptions) (inputs : List Input)
    (h : EveryStep step ({} : BackendWebRtcManager options) Harmless inputs) :
    EveryStep step ({} : BackendWebRtcManager options) SafeStep inputs := by
  have hkept := always_of_everyStep
    (P := fun manager : BackendWebRtcManager options =>
      Recorded manager ∧ (manager.exposed.map AuthenticatedDataChannel.peer).Nodup)
    ⟨recorded_start, List.nodup_nil⟩
    (fun manager input hkept hharmless => ⟨hkept.1.step input, once_of_harmless hharmless hkept.2⟩) h
  exact everyStep_of_always hkept h fun manager input hkept hharmless =>
    ⟨hkept.1.gate input, once_of_harmless hharmless hkept.2, hkept.1.isolated hharmless⟩

def requested : Input where
  event := .connectionRequest pairingRequest
  surroundings := { ticketPublicKey := some (js "VElD"), now := 1 }

theorem connecting_state : (connecting.states.get? 0).map PeerState.connectionId = some (js "c_0") := by
  decide +kernel

/-- The peer of the connection fails. -/
theorem peers_isolated_failed :
    EveryStep step ({} : BackendWebRtcManager plainOptions) SafeStep [requested, { event := .stateChanged 0 .failed }] := by
  refine peers_isolated plainOptions [requested, { event := .stateChanged 0 .failed }]
    (everyStep_cons.mpr ⟨trivial, everyStep_cons.mpr ⟨?_, everyStep_nil⟩⟩)
  rintro - successor connectionId ⟨⟨state, hstate, rfl⟩, hcurrent, hne⟩
  have hid := connecting_state
  change connecting.states.get? 0 = some state at hstate
  change connecting.peers.get? state.connectionId = some successor at hcurrent
  rw [hstate, Option.map_some, Option.some.injEq] at hid
  rw [hid] at hcurrent
  have hpeer : connecting.peers.get? (js "c_0") = some 0 := by decide +kernel
  exact hne (Option.some.inj (hcurrent.symm.trans hpeer))

/-- The same connection id is requested again, and then the native connection of the first peer ends. -/
theorem superseded_peer_closed : ¬ EveryStep step ({} : BackendWebRtcManager plainOptions) SafeStep
    [requested, requested, { event := .stateChanged 0 .closed }] := by
  intro h
  have hlast := (everyStep_cons.mp (everyStep_cons.mp (everyStep_cons.mp h).2).2).1
  have hstate : ((step connecting requested).states.get? 0).map PeerState.connectionId = some (js "c_0") := by
    decide +kernel
  have hpeer : (step connecting requested).peers.get? (js "c_0") = some 1 := by decide +kernel
  have hspared := (hlast.isolated 0 1 (js "c_0") rfl
    ⟨Option.map_eq_some_iff.mp hstate, hpeer, Nat.one_ne_zero⟩).current
  have hremoved : (step (step connecting requested) { event := .stateChanged 0 .closed }).peers.get? (js "c_0") = none := by
    decide +kernel
  cases hremoved.symm.trans hspared

end pipane.backend_webrtc

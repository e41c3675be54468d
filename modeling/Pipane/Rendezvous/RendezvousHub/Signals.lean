import Pipane.Rendezvous.RendezvousHub.Routes

open javascript json durable pipane.trust_protocol pipane.rendezvous_protocol pipane.ice_server_provider
open pipane.trust_store (RevocationResult)

namespace pipane.rendezvous_hub

/-- The calls of the trust store that an event leads to. -/
inductive Calls (hub : RendezvousHub) : Event → trust_store.Call → Prop
  | called (call : trust_store.Call) : Calls hub (.called call) call
  | connecting {socket : Socket} {raw backendId ticket : JsString} {iceServers : Option IceServers}
      (decoded : decodeBrowserCommand raw = .ok (.connectBackend backendId ticket iceServers)) :
      Calls hub (.browserMessage socket raw) (.consumeRouteTicket ticket)
  | confirming {socket : Socket} {raw connectionId : JsString} {ref : RouteRef} {route : BrowserRoute}
      {handshake : BackendHandshake} {backend : RegisteredBackend}
      (decoded : decodeBackendCommand raw = .ok (.confirmPairing connectionId))
      (opened : hub.backendHandshakes.get? socket = some handshake) (registered : handshake.registered = some backend)
      (has : hub.Has ref route) (connection : route.connectionId = connectionId)
      (owner : route.backendId = backend.backendId) :
      Calls hub (.backendMessage socket raw) (.confirmPairing route.claims)

def Sent.isSignal : Sent → Bool
  | .backend _ (.signal _ _) => true
  | .browser _ (.signal _ _) => true
  | _ => false

/-- A signal that one event forwards: from a browser to the backend of a route of that browser, or from a backend to the
    browser of a route of that backend. -/
inductive Forwarded (hub : RendezvousHub) : Event → Sent → Prop
  | toBackend {raw connectionId : JsString} {signal : IceSignal} {ref : RouteRef} {route : BrowserRoute}
      {backend : RegisteredBackend} (decoded : decodeBrowserCommand raw = .ok (.signal connectionId signal))
      (has : hub.Has ref route) (connection : route.connectionId = connectionId)
      (registered : hub.backends.get? route.backendId = some backend) :
      Forwarded hub (.browserMessage route.browser raw) (.backend backend.socket (.signal connectionId signal))
  | toBrowser {socket : Socket} {raw connectionId : JsString} {signal : IceSignal} {ref : RouteRef}
      {route : BrowserRoute} {handshake : BackendHandshake} {backend : RegisteredBackend}
      (decoded : decodeBackendCommand raw = .ok (.signal connectionId signal))
      (opened : hub.backendHandshakes.get? socket = some handshake) (registered : handshake.registered = some backend)
      (has : hub.Has ref route) (connection : route.connectionId = connectionId)
      (owner : route.backendId = backend.backendId) :
      Forwarded hub (.backendMessage socket raw) (.browser route.browser (.signal connectionId signal))

namespace RendezvousHub

/-- The signals that were sent since the last event. -/
def signals (hub : RendezvousHub) : List Sent :=
  hub.sent.filter Sent.isSignal

end RendezvousHub

/-- Neither is a signal sent nor the trust store called. -/
structure Calm (before after : RendezvousHub) : Prop where
  signals : after.signals = before.signals
  trustStore : after.trustStore = before.trustStore

namespace Calm

theorem refl (hub : RendezvousHub) : Calm hub hub :=
  ⟨rfl, rfl⟩

theorem trans {before mid after : RendezvousHub} (hfirst : Calm before mid) (hsecond : Calm mid after) :
    Calm before after :=
  ⟨hsecond.signals.trans hfirst.signals, hsecond.trustStore.trans hfirst.trustStore⟩

end Calm

namespace RendezvousHub

variable (hub : RendezvousHub)

theorem calm_send (socket : Socket) {message : Sent} (h : message.isSignal = false) :
    Calm hub (hub.send socket message) := by
  unfold send
  split
  · exact ⟨by simp [signals, h], rfl⟩
  · exact .refl hub

theorem trustStore_send (socket : Socket) (message : Sent) : (hub.send socket message).trustStore = hub.trustStore := by
  unfold send
  split
  · rfl
  · rfl

theorem mem_signals_send {socket : Socket} {message m : Sent} (h : m ∈ (hub.send socket message).signals) :
    m ∈ hub.signals ∨ m = message := by
  unfold send signals at *
  split at h
  · rw [List.filter_append, List.mem_append] at h
    exact h.imp_right fun h => List.mem_singleton.mp (List.mem_of_mem_filter h)
  · exact .inl h

theorem calm_close (socket : Socket) : Calm hub (hub.close socket) :=
  ⟨rfl, rfl⟩

theorem calm_sendError (socket : Socket) (code : RendezvousErrorCode) (message : JsString)
    (connectionId : Option JsString) : Calm hub (hub.sendError socket code message connectionId) :=
  hub.calm_send socket rfl

theorem calm_sendBrowserError (socket : Socket) (code : RendezvousErrorCode) (message : JsString)
    (connectionId : Option JsString) : Calm hub (hub.sendBrowserError socket code message connectionId) :=
  hub.calm_send socket rfl

theorem calm_getOpenPairing (pairId : JsString) (now : Int) : Calm hub (hub.getOpenPairing pairId now).2 := by
  unfold getOpenPairing
  split
  · exact .refl hub
  · split
    · exact ⟨rfl, rfl⟩
    · exact .refl hub

theorem calm_removeRoute (ref : RouteRef) : Calm hub (hub.removeRoute ref) := by
  unfold removeRoute
  split
  · exact .refl hub
  · unfold dropRoute
    dsimp only
    split
    · split
      · exact ⟨rfl, rfl⟩
      · exact ⟨rfl, rfl⟩
    · split
      · exact ⟨rfl, rfl⟩
      · exact .refl hub

theorem calm_closeRoutes (refs : List RouteRef) (picks : BrowserRoute → Bool) (reason : JsString) :
    Calm hub (hub.closeRoutes refs picks reason) := by
  induction refs generalizing hub with
  | nil => exact .refl hub
  | cons ref refs ih =>
    unfold closeRoutes
    split
    · exact ih hub
    · split
      · exact ((hub.calm_removeRoute ref).trans (calm_send _ _ rfl)).trans (ih _)
      · exact ih hub

theorem calm_sendBackends (backends : List RegisteredBackend) {message : BackendRendezvousMessage}
    (h : ∀ socket, (Sent.backend socket message).isSignal = false) : Calm hub (hub.sendBackends backends message) := by
  unfold sendBackends
  induction backends generalizing hub with
  | nil => exact .refl hub
  | cons backend backends ih =>
    exact (hub.calm_send backend.socket (h backend.socket)).trans (ih _)

theorem calm_notifyRevocation (result : RevocationResult) : Calm hub (hub.notifyRevocation result) :=
  (hub.calm_sendBackends _ fun _ => rfl).trans (calm_closeRoutes _ _ _ _)

theorem calm_removeRegisteredBackend (backend : RegisteredBackend) (reason : JsString) :
    Calm hub (hub.removeRegisteredBackend backend reason) := by
  unfold removeRegisteredBackend
  dsimp only
  refine Calm.trans ?_ (calm_closeRoutes _ _ _ _)
  split
  · exact ⟨rfl, rfl⟩
  · exact ⟨rfl, rfl⟩

theorem calm_replaceBackend (backendId : JsString) (socket : Socket) :
    Calm hub (hub.replaceBackend backendId socket) := by
  unfold replaceBackend
  split
  · exact .refl hub
  · split
    · exact .refl hub
    · exact (hub.calm_removeRegisteredBackend _ _).trans (calm_close _ _)

theorem calm_removeBackendSocket (socket : Socket) : Calm hub (hub.removeBackendSocket socket) := by
  unfold removeBackendSocket
  split
  · exact .refl hub
  · have hdropped : Calm hub { hub with backendHandshakes := hub.backendHandshakes.erase socket } := ⟨rfl, rfl⟩
    dsimp only
    split
    · exact hdropped
    · split
      · exact hdropped.trans (calm_removeRegisteredBackend _ _ _)
      · exact hdropped

section

variable (options : RendezvousHubOptions) (surroundings : Surroundings)

theorem calm_registerBackend (socket : Socket) (handshake : BackendHandshake) (publicKey signature : JsString)
    (metadata : BackendRegistrationMetadata) :
    Calm hub (hub.registerBackend options surroundings socket handshake publicKey signature metadata) := by
  unfold registerBackend
  split
  · exact (hub.calm_sendError _ _ _ _).trans (calm_close _ _)
  · split
    · exact (hub.calm_sendError _ _ _ _).trans (calm_close _ _)
    · rename_i backendId _
      refine (hub.calm_replaceBackend backendId socket).trans ?_
      generalize hub.replaceBackend backendId socket = replaced
      have hregistered : ∀ handshakes backends,
          Calm replaced { replaced with backendHandshakes := handshakes, backends := backends } :=
        fun _ _ => ⟨rfl, rfl⟩
      unfold completeRegistration
      dsimp only
      split
      · exact (hregistered _ _).trans (calm_send _ _ rfl)
      · exact ((hregistered _ _).trans (calm_send _ _ rfl)).trans (calm_send _ _ rfl)

theorem calm_openPairing (backend : RegisteredBackend) (pairId : JsString) (expiresAt : Int) :
    Calm hub (hub.openPairing surroundings backend pairId expiresAt) := by
  unfold openPairing
  split
  · exact hub.calm_sendError _ _ _ _
  · have hlookedUp := hub.calm_getOpenPairing pairId surroundings.later
    dsimp only
    split
    · exact hlookedUp.trans (calm_sendError _ _ _ _ _)
    · refine (hlookedUp.trans ?_).trans (calm_send _ _ rfl)
      exact ⟨rfl, rfl⟩

theorem calm_closeFromBackend (backend : RegisteredBackend) (connectionId reason : JsString) :
    Calm hub (hub.closeFromBackend backend connectionId reason) := by
  unfold closeFromBackend
  split
  · exact hub.calm_sendError _ _ _ _
  · exact (hub.calm_removeRoute _).trans (calm_send _ _ rfl)

theorem calm_relayBackendBinding (backend : RegisteredBackend) (connectionId : JsString) (relayed : RelayedBinding) :
    Calm hub (hub.relayBackendBinding options backend connectionId relayed) := by
  unfold relayBackendBinding
  split
  · exact hub.calm_sendError _ _ _ _
  · split
    · exact hub.calm_send _ rfl
    · exact (hub.calm_sendError _ _ _ _).trans (calm_closeFromBackend _ _ _ _)

theorem calm_leaveRoute (socket : Socket) : Calm hub (hub.leaveRoute socket) := by
  unfold leaveRoute
  split
  · exact .refl hub
  · split
    · exact .refl hub
    · dsimp only
      split
      · exact hub.calm_removeRoute _
      · exact (hub.calm_removeRoute _).trans (calm_send _ _ rfl)

theorem calm_admitTicket (backendId : JsString) (claims : ConnectionTicketClaims) :
    Calm hub (hub.admitTicket surroundings backendId claims).2 := by
  have hlookedUp := hub.calm_getOpenPairing (claims.pairId.getD []) surroundings.now
  unfold admitTicket
  split
  · exact .refl hub
  · split
    · dsimp only
      split
      · split
        · exact hlookedUp
        · exact hlookedUp
      · split
        · exact .refl hub
        · exact .refl hub
    · split
      · exact .refl hub
      · exact .refl hub

theorem calm_establishRoute (socket : Socket) (backend : RegisteredBackend) (backendId ticket : JsString)
    (claims : ConnectionTicketClaims) (browserIceServers : List Value) :
    Calm hub (hub.establishRoute options surroundings socket backend backendId ticket claims browserIceServers) := by
  unfold establishRoute
  split
  · exact hub.calm_sendBrowserError _ _ _ _
  · have hadded : ∀ left : RendezvousHub, ∀ route, Calm left (left.addRoute route) := fun _ _ => ⟨rfl, rfl⟩
    exact (((hub.calm_leaveRoute socket).trans (hadded _ _)).trans (calm_send _ _ rfl)).trans (calm_send _ _ rfl)

theorem calm_removeBrowser (socket : Socket) : Calm hub (hub.removeBrowser socket) := by
  unfold removeBrowser
  split
  · exact .refl hub
  · split
    · exact .refl hub
    · dsimp only
      split
      · exact hub.calm_removeRoute _
      · exact (hub.calm_removeRoute _).trans (calm_send _ _ rfl)

end

end RendezvousHub

/-- What a step does to the signals that were sent and to the trust store. -/
structure Effects (options : RendezvousHubOptions) (surroundings : Surroundings) (before after : RendezvousHub)
    (event : Event) : Prop where
  signals : ∀ m ∈ after.signals, m ∈ before.signals ∨ Forwarded before event m
  trustStore : after.trustStore = before.trustStore ∨ ∃ call, Calls before event call ∧
    after.trustStore = trust_store.afterCall options.trust before.trustStore
      { call, circumstances := surroundings.circumstances }

theorem Calm.effects {before after : RendezvousHub} (h : Calm before after) (options : RendezvousHubOptions)
    (surroundings : Surroundings) (event : Event) : Effects options surroundings before after event :=
  ⟨fun _ hm => .inl (h.signals ▸ hm), .inl h.trustStore⟩

namespace RendezvousHub

variable {hub : RendezvousHub} (options : RendezvousHubOptions) (surroundings : Surroundings)

theorem called_effects {event : Event} {call : trust_store.Call} {store : trust_store.RendezvousTrustStore}
    {after : RendezvousHub} (hcalls : Calls hub event call)
    (hstore : store = trust_store.afterCall options.trust hub.trustStore
      { call, circumstances := surroundings.circumstances })
    (hcalm : Calm { hub with trustStore := store } after) : Effects options surroundings hub after event :=
  ⟨fun _ hm => .inl (hcalm.signals ▸ hm), .inr ⟨call, hcalls, hcalm.trustStore.trans hstore⟩⟩

theorem afterCall_ok {store after : trust_store.RendezvousTrustStore} {request : trust_store.Request}
    {reply : trust_store.Reply} (h : trust_store.serve options.trust store request = .ok reply after) :
    after = trust_store.afterCall options.trust store request := by
  rw [trust_store.afterCall, h]

theorem afterCall_error {store after : trust_store.RendezvousTrustStore} {request : trust_store.Request}
    {message : String} (h : trust_store.serve options.trust store request = .error message after) :
    after = trust_store.afterCall options.trust store request := by
  rw [trust_store.afterCall, h]

theorem effects_callStore (call : trust_store.Call) :
    Effects options surroundings hub (hub.callStore options surroundings call) (.called call) := by
  unfold callStore
  split
  · rename_i result store hserve
    exact called_effects options surroundings (.called call) (afterCall_ok options hserve) (calm_notifyRevocation _ _)
  · rename_i hserve
    exact called_effects options surroundings (.called call) (afterCall_ok options hserve) (.refl _)
  · rename_i hserve
    exact called_effects options surroundings (.called call) (afterCall_error options hserve) (.refl _)

theorem effects_connectBrowser {socket : Socket} {raw backendId ticket : JsString} {iceServers : Option IceServers}
    (hdecoded : decodeBrowserCommand raw = .ok (.connectBackend backendId ticket iceServers))
    (browserIceServers : List Value) :
    Effects options surroundings hub
      (hub.connectBrowser options surroundings socket backendId ticket browserIceServers)
      (.browserMessage socket raw) := by
  have hcalls : Calls hub (.browserMessage socket raw) (.consumeRouteTicket ticket) := .connecting hdecoded
  unfold connectBrowser
  split
  · exact (hub.calm_sendBrowserError _ _ _ _).effects _ _ _
  · split
    · exact (hub.calm_sendBrowserError _ _ _ _).effects _ _ _
    · split
      · rename_i hserve
        exact called_effects options surroundings hcalls (afterCall_error options hserve)
          (calm_sendBrowserError _ _ _ _ _)
      · rename_i claims store hserve
        have hgate := calm_admitTicket { hub with trustStore := store } surroundings backendId claims
        cases hticket : { hub with trustStore := store }.admitTicket surroundings backendId claims with
        | mk result after =>
          rw [hticket] at hgate
          cases result with
          | error message =>
            exact called_effects options surroundings hcalls (afterCall_ok options hserve)
              (hgate.trans (calm_sendBrowserError _ _ _ _ _))
          | ok _ =>
            exact called_effects options surroundings hcalls (afterCall_ok options hserve)
              (hgate.trans (calm_establishRoute _ _ _ _ _ _ _ _ _))
      · rename_i hserve
        exact called_effects options surroundings hcalls (afterCall_ok options hserve) (.refl _)

theorem effects_confirmPairing (hindexed : hub.Indexed) {socket : Socket} {raw connectionId : JsString}
    {handshake : BackendHandshake} {backend : RegisteredBackend}
    (hdecoded : decodeBackendCommand raw = .ok (.confirmPairing connectionId))
    (hopened : hub.backendHandshakes.get? socket = some handshake) (hregistered : handshake.registered = some backend) :
    Effects options surroundings hub (hub.confirmPairing options surroundings backend connectionId)
      (.backendMessage socket raw) := by
  unfold confirmPairing
  split
  · exact (hub.calm_sendError _ _ _ _).effects _ _ _
  · rename_i ref route hroute
    obtain ⟨hhas, hconnection, howner⟩ := has_routeForBackend hindexed hroute
    have hcalls : Calls hub (.backendMessage socket raw) (.confirmPairing route.claims) :=
      .confirming hdecoded hopened hregistered hhas hconnection howner
    split
    · exact (hub.calm_sendError _ _ _ _).effects _ _ _
    · have hlookedUp := hub.calm_getOpenPairing (route.claims.pairId.getD []) surroundings.now
      dsimp only
      split
      · generalize (hub.getOpenPairing (route.claims.pairId.getD []) surroundings.now).2 = found at hlookedUp ⊢
        have hfound : ∀ store : trust_store.RendezvousTrustStore,
            Calm { hub with trustStore := store } { found with trustStore := store } :=
          fun _ => ⟨hlookedUp.signals, rfl⟩
        unfold completePairing
        rw [hlookedUp.trustStore]
        split
        · rename_i hserve
          refine called_effects options surroundings hcalls (afterCall_ok options hserve) ((hfound _).trans ?_)
          refine Calm.trans ?_ (calm_send _ _ rfl)
          exact ⟨rfl, rfl⟩
        · rename_i hserve
          exact called_effects options surroundings hcalls (afterCall_ok options hserve) (hfound _)
        · rename_i hserve
          exact called_effects options surroundings hcalls (afterCall_error options hserve)
            ((hfound _).trans (calm_sendError _ _ _ _ _))
      · exact (hlookedUp.trans (calm_sendError _ _ _ _ _)).effects _ _ _

theorem effects_relayBackendSignal (hindexed : hub.Indexed) {socket : Socket} {raw connectionId : JsString}
    {signal : IceSignal} {handshake : BackendHandshake} {backend : RegisteredBackend}
    (hdecoded : decodeBackendCommand raw = .ok (.signal connectionId signal))
    (hopened : hub.backendHandshakes.get? socket = some handshake) (hregistered : handshake.registered = some backend) :
    Effects options surroundings hub (hub.relayBackendSignal backend connectionId signal)
      (.backendMessage socket raw) := by
  unfold relayBackendSignal
  split
  · exact (hub.calm_sendError _ _ _ _).effects _ _ _
  · rename_i ref route hroute
    obtain ⟨hhas, hconnection, howner⟩ := has_routeForBackend hindexed hroute
    have hforwarded : Forwarded hub (.backendMessage socket raw)
        (.browser route.browser (.signal connectionId signal)) :=
      .toBrowser hdecoded hopened hregistered hhas hconnection howner
    split
    · refine ⟨fun m hm => ?_, .inl (hub.trustStore_send _ _)⟩
      obtain hold | rfl := hub.mem_signals_send hm
      · exact .inl hold
      · exact .inr hforwarded
    · exact (hub.calm_sendError _ _ _ _).effects _ _ _
    · refine ⟨fun m hm => ?_, .inl (trustStore_send _ _ _)⟩
      obtain hold | rfl := mem_signals_send _ hm
      · exact .inl hold
      · exact .inr hforwarded

theorem effects_handleBackendMessage (hindexed : hub.Indexed) (socket : Socket) (raw : JsString) :
    Effects options surroundings hub (hub.handleBackendMessage options surroundings socket raw)
      (.backendMessage socket raw) := by
  unfold handleBackendMessage
  split
  · exact (hub.calm_sendError _ _ _ _).effects _ _ _
  · rename_i command hdecoded
    split
    · exact (hub.calm_sendError _ _ _ _).effects _ _ _
    · rename_i handshake hopened
      split
      · rename_i backend hregistered
        cases command with
        | registerBackend publicKey signature metadata => exact (hub.calm_sendError _ _ _ _).effects _ _ _
        | openPairing pairId expiresAt => exact (hub.calm_openPairing _ _ _ _).effects _ _ _
        | confirmPairing connectionId =>
          exact effects_confirmPairing options surroundings hindexed hdecoded hopened hregistered
        | signal connectionId signal =>
          exact effects_relayBackendSignal options surroundings hindexed hdecoded hopened hregistered
        | connectionBinding connectionId binding => exact (hub.calm_relayBackendBinding _ _ _ _).effects _ _ _
        | closeConnection connectionId reason => exact (hub.calm_closeFromBackend _ _ _).effects _ _ _
      · split
        · exact (hub.calm_registerBackend _ _ _ _ _ _ _).effects _ _ _
        · exact (hub.calm_sendError _ _ _ _).effects _ _ _

theorem effects_handleConnectionCommand (hindexed : hub.Indexed) {socket : Socket} {raw connectionId : JsString}
    {command : IceSignal ⊕ Option JsString}
    (hdecoded : ∀ signal, command = .inl signal → decodeBrowserCommand raw = .ok (.signal connectionId signal)) :
    Effects options surroundings hub (hub.handleConnectionCommand socket connectionId command)
      (.browserMessage socket raw) := by
  have hrefused := (hub.calm_sendBrowserError socket .unauthorizedConnection
    (js "Connection does not belong to this browser") (some connectionId)).effects options surroundings
    (.browserMessage socket raw)
  unfold handleConnectionCommand
  dsimp only
  cases hbrowser : hub.browserRoutes.get? socket with
  | none => exact hrefused
  | some ref =>
    obtain ⟨route, hobject, rfl⟩ := hindexed.byBrowser socket ref hbrowser
    have hhas : hub.Has ref route := ⟨hobject, (hindexed.inverse ref route hobject).mpr hbrowser⟩
    simp only [hobject]
    split
    · exact hrefused
    · rename_i hconnection
      split
      · exact ((hub.calm_removeRoute _).trans (calm_sendBrowserError _ _ _ _ _)).effects _ _ _
      · rename_i backend hbackend
        split
        · exact ((hub.calm_removeRoute _).trans (calm_sendBrowserError _ _ _ _ _)).effects _ _ _
        · unfold handleRouteCommand
          split
          · rename_i signal
            have hforwarded : Forwarded hub (.browserMessage route.browser raw)
                (.backend backend.socket (.signal connectionId signal)) :=
              .toBackend (hdecoded signal rfl) hhas (not_not.mp hconnection) hbackend
            split
            · refine ⟨fun m hm => ?_, .inl (hub.trustStore_send _ _)⟩
              obtain hold | rfl := hub.mem_signals_send hm
              · exact .inl hold
              · exact .inr hforwarded
            · exact (hub.calm_sendBrowserError _ _ _ _).effects _ _ _
            · refine ⟨fun m hm => ?_, .inl (trustStore_send _ _ _)⟩
              obtain hold | rfl := mem_signals_send _ hm
              · exact .inl hold
              · exact .inr hforwarded
          · exact ((hub.calm_removeRoute _).trans (calm_send _ _ rfl)).effects _ _ _

theorem effects_handleBrowserMessage (hindexed : hub.Indexed) (socket : Socket) (raw : JsString) :
    Effects options surroundings hub (hub.handleBrowserMessage options surroundings socket raw)
      (.browserMessage socket raw) := by
  unfold handleBrowserMessage
  split
  · exact (hub.calm_sendBrowserError _ _ _ _).effects _ _ _
  · rename_i hdecoded
    exact effects_connectBrowser options surroundings hdecoded _
  · rename_i hdecoded
    refine effects_handleConnectionCommand options surroundings hindexed ?_
    rintro _ ⟨⟩
    exact hdecoded
  · refine effects_handleConnectionCommand options surroundings hindexed ?_
    rintro _ ⟨⟩

end RendezvousHub

theorem effects_handle {hub : RendezvousHub} (options : RendezvousHubOptions) (surroundings : Surroundings)
    (event : Event) (hindexed : hub.Indexed) :
    Effects options surroundings hub (handle options surroundings hub event) event := by
  cases event with
  | backendAccepted socket =>
    have haccepted : Calm hub { hub with
        backendHandshakes := hub.backendHandshakes.set socket { nonce := decimal hub.nonces }
        nonces := hub.nonces + 1 } := ⟨rfl, rfl⟩
    exact (haccepted.trans (RendezvousHub.calm_send _ _ rfl)).effects _ _ _
  | registrationTimedOut socket =>
    have htimedOut : Calm hub (hub.onRegistrationTimeout socket) := by
      unfold RendezvousHub.onRegistrationTimeout
      split
      · exact (hub.calm_sendError _ _ _ _).trans (RendezvousHub.calm_close _ _)
      · exact .refl hub
    exact htimedOut.effects _ _ _
  | backendMessage socket raw => exact RendezvousHub.effects_handleBackendMessage options surroundings hindexed _ _
  | backendClosed socket => exact (hub.calm_removeBackendSocket socket).effects _ _ _
  | browserMessage socket raw => exact RendezvousHub.effects_handleBrowserMessage options surroundings hindexed _ _
  | browserClosed socket => exact (hub.calm_removeBrowser socket).effects _ _ _
  | closing socket => exact (hub.calm_close socket).effects _ _ _
  | pairingLookedUp pairId => exact (hub.calm_getOpenPairing pairId surroundings.now).effects _ _ _
  | called call => exact RendezvousHub.effects_callStore options surroundings call
  | shutDown =>
    have hshutDown : Calm hub hub.shutDown := ⟨rfl, rfl⟩
    exact hshutDown.effects _ _ _

/-- Every signal that a step sends is forwarded along a route that was there before it, and the trust store is as it was
    or as a call of the event left it. -/
theorem effects_step {hub : RendezvousHub} (options : RendezvousHubOptions) (input : Input) (hindexed : hub.Indexed) :
    (∀ m ∈ (step options hub input).sent, m.isSignal = true → Forwarded hub input.event m) ∧
      ((step options hub input).trustStore = hub.trustStore ∨ ∃ call, Calls hub input.event call ∧
        (step options hub input).trustStore = trust_store.afterCall options.trust hub.trustStore
          { call, circumstances := input.surroundings.circumstances }) := by
  have hcleared : ({ hub with sent := [] } : RendezvousHub).Indexed :=
    ⟨hindexed.byConnection, hindexed.byBrowser, hindexed.inverse, hindexed.allocated⟩
  obtain ⟨hsignals, hstore⟩ := effects_handle options input.surroundings input.event hcleared
  refine ⟨fun m hsent hsignal => ?_, hstore.imp_right ?_⟩
  · obtain hmem | hforwarded := hsignals m (List.mem_filter.mpr ⟨hsent, hsignal⟩)
    · cases hmem
    · generalize input.event = event at hforwarded ⊢
      cases hforwarded with
      | toBackend decoded has connection registered => exact .toBackend decoded has connection registered
      | toBrowser decoded opened registered has connection owner =>
        exact .toBrowser decoded opened registered has connection owner
  · rintro ⟨call, hcalls, hafter⟩
    refine ⟨call, ?_, hafter⟩
    generalize input.event = event at hcalls ⊢
    cases hcalls with
    | called call => exact .called call
    | connecting decoded => exact .connecting decoded
    | confirming decoded opened registered has connection owner =>
      exact .confirming decoded opened registered has connection owner

end pipane.rendezvous_hub

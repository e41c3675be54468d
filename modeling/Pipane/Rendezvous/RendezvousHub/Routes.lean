import Pipane.Rendezvous.RendezvousHub.Tables

open javascript json durable pipane.trust_protocol pipane.rendezvous_protocol pipane.ice_server_provider
open pipane.trust_store (RevocationResult)

namespace pipane.rendezvous_hub

namespace RendezvousHub

/-- The invariant of the route tables. -/
structure Routed (hub : RendezvousHub) : Prop where
  indexed : hub.Indexed
  registered : hub.Registered

end RendezvousHub

/-- A step that adds no route and keeps the invariant. -/
structure Advances (before after : RendezvousHub) : Prop where
  kept : Kept before after
  routed : after.Routed

namespace Advances

theorem refl {hub : RendezvousHub} (h : hub.Routed) : Advances hub hub :=
  ⟨.refl hub, h⟩

theorem trans {before mid after : RendezvousHub} (hfirst : Advances before mid) (hsecond : Advances mid after) :
    Advances before after :=
  ⟨hfirst.kept.trans hsecond.kept, hsecond.routed⟩

end Advances

theorem SameTables.advances {before after : RendezvousHub} (h : SameTables before after) (hrouted : before.Routed) :
    Advances before after := by
  refine ⟨h.kept, h.kept.indexed hrouted.indexed, h.kept.registered hrouted.registered fun backendId backend hget => ?_⟩
  rw [h.backends]
  exact ⟨backend, hget⟩

theorem Advances.same {before mid after : RendezvousHub} (h : Advances before mid) (hsame : SameTables mid after) :
    Advances before after :=
  h.trans (hsame.advances h.routed)

namespace RendezvousHub

variable {hub : RendezvousHub} (h : hub.Routed)

include h

theorem advances_removeRoute (ref : RouteRef) : Advances hub (hub.removeRoute ref) := by
  have hremoved := removed_removeRoute h.indexed ref
  refine ⟨hremoved.kept, hremoved.kept.indexed h.indexed, hremoved.kept.registered h.registered fun id backend hget => ?_⟩
  rw [hremoved.backends]
  exact ⟨backend, hget⟩

theorem advances_closeRoutes (refs : List RouteRef) (picks : BrowserRoute → Bool) (reason : JsString) :
    Advances hub (hub.closeRoutes refs picks reason) := by
  have hclosed := closed_closeRoutes h.indexed refs picks reason
  refine ⟨hclosed.kept, hclosed.kept.indexed h.indexed, hclosed.kept.registered h.registered fun id backend hget => ?_⟩
  rw [hclosed.backends]
  exact ⟨backend, hget⟩

theorem advances_setObject {ref : RouteRef} {route kept : BrowserRoute} (hobject : hub.objects.get? ref = some route)
    (hsame : SameRoute route kept) : Advances hub { hub with objects := hub.objects.set ref kept } := by
  have hkept := kept_setObject hobject hsame
  exact ⟨hkept, hkept.indexed h.indexed, hkept.registered h.registered fun id backend hget => ⟨backend, hget⟩⟩

theorem advances_notifyRevocation (result : RevocationResult) : Advances hub (hub.notifyRevocation result) := by
  have hsent := (hub.sameTables_sendBackends (hub.affectedBackends result)
    (.authorizationRevoked result.accountId result.deviceId)).advances h
  exact hsent.trans (advances_closeRoutes hsent.routed _ _ _)

theorem revokes_notifyRevocation (result : RevocationResult) {ref : RouteRef} {route : BrowserRoute}
    (hhas : (hub.notifyRevocation result).Has ref route) : revokes result route = false := by
  have hsent := (hub.sameTables_sendBackends (hub.affectedBackends result)
    (.authorizationRevoked result.accountId result.deviceId)).advances h
  exact (closed_closeRoutes hsent.routed.indexed _ _ _).all hhas

theorem objects_notifyRevocation (result : RevocationResult) : (hub.notifyRevocation result).objects = hub.objects := by
  have hsent := hub.sameTables_sendBackends (hub.affectedBackends result)
    (.authorizationRevoked result.accountId result.deviceId)
  exact (closed_closeRoutes (hsent.advances h).routed.indexed _ _ _).objects.trans hsent.objects

theorem advances_removeRegisteredBackend (backend : RegisteredBackend) (reason : JsString) :
    Advances hub (hub.removeRegisteredBackend backend reason) := by
  have hdropped : ∀ (backends : OrderedMap JsString RegisteredBackend) (pairings : OrderedMap JsString ActivePairing),
      (∀ id current, hub.backends.get? id = some current → id ≠ backend.backendId →
        ∃ current, backends.get? id = some current) →
      Advances hub (({ hub with backends, pairings } : RendezvousHub).closeRoutes hub.routes.values
        (fun route => route.backendId = backend.backendId) reason) := by
    intro backends pairings hbackends
    have hkept : Kept hub { hub with backends, pairings } :=
      ⟨fun h => ⟨h.byConnection, h.byBrowser, h.inverse, h.allocated⟩, fun _ _ h => h,
        fun _ route h => ⟨route, h, .refl route⟩, fun _ kept h => ⟨kept, h⟩, rfl⟩
    have hclosed := closed_closeRoutes (hkept.indexed h.indexed) hub.routes.values
      (fun route => route.backendId = backend.backendId) reason
    have hboth := hkept.trans hclosed.kept
    refine ⟨hboth, hboth.indexed h.indexed, fun ref route hhas => ?_⟩
    obtain ⟨old, hold, hsame⟩ := hboth.has hhas
    obtain ⟨current, hcurrent⟩ := h.registered ref old hold
    have hother : route.backendId ≠ backend.backendId := of_decide_eq_false (hclosed.all hhas)
    rw [hclosed.backends]
    rw [hsame.backendId] at hother ⊢
    exact hbackends old.backendId current hcurrent hother
  unfold removeRegisteredBackend
  dsimp only
  split
  · exact hdropped _ _ fun id current hget hne => ⟨current, (OrderedMap.get?_erase_ne hne).trans hget⟩
  · exact hdropped _ _ fun id current hget _ => ⟨current, hget⟩

theorem advances_removeBackendSocket (socket : Socket) : Advances hub (hub.removeBackendSocket socket) := by
  unfold removeBackendSocket
  split
  · exact .refl h
  · rename_i handshake _
    have hdropped : SameTables hub { hub with backendHandshakes := hub.backendHandshakes.erase socket } :=
      ⟨rfl, rfl, rfl, rfl, rfl⟩
    have hadvances := hdropped.advances h
    dsimp only
    split
    · exact hadvances
    · split
      · exact hadvances.trans (advances_removeRegisteredBackend hadvances.routed _ _)
      · exact hadvances

theorem advances_replaceBackend (backendId : JsString) (socket : Socket) :
    Advances hub (hub.replaceBackend backendId socket) := by
  unfold replaceBackend
  split
  · exact .refl h
  · split
    · exact .refl h
    · exact (advances_removeRegisteredBackend h _ _).same (sameTables_close _ _)

theorem advances_completeRegistration (options : RendezvousHubOptions) (surroundings : Surroundings)
    (handshake : BackendHandshake) (backend : RegisteredBackend) :
    Advances hub (hub.completeRegistration options surroundings handshake backend) := by
  have hregistered : Advances hub { hub with
      backendHandshakes := hub.backendHandshakes.set backend.socket { handshake with registered := some backend }
      backends := hub.backends.set backend.backendId backend } := by
    have hkept : Kept hub { hub with
        backendHandshakes := hub.backendHandshakes.set backend.socket { handshake with registered := some backend }
        backends := hub.backends.set backend.backendId backend } :=
      ⟨fun h => ⟨h.byConnection, h.byBrowser, h.inverse, h.allocated⟩, fun _ _ h => h,
        fun _ route h => ⟨route, h, .refl route⟩, fun _ kept h => ⟨kept, h⟩, rfl⟩
    refine ⟨hkept, hkept.indexed h.indexed, hkept.registered h.registered fun id current hget => ?_⟩
    change ∃ current, (hub.backends.set backend.backendId backend).get? id = some current
    rw [OrderedMap.get?_set]
    split
    · exact ⟨backend, rfl⟩
    · exact ⟨current, hget⟩
  unfold completeRegistration
  dsimp only
  split
  · exact hregistered.same (sameTables_sendBackend _ _ _)
  · exact (hregistered.same (sameTables_sendBackend _ _ _)).same (sameTables_sendBackend _ _ _)

theorem advances_registerBackend (options : RendezvousHubOptions) (surroundings : Surroundings) (socket : Socket)
    (handshake : BackendHandshake) (publicKey signature : JsString) (metadata : BackendRegistrationMetadata) :
    Advances hub (hub.registerBackend options surroundings socket handshake publicKey signature metadata) := by
  unfold registerBackend
  split
  · exact ((sameTables_sendError _ _ _ _ _).trans (sameTables_close _ _)).advances h
  · split
    · exact ((sameTables_sendError _ _ _ _ _).trans (sameTables_close _ _)).advances h
    · rename_i backendId _
      have hreplaced := advances_replaceBackend h backendId socket
      exact hreplaced.trans (advances_completeRegistration hreplaced.routed _ _ _ _)

omit h in
theorem sameTables_openPairing (surroundings : Surroundings) (backend : RegisteredBackend) (pairId : JsString)
    (expiresAt : Int) : SameTables hub (hub.openPairing surroundings backend pairId expiresAt) := by
  unfold openPairing
  split
  · exact sameTables_sendError _ _ _ _ _
  · have hlookedUp := hub.sameTables_getOpenPairing pairId surroundings.later
    dsimp only
    split
    · exact hlookedUp.trans (sameTables_sendError _ _ _ _ _)
    · refine (hlookedUp.trans ?_).trans (sameTables_sendBackend _ _ _)
      exact ⟨rfl, rfl, rfl, rfl, rfl⟩

omit h in
theorem has_routeForBackend {backend : RegisteredBackend} {connectionId : JsString} {ref : RouteRef}
    {route : BrowserRoute} (hindexed : hub.Indexed)
    (hroute : hub.routeForBackend backend connectionId = some (ref, route)) :
    hub.Has ref route ∧ route.connectionId = connectionId ∧ route.backendId = backend.backendId := by
  unfold routeForBackend at hroute
  cases hget : hub.routes.get? connectionId with
  | none =>
    rw [hget] at hroute
    cases hroute
  | some found =>
    obtain ⟨object, hhas, rfl⟩ := hindexed.has hget
    simp only [hget, hhas.1] at hroute
    split at hroute
    · rename_i hbackend
      cases hroute
      exact ⟨hhas, rfl, hbackend⟩
    · cases hroute

omit h in
theorem sameTables_refuseBackend (backend : RegisteredBackend) (connectionId : JsString) :
    SameTables hub (hub.refuseBackend backend connectionId) :=
  sameTables_sendError _ _ _ _ _

theorem advances_completePairing (options : RendezvousHubOptions) (surroundings : Surroundings)
    (backend : RegisteredBackend) {ref : RouteRef} {route : BrowserRoute}
    (hobject : hub.objects.get? ref = some route) (pairId : JsString) :
    Advances hub (hub.completePairing options surroundings backend ref route pairId) := by
  unfold completePairing
  split
  · rename_i confirmation store _
    have hsame : SameRoute route { route with
        claims := { route.claims with accountId := some confirmation.accountId } } := ⟨rfl, rfl, rfl, rfl, rfl⟩
    refine ((advances_setObject h hobject hsame).same ?_).same (sameTables_sendBackend _ _ _)
    exact ⟨rfl, rfl, rfl, rfl, rfl⟩
  · exact (sameTables_trustStore _ _).advances h
  · exact ((sameTables_trustStore _ _).trans (sameTables_sendError _ _ _ _ _)).advances h

theorem advances_confirmPairing (options : RendezvousHubOptions) (surroundings : Surroundings)
    (backend : RegisteredBackend) (connectionId : JsString) :
    Advances hub (hub.confirmPairing options surroundings backend connectionId) := by
  unfold confirmPairing
  split
  · exact sameTables_refuseBackend _ _ |>.advances h
  · rename_i ref route hroute
    split
    · exact (sameTables_sendError _ _ _ _ _).advances h
    · have hlookedUp := hub.sameTables_getOpenPairing (route.claims.pairId.getD []) surroundings.now
      dsimp only
      split
      · have hobject := (has_routeForBackend h.indexed hroute).1.1
        rw [← hlookedUp.objects] at hobject
        exact (hlookedUp.advances h).trans (advances_completePairing (hlookedUp.advances h).routed _ _ _ hobject _)
      · exact (hlookedUp.trans (sameTables_sendError _ _ _ _ _)).advances h

theorem advances_relayBackendSignal (backend : RegisteredBackend) (connectionId : JsString) (signal : IceSignal) :
    Advances hub (hub.relayBackendSignal backend connectionId signal) := by
  unfold relayBackendSignal
  split
  · exact sameTables_refuseBackend _ _ |>.advances h
  · rename_i ref route hroute
    have hobject := (has_routeForBackend h.indexed hroute).1.1
    split
    · exact (sameTables_sendBrowser _ _ _).advances h
    · exact (sameTables_sendError _ _ _ _ _).advances h
    · rename_i sdp _
      have hsame : SameRoute route { route with answerSdp := some sdp } := ⟨rfl, rfl, rfl, rfl, rfl⟩
      exact (advances_setObject h hobject hsame).same (sameTables_sendBrowser _ _ _)

theorem advances_closeFromBackend (backend : RegisteredBackend) (connectionId reason : JsString) :
    Advances hub (hub.closeFromBackend backend connectionId reason) := by
  unfold closeFromBackend
  split
  · exact sameTables_refuseBackend _ _ |>.advances h
  · exact (advances_removeRoute h _).same (sameTables_sendBrowser _ _ _)

theorem advances_relayBackendBinding (options : RendezvousHubOptions) (backend : RegisteredBackend)
    (connectionId : JsString) (relayed : RelayedBinding) :
    Advances hub (hub.relayBackendBinding options backend connectionId relayed) := by
  unfold relayBackendBinding
  split
  · exact sameTables_refuseBackend _ _ |>.advances h
  · split
    · exact (sameTables_sendBrowser _ _ _).advances h
    · rename_i message _
      have hsent := (hub.sameTables_sendError backend.socket .invalidMessage (js message) (some connectionId)).advances h
      exact hsent.trans (advances_closeFromBackend hsent.routed _ _ _)

theorem advances_handleBackendMessage (options : RendezvousHubOptions) (surroundings : Surroundings) (socket : Socket)
    (raw : JsString) : Advances hub (hub.handleBackendMessage options surroundings socket raw) := by
  unfold handleBackendMessage
  split
  · exact (sameTables_sendError _ _ _ _ _).advances h
  · rename_i command _
    split
    · exact (sameTables_sendError _ _ _ _ _).advances h
    · split
      · rename_i backend _
        cases command with
        | registerBackend publicKey signature metadata => exact (sameTables_sendError _ _ _ _ _).advances h
        | openPairing pairId expiresAt => exact (sameTables_openPairing _ _ _ _).advances h
        | confirmPairing connectionId => exact advances_confirmPairing h _ _ _ _
        | signal connectionId signal => exact advances_relayBackendSignal h _ _ _
        | connectionBinding connectionId binding => exact advances_relayBackendBinding h _ _ _ _
        | closeConnection connectionId reason => exact advances_closeFromBackend h _ _ _
      · split
        · exact advances_registerBackend h _ _ _ _ _ _ _
        · exact (sameTables_sendError _ _ _ _ _).advances h

theorem advances_handleConnectionCommand (socket : Socket) (connectionId : JsString)
    (command : IceSignal ⊕ Option JsString) :
    Advances hub (hub.handleConnectionCommand socket connectionId command) := by
  have hrefused := (hub.sameTables_sendBrowserError socket .unauthorizedConnection
    (js "Connection does not belong to this browser") (some connectionId)).advances h
  unfold handleConnectionCommand
  dsimp only
  split
  · exact hrefused
  · split
    · exact hrefused
    · rename_i ref _ route hobject
      split
      · exact hrefused
      · split
        · exact (advances_removeRoute h _).same (sameTables_sendBrowserError _ _ _ _ _)
        · split
          · exact (advances_removeRoute h _).same (sameTables_sendBrowserError _ _ _ _ _)
          · unfold handleRouteCommand
            split
            · split
              · exact (sameTables_sendBackend _ _ _).advances h
              · exact (sameTables_sendBrowserError _ _ _ _ _).advances h
              · rename_i sdp _
                have hsame : SameRoute route { route with offerSdp := some sdp } := ⟨rfl, rfl, rfl, rfl, rfl⟩
                exact (advances_setObject h hobject hsame).same (sameTables_sendBackend _ _ _)
            · exact (advances_removeRoute h _).same (sameTables_sendBackend _ _ _)

theorem advances_removeBrowser (socket : Socket) : Advances hub (hub.removeBrowser socket) := by
  unfold removeBrowser
  split
  · exact .refl h
  · split
    · exact .refl h
    · have hremoved := advances_removeRoute h
      dsimp only
      split
      · exact hremoved _
      · exact (hremoved _).same (sameTables_sendBackend _ _ _)

theorem advances_shutDown : Advances hub hub.shutDown := by
  have hindexed : hub.shutDown.Indexed := by
    refine ⟨fun _ _ hget => ?_, fun _ _ hget => ?_, fun _ _ _ => ⟨fun hget => ?_, fun hget => ?_⟩, h.indexed.allocated⟩
    · cases hget
    · cases hget
    · cases hget
    · cases hget
  refine ⟨⟨fun _ => hindexed, fun _ _ hget => ?_, fun _ route hget => ⟨route, hget, .refl route⟩,
    fun _ kept hget => ⟨kept, hget⟩, rfl⟩, hindexed, fun _ _ hhas => ?_⟩
  · cases hget
  · cases hhas.2

theorem advances_callStore (options : RendezvousHubOptions) (surroundings : Surroundings) (call : trust_store.Call) :
    Advances hub (hub.callStore options surroundings call) := by
  unfold callStore
  split
  · rename_i result store _
    have hstored := (hub.sameTables_trustStore store).advances h
    exact hstored.trans (advances_notifyRevocation hstored.routed _)
  · exact (sameTables_trustStore _ _).advances h
  · exact (sameTables_trustStore _ _).advances h

omit h in
theorem sameTables_admitTicket (surroundings : Surroundings) (backendId : JsString) (claims : ConnectionTicketClaims) :
    SameTables hub (hub.admitTicket surroundings backendId claims).2 := by
  unfold admitTicket
  split
  · exact .refl hub
  · split
    · have hlookedUp := hub.sameTables_getOpenPairing (claims.pairId.getD []) surroundings.now
      dsimp only
      split
      · split
        · exact hlookedUp
        · exact hlookedUp
      · split
        · exact .refl hub
        · exact .refl hub
    · split
      · exact .refl hub
      · exact .refl hub

/-- The browser has no route after it has left the one that it had. -/
theorem advances_leaveRoute (socket : Socket) :
    Advances hub (hub.leaveRoute socket) ∧ (hub.leaveRoute socket).browserRoutes.get? socket = none ∧
      (hub.leaveRoute socket).backends = hub.backends := by
  unfold leaveRoute
  cases hbrowser : hub.browserRoutes.get? socket with
  | none => exact ⟨.refl h, hbrowser, rfl⟩
  | some ref =>
    obtain ⟨previous, hprevious, rfl⟩ := h.indexed.byBrowser socket ref hbrowser
    have hremoved := removed_removeRoute h.indexed ref
    have hadvances := advances_removeRoute h ref
    have hfree : (hub.removeRoute ref).browserRoutes.get? previous.browser = none := by
      rw [Option.eq_none_iff_forall_ne_some]
      intro other hother
      obtain ⟨route, hroute, hsame⟩ := hadvances.routed.indexed.byBrowser _ other hother
      have hget := (hadvances.routed.indexed.inverse other route hroute).mpr (hsame ▸ hother)
      have hbefore := hadvances.kept.routes _ other hget
      rw [hremoved.objects] at hroute
      have hold := (h.indexed.inverse other route hroute).mp hbefore
      rw [hsame, hbrowser] at hold
      obtain rfl := Option.some.inj hold
      exact hremoved.gone _ hget
    simp only [hprevious]
    split
    · exact ⟨hadvances, hfree, hremoved.backends⟩
    · have hsent := (hub.removeRoute ref).sameTables_sendBackend
      refine ⟨hadvances.same (hsent _ _), ?_, (hsent _ _).backends.trans hremoved.backends⟩
      rw [(hsent _ _).browserRoutes]
      exact hfree

end RendezvousHub

/-- A step that adds one route and keeps the invariant. -/
structure Adds (before after : RendezvousHub) (route : BrowserRoute) : Prop where
  routed : after.Routed
  routes : ∀ connectionId ref, after.routes.get? connectionId = some ref →
    before.routes.get? connectionId = some ref ∨ ref = before.allocated
  objects : ∀ ref object, before.objects.get? ref = some object →
    ∃ kept, after.objects.get? ref = some kept ∧ SameRoute object kept
  made : ∀ ref kept, after.objects.get? ref = some kept →
    (∃ object, before.objects.get? ref = some object) ∨ ref = before.allocated ∧ kept = route

theorem Adds.same {before mid after : RendezvousHub} {route : BrowserRoute} (h : Adds before mid route)
    (hsame : SameTables mid after) : Adds before after route := by
  refine ⟨(hsame.advances h.routed).routed, ?_, ?_, ?_⟩
  · rw [hsame.routes]
    exact h.routes
  · rw [hsame.objects]
    exact h.objects
  · rw [hsame.objects]
    exact h.made

theorem Kept.adds {before mid after : RendezvousHub} {route : BrowserRoute} (hkept : Kept before mid)
    (h : Adds mid after route) : Adds before after route := by
  refine ⟨h.routed, fun connectionId ref hget => ?_, fun ref object hobject => ?_, fun ref kept hget => ?_⟩
  · rw [← hkept.allocated]
    exact (h.routes connectionId ref hget).imp_left (hkept.routes connectionId ref)
  · obtain ⟨mid, hmid, hsame⟩ := hkept.objects ref object hobject
    obtain ⟨kept, hget, hsame'⟩ := h.objects ref mid hmid
    exact ⟨kept, hget, hsame.trans hsame'⟩
  · rw [← hkept.allocated]
    refine (h.made ref kept hget).imp_left ?_
    rintro ⟨mid, hmid⟩
    exact hkept.made ref mid hmid

namespace RendezvousHub

variable {hub : RendezvousHub}

theorem adds_addRoute (h : hub.Routed) {route : BrowserRoute} {backend : RegisteredBackend}
    (hfree : hub.browserRoutes.get? route.browser = none) (hnew : hub.routes.get? route.connectionId = none)
    (hbackend : hub.backends.get? route.backendId = some backend) : Adds hub (hub.addRoute route) route := by
  have hobject : ∀ ref kept, (hub.objects.set hub.allocated route).get? ref = some kept →
      hub.objects.get? ref = some kept ∧ ref ≠ hub.allocated ∨ ref = hub.allocated ∧ kept = route := by
    intro ref kept hget
    by_cases hsame : ref = hub.allocated
    · subst hsame
      rw [OrderedMap.get?_set_self] at hget
      exact .inr ⟨rfl, (Option.some.inj hget).symm⟩
    · rw [OrderedMap.get?_set_ne hsame] at hget
      exact .inl ⟨hget, hsame⟩
  have hold : ∀ ref object, hub.objects.get? ref = some object →
      (hub.objects.set hub.allocated route).get? ref = some object := by
    intro ref object hget
    have hlt := h.indexed.allocated ref object hget
    exact (OrderedMap.get?_set_ne (Nat.ne_of_lt hlt) _).trans hget
  have hself : (hub.objects.set hub.allocated route).get? hub.allocated = some route :=
    OrderedMap.get?_set_self _ _ _
  have hindexed : (hub.addRoute route).Indexed := by
    refine ⟨fun connectionId ref hget => ?_, fun socket ref hget => ?_, fun ref kept hget => ?_, fun ref kept hget => ?_⟩
    · change (hub.routes.set route.connectionId hub.allocated).get? connectionId = some ref at hget
      rw [OrderedMap.get?_set] at hget
      split at hget
      · rename_i hsame
        cases hget
        exact ⟨route, hself, hsame.symm⟩
      · obtain ⟨object, hobject', rfl⟩ := h.indexed.byConnection connectionId ref hget
        exact ⟨object, hold ref object hobject', rfl⟩
    · change (hub.browserRoutes.set route.browser hub.allocated).get? socket = some ref at hget
      rw [OrderedMap.get?_set] at hget
      split at hget
      · rename_i hsame
        cases hget
        exact ⟨route, hself, hsame.symm⟩
      · obtain ⟨object, hobject', rfl⟩ := h.indexed.byBrowser socket ref hget
        exact ⟨object, hold ref object hobject', rfl⟩
    · change (hub.routes.set route.connectionId hub.allocated).get? kept.connectionId = some ref ↔
        (hub.browserRoutes.set route.browser hub.allocated).get? kept.browser = some ref
      obtain ⟨hget, hne⟩ | ⟨rfl, rfl⟩ := hobject ref kept hget
      · have hinverse := h.indexed.inverse ref kept hget
        rw [OrderedMap.get?_set, OrderedMap.get?_set]
        constructor
        · intro hroute
          split at hroute
          · exact absurd (Option.some.inj hroute).symm hne
          · have hbrowser := hinverse.mp hroute
            rw [if_neg]
            · exact hbrowser
            · intro hsame
              rw [hsame, hfree] at hbrowser
              cases hbrowser
        · intro hbrowser
          split at hbrowser
          · exact absurd (Option.some.inj hbrowser).symm hne
          · have hroute := hinverse.mpr hbrowser
            rw [if_neg]
            · exact hroute
            · intro hsame
              rw [hsame, hnew] at hroute
              cases hroute
      · simp only [OrderedMap.get?_set_self]
    · change ref < hub.allocated + 1
      obtain ⟨hget, -⟩ | ⟨rfl, -⟩ := hobject ref kept hget
      · exact Nat.lt_succ_of_lt (h.indexed.allocated ref kept hget)
      · exact Nat.lt_succ_self _
  refine ⟨⟨hindexed, fun ref kept hhas => ?_⟩, fun connectionId ref hget => ?_,
    fun ref object hget => ⟨object, hold ref object hget, .refl object⟩, fun ref kept hget => ?_⟩
  · obtain ⟨hget, hne⟩ | ⟨rfl, rfl⟩ := hobject ref kept hhas.1
    · have hroute := hhas.2
      change (hub.routes.set route.connectionId hub.allocated).get? kept.connectionId = some ref at hroute
      rw [OrderedMap.get?_set] at hroute
      split at hroute
      · exact absurd (Option.some.inj hroute).symm hne
      · exact h.registered ref kept ⟨hget, hroute⟩
    · exact ⟨backend, hbackend⟩
  · change (hub.routes.set route.connectionId hub.allocated).get? connectionId = some ref at hget
    rw [OrderedMap.get?_set] at hget
    split at hget
    · exact .inr (Option.some.inj hget).symm
    · exact .inl hget
  · exact (hobject ref kept hget).imp (fun hold => ⟨kept, hold.1⟩) id

/-- The store after a ticket was consumed lets the browser on to the backend: as a device of the owner, or by a pairing
    that is open. -/
inductive Admitted (hub : RendezvousHub) (surroundings : Surroundings) (store : trust_store.RendezvousTrustStore)
    (backendId : JsString) (claims : ConnectionTicketClaims) : Prop
  | connection (accountId : JsString) (kind : claims.kind = .connection) (account : claims.accountId = some accountId)
      (named : accountId ≠ []) (owner : trust_store.getBackendOwner store backendId = some accountId)
      (active : trust_store.isDeviceActive store claims.deviceId = true)
  | pairing (pairId : JsString) (pairing : ActivePairing) (kind : claims.kind = .pairing)
      (pair : claims.pairId = some pairId) (opened : hub.pairings.get? pairId = some pairing)
      (unexpired : surroundings.now < pairing.expiresAt) (backend : pairing.backendId = backendId)

/-- A route that `route` is the first state of: its ticket was consumed for its backend, and the checks for its kind
    passed. -/
structure Granted (options : RendezvousHubOptions) (hub : RendezvousHub) (surroundings : Surroundings)
    (route : BrowserRoute) : Prop where
  consumed : ∃ store, trust_store.serve options.trust hub.trustStore
      { call := .consumeRouteTicket route.ticket, circumstances := surroundings.circumstances } =
        .ok (.claims route.claims) store ∧ Admitted hub surroundings store route.backendId route.claims
  backendId : route.claims.backendId = route.backendId
  connectionId : route.claims.connectionId = route.connectionId

theorem getOpenPairing_some {pairId : JsString} {now : Int} {pairing : ActivePairing}
    (hopen : (hub.getOpenPairing pairId now).1 = some pairing) :
    hub.pairings.get? pairId = some pairing ∧ now < pairing.expiresAt := by
  unfold getOpenPairing at hopen
  cases hget : hub.pairings.get? pairId with
  | none =>
    rw [hget] at hopen
    cases hopen
  | some found =>
    simp only [hget] at hopen
    split at hopen
    · cases hopen
    · rename_i hvalid
      cases hopen
      exact ⟨rfl, not_le.mp fun hexpired => hvalid (.inl hexpired)⟩

theorem present_iff {text : Option JsString} : trust_store.present text = true ↔ ∃ s, text = some s ∧ s ≠ [] := by
  cases text with
  | none => simp [trust_store.present]
  | some s => simp [trust_store.present]

theorem admitted_admitTicket {surroundings : Surroundings} {backendId : JsString} {claims : ConnectionTicketClaims}
    (hadmitted : (hub.admitTicket surroundings backendId claims).1 = .ok ()) :
    claims.backendId = backendId ∧ Admitted hub surroundings hub.trustStore backendId claims := by
  unfold admitTicket at hadmitted
  by_cases hbackendId : claims.backendId = backendId
  · rw [if_neg (not_not.mpr hbackendId)] at hadmitted
    refine ⟨hbackendId, ?_⟩
    cases hkind : claims.kind with
    | pairing =>
      simp only [hkind] at hadmitted
      by_cases hpresent : trust_store.present claims.pairId = true
      · obtain ⟨pairId, hpairId, -⟩ := present_iff.mp hpresent
        rw [if_pos hpresent] at hadmitted
        split at hadmitted
        · rename_i hopen
          rw [Option.any_eq_true] at hopen
          obtain ⟨pairing, hpairing, hbackend⟩ := hopen
          obtain ⟨hget, hunexpired⟩ := getOpenPairing_some hpairing
          rw [hpairId] at hget
          exact .pairing pairId pairing hkind hpairId hget hunexpired (of_decide_eq_true hbackend)
        · cases hadmitted
      · rw [if_neg hpresent] at hadmitted
        cases hadmitted
    | connection =>
      simp only [hkind] at hadmitted
      split at hadmitted
      · rename_i hchecks
        obtain ⟨hpresent, howner, hactive⟩ := hchecks
        obtain ⟨accountId, haccountId, hnamed⟩ := present_iff.mp hpresent
        exact .connection accountId hkind haccountId hnamed (howner.trans haccountId) hactive
      · cases hadmitted
  · rw [if_pos hbackendId] at hadmitted
    cases hadmitted

/-- A route that a browser opens and what it is about. -/
structure Opens (options : RendezvousHubOptions) (before after : RendezvousHub) (surroundings : Surroundings)
    (socket : Socket) (backendId ticket : JsString) (route : BrowserRoute) : Prop where
  granted : Granted options before surroundings route
  adds : Adds before after route
  browser : route.browser = socket
  backendId : route.backendId = backendId
  ticket : route.ticket = ticket

theorem establishRoute_cases (h : hub.Routed) (options : RendezvousHubOptions) (surroundings : Surroundings)
    (socket : Socket) {backend : RegisteredBackend} {backendId : JsString} (ticket : JsString)
    (claims : ConnectionTicketClaims) (browserIceServers : List Value)
    (hbackend : hub.backends.get? backendId = some backend) :
    Advances hub (hub.establishRoute options surroundings socket backend backendId ticket claims browserIceServers) ∨
      Adds hub (hub.establishRoute options surroundings socket backend backendId ticket claims browserIceServers)
        { connectionId := claims.connectionId, backendId, browser := socket, ticket, claims } := by
  unfold establishRoute
  split
  · exact .inl ((hub.sameTables_sendBrowserError _ _ _ _).advances h)
  · rename_i hnew
    rw [Option.not_isSome_iff_eq_none] at hnew
    obtain ⟨hleft, hfree, hbackends⟩ := advances_leaveRoute h socket
    have hgone : (hub.leaveRoute socket).routes.get? claims.connectionId = none := by
      rw [Option.eq_none_iff_forall_ne_some]
      intro ref hget
      rw [hleft.kept.routes _ ref hget] at hnew
      cases hnew
    have hadds : Adds _ _ { connectionId := claims.connectionId, backendId, browser := socket, ticket, claims } :=
      adds_addRoute hleft.routed hfree hgone (hbackends ▸ hbackend)
    exact .inr (((hleft.kept.adds hadds).same (sameTables_sendBackend _ _ _)).same (sameTables_sendBrowser _ _ _))

theorem connectBrowser_cases (h : hub.Routed) (options : RendezvousHubOptions) (surroundings : Surroundings)
    (socket : Socket) (backendId ticket : JsString) (browserIceServers : List Value) :
    Advances hub (hub.connectBrowser options surroundings socket backendId ticket browserIceServers) ∨
      ∃ route, Opens options hub (hub.connectBrowser options surroundings socket backendId ticket browserIceServers)
        surroundings socket backendId ticket route := by
  unfold connectBrowser
  cases hbackend : hub.backends.get? backendId with
  | none => exact .inl ((hub.sameTables_sendBrowserError _ _ _ _).advances h)
  | some backend =>
    dsimp only
    split
    · exact .inl ((hub.sameTables_sendBrowserError _ _ _ _).advances h)
    · split
      · exact .inl (((hub.sameTables_trustStore _).trans (sameTables_sendBrowserError _ _ _ _ _)).advances h)
      · rename_i claims store hserve
        have hstored := hub.sameTables_trustStore store
        have hgate := { hub with trustStore := store }.sameTables_admitTicket surroundings backendId claims
        cases hticket : { hub with trustStore := store }.admitTicket surroundings backendId claims with
        | mk result after =>
          rw [hticket] at hgate
          cases result with
          | error message =>
            exact .inl (((hstored.trans hgate).trans (sameTables_sendBrowserError _ _ _ _ _)).advances h)
          | ok _ =>
            have hadvances := (hstored.trans hgate).advances h
            obtain hkept | hadds := establishRoute_cases hadvances.routed options surroundings socket ticket claims
              browserIceServers ((congrArg (·.get? backendId) (hstored.trans hgate).backends).trans hbackend)
            · exact .inl (hadvances.trans hkept)
            · refine .inr ⟨_, ⟨⟨store, hserve, ?_⟩, ?_, rfl⟩, hadvances.kept.adds hadds, rfl, rfl, rfl⟩
              · obtain ⟨-, hadmitted⟩ := admitted_admitTicket (by rw [hticket])
                cases hadmitted with
                | connection accountId kind account named owner active =>
                  exact .connection accountId kind account named owner active
                | pairing pairId pairing kind pair opened unexpired backend =>
                  exact .pairing pairId pairing kind pair opened unexpired backend
              · exact (admitted_admitTicket (by rw [hticket])).1
      · exact .inl ((hub.sameTables_trustStore _).advances h)

theorem handleBrowserMessage_cases (h : hub.Routed) (options : RendezvousHubOptions) (surroundings : Surroundings)
    (socket : Socket) (raw : JsString) :
    Advances hub (hub.handleBrowserMessage options surroundings socket raw) ∨
      ∃ backendId ticket iceServers route,
        decodeBrowserCommand raw = .ok (.connectBackend backendId ticket iceServers) ∧
        Opens options hub (hub.handleBrowserMessage options surroundings socket raw) surroundings socket backendId ticket
          route := by
  unfold handleBrowserMessage
  split
  · exact .inl ((hub.sameTables_sendBrowserError _ _ _ _).advances h)
  · rename_i hdecoded
    refine (connectBrowser_cases h _ _ _ _ _ _).imp id ?_
    rintro ⟨route, hopens⟩
    exact ⟨_, _, _, route, hdecoded, hopens⟩
  · exact .inl (advances_handleConnectionCommand h _ _ _)
  · exact .inl (advances_handleConnectionCommand h _ _ _)

end RendezvousHub

/-- A step adds no route, or the one that a browser opens. -/
theorem handle_cases {hub : RendezvousHub} (h : hub.Routed) (options : RendezvousHubOptions)
    (surroundings : Surroundings) (event : Event) :
    Advances hub (handle options surroundings hub event) ∨
      ∃ socket raw backendId ticket iceServers route, event = .browserMessage socket raw ∧
        decodeBrowserCommand raw = .ok (.connectBackend backendId ticket iceServers) ∧
        RendezvousHub.Opens options hub (handle options surroundings hub event) surroundings socket backendId ticket
          route := by
  cases event with
  | backendAccepted socket =>
    have haccepted : SameTables hub { hub with
        backendHandshakes := hub.backendHandshakes.set socket { nonce := decimal hub.nonces }
        nonces := hub.nonces + 1 } := ⟨rfl, rfl, rfl, rfl, rfl⟩
    exact .inl ((haccepted.trans (RendezvousHub.sameTables_sendBackend _ _ _)).advances h)
  | registrationTimedOut socket =>
    left
    change Advances hub (hub.onRegistrationTimeout socket)
    unfold RendezvousHub.onRegistrationTimeout
    split
    · exact ((hub.sameTables_sendError _ _ _ _).trans (RendezvousHub.sameTables_close _ _)).advances h
    · exact .refl h
  | backendMessage socket raw => exact .inl (RendezvousHub.advances_handleBackendMessage h _ _ _ _)
  | backendClosed socket => exact .inl (RendezvousHub.advances_removeBackendSocket h _)
  | browserMessage socket raw =>
    refine (RendezvousHub.handleBrowserMessage_cases h options surroundings socket raw).imp id ?_
    rintro ⟨backendId, ticket, iceServers, route, hdecoded, hopens⟩
    exact ⟨socket, raw, backendId, ticket, iceServers, route, rfl, hdecoded, hopens⟩
  | browserClosed socket => exact .inl (RendezvousHub.advances_removeBrowser h _)
  | closing socket => exact .inl ((hub.sameTables_close socket).advances h)
  | pairingLookedUp pairId => exact .inl ((hub.sameTables_getOpenPairing pairId _).advances h)
  | called call => exact .inl (RendezvousHub.advances_callStore h _ _ _)
  | shutDown => exact .inl (RendezvousHub.advances_shutDown h)

end pipane.rendezvous_hub

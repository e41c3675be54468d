import Pipane.Rendezvous.RendezvousHub

open javascript json durable pipane.trust_protocol pipane.rendezvous_protocol pipane.ice_server_provider

namespace pipane.rendezvous_hub

namespace RendezvousHub

/-- `ref` is an object in the route table. -/
def Has (hub : RendezvousHub) (ref : RouteRef) (route : BrowserRoute) : Prop :=
  hub.objects.get? ref = some route ∧ hub.routes.get? route.connectionId = some ref

/-- The table by connection id and the one by browser hold the same objects, each under its own key. -/
structure Indexed (hub : RendezvousHub) : Prop where
  byConnection : ∀ connectionId ref, hub.routes.get? connectionId = some ref →
    ∃ route, hub.objects.get? ref = some route ∧ route.connectionId = connectionId
  byBrowser : ∀ socket ref, hub.browserRoutes.get? socket = some ref →
    ∃ route, hub.objects.get? ref = some route ∧ route.browser = socket
  inverse : ∀ ref route, hub.objects.get? ref = some route →
    (hub.routes.get? route.connectionId = some ref ↔ hub.browserRoutes.get? route.browser = some ref)
  allocated : ∀ ref route, hub.objects.get? ref = some route → ref < hub.allocated

/-- Every route is one of a backend that is registered. -/
def Registered (hub : RendezvousHub) : Prop :=
  ∀ ref route, hub.Has ref route → ∃ backend, hub.backends.get? route.backendId = some backend

theorem Indexed.has {hub : RendezvousHub} (h : hub.Indexed) {connectionId : JsString} {ref : RouteRef}
    (hget : hub.routes.get? connectionId = some ref) : ∃ route, hub.Has ref route ∧ route.connectionId = connectionId := by
  obtain ⟨route, hobject, rfl⟩ := h.byConnection connectionId ref hget
  exact ⟨route, ⟨hobject, hget⟩, rfl⟩

end RendezvousHub

/-- What a route object keeps while its SDPs and the account of its claims may change. -/
structure SameRoute (route kept : BrowserRoute) : Prop where
  connectionId : kept.connectionId = route.connectionId
  backendId : kept.backendId = route.backendId
  browser : kept.browser = route.browser
  ticket : kept.ticket = route.ticket
  claims : kept.claims = { route.claims with accountId := kept.claims.accountId }

theorem SameRoute.refl (route : BrowserRoute) : SameRoute route route :=
  ⟨rfl, rfl, rfl, rfl, rfl⟩

theorem SameRoute.trans {route mid kept : BrowserRoute} (hfirst : SameRoute route mid) (hsecond : SameRoute mid kept) :
    SameRoute route kept := by
  refine ⟨hsecond.connectionId.trans hfirst.connectionId, hsecond.backendId.trans hfirst.backendId,
    hsecond.browser.trans hfirst.browser, hsecond.ticket.trans hfirst.ticket, ?_⟩
  rw [hsecond.claims, hfirst.claims]

/-- A step that adds no route: routes may go, and objects keep what they are about. -/
structure Kept (before after : RendezvousHub) : Prop where
  indexed : before.Indexed → after.Indexed
  routes : ∀ connectionId ref, after.routes.get? connectionId = some ref → before.routes.get? connectionId = some ref
  objects : ∀ ref route, before.objects.get? ref = some route →
    ∃ kept, after.objects.get? ref = some kept ∧ SameRoute route kept
  made : ∀ ref kept, after.objects.get? ref = some kept → ∃ route, before.objects.get? ref = some route
  allocated : after.allocated = before.allocated

namespace Kept

theorem refl (hub : RendezvousHub) : Kept hub hub :=
  ⟨id, fun _ _ h => h, fun _ route h => ⟨route, h, .refl route⟩, fun _ kept h => ⟨kept, h⟩, rfl⟩

theorem trans {before mid after : RendezvousHub} (hfirst : Kept before mid) (hsecond : Kept mid after) :
    Kept before after := by
  refine ⟨fun h => hsecond.indexed (hfirst.indexed h),
    fun connectionId ref h => hfirst.routes connectionId ref (hsecond.routes connectionId ref h), ?_, ?_,
    hsecond.allocated.trans hfirst.allocated⟩
  · intro ref route h
    obtain ⟨mid, hmid, hsame⟩ := hfirst.objects ref route h
    obtain ⟨kept, hkept, hsame'⟩ := hsecond.objects ref mid hmid
    exact ⟨kept, hkept, hsame.trans hsame'⟩
  · intro ref kept h
    obtain ⟨mid, hmid⟩ := hsecond.made ref kept h
    exact hfirst.made ref mid hmid

theorem has {before after : RendezvousHub} (h : Kept before after) {ref : RouteRef} {kept : BrowserRoute}
    (hhas : after.Has ref kept) : ∃ route, before.Has ref route ∧ SameRoute route kept := by
  obtain ⟨route, hroute⟩ := h.made ref kept hhas.1
  obtain ⟨kept', hkept, hsame⟩ := h.objects ref route hroute
  rw [hhas.1] at hkept
  obtain rfl := Option.some.inj hkept
  refine ⟨route, ⟨hroute, ?_⟩, hsame⟩
  have hget := h.routes _ ref hhas.2
  rwa [hsame.connectionId] at hget

theorem registered {before after : RendezvousHub} (h : Kept before after) (hbefore : before.Registered)
    (hbackends : ∀ backendId backend, before.backends.get? backendId = some backend →
      ∃ backend, after.backends.get? backendId = some backend) : after.Registered := by
  intro ref kept hhas
  obtain ⟨route, hroute, hsame⟩ := h.has hhas
  obtain ⟨backend, hbackend⟩ := hbefore ref route hroute
  rw [hsame.backendId]
  exact hbackends route.backendId backend hbackend

end Kept

/-- Two hubs that differ in nothing but the trust store, the pairings, the handshakes, the sockets and what was sent. -/
structure SameTables (before after : RendezvousHub) : Prop where
  routes : after.routes = before.routes
  browserRoutes : after.browserRoutes = before.browserRoutes
  objects : after.objects = before.objects
  backends : after.backends = before.backends
  allocated : after.allocated = before.allocated

namespace SameTables

theorem refl (hub : RendezvousHub) : SameTables hub hub :=
  ⟨rfl, rfl, rfl, rfl, rfl⟩

theorem trans {before mid after : RendezvousHub} (hfirst : SameTables before mid) (hsecond : SameTables mid after) :
    SameTables before after :=
  ⟨hsecond.routes.trans hfirst.routes, hsecond.browserRoutes.trans hfirst.browserRoutes,
    hsecond.objects.trans hfirst.objects, hsecond.backends.trans hfirst.backends,
    hsecond.allocated.trans hfirst.allocated⟩

theorem kept {before after : RendezvousHub} (h : SameTables before after) : Kept before after := by
  obtain ⟨hroutes, hbrowserRoutes, hobjects, -, hallocated⟩ := h
  refine ⟨fun hindexed => ?_, ?_, ?_, ?_, hallocated⟩
  · obtain ⟨hbyConnection, hbyBrowser, hinverse, hfresh⟩ := hindexed
    constructor
    · rwa [hroutes, hobjects]
    · rwa [hbrowserRoutes, hobjects]
    · rwa [hroutes, hbrowserRoutes, hobjects]
    · rwa [hobjects, hallocated]
  · rw [hroutes]
    exact fun _ _ h => h
  · rw [hobjects]
    exact fun _ route h => ⟨route, h, .refl route⟩
  · rw [hobjects]
    exact fun _ kept h => ⟨kept, h⟩

end SameTables

namespace RendezvousHub

variable (hub : RendezvousHub)

theorem sameTables_send (socket : Socket) (message : Sent) : SameTables hub (hub.send socket message) := by
  unfold send
  split
  · exact ⟨rfl, rfl, rfl, rfl, rfl⟩
  · exact .refl hub

theorem sameTables_sendBackend (socket : Socket) (message : BackendRendezvousMessage) :
    SameTables hub (hub.sendBackend socket message) :=
  hub.sameTables_send socket _

theorem sameTables_sendBrowser (socket : Socket) (message : BrowserRendezvousMessage) :
    SameTables hub (hub.sendBrowser socket message) :=
  hub.sameTables_send socket _

theorem sameTables_sendError (socket : Socket) (code : RendezvousErrorCode) (message : JsString)
    (connectionId : Option JsString) : SameTables hub (hub.sendError socket code message connectionId) :=
  hub.sameTables_send socket _

theorem sameTables_sendBrowserError (socket : Socket) (code : RendezvousErrorCode) (message : JsString)
    (connectionId : Option JsString) : SameTables hub (hub.sendBrowserError socket code message connectionId) :=
  hub.sameTables_send socket _

theorem sameTables_close (socket : Socket) : SameTables hub (hub.close socket) :=
  ⟨rfl, rfl, rfl, rfl, rfl⟩

theorem sameTables_trustStore (store : trust_store.RendezvousTrustStore) :
    SameTables hub { hub with trustStore := store } :=
  ⟨rfl, rfl, rfl, rfl, rfl⟩

theorem sameTables_getOpenPairing (pairId : JsString) (now : Int) :
    SameTables hub (hub.getOpenPairing pairId now).2 := by
  unfold getOpenPairing
  split
  · exact .refl hub
  · split
    · exact ⟨rfl, rfl, rfl, rfl, rfl⟩
    · exact .refl hub

theorem sameTables_sendBackends (backends : List RegisteredBackend) (message : BackendRendezvousMessage) :
    SameTables hub (hub.sendBackends backends message) := by
  unfold sendBackends
  induction backends generalizing hub with
  | nil => exact .refl hub
  | cons backend backends ih =>
    exact (hub.sameTables_sendBackend backend.socket message).trans (ih _)

variable {hub}

theorem dropRoute_of_has {ref : RouteRef} {route : BrowserRoute} (h : hub.Indexed) (hhas : hub.Has ref route) :
    hub.dropRoute ref route = { hub with
      routes := hub.routes.erase route.connectionId
      browserRoutes := hub.browserRoutes.erase route.browser } := by
  have hbrowser := (h.inverse ref route hhas.1).mp hhas.2
  unfold dropRoute
  rw [if_pos hhas.2, if_pos hbrowser]

theorem dropRoute_of_not_has {ref : RouteRef} {route : BrowserRoute} (h : hub.Indexed)
    (hobject : hub.objects.get? ref = some route) (hnot : hub.routes.get? route.connectionId ≠ some ref) :
    hub.dropRoute ref route = hub := by
  have hbrowser : hub.browserRoutes.get? route.browser ≠ some ref := fun hget =>
    hnot ((h.inverse ref route hobject).mpr hget)
  unfold dropRoute
  rw [if_neg hnot, if_neg hbrowser]

theorem Indexed.unique {ref other : RouteRef} {route otherRoute : BrowserRoute} (h : hub.Indexed)
    (hhas : hub.Has ref route) (hother : hub.Has other otherRoute)
    (hsame : route.connectionId = otherRoute.connectionId ∨ route.browser = otherRoute.browser) : ref = other := by
  obtain hsame | hsame := hsame
  · have hget := hhas.2
    rw [hsame, hother.2] at hget
    exact (Option.some.inj hget).symm
  · have hget := (h.inverse ref route hhas.1).mp hhas.2
    rw [hsame, (h.inverse other otherRoute hother.1).mp hother.2] at hget
    exact (Option.some.inj hget).symm

theorem Indexed.erase {ref : RouteRef} {route : BrowserRoute} (h : hub.Indexed) (hhas : hub.Has ref route) :
    ({ hub with
      routes := hub.routes.erase route.connectionId
      browserRoutes := hub.browserRoutes.erase route.browser } : RendezvousHub).Indexed := by
  refine ⟨fun connectionId other hget => ?_, fun socket other hget => ?_, fun other otherRoute hobject => ?_,
    h.allocated⟩
  · exact h.byConnection connectionId other (OrderedMap.get?_of_erase hget).2
  · exact h.byBrowser socket other (OrderedMap.get?_of_erase hget).2
  · constructor
    · intro hget
      obtain ⟨hne, hget⟩ := OrderedMap.get?_of_erase hget
      have hbrowser : otherRoute.browser ≠ route.browser := by
        intro hsame
        have hrefs := h.unique ⟨hobject, hget⟩ hhas (.inr hsame)
        subst hrefs
        rw [hhas.1] at hobject
        exact hne (congrArg _ (Option.some.inj hobject).symm)
      exact (OrderedMap.get?_erase_ne hbrowser).trans ((h.inverse other otherRoute hobject).mp hget)
    · intro hget
      obtain ⟨hne, hget⟩ := OrderedMap.get?_of_erase hget
      have hroute := (h.inverse other otherRoute hobject).mpr hget
      have hconnectionId : otherRoute.connectionId ≠ route.connectionId := by
        intro hsame
        have hrefs := h.unique ⟨hobject, hroute⟩ hhas (.inl hsame)
        subst hrefs
        rw [hhas.1] at hobject
        exact hne (congrArg _ (Option.some.inj hobject).symm)
      exact (OrderedMap.get?_erase_ne hconnectionId).trans hroute

/-- Nothing but the route of `ref` goes. -/
structure Removed (before after : RendezvousHub) (ref : RouteRef) : Prop where
  kept : Kept before after
  objects : after.objects = before.objects
  backends : after.backends = before.backends
  gone : ∀ connectionId, after.routes.get? connectionId ≠ some ref
  others : ∀ connectionId other, before.routes.get? connectionId = some other → other ≠ ref →
    after.routes.get? connectionId = some other

theorem removed_removeRoute (h : hub.Indexed) (ref : RouteRef) : Removed hub (hub.removeRoute ref) ref := by
  unfold removeRoute
  cases hobject : hub.objects.get? ref with
  | none =>
    refine ⟨.refl hub, rfl, rfl, fun connectionId hget => ?_, fun _ _ hget _ => hget⟩
    obtain ⟨route, hroute, -⟩ := h.byConnection connectionId ref hget
    rw [hobject] at hroute
    cases hroute
  | some route =>
    dsimp only
    by_cases hroute : hub.routes.get? route.connectionId = some ref
    · have hhas : hub.Has ref route := ⟨hobject, hroute⟩
      rw [dropRoute_of_has h hhas]
      refine ⟨⟨fun _ => h.erase hhas, fun _ _ hget => (OrderedMap.get?_of_erase hget).2,
        fun _ route hget => ⟨route, hget, .refl route⟩, fun _ kept hget => ⟨kept, hget⟩, rfl⟩, rfl, rfl, ?_, ?_⟩
      · intro connectionId hget
        obtain ⟨hne, hget⟩ := OrderedMap.get?_of_erase hget
        obtain ⟨other, hother, rfl⟩ := h.byConnection connectionId ref hget
        rw [hobject] at hother
        exact hne (congrArg _ (Option.some.inj hother).symm)
      · intro connectionId other hget hne
        have hconnectionId : connectionId ≠ route.connectionId := by
          rintro rfl
          rw [hroute] at hget
          exact hne (Option.some.inj hget).symm
        exact (OrderedMap.get?_erase_ne hconnectionId).trans hget
    · rw [dropRoute_of_not_has h hobject hroute]
      refine ⟨.refl hub, rfl, rfl, fun connectionId hget => ?_, fun _ _ hget _ => hget⟩
      obtain ⟨other, hother, rfl⟩ := h.byConnection connectionId ref hget
      rw [hobject] at hother
      obtain rfl := Option.some.inj hother
      exact hroute hget

/-- The routes that a loop picks are gone after it, and no others. -/
structure Closed (before after : RendezvousHub) (refs : List RouteRef) (picks : BrowserRoute → Bool) : Prop where
  kept : Kept before after
  objects : after.objects = before.objects
  backends : after.backends = before.backends
  gone : ∀ ref route, after.Has ref route → ref ∈ refs → picks route = false

theorem closed_closeRoutes (h : hub.Indexed) (refs : List RouteRef) (picks : BrowserRoute → Bool) (reason : JsString) :
    Closed hub (hub.closeRoutes refs picks reason) refs picks := by
  induction refs generalizing hub with
  | nil => exact ⟨.refl hub, rfl, rfl, fun _ _ _ hmem => absurd hmem List.not_mem_nil⟩
  | cons ref refs ih =>
    unfold closeRoutes
    cases hobject : hub.objects.get? ref with
    | none =>
      dsimp only
      obtain ⟨hkept, hobjects, hbackends, hgone⟩ := ih h
      refine ⟨hkept, hobjects, hbackends, fun other route hhas hmem => ?_⟩
      obtain rfl | hmem := List.mem_cons.mp hmem
      · have hget := hhas.1
        rw [hobjects, hobject] at hget
        cases hget
      · exact hgone other route hhas hmem
    | some route =>
      dsimp only
      by_cases hpicks : picks route = true
      · rw [if_pos hpicks]
        have hremoved := removed_removeRoute h ref
        have hsent := (hub.removeRoute ref).sameTables_sendBrowser route.browser
          (.connectionClosed route.connectionId reason)
        have hboth := hremoved.kept.trans hsent.kept
        obtain ⟨hkept, hobjects, hbackends, hgone⟩ := ih (hboth.indexed h)
        refine ⟨hboth.trans hkept, hobjects.trans (hsent.objects.trans hremoved.objects),
          hbackends.trans (hsent.backends.trans hremoved.backends), fun other otherRoute hhas hmem => ?_⟩
        obtain rfl | hmem := List.mem_cons.mp hmem
        · have hget := hkept.routes _ other hhas.2
          rw [hsent.routes] at hget
          exact absurd hget (hremoved.gone _)
        · exact hgone other otherRoute hhas hmem
      · rw [if_neg hpicks]
        obtain ⟨hkept, hobjects, hbackends, hgone⟩ := ih h
        refine ⟨hkept, hobjects, hbackends, fun other otherRoute hhas hmem => ?_⟩
        obtain rfl | hmem := List.mem_cons.mp hmem
        · have hget := hhas.1
          rw [hobjects, hobject] at hget
          obtain rfl := Option.some.inj hget
          exact Bool.eq_false_iff.mpr hpicks
        · exact hgone other otherRoute hhas hmem

theorem Closed.all {after : RendezvousHub} {picks : BrowserRoute → Bool}
    (hclosed : Closed hub after hub.routes.values picks) {ref : RouteRef} {route : BrowserRoute}
    (hhas : after.Has ref route) : picks route = false := by
  refine hclosed.gone ref route hhas ?_
  exact OrderedMap.mem_values_of_get? (hclosed.kept.routes _ ref hhas.2)

/-- An object that changes its SDPs or the account of its claims. -/
theorem kept_setObject {ref : RouteRef} {route kept : BrowserRoute} (hobject : hub.objects.get? ref = some route)
    (hsame : SameRoute route kept) : Kept hub { hub with objects := hub.objects.set ref kept } := by
  have hget : ∀ other otherKept, (hub.objects.set ref kept).get? other = some otherKept →
      ∃ otherRoute, hub.objects.get? other = some otherRoute ∧ SameRoute otherRoute otherKept := by
    intro other otherKept hget
    by_cases heq : other = ref
    · subst heq
      rw [OrderedMap.get?_set_self] at hget
      obtain rfl := Option.some.inj hget
      exact ⟨route, hobject, hsame⟩
    · rw [OrderedMap.get?_set_ne heq] at hget
      exact ⟨otherKept, hget, .refl otherKept⟩
  have hset : ∀ other otherRoute, hub.objects.get? other = some otherRoute →
      ∃ otherKept, (hub.objects.set ref kept).get? other = some otherKept ∧ SameRoute otherRoute otherKept := by
    intro other otherRoute hother
    by_cases heq : other = ref
    · subst heq
      rw [hobject] at hother
      obtain rfl := Option.some.inj hother
      exact ⟨kept, OrderedMap.get?_set_self _ _ _, hsame⟩
    · exact ⟨otherRoute, (OrderedMap.get?_set_ne heq _).trans hother, .refl otherRoute⟩
  refine ⟨fun h => ⟨fun connectionId other hroute => ?_, fun socket other hroute => ?_, fun other otherKept hother => ?_,
    fun other otherKept hother => ?_⟩, fun _ _ hroute => hroute, hset, fun other otherKept hother => ?_, rfl⟩
  · obtain ⟨otherRoute, hother, rfl⟩ := h.byConnection connectionId other hroute
    obtain ⟨otherKept, hkept, hsame⟩ := hset other otherRoute hother
    exact ⟨otherKept, hkept, hsame.connectionId⟩
  · obtain ⟨otherRoute, hother, rfl⟩ := h.byBrowser socket other hroute
    obtain ⟨otherKept, hkept, hsame⟩ := hset other otherRoute hother
    exact ⟨otherKept, hkept, hsame.browser⟩
  · obtain ⟨otherRoute, hotherRoute, hsame⟩ := hget other otherKept hother
    have hinverse := h.inverse other otherRoute hotherRoute
    rw [← hsame.connectionId, ← hsame.browser] at hinverse
    exact hinverse
  · obtain ⟨otherRoute, hotherRoute, -⟩ := hget other otherKept hother
    exact h.allocated other otherRoute hotherRoute
  · obtain ⟨otherRoute, hotherRoute, -⟩ := hget other otherKept hother
    exact ⟨otherRoute, hotherRoute⟩

end RendezvousHub

end pipane.rendezvous_hub

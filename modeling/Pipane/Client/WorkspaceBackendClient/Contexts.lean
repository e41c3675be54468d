import Pipane.Client.WebRtcFrameTransport.CloseFinality
import Pipane.Client.WorkspaceBackendClient

open javascript transition pipane.backend_protocol pipane.frame_transport pipane.webrtc_frame_transport

namespace pipane.workspace_backend_client

/-- No connection of the client waits for its ticket. -/
def BackendClient.Ticketed (self : BackendClient) : Prop :=
  ∀ call ∈ self.transport.establishments, ¬ call.Authorizing

/-- The client is closed, and stays so until it is connected. -/
def BackendClient.Closed (self : BackendClient) : Prop :=
  self.transport.Fenced

section

variable {self next : BackendClient}

theorem BackendClient.Closed.isConnected (h : self.Closed) : self.isConnected = false :=
  WebRtcFrameTransport.Fenced.isConnected h

theorem BackendClient.Closed.ticketed (h : self.Closed) : self.Ticketed :=
  h.authorized

theorem BackendClient.Closed.of_transport (h : self.Closed) (hsame : next.transport = self.transport) :
    next.Closed := by
  unfold Closed
  rw [hsame]
  exact h

theorem BackendClient.Closed.onTransport (h : self.Closed) {event : TransportEvent} (hconnect : event ≠ .connect) :
    (self.onTransport event).Closed := by
  unfold Closed
  rw [transport_onTransport]
  exact (h.stays_step hconnect).fenced

theorem BackendClient.Closed.disconnect (h : self.Closed) : self.disconnect.Closed :=
  h.onTransport TransportEvent.noConfusion

theorem BackendClient.Ticketed.disconnect (h : self.Ticketed) : self.disconnect.Closed := by
  unfold Closed BackendClient.disconnect
  rw [transport_onTransport]
  exact WebRtcFrameTransport.fenced_close h

end

namespace WorkspaceBackendClient

/-- A client belongs to a context that is present. -/
def Owned (self : WorkspaceBackendClient) (client : Nat) : Prop :=
  ∃ backendId context, self.contexts.get? backendId = some context ∧ self.contextClient context = some client

/-- The contexts are kept under their backends, and a client of no context is closed. -/
structure Consistent (workspace : WorkspaceBackendClient) : Prop where
  keyed : ∀ {backendId context}, workspace.contexts.get? backendId = some context →
    context < workspace.objectCount ∧ (workspace.objects context).descriptor.backendId = backendId
  bounded : ∀ {context client}, workspace.contextClient context = some client → client < workspace.clientCount
  managed : ∀ {backendId client}, workspace.manager.clients.get? backendId = some client →
    client < workspace.clientCount
  closed : ∀ {client}, client < workspace.clientCount → workspace.Owned client ∨ (workspace.clients client).Closed

variable {self next : WorkspaceBackendClient}

theorem Consistent.of_same (h : self.Consistent) (hcontexts : next.contexts = self.contexts)
    (hobjects : next.objects = self.objects) (hcount : next.objectCount = self.objectCount)
    (hclients : next.clients = self.clients) (hclientCount : next.clientCount = self.clientCount)
    (hmanaged : next.manager.clients = self.manager.clients) : next.Consistent := by
  have howned : ∀ client, self.Owned client → next.Owned client := by
    rintro client ⟨backendId, context, hget, hclient⟩
    refine ⟨backendId, context, ?_, ?_⟩
    · rw [hcontexts, hget]
    · rw [contextClient, hobjects]
      exact hclient
  constructor
  · intro backendId context hget
    rw [hcontexts] at hget
    rw [hcount, hobjects]
    exact h.keyed hget
  · intro context client hclient
    rw [contextClient, hobjects] at hclient
    rw [hclientCount]
    exact h.bounded hclient
  · intro backendId client hget
    rw [hmanaged] at hget
    rw [hclientCount]
    exact h.managed hget
  · intro client hlt
    rw [hclientCount] at hlt
    rw [hclients]
    exact (h.closed hlt).imp_left (howned client)

theorem Consistent.updateClient (h : self.Consistent) (client : Nat) {f : BackendClient → BackendClient}
    (hf : self.Owned client ∨ ((self.clients client).Closed → (f (self.clients client)).Closed)) :
    (self.updateClient client f).Consistent := by
  refine ⟨h.keyed, h.bounded, h.managed, ?_⟩
  intro other hlt
  obtain howned | hclosed := h.closed hlt
  · exact .inl howned
  · by_cases hsame : other = client
    · subst hsame
      obtain howned | hkept := hf
      · exact .inl howned
      · refine .inr ?_
        rw [clients_updateClient_self]
        exact hkept hclosed
    · refine .inr ?_
      rw [clients_updateClient_of_ne hsame]
      exact hclosed

theorem Consistent.updateClient? (h : self.Consistent) (client : Option Nat) {f : BackendClient → BackendClient}
    (hf : ∀ before : BackendClient, before.Closed → (f before).Closed) :
    (self.updateClient? client f).Consistent := by
  cases client with
  | none => exact h
  | some client => exact h.updateClient client (.inr (hf _))

theorem Consistent.updateContext (h : self.Consistent) (context : Nat) {f : BackendContext → BackendContext}
    (hclient : (f (self.objects context)).client = (self.objects context).client)
    (hdescriptor : (f (self.objects context)).descriptor = (self.objects context).descriptor) :
    (self.updateContext context f).Consistent := by
  constructor
  · intro backendId other hget
    rw [descriptor_updateContext hdescriptor]
    exact h.keyed hget
  · intro other client hother
    rw [contextClient_updateContext hclient] at hother
    exact h.bounded hother
  · exact h.managed
  · intro client hlt
    refine (h.closed hlt).imp_left ?_
    rintro ⟨backendId, other, hget, hother⟩
    exact ⟨backendId, other, hget, (contextClient_updateContext hclient other).trans hother⟩

/-- A step that leaves the contexts and the active backend as they are. -/
structure Grown (before after : WorkspaceBackendClient) : Prop where
  consistent : after.Consistent
  contexts : after.contexts = before.contexts
  activeId : after.activeId = before.activeId

theorem Consistent.grown (h : self.Consistent) : Grown self self :=
  ⟨h, rfl, rfl⟩

theorem Grown.trans {last : WorkspaceBackendClient} (h : Grown self next) (h' : Grown next last) : Grown self last :=
  ⟨h'.consistent, h'.contexts.trans h.contexts, h'.activeId.trans h.activeId⟩

/-- What the manager gives out for a backend: a client that it has, or a new one. -/
structure Obtained (before : WorkspaceBackendClient) (client : Nat) (after : WorkspaceBackendClient) : Prop where
  contexts : after.contexts = before.contexts
  activeId : after.activeId = before.activeId
  objects : after.objects = before.objects
  objectCount : after.objectCount = before.objectCount
  bound : client < after.clientCount
  grows : before.clientCount ≤ after.clientCount
  managed : ∀ {backendId other}, after.manager.clients.get? backendId = some other → other < after.clientCount
  closed : ∀ {other}, other < after.clientCount → other = client ∨ before.Owned other ∨ (after.clients other).Closed

theorem Consistent.obtained (h : self.Consistent) {backendId : JsString} {client : Nat}
    (hget : self.getClient backendId = some (client, next)) : Obtained self client next := by
  unfold WorkspaceBackendClient.getClient at hget
  split at hget
  · rename_i client' hmanaged
    cases hget
    exact ⟨rfl, rfl, rfl, rfl, h.managed hmanaged, Nat.le_refl _, h.managed, fun hlt => .inr (h.closed hlt)⟩
  · split at hget
    · cases hget
    · split at hget
      · cases hget
      · cases hget
        refine ⟨rfl, rfl, rfl, rfl, Nat.lt_succ_self _, Nat.le_succ _, ?_, ?_⟩
        · intro otherId other hother
          rw [OrderedMap.get?_set] at hother
          split at hother
          · cases hother
            exact Nat.lt_succ_self _
          · exact Nat.lt_succ_of_lt (h.managed hother)
        · intro other hlt
          obtain hlt | rfl := Nat.lt_succ_iff_lt_or_eq.mp hlt
          · obtain howned | hclosed := h.closed hlt
            · exact .inr (.inl howned)
            · refine .inr (.inr ?_)
              change BackendClient.Closed (Function.update self.clients self.clientCount _ other)
              rw [Function.update_of_ne (Nat.ne_of_lt hlt)]
              exact hclosed
          · exact .inl rfl

/-- A context that is there gets its client. -/
theorem Consistent.ensureClient (h : self.Consistent) {backendId : JsString} {context client : Nat}
    (hpresent : self.contexts.get? backendId = some context)
    (hensure : self.ensureClient context = some (client, next)) :
    Grown self next ∧ next.contextClient context = some client := by
  unfold WorkspaceBackendClient.ensureClient at hensure
  split at hensure
  · cases hensure
  · split at hensure
    · rename_i hclient
      cases hensure
      exact ⟨h.grown, hclient⟩
    · rename_i hnone
      obtain ⟨⟨client', obtained⟩, hget, heq⟩ := Option.map_eq_some_iff.mp hensure
      cases heq
      have hobtained := h.obtained hget
      have hself : (obtained.updateContext context fun object => { object with client := some client' }).contextClient
          context = some client' := by
        rw [contextClient, objects_updateContext_self]
      have hother : ∀ other, other ≠ context → (obtained.updateContext context fun object =>
          { object with client := some client' }).contextClient other = self.contextClient other := by
        intro other hne
        rw [contextClient, objects_updateContext_of_ne hne, hobtained.objects]
        rfl
      refine ⟨⟨⟨?_, ?_, hobtained.managed, ?_⟩, hobtained.contexts, hobtained.activeId⟩, hself⟩
      · intro otherId other hget
        rw [descriptor_updateContext rfl, hobtained.objects]
        obtain ⟨hlt, hid⟩ := h.keyed (hobtained.contexts ▸ hget)
        exact ⟨Nat.lt_of_lt_of_eq hlt hobtained.objectCount.symm, hid⟩
      · intro other owner howner
        by_cases hsame : other = context
        · subst hsame
          rw [hself] at howner
          cases howner
          exact hobtained.bound
        · rw [hother other hsame] at howner
          exact Nat.lt_of_lt_of_le (h.bounded howner) hobtained.grows
      · intro other hlt
        obtain rfl | ⟨otherId, owner, hget, howner⟩ | hclosed := hobtained.closed hlt
        · exact .inl ⟨backendId, context, hobtained.contexts ▸ hpresent, hself⟩
        · refine .inl ⟨otherId, owner, hobtained.contexts ▸ hget, ?_⟩
          rw [hother owner]
          · exact howner
          · rintro rfl
            rw [hnone] at howner
            cases howner
        · exact .inr hclosed

theorem Consistent.connectContext (h : self.Consistent) {backendId : JsString} {context connection : Nat}
    (hpresent : self.contexts.get? backendId = some context)
    (hconnect : self.connectContext context = some (connection, next)) : Grown self next := by
  unfold WorkspaceBackendClient.connectContext at hconnect
  split at hconnect
  · cases hconnect
    exact h.grown
  · obtain ⟨⟨client, ensured⟩, hensure, heq⟩ := Option.map_eq_some_iff.mp hconnect
    cases heq
    obtain ⟨hgrown, hclient⟩ := h.ensureClient hpresent hensure
    have hmarked := hgrown.consistent.updateContext context
      (f := fun object => { object with connecting := some ensured.connections.length }) rfl rfl
    have howned : (ensured.updateContext context fun object =>
        { object with connecting := some ensured.connections.length }).Owned client :=
      ⟨backendId, context, hgrown.contexts ▸ hpresent, (contextClient_updateContext rfl context).trans hclient⟩
    have hconnected := hmarked.updateClient client (f := BackendClient.connect) (.inl howned)
    exact ⟨hconnected.of_same rfl rfl rfl rfl rfl rfl, hgrown.contexts, hgrown.activeId⟩

theorem Consistent.connectAll {contexts : List Nat} (h : self.Consistent)
    (hpresent : ∀ context ∈ contexts, ∃ backendId, self.contexts.get? backendId = some context) :
    Grown self (self.connectAll contexts).2 := by
  induction contexts generalizing self with
  | nil => exact h.grown
  | cons context rest ih =>
    obtain ⟨backendId, hget⟩ := hpresent context List.mem_cons_self
    have hrest : ∀ other ∈ rest, ∃ backendId, self.contexts.get? backendId = some other :=
      fun other hother => hpresent other (List.mem_cons_of_mem _ hother)
    unfold WorkspaceBackendClient.connectAll
    split
    · exact ih h hrest
    · rename_i connection next hconnect
      have hgrown := h.connectContext hget hconnect
      exact hgrown.trans (ih hgrown.consistent fun other hother => hgrown.contexts ▸ hrest other hother)

/-- Deleting contexts whose clients can be closed. -/
theorem Consistent.dropContext (h : self.Consistent) (entry : JsString × Nat)
    (hsound : ∀ context client, self.contexts.get? entry.1 = some context →
      self.contextClient context = some client →
        (self.clients client).Closed ∨ (self.contextClient entry.2 = some client ∧ (self.clients client).Ticketed)) :
    (self.dropContext entry).Consistent := by
  have hdisconnected := h.updateClient? (self.contextClient entry.2) (f := BackendClient.disconnect)
    fun before hclosed => hclosed.disconnect
  unfold WorkspaceBackendClient.dropContext
  constructor
  · intro backendId context hget
    exact hdisconnected.keyed ((contexts_updateClient? _ _).symm ▸ (OrderedMap.get?_of_erase hget).2)
  · exact hdisconnected.bounded
  · exact hdisconnected.managed
  · intro client hlt
    obtain ⟨backendId, context, hget, hclient⟩ | hclosed := hdisconnected.closed hlt
    · rw [contexts_updateClient?] at hget
      rw [contextClient, objects_updateClient?] at hclient
      by_cases hsame : backendId = entry.1
      · subst hsame
        refine .inr ?_
        obtain hclosed | ⟨hentry, hticketed⟩ := hsound context client hget hclient
        · cases hupdated : self.contextClient entry.2 with
          | none => exact hclosed
          | some other =>
            by_cases hother : client = other
            · subst hother
              exact (clients_updateClient_self client _).symm ▸ hclosed.disconnect
            · exact (clients_updateClient_of_ne hother _).symm ▸ hclosed
        · rw [hentry]
          exact (clients_updateClient_self client _).symm ▸ hticketed.disconnect
      · refine .inl ⟨backendId, context, ?_, ?_⟩
        · exact (OrderedMap.get?_erase_ne hsame).trans hget
        · rw [contextClient, objects_updateClient?]
          exact hclient
    · exact .inr hclosed

/-- The contexts that a discovery deletes. -/
structure Droppable (workspace : WorkspaceBackendClient) (entries : List (JsString × Nat)) : Prop where
  client : ∀ entry ∈ entries, ∀ context client, workspace.contexts.get? entry.1 = some context →
    workspace.contextClient context = some client →
      workspace.contextClient entry.2 = some client ∧ (workspace.clients client).Ticketed

theorem Droppable.dropContext {entry : JsString × Nat} {entries : List (JsString × Nat)}
    (h : self.Droppable (entry :: entries)) : (self.dropContext entry).Droppable entries := by
  constructor
  intro other hother context client hget hclient
  have hobjects : (self.dropContext entry).objects = self.objects := objects_updateClient? _ _
  rw [contextClient, hobjects] at hclient ⊢
  obtain ⟨howner, hticketed⟩ := h.client other (List.mem_cons_of_mem _ hother) context client
    (OrderedMap.get?_of_erase hget).2 hclient
  refine ⟨howner, ?_⟩
  unfold WorkspaceBackendClient.dropContext
  cases hupdated : self.contextClient entry.2 with
  | none => exact hticketed
  | some closed =>
    by_cases hsame : client = closed
    · subst hsame
      exact (clients_updateClient_self client _).symm ▸ hticketed.disconnect.ticketed
    · exact (clients_updateClient_of_ne hsame _).symm ▸ hticketed

theorem Consistent.dropContexts {entries : List (JsString × Nat)} (h : self.Consistent)
    (hdroppable : self.Droppable entries) : (entries.foldl WorkspaceBackendClient.dropContext self).Consistent := by
  induction entries generalizing self with
  | nil => exact h
  | cons entry entries ih =>
    refine ih (h.dropContext entry ?_) hdroppable.dropContext
    intro context client hget hclient
    exact .inr (hdroppable.client entry List.mem_cons_self context client hget hclient)

theorem get?_dropContexts (self : WorkspaceBackendClient) (entries : List (JsString × Nat)) (backendId : JsString) :
    (entries.foldl dropContext self).contexts.get? backendId =
      if backendId ∈ entries.map Prod.fst then none else self.contexts.get? backendId := by
  induction entries generalizing self with
  | nil => rfl
  | cons entry entries ih =>
    rw [List.foldl_cons, ih]
    by_cases hsame : backendId = entry.1
    · subst hsame
      rw [List.map_cons, if_pos List.mem_cons_self]
      split
      · rfl
      · exact OrderedMap.get?_erase_self _ _
    · have hkept : (self.dropContext entry).contexts.get? backendId = self.contexts.get? backendId :=
        OrderedMap.get?_erase_ne hsame
      simp only [hkept, List.map_cons, List.mem_cons, hsame, false_or]

@[simp] theorem activeId_dropContexts (self : WorkspaceBackendClient) (entries : List (JsString × Nat)) :
    (entries.foldl dropContext self).activeId = self.activeId := by
  induction entries generalizing self with
  | nil => rfl
  | cons entry entries ih =>
    rw [List.foldl_cons, ih]
    exact activeId_updateClient? _ _

/-- A context for a backend that has none; with no client yet, a context may also take the place of another. -/
theorem Consistent.addContext (h : self.Consistent) {descriptor : AuthorizedBackendDescriptor}
    (hnew : self.contexts.get? descriptor.backendId = none ∨ self.clientCount = 0) :
    (self.addContext descriptor).Consistent := by
  have hlast : (self.addContext descriptor).objects self.objectCount = .created descriptor :=
    Function.update_self _ _ self.objects
  have hkept : ∀ {context}, context ≠ self.objectCount →
      (self.addContext descriptor).objects context = self.objects context :=
    fun hne => Function.update_of_ne hne _ self.objects
  have hbounded : ∀ {context client}, (self.addContext descriptor).contextClient context = some client →
      self.contextClient context = some client := by
    intro context client hclient
    by_cases hsame : context = self.objectCount
    · subst hsame
      rw [contextClient, hlast] at hclient
      cases hclient
    · rw [contextClient, hkept hsame] at hclient
      exact hclient
  constructor
  · intro backendId context hget
    change (self.contexts.set _ _).get? _ = _ at hget
    rw [OrderedMap.get?_set] at hget
    split at hget
    · cases hget
      subst backendId
      exact ⟨Nat.lt_succ_self _, congrArg (·.descriptor.backendId) hlast⟩
    · obtain ⟨hlt, hid⟩ := h.keyed hget
      refine ⟨Nat.lt_succ_of_lt hlt, ?_⟩
      rw [hkept (Nat.ne_of_lt hlt)]
      exact hid
  · exact fun hclient => h.bounded (hbounded hclient)
  · exact h.managed
  · intro client hlt
    obtain hnone | hzero := hnew
    · refine (h.closed hlt).imp_left ?_
      rintro ⟨backendId, context, hget, hclient⟩
      refine ⟨backendId, context, ?_, ?_⟩
      · change (self.contexts.set _ _).get? _ = _
        rw [OrderedMap.get?_set_ne, hget]
        rintro rfl
        rw [hnone] at hget
        cases hget
      · rw [contextClient, hkept (Nat.ne_of_lt (h.keyed hget).1)]
        exact hclient
    · change client < self.clientCount at hlt
      rw [hzero] at hlt
      exact absurd hlt (Nat.not_lt_zero _)

theorem mergeDescriptor_of_get? {descriptor : AuthorizedBackendDescriptor} {context : Nat}
    (hget : self.contexts.get? descriptor.backendId = some context) :
    self.mergeDescriptor descriptor = self.updateContext context fun object => { object with descriptor } := by
  rw [mergeDescriptor, hget]

theorem mergeDescriptor_of_none {descriptor : AuthorizedBackendDescriptor}
    (hnone : self.contexts.get? descriptor.backendId = none) :
    self.mergeDescriptor descriptor = self.addContext descriptor := by
  rw [mergeDescriptor, hnone]

theorem Consistent.mergeDescriptor (h : self.Consistent) (descriptor : AuthorizedBackendDescriptor) :
    (self.mergeDescriptor descriptor).Consistent := by
  cases hget : self.contexts.get? descriptor.backendId with
  | none =>
    rw [mergeDescriptor_of_none hget]
    exact h.addContext (.inl hget)
  | some context =>
    rw [mergeDescriptor_of_get? hget]
    have hclients : ∀ other, (self.updateContext context fun object =>
        { object with descriptor }).contextClient other = self.contextClient other :=
      contextClient_updateContext rfl
    constructor
    · intro backendId other hother
      obtain ⟨hlt, hid⟩ := h.keyed hother
      refine ⟨hlt, ?_⟩
      by_cases hsame : other = context
      · subst hsame
        rw [objects_updateContext_self, ← hid]
        exact (h.keyed hget).2.symm
      · rw [objects_updateContext_of_ne hsame]
        exact hid
    · intro other client hother
      rw [hclients] at hother
      exact h.bounded hother
    · exact h.managed
    · intro client hlt
      refine (h.closed hlt).imp_left ?_
      rintro ⟨backendId, other, hother, hclient⟩
      exact ⟨backendId, other, hother, (hclients other).trans hclient⟩

/-- The context of a backend holds its descriptor. -/
def Holds (self : WorkspaceBackendClient) (descriptor : AuthorizedBackendDescriptor) : Prop :=
  ∃ context, self.contexts.get? descriptor.backendId = some context ∧
    (self.objects context).descriptor = descriptor

theorem holds_mergeDescriptor (self : WorkspaceBackendClient) (descriptor : AuthorizedBackendDescriptor) :
    (self.mergeDescriptor descriptor).Holds descriptor := by
  cases hget : self.contexts.get? descriptor.backendId with
  | none =>
    rw [mergeDescriptor_of_none hget]
    refine ⟨self.objectCount, OrderedMap.get?_set_self _ _ _, ?_⟩
    exact congrArg BackendContext.descriptor (Function.update_self self.objectCount _ self.objects)
  | some context =>
    rw [mergeDescriptor_of_get? hget]
    refine ⟨context, hget, ?_⟩
    rw [objects_updateContext_self]

theorem Holds.mergeDescriptor (hself : self.Consistent) {descriptor other : AuthorizedBackendDescriptor}
    (h : self.Holds descriptor) (hother : other.backendId ≠ descriptor.backendId) :
    (self.mergeDescriptor other).Holds descriptor := by
  obtain ⟨context, hget, hdescriptor⟩ := h
  refine ⟨context, ?_⟩
  cases hpresent : self.contexts.get? other.backendId with
  | none =>
    rw [mergeDescriptor_of_none hpresent]
    refine ⟨(OrderedMap.get?_set_ne hother.symm _).trans hget, ?_⟩
    refine (congrArg BackendContext.descriptor ?_).trans hdescriptor
    exact Function.update_of_ne (Nat.ne_of_lt (hself.keyed hget).1) _ self.objects
  | some merged =>
    rw [mergeDescriptor_of_get? hpresent]
    refine ⟨hget, ?_⟩
    rw [objects_updateContext_of_ne]
    · exact hdescriptor
    · rintro rfl
      exact hother ((hself.keyed hpresent).2.symm.trans (hself.keyed hget).2)

theorem contains_mergeDescriptor {backendId : JsString} (h : self.contexts.contains backendId = true)
    (descriptor : AuthorizedBackendDescriptor) :
    (self.mergeDescriptor descriptor).contexts.contains backendId = true := by
  unfold WorkspaceBackendClient.mergeDescriptor
  split
  · exact h
  · exact OrderedMap.contains_set h

@[simp] theorem activeId_mergeDescriptor (self : WorkspaceBackendClient) (descriptor : AuthorizedBackendDescriptor) :
    (self.mergeDescriptor descriptor).activeId = self.activeId := by
  unfold WorkspaceBackendClient.mergeDescriptor
  split <;> rfl

theorem Consistent.mergeAll (h : self.Consistent) (descriptors : List AuthorizedBackendDescriptor) :
    (descriptors.foldl WorkspaceBackendClient.mergeDescriptor self).Consistent := by
  induction descriptors generalizing self with
  | nil => exact h
  | cons descriptor rest ih => exact ih (h.mergeDescriptor descriptor)

theorem Holds.mergeAll {descriptors : List AuthorizedBackendDescriptor} {descriptor : AuthorizedBackendDescriptor}
    (hself : self.Consistent) (h : self.Holds descriptor)
    (hothers : ∀ other ∈ descriptors, other.backendId ≠ descriptor.backendId) :
    (descriptors.foldl WorkspaceBackendClient.mergeDescriptor self).Holds descriptor := by
  induction descriptors generalizing self with
  | nil => exact h
  | cons other rest ih =>
    exact ih (hself.mergeDescriptor other) (h.mergeDescriptor hself (hothers other List.mem_cons_self))
      fun later hlater => hothers later (List.mem_cons_of_mem _ hlater)

theorem contains_mergeAll {descriptors : List AuthorizedBackendDescriptor} {backendId : JsString}
    (h : self.contexts.contains backendId = true ∨ ∃ descriptor ∈ descriptors, descriptor.backendId = backendId) :
    (descriptors.foldl mergeDescriptor self).contexts.contains backendId = true := by
  induction descriptors generalizing self with
  | nil =>
    obtain hkept | ⟨_, hmem, -⟩ := h
    · exact hkept
    · cases hmem
  | cons descriptor rest ih =>
    refine ih ?_
    obtain hkept | ⟨listed, hmem, rfl⟩ := h
    · exact .inl (contains_mergeDescriptor hkept descriptor)
    · obtain rfl | hrest := List.mem_cons.mp hmem
      · obtain ⟨context, hget, -⟩ := holds_mergeDescriptor self listed
        refine .inl ?_
        rw [OrderedMap.contains, hget]
        rfl
      · exact .inr ⟨listed, hrest, rfl⟩

@[simp] theorem activeId_mergeAll (self : WorkspaceBackendClient) (descriptors : List AuthorizedBackendDescriptor) :
    (descriptors.foldl mergeDescriptor self).activeId = self.activeId := by
  induction descriptors generalizing self with
  | nil => rfl
  | cons descriptor rest ih => rw [List.foldl_cons, ih, activeId_mergeDescriptor]

end WorkspaceBackendClient

end pipane.workspace_backend_client

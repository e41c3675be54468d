import Pipane.Client.WorkspaceBackendClient.Contexts

open javascript transition pipane.backend_protocol pipane.frame_transport pipane.webrtc_frame_transport

namespace pipane.workspace_backend_client

namespace WorkspaceBackendClient

/-- A backend is among the contexts, unless there are none. -/
def Listed (self : WorkspaceBackendClient) (backendId : JsString) : Prop :=
  self.contexts.size = 0 ∨ self.contexts.contains backendId = true

instance (self : WorkspaceBackendClient) (backendId : JsString) : Decidable (self.Listed backendId) :=
  inferInstanceAs (Decidable (_ ∨ _))

def ActivePresent (self : WorkspaceBackendClient) : Prop :=
  self.Listed self.activeId

instance (self : WorkspaceBackendClient) : Decidable self.ActivePresent :=
  inferInstanceAs (Decidable (self.Listed _))

/-- A context that was there once. -/
def Removed (self : WorkspaceBackendClient) (context : Nat) : Prop :=
  context < self.objectCount ∧ ∀ backendId, self.contexts.get? backendId ≠ some context

/-- No client of a removed context is connected, unless a later context of the backend was given the client. -/
def RemovedDisconnected (self : WorkspaceBackendClient) : Prop :=
  ∀ context client, self.Removed context → self.contextClient context = some client → ¬ self.Owned client →
    (self.clients client).isConnected = false

/-- The last descriptor of some backend is compatible. -/
def SomeCompatible (descriptors : List AuthorizedBackendDescriptor) : Prop :=
  ∃ before descriptor after, descriptors = before ++ descriptor :: after ∧ isCompatible descriptor = true ∧
    ∀ later ∈ after, later.backendId ≠ descriptor.backendId

/-- A discovery leaves a backend to become the active one, and the contexts that it removes are not waiting for a
    ticket. -/
structure DiscoverySound (workspace : WorkspaceBackendClient) (descriptors : List AuthorizedBackendDescriptor) :
    Prop where
  available : descriptors = [] ∨ (∃ descriptor ∈ descriptors, descriptor.backendId = workspace.activeId) ∨
    SomeCompatible descriptors
  ticketed : ∀ backendId context client, workspace.contexts.get? backendId = some context →
    (∀ descriptor ∈ descriptors, descriptor.backendId ≠ backendId) → workspace.contextClient context = some client →
    (workspace.clients client).Ticketed

/-- The context that a removal deletes has a client that is closed already, or the one that the removal closes. -/
def RemovalSound (self : WorkspaceBackendClient) (removal : Removal) : Prop :=
  ∀ context client, self.contexts.get? removal.backendId = some context → self.contextClient context = some client →
    (self.clients client).Closed ∨
      (self.contextClient removal.context = some client ∧ (self.clients client).Ticketed)

/-- The wait that ends meets contexts that have not changed under it, and closes clients that can be closed. -/
def Sound (self : WorkspaceBackendClient) : WorkspaceEvent → Prop
  | .firstConnected _ attempt | .candidateConnected _ attempt =>
    self.isClientConnected self.activeClient = true ∨ self.Listed (self.objects attempt.context).descriptor.backendId
  | .resumed n _ => ∀ call, self.calls[n]? = some call → call.phase = .deactivating → self.Listed call.backendId
  | .discovered n => ∀ descriptors, self.discoveries[n]? = some (.listed descriptors) →
    self.DiscoverySound descriptors
  | .removed n => ∀ removal, self.removals[n]? = some removal → removal.phase = .revoked → self.RemovalSound removal
  | _ => True

variable {self next : WorkspaceBackendClient}

theorem Consistent.removedDisconnected (h : self.Consistent) : self.RemovedDisconnected := by
  intro context client _ hclient hnot
  obtain howned | hclosed := h.closed (h.bounded hclient)
  · exact absurd howned hnot
  · exact hclosed.isConnected

theorem Grown.activePresent (h : Grown self next) (hactive : self.ActivePresent) : next.ActivePresent := by
  unfold ActivePresent Listed
  rw [h.contexts, h.activeId]
  exact hactive

theorem Holds.chooseInitialBackend {descriptor : AuthorizedBackendDescriptor} (h : self.Holds descriptor)
    (hcompatible : isCompatible descriptor = true) (requested : Option JsString) :
    self.chooseInitialBackend requested ≠ none := by
  obtain ⟨context, hget, hdescriptor⟩ := h
  have hmem : descriptor ∈
      (self.contexts.values.map fun context => (self.objects context).descriptor).filter isCompatible := by
    refine List.mem_filter.mpr ⟨List.mem_map.mpr ⟨context, ?_, hdescriptor⟩, hcompatible⟩
    exact OrderedMap.mem_values_of_get? hget
  unfold WorkspaceBackendClient.chooseInitialBackend
  dsimp only
  split
  · rename_i hrequested
    rintro rfl
    cases hrequested
  · cases hlist : (self.contexts.values.map fun context => (self.objects context).descriptor).filter isCompatible with
    | nil =>
      rw [hlist] at hmem
      cases hmem
    | cons first rest => cases (first :: rest).find? (·.online) <;> exact Option.some_ne_none _

theorem Consistent.contains_chooseInitialBackend (h : self.Consistent) {backendId : JsString}
    (hchosen : self.chooseInitialBackend none = some backendId) : self.contexts.contains backendId = true := by
  unfold WorkspaceBackendClient.chooseInitialBackend at hchosen
  rw [if_neg (by simp)] at hchosen
  obtain ⟨descriptor, hsome, rfl⟩ := Option.map_eq_some_iff.mp hchosen
  have hmem : descriptor ∈
      (self.contexts.values.map fun context => (self.objects context).descriptor).filter isCompatible := by
    obtain hfound | ⟨-, hhead⟩ := Option.or_eq_some_iff.mp hsome
    · exact List.mem_of_find?_eq_some hfound
    · exact List.mem_of_mem_head? hhead
  obtain ⟨context, hcontext, rfl⟩ := List.mem_map.mp (List.mem_filter.mp hmem).1
  obtain ⟨backendId, hget⟩ := OrderedMap.exists_of_mem_values hcontext
  rw [(h.keyed hget).2, OrderedMap.contains, hget]
  rfl

theorem size_eq_zero_of_get? (h : ∀ backendId, self.contexts.get? backendId = none) : self.contexts.size = 0 := by
  rw [OrderedMap.size, List.length_eq_zero_iff, List.eq_nil_iff_forall_not_mem]
  rintro ⟨backendId, context⟩ hmem
  rw [OrderedMap.mem_entries_iff, h backendId] at hmem
  cases hmem

theorem mem_gone {descriptors : List AuthorizedBackendDescriptor} {entry : JsString × Nat}
    (h : entry ∈ self.contexts.entries.filter fun entry => ¬ descriptors.any (·.backendId = entry.1)) :
    self.contexts.get? entry.1 = some entry.2 ∧ ∀ descriptor ∈ descriptors, descriptor.backendId ≠ entry.1 := by
  obtain ⟨hmem, hnot⟩ := List.mem_filter.mp h
  refine ⟨OrderedMap.mem_entries_iff.mp hmem, fun descriptor hdescriptor hsame => ?_⟩
  have hany : (descriptors.any fun descriptor => decide (descriptor.backendId = entry.1)) = true :=
    List.any_eq_true.mpr ⟨descriptor, hdescriptor, decide_eq_true hsame⟩
  simp [hany] at hnot

theorem DiscoverySound.droppable {descriptors : List AuthorizedBackendDescriptor}
    (h : self.DiscoverySound descriptors) :
    self.Droppable (self.contexts.entries.filter fun entry => ¬ descriptors.any (·.backendId = entry.1)) := by
  constructor
  intro entry hentry context client hget hclient
  obtain ⟨hown, hnot⟩ := mem_gone hentry
  rw [hown] at hget
  cases hget
  exact ⟨hclient, h.ticketed entry.1 entry.2 client hown hnot hclient⟩

theorem Consistent.mergeDescriptors (h : self.Consistent) {descriptors : List AuthorizedBackendDescriptor}
    (hsound : self.DiscoverySound descriptors) : (self.mergeDescriptors descriptors).Consistent :=
  (h.dropContexts hsound.droppable).mergeAll descriptors

@[simp] theorem activeId_mergeDescriptors (self : WorkspaceBackendClient)
    (descriptors : List AuthorizedBackendDescriptor) :
    (self.mergeDescriptors descriptors).activeId = self.activeId := by
  unfold mergeDescriptors
  rw [activeId_mergeAll, activeId_dropContexts]

theorem contexts_mergeDescriptors_nil (self : WorkspaceBackendClient) :
    (self.mergeDescriptors []).contexts.size = 0 := by
  refine size_eq_zero_of_get? fun backendId => ?_
  unfold mergeDescriptors
  rw [List.foldl_nil, get?_dropContexts]
  split
  · rfl
  · rename_i hkept
    rw [OrderedMap.get?_eq_none_iff]
    intro hmem
    obtain ⟨entry, hentry, rfl⟩ := List.mem_map.mp hmem
    exact hkept (List.mem_map_of_mem (List.mem_filter.mpr ⟨hentry, rfl⟩))

/-- After the merge there is no context, or the active backend has one, or one can be chosen. -/
theorem Consistent.available_mergeDescriptors (h : self.Consistent) {descriptors : List AuthorizedBackendDescriptor}
    (hsound : self.DiscoverySound descriptors) (hsize : (self.mergeDescriptors descriptors).contexts.size ≠ 0)
    (hactive : (self.mergeDescriptors descriptors).contexts.contains self.activeId ≠ true) :
    (self.mergeDescriptors descriptors).chooseInitialBackend none ≠ none := by
  obtain rfl | hlisted | ⟨before, descriptor, after, rfl, hcompatible, hafter⟩ := hsound.available
  · exact absurd (contexts_mergeDescriptors_nil self) hsize
  · exact absurd (contains_mergeAll (.inr hlisted)) hactive
  · have hdropped := h.dropContexts hsound.droppable
    refine Holds.chooseInitialBackend ?_ hcompatible none
    unfold WorkspaceBackendClient.mergeDescriptors
    rw [List.foldl_append, List.foldl_cons]
    have hbefore := hdropped.mergeAll before
    exact (holds_mergeDescriptor _ descriptor).mergeAll (hbefore.mergeDescriptor descriptor) hafter

/-- What every state has that a run of sound steps reaches. -/
structure Invariant (workspace : WorkspaceBackendClient) : Prop where
  consistent : workspace.Consistent
  active : workspace.ActivePresent

theorem Grown.invariant (h : Grown self next) (hactive : self.ActivePresent) : next.Invariant :=
  ⟨h.consistent, h.activePresent hactive⟩

theorem Invariant.of_same (h : self.Invariant) (hcontexts : next.contexts = self.contexts)
    (hactive : next.activeId = self.activeId) (hobjects : next.objects = self.objects)
    (hcount : next.objectCount = self.objectCount) (hclients : next.clients = self.clients)
    (hclientCount : next.clientCount = self.clientCount)
    (hmanaged : next.manager.clients = self.manager.clients) : next.Invariant :=
  Grown.invariant ⟨h.consistent.of_same hcontexts hobjects hcount hclients hclientCount hmanaged, hcontexts, hactive⟩
    h.active

theorem Invariant.setActiveBackend (h : self.Invariant) {backendId : JsString} (hlisted : self.Listed backendId) :
    (self.setActiveBackend backendId).Invariant :=
  ⟨h.consistent.of_same rfl rfl rfl rfl rfl rfl, hlisted⟩

theorem Consistent.keepActive (h : self.Consistent) (hactive : self.keepActive = some next) : next.Invariant := by
  unfold WorkspaceBackendClient.keepActive at hactive
  split at hactive
  · rename_i hcontains
    cases hactive
    exact ⟨h, .inr hcontains⟩
  · obtain ⟨backendId, hchosen, rfl⟩ := Option.map_eq_some_iff.mp hactive
    exact ⟨h.of_same rfl rfl rfl rfl rfl rfl, .inr (h.contains_chooseInitialBackend hchosen)⟩

theorem Invariant.onDiscovered (h : self.Invariant) {n : Nat}
    (hsound : ∀ descriptors, self.discoveries[n]? = some (.listed descriptors) → self.DiscoverySound descriptors) :
    (self.onDiscovered n).Invariant := by
  unfold WorkspaceBackendClient.onDiscovered
  split
  · rename_i descriptors hlisted
    have hdiscovery := hsound descriptors hlisted
    have hmerged := h.consistent.mergeDescriptors hdiscovery
    dsimp only
    split
    · rename_i hsize
      exact ⟨hmerged.of_same rfl rfl rfl rfl rfl rfl, .inl hsize⟩
    · rename_i hsize
      cases hkept : (self.mergeDescriptors descriptors).keepActive with
      | none =>
        unfold WorkspaceBackendClient.keepActive at hkept
        split at hkept
        · cases hkept
        · rename_i hactive
          rw [activeId_mergeDescriptors] at hactive
          exact absurd (Option.map_eq_none_iff.mp hkept)
            (h.consistent.available_mergeDescriptors hdiscovery hsize hactive)
      | some active =>
        have hinvariant := hmerged.keepActive hkept
        refine (Grown.invariant (hinvariant.consistent.connectAll ?_) hinvariant.active).of_same
          rfl rfl rfl rfl rfl rfl rfl
        intro context hcontext
        exact OrderedMap.exists_of_mem_values (List.mem_filter.mp hcontext).1
  · exact h

theorem Invariant.updateClient (h : self.Invariant) (client : Nat) {f : BackendClient → BackendClient}
    (hf : ∀ before : BackendClient, before.Closed → (f before).Closed) : (self.updateClient client f).Invariant :=
  ⟨h.consistent.updateClient client (.inr (hf _)), h.active⟩

theorem Invariant.updateClient? (h : self.Invariant) (client : Option Nat) {f : BackendClient → BackendClient}
    (hf : ∀ before : BackendClient, before.Closed → (f before).Closed) : (self.updateClient? client f).Invariant := by
  cases client with
  | none => exact h
  | some client => exact h.updateClient client hf

theorem Invariant.updateContext (h : self.Invariant) (context : Nat) {f : BackendContext → BackendContext}
    (hclient : (f (self.objects context)).client = (self.objects context).client)
    (hdescriptor : (f (self.objects context)).descriptor = (self.objects context).descriptor) :
    (self.updateContext context f).Invariant :=
  ⟨h.consistent.updateContext context hclient hdescriptor, h.active⟩

theorem Invariant.connect (h : self.Invariant) : self.connect.Invariant := by
  refine (Grown.invariant (h.consistent.connectAll ?_) h.active).of_same rfl rfl rfl rfl rfl rfl rfl
  intro context hcontext
  exact OrderedMap.exists_of_mem_values (List.mem_filter.mp hcontext).1

theorem Invariant.deactivateOther (h : self.Invariant) (backendId : JsString) :
    (self.deactivateOther backendId).2.Invariant := by
  unfold WorkspaceBackendClient.deactivateOther
  split
  · exact h.updateClient? _ fun before hclosed => hclosed.of_transport (before.transport_setSessionSubscriptionActive _)
  · exact h

theorem Invariant.activate (h : self.Invariant) (kind : CallKind) (backendId : JsString) :
    (self.activate kind backendId).Invariant := by
  unfold WorkspaceBackendClient.activate
  dsimp only
  split
  · exact h.of_same rfl rfl rfl rfl rfl rfl rfl
  · rename_i context hget
    split
    · exact h.of_same rfl rfl rfl rfl rfl rfl rfl
    · rename_i client ensured hensure
      have hgrown := (h.consistent.ensureClient hget hensure).1
      have hensured := hgrown.invariant h.active
      split
      · exact (hensured.deactivateOther backendId).of_same rfl rfl rfl rfl rfl rfl rfl
      · split
        · exact hensured.of_same rfl rfl rfl rfl rfl rfl rfl
        · rename_i connection next hconnect
          have hconnected := hgrown.consistent.connectContext (hgrown.contexts ▸ hget) hconnect
          exact (hconnected.invariant hensured.active).of_same rfl rfl rfl rfl rfl rfl rfl

theorem Invariant.restoreCachedSessionPreview (h : self.Invariant) (backendId sessionPath : JsString) :
    (self.restoreCachedSessionPreview backendId sessionPath).Invariant := by
  unfold WorkspaceBackendClient.restoreCachedSessionPreview
  split
  · exact h
  · rename_i client ensured hbind
    obtain ⟨context, hget, hensure⟩ := Option.bind_eq_some_iff.mp hbind
    have hgrown := (h.consistent.ensureClient hget hensure).1
    have hlisted : ensured.contexts.contains backendId = true := by
      rw [hgrown.contexts, OrderedMap.contains, hget]
      rfl
    exact ((hgrown.invariant h.active).setActiveBackend (.inr hlisted)).updateClient client fun before hclosed =>
      hclosed.of_transport rfl

theorem Invariant.useBackend (h : self.Invariant) (backendId : JsString) : (self.useBackend backendId).Invariant := by
  unfold WorkspaceBackendClient.useBackend
  split
  · exact h
  · rename_i context hget
    split
    · exact h
    · rename_i client ensured hensure
      have hgrown := (h.consistent.ensureClient hget hensure).1
      have hensured := hgrown.invariant h.active
      split
      · exact hensured
      · cases hconnect : ensured.connectContext context with
        | none => exact hensured
        | some connected =>
          obtain ⟨connection, next⟩ := connected
          exact (hgrown.consistent.connectContext (hgrown.contexts ▸ hget) hconnect).invariant hensured.active

theorem Invariant.disconnectAll (contexts : List Nat) (h : self.Invariant) :
    (contexts.foldl (fun self context => self.updateClient? (self.contextClient context) .disconnect)
      self).Invariant := by
  induction contexts generalizing self with
  | nil => exact h
  | cons context rest ih => exact ih (h.updateClient? _ fun before hclosed => hclosed.disconnect)

theorem Invariant.onClientConnected (h : self.Invariant) (n : Nat) (ok : Bool) :
    (self.onClientConnected n ok).Invariant := by
  unfold WorkspaceBackendClient.onClientConnected
  split
  · rename_i connection _
    split
    · exact h
    · split
      · exact h.of_same rfl rfl rfl rfl rfl rfl rfl
      · exact (h.updateContext connection.context (f := fun object => { object with connecting := none }) rfl
          rfl).of_same rfl rfl rfl rfl rfl rfl rfl
  · exact h

theorem Invariant.onSessionsListed (h : self.Invariant) (n : Nat) : (self.onSessionsListed n).Invariant := by
  unfold WorkspaceBackendClient.onSessionsListed
  split
  · rename_i connection _
    split
    · exact h
    · exact (h.updateContext connection.context (f := fun object => { object with connecting := none }) rfl
        rfl).of_same rfl rfl rfl rfl rfl rfl rfl
  · exact h

theorem Invariant.publishAttempt (h : self.Invariant) {attempt : Attempt}
    (hsound : self.isClientConnected self.activeClient = true ∨
      self.Listed (self.objects attempt.context).descriptor.backendId) : (self.publishAttempt attempt).Invariant := by
  have hconnected : Invariant { self with connectedOnce := true } := h.of_same rfl rfl rfl rfl rfl rfl rfl
  unfold WorkspaceBackendClient.publishAttempt
  dsimp only
  split
  · exact hconnected
  · rename_i hnot
    exact hconnected.setActiveBackend (hsound.resolve_left hnot)

theorem Invariant.onFirstConnected (h : self.Invariant) (n : Nat) {attempt : Attempt}
    (hsound : self.isClientConnected self.activeClient = true ∨
      self.Listed (self.objects attempt.context).descriptor.backendId) :
    (self.onFirstConnected n attempt).Invariant := by
  unfold WorkspaceBackendClient.onFirstConnected
  split
  · split
    · exact h
    · split
      · exact h
      · exact (h.publishAttempt hsound).of_same rfl rfl rfl rfl rfl rfl rfl
  · exact h

theorem Invariant.onCandidateConnected (h : self.Invariant) (n : Nat) {attempt : Attempt}
    (hsound : self.isClientConnected self.activeClient = true ∨
      self.Listed (self.objects attempt.context).descriptor.backendId) :
    (self.onCandidateConnected n attempt).Invariant := by
  unfold WorkspaceBackendClient.onCandidateConnected
  split
  · split
    · exact h
    · exact (h.publishAttempt hsound).of_same rfl rfl rfl rfl rfl rfl rfl
  · exact h

theorem Invariant.onListed (h : self.Invariant) (n : Nat) (result : Option (List AuthorizedBackendDescriptor)) :
    (self.onListed n result).Invariant := by
  unfold WorkspaceBackendClient.onListed
  split
  · exact h.of_same rfl rfl rfl rfl rfl rfl rfl
  · exact h.of_same rfl rfl rfl rfl rfl rfl rfl
  · exact h

theorem Invariant.onRevoked (h : self.Invariant) (n : Nat) (ok : Bool) : (self.onRevoked n ok).Invariant := by
  unfold WorkspaceBackendClient.onRevoked
  split
  · rename_i removal _
    split
    · exact h
    · split
      · exact h.of_same rfl rfl rfl rfl rfl rfl rfl
      · have hclosed := h.updateClient? (self.manager.clients.get? removal.backendId) (f := BackendClient.disconnect)
          fun before hclosed => hclosed.disconnect
        refine ⟨⟨hclosed.consistent.keyed, hclosed.consistent.bounded, ?_, hclosed.consistent.closed⟩, hclosed.active⟩
        intro backendId client hget
        have hcount : (self.updateClient? (self.manager.clients.get? removal.backendId)
            BackendClient.disconnect).clientCount = self.clientCount := by
          cases self.manager.clients.get? removal.backendId <;> rfl
        exact Nat.lt_of_lt_of_eq (h.consistent.managed (OrderedMap.get?_of_erase hget).2) hcount.symm
  · exact h

theorem size_erase_eq_zero (contexts : OrderedMap JsString Nat) (backendId : JsString) :
    contexts.size = 0 → (contexts.erase backendId).size = 0 := by
  intro hsize
  rw [OrderedMap.size, List.length_eq_zero_iff] at hsize ⊢
  change contexts.entries.filter _ = []
  rw [hsize, List.filter_nil]

theorem mem_nextContext {context : Nat} (h : self.nextContext = some context) : context ∈ self.contexts.values := by
  unfold nextContext at h
  obtain hfound | ⟨-, hhead⟩ := Option.or_eq_some_iff.mp h
  · obtain hfound | ⟨-, hfound⟩ := Option.or_eq_some_iff.mp hfound
    · exact List.mem_of_find?_eq_some hfound
    · exact List.mem_of_find?_eq_some hfound
  · exact List.mem_of_mem_head? hhead

theorem size_of_nextContext (h : self.nextContext = none) : self.contexts.size = 0 := by
  unfold nextContext at h
  have hhead := (Option.or_eq_none_iff.mp h).2
  rw [List.head?_eq_none_iff, OrderedMap.values, List.map_eq_nil_iff] at hhead
  rw [OrderedMap.size, hhead, List.length_nil]

theorem Invariant.onRemoved (h : self.Invariant) {n : Nat}
    (hsound : ∀ removal, self.removals[n]? = some removal → removal.phase = .revoked → self.RemovalSound removal) :
    (self.onRemoved n).Invariant := by
  unfold WorkspaceBackendClient.onRemoved
  split
  · rename_i removal hremoval
    split
    · exact h
    · rename_i hphase
      have hdropped := h.consistent.dropContext (removal.backendId, removal.context)
        (hsound removal hremoval (not_not.mp hphase))
      have hactiveId : (self.dropContext (removal.backendId, removal.context)).activeId = self.activeId :=
        activeId_updateClient? _ _
      have hcontexts : (self.dropContext (removal.backendId, removal.context)).contexts =
        self.contexts.erase removal.backendId := rfl
      have hremoved : Consistent { self.dropContext (removal.backendId, removal.context) with
          removals := self.removals.set n { removal with phase := .done } } := hdropped.of_same rfl rfl rfl rfl rfl rfl
      dsimp only
      split
      · rename_i hother
        refine ⟨hremoved, ?_⟩
        obtain hsize | hcontains := h.active
        · exact .inl (size_erase_eq_zero _ _ hsize)
        · refine .inr ?_
          change (self.contexts.erase removal.backendId).contains _ = true
          rw [OrderedMap.contains, OrderedMap.get?_erase_ne hother, hactiveId]
          exact hcontains
      · split
        · rename_i hnone
          exact ⟨hremoved, .inl (size_of_nextContext hnone)⟩
        · rename_i context hnext
          obtain ⟨backendId, hget⟩ := OrderedMap.exists_of_mem_values (mem_nextContext hnext)
          refine ⟨hremoved.of_same rfl rfl rfl rfl rfl rfl, .inr ?_⟩
          refine (congrArg (OrderedMap.contains _) (hremoved.keyed hget).2).trans ?_
          rw [OrderedMap.contains]
          exact (congrArg Option.isSome hget).trans rfl
  · exact h

theorem Invariant.onInitialized (h : self.Invariant) (n : Nat) (ok : Bool) : (self.onInitialized n ok).Invariant := by
  unfold WorkspaceBackendClient.onInitialized
  split
  · rename_i initialization _
    split
    · exact h
    · exact (h.updateContext initialization.context
        (f := fun object => { object with initialized := object.initialized || ok, initializing := none }) rfl
        rfl).of_same rfl rfl rfl rfl rfl rfl rfl
  · exact h

theorem Invariant.setPhase (h : self.Invariant) (n : Nat) (call : Call) (phase : CallPhase) :
    (self.setPhase n call phase).Invariant :=
  h.of_same rfl rfl rfl rfl rfl rfl rfl

theorem Invariant.resumeActivation (h : self.Invariant) (n : Nat) (call : Call) :
    (self.resumeActivation n call).Invariant :=
  (h.deactivateOther call.backendId).setPhase n call _

theorem Invariant.publishCall (h : self.Invariant) (n : Nat) {call : Call} (hlisted : self.Listed call.backendId) :
    (self.publishCall n call).Invariant := by
  have hactive := h.setActiveBackend hlisted
  unfold WorkspaceBackendClient.publishCall
  dsimp only
  split
  · refine (hactive.updateClient? _ fun before hclosed => ?_).setPhase n call .restoring
    exact hclosed.of_transport (before.transport_setSessionSubscriptionActive true)
  · exact hactive.setPhase n call .activated

theorem Invariant.startInitialization (h : self.Invariant) (n : Nat) (call : Call) :
    (self.startInitialization n call).Invariant := by
  unfold WorkspaceBackendClient.startInitialization
  split
  · exact h.setPhase n call .initialized
  · split
    · exact h.setPhase n call _
    · have hstarted := h.updateContext call.context
        (f := fun object => { object with initializing := some self.initializations.length }) rfl rfl
      exact (hstarted.setPhase n call (.initializing self.initializations.length)).of_same rfl rfl rfl rfl rfl rfl rfl

theorem Invariant.continueCall (h : self.Invariant) (n : Nat) (call : Call) : (self.continueCall n call).Invariant := by
  unfold WorkspaceBackendClient.continueCall
  split
  · rename_i sessionPath client _ _
    exact (h.updateClient client (f := (·.switchSession sessionPath)) fun _ hclosed =>
      hclosed.of_transport rfl).setPhase n call _
  · exact h.setPhase n call .failed
  · exact h.startInitialization n call

theorem Invariant.finishCall (h : self.Invariant) (n : Nat) (call : Call) : (self.finishCall n call).Invariant := by
  unfold WorkspaceBackendClient.finishCall
  split
  · exact (h.updateClient? _ (f := BackendClient.newSession) fun _ hclosed =>
      hclosed.of_transport rfl).setPhase n call .succeeded
  · exact h.setPhase n call .succeeded

theorem Invariant.onResumed (h : self.Invariant) {n : Nat} (ok : Bool)
    (hsound : ∀ call, self.calls[n]? = some call → call.phase = .deactivating → self.Listed call.backendId) :
    (self.onResumed n ok).Invariant := by
  unfold WorkspaceBackendClient.onResumed
  split
  · exact h
  · rename_i call hcall
    split
    · split
      · exact h.resumeActivation n call
      · exact h.setPhase n call .failed
      · exact h
    · rename_i hphase
      exact h.publishCall n (hsound call hcall hphase)
    · exact h.setPhase n call .activated
    · exact h.continueCall n call
    · split
      · exact h.finishCall n call
      · exact h.setPhase n call .failed
      · exact h
    · exact h.finishCall n call
    · split
      · refine (h.updateClient? _ fun before hclosed => ?_).setPhase n call .subscribing
        exact hclosed.of_transport (before.transport_requestFullSessionSync _)
      · exact h.setPhase n call .failed
    · exact h.setPhase n call _
    · exact h
    · exact h

theorem Invariant.onTransport (h : self.Invariant) (client : Nat) (event : TransportEvent) :
    (self.onTransport client event).Invariant := by
  unfold WorkspaceBackendClient.onTransport
  split
  · exact h
  · split
    · exact h
    · exact h
    · rename_i hconnect _
      exact h.updateClient client fun before hclosed => hclosed.onTransport hconnect

/-- A sound step keeps the invariant. -/
theorem Invariant.step (h : self.Invariant) {event : WorkspaceEvent} (hsound : self.Sound event) :
    (step self event).Invariant := by
  cases event with
  | connect => exact h.connect
  | activate kind backendId => exact h.activate kind backendId
  | restoreCachedSessionPreview backendId sessionPath => exact h.restoreCachedSessionPreview backendId sessionPath
  | useBackend backendId => exact h.useBackend backendId
  | removeBackend backendId =>
    simp only [workspace_backend_client.step, removeBackend]
    split
    · exact h
    · exact h.of_same rfl rfl rfl rfl rfl rfl rfl
  | discover => exact h.of_same rfl rfl rfl rfl rfl rfl rfl
  | disconnect => exact h.disconnectAll self.contexts.values
  | clientConnected connection ok => exact h.onClientConnected connection ok
  | sessionsListed connection => exact h.onSessionsListed connection
  | firstConnected connect attempt => exact h.onFirstConnected connect hsound
  | listed discovery result => exact h.onListed discovery result
  | discovered discovery => exact h.onDiscovered hsound
  | candidateConnected discovery attempt => exact h.onCandidateConnected discovery hsound
  | revoked removal ok => exact h.onRevoked removal ok
  | removed removal => exact h.onRemoved hsound
  | initialized initialization ok => exact h.onInitialized initialization ok
  | resumed call ok => exact h.onResumed ok hsound
  | transport client event => exact h.onTransport client event
  | recovered client sessionPath =>
    exact h.updateClient client (f := (·.recover sessionPath)) fun _ hclosed => hclosed.of_transport rfl
  | focus client =>
    exact h.updateClient client fun before hclosed => hclosed.of_transport before.transport_resubscribe
  | sessionMissing client nonce =>
    exact h.updateClient client fun before hclosed => hclosed.of_transport (before.transport_sessionMissing nonce)

theorem Consistent.addContexts (h : self.Consistent) (descriptors : List AuthorizedBackendDescriptor)
    (hcount : self.clientCount = 0) : (descriptors.foldl WorkspaceBackendClient.addContext self).Consistent := by
  induction descriptors generalizing self with
  | nil => exact h
  | cons descriptor rest ih => exact ih (h.addContext (.inr hcount)) hcount

theorem consistent_empty (manager : RemoteBackendManager) (h : manager.clients = ∅) : (empty manager).Consistent := by
  constructor
  · intro backendId context hget
    cases hget
  · intro context client hclient
    cases hclient
  · intro backendId client hget
    change manager.clients.get? backendId = some client at hget
    rw [h] at hget
    cases hget
  · intro client hlt
    exact absurd hlt (Nat.not_lt_zero client)

theorem invariant_create {descriptors managed : List AuthorizedBackendDescriptor} {deviceId : JsString}
    {initialBackendId : Option JsString} (h : create descriptors managed deviceId initialBackendId = some self) :
    self.Invariant := by
  unfold create at h
  dsimp only at h
  have hcontexts := (consistent_empty { deviceId, descriptors := managed, clients := ∅ } rfl).addContexts descriptors rfl
  split at h
  · cases h
  · rename_i backendId _
    split at h
    · cases h
    · rename_i context hget
      obtain ⟨⟨client, next⟩, hensure, rfl⟩ := Option.map_eq_some_iff.mp h
      have hactive : Invariant ((descriptors.foldl addContext
          (empty { deviceId, descriptors := managed, clients := ∅ })).setActiveBackend backendId) := by
        refine ⟨hcontexts.of_same rfl rfl rfl rfl rfl rfl, .inr ?_⟩
        exact (congrArg Option.isSome hget).trans rfl
      exact (hactive.consistent.ensureClient hget hensure).1.invariant hactive.active

/-- In every run of the workspace whose waits end soundly, the active backend has a context unless there is none, and
    no client of a removed context is connected. -/
theorem active_backend_present (descriptors managed : List AuthorizedBackendDescriptor) (deviceId : JsString)
    (initialBackendId : Option JsString) (start : WorkspaceBackendClient) (events : List WorkspaceEvent)
    (hstart : create descriptors managed deviceId initialBackendId = some start)
    (hsound : EveryStep step start Sound events) :
    Always step start (fun state => state.ActivePresent ∧ state.RemovedDisconnected) events := by
  have halways := always_of_everyStep (invariant_create hstart) (fun _ _ h hok => Invariant.step h hok) hsound
  exact fun before hbefore => ⟨(halways before hbefore).active, (halways before hbefore).consistent.removedDisconnected⟩

private def studio : AuthorizedBackendDescriptor where
  backendId := js "studio"
  online := true
  protocolVersions := [BACKEND_PROTOCOL_VERSION]

private def laptop : AuthorizedBackendDescriptor where
  backendId := js "laptop"
  online := true
  protocolVersions := [BACKEND_PROTOCOL_VERSION]

private def laptopOptions : TransportOptions where
  backendId := laptop.backendId
  deviceId := js "browser"

/-- A backend connects, and the user activates it. -/
theorem active_backend_present_activation : ∃ start : WorkspaceBackendClient,
    create [studio] [studio] (js "browser") none = some start ∧
      (run step start [.connect, .clientConnected 0 true, .sessionsListed 0,
        .firstConnected 0 { context := 0, connection := 0 }]).ActivePresent := by
  obtain ⟨start, hstart⟩ := Option.isSome_iff_exists.mp
    (by decide +kernel : (create [studio] [studio] (js "browser") none).isSome = true)
  have hlisted : ((create [studio] [studio] (js "browser") none).all fun start =>
      decide ((run step start [.connect, .clientConnected 0 true, .sessionsListed 0]).Listed
        ((run step start [.connect, .clientConnected 0 true, .sessionsListed 0]).objects
          0).descriptor.backendId)) = true := by
    decide +kernel
  rw [hstart] at hlisted
  have hsound : EveryStep step start Sound [.connect, .clientConnected 0 true, .sessionsListed 0,
      .firstConnected 0 { context := 0, connection := 0 }] := by
    refine everyStep_cons.mpr ⟨trivial, everyStep_cons.mpr ⟨trivial, everyStep_cons.mpr ⟨trivial, ?_⟩⟩⟩
    exact everyStep_cons.mpr ⟨.inr (of_decide_eq_true hlisted), everyStep_nil⟩
  exact ⟨start, hstart, (active_backend_present _ _ _ _ start _ hstart hsound).last.1⟩

/-- The laptop connects first, a discovery drops it while its sessions are listed, and then it becomes the active
    backend. -/
def droppedWhileListing : List WorkspaceEvent :=
  [.connect] ++
    (WebRtcFrameTransport.resumption (WebRtcFrameTransport.ownClaims laptopOptions) 0
      (WebRtcFrameTransport.authenticatedFrame laptopOptions)).map (.transport 1) ++
    [.transport 1 (.connectSettled 0), .clientConnected 1 true, .discover, .listed 0 (some [studio]), .discovered 0,
      .sessionsListed 1, .firstConnected 0 { context := 1, connection := 1 }]

theorem dropped_backend_becomes_active : ∃ start : WorkspaceBackendClient,
    create [studio, laptop] [studio, laptop] (js "browser") none = some start ∧
      ¬ (run step start droppedWhileListing).ActivePresent := by
  have hrun : ((create [studio, laptop] [studio, laptop] (js "browser") none).any fun start =>
      ! decide ((run step start droppedWhileListing).ActivePresent)) = true := by
    decide +kernel
  obtain ⟨start, hstart, hnot⟩ := (Option.any_eq_true _ _).mp hrun
  rw [Bool.not_eq_true'] at hnot
  exact ⟨start, hstart, of_decide_eq_false hnot⟩

end WorkspaceBackendClient

end pipane.workspace_backend_client

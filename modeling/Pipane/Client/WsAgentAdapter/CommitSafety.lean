import Pipane.Client.WsAgentAdapter.SessionSync

open javascript json transition pipane.jsonl_sync pipane.ws_protocol

namespace pipane.ws_agent_adapter

/-- The hash of the state that an operation leads to. -/
def SessionSyncOp.hash : SessionSyncOp → JsString
  | .sync op => op.hash
  | .not_modified hash => hash
  | .content hash _ _ _ => hash
  | .content_manifest hash _ _ _ _ => hash
  | .content_batch hash _ _ _ => hash

section

variable (computeHash : JsString → JsString) (Published : JsString → JsString → Prop)

/-- A hash of a state that the server published for a session. -/
def IsPublishedHash (sessionPath hash : JsString) : Prop :=
  ∃ json, Published sessionPath json ∧ hash = computeHash json

/-- The server sends the hash of a state that it published for the session of the frame. -/
def FramesArePublished : WsAgentAdapter → Event computeHash → Prop
  | _, .sessionSync message =>
    IsPublishedHash computeHash Published message.sessionPath (SessionSyncOp.hash message.op)
  | _, _ => True

/-- What was committed in the scope that was selected, and only there. -/
structure CommitIsCurrent (commit : Commit) : Prop where
  published : Published commit.selected.sessionPath commit.data
  verified : commit.hash = computeHash commit.data
  started : commit.started = commit.selected
  frames : ∀ scope ∈ commit.frames, scope = commit.selected

/-- The committed pair is verified, and nothing that an older scope started was committed. -/
structure CommitSafe (adapter : WsAgentAdapter) : Prop where
  pair : Verified computeHash adapter.syncJson adapter.syncHash
  commits : ∀ commit ∈ adapter.commits, CommitIsCurrent computeHash Published commit
  restored : ∀ snapshot ∈ adapter.restored, snapshot.started = snapshot.selected

structure VerificationSafe (batch : Verification) : Prop where
  frames : ∀ m ∈ batch.syncMessages, m.scope = batch.scope
  result : ∀ result, batch.result = some result → result.hash = computeHash result.data ∧
    IsPublishedHash computeHash Published batch.scope.sessionPath result.hash

/-- Whatever waits to be committed comes from the server. -/
structure Safe (adapter : WsAgentAdapter) : Prop extends CommitSafe computeHash Published adapter where
  queued : ∀ m ∈ adapter.pendingSessionSyncs,
    IsPublishedHash computeHash Published m.scope.sessionPath (SessionSyncOp.hash m.message.op)
  segmented : ∀ pending, adapter.pendingSegmentedSessionSync = some pending →
    IsPublishedHash computeHash Published pending.scope.sessionPath pending.hash
  verification : ∀ batch, adapter.verification = some batch → VerificationSafe computeHash Published batch

end

section

variable {computeHash : JsString → JsString} {Published : JsString → JsString → Prop} {self : WsAgentAdapter}

theorem selected_eq {scope : Scope} (h : self.IsSelected scope) : self.selected = scope := by
  rw [WsAgentAdapter.selected, h.1, Option.getD_some, WsAgentAdapter.scopeOf, h.2]

namespace Safe

theorem sendSubscribe (h : Safe computeHash Published self) (sessionPath : Option JsString)
    (command : SubscribeSession) : Safe computeHash Published (self.sendSubscribe sessionPath command) := by
  rw [WsAgentAdapter.sendSubscribe]
  split
  · exact h
  · exact ⟨⟨h.pair, h.commits, h.restored⟩, h.queued, h.segmented, h.verification⟩

theorem subscribeToSession (h : Safe computeHash Published self) (sessionPath : Option JsString)
    (forceFull : Bool) : Safe computeHash Published (self.subscribeToSession sessionPath forceFull) :=
  h.sendSubscribe _ _

theorem clearSessionSyncQueue (h : Safe computeHash Published self) :
    Safe computeHash Published self.clearSessionSyncQueue :=
  ⟨⟨h.pair, h.commits, h.restored⟩, fun _ hmem => absurd hmem List.not_mem_nil, fun _ hsome => (nomatch hsome),
    h.verification⟩

theorem clearCachedInventory (h : Safe computeHash Published self) :
    Safe computeHash Published self.clearCachedInventory :=
  ⟨⟨h.pair, h.commits, h.restored⟩, h.queued, h.segmented, h.verification⟩

theorem clearPair (h : Safe computeHash Published self) :
    Safe computeHash Published { self with syncJson := [], syncHash := [], syncRevision := none } :=
  ⟨⟨.inl ⟨rfl, rfl⟩, h.commits, h.restored⟩, h.queued, h.segmented, h.verification⟩

theorem requestFullSessionSync (h : Safe computeHash Published self) (sessionPath : JsString)
    (forceFull : Bool) : Safe computeHash Published (self.requestFullSessionSync sessionPath forceFull) := by
  rw [WsAgentAdapter.requestFullSessionSync]
  split
  · exact h
  · apply subscribeToSession
    apply clearSessionSyncQueue
    have hawaiting : Safe computeHash Published { self with awaitingFullSync := some (self.scopeOf sessionPath) } :=
      ⟨⟨h.pair, h.commits, h.restored⟩, h.queued, h.segmented, h.verification⟩
    split
    · exact hawaiting
    · split
      · exact hawaiting.clearPair.clearCachedInventory
      · exact hawaiting.clearPair

theorem scheduleFlush (h : Safe computeHash Published self) : Safe computeHash Published self.scheduleFlush :=
  ⟨⟨h.pair, h.commits, h.restored⟩, h.queued, h.segmented, h.verification⟩

theorem finishFlush (h : Safe computeHash Published self) : Safe computeHash Published self.finishFlush := by
  have hdone : Safe computeHash Published { self with sessionSyncFlushInProgress := false } :=
    ⟨⟨h.pair, h.commits, h.restored⟩, h.queued, h.segmented, h.verification⟩
  rw [WsAgentAdapter.finishFlush]
  split
  · exact hdone.scheduleFlush
  · exact hdone

theorem queueSessionSync (h : Safe computeHash Published self) {syncMsg : ScopedSessionSync}
    (hpublished : IsPublishedHash computeHash Published syncMsg.scope.sessionPath
      (SessionSyncOp.hash syncMsg.message.op)) :
    Safe computeHash Published (self.queueSessionSync syncMsg) := by
  rw [WsAgentAdapter.queueSessionSync]
  split
  · refine ⟨⟨h.pair, h.commits, h.restored⟩, ?_, h.segmented, h.verification⟩
    intro m hm
    rcases List.mem_append.mp hm with hbefore | hnew
    · exact h.queued m hbefore
    · rw [List.mem_singleton.mp hnew]
      exact hpublished
  · refine ⟨⟨h.pair, h.commits, h.restored⟩, ?_, h.segmented, h.verification⟩
    intro m hm
    rw [List.mem_singleton.mp hm]
    exact hpublished

theorem enqueueSessionSync (h : Safe computeHash Published self) {syncMsg : ScopedSessionSync}
    (hpublished : IsPublishedHash computeHash Published syncMsg.scope.sessionPath
      (SessionSyncOp.hash syncMsg.message.op)) :
    Safe computeHash Published (self.enqueueSessionSync syncMsg) := by
  rw [WsAgentAdapter.enqueueSessionSync]
  simp only
  split
  · exact h
  · split
    · exact h.queueSessionSync hpublished
    · exact (h.queueSessionSync hpublished).scheduleFlush

theorem completeSegmentedSessionSync (h : Safe computeHash Published self) :
    Safe computeHash Published self.completeSegmentedSessionSync := by
  rw [WsAgentAdapter.completeSegmentedSessionSync]
  cases hpending : self.pendingSegmentedSessionSync with
  | none => exact h
  | some pending =>
    simp only
    split
    · exact h
    · apply enqueueSessionSync
      · exact ⟨⟨h.pair, h.commits, h.restored⟩, h.queued, fun _ hsome => (nomatch hsome), h.verification⟩
      · exact h.segmented pending hpending

theorem restartSegmentedSessionSync (h : Safe computeHash Published self)
    (pending : PendingSegmentedSessionSync) :
    Safe computeHash Published (self.restartSegmentedSessionSync pending) := by
  apply requestFullSessionSync
  exact ⟨⟨h.pair, h.commits, h.restored⟩, h.queued, fun _ hsome => (nomatch hsome), h.verification⟩

theorem receiveManifest (h : Safe computeHash Published self) {sessionPath hash : JsString}
    (hpublished : IsPublishedHash computeHash Published sessionPath hash) (revision : Nat) (transferId : JsString)
    (messageHashes : List JsString) (state : List (JsString × Value)) (batchCount : Nat) :
    Safe computeHash Published
      (self.receiveManifest sessionPath revision hash transferId messageHashes state batchCount) := by
  unfold WsAgentAdapter.receiveManifest
  extract_lets pending next
  have hnext : Safe computeHash Published next := by
    refine ⟨⟨h.pair, h.commits, h.restored⟩, h.queued, ?_, h.verification⟩
    intro other hother
    cases hother
    exact hpublished
  split
  · exact hnext.completeSegmentedSessionSync
  · exact hnext

theorem receiveBatch (h : Safe computeHash Published self) (sessionPath : JsString) (revision : Nat)
    (hash transferId : JsString) (batchIndex : Nat) (messages : List ContentAddressedMessage) :
    Safe computeHash Published (self.receiveBatch sessionPath revision hash transferId batchIndex messages) := by
  rw [WsAgentAdapter.receiveBatch]
  cases hpending : self.pendingSegmentedSessionSync with
  | none => exact h
  | some pending =>
    simp only
    split
    · exact h
    · split
      · exact h.restartSegmentedSessionSync pending
      · split
        · exact h.restartSegmentedSessionSync pending
        · have hreceived : Safe computeHash Published
              { self with pendingSegmentedSessionSync := some { pending with
                  receivedBytes := pending.receivedBytes + messageBytes messages
                  messages := pending.messages ++ messages
                  nextBatchIndex := pending.nextBatchIndex + 1 } } := by
            refine ⟨⟨h.pair, h.commits, h.restored⟩, h.queued, ?_, h.verification⟩
            intro other hother
            cases hother
            exact h.segmented pending hpending
          split
          · exact hreceived.completeSegmentedSessionSync
          · exact hreceived

theorem handleSessionSync (h : Safe computeHash Published self) {message : SessionSyncMessage}
    (hpublished : IsPublishedHash computeHash Published message.sessionPath (SessionSyncOp.hash message.op)) :
    Safe computeHash Published (self.handleSessionSync message) := by
  rw [WsAgentAdapter.handleSessionSync]
  split
  · exact h
  · cases hop : message.op with
    | content_manifest hash transferId messageHashes state batchCount =>
      rw [hop] at hpublished
      exact h.receiveManifest hpublished _ _ _ _ _
    | content_batch hash transferId batchIndex messages => exact h.receiveBatch _ _ _ _ _ _
    | sync op => exact h.enqueueSessionSync hpublished
    | not_modified hash => exact h.enqueueSessionSync hpublished
    | content hash messageHashes messages state => exact h.enqueueSessionSync hpublished

theorem addSyncOp_hash {syncJson syncHash : JsString} {objects : OrderedMap JsString Value}
    {batch next : BatchOps} {op : SessionSyncOp} (h : addSyncOp syncJson syncHash objects batch op = some next) :
    ∀ syncOp ∈ next.syncOps, syncOp ∈ batch.syncOps ∨ syncOp.hash = SessionSyncOp.hash op := by
  cases op with
  | sync op =>
    cases h
    intro syncOp hmem
    rcases List.mem_append.mp hmem with hbefore | hnew
    · exact .inl hbefore
    · rw [List.mem_singleton.mp hnew]
      exact .inr rfl
  | not_modified hash =>
    rw [addSyncOp] at h
    split at h
    · cases h
    · cases h
      exact fun _ hmem => .inl hmem
  | content hash messageHashes messages state =>
    rw [addSyncOp] at h
    obtain ⟨data, _, rfl⟩ := Option.map_eq_some_iff.mp h
    intro syncOp hmem
    rcases List.mem_append.mp hmem with hbefore | hnew
    · exact .inl hbefore
    · rw [List.mem_singleton.mp hnew]
      exact .inr rfl
  | content_manifest hash transferId messageHashes state batchCount =>
    cases h
    exact fun _ hmem => .inl hmem
  | content_batch hash transferId batchIndex messages =>
    cases h
    exact fun _ hmem => .inl hmem

theorem batchOps_hash {syncJson syncHash : JsString} {objects : OrderedMap JsString Value}
    {syncMessages : List ScopedSessionSync} {batch result : BatchOps}
    (h : syncMessages.foldlM (fun batch m => addSyncOp syncJson syncHash objects batch m.message.op) batch =
      some result) :
    ∀ syncOp ∈ result.syncOps, syncOp ∈ batch.syncOps ∨
      ∃ m ∈ syncMessages, syncOp.hash = SessionSyncOp.hash m.message.op := by
  induction syncMessages generalizing batch with
  | nil =>
    cases h
    exact fun _ hmem => .inl hmem
  | cons m syncMessages ih =>
    rw [List.foldlM_cons, Option.bind_eq_bind, Option.bind_eq_some_iff] at h
    obtain ⟨next, hadd, hrest⟩ := h
    intro syncOp hmem
    obtain hnext | ⟨other, hother, hhash⟩ := ih hrest syncOp hmem
    · obtain hbefore | hhash := addSyncOp_hash hadd syncOp hnext
      · exact .inl hbefore
      · exact .inr ⟨m, List.mem_cons_self, hhash⟩
    · exact .inr ⟨other, List.mem_cons_of_mem _ hother, hhash⟩

theorem applySessionSyncBatch (h : Safe computeHash Published self) {syncMessages : List ScopedSessionSync}
    (hpublished : ∀ m ∈ syncMessages,
      IsPublishedHash computeHash Published m.scope.sessionPath (SessionSyncOp.hash m.message.op)) :
    Safe computeHash Published (self.applySessionSyncBatch computeHash syncMessages) := by
  unfold WsAgentAdapter.applySessionSyncBatch
  extract_lets syncSessionPath scope
  split
  · exact h.finishFlush
  · rename_i hscoped
    have hscope : ∀ m ∈ syncMessages, m.scope = scope := by
      intro m hm
      by_contra hother
      exact hscoped (.inr (.inr ⟨m, hm, hother⟩))
    split
    · exact (h.requestFullSessionSync _ _).finishFlush
    · split
      · exact (h.requestFullSessionSync _ _).finishFlush
      · rename_i batch hbatch
        split
        · apply finishFlush
          exact ⟨⟨h.pair, h.commits, h.restored⟩, h.queued, h.segmented, h.verification⟩
        · rename_i op ops hops
          split
          · exact h.finishFlush
          · refine ⟨⟨h.pair, h.commits, h.restored⟩, h.queued, h.segmented, ?_⟩
            intro started hstarted
            cases hstarted
            refine ⟨hscope, fun result hresult => ?_⟩
            obtain ⟨hverified, syncOp, hmem, hhash⟩ := applySyncOps_hash (by simp [hops]) hresult
            refine ⟨hverified, ?_⟩
            obtain hbefore | ⟨m, hm, hsame⟩ := batchOps_hash hbatch syncOp hmem
            · cases hbefore
            · have hm' := hpublished m hm
              rw [← hsame, hhash, hscope m hm] at hm'
              exact hm'

theorem onFrame (h : Safe computeHash Published self) :
    Safe computeHash Published (self.onFrame computeHash) := by
  unfold WsAgentAdapter.onFrame
  split
  · exact h
  · extract_lets next
    have hnext : Safe computeHash Published next :=
      ⟨⟨h.pair, h.commits, h.restored⟩, h.queued, h.segmented, h.verification⟩
    split
    · exact hnext
    · apply applySessionSyncBatch
      · exact ⟨⟨h.pair, h.commits, h.restored⟩, fun _ hmem => absurd hmem List.not_mem_nil, h.segmented,
          h.verification⟩
      · exact h.queued

theorem keepInventory (h : Safe computeHash Published self) (batch : Verification) :
    Safe computeHash Published (self.keepInventory batch) := by
  rw [WsAgentAdapter.keepInventory]
  cases batch.contentInventory with
  | none =>
    simp only
    split
    · exact h.clearCachedInventory
    · exact h
  | some inventory =>
    simp only
    split
    · exact ⟨⟨h.pair, h.commits, h.restored⟩, h.queued, h.segmented, h.verification⟩
    · exact h.clearCachedInventory

/-- A batch that commits has been verified in the scope that is selected. -/
theorem commitSync (hcollision : Function.Injective computeHash) (h : Safe computeHash Published self)
    {batch : Verification} (hbatch : VerificationSafe computeHash Published batch)
    (hselected : self.IsSelected batch.scope) {result : SyncResult} (hresult : batch.result = some result)
    (state : List (JsString × Value)) : Safe computeHash Published (self.commitSync batch result state) := by
  obtain ⟨hverified, json, hjson, hhash⟩ := hbatch.result result hresult
  have hdata : result.data = json := hcollision (hverified.symm.trans hhash)
  have hscope : self.selected = batch.scope := selected_eq hselected
  have hcommit : CommitIsCurrent computeHash Published (self.commitOf batch result) := by
    refine ⟨?_, hverified, hscope.symm, ?_⟩
    · rw [WsAgentAdapter.commitOf, hscope, hdata]
      exact hjson
    · intro scope hmem
      obtain ⟨m, hm, rfl⟩ := List.mem_map.mp hmem
      rw [hbatch.frames m hm]
      exact hscope.symm
  unfold WsAgentAdapter.commitSync
  extract_lets next
  have hnext : Safe computeHash Published next := by
    refine ⟨⟨.inr hverified, ?_, h.restored⟩, h.queued, h.segmented, h.verification⟩
    intro commit hmem
    rcases List.mem_append.mp hmem with hbefore | hnew
    · exact h.commits commit hbefore
    · rw [List.mem_singleton.mp hnew]
      exact hcommit
  have hkept := hnext.keepInventory batch
  exact ⟨⟨hkept.pair, hkept.commits, hkept.restored⟩, hkept.queued, hkept.segmented, hkept.verification⟩

theorem onHashSettled (hcollision : Function.Injective computeHash) (h : Safe computeHash Published self) :
    Safe computeHash Published self.onHashSettled := by
  unfold WsAgentAdapter.onHashSettled
  cases hbatch : self.verification with
  | none => exact h
  | some batch =>
    simp only
    have hnext : Safe computeHash Published { self with verification := none } :=
      ⟨⟨h.pair, h.commits, h.restored⟩, h.queued, h.segmented, fun _ hsome => (nomatch hsome)⟩
    split
    · exact hnext.finishFlush
    · rename_i hselected
      cases hresult : batch.result with
      | none => exact (hnext.requestFullSessionSync _ _).finishFlush
      | some result =>
        simp only
        cases decodeSessionStateJson result.data with
        | error error =>
          apply finishFlush
          exact ⟨⟨h.pair, h.commits, h.restored⟩, h.queued, h.segmented, fun _ hsome => (nomatch hsome)⟩
        | ok state =>
          apply finishFlush
          exact hnext.commitSync hcollision (h.verification batch hbatch) (not_not.mp hselected) hresult state

theorem newSession (h : Safe computeHash Published self) : Safe computeHash Published self.newSession := by
  unfold WsAgentAdapter.newSession
  apply subscribeToSession
  apply clearCachedInventory
  apply clearSessionSyncQueue
  exact ⟨⟨.inl ⟨rfl, rfl⟩, h.commits, h.restored⟩, h.queued, h.segmented, h.verification⟩

theorem restoreCachedSession (h : Safe computeHash Published self) (continuation : RestoreContinuation)
    (sessionPath : JsString) (prefetched : Bool) :
    Safe computeHash Published (self.restoreCachedSession continuation sessionPath prefetched) := by
  rw [WsAgentAdapter.restoreCachedSession]
  split
  · cases continuation with
    | switchSession => exact h.requestFullSessionSync _ _
    | restoreCachedSessionPreview => exact h
  · exact ⟨⟨h.pair, h.commits, h.restored⟩, h.queued, h.segmented, h.verification⟩

theorem switchSession (h : Safe computeHash Published self) (sessionPath : JsString) (prefetched : Bool) :
    Safe computeHash Published (self.switchSession sessionPath prefetched) := by
  unfold WsAgentAdapter.switchSession
  extract_lets reuseStartupCache selected cleared reset
  have hcleared : Safe computeHash Published cleared := by
    apply clearSessionSyncQueue
    exact ⟨⟨h.pair, h.commits, h.restored⟩, h.queued, h.segmented, h.verification⟩
  split
  · exact hcleared.requestFullSessionSync _ _
  · apply restoreCachedSession
    apply clearCachedInventory
    exact ⟨⟨.inl ⟨rfl, rfl⟩, hcleared.commits, hcleared.restored⟩, hcleared.queued, hcleared.segmented,
      hcleared.verification⟩

theorem restoreCachedSessionPreview (h : Safe computeHash Published self) (sessionPath : JsString)
    (prefetched : Bool) : Safe computeHash Published (self.restoreCachedSessionPreview sessionPath prefetched) := by
  rw [WsAgentAdapter.restoreCachedSessionPreview]
  split
  · exact h
  · apply restoreCachedSession
    apply clearCachedInventory
    apply clearSessionSyncQueue
    exact ⟨⟨.inl ⟨rfl, rfl⟩, h.commits, h.restored⟩, h.queued, h.segmented, h.verification⟩

theorem onPreviewSettled (h : Safe computeHash Published self) (index : Nat) (preview : Option Bool) :
    Safe computeHash Published (self.onPreviewSettled index preview) := by
  rw [WsAgentAdapter.onPreviewSettled]
  cases self.restores[index]? with
  | none => exact h
  | some restore =>
    simp only
    have hended : Safe computeHash Published { self with restores := self.restores.eraseIdx index } :=
      ⟨⟨h.pair, h.commits, h.restored⟩, h.queued, h.segmented, h.verification⟩
    split
    · exact h
    · cases preview with
      | none =>
        simp only
        split
        · cases restore.continuation with
          | switchSession => exact hended.requestFullSessionSync _ _
          | restoreCachedSessionPreview => exact hended
        · exact hended
      | some found =>
        simp only
        split
        · exact hended
        · exact ⟨⟨h.pair, h.commits, h.restored⟩, h.queued, h.segmented, h.verification⟩

theorem finishRestore (h : Safe computeHash Published self) (restore : Restore) (found : Bool) :
    Safe computeHash Published (self.finishRestore restore found) := by
  rw [WsAgentAdapter.finishRestore]
  split
  · exact h
  · cases restore.continuation with
    | switchSession => exact h.requestFullSessionSync _ _
    | restoreCachedSessionPreview =>
      cases found
      · exact h
      · exact ⟨⟨h.pair, h.commits, h.restored⟩, h.queued, h.segmented, h.verification⟩

theorem assignRestored (h : Safe computeHash Published self) {restore : Restore}
    (hselected : self.IsSelected restore.scope) (cached : CachedSessionState computeHash) :
    Safe computeHash Published (self.assignRestored restore cached) := by
  unfold WsAgentAdapter.assignRestored
  extract_lets next
  have hnext : Safe computeHash Published next := by
    refine ⟨⟨.inr cached.hash_eq.symm, h.commits, ?_⟩, h.queued, h.segmented, h.verification⟩
    intro snapshot hmem
    rcases List.mem_append.mp hmem with hbefore | hnew
    · exact h.restored snapshot hbefore
    · rw [List.mem_singleton.mp hnew]
      exact (selected_eq hselected).symm
  split
  · exact ⟨⟨hnext.pair, hnext.commits, hnext.restored⟩, hnext.queued, hnext.segmented, hnext.verification⟩
  · exact ⟨⟨hnext.pair, hnext.commits, hnext.restored⟩, hnext.queued, hnext.segmented, hnext.verification⟩

theorem onCacheSettled (h : Safe computeHash Published self) (index : Nat)
    (cached : Option (CachedSessionState computeHash)) :
    Safe computeHash Published (self.onCacheSettled index cached) := by
  rw [WsAgentAdapter.onCacheSettled]
  cases self.restores[index]? with
  | none => exact h
  | some restore =>
    simp only
    have hended : Safe computeHash Published { self with restores := self.restores.eraseIdx index } :=
      ⟨⟨h.pair, h.commits, h.restored⟩, h.queued, h.segmented, h.verification⟩
    split
    · exact h
    · split
      · exact hended
      · rename_i hselected
        cases cached with
        | none => exact hended.finishRestore _ _
        | some cached =>
          apply finishRestore
          exact hended.assignRestored (not_not.mp hselected) cached

theorem onHydrate (h : Safe computeHash Published self) (index : Nat) :
    Safe computeHash Published (self.onHydrate index) := by
  rw [WsAgentAdapter.onHydrate]
  cases self.hydrations[index]? with
  | none => exact h
  | some hydration =>
    simp only
    split
    · exact ⟨⟨h.pair, h.commits, h.restored⟩, h.queued, h.segmented, h.verification⟩
    · rename_i hcurrent
      rw [not_or, not_not] at hcurrent
      refine ⟨⟨h.pair, h.commits, ?_⟩, h.queued, h.segmented, h.verification⟩
      intro snapshot hmem
      rcases List.mem_append.mp hmem with hbefore | hnew
      · exact h.restored snapshot hbefore
      · rw [List.mem_singleton.mp hnew]
        exact (selected_eq hcurrent.1).symm

theorem setSessionSubscriptionActive (h : Safe computeHash Published self) (active : Bool) :
    Safe computeHash Published (self.setSessionSubscriptionActive active) := by
  unfold WsAgentAdapter.setSessionSubscriptionActive
  extract_lets next cleared
  have hcleared : Safe computeHash Published cleared := by
    apply clearSessionSyncQueue
    exact ⟨⟨h.pair, h.commits, h.restored⟩, h.queued, h.segmented, h.verification⟩
  split
  · exact h
  · split
    · exact hcleared.subscribeToSession _ _
    · split
      · exact hcleared
      · split
        · exact hcleared.requestFullSessionSync _ _
        · exact hcleared

theorem onSessionAttached (h : Safe computeHash Published self) (sessionPath : JsString)
    (pendingNewPrompt : Bool) : Safe computeHash Published (self.onSessionAttached sessionPath pendingNewPrompt) := by
  rw [WsAgentAdapter.onSessionAttached]
  split
  · apply requestFullSessionSync
    split
    · exact ⟨⟨h.pair, h.commits, h.restored⟩, h.queued, h.segmented, h.verification⟩
    · exact ⟨⟨h.pair, h.commits, h.restored⟩, h.queued, h.segmented, h.verification⟩
  · exact h

theorem onPromptSettled (h : Safe computeHash Published self) (sessionNonce : Nat)
    (newSessionPath : JsString) : Safe computeHash Published (self.onPromptSettled sessionNonce newSessionPath) := by
  rw [WsAgentAdapter.onPromptSettled]
  split
  · exact h
  · apply requestFullSessionSync
    exact ⟨⟨h.pair, h.commits, h.restored⟩, h.queued, h.segmented, h.verification⟩

theorem syncStateOnFocus (h : Safe computeHash Published self) :
    Safe computeHash Published self.syncStateOnFocus := by
  rw [WsAgentAdapter.syncStateOnFocus]
  cases self.sessionPath with
  | none => exact h
  | some sessionPath =>
    simp only
    split
    · exact h.subscribeToSession _ _
    · exact h

theorem onCompacted (h : Safe computeHash Published self) (sessionPath : JsString) :
    Safe computeHash Published (self.onCompacted sessionPath) := by
  rw [WsAgentAdapter.onCompacted]
  split
  · exact h.subscribeToSession _ _
  · exact h

theorem onSubscribeSettled (h : Safe computeHash Published self) (id : Nat) (error : Option JsString) :
    Safe computeHash Published (self.onSubscribeSettled id error) := by
  rw [WsAgentAdapter.onSubscribeSettled]
  split
  · exact h
  · extract_lets next
    have hnext : Safe computeHash Published next :=
      ⟨⟨h.pair, h.commits, h.restored⟩, h.queued, h.segmented, h.verification⟩
    split
    · split
      · exact hnext
      · split
        · exact hnext.newSession
        · exact hnext
    · exact hnext

theorem onSendRefused (h : Safe computeHash Published self) :
    Safe computeHash Published self.onSendRefused := by
  rw [WsAgentAdapter.onSendRefused]
  split
  · exact h
  · exact ⟨⟨h.pair, h.commits, h.restored⟩, h.queued, h.segmented, h.verification⟩

theorem onConnected (h : Safe computeHash Published self) : Safe computeHash Published self.onConnected := by
  unfold WsAgentAdapter.onConnected
  split
  · exact h
  · split
    · rw [WsAgentAdapter.onReconnected]
      split
      · exact ⟨⟨h.pair, h.commits, h.restored⟩, h.queued, h.segmented, h.verification⟩
      · split
        · apply requestFullSessionSync
          exact ⟨⟨h.pair, h.commits, h.restored⟩, h.queued, h.segmented, h.verification⟩
        · exact ⟨⟨h.pair, h.commits, h.restored⟩, h.queued, h.segmented, h.verification⟩
    · exact ⟨⟨h.pair, h.commits, h.restored⟩, h.queued, h.segmented, h.verification⟩

/-- What one step preserves. -/
theorem step (hcollision : Function.Injective computeHash) (h : Safe computeHash Published self)
    {event : Event computeHash} (hpublished : FramesArePublished computeHash Published self event) :
    Safe computeHash Published (ws_agent_adapter.step computeHash self event) := by
  cases event with
  | switchSession sessionPath prefetched => exact h.switchSession sessionPath prefetched
  | newSession => exact h.newSession
  | restoreCachedSessionPreview sessionPath prefetched => exact h.restoreCachedSessionPreview sessionPath prefetched
  | setSessionSubscriptionActive active => exact h.setSessionSubscriptionActive active
  | sessionSync message => exact h.handleSessionSync hpublished
  | frame => exact h.onFrame
  | hashSettled => exact h.onHashSettled hcollision
  | previewSettled index preview => exact h.onPreviewSettled index preview
  | cacheSettled index cached => exact h.onCacheSettled index cached
  | hydrate index => exact h.onHydrate index
  | sessionAttached sessionPath pendingNewPrompt => exact h.onSessionAttached sessionPath pendingNewPrompt
  | promptSettled sessionNonce newSessionPath => exact h.onPromptSettled sessionNonce newSessionPath
  | focus => exact h.syncStateOnFocus
  | compacted sessionPath => exact h.onCompacted sessionPath
  | subscribeSettled id error => exact h.onSubscribeSettled id error
  | subscribeTimedOut id => exact ⟨⟨h.pair, h.commits, h.restored⟩, h.queued, h.segmented, h.verification⟩
  | connected => exact h.onConnected
  | disconnected => exact ⟨⟨h.pair, h.commits, h.restored⟩, h.queued, h.segmented, h.verification⟩
  | sendRefused => exact h.onSendRefused
  | capabilities contentAddressed segmented sessionCache =>
    exact ⟨⟨h.pair, h.commits, h.restored⟩, h.queued, h.segmented, h.verification⟩

end Safe

theorem safe_start : Safe computeHash Published .start where
  pair := .inl ⟨rfl, rfl⟩
  commits _ hmem := absurd hmem List.not_mem_nil
  restored _ hmem := absurd hmem List.not_mem_nil
  queued _ hmem := absurd hmem List.not_mem_nil
  segmented _ hsome := nomatch hsome
  verification _ hsome := nomatch hsome

/-- In every state of a run whose frames come from the server, the committed pair is verified, and each commit
    is a state that the server published for the session selected then, started in the scope selected then. -/
theorem commits_are_safe (computeHash : JsString → JsString) (hcollision : Function.Injective computeHash)
    (Published : JsString → JsString → Prop) (events : List (Event computeHash))
    (hpublished : EveryStep (step computeHash) .start (FramesArePublished computeHash Published) events) :
    Always (step computeHash) .start (CommitSafe computeHash Published) events := by
  have hsafe : Always (step computeHash) .start (Safe computeHash Published) events :=
    always_of_everyStep safe_start (fun _ _ h hevent => h.step hcollision hevent) hpublished
  exact fun before hbefore => (hsafe before hbefore).toCommitSafe

end

/-- A state text without messages. -/
def blankState : JsString :=
  stringify (.obj [(js "messages", .arr []), (js "isStreaming", .bool false), (js "pendingToolCalls", .arr []),
    (js "toolCallTimings", .obj []), (js "model", .null), (js "thinkingLevel", .str (js "off")),
    (js "steeringQueue", .arr [])])

/-- A session is opened and its first snapshot arrives. -/
def openedSession : List (Event (List.cons 0x68)) :=
  [.connected, .switchSession (js "a.jsonl") false,
    .sessionSync ⟨js "a.jsonl", 1, .sync (.full blankState (0x68 :: blankState))⟩, .frame, .hashSettled]

theorem commits_are_safe_openedSession :
    ((run (step (List.cons 0x68)) .start openedSession).commits.map Commit.data = [blankState]) ∧
    Always (step (List.cons 0x68)) .start
      (CommitSafe (List.cons 0x68) fun sessionPath json => sessionPath = js "a.jsonl" ∧ json = blankState)
      openedSession := by
  refine ⟨by decide +kernel, commits_are_safe _ (fun _ _ h => (List.cons.inj h).2) _ _ ?_⟩
  intro before event hextends
  have hmem : event ∈ openedSession := hextends.subset (by simp)
  simp only [openedSession, List.mem_cons, List.not_mem_nil, or_false] at hmem
  obtain rfl | rfl | rfl | rfl | rfl := hmem
  · trivial
  · trivial
  · exact ⟨blankState, ⟨rfl, rfl⟩, rfl⟩
  · trivial
  · trivial

end pipane.ws_agent_adapter

import Pipane.Client.WsAgentAdapter.SessionSync
import Pipane.Server.WsHandler.SyncBase

open javascript json transition pipane.jsonl_sync pipane.ws_protocol

namespace pipane.ws_agent_adapter

/-- The frames that answer a subscription to a session: one frame that is no delta, or a manifest with its
    batches. -/
inductive IsInitialSync (sessionPath : JsString) : List SessionSyncMessage → Prop
  | full (revision : Nat) (data hash : JsString) :
      IsInitialSync sessionPath [⟨sessionPath, revision, .sync (.full data hash)⟩]
  | not_modified (revision : Nat) (hash : JsString) :
      IsInitialSync sessionPath [⟨sessionPath, revision, .not_modified hash⟩]
  | content (revision : Nat) (hash : JsString) (messageHashes : List JsString)
      (messages : List ContentAddressedMessage) (state : List (JsString × Value)) :
      IsInitialSync sessionPath [⟨sessionPath, revision, .content hash messageHashes messages state⟩]
  | segmented (revision : Nat) (hash transferId : JsString) (messageHashes : List JsString)
      (state : List (JsString × Value)) (batches : List (List ContentAddressedMessage)) :
      IsInitialSync sessionPath
        (⟨sessionPath, revision, .content_manifest hash transferId messageHashes state batches.length⟩ ::
          batches.mapIdx fun i batch => ⟨sessionPath, revision, .content_batch hash transferId i batch⟩)

structure InitialSync where
  sessionPath : JsString
  messages : List SessionSyncMessage
  isInitialSync : IsInitialSync sessionPath messages

theorem isInitialSync_of_makeInitialSessionSync {computeHash : JsString → JsString}
    {sessionPath json hash : JsString} {revision : Nat} {command : SubscribeSession}
    {messages : List SessionSyncMessage}
    (h : ws_handler.makeInitialSessionSync computeHash sessionPath json hash revision command = .ok messages) :
    IsInitialSync sessionPath messages := by
  rw [ws_handler.makeInitialSessionSync] at h
  split at h
  · cases h
    exact .not_modified _ _
  · split at h
    · cases h
      exact .full _ _ _
    · split at h
      · cases h
      · split at h
        · split at h
          · cases h
          · extract_lets transferId at h
            split at h
            · cases h
            · rename_i hmake
              cases h
              obtain ⟨batches, -, rfl⟩ := ws_handler.makeContentBatches_ok hmake
              rw [List.length_mapIdx]
              exact .segmented _ _ _ _ _ _
        · cases h
          exact .content _ _ _ _ _

/-- A response on its way to the client. -/
structure SubscribeResponse where
  request : SentSubscribe
  error : Option JsString

/-- The adapter, and what the server has sent it: responses and snapshots travel in order, each in their own
    lane. -/
structure System where
  client : WsAgentAdapter
  responses : List SubscribeResponse
  frames : List SessionSyncMessage

/-- What the adapter does by itself; the server reads the next subscription and answers or refuses it, after
    it has dropped what it had not sent yet of an earlier snapshot; a frame or a response arrives. -/
inductive SystemEvent (computeHash : JsString → JsString)
  | client (event : Event computeHash)
  | connected
  | disconnected
  | serverAnswers (kept : Nat) (sync : InitialSync)
  | serverRefuses (kept : Nat) (sent : List SessionSyncMessage) (error : JsString)
  | serverPushes (sessionPath : JsString) (revision : Nat) (op : SyncOp)
  | frameArrives
  | responseArrives

/-- The events that do not come from the carrier. -/
def Event.isLocal {computeHash : JsString → JsString} : Event computeHash → Bool
  | .sessionSync _ => false
  | .subscribeSettled _ _ => false
  | .connected => false
  | .disconnected => false
  | _ => true

/-- The subscription that the server reads next is taken off the carrier. -/
def WsAgentAdapter.readSubscribe (self : WsAgentAdapter) : WsAgentAdapter :=
  { self with transport := { self.transport with outgoing := self.transport.outgoing.tail } }

namespace System

def start : System where
  client := .start
  responses := []
  frames := []

def step {computeHash : JsString → JsString} (self : System) : SystemEvent computeHash → System
  | .client event =>
    if event.isLocal then { self with client := ws_agent_adapter.step computeHash self.client event } else self
  | .connected =>
    if self.client.transport.isConnected then self
    else { client := self.client.onConnected, responses := [], frames := [] }
  | .disconnected => { client := self.client.onDisconnected, responses := [], frames := [] }
  | .serverAnswers kept sync =>
    match self.client.transport.outgoing with
    | [] => self
    | request :: _ =>
      { client := self.client.readSubscribe
        responses := self.responses ++ [{ request, error := none }]
        frames := self.frames.take kept ++ if request.command.sessionPath = [] then [] else sync.messages }
  | .serverRefuses kept sent error =>
    match self.client.transport.outgoing with
    | [] => self
    | request :: _ =>
      { client := self.client.readSubscribe
        responses := self.responses ++ [{ request, error := some error }]
        frames := self.frames.take kept ++ sent }
  | .serverPushes sessionPath revision op =>
    if self.client.transport.isConnected then
      { self with frames := self.frames ++ [{ sessionPath, revision, op := .sync op }] }
    else self
  | .frameArrives =>
    match self.frames with
    | [] => self
    | message :: frames => { self with client := self.client.handleSessionSync message, frames }
  | .responseArrives =>
    match self.responses with
    | [] => self
    | response :: responses =>
      { self with client := self.client.onSubscribeSettled response.request.id response.error, responses }

end System

/-- A subscription to the session of a scope, made in that scope. -/
def Scope.Subscribes (scope : Scope) (request : SentSubscribe) : Prop :=
  request.command.sessionPath = scope.sessionPath ∧ request.sessionNonce = scope.sessionNonce

/-- While the adapter awaits a full sync on a connected carrier, a subscription is unanswered or a frame that
    is no delta is on its way. -/
def NeverStuck (self : System) : Prop :=
  ∀ scope, self.client.awaitingFullSync = some scope → self.client.IsSelected scope →
    self.client.transport.isConnected = true →
    (∃ request ∈ self.client.transport.outgoing, scope.Subscribes request) ∨
    (∃ response ∈ self.responses, scope.Subscribes response.request) ∨
    ∃ message ∈ self.frames, message.sessionPath = scope.sessionPath ∧ SessionSyncOp.isDelta message.op = false

/-- The batches that a manifest still waits for. -/
def IsRest (segments : Option PendingSegmentedSessionSync) (scope : Scope) (messages : List SessionSyncMessage) :
    Prop :=
  ∃ pending batches, segments = some pending ∧ pending.scope = scope ∧ batches ≠ [] ∧
    pending.nextBatchIndex + batches.length = pending.batchCount ∧
    messages = batches.mapIdx fun i batch =>
      ⟨scope.sessionPath, pending.revision,
        .content_batch pending.hash pending.transferId (pending.nextBatchIndex + i) batch⟩

/-- A whole answer is among the frames, or the rest of one that has begun to arrive is first. -/
def AnswerInFlight (segments : Option PendingSegmentedSessionSync) (frames : List SessionSyncMessage)
    (scope : Scope) : Prop :=
  (∃ before answer after, frames = before ++ answer ++ after ∧ IsInitialSync scope.sessionPath answer) ∨
  ∃ rest after, frames = rest ++ after ∧ IsRest segments scope rest

/-- A full sync for a scope will come: its subscription is the last that the server will read, or all are read
    and the answer, or an error, is on its way. -/
def SyncIsComing (outgoing : List SentSubscribe) (responses : List SubscribeResponse)
    (segments : Option PendingSegmentedSessionSync) (frames : List SessionSyncMessage) (scope : Scope) : Prop :=
  (∃ request, outgoing.getLast? = some request ∧ scope.Subscribes request) ∨
  outgoing = [] ∧ (AnswerInFlight segments frames scope ∨
    ∃ response ∈ responses, response.error ≠ none ∧ scope.Subscribes response.request)

def System.Awaits (self : System) (scope : Scope) : Prop :=
  self.client.awaitingFullSync = some scope ∧ self.client.transport.isConnected = true

/-- A session that is opened or attached has a path; the empty one stands for no session. -/
def Event.NamesSession {computeHash : JsString → JsString} : Event computeHash → Prop
  | .switchSession sessionPath _ => sessionPath ≠ []
  | .restoreCachedSessionPreview sessionPath _ => sessionPath ≠ []
  | .sessionAttached sessionPath _ => sessionPath ≠ []
  | _ => True

/-- No subscription fails while its scope is awaited, unless another one for that scope is on its way: the
    server does not answer with an error or under another spelling of the path, the carrier takes the frame,
    and the adapter does not await anything when the carrier connects for the first time or with its
    subscription inactive. A missing session ends the scope itself. -/
def SubscriptionSucceeds {computeHash : JsString → JsString} (self : System) : SystemEvent computeHash → Prop
  | .responseArrives =>
    ∀ response responses scope error, self.responses = response :: responses → self.Awaits scope →
      response.error = some error → scope.Subscribes response.request →
      (isMissingSessionError error ∧ ∃ pending,
        self.client.pendingRequests.find? (fun pending => pending.id = response.request.id) = some pending ∧
        pending.sessionPath = some scope.sessionPath ∧ pending.sessionNonce = scope.sessionNonce) ∨
      SyncIsComing self.client.transport.outgoing responses self.client.pendingSegmentedSessionSync self.frames scope
  | .serverAnswers kept sync =>
    ∀ request scope, self.client.transport.outgoing = [request] → self.Awaits scope → scope.Subscribes request →
      sync.sessionPath = request.command.sessionPath ∨
        AnswerInFlight self.client.pendingSegmentedSessionSync (self.frames.take kept) scope
  | .client .sendRefused =>
    ∀ scope, self.Awaits scope →
      SyncIsComing self.client.transport.outgoing.dropLast self.responses self.client.pendingSegmentedSessionSync
        self.frames scope
  | .client event => event.NamesSession
  | .connected =>
    self.client.awaitingFullSync = none ∨ self.client.transport.everConnected ∧ self.client.sessionSubscriptionActive
  | _ => True

/-- The adapter awaits and collects snapshots of the selected session only. -/
structure SelectionOk (adapter : WsAgentAdapter) : Prop where
  awaiting : ∀ scope, adapter.awaitingFullSync = some scope → adapter.IsSelected scope
  segments : ∀ pending, adapter.pendingSegmentedSessionSync = some pending → adapter.IsSelected pending.scope
  named : adapter.sessionPath ≠ some []
  notVirtual : ∀ sessionPath, adapter.sessionPath = some sessionPath → adapter.isVirtual = false

/-- What it awaits will come. -/
structure Recovers (adapter : WsAgentAdapter) (responses : List SubscribeResponse)
    (frames : List SessionSyncMessage) : Prop extends SelectionOk adapter where
  coming : ∀ scope, adapter.awaitingFullSync = some scope → adapter.transport.isConnected = true →
    SyncIsComing adapter.transport.outgoing responses adapter.pendingSegmentedSessionSync frames scope

section

variable {computeHash : JsString → JsString} {self : WsAgentAdapter} {responses : List SubscribeResponse}
  {frames : List SessionSyncMessage}

theorem SelectionOk.recovers (h : SelectionOk self) (hnone : self.awaitingFullSync = none) :
    Recovers self responses frames :=
  ⟨h, fun _ hsome => by rw [hnone] at hsome; cases hsome⟩

theorem SelectionOk.sendSubscribe (h : SelectionOk self) (sessionPath : Option JsString)
    {command : SubscribeSession}
    (hsame : ∀ scope, self.awaitingFullSync = some scope → command.sessionPath = scope.sessionPath) :
    Recovers (self.sendSubscribe sessionPath command) responses frames := by
  rw [WsAgentAdapter.sendSubscribe]
  split
  · rename_i hconnected
    exact ⟨h, fun _ _ htrue => absurd htrue hconnected⟩
  · refine ⟨⟨h.awaiting, h.segments, h.named, h.notVirtual⟩, fun scope hawaits _ => .inl ?_⟩
    exact ⟨_, List.getLast?_concat, hsame scope hawaits, (h.awaiting scope hawaits).2⟩

namespace Recovers

theorem subscribeToSession (h : Recovers self responses frames) {sessionPath : JsString}
    (hselected : self.sessionPath = some sessionPath) (forceFull : Bool) :
    Recovers (self.subscribeToSession (some sessionPath) forceFull) responses frames := by
  apply h.toSelectionOk.sendSubscribe
  intro scope hawaits
  have hscope := (h.awaiting scope hawaits).1
  rw [hselected] at hscope
  exact Option.some.inj hscope

/-- A request for a full sync is either made already, or sends a subscription. -/
theorem requestFullSessionSync (h : Recovers self responses frames) {sessionPath : JsString}
    (hselected : self.sessionPath = some sessionPath) (forceFull : Bool) :
    Recovers (self.requestFullSessionSync sessionPath forceFull) responses frames := by
  unfold WsAgentAdapter.requestFullSessionSync
  extract_lets awaiting preserveCachedBase reset based
  split
  · exact h
  · have hbased : based.awaitingFullSync = some (self.scopeOf sessionPath) ∧ based.sessionPath = self.sessionPath ∧
        based.sessionNonce = self.sessionNonce ∧ based.isVirtual = self.isVirtual := by
      simp only [based]
      split
      · exact ⟨rfl, rfl, rfl, rfl⟩
      · split
        · exact ⟨rfl, rfl, rfl, rfl⟩
        · exact ⟨rfl, rfl, rfl, rfl⟩
    obtain ⟨hawaiting, hpath, hnonce, hvirtual⟩ := hbased
    have hok : SelectionOk based.clearSessionSyncQueue := by
      refine ⟨fun scope hawaits => ?_, fun _ hsome => (nomatch hsome), fun hsome => ?_, fun path hsome => ?_⟩
      · have hscope : self.scopeOf sessionPath = scope := Option.some.inj (hawaiting.symm.trans hawaits)
        rw [← hscope]
        exact ⟨hpath.trans hselected, hnonce⟩
      · exact h.named (hpath.symm.trans hsome)
      · exact hvirtual.trans (h.notVirtual path (hpath.symm.trans hsome))
    apply hok.sendSubscribe
    intro scope hawaits
    have hscope : self.scopeOf sessionPath = scope := Option.some.inj (hawaiting.symm.trans hawaits)
    rw [← hscope]
    rfl

theorem finishFlush (h : Recovers self responses frames) : Recovers self.finishFlush responses frames := by
  unfold WsAgentAdapter.finishFlush
  extract_lets done
  split
  · exact ⟨⟨h.awaiting, h.segments, h.named, h.notVirtual⟩, h.coming⟩
  · exact ⟨⟨h.awaiting, h.segments, h.named, h.notVirtual⟩, h.coming⟩

theorem applySessionSyncBatch (h : Recovers self responses frames) (syncMessages : List ScopedSessionSync) :
    Recovers (self.applySessionSyncBatch computeHash syncMessages) responses frames := by
  unfold WsAgentAdapter.applySessionSyncBatch
  extract_lets syncSessionPath scope
  split
  · exact h.finishFlush
  · rename_i hready
    have hselected : self.sessionPath = some syncSessionPath := by
      cases hpath : self.sessionPath with
      | none => simp only [syncSessionPath, hpath, Option.getD_none, true_or, not_true_eq_false] at hready
      | some sessionPath => simp only [syncSessionPath, hpath, Option.getD_some]
    split
    · exact (h.requestFullSessionSync hselected _).finishFlush
    · split
      · exact (h.requestFullSessionSync hselected _).finishFlush
      · split
        · apply finishFlush
          exact ⟨⟨h.awaiting, h.segments, h.named, h.notVirtual⟩, h.coming⟩
        · split
          · exact h.finishFlush
          · exact ⟨⟨h.awaiting, h.segments, h.named, h.notVirtual⟩, h.coming⟩

theorem onFrame (h : Recovers self responses frames) :
    Recovers (self.onFrame computeHash) responses frames := by
  unfold WsAgentAdapter.onFrame
  split
  · exact h
  · extract_lets next
    split
    · exact ⟨⟨h.awaiting, h.segments, h.named, h.notVirtual⟩, h.coming⟩
    · apply applySessionSyncBatch
      exact ⟨⟨h.awaiting, h.segments, h.named, h.notVirtual⟩, h.coming⟩

theorem keepInventory (h : Recovers self responses frames) (batch : Verification) :
    Recovers (self.keepInventory batch) responses frames := by
  rw [WsAgentAdapter.keepInventory]
  cases batch.contentInventory with
  | none =>
    simp only
    split
    · exact ⟨⟨h.awaiting, h.segments, h.named, h.notVirtual⟩, h.coming⟩
    · exact h
  | some inventory =>
    simp only
    split
    · exact ⟨⟨h.awaiting, h.segments, h.named, h.notVirtual⟩, h.coming⟩
    · exact ⟨⟨h.awaiting, h.segments, h.named, h.notVirtual⟩, h.coming⟩

theorem commitSync (h : Recovers self responses frames) (batch : Verification) (result : SyncResult)
    (state : List (JsString × Value)) : Recovers (self.commitSync batch result state) responses frames := by
  unfold WsAgentAdapter.commitSync
  extract_lets next
  have hnext : Recovers next responses frames := ⟨⟨h.awaiting, h.segments, h.named, h.notVirtual⟩, h.coming⟩
  have hkept := hnext.keepInventory batch
  exact ⟨⟨hkept.awaiting, hkept.segments, hkept.named, hkept.notVirtual⟩, hkept.coming⟩

theorem onHashSettled (h : Recovers self responses frames) : Recovers self.onHashSettled responses frames := by
  unfold WsAgentAdapter.onHashSettled
  cases hbatch : self.verification with
  | none => exact h
  | some batch =>
    simp only
    have hnext : Recovers { self with verification := none } responses frames :=
      ⟨⟨h.awaiting, h.segments, h.named, h.notVirtual⟩, h.coming⟩
    split
    · exact hnext.finishFlush
    · rename_i hselected
      cases batch.result with
      | none => exact (hnext.requestFullSessionSync (not_not.mp hselected).1 _).finishFlush
      | some result =>
        simp only
        cases decodeSessionStateJson result.data with
        | error error =>
          apply finishFlush
          exact ⟨⟨h.awaiting, h.segments, h.named, h.notVirtual⟩, h.coming⟩
        | ok state =>
          apply finishFlush
          exact hnext.commitSync _ _ _

theorem newSession (self : WsAgentAdapter) : Recovers self.newSession responses frames := by
  unfold WsAgentAdapter.newSession
  apply SelectionOk.sendSubscribe
  · exact ⟨fun _ hsome => (nomatch hsome), fun _ hsome => (nomatch hsome), fun hsome => (nomatch hsome),
      fun _ hsome => (nomatch hsome)⟩
  · exact fun _ hsome => (nomatch hsome)

theorem of_reset (hawaiting : self.awaitingFullSync = none)
    (hsegments : self.pendingSegmentedSessionSync = none)
    (hnamed : self.sessionPath ≠ some [])
    (hvirtual : ∀ sessionPath, self.sessionPath = some sessionPath → self.isVirtual = false) :
    Recovers self responses frames := by
  apply SelectionOk.recovers _ hawaiting
  refine ⟨fun _ hsome => ?_, fun _ hsome => ?_, hnamed, hvirtual⟩
  · rw [hawaiting] at hsome
    cases hsome
  · rw [hsegments] at hsome
    cases hsome

theorem restoreCachedSession (h : Recovers self responses frames) (continuation : RestoreContinuation)
    {sessionPath : JsString} (hselected : self.sessionPath = some sessionPath) (prefetched : Bool) :
    Recovers (self.restoreCachedSession continuation sessionPath prefetched) responses frames := by
  rw [WsAgentAdapter.restoreCachedSession]
  split
  · cases continuation with
    | switchSession => exact h.requestFullSessionSync hselected _
    | restoreCachedSessionPreview => exact h
  · exact ⟨⟨h.awaiting, h.segments, h.named, h.notVirtual⟩, h.coming⟩

theorem switchSession (self : WsAgentAdapter) {sessionPath : JsString} (hnamed : sessionPath ≠ [])
    (prefetched : Bool) : Recovers (self.switchSession sessionPath prefetched) responses frames := by
  unfold WsAgentAdapter.switchSession
  extract_lets reuseStartupCache selected cleared reset
  split
  · apply requestFullSessionSync
    · exact of_reset rfl rfl (fun hsome => hnamed (Option.some.inj hsome)) fun _ _ => rfl
    · rfl
  · apply restoreCachedSession
    · exact of_reset rfl rfl (fun hsome => hnamed (Option.some.inj hsome)) fun _ _ => rfl
    · rfl

theorem restoreCachedSessionPreview (h : Recovers self responses frames) {sessionPath : JsString}
    (hnamed : sessionPath ≠ []) (prefetched : Bool) : Recovers (self.restoreCachedSessionPreview sessionPath prefetched) responses frames := by
  rw [WsAgentAdapter.restoreCachedSessionPreview]
  split
  · exact h
  · apply restoreCachedSession
    · exact of_reset rfl rfl (fun hsome => hnamed (Option.some.inj hsome)) fun _ _ => rfl
    · rfl

theorem onPreviewSettled (h : Recovers self responses frames) (index : Nat) (preview : Option Bool) :
    Recovers (self.onPreviewSettled index preview) responses frames := by
  rw [WsAgentAdapter.onPreviewSettled]
  cases self.restores[index]? with
  | none => exact h
  | some restore =>
    simp only
    have hended : Recovers { self with restores := self.restores.eraseIdx index } responses frames :=
      ⟨⟨h.awaiting, h.segments, h.named, h.notVirtual⟩, h.coming⟩
    split
    · exact h
    · cases preview with
      | none =>
        simp only
        split
        · rename_i hselected
          cases restore.continuation with
          | switchSession => exact hended.requestFullSessionSync hselected.1 _
          | restoreCachedSessionPreview => exact hended
        · exact hended
      | some found =>
        simp only
        split
        · exact hended
        · refine ⟨⟨h.awaiting, h.segments, h.named, fun sessionPath hsome => ?_⟩, h.coming⟩
          simp only [h.notVirtual sessionPath hsome, Bool.false_and]

theorem finishRestore (h : Recovers self responses frames) (restore : Restore) (found : Bool) :
    Recovers (self.finishRestore restore found) responses frames := by
  rw [WsAgentAdapter.finishRestore]
  split
  · exact h
  · rename_i hselected
    cases restore.continuation with
    | switchSession => exact h.requestFullSessionSync (not_not.mp hselected).1 _
    | restoreCachedSessionPreview =>
      cases found
      · exact h
      · exact ⟨⟨h.awaiting, h.segments, h.named, h.notVirtual⟩, h.coming⟩

theorem onCacheSettled (h : Recovers self responses frames) (index : Nat)
    (cached : Option (CachedSessionState computeHash)) :
    Recovers (self.onCacheSettled index cached) responses frames := by
  rw [WsAgentAdapter.onCacheSettled]
  cases self.restores[index]? with
  | none => exact h
  | some restore =>
    simp only
    have hended : Recovers { self with restores := self.restores.eraseIdx index } responses frames :=
      ⟨⟨h.awaiting, h.segments, h.named, h.notVirtual⟩, h.coming⟩
    split
    · exact h
    · split
      · exact hended
      · cases cached with
        | none => exact hended.finishRestore _ _
        | some cached =>
          apply finishRestore
          unfold WsAgentAdapter.assignRestored
          extract_lets next
          split
          · exact ⟨⟨h.awaiting, h.segments, h.named, h.notVirtual⟩, h.coming⟩
          · exact ⟨⟨h.awaiting, h.segments, h.named, fun _ _ => rfl⟩, h.coming⟩

theorem onHydrate (h : Recovers self responses frames) (index : Nat) :
    Recovers (self.onHydrate index) responses frames := by
  rw [WsAgentAdapter.onHydrate]
  cases self.hydrations[index]? with
  | none => exact h
  | some hydration =>
    simp only
    split
    · exact ⟨⟨h.awaiting, h.segments, h.named, h.notVirtual⟩, h.coming⟩
    · exact ⟨⟨h.awaiting, h.segments, h.named, fun _ _ => rfl⟩, h.coming⟩

theorem setSessionSubscriptionActive (h : Recovers self responses frames) (active : Bool) :
    Recovers (self.setSessionSubscriptionActive active) responses frames := by
  unfold WsAgentAdapter.setSessionSubscriptionActive
  extract_lets next cleared
  have hcleared : Recovers cleared responses frames := of_reset rfl rfl h.named h.notVirtual
  split
  · exact h
  · split
    · apply SelectionOk.sendSubscribe hcleared.toSelectionOk
      exact fun _ hsome => (nomatch hsome)
    · split
      · exact hcleared
      · rename_i sessionPath hpath
        split
        · exact hcleared.requestFullSessionSync hpath _
        · exact hcleared

theorem adopt (h : Recovers self responses frames)
    (hnone : self.sessionPath = none) {sessionPath : JsString} (hnamed : sessionPath ≠ []) :
    Recovers { self with sessionPath := some sessionPath, isVirtual := false } responses frames := by
  have hno (scope : Scope) (hselected : self.IsSelected scope) : False := by
    have hpath := hselected.1
    rw [hnone] at hpath
    cases hpath
  refine ⟨⟨fun scope hawaits => ?_, fun pending hpending => ?_, fun hsome => ?_, fun _ _ => rfl⟩,
    fun scope hawaits _ => ?_⟩
  · exact (hno scope (h.awaiting scope hawaits)).elim
  · exact (hno pending.scope (h.segments pending hpending)).elim
  · exact hnamed (Option.some.inj hsome)
  · exact (hno scope (h.awaiting scope hawaits)).elim

theorem onSessionAttached (h : Recovers self responses frames) {sessionPath : JsString}
    (hnamed : sessionPath ≠ []) (pendingNewPrompt : Bool) :
    Recovers (self.onSessionAttached sessionPath pendingNewPrompt) responses frames := by
  rw [WsAgentAdapter.onSessionAttached]
  split
  · rename_i hadopt
    by_cases hvirtual : self.isVirtual = true
    · rw [if_pos hvirtual]
      apply requestFullSessionSync
      · refine h.adopt (Option.eq_none_iff_forall_ne_some.mpr fun path hpath => ?_) hnamed
        rw [h.notVirtual path hpath] at hvirtual
        cases hvirtual
      · rfl
    · rw [if_neg hvirtual]
      have hpath : self.sessionPath = some sessionPath := hadopt.resolve_right fun hboth => hvirtual hboth.1
      apply requestFullSessionSync
      · exact ⟨⟨h.awaiting, h.segments, h.named, fun _ _ => rfl⟩, h.coming⟩
      · exact hpath
  · exact h

theorem onPromptSettled (h : Recovers self responses frames) (sessionNonce : Nat)
    (newSessionPath : JsString) : Recovers (self.onPromptSettled sessionNonce newSessionPath) responses frames := by
  rw [WsAgentAdapter.onPromptSettled]
  split
  · exact h
  · rename_i hadopt
    rw [not_or, not_or] at hadopt
    apply requestFullSessionSync
    · refine h.adopt (Option.eq_none_iff_forall_ne_some.mpr fun path hpath => h.named ?_) hadopt.2.1
      have hempty := not_not.mp hadopt.2.2
      rw [hpath, Option.getD_some] at hempty
      rw [hpath, hempty]
    · rfl

theorem syncStateOnFocus (h : Recovers self responses frames) :
    Recovers self.syncStateOnFocus responses frames := by
  rw [WsAgentAdapter.syncStateOnFocus]
  cases hpath : self.sessionPath with
  | none => exact h
  | some sessionPath =>
    simp only
    split
    · exact h.subscribeToSession hpath _
    · exact h

theorem onCompacted (h : Recovers self responses frames) (sessionPath : JsString) :
    Recovers (self.onCompacted sessionPath) responses frames := by
  rw [WsAgentAdapter.onCompacted]
  split
  · rename_i hpath
    exact h.subscribeToSession hpath _
  · exact h

theorem onSubscribeSettled_cases (self : WsAgentAdapter) (id : Nat) (error : Option JsString) :
    (∃ pendingRequests, self.onSubscribeSettled id error = { self with pendingRequests }) ∨
    ∃ pendingRequests, self.onSubscribeSettled id error = { self with pendingRequests }.newSession := by
  rw [WsAgentAdapter.onSubscribeSettled]
  split
  · exact .inl ⟨_, rfl⟩
  · extract_lets next
    split
    · split
      · exact .inl ⟨_, rfl⟩
      · split
        · exact .inr ⟨_, rfl⟩
        · exact .inl ⟨_, rfl⟩
    · exact .inl ⟨_, rfl⟩

end Recovers

theorem SelectionOk.onReconnected (h : SelectionOk self)
    (hasked : self.awaitingFullSync = none ∨ self.sessionSubscriptionActive = true) :
    Recovers self.onReconnected responses frames := by
  have hkept (hno : ∀ scope, self.awaitingFullSync = some scope → False) : Recovers self responses frames :=
    ⟨h, fun scope hawaits _ => (hno scope hawaits).elim⟩
  have hcleared : Recovers { self with awaitingFullSync := none } responses frames := by
    refine SelectionOk.recovers ?_ rfl
    exact ⟨fun _ hsome => (nomatch hsome), h.segments, h.named, h.notVirtual⟩
  rw [WsAgentAdapter.onReconnected]
  split
  · rename_i hpath
    apply hkept
    intro scope hawaits
    have hselected := (h.awaiting scope hawaits).1
    rw [hpath] at hselected
    cases hselected
  · rename_i sessionPath hpath
    split
    · exact hcleared.requestFullSessionSync hpath _
    · rename_i hskipped
      apply hkept
      intro scope hawaits
      have hactive : self.sessionSubscriptionActive = true := by
        apply hasked.resolve_left
        rw [hawaits]
        exact Option.some_ne_none _
      have hnamed : sessionPath ≠ [] := by
        rintro rfl
        exact h.named hpath
      refine hskipped ⟨hactive, hnamed, ?_⟩
      rw [h.notVirtual sessionPath hpath]
      decide

theorem SelectionOk.onConnected (h : SelectionOk self) (hconnected : self.transport.isConnected = false)
    (hasked : self.awaitingFullSync = none ∨
      self.transport.everConnected = true ∧ self.sessionSubscriptionActive = true) :
    Recovers self.onConnected responses frames := by
  rw [WsAgentAdapter.onConnected, if_neg (by rw [hconnected]; decide)]
  split
  · apply SelectionOk.onReconnected
    · exact ⟨h.awaiting, h.segments, h.named, h.notVirtual⟩
    · exact hasked.imp_right fun hboth => hboth.2
  · rename_i hfirst
    have hnone : self.awaitingFullSync = none := hasked.resolve_right fun hboth => hfirst hboth.1
    refine SelectionOk.recovers ?_ (show _ = none from hnone)
    refine ⟨h.awaiting, h.segments, h.named, fun path hpath => ?_⟩
    have hpath' : self.sessionPath = some path := hpath
    have hnamed : path ≠ [] := by
      rintro rfl
      exact h.named hpath'
    simp only [h.notVirtual path hpath', hpath', Option.getD_some, hnamed, decide_false, Bool.or_self]

/-- The next frame is not part of what is awaited, or it begins or continues the answer. -/
theorem SyncIsComing.next {outgoing : List SentSubscribe} {segments : Option PendingSegmentedSessionSync}
    {message : SessionSyncMessage} {scope : Scope}
    (h : SyncIsComing outgoing responses segments (message :: frames) scope) :
    (∀ segments, SyncIsComing outgoing responses segments frames scope) ∨
    outgoing = [] ∧ ∃ answer after, frames = answer ++ after ∧
      (IsInitialSync scope.sessionPath (message :: answer) ∨ IsRest segments scope (message :: answer)) := by
  obtain hlast | ⟨hread, hanswer | hresponse⟩ := h
  · exact .inl fun _ => .inl hlast
  · obtain ⟨before, answer, after, hframes, hinitial⟩ | ⟨rest, after, hframes, hrest⟩ := hanswer
    · cases before with
      | nil =>
        cases answer with
        | nil => cases hinitial
        | cons first answer =>
          simp only [List.nil_append, List.cons_append, List.cons.injEq] at hframes
          obtain ⟨rfl, hframes⟩ := hframes
          exact .inr ⟨hread, answer, after, hframes, .inl hinitial⟩
      | cons first before =>
        simp only [List.cons_append, List.cons.injEq] at hframes
        exact .inl fun _ => .inr ⟨hread, .inl (.inl ⟨before, answer, after, hframes.2, hinitial⟩)⟩
    · cases rest with
      | nil =>
        obtain ⟨pending, batches, -, -, hne, -, hmessages⟩ := hrest
        exact absurd (List.mapIdx_eq_nil_iff.mp hmessages.symm) hne
      | cons first rest =>
        simp only [List.cons_append, List.cons.injEq] at hframes
        obtain ⟨rfl, hframes⟩ := hframes
        exact .inr ⟨hread, rest, after, hframes, .inr hrest⟩
  · exact .inl fun _ => .inr ⟨hread, .inr hresponse⟩

theorem IsRest.cons {segments : Option PendingSegmentedSessionSync} {message : SessionSyncMessage}
    {answer : List SessionSyncMessage} {scope : Scope} (h : IsRest segments scope (message :: answer)) :
    ∃ (pending : PendingSegmentedSessionSync) (batch : List ContentAddressedMessage)
      (batches : List (List ContentAddressedMessage)), segments = some pending ∧ pending.scope = scope ∧
      pending.nextBatchIndex + 1 + batches.length = pending.batchCount ∧
      message = ⟨scope.sessionPath, pending.revision,
        .content_batch pending.hash pending.transferId pending.nextBatchIndex batch⟩ ∧
      answer = batches.mapIdx fun i batch =>
        ⟨scope.sessionPath, pending.revision,
          .content_batch pending.hash pending.transferId (pending.nextBatchIndex + 1 + i) batch⟩ := by
  obtain ⟨pending, batches, hsegments, hscope, hne, hcount, hmessages⟩ := h
  obtain ⟨batch, batches, rfl⟩ := List.exists_cons_of_ne_nil hne
  rw [List.mapIdx_cons, List.cons.injEq] at hmessages
  rw [List.length_cons] at hcount
  refine ⟨pending, batch, batches, hsegments, hscope, by omega, hmessages.1, ?_⟩
  rw [hmessages.2]
  congr 1
  funext i batch
  rw [Nat.add_assoc, Nat.add_comm 1 i]

theorem answer_path {segments : Option PendingSegmentedSessionSync} {message : SessionSyncMessage}
    {answer : List SessionSyncMessage} {scope : Scope}
    (h : IsInitialSync scope.sessionPath (message :: answer) ∨ IsRest segments scope (message :: answer)) :
    message.sessionPath = scope.sessionPath := by
  obtain hinitial | hrest := h
  · cases hinitial <;> rfl
  · obtain ⟨_, _, _, -, -, -, rfl, -⟩ := hrest.cons
    rfl

/-- A frame that leaves the carrier alone, and what is awaited unless it answers that. -/
theorem Recovers.keep {message : SessionSyncMessage} {next : WsAgentAdapter}
    (h : Recovers self responses (message :: frames)) (hok : SelectionOk next)
    (htransport : next.transport = self.transport)
    (hawaiting : ∀ scope, next.awaitingFullSync = some scope → self.awaitingFullSync = some scope)
    (hanswer : ∀ scope answer, next.awaitingFullSync = some scope → self.IsSelected scope →
      IsInitialSync scope.sessionPath (message :: answer) ∨
        IsRest self.pendingSegmentedSessionSync scope (message :: answer) →
      IsRest next.pendingSegmentedSessionSync scope answer) :
    Recovers next responses frames := by
  refine ⟨hok, fun scope hawaits hconnected => ?_⟩
  have hbefore := hawaiting scope hawaits
  rw [htransport] at hconnected ⊢
  obtain hkept | ⟨hread, answer, after, hframes, hbegins⟩ := (h.coming scope hbefore hconnected).next
  · exact hkept _
  · have hrest := hanswer scope answer hawaits (h.awaiting scope hbefore) hbegins
    exact .inr ⟨hread, .inl (.inr ⟨answer, after, hframes, hrest⟩)⟩

/-- What `enqueueSessionSync` does apart from the queue. -/
theorem enqueueSessionSync_kept (self : WsAgentAdapter) (syncMsg : ScopedSessionSync) :
    (self.enqueueSessionSync syncMsg).transport = self.transport ∧
    (self.enqueueSessionSync syncMsg).sessionPath = self.sessionPath ∧
    (self.enqueueSessionSync syncMsg).sessionNonce = self.sessionNonce ∧
    (self.enqueueSessionSync syncMsg).isVirtual = self.isVirtual ∧
    (self.enqueueSessionSync syncMsg).pendingSegmentedSessionSync = self.pendingSegmentedSessionSync ∧
    (self.enqueueSessionSync syncMsg).awaitingFullSync =
      if SessionSyncOp.isDelta syncMsg.message.op = false ∧ self.awaitingFullSync = some syncMsg.scope then none
      else self.awaitingFullSync := by
  have hqueued : (self.queueSessionSync syncMsg).transport = self.transport ∧
      (self.queueSessionSync syncMsg).sessionPath = self.sessionPath ∧
      (self.queueSessionSync syncMsg).sessionNonce = self.sessionNonce ∧
      (self.queueSessionSync syncMsg).isVirtual = self.isVirtual ∧
      (self.queueSessionSync syncMsg).pendingSegmentedSessionSync = self.pendingSegmentedSessionSync ∧
      (self.queueSessionSync syncMsg).awaitingFullSync =
        if SessionSyncOp.isDelta syncMsg.message.op = false ∧ self.awaitingFullSync = some syncMsg.scope then none
        else self.awaitingFullSync := by
    rw [WsAgentAdapter.queueSessionSync]
    cases SessionSyncOp.isDelta syncMsg.message.op <;> simp
  unfold WsAgentAdapter.enqueueSessionSync
  extract_lets queued
  split
  · rename_i hdropped
    simp [hdropped.1]
  · split
    · exact hqueued
    · exact hqueued

theorem SelectionOk.enqueueSessionSync (h : SelectionOk self) (syncMsg : ScopedSessionSync) :
    SelectionOk (self.enqueueSessionSync syncMsg) := by
  obtain ⟨-, hpath, hnonce, hvirtual, hsegments, hawaiting⟩ := enqueueSessionSync_kept self syncMsg
  constructor
  · intro scope hawaits
    rw [hawaiting] at hawaits
    have hbefore : self.awaitingFullSync = some scope := by
      split at hawaits
      · cases hawaits
      · exact hawaits
    rw [WsAgentAdapter.IsSelected, hpath, hnonce]
    exact h.awaiting scope hbefore
  · rw [hsegments]
    intro pending hpending
    rw [WsAgentAdapter.IsSelected, hpath, hnonce]
    exact h.segments pending hpending
  · rw [hpath]
    exact h.named
  · rw [hpath, hvirtual]
    exact h.notVirtual

theorem enqueueSessionSync_awaiting {syncMsg : ScopedSessionSync} {scope : Scope}
    (hop : SessionSyncOp.isDelta syncMsg.message.op = false)
    (h : (self.enqueueSessionSync syncMsg).awaitingFullSync = some scope) :
    self.awaitingFullSync = some scope ∧ scope ≠ syncMsg.scope := by
  rw [(enqueueSessionSync_kept self syncMsg).2.2.2.2.2] at h
  split at h
  · cases h
  · rename_i hkept
    refine ⟨h, fun heq => hkept ⟨hop, ?_⟩⟩
    rw [h, heq]

theorem WsAgentAdapter.IsSelected.eq_scopeOf {scope : Scope} (h : self.IsSelected scope) :
    scope = self.scopeOf scope.sessionPath := by
  rw [WsAgentAdapter.scopeOf, h.2]

theorem Recovers.enqueueSessionSync {message : SessionSyncMessage}
    (h : Recovers self responses (message :: frames))
    (hmanifest : ∀ hash transferId messageHashes state batchCount,
      message.op ≠ .content_manifest hash transferId messageHashes state batchCount)
    (hbatch : ∀ hash transferId batchIndex messages,
      message.op ≠ .content_batch hash transferId batchIndex messages) :
    Recovers (self.enqueueSessionSync { message, scope := self.scopeOf message.sessionPath }) responses frames := by
  obtain ⟨htransport, -, -, -, -, hawaiting⟩ :=
    enqueueSessionSync_kept self { message, scope := self.scopeOf message.sessionPath }
  apply h.keep (h.toSelectionOk.enqueueSessionSync _) htransport
  · intro scope hawaits
    rw [hawaiting] at hawaits
    split at hawaits
    · cases hawaits
    · exact hawaits
  · intro scope answer hawaits hselected hbegins
    exfalso
    have hpath := answer_path hbegins
    obtain hinitial | hrest := hbegins
    · have hop : SessionSyncOp.isDelta message.op = false := by
        cases hinitial <;> rfl
      apply (enqueueSessionSync_awaiting hop hawaits).2
      rw [hpath]
      exact hselected.eq_scopeOf
    · obtain ⟨_, _, _, -, -, -, rfl, -⟩ := hrest.cons
      exact hbatch _ _ _ _ rfl

/-- A snapshot that is complete is taken, unless it is not of the selected session. -/
theorem Recovers.completeSegmentedSessionSync {message : SessionSyncMessage} {next : WsAgentAdapter}
    {pending : PendingSegmentedSessionSync} (h : Recovers self responses (message :: frames))
    (hok : SelectionOk next) (hsegments : next.pendingSegmentedSessionSync = some pending)
    (htransport : next.transport = self.transport) (hawaiting : next.awaitingFullSync = self.awaitingFullSync)
    (hselected : next.IsSelected pending.scope) (hpath : pending.scope.sessionPath = message.sessionPath)
    (hnonce : next.sessionNonce = self.sessionNonce) :
    Recovers next.completeSegmentedSessionSync responses frames := by
  rw [WsAgentAdapter.completeSegmentedSessionSync, hsegments]
  simp only
  rw [if_neg (not_not.mpr hselected)]
  have htaken : SelectionOk { next with pendingSegmentedSessionSync := none } :=
    ⟨hok.awaiting, fun _ hsome => (nomatch hsome), hok.named, hok.notVirtual⟩
  apply h.keep (htaken.enqueueSessionSync _)
  · rw [(enqueueSessionSync_kept _ _).1]
    exact htransport
  · intro scope hawaits
    rw [← hawaiting]
    exact (enqueueSessionSync_awaiting rfl hawaits).1
  · intro scope answer hawaits hscope hbegins
    exfalso
    apply (enqueueSessionSync_awaiting rfl hawaits).2
    rw [hscope.eq_scopeOf, ← answer_path hbegins, ← hpath, hselected.eq_scopeOf]
    simp only [WsAgentAdapter.scopeOf, hnonce]

theorem Recovers.receiveManifest {sessionPath : JsString} {revision batchCount : Nat}
    {hash transferId : JsString} {messageHashes : List JsString} {state : List (JsString × Value)}
    (h : Recovers self responses
      (⟨sessionPath, revision, .content_manifest hash transferId messageHashes state batchCount⟩ :: frames))
    (hselected : self.sessionPath = some sessionPath) :
    Recovers (self.receiveManifest sessionPath revision hash transferId messageHashes state batchCount) responses
      frames := by
  unfold WsAgentAdapter.receiveManifest
  extract_lets pending received
  have hpending : self.IsSelected pending.scope := ⟨hselected, rfl⟩
  have hok : SelectionOk received := by
    refine ⟨h.awaiting, fun other hother => ?_, h.named, h.notVirtual⟩
    have heq : pending = other := Option.some.inj hother
    rw [← heq]
    exact hpending
  split
  · exact h.completeSegmentedSessionSync hok rfl rfl rfl hpending rfl rfl
  · rename_i hcount
    apply h.keep hok rfl fun _ hawaits => hawaits
    intro scope answer hawaits hscope hbegins
    have hpath : sessionPath = scope.sessionPath := answer_path hbegins
    obtain hinitial | hrest := hbegins
    · cases hinitial with
      | segmented _ _ _ _ _ batches =>
        refine ⟨pending, batches, rfl, ?_, ?_, ?_, ?_⟩
        · rw [hscope.eq_scopeOf, ← hpath]
        · rintro rfl
          exact hcount rfl
        · exact Nat.zero_add _
        · congr 1
          funext i batch
          rw [show pending.nextBatchIndex + i = i from Nat.zero_add i]
    · obtain ⟨_, _, _, -, -, -, hmessage, -⟩ := hrest.cons
      cases hmessage

theorem Recovers.restartSegmentedSessionSync {pending : PendingSegmentedSessionSync} (h : SelectionOk self)
    (hselected : self.IsSelected pending.scope) : Recovers (self.restartSegmentedSessionSync pending) responses frames := by
  rw [WsAgentAdapter.restartSegmentedSessionSync]
  apply Recovers.requestFullSessionSync
  · exact .of_reset rfl rfl h.named h.notVirtual
  · exact hselected.1

theorem Recovers.receiveBatch {sessionPath : JsString} {revision batchIndex : Nat}
    {hash transferId : JsString} {messages : List ContentAddressedMessage}
    (h : Recovers self responses
      (⟨sessionPath, revision, .content_batch hash transferId batchIndex messages⟩ :: frames)) :
    Recovers (self.receiveBatch sessionPath revision hash transferId batchIndex messages) responses frames := by
  -- An initial answer does not begin with a batch; the rest of one that has begun to arrive does.
  have hexpected {next : WsAgentAdapter} (hok : SelectionOk next) (htransport : next.transport = self.transport)
      (hawaiting : next.awaitingFullSync = self.awaitingFullSync)
      (hrest : ∀ (pending : PendingSegmentedSessionSync) (batches : List (List ContentAddressedMessage)),
        self.pendingSegmentedSessionSync = some pending → transferId = pending.transferId → revision = pending.revision → hash = pending.hash →
        batchIndex = pending.nextBatchIndex → pending.nextBatchIndex + 1 + batches.length = pending.batchCount →
        IsRest next.pendingSegmentedSessionSync pending.scope (batches.mapIdx fun i batch =>
          ⟨pending.scope.sessionPath, pending.revision,
            .content_batch pending.hash pending.transferId (pending.nextBatchIndex + 1 + i) batch⟩)) :
      Recovers next responses frames := by
    apply h.keep hok htransport fun _ hawaits => hawaiting ▸ hawaits
    intro scope answer hawaits hscope hbegins
    obtain hinitial | hcontinues := hbegins
    · cases hinitial
    · obtain ⟨pending, batch, batches, hsegments, rfl, hcount, hmessage, rfl⟩ := hcontinues.cons
      cases hmessage
      exact hrest pending batches hsegments rfl rfl rfl rfl hcount
  rw [WsAgentAdapter.receiveBatch]
  split
  · rename_i hnone
    apply hexpected h.toSelectionOk rfl rfl
    intro pending _ hsome
    rw [hnone] at hsome
    cases hsome
  · rename_i pending hpending
    split
    · rename_i hother
      apply hexpected h.toSelectionOk rfl rfl
      intro current _ hsome htransfer
      rw [hpending] at hsome
      cases hsome
      exact absurd htransfer hother
    · split
      · exact restartSegmentedSessionSync h.toSelectionOk (h.segments pending hpending)
      · rename_i hconsistent
        rw [not_or] at hconsistent
        extract_lets receivedBytes received collecting
        have hscope : pending.scope.sessionPath = sessionPath := (not_not.mp hconsistent.1).symm
        have hok : SelectionOk collecting := by
          refine ⟨h.awaiting, fun other hother => ?_, h.named, h.notVirtual⟩
          have heq : received = other := Option.some.inj hother
          rw [← heq]
          exact h.segments pending hpending
        split
        · exact restartSegmentedSessionSync h.toSelectionOk (h.segments pending hpending)
        · split
          · exact h.completeSegmentedSessionSync hok rfl rfl rfl (h.segments pending hpending) hscope rfl
          · rename_i hincomplete
            apply hexpected hok rfl rfl
            intro current batches hsome _ _ _ _ hcount
            rw [hpending] at hsome
            cases hsome
            refine ⟨received, batches, rfl, rfl, ?_, hcount, rfl⟩
            rintro rfl
            exact hincomplete hcount

theorem Recovers.handleSessionSync {message : SessionSyncMessage}
    (h : Recovers self responses (message :: frames)) :
    Recovers (self.handleSessionSync message) responses frames := by
  rw [WsAgentAdapter.handleSessionSync]
  split
  · rename_i hother
    apply h.keep h.toSelectionOk rfl fun _ hawaits => hawaits
    intro scope answer _ hscope hbegins
    refine absurd ?_ hother
    rw [answer_path hbegins]
    exact hscope.1
  · rename_i hselected
    obtain ⟨sessionPath, revision, op⟩ := message
    cases op with
    | content_manifest => exact h.receiveManifest (not_not.mp hselected)
    | content_batch => exact h.receiveBatch
    | _ =>
      apply h.enqueueSessionSync
      · exact fun _ _ _ _ _ => SessionSyncOp.noConfusion
      · exact fun _ _ _ _ => SessionSyncOp.noConfusion

theorem AnswerInFlight.append {segments : Option PendingSegmentedSessionSync} {scope : Scope}
    (h : AnswerInFlight segments frames scope) (more : List SessionSyncMessage) :
    AnswerInFlight segments (frames ++ more) scope := by
  obtain ⟨before, answer, after, rfl, hinitial⟩ | ⟨rest, after, rfl, hrest⟩ := h
  · exact .inl ⟨before, answer, after ++ more, by simp only [List.append_assoc], hinitial⟩
  · exact .inr ⟨rest, after ++ more, by simp only [List.append_assoc], hrest⟩

theorem SyncIsComing.append {outgoing : List SentSubscribe}
    {segments : Option PendingSegmentedSessionSync} {scope : Scope}
    (h : SyncIsComing outgoing responses segments frames scope) (more : List SessionSyncMessage) :
    SyncIsComing outgoing responses segments (frames ++ more) scope := by
  obtain hlast | ⟨hread, hanswer | hresponse⟩ := h
  · exact .inl hlast
  · exact .inr ⟨hread, .inl (hanswer.append more)⟩
  · exact .inr ⟨hread, .inr hresponse⟩

theorem SyncIsComing.read {request : SentSubscribe} {outgoing : List SentSubscribe}
    {segments : Option PendingSegmentedSessionSync} {scope : Scope}
    (h : SyncIsComing (request :: outgoing) responses segments frames scope) :
    outgoing = [] ∧ scope.Subscribes request ∨
      ∃ last, outgoing.getLast? = some last ∧ scope.Subscribes last := by
  obtain ⟨last, hlast, hsubscribes⟩ | ⟨hread, -⟩ := h
  · cases outgoing with
    | nil =>
      simp only [List.getLast?_singleton, Option.some.injEq] at hlast
      exact .inl ⟨rfl, hlast ▸ hsubscribes⟩
    | cons next outgoing =>
      rw [List.getLast?_cons_cons] at hlast
      exact .inr ⟨last, hlast, hsubscribes⟩
  · cases hread

/-- The server has read a subscription; what was awaited comes with the next one or with what it sent. -/
theorem Recovers.readSubscribe {request : SentSubscribe} {outgoing : List SentSubscribe}
    {nextResponses : List SubscribeResponse} {nextFrames : List SessionSyncMessage}
    (h : Recovers self responses frames) (houtgoing : self.transport.outgoing = request :: outgoing)
    (hanswered : ∀ scope, outgoing = [] → self.awaitingFullSync = some scope → self.transport.isConnected = true →
      scope.Subscribes request →
      SyncIsComing [] nextResponses self.pendingSegmentedSessionSync nextFrames scope) :
    Recovers self.readSubscribe nextResponses nextFrames := by
  refine ⟨⟨h.awaiting, h.segments, h.named, h.notVirtual⟩, fun scope hawaits hconnected => ?_⟩
  have hcoming := h.coming scope hawaits hconnected
  rw [houtgoing] at hcoming
  rw [show self.readSubscribe.transport.outgoing = outgoing from congrArg List.tail houtgoing]
  obtain ⟨rfl, hsubscribes⟩ | hlast := hcoming.read
  · exact hanswered scope rfl hawaits hconnected hsubscribes
  · exact .inl hlast

theorem Recovers.onSendRefused (h : Recovers self responses frames)
    (hother : ∀ scope, self.awaitingFullSync = some scope → self.transport.isConnected = true →
      SyncIsComing self.transport.outgoing.dropLast responses self.pendingSegmentedSessionSync frames scope) :
    Recovers self.onSendRefused responses frames := by
  rw [WsAgentAdapter.onSendRefused]
  split
  · exact h
  · exact ⟨⟨h.awaiting, h.segments, h.named, h.notVirtual⟩, hother⟩

theorem newSession_sessionPath (self : WsAgentAdapter) : self.newSession.sessionPath = none := by
  rw [WsAgentAdapter.newSession, WsAgentAdapter.subscribeToSession, WsAgentAdapter.sendSubscribe]
  split
  · rfl
  · rfl

theorem onSubscribeSettled_missing {id : Nat} {error : JsString} {pending : PendingSubscribe}
    {scope : Scope} (hselected : self.IsSelected scope) (hne : scope.sessionPath ≠ [])
    (hmissing : isMissingSessionError error = true)
    (hpending : self.pendingRequests.find? (fun pending => pending.id = id) = some pending)
    (hpath : pending.sessionPath = some scope.sessionPath) (hnonce : pending.sessionNonce = scope.sessionNonce) :
    ∃ pendingRequests, self.onSubscribeSettled id (some error) = { self with pendingRequests }.newSession := by
  rw [WsAgentAdapter.onSubscribeSettled, hpending]
  simp only [hpath, hnonce]
  rw [if_neg, if_pos ⟨hne, hmissing⟩]
  · exact ⟨_, rfl⟩
  · exact fun hstale => hstale.elim (· hselected.2.symm) (· hselected.1)

theorem Recovers.onSubscribeSettled {response : SubscribeResponse}
    (h : Recovers self (response :: responses) frames)
    (hfailed : ∀ scope error, self.awaitingFullSync = some scope → self.transport.isConnected = true →
      response.error = some error → scope.Subscribes response.request →
      (isMissingSessionError error = true ∧ ∃ pending,
        self.pendingRequests.find? (fun pending => pending.id = response.request.id) = some pending ∧
        pending.sessionPath = some scope.sessionPath ∧ pending.sessionNonce = scope.sessionNonce) ∨
      SyncIsComing self.transport.outgoing responses self.pendingSegmentedSessionSync frames scope) :
    Recovers (self.onSubscribeSettled response.request.id response.error) responses frames := by
  obtain ⟨pendingRequests, hkept⟩ | ⟨pendingRequests, hleft⟩ :=
    onSubscribeSettled_cases self response.request.id response.error
  · rw [hkept]
    refine ⟨⟨h.awaiting, h.segments, h.named, h.notVirtual⟩, fun scope hawaits hconnected => ?_⟩
    obtain hlast | ⟨hread, hanswer | ⟨other, hmem, herror, hsubscribes⟩⟩ := h.coming scope hawaits hconnected
    · exact .inl hlast
    · exact .inr ⟨hread, .inl hanswer⟩
    · cases hmem with
      | tail _ hmem => exact .inr ⟨hread, .inr ⟨other, hmem, herror, hsubscribes⟩⟩
      | head =>
        obtain ⟨error, herror⟩ := Option.ne_none_iff_exists'.mp herror
        obtain ⟨hmissing, pending, hpending, hpath, hnonce⟩ | hcoming :=
          hfailed scope error hawaits hconnected herror hsubscribes
        · have hselected := h.awaiting scope hawaits
          have hne : scope.sessionPath ≠ [] := fun hempty => h.named (hempty ▸ hselected.1)
          obtain ⟨rest, hmissed⟩ := onSubscribeSettled_missing hselected hne hmissing hpending hpath hnonce
          rw [herror, hmissed] at hkept
          have hnone := congrArg WsAgentAdapter.sessionPath hkept
          rw [newSession_sessionPath] at hnone
          exact absurd (hselected.1.symm.trans hnone.symm) (Option.some_ne_none _)
        · exact hcoming
  · rw [hleft]
    exact .newSession _

theorem Recovers.local {event : Event computeHash} (h : Recovers self responses frames)
    (hlocal : event.isLocal = true) (hnamed : event.NamesSession) (hrefused : event = .sendRefused →
      ∀ scope, self.awaitingFullSync = some scope → self.transport.isConnected = true →
        SyncIsComing self.transport.outgoing.dropLast responses self.pendingSegmentedSessionSync frames scope) :
    Recovers (step computeHash self event) responses frames := by
  cases event with
  | switchSession sessionPath prefetched => exact .switchSession self hnamed prefetched
  | newSession => exact .newSession self
  | restoreCachedSessionPreview sessionPath prefetched => exact h.restoreCachedSessionPreview hnamed prefetched
  | setSessionSubscriptionActive active => exact h.setSessionSubscriptionActive active
  | sessionSync message => cases hlocal
  | frame => exact h.onFrame
  | hashSettled => exact h.onHashSettled
  | previewSettled index preview => exact h.onPreviewSettled index preview
  | cacheSettled index cached => exact h.onCacheSettled index cached
  | hydrate index => exact h.onHydrate index
  | sessionAttached sessionPath pendingNewPrompt => exact h.onSessionAttached hnamed pendingNewPrompt
  | promptSettled sessionNonce newSessionPath => exact h.onPromptSettled sessionNonce newSessionPath
  | focus => exact h.syncStateOnFocus
  | compacted sessionPath => exact h.onCompacted sessionPath
  | subscribeSettled id error => cases hlocal
  | subscribeTimedOut id => exact ⟨⟨h.awaiting, h.segments, h.named, h.notVirtual⟩, h.coming⟩
  | connected => cases hlocal
  | disconnected => cases hlocal
  | sendRefused => exact h.onSendRefused (hrefused rfl)
  | capabilities contentAddressed segmented sessionCache =>
    exact ⟨⟨h.awaiting, h.segments, h.named, h.notVirtual⟩, h.coming⟩

/-- One step on which no subscription fails keeps what is awaited coming. -/
theorem System.Recovers.step {self : System} {event : SystemEvent computeHash}
    (h : Recovers self.client self.responses self.frames) (hsucceeds : SubscriptionSucceeds self event) :
    Recovers (self.step event).client (self.step event).responses (self.step event).frames := by
  cases event with
  | client event =>
    rw [System.step]
    split
    · rename_i hlocal
      cases event with
      | sendRefused => exact h.local hlocal trivial fun _ scope hawaits hconnected => hsucceeds scope ⟨hawaits, hconnected⟩
      | _ => exact h.local hlocal hsucceeds (fun hrefused => nomatch hrefused)
    · exact h
  | connected =>
    rw [System.step]
    split
    · exact h
    · rename_i hconnected
      exact h.toSelectionOk.onConnected (Bool.not_eq_true _ ▸ hconnected) hsucceeds
  | disconnected => exact ⟨⟨h.awaiting, h.segments, h.named, h.notVirtual⟩, fun _ _ hconnected => nomatch hconnected⟩
  | serverAnswers kept sync =>
    rw [System.step]
    split
    · exact h
    · rename_i request outgoing houtgoing
      apply h.readSubscribe houtgoing
      rintro scope rfl hawaits hconnected hsubscribes
      refine .inr ⟨rfl, .inl ?_⟩
      obtain hsame | hkept := hsucceeds request scope houtgoing ⟨hawaits, hconnected⟩ hsubscribes
      · have hne : request.command.sessionPath ≠ [] := by
          rw [hsubscribes.1]
          exact fun hempty => h.named (hempty ▸ (h.awaiting scope hawaits).1)
        rw [if_neg hne]
        refine .inl ⟨_, sync.messages, [], (List.append_nil _).symm, ?_⟩
        rw [← hsubscribes.1, ← hsame]
        exact sync.isInitialSync
      · exact hkept.append _
  | serverRefuses kept sent error =>
    rw [System.step]
    split
    · exact h
    · rename_i request outgoing houtgoing
      apply h.readSubscribe houtgoing
      intro scope _ _ _ hsubscribes
      refine .inr ⟨rfl, .inr ⟨{ request, error := some error }, List.mem_concat_self, ?_, hsubscribes⟩⟩
      exact Option.some_ne_none _
  | serverPushes sessionPath revision op =>
    rw [System.step]
    split
    · exact ⟨h.toSelectionOk, fun scope hawaits hconnected => (h.coming scope hawaits hconnected).append _⟩
    · exact h
  | frameArrives =>
    rw [System.step]
    split
    · exact h
    · rename_i message frames hframes
      rw [hframes] at h
      exact h.handleSessionSync
  | responseArrives =>
    rw [System.step]
    split
    · exact h
    · rename_i response responses hresponses
      rw [hresponses] at h
      apply h.onSubscribeSettled
      intro scope error hawaits hconnected
      exact hsucceeds response responses scope error hresponses ⟨hawaits, hconnected⟩

theorem IsInitialSync.exists_head {sessionPath : JsString} {messages : List SessionSyncMessage}
    (h : IsInitialSync sessionPath messages) :
    ∃ message ∈ messages, message.sessionPath = sessionPath ∧ SessionSyncOp.isDelta message.op = false := by
  cases h with
  | full => exact ⟨_, List.mem_cons_self, rfl, rfl⟩
  | not_modified => exact ⟨_, List.mem_cons_self, rfl, rfl⟩
  | content => exact ⟨_, List.mem_cons_self, rfl, rfl⟩
  | segmented => exact ⟨_, List.mem_cons_self, rfl, rfl⟩

theorem System.Recovers.neverStuck {self : System} (h : Recovers self.client self.responses self.frames) :
    NeverStuck self := by
  intro scope hawaits _ hconnected
  obtain ⟨request, hlast, hsubscribes⟩ | ⟨-, hanswer | ⟨response, hmem, -, hsubscribes⟩⟩ :=
    h.coming scope hawaits hconnected
  · exact .inl ⟨request, List.mem_of_getLast? hlast, hsubscribes⟩
  · refine .inr (.inr ?_)
    obtain ⟨before, answer, after, hframes, hinitial⟩ | ⟨rest, after, hframes, hrest⟩ := hanswer
    · obtain ⟨message, hmem, hfound⟩ := hinitial.exists_head
      rw [hframes]
      exact ⟨message, by simp only [List.mem_append, hmem, true_or, or_true], hfound⟩
    · cases rest with
      | nil =>
        obtain ⟨_, batches, -, -, hne, -, hmessages⟩ := hrest
        exact absurd (List.mapIdx_eq_nil_iff.mp hmessages.symm) hne
      | cons message rest =>
        obtain ⟨_, _, _, -, -, -, hmessage, -⟩ := hrest.cons
        rw [hframes]
        exact ⟨message, List.mem_cons_self, by rw [hmessage], by rw [hmessage]; rfl⟩
  · exact .inr (.inl ⟨response, hmem, hsubscribes⟩)

theorem recovers_start : Recovers WsAgentAdapter.start [] [] :=
  .of_reset rfl rfl (Option.some_ne_none _).symm fun _ hsome => absurd hsome.symm (Option.some_ne_none _)

/-- In a run on which no subscription fails, the adapter never waits for a full sync that nobody will send. -/
theorem never_stuck {computeHash : JsString → JsString} (events : List (SystemEvent computeHash))
    (hsucceeds : EveryStep System.step .start SubscriptionSucceeds events) :
    Always System.step .start NeverStuck events := by
  have hrecovers := always_of_everyStep
    (P := fun system : System => Recovers system.client system.responses system.frames)
    recovers_start
    (fun _ _ h hevent => System.Recovers.step h hevent) hsucceeds
  exact fun before hbefore => System.Recovers.neverStuck (hrecovers before hbefore)

end

/-- A session is opened, and the server refuses its subscription for another reason than a missing file. -/
def refusedSubscription : List (SystemEvent (List.cons 0x68)) :=
  [.connected, .client (.switchSession (js "a.jsonl") false),
    .serverRefuses 0 [] (js "EACCES: permission denied"), .responseArrives]

theorem not_always_neverStuck_refusedSubscription :
    ¬ ∀ (computeHash : JsString → JsString) (events : List (SystemEvent computeHash)),
      Always System.step .start NeverStuck events := by
  intro h
  have houtgoing : (run System.step .start refusedSubscription).client.transport.outgoing = [] := rfl
  have hresponses : (run System.step .start refusedSubscription).responses = [] := rfl
  have hframes : (run System.step .start refusedSubscription).frames = [] := rfl
  obtain ⟨request, hmem, -⟩ | ⟨response, hmem, -⟩ | ⟨message, hmem, -⟩ :=
    (h _ refusedSubscription).last { sessionPath := js "a.jsonl", sessionNonce := 1 }
      (by decide +kernel) (by decide +kernel) (by decide +kernel)
  · rw [houtgoing] at hmem
    cases hmem
  · rw [hresponses] at hmem
    cases hmem
  · rw [hframes] at hmem
    cases hmem

/-- A session is opened and its subscription is answered. -/
def answeredSubscription : List (SystemEvent (List.cons 0x68)) :=
  [.connected, .client (.switchSession (js "a.jsonl") false),
    .serverAnswers 0 ⟨js "a.jsonl", _, .full 1 (js "s") (0x68 :: js "s")⟩, .responseArrives]

/-- The snapshot is on its way while the adapter awaits it. -/
theorem never_stuck_answeredSubscription :
    (run System.step .start answeredSubscription).client.awaitingFullSync =
        some { sessionPath := js "a.jsonl", sessionNonce := 1 } ∧
      Always System.step .start NeverStuck answeredSubscription := by
  refine ⟨by decide +kernel, never_stuck _ ?_⟩
  have hsubscribed : (run System.step .start (answeredSubscription.take 2)).client.transport.outgoing =
      [{ id := 1, sessionNonce := 1, command := ⟨js "a.jsonl", none, none, false⟩ }] := rfl
  have hanswered : (run System.step .start (answeredSubscription.take 3)).responses.map SubscribeResponse.error =
      [none] := rfl
  rw [show answeredSubscription = ((([] ++ [_]) ++ [_]) ++ [_]) ++ [_] from rfl]
  simp only [everyStep_snoc]
  have hnamed : js "a.jsonl" ≠ [] := by decide
  refine ⟨⟨⟨⟨everyStep_nil, .inl rfl⟩, hnamed⟩, ?_⟩, ?_⟩
  · intro request scope houtgoing _ _
    have hrequest := List.singleton_inj.mp (hsubscribed.symm.trans houtgoing)
    rw [← hrequest]
    exact .inl rfl
  · intro response responses scope error hresponses _ herror
    have hnone := hanswered
    rw [show (run System.step .start (answeredSubscription.take 3)).responses = response :: responses from
      hresponses, List.map_cons, herror] at hnone
    cases hnone

end pipane.ws_agent_adapter

import Mathlib.Algebra.Order.BigOperators.Group.List
import Pipane.Client.WsAgentAdapter.SessionSync
import Pipane.Server.WsHandler.Agreement

open javascript json pipane.jsonl_sync pipane.session_jsonl pipane.ws_protocol
open pipane.ws_handler (makeInitialSessionSync makeContentBatches unknownMessages byteLength Distinguishes)

namespace pipane.ws_agent_adapter

section

variable (computeHash : JsString → JsString)

/-- A subscription names the state and the bodies that the adapter holds, and its map from hashes to bodies is
    consistent. -/
structure WsAgentAdapter.Declares (adapter : WsAgentAdapter) (command : SubscribeSession) : Prop where
  state : ∀ hash, command.cachedStateHash = some hash →
    adapter.syncJson ≠ [] ∧ adapter.syncHash = hash ∧ computeHash adapter.syncJson = hash
  objects : ∀ known, command.knownMessageHashes = some known → ∀ hash ∈ known,
    adapter.cachedMessageObjects.contains hash = true
  consistent : ∀ hash message, adapter.cachedMessageObjects.get? hash = some message →
    computeHash (stringify message) = hash

/-- `flushSessionSyncQueue` for a queue that it has taken, up to the computation of the hash. -/
def WsAgentAdapter.flushSessionSyncQueue (self : WsAgentAdapter) (batch : List ScopedSessionSync) : WsAgentAdapter :=
  { self with sessionSyncFlushInProgress := true, verification := none }.applySessionSyncBatch computeHash batch

/-- The text that a queue gives: the one that is verified and committed, or the base where nothing is to be
    applied. -/
def WsAgentAdapter.reconstruct (self : WsAgentAdapter) (batch : List ScopedSessionSync) : Option SyncResult :=
  match (self.flushSessionSyncQueue computeHash batch).verification with
  | some verification => verification.result
  | none =>
    some
      { data := (self.flushSessionSyncQueue computeHash batch).syncJson
        hash := (self.flushSessionSyncQueue computeHash batch).syncHash }

/-- The queue after the frames of an answer, which arrive in order. -/
def WsAgentAdapter.queueAfter (self : WsAgentAdapter) (messages : List SessionSyncMessage) : List ScopedSessionSync :=
  (messages.foldl WsAgentAdapter.handleSessionSync self).pendingSessionSyncs

/-- The manifest of a state and its unknown bodies in the given batches. -/
def segmentedAnswer (sessionPath : JsString) (state : SessionState) (revision : Nat) (transferId : JsString)
    (batches : List (List ContentAddressedMessage)) : List SessionSyncMessage :=
  { sessionPath
    revision
    op := .content_manifest (computeHash state.json) transferId
      (state.messages.map fun message => computeHash (stringify message)) state.metadata batches.length } ::
  batches.mapIdx fun batchIndex batch =>
    { sessionPath, revision, op := .content_batch (computeHash state.json) transferId batchIndex batch }

/-- What the server answers to a subscription, or its bodies in other batches. -/
def Answers (sessionPath : JsString) (state : SessionState) (revision : Nat) (command : SubscribeSession)
    (messages : List SessionSyncMessage) : Prop :=
  makeInitialSessionSync computeHash sessionPath state.json (computeHash state.json) revision command = .ok messages ∨
  ∃ known transferId batches, command.knownMessageHashes = some known ∧
    byteLength state.json ≤ MAX_SEGMENTED_SESSION_SYNC_BYTES ∧
    batches.flatten = unknownMessages computeHash known state.messages ∧
    messages = segmentedAnswer computeHash sessionPath state revision transferId batches

end

section

variable {computeHash : JsString → JsString}

theorem length_textEncode_append {s : JsString} (hs : WellFormed s) (t : JsString) :
    (textEncode (s ++ t)).length = (textEncode s).length + (textEncode t).length := by
  rw [textEncode_append_of_wellFormed hs, List.length_append]

theorem length_textEncode_le_cons {u : UInt16} (hu : u.toNat < 128) (t : JsString) :
    (textEncode t).length ≤ (textEncode (u :: t)).length := by
  have hunit : WellFormed [u] := wellFormed_ascii (by simpa using hu)
  have happend := length_textEncode_append hunit t
  rw [List.singleton_append] at happend
  omega

theorem messageBytes_le_items (items : List Value) (h : CanonicalItems items) :
    (items.map fun message => (textEncode (stringify message)).length).sum ≤
      (textEncode (stringifyItems items)).length := by
  induction items with
  | nil => exact Nat.zero_le _
  | cons item items ih =>
    cases items with
    | nil => rw [stringifyItems, List.map_singleton, List.sum_singleton]
    | cons next items =>
      have hrest := ih h.2
      rw [stringifyItems, List.map_cons, List.sum_cons, length_textEncode_append (wellFormed_stringify item h.1)]
      have hcomma := length_textEncode_le_cons (u := 0x2C) (by decide) (stringifyItems (next :: items))
      omega

theorem json_eq (state : SessionState) : ∃ front rest, (∀ u ∈ front, u.toNat < 128) ∧
    state.json = front ++ (stringifyItems state.messages ++ rest) := by
  obtain ⟨first, members, hmembers⟩ : ∃ first members, state.metadata = first :: members := ⟨_, _, rfl⟩
  refine ⟨0x7B :: (quote (js "messages") ++ [0x3A, 0x5B]), 0x5D :: 0x2C :: (stringifyMembers (first :: members) ++ [0x7D]),
    ascii_of_all (by decide), ?_⟩
  rw [SessionState.json, SessionState.value, hmembers]
  simp only [stringify, stringifyMembers, List.cons_append, List.append_assoc, List.nil_append]

theorem messageBytes_le_byteLength (state : SessionState) {bodies : List ContentAddressedMessage}
    (h : (bodies.map ContentAddressedMessage.message).Sublist state.messages) :
    messageBytes bodies ≤ byteLength state.json := by
  have hbodies : messageBytes bodies ≤ (state.messages.map fun message => (textEncode (stringify message)).length).sum := by
    have hsublist := h.map fun message => (textEncode (stringify message)).length
    rw [List.map_map] at hsublist
    exact hsublist.sum_le_sum fun bytes _ => Nat.zero_le bytes
  have hitems := messageBytes_le_items state.messages state.messages_canonical
  obtain ⟨front, rest, hfront, hjson⟩ := json_eq state
  rw [byteLength, hjson, length_textEncode_append (wellFormed_ascii hfront),
    length_textEncode_append (wellFormed_stringifyItems _ state.messages_canonical)]
  omega

theorem messageBytes_append (bodies more : List ContentAddressedMessage) :
    messageBytes (bodies ++ more) = messageBytes bodies + messageBytes more := by
  rw [messageBytes, List.map_append, List.sum_append, messageBytes, messageBytes]

/-- A manifest whose batches arrive in order queues its content as one frame, by induction on the batches to come. -/
theorem foldl_receiveBatches (pending : PendingSegmentedSessionSync) (adapter : WsAgentAdapter)
    (batches : List (List ContentAddressedMessage)) (hpending : adapter.pendingSegmentedSessionSync = some pending)
    (hselected : adapter.IsSelected pending.scope) (hne : batches ≠ [])
    (hcount : pending.batchCount = pending.nextBatchIndex + batches.length)
    (hbytes : pending.receivedBytes + messageBytes batches.flatten ≤ MAX_SEGMENTED_SESSION_SYNC_BYTES) :
    (batches.mapIdx fun i batch => SessionSyncMessage.mk pending.scope.sessionPath pending.revision
      (.content_batch pending.hash pending.transferId (pending.nextBatchIndex + i) batch)).foldl
        WsAgentAdapter.handleSessionSync adapter =
      { adapter with pendingSegmentedSessionSync := none }.enqueueSessionSync
        { message := ⟨pending.scope.sessionPath, pending.revision,
            .content pending.hash pending.messageHashes (pending.messages ++ batches.flatten) pending.state⟩
          scope := pending.scope } := by
  induction batches generalizing adapter pending with
  | nil => exact absurd rfl hne
  | cons batch batches ih =>
    rw [List.length_cons] at hcount
    rw [List.flatten_cons, messageBytes_append] at hbytes
    have hinOrder : ¬ (pending.scope.sessionPath ≠ pending.scope.sessionPath ∨ pending.revision ≠ pending.revision ∨
        pending.hash ≠ pending.hash ∨ pending.nextBatchIndex + 0 ≠ pending.nextBatchIndex ∨
        pending.batchCount ≤ pending.nextBatchIndex + 0) := by
      simp only [ne_eq, not_true_eq_false, false_or, Nat.add_zero]
      omega
    have hfits : ¬ MAX_SEGMENTED_SESSION_SYNC_BYTES < pending.receivedBytes + messageBytes batch := by omega
    obtain ⟨received, hreceived⟩ : ∃ received : PendingSegmentedSessionSync, received =
        { pending with
          receivedBytes := pending.receivedBytes + messageBytes batch
          messages := pending.messages ++ batch
          nextBatchIndex := pending.nextBatchIndex + 1 } := ⟨_, rfl⟩
    have hstep : adapter.handleSessionSync ⟨pending.scope.sessionPath, pending.revision,
          .content_batch pending.hash pending.transferId (pending.nextBatchIndex + 0) batch⟩ =
        if received.nextBatchIndex = received.batchCount then
          { adapter with pendingSegmentedSessionSync := some received }.completeSegmentedSessionSync
        else { adapter with pendingSegmentedSessionSync := some received } := by
      rw [WsAgentAdapter.handleSessionSync, if_neg (by rw [hselected.1]; simp)]
      simp only
      rw [WsAgentAdapter.receiveBatch, hpending]
      simp only
      rw [if_neg (by simp), if_neg hinOrder, if_neg hfits, hreceived]
    rw [List.mapIdx_cons, List.foldl_cons, hstep]
    by_cases hlast : batches = []
    · subst hlast
      rw [if_pos (by rw [hreceived]; simp only [hcount, List.length_nil]), WsAgentAdapter.completeSegmentedSessionSync]
      simp only [List.mapIdx_nil, List.foldl_nil, List.flatten_cons, List.flatten_nil, List.append_nil]
      rw [if_neg (by rw [hreceived]; exact not_not_intro hselected), hreceived]
    · have hmore : ¬ received.nextBatchIndex = received.batchCount := by
        have hpositive := List.length_pos_iff.mpr hlast
        rw [hreceived]
        simp only
        omega
      rw [if_neg hmore]
      have hall := ih received { adapter with pendingSegmentedSessionSync := some received } rfl
        (by rw [hreceived]; exact hselected) hlast (by rw [hreceived]; simp only; omega)
        (by rw [hreceived]; simp only; omega)
      rw [hreceived] at hall ⊢
      simp only [Nat.add_assoc, Nat.add_comm 1, List.append_assoc] at hall
      rw [List.flatten_cons]
      simpa only [Nat.add_assoc] using hall

theorem pendingSessionSyncs_enqueue (adapter : WsAgentAdapter) {syncMsg : ScopedSessionSync}
    (h : SessionSyncOp.isDelta syncMsg.message.op = false) :
    (adapter.enqueueSessionSync syncMsg).pendingSessionSyncs = [syncMsg] := by
  have hqueue : (adapter.queueSessionSync syncMsg).pendingSessionSyncs = [syncMsg] := by
    rw [WsAgentAdapter.queueSessionSync, if_neg (by simp [h])]
  rw [WsAgentAdapter.enqueueSessionSync, if_neg (by simp [h])]
  simp only
  split
  · exact hqueue
  · exact hqueue

theorem queueAfter_single {adapter : WsAgentAdapter} {sessionPath : JsString} (revision : Nat)
    (hpath : adapter.sessionPath = some sessionPath) {op : SessionSyncOp}
    (hop : (∃ hash, op = .not_modified hash) ∨ (∃ data hash, op = .sync (.full data hash)) ∨
      ∃ hash messageHashes messages state, op = .content hash messageHashes messages state) :
    adapter.queueAfter [⟨sessionPath, revision, op⟩] =
      [{ message := ⟨sessionPath, revision, op⟩, scope := adapter.scopeOf sessionPath }] := by
  have hpresent : ¬ adapter.sessionPath ≠ some sessionPath := not_not_intro hpath
  rw [WsAgentAdapter.queueAfter, List.foldl_cons, List.foldl_nil, WsAgentAdapter.handleSessionSync, if_neg hpresent]
  obtain ⟨hash, rfl⟩ | ⟨data, hash, rfl⟩ | ⟨hash, messageHashes, messages, state, rfl⟩ := hop
  · exact pendingSessionSyncs_enqueue adapter rfl
  · exact pendingSessionSyncs_enqueue adapter rfl
  · exact pendingSessionSyncs_enqueue adapter rfl

/-- A transfer in any batches queues the content frame with the same bodies. -/
theorem queueAfter_segmented {adapter : WsAgentAdapter} {sessionPath : JsString}
    (hpath : adapter.sessionPath = some sessionPath) (state : SessionState) (revision : Nat) (transferId : JsString)
    {known : List JsString} {batches : List (List ContentAddressedMessage)}
    (hsize : byteLength state.json ≤ MAX_SEGMENTED_SESSION_SYNC_BYTES)
    (hbatches : batches.flatten = unknownMessages computeHash known state.messages) :
    adapter.queueAfter (segmentedAnswer computeHash sessionPath state revision transferId batches) =
      [{ message := ⟨sessionPath, revision, .content (computeHash state.json)
          (state.messages.map fun message => computeHash (stringify message))
          (unknownMessages computeHash known state.messages) state.metadata⟩
         scope := adapter.scopeOf sessionPath }] := by
  have hpresent : ¬ adapter.sessionPath ≠ some sessionPath := not_not_intro hpath
  rw [WsAgentAdapter.queueAfter, segmentedAnswer, List.foldl_cons, WsAgentAdapter.handleSessionSync, if_neg hpresent]
  simp only [WsAgentAdapter.receiveManifest]
  by_cases hnone : batches = []
  · subst hnone
    rw [List.flatten_nil] at hbatches
    rw [List.length_nil, if_pos rfl, List.mapIdx_nil, List.foldl_nil, WsAgentAdapter.completeSegmentedSessionSync, ← hbatches]
    simp only
    rw [if_neg (not_not_intro ⟨hpath, rfl⟩)]
    exact pendingSessionSyncs_enqueue _ rfl
  · have hmany : batches.length ≠ 0 := fun hzero => hnone (List.length_eq_zero_iff.mp hzero)
    have hbytes := messageBytes_le_byteLength state (ws_handler.unknownMessages_sublist computeHash known state.messages)
    obtain ⟨pending, hpending⟩ : ∃ pending : PendingSegmentedSessionSync, pending =
        { scope := adapter.scopeOf sessionPath, revision, hash := computeHash state.json, transferId,
          messageHashes := state.messages.map fun message => computeHash (stringify message),
          state := state.metadata, batchCount := batches.length, nextBatchIndex := 0, receivedBytes := 0,
          messages := [] } := ⟨_, rfl⟩
    have hall := foldl_receiveBatches pending { adapter with pendingSegmentedSessionSync := some pending } batches rfl
      (by rw [hpending]; exact ⟨hpath, rfl⟩) hnone (by rw [hpending]; simp only; omega)
      (by rw [hpending, hbatches]; simp only; omega)
    rw [if_neg hmany, ← hpending]
    simp only [hpending, Nat.zero_add, WsAgentAdapter.scopeOf, List.nil_append] at hall ⊢
    rw [hall, hbatches]
    exact pendingSessionSyncs_enqueue _ rfl

/-- What an answer leaves in the queue. -/
theorem Answers.queueAfter {adapter : WsAgentAdapter} {sessionPath : JsString} {state : SessionState} {revision : Nat}
    {command : SubscribeSession} {messages : List SessionSyncMessage}
    (h : Answers computeHash sessionPath state revision command messages)
    (hpath : adapter.sessionPath = some sessionPath) :
    ∃ op, adapter.queueAfter messages = [{ message := ⟨sessionPath, revision, op⟩, scope := adapter.scopeOf sessionPath }] ∧
      ((op = .not_modified (computeHash state.json) ∧ command.cachedStateHash = some (computeHash state.json)) ∨
      op = .sync (.full state.json (computeHash state.json)) ∨
      ∃ known, command.knownMessageHashes = some known ∧ op = .content (computeHash state.json)
        (state.messages.map fun message => computeHash (stringify message))
        (unknownMessages computeHash known state.messages) state.metadata) := by
  obtain hanswer | ⟨known, transferId, batches, hknown, hsize, hbatches, rfl⟩ := h
  · rw [makeInitialSessionSync] at hanswer
    by_cases hcached : command.cachedStateHash = some (computeHash state.json)
    · rw [if_pos hcached] at hanswer
      cases hanswer
      exact ⟨_, queueAfter_single revision hpath (.inl ⟨_, rfl⟩), .inl ⟨rfl, hcached⟩⟩
    · rw [if_neg hcached] at hanswer
      cases hknown : command.knownMessageHashes with
      | none =>
        simp only [hknown] at hanswer
        cases hanswer
        exact ⟨_, queueAfter_single revision hpath (.inr (.inl ⟨_, _, rfl⟩)), .inr (.inl rfl)⟩
      | some known =>
        simp only [hknown, ws_handler.stateParts_json] at hanswer
        by_cases hsegmented : command.segmentedContent = true
        · rw [if_pos hsegmented] at hanswer
          by_cases hsize : MAX_SEGMENTED_SESSION_SYNC_BYTES < byteLength state.json
          · rw [if_pos hsize] at hanswer
            cases hanswer
          · rw [if_neg hsize] at hanswer
            generalize base36 revision ++ 0x2D :: (computeHash state.json).take 16 = transferId at hanswer
            cases hmake : makeContentBatches sessionPath revision (computeHash state.json) transferId
                (unknownMessages computeHash known state.messages) with
            | error error =>
              rw [hmake] at hanswer
              cases hanswer
            | ok sent =>
              rw [hmake] at hanswer
              cases hanswer
              obtain ⟨batches, hflatten, rfl⟩ := ws_handler.makeContentBatches_ok hmake
              rw [List.length_mapIdx]
              exact ⟨_, queueAfter_segmented hpath state revision transferId (Nat.not_lt.mp hsize) hflatten,
                .inr (.inr ⟨known, rfl, rfl⟩)⟩
        · rw [if_neg hsegmented] at hanswer
          cases hanswer
          exact ⟨_, queueAfter_single revision hpath (.inr (.inr ⟨_, _, _, _, rfl⟩)), .inr (.inr ⟨known, rfl, rfl⟩)⟩
  · exact ⟨_, queueAfter_segmented hpath state revision transferId hsize hbatches, .inr (.inr ⟨known, hknown, rfl⟩)⟩

/-- One message of the selected scope. -/
theorem applySessionSyncBatch_single (computeHash : JsString → JsString) (adapter : WsAgentAdapter)
    (syncMsg : ScopedSessionSync)
    (hselected : adapter.IsSelected syncMsg.scope) (hpath : syncMsg.scope.sessionPath ≠ [])
    (hdelta : SessionSyncOp.isDelta syncMsg.message.op = false) :
    adapter.applySessionSyncBatch computeHash [syncMsg] =
      match addSyncOp adapter.syncJson adapter.syncHash adapter.cachedMessageObjects ⟨[], none⟩ syncMsg.message.op with
      | none => (adapter.requestFullSessionSync syncMsg.scope.sessionPath true).finishFlush
      | some batch =>
        match batch.syncOps with
        | [] => { adapter with syncRevision := some syncMsg.message.revision }.finishFlush
        | op :: _ =>
          if SessionSyncOp.isDelta (.sync op) ∧ adapter.syncHash = [] then adapter.finishFlush
          else
            { adapter with
              verification := some
                { scope := syncMsg.scope, syncMessages := [syncMsg], nextRevision := some syncMsg.message.revision
                  contentInventory := batch.contentInventory
                  result := applySyncOps computeHash adapter.syncJson adapter.syncHash batch.syncOps } } := by
  have hscope : adapter.selected = syncMsg.scope := by
    rw [WsAgentAdapter.selected, WsAgentAdapter.scopeOf, hselected.1, hselected.2]
    rfl
  have hrevision : checkRevisions adapter.syncRevision [syncMsg] = .ok (some syncMsg.message.revision) := by
    rw [checkRevisions]
    split
    · rename_i hop
      rw [hop] at hdelta
      cases hdelta
    · rw [checkRevisions]
  rw [WsAgentAdapter.applySessionSyncBatch, if_neg, hscope, hrevision, hselected.1]
  · simp only [List.foldlM_cons, List.foldlM_nil, Option.getD_some]
    cases addSyncOp adapter.syncJson adapter.syncHash adapter.cachedMessageObjects ⟨[], none⟩ syncMsg.message.op <;> rfl
  · rw [hscope, hselected.1]
    simp [hpath]

theorem finishFlush_base (adapter : WsAgentAdapter) : adapter.finishFlush.verification = adapter.verification ∧
    adapter.finishFlush.syncJson = adapter.syncJson ∧ adapter.finishFlush.syncHash = adapter.syncHash := by
  rw [WsAgentAdapter.finishFlush]
  simp only
  split
  · exact ⟨rfl, rfl, rfl⟩
  · exact ⟨rfl, rfl, rfl⟩

theorem reconstruct_full {adapter : WsAgentAdapter} {syncMsg : ScopedSessionSync}
    (hselected : adapter.IsSelected syncMsg.scope) (hpath : syncMsg.scope.sessionPath ≠ [])
    (hdelta : SessionSyncOp.isDelta syncMsg.message.op = false) {data : JsString} {inventory : Option ContentInventory}
    (hop : addSyncOp adapter.syncJson adapter.syncHash adapter.cachedMessageObjects ⟨[], none⟩ syncMsg.message.op =
      some ⟨[.full data (computeHash data)], inventory⟩) :
    adapter.reconstruct computeHash [syncMsg] = some ⟨data, computeHash data⟩ := by
  have hflush := applySessionSyncBatch_single computeHash
    { adapter with sessionSyncFlushInProgress := true, verification := none } syncMsg hselected hpath hdelta
  simp only [hop, SessionSyncOp.isDelta, Bool.false_eq_true, false_and, if_false] at hflush
  rw [WsAgentAdapter.reconstruct, WsAgentAdapter.flushSessionSyncQueue, hflush]
  simp only [applySyncOps, chainSyncOps, List.cons_ne_nil, if_false, ne_eq, not_true_eq_false]

theorem reconstruct_not_modified {adapter : WsAgentAdapter} {sessionPath hash : JsString} {revision : Nat}
    {scope : Scope} (hselected : adapter.IsSelected scope) (hpath : scope.sessionPath ≠ [])
    (hjson : adapter.syncJson ≠ []) (hhash : adapter.syncHash = hash) :
    adapter.reconstruct computeHash [{ message := ⟨sessionPath, revision, .not_modified hash⟩, scope }] =
      some ⟨adapter.syncJson, hash⟩ := by
  have hflush := applySessionSyncBatch_single computeHash
    { adapter with sessionSyncFlushInProgress := true, verification := none }
    { message := ⟨sessionPath, revision, .not_modified hash⟩, scope } hselected hpath rfl
  have hheld : ¬ (adapter.syncJson = [] ∨ adapter.syncHash ≠ hash) := by
    rw [not_or]
    exact ⟨hjson, not_not_intro hhash⟩
  simp only [addSyncOp, if_neg hheld] at hflush
  have hbase := finishFlush_base
    { adapter with sessionSyncFlushInProgress := true, verification := none, syncRevision := some revision }
  rw [← hflush] at hbase
  obtain ⟨hverification, hsyncJson, hsyncHash⟩ := hbase
  rw [WsAgentAdapter.reconstruct, WsAgentAdapter.flushSessionSyncQueue, hverification]
  simp only
  rw [hsyncJson, hsyncHash, hhash]

/-- Whatever form the answer to a subscription takes, the client reconstructs the text that the full snapshot of the
    same state carries, and that text has the announced hash. -/
theorem initial_sync_text {adapter later : WsAgentAdapter} {sessionPath : JsString} (hpath : sessionPath ≠ [])
    (hsubscribed : adapter.sessionPath = some sessionPath) (hselected : later.IsSelected (adapter.scopeOf sessionPath))
    {command : SubscribeSession} (hdeclares : later.Declares computeHash command) (state : SessionState)
    (hdistinct : Distinguishes computeHash (state.json :: later.syncJson ::
      (state.messages ++ later.cachedMessageObjects.values).map stringify))
    {revision : Nat} {messages : List SessionSyncMessage}
    (hanswer : Answers computeHash sessionPath state revision command messages) :
    later.reconstruct computeHash (adapter.queueAfter messages) = some ⟨state.json, computeHash state.json⟩ ∧
    later.reconstruct computeHash (adapter.queueAfter messages) = later.reconstruct computeHash
      (adapter.queueAfter [⟨sessionPath, revision, .sync (.full state.json (computeHash state.json))⟩]) := by
  have hscope : (adapter.scopeOf sessionPath).sessionPath ≠ [] := hpath
  have hfull : later.reconstruct computeHash
      (adapter.queueAfter [⟨sessionPath, revision, .sync (.full state.json (computeHash state.json))⟩]) =
      some ⟨state.json, computeHash state.json⟩ := by
    rw [queueAfter_single revision hsubscribed (.inr (.inl ⟨_, _, rfl⟩))]
    exact reconstruct_full hselected hscope rfl rfl
  rw [hfull, and_self]
  obtain ⟨op, hqueue, hop⟩ := hanswer.queueAfter hsubscribed
  rw [hqueue]
  obtain ⟨rfl, hcached⟩ | rfl | ⟨known, hknown, rfl⟩ := hop
  · obtain ⟨hjson, hhash, hverified⟩ := hdeclares.state _ hcached
    have hsame : later.syncJson = state.json := hdistinct _ (by simp) _ (by simp) hverified
    rw [reconstruct_not_modified hselected hscope hjson hhash, hsame]
  · exact reconstruct_full hselected hscope rfl rfl
  · have hbodies : ∀ hash ∈ known, ∃ message, later.cachedMessageObjects.get? hash = some message ∧
        computeHash (stringify message) = hash := by
      intro hash hhash
      obtain ⟨message, hmessage⟩ := Option.isSome_iff_exists.mp (hdeclares.objects known hknown hash hhash)
      exact ⟨message, hmessage, hdeclares.consistent hash message hmessage⟩
    have hdata := ws_handler.contentData_eq ⟨none, later.cachedMessageObjects⟩ state
      (fun text htext other hother => hdistinct text (List.mem_cons_of_mem _ (List.mem_cons_of_mem _ htext)) other
        (List.mem_cons_of_mem _ (List.mem_cons_of_mem _ hother))) hbodies
    apply reconstruct_full hselected hscope rfl
    simp only [addSyncOp, materialize]
    rw [ws_handler.contentData] at hdata
    rw [hdata]
    rfl

end

/-- A session in which the user said the same thing twice. -/
def repeatedMessage : SessionState where
  __ := ws_handler.blankSession
  messages := [.obj [(js "role", .str (js "user"))], .obj [(js "role", .str (js "assistant"))],
    .obj [(js "role", .str (js "user"))]]
  messages_canonical := by simp [CanonicalItems, Value.Canonical, CanonicalMembers]

/-- A client that holds the answer of an earlier turn. -/
def resumingClient : WsAgentAdapter where
  __ := WsAgentAdapter.start
  sessionPath := some (js "a.jsonl")
  cachedMessageObjects := OrderedMap.empty.set (0x68 :: stringify (.obj [(js "role", .str (js "assistant"))]))
    (.obj [(js "role", .str (js "assistant"))])

def resumingSubscription : SubscribeSession where
  sessionPath := js "a.jsonl"
  cachedStateHash := none
  knownMessageHashes := some [0x68 :: stringify (.obj [(js "role", .str (js "assistant"))])]
  segmentedContent := true

theorem initial_sync_text_repeatedMessage :
    ∃ messages, makeInitialSessionSync (List.cons 0x68) (js "a.jsonl") repeatedMessage.json
        (0x68 :: repeatedMessage.json) 1 resumingSubscription = .ok messages ∧ messages.length = 2 ∧
      resumingClient.reconstruct (List.cons 0x68) (resumingClient.queueAfter messages) =
        some ⟨repeatedMessage.json, 0x68 :: repeatedMessage.json⟩ := by
  have hanswer : ((makeInitialSessionSync (List.cons 0x68) (js "a.jsonl") repeatedMessage.json
      (0x68 :: repeatedMessage.json) 1 resumingSubscription).toOption.map List.length) = some 2 := by decide +kernel
  cases hmake : makeInitialSessionSync (List.cons 0x68) (js "a.jsonl") repeatedMessage.json
      (0x68 :: repeatedMessage.json) 1 resumingSubscription with
  | error error =>
    rw [hmake] at hanswer
    cases hanswer
  | ok messages =>
    rw [hmake] at hanswer
    refine ⟨messages, rfl, Option.some.inj hanswer, ?_⟩
    have hdeclares : resumingClient.Declares (List.cons 0x68) resumingSubscription := by
      refine ⟨fun _ h => absurd h (by simp [resumingSubscription]), ?_, ?_⟩
      · intro known hknown hash hhash
        rw [resumingSubscription, Option.some.injEq] at hknown
        subst hknown
        rw [List.mem_singleton.mp hhash]
        decide +kernel
      · intro hash message hmessage
        rw [resumingClient, OrderedMap.get?_set] at hmessage
        split at hmessage
        · cases hmessage
          symm
          assumption
        · cases hmessage
    exact (initial_sync_text (by decide) rfl ⟨rfl, rfl⟩ hdeclares repeatedMessage
      (fun _ _ _ _ h => (List.cons.inj h).2) (.inl hmake)).1

end pipane.ws_agent_adapter

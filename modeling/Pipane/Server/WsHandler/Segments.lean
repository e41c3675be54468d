import Pipane.Lib.Json.ByteLength
import Pipane.Server.WsHandler.SyncBase
import Pipane.Shared.JsonlSync.Sha256
import Pipane.Shared.WsProtocol.ServerMessage

open javascript json pipane.data_channel_framing pipane.jsonl_sync pipane.session_jsonl pipane.ws_protocol

namespace pipane.ws_protocol

/-- The properties of a `session_sync` message that its operation has. -/
def SessionSyncOp.members : SessionSyncOp → List (JsString × Value)
  | .sync (.full data hash) =>
    [(js "op", .str (js "full")), (js "data", .str data), (js "hash", .str hash)]
  | .sync (.delta patches hash baseHash) =>
    [(js "op", .str (js "delta")), (js "patches", .arr (patches.map patchValue)), (js "hash", .str hash),
      (js "baseHash", .str baseHash)]
  | .not_modified hash => [(js "op", .str (js "not_modified")), (js "hash", .str hash)]
  | .content hash messageHashes messages state =>
    [(js "op", .str (js "content")), (js "hash", .str hash), (js "messageHashes", .arr (messageHashes.map .str)),
      (js "messages", .arr (messages.map ContentAddressedMessage.value)), (js "state", .obj state)]
  | .content_manifest hash transferId messageHashes state batchCount =>
    [(js "op", .str (js "content_manifest")), (js "hash", .str hash), (js "transferId", .str transferId),
      (js "messageHashes", .arr (messageHashes.map .str)), (js "state", .obj state),
      (js "batchCount", .num (.int batchCount))]
  | .content_batch hash transferId batchIndex messages =>
    [(js "op", .str (js "content_batch")), (js "hash", .str hash), (js "transferId", .str transferId),
      (js "batchIndex", .num (.int batchIndex)), (js "messages", .arr (messages.map ContentAddressedMessage.value))]

def SessionSyncMessage.payload (message : SessionSyncMessage) : List (JsString × Value) :=
  [(js "type", .str (js "session_sync")), (js "sessionPath", .str message.sessionPath),
    (js "revision", .num (.int message.revision))] ++ message.op.members

/-- The frame of a message. -/
def SessionSyncMessage.encode (message : SessionSyncMessage) : JsString :=
  encodeServerMessage message.payload

end pipane.ws_protocol

namespace pipane.ws_handler

/-- The size of the JSON text of a body with its hash. -/
def bodyBytes (message : ContentAddressedMessage) : Nat :=
  jsonBytes message.value

/-- What `makeContentBatches` counts for a batch beside its messages. -/
def envelopeBytes (sessionPath : JsString) (revision : Nat) (hash transferId : JsString) : Nat :=
  byteLength (encodeServerMessage (contentBatchPayload sessionPath revision hash transferId 0 [])) - 2

/-- How many batches messages of the given sizes make, after those that are full, where a batch of the given size is
    being filled or none is. -/
def batchesNeeded (envelopeBytes : Nat) : Option Nat → List Nat → Nat
  | none, [] => 0
  | some _, [] => 1
  | none, bytes :: rest => batchesNeeded envelopeBytes (some bytes) rest
  | some currentBytes, bytes :: rest =>
    if SESSION_SYNC_CONTENT_BATCH_TARGET_BYTES < envelopeBytes + currentBytes + bytes + 1 then
      batchesNeeded envelopeBytes (some bytes) rest + 1
    else batchesNeeded envelopeBytes (some (currentBytes + (bytes + 1))) rest

/-- The messages of a batch with the commas between them. -/
def packedBytes (batch : List ContentAddressedMessage) : Nat :=
  (batch.map bodyBytes).sum + (batch.length - 1)

theorem packedBytes_concat {batch : List ContentAddressedMessage} (hne : batch ≠ []) (message : ContentAddressedMessage) :
    packedBytes (batch ++ [message]) = packedBytes batch + (bodyBytes message + 1) := by
  have hlength := List.length_pos_iff.mpr hne
  simp only [packedBytes, List.map_append, List.sum_append, List.map_singleton, List.sum_singleton, List.length_append,
    List.length_singleton]
  omega

theorem packedBytes_singleton (message : ContentAddressedMessage) : packedBytes [message] = bodyBytes message := by
  rw [packedBytes, List.map_singleton, List.sum_singleton]
  rfl

/-- A batch is not empty and leaves a frame room for the rest of its envelope. -/
structure FitsFrame (envelopeBytes : Nat) (batch : List ContentAddressedMessage) : Prop where
  nonempty : batch ≠ []
  small : envelopeBytes + packedBytes batch ≤ MAX_DATA_CHANNEL_FRAME_BYTES - 1024

/-- The batch that is being filled, by its size. -/
def ContentBatches.open? (filled : ContentBatches) : Option Nat :=
  if filled.current = [] then none else some filled.currentBytes

/-- The loop of `makeContentBatches` keeps the size of the open batch and lets no batch outgrow a frame. -/
structure Packed (envelopeBytes : Nat) (filled : ContentBatches) : Prop where
  batches : ∀ batch ∈ filled.batches, FitsFrame envelopeBytes batch
  current : filled.current ≠ [] → FitsFrame envelopeBytes filled.current
  currentBytes : filled.currentBytes = packedBytes filled.current

theorem packed_start (envelopeBytes : Nat) :
    Packed envelopeBytes { batches := [], current := [], currentBytes := 0 } where
  batches _ h := absurd h List.not_mem_nil
  current h := absurd rfl h
  currentBytes := rfl

/-- What one message does: it opens the first batch, opens a new one, or goes into the open one. -/
theorem addToBatches_cases (envelopeBytes : Nat) (filled : ContentBatches) (message : ContentAddressedMessage) :
    (MAX_DATA_CHANNEL_FRAME_BYTES - 1024 < envelopeBytes + bodyBytes message ∧
      ∃ error, addToBatches envelopeBytes filled message = .error error) ∨
    (envelopeBytes + bodyBytes message ≤ MAX_DATA_CHANNEL_FRAME_BYTES - 1024 ∧
      ((filled.current = [] ∧ addToBatches envelopeBytes filled message =
          .ok { filled with current := [message], currentBytes := filled.currentBytes + bodyBytes message }) ∨
        (filled.current ≠ [] ∧ SESSION_SYNC_CONTENT_BATCH_TARGET_BYTES <
            envelopeBytes + filled.currentBytes + bodyBytes message + 1 ∧
          addToBatches envelopeBytes filled message =
            .ok { batches := filled.batches ++ [filled.current], current := [message], currentBytes := bodyBytes message }) ∨
        (filled.current ≠ [] ∧ envelopeBytes + filled.currentBytes + bodyBytes message + 1 ≤
            SESSION_SYNC_CONTENT_BATCH_TARGET_BYTES ∧
          addToBatches envelopeBytes filled message = .ok { filled with
            current := filled.current ++ [message]
            currentBytes := filled.currentBytes + (bodyBytes message + 1) }))) := by
  have hbytes : byteLength (stringify message.value) = bodyBytes message := rfl
  unfold addToBatches
  simp only [hbytes]
  by_cases hlarge : MAX_DATA_CHANNEL_FRAME_BYTES - 1024 < envelopeBytes + bodyBytes message
  · exact .inl ⟨hlarge, _, if_pos hlarge⟩
  · refine .inr ⟨not_lt.mp hlarge, ?_⟩
    rw [if_neg hlarge]
    by_cases hcurrent : filled.current = []
    · refine .inl ⟨hcurrent, ?_⟩
      have hstay : ¬ (filled.current ≠ [] ∧ SESSION_SYNC_CONTENT_BATCH_TARGET_BYTES <
          envelopeBytes + filled.currentBytes + bodyBytes message + if filled.current = [] then 0 else 1) :=
        fun h => h.1 hcurrent
      rw [if_neg hstay, if_pos hcurrent, hcurrent, List.nil_append, Nat.add_zero]
    · rw [if_neg hcurrent]
      by_cases hfull : SESSION_SYNC_CONTENT_BATCH_TARGET_BYTES <
          envelopeBytes + filled.currentBytes + bodyBytes message + 1
      · refine .inr (.inl ⟨hcurrent, hfull, ?_⟩)
        rw [if_pos ⟨hcurrent, hfull⟩]
        simp only [List.nil_append, if_true, Nat.zero_add, Nat.add_zero]
      · refine .inr (.inr ⟨hcurrent, not_lt.mp hfull, ?_⟩)
        rw [if_neg (fun h => hfull h.2), if_neg hcurrent]

theorem Packed.addToBatches {envelopeBytes : Nat} {filled next : ContentBatches} {message : ContentAddressedMessage}
    (h : Packed envelopeBytes filled) (hadd : addToBatches envelopeBytes filled message = .ok next) :
    Packed envelopeBytes next := by
  obtain ⟨-, error, herror⟩ | ⟨hsmall, ⟨hcurrent, hok⟩ | ⟨hcurrent, -, hok⟩ | ⟨hcurrent, hroom, hok⟩⟩ :=
    addToBatches_cases envelopeBytes filled message
  · rw [herror] at hadd
    cases hadd
  · rw [hok] at hadd
    cases hadd
    have hbytes : filled.currentBytes = 0 := by rw [h.currentBytes, hcurrent]; rfl
    refine ⟨h.batches, fun _ => ⟨List.cons_ne_nil _ _, ?_⟩, ?_⟩
    · rwa [packedBytes_singleton]
    · rw [packedBytes_singleton]
      simp only [hbytes, Nat.zero_add]
  · rw [hok] at hadd
    cases hadd
    refine ⟨fun batch hbatch => ?_, fun _ => ⟨List.cons_ne_nil _ _, ?_⟩, ?_⟩
    · obtain hold | hnew := List.mem_append.mp hbatch
      · exact h.batches batch hold
      · rw [List.mem_singleton.mp hnew]
        exact h.current hcurrent
    · rwa [packedBytes_singleton]
    · rw [packedBytes_singleton]
  · rw [hok] at hadd
    cases hadd
    refine ⟨h.batches, fun _ => ⟨List.append_ne_nil_of_right_ne_nil _ (List.cons_ne_nil _ _), ?_⟩, ?_⟩
    · have hlimit : SESSION_SYNC_CONTENT_BATCH_TARGET_BYTES ≤ MAX_DATA_CHANNEL_FRAME_BYTES - 1024 := by decide
      rw [packedBytes_concat hcurrent, ← h.currentBytes]
      omega
    · simp only [packedBytes_concat hcurrent, h.currentBytes]

/-- The batches with the one that is being filled. -/
def ContentBatches.all (filled : ContentBatches) : List (List ContentAddressedMessage) :=
  if filled.current = [] then filled.batches else filled.batches ++ [filled.current]

theorem Packed.all {envelopeBytes : Nat} {filled : ContentBatches} (h : Packed envelopeBytes filled) :
    ∀ batch ∈ filled.all, FitsFrame envelopeBytes batch := by
  intro batch hbatch
  unfold ContentBatches.all at hbatch
  split at hbatch
  · exact h.batches batch hbatch
  · rename_i hcurrent
    obtain hold | hnew := List.mem_append.mp hbatch
    · exact h.batches batch hold
    · rw [List.mem_singleton.mp hnew]
      exact h.current hcurrent

/-- A message that a batch takes changes nothing in how many batches the rest will have made. -/
theorem batchesNeeded_addToBatches {envelopeBytes : Nat} {filled next : ContentBatches}
    {message : ContentAddressedMessage} (h : Packed envelopeBytes filled)
    (hadd : addToBatches envelopeBytes filled message = .ok next) (rest : List Nat) :
    next.batches.length + batchesNeeded envelopeBytes next.open? rest =
      filled.batches.length + batchesNeeded envelopeBytes filled.open? (bodyBytes message :: rest) := by
  obtain ⟨-, error, herror⟩ | ⟨hsmall, ⟨hcurrent, hok⟩ | ⟨hcurrent, hfull, hok⟩ | ⟨hcurrent, hroom, hok⟩⟩ :=
    addToBatches_cases envelopeBytes filled message
  · rw [herror] at hadd
    cases hadd
  · rw [hok] at hadd
    cases hadd
    have hbytes : filled.currentBytes = 0 := by rw [h.currentBytes, hcurrent]; rfl
    rw [ContentBatches.open?, ContentBatches.open?, if_neg (List.cons_ne_nil _ _), if_pos hcurrent, batchesNeeded, hbytes,
      Nat.zero_add]
  · rw [hok] at hadd
    cases hadd
    rw [ContentBatches.open?, ContentBatches.open?, if_neg (List.cons_ne_nil _ _), if_neg hcurrent, batchesNeeded,
      if_pos hfull, List.length_append, List.length_singleton, Nat.add_assoc, Nat.add_comm 1]
  · rw [hok] at hadd
    cases hadd
    rw [ContentBatches.open?, ContentBatches.open?,
      if_neg (List.append_ne_nil_of_right_ne_nil _ (List.cons_ne_nil _ _)), if_neg hcurrent, batchesNeeded,
      if_neg (not_lt.mpr hroom)]

theorem length_all (envelopeBytes : Nat) (filled : ContentBatches) :
    filled.all.length = filled.batches.length + batchesNeeded envelopeBytes filled.open? [] := by
  unfold ContentBatches.all ContentBatches.open?
  split
  · rfl
  · rw [List.length_append]
    rfl

/-- The loop of `makeContentBatches` ends exactly where every message fits a frame, by induction on the messages. -/
theorem foldlM_addToBatches {envelopeBytes : Nat} (messages : List ContentAddressedMessage) {filled : ContentBatches}
    (h : Packed envelopeBytes filled) :
    ((∀ message ∈ messages, envelopeBytes + bodyBytes message ≤ MAX_DATA_CHANNEL_FRAME_BYTES - 1024) ∧
      ∃ result, messages.foldlM (addToBatches envelopeBytes) filled = .ok result ∧ Packed envelopeBytes result ∧
        result.all.length =
          filled.batches.length + batchesNeeded envelopeBytes filled.open? (messages.map bodyBytes)) ∨
    (¬ (∀ message ∈ messages, envelopeBytes + bodyBytes message ≤ MAX_DATA_CHANNEL_FRAME_BYTES - 1024) ∧
      ∃ error, messages.foldlM (addToBatches envelopeBytes) filled = .error error) := by
  induction messages generalizing filled with
  | nil => exact .inl ⟨fun _ hmem => absurd hmem List.not_mem_nil, filled, rfl, h, length_all envelopeBytes filled⟩
  | cons message messages ih =>
    rw [List.foldlM_cons]
    cases hadd : addToBatches envelopeBytes filled message with
    | error error =>
      refine .inr ⟨fun hall => ?_, error, rfl⟩
      obtain ⟨hlarge, -⟩ | ⟨-, ⟨-, hok⟩ | ⟨-, -, hok⟩ | ⟨-, -, hok⟩⟩ := addToBatches_cases envelopeBytes filled message
      · exact absurd (hall message List.mem_cons_self) (not_le.mpr hlarge)
      · rw [hok] at hadd
        cases hadd
      · rw [hok] at hadd
        cases hadd
      · rw [hok] at hadd
        cases hadd
    | ok next =>
      have hfits : envelopeBytes + bodyBytes message ≤ MAX_DATA_CHANNEL_FRAME_BYTES - 1024 := by
        obtain ⟨-, error, herror⟩ | ⟨hsmall, -⟩ := addToBatches_cases envelopeBytes filled message
        · rw [herror] at hadd
          cases hadd
        · exact hsmall
      obtain ⟨hall, result, hresult, hpacked, hlength⟩ | ⟨hsome, error, herror⟩ := ih (h.addToBatches hadd)
      · refine .inl ⟨fun other hother => ?_, result, hresult, hpacked, ?_⟩
        · obtain rfl | hrest := List.mem_cons.mp hother
          · exact hfits
          · exact hall other hrest
        · rw [hlength, batchesNeeded_addToBatches h hadd]
          rfl
      · exact .inr ⟨fun hall => hsome fun other hother => hall other (List.mem_cons_of_mem _ hother), error, herror⟩

/-- `makeContentBatches` refuses a body that is too large for a frame and too many batches, and nothing else. -/
structure Packable (envelopeBytes : Nat) (messages : List ContentAddressedMessage) : Prop where
  bodies : ∀ message ∈ messages, envelopeBytes + bodyBytes message ≤ MAX_DATA_CHANNEL_FRAME_BYTES - 1024
  batches : batchesNeeded envelopeBytes none (messages.map bodyBytes) ≤ MAX_SEGMENTED_SESSION_SYNC_BATCHES

section

variable {sessionPath hash transferId : JsString} {revision : Nat} {messages : List ContentAddressedMessage}

theorem makeContentBatches_packable
    (h : Packable (envelopeBytes sessionPath revision hash transferId) messages) :
    ∃ batches : List (List ContentAddressedMessage),
      makeContentBatches sessionPath revision hash transferId messages =
        .ok (batches.mapIdx fun i batch => ⟨sessionPath, revision, .content_batch hash transferId i batch⟩) ∧
      batches.flatten = messages ∧
      (∀ batch ∈ batches, FitsFrame (envelopeBytes sessionPath revision hash transferId) batch) ∧
      batches.length =
        batchesNeeded (envelopeBytes sessionPath revision hash transferId) none (messages.map bodyBytes) := by
  obtain ⟨-, result, hresult, hpacked, hlength⟩ | ⟨hsome, -⟩ :=
    foldlM_addToBatches messages (packed_start (envelopeBytes sessionPath revision hash transferId))
  · have hcount : result.all.length =
        batchesNeeded (envelopeBytes sessionPath revision hash transferId) none (messages.map bodyBytes) :=
      hlength.trans (Nat.zero_add _)
    refine ⟨result.all, ?_, ?_, hpacked.all, hcount⟩
    · have hfold := hresult
      rw [envelopeBytes] at hfold
      unfold makeContentBatches
      simp only [hfold]
      exact if_neg (not_lt.mpr (hcount.trans_le h.batches))
    · have hall := addToBatches_flatten messages _ result hresult
      rw [List.flatten_nil, List.append_nil, List.nil_append] at hall
      rw [← hall, ContentBatches.all]
      split
      · rename_i hempty
        rw [hempty, List.append_nil]
      · rw [List.flatten_append, List.flatten_cons, List.flatten_nil, List.append_nil]
  · exact absurd h.bodies hsome

theorem makeContentBatches_unpackable
    (h : ¬ Packable (envelopeBytes sessionPath revision hash transferId) messages) :
    ∃ error, makeContentBatches sessionPath revision hash transferId messages = .error error := by
  obtain ⟨hbodies, result, hresult, -, hlength⟩ | ⟨-, error, herror⟩ :=
    foldlM_addToBatches messages (packed_start (envelopeBytes sessionPath revision hash transferId))
  · have hcount : result.all.length =
        batchesNeeded (envelopeBytes sessionPath revision hash transferId) none (messages.map bodyBytes) :=
      hlength.trans (Nat.zero_add _)
    have hmany : MAX_SEGMENTED_SESSION_SYNC_BATCHES < result.all.length := by
      by_contra hfew
      exact h ⟨hbodies, hcount ▸ not_lt.mp hfew⟩
    rw [envelopeBytes] at hresult
    unfold makeContentBatches
    simp only [hresult]
    exact ⟨_, if_pos hmany⟩
  · rw [envelopeBytes] at herror
    unfold makeContentBatches
    simp only [herror]
    exact ⟨_, rfl⟩

end

section

variable (computeHashSync : JsString → JsString)

/-- The messages of a state that a client does not know, in the order of the manifest, each hash once. -/
def unknownBodies (known : List JsString) (messages : List Value) : List ContentAddressedMessage :=
  ((messages.map fun message => ⟨computeHashSync (stringify message), message⟩).filter
    fun body => body.hash ∉ known).eraseDupsBy fun body other => body.hash == other.hash

theorem unknownMessages_eq (known : List JsString) (messages : List Value) :
    unknownMessages computeHashSync known messages = unknownBodies computeHashSync known messages := by
  have hloop : ∀ (messages : List Value) (emitted : List ContentAddressedMessage),
      messages.foldl (fun emitted message =>
        let hash := computeHashSync (stringify message)
        if hash ∈ known ∨ hash ∈ emitted.map ContentAddressedMessage.hash then emitted
        else emitted ++ [⟨hash, message⟩]) emitted =
      emitted ++ ((messages.map fun message => ⟨computeHashSync (stringify message), message⟩).filter
        fun body => body.hash ∉ known ∧ body.hash ∉ emitted.map ContentAddressedMessage.hash).eraseDupsBy
          fun body other => body.hash == other.hash := by
    intro messages
    induction messages with
    | nil =>
      intro emitted
      rw [List.map_nil, List.filter_nil, List.eraseDupsBy_nil, List.append_nil, List.foldl_nil]
    | cons message messages ih =>
      intro emitted
      rw [List.foldl_cons, List.map_cons]
      by_cases hseen : computeHashSync (stringify message) ∈ known ∨
          computeHashSync (stringify message) ∈ emitted.map ContentAddressedMessage.hash
      · simp only [if_pos hseen]
        rw [ih emitted, List.filter_cons_of_neg]
        rw [decide_eq_true_eq, not_and_or, not_not, not_not]
        exact hseen
      · simp only [if_neg hseen]
        rw [ih, List.filter_cons_of_pos, List.eraseDupsBy_cons, List.append_assoc, List.singleton_append,
          List.filter_filter]
        · congr 3
          refine List.filter_congr fun body _ => ?_
          rw [← Bool.decide_and]
          refine decide_eq_decide.mpr ?_
          rw [List.map_append, List.map_singleton, List.mem_append, List.mem_singleton, beq_eq_false_iff_ne]
          tauto
        · rw [not_or] at hseen
          exact decide_eq_true hseen
  have hall := hloop messages []
  simp only [List.map_nil, List.not_mem_nil, not_false_eq_true, and_true, List.nil_append] at hall
  exact hall

end

section

variable {sessionPath hash transferId : JsString} {revision : Nat}

theorem byteLength_encodeServerMessage {payload : List (JsString × Value)}
    (h : (Value.obj ((js "protocolVersion", .num (.int WS_PROTOCOL_VERSION)) :: payload)).Canonical) :
    byteLength (encodeServerMessage payload) =
      1 + (memberBytes (js "protocolVersion", .num (.int WS_PROTOCOL_VERSION)) + (payload.map memberBytes).sum) := by
  change jsonBytes _ = _
  rw [jsonBytes_obj (List.cons_ne_nil _ _) h, List.map_cons, List.sum_cons]

theorem canonical_value {message : ContentAddressedMessage} (h : message.message.Canonical) :
    message.value.Canonical := by
  refine ⟨?_, trivial, h, trivial⟩
  change [js "hash", js "message"].Nodup
  decide

theorem itemsBytes_values (batch : List ContentAddressedMessage) :
    itemsBytes (batch.map ContentAddressedMessage.value) = packedBytes batch := by
  rw [itemsBytes, packedBytes, List.map_map, List.length_map]
  rfl

private def batchMembers (sessionPath : JsString) (revision : Nat) (hash transferId : JsString) (index : Nat)
    (items : List Value) : List (JsString × Value) :=
  [(js "type", .str (js "session_sync")), (js "sessionPath", .str sessionPath), (js "revision", .num (.int revision)),
    (js "op", .str (js "content_batch")), (js "hash", .str hash), (js "transferId", .str transferId),
    (js "batchIndex", .num (.int index)), (js "messages", .arr items)]

theorem byteLength_batchMembers (sessionPath : JsString) (revision : Nat) (hash transferId : JsString)
    {items : List Value} (index : Nat) (h : CanonicalItems items) :
    byteLength (encodeServerMessage (batchMembers sessionPath revision hash transferId index items)) + 1 =
      byteLength (encodeServerMessage (batchMembers sessionPath revision hash transferId 0 [])) +
        (decimal index).length + itemsBytes items := by
  have hkeys : [js "protocolVersion", js "type", js "sessionPath", js "revision", js "op", js "hash", js "transferId",
    js "batchIndex", js "messages"].Nodup := by decide
  have hcanonical : ∀ (index : Nat) (items : List Value), CanonicalItems items →
      (Value.obj ((js "protocolVersion", .num (.int WS_PROTOCOL_VERSION)) ::
        batchMembers sessionPath revision hash transferId index items)).Canonical := by
    intro index items hitems
    exact ⟨hkeys, trivial, trivial, trivial, trivial, trivial, trivial, trivial, trivial, hitems, trivial⟩
  have hzero : (decimal 0).length = 1 := by decide +kernel
  have hnone : jsonBytes (.arr []) = 2 := by decide +kernel
  have hindex : jsonBytes (.num (.int ((0 : Nat) : Int))) = (decimal 0).length := jsonBytes_natural 0
  rw [byteLength_encodeServerMessage (hcanonical index items h), byteLength_encodeServerMessage (hcanonical 0 [] trivial)]
  simp only [batchMembers, List.map_cons, List.map_nil, List.sum_cons, List.sum_nil, memberBytes]
  rw [jsonBytes_arr h, hnone, jsonBytes_natural index, hindex, hzero]
  omega

/-- The frame of a batch takes what `makeContentBatches` counts for it, two brackets and the digits of its index. -/
theorem byteLength_batch {batch : List ContentAddressedMessage} (index : Nat)
    (h : ∀ message ∈ batch, message.message.Canonical) :
    byteLength (SessionSyncMessage.mk sessionPath revision (.content_batch hash transferId index batch)).encode ≤
      envelopeBytes sessionPath revision hash transferId + packedBytes batch + 1 + (decimal index).length := by
  have hvalues : CanonicalItems (batch.map ContentAddressedMessage.value) := by
    refine canonicalItems_iff.mpr fun item hitem => ?_
    obtain ⟨message, hmessage, rfl⟩ := List.mem_map.mp hitem
    exact canonical_value (h message hmessage)
  have hsize := byteLength_batchMembers sessionPath revision hash transferId index hvalues
  rw [itemsBytes_values] at hsize
  change byteLength (encodeServerMessage (batchMembers sessionPath revision hash transferId index
    (batch.map ContentAddressedMessage.value))) ≤
      byteLength (encodeServerMessage (batchMembers sessionPath revision hash transferId 0 [])) - 2 + _ + 1 + _
  omega

theorem packedBytes_le_batch {batch : List ContentAddressedMessage} (index : Nat)
    (h : ∀ message ∈ batch, message.message.Canonical) : packedBytes batch ≤
      byteLength (SessionSyncMessage.mk sessionPath revision (.content_batch hash transferId index batch)).encode := by
  have hvalues : CanonicalItems (batch.map ContentAddressedMessage.value) := by
    refine canonicalItems_iff.mpr fun item hitem => ?_
    obtain ⟨message, hmessage, rfl⟩ := List.mem_map.mp hitem
    exact canonical_value (h message hmessage)
  have hsize := byteLength_batchMembers sessionPath revision hash transferId index hvalues
  have hdigits : 0 < (decimal index).length := List.length_pos_iff.mpr (decimal_ne_nil index)
  rw [itemsBytes_values] at hsize
  change _ ≤ byteLength (encodeServerMessage (batchMembers sessionPath revision hash transferId index
    (batch.map ContentAddressedMessage.value)))
  omega

private def manifestMembers (sessionPath : JsString) (revision : Nat) (hash transferId : JsString) (items : List Value)
    (state : List (JsString × Value)) (batchCount : Nat) : List (JsString × Value) :=
  [(js "type", .str (js "session_sync")), (js "sessionPath", .str sessionPath), (js "revision", .num (.int revision)),
    (js "op", .str (js "content_manifest")), (js "hash", .str hash), (js "transferId", .str transferId),
    (js "messageHashes", .arr items), (js "state", .obj state), (js "batchCount", .num (.int batchCount))]

/-- The size of a manifest: its envelope with the number of batches, the quoted hash of every message with the commas
    between them, and the other properties of the state. -/
def manifestBytes (sessionPath : JsString) (revision : Nat) (hash transferId : JsString) (messageHashes : List JsString)
    (state : List (JsString × Value)) (batchCount : Nat) : Nat :=
  byteLength (SessionSyncMessage.mk sessionPath revision (.content_manifest hash transferId [] [] batchCount)).encode +
    itemsBytes (messageHashes.map .str) + jsonBytes (.obj state) - 2

theorem byteLength_manifest {messageHashes : List JsString} {state : List (JsString × Value)} {batchCount : Nat}
    (h : (Value.obj state).Canonical) :
    byteLength (SessionSyncMessage.mk sessionPath revision
      (.content_manifest hash transferId messageHashes state batchCount)).encode =
        manifestBytes sessionPath revision hash transferId messageHashes state batchCount := by
  have hkeys : [js "protocolVersion", js "type", js "sessionPath", js "revision", js "op", js "hash", js "transferId",
    js "messageHashes", js "state", js "batchCount"].Nodup := by decide
  have hcanonical : ∀ (items : List Value) (state : List (JsString × Value)), CanonicalItems items →
      (Value.obj state).Canonical → (Value.obj ((js "protocolVersion", .num (.int WS_PROTOCOL_VERSION)) ::
        manifestMembers sessionPath revision hash transferId items state batchCount)).Canonical := by
    intro items state hitems hstate
    exact ⟨hkeys, trivial, trivial, trivial, trivial, trivial, trivial, trivial, hitems, hstate, trivial, trivial⟩
  have hhashes := canonicalItems_strings messageHashes
  have hnone : jsonBytes (.arr []) = 2 := by decide +kernel
  have hbare : jsonBytes (.obj []) = 2 := by decide +kernel
  change byteLength (encodeServerMessage (manifestMembers sessionPath revision hash transferId
    (messageHashes.map .str) state batchCount)) =
      byteLength (encodeServerMessage (manifestMembers sessionPath revision hash transferId [] [] batchCount)) + _ + _ - 2
  rw [byteLength_encodeServerMessage (hcanonical _ state hhashes h),
    byteLength_encodeServerMessage (hcanonical [] [] trivial ⟨List.nodup_nil, trivial⟩)]
  simp only [manifestMembers, List.map_cons, List.map_nil, List.sum_cons, List.sum_nil, memberBytes]
  rw [jsonBytes_arr hhashes, hnone, hbare]
  omega

end

section

variable (computeHashSync : JsString → JsString)

/-- The messages of a batch. -/
def batchMessages : SessionSyncOp → Option (List ContentAddressedMessage)
  | .content_batch _ _ _ messages => some messages
  | .sync _ | .not_modified _ | .content .. | .content_manifest .. => none

def batchesOf (payloads : List SessionSyncMessage) : List (List ContentAddressedMessage) :=
  payloads.filterMap fun payload => batchMessages payload.op

/-- Every frame of a segmented answer can be carried, and its batches are the unknown messages in order. -/
structure Bounded (known : List JsString) (messages : List Value) (payloads : List SessionSyncMessage) : Prop where
  frames : ∀ payload ∈ payloads, byteLength payload.encode ≤ MAX_DATA_CHANNEL_FRAME_BYTES
  nonempty : ∀ batch ∈ batchesOf payloads, batch ≠ []
  concatenation : (batchesOf payloads).flatten = unknownBodies computeHashSync known messages
  count : (batchesOf payloads).length ≤ MAX_SEGMENTED_SESSION_SYNC_BATCHES

def transferIdOf (revision : Nat) (hash : JsString) : JsString :=
  base36 revision ++ 0x2D :: hash.take 16

/-- What a state of the given messages and other properties is sent as. -/
def stateManifestBytes (sessionPath : JsString) (revision : Nat) (hash : JsString) (known : List JsString)
    (state : SessionState) : Nat :=
  manifestBytes sessionPath revision hash (transferIdOf revision hash)
    (state.messages.map fun message => computeHashSync (stringify message)) state.metadata
    (batchesNeeded (envelopeBytes sessionPath revision hash (transferIdOf revision hash)) none
      ((unknownBodies computeHashSync known state.messages).map bodyBytes))

/-- What a segmented subscription is refused for. -/
structure Sendable (sessionPath : JsString) (revision : Nat) (hash : JsString) (known : List JsString)
    (state : SessionState) : Prop where
  size : byteLength state.json ≤ MAX_SEGMENTED_SESSION_SYNC_BYTES
  bodies : Packable (envelopeBytes sessionPath revision hash (transferIdOf revision hash))
    (unknownBodies computeHashSync known state.messages)

end

section

variable {computeHashSync : JsString → JsString} {sessionPath hash : JsString} {revision : Nat} {state : SessionState}
  {command : SubscribeSession} {known : List JsString}

/-- The manifest of a state and its batches. -/
def segments (computeHashSync : JsString → JsString) (sessionPath : JsString) (revision : Nat) (hash : JsString)
    (state : SessionState) (batches : List (List ContentAddressedMessage)) : List SessionSyncMessage :=
  ⟨sessionPath, revision, .content_manifest hash (transferIdOf revision hash)
    (state.messages.map fun message => computeHashSync (stringify message)) state.metadata batches.length⟩ ::
  batches.mapIdx fun i batch => ⟨sessionPath, revision, .content_batch hash (transferIdOf revision hash) i batch⟩

theorem batchesOf_segments (batches : List (List ContentAddressedMessage)) :
    batchesOf (segments computeHashSync sessionPath revision hash state batches) = batches := by
  rw [segments, batchesOf, List.filterMap_cons_none rfl, List.mapIdx_eq_zipIdx_map, List.filterMap_map]
  have hsome : ((fun payload : SessionSyncMessage => batchMessages payload.op) ∘
      fun entry : List ContentAddressedMessage × Nat => (⟨sessionPath, revision,
        .content_batch hash (transferIdOf revision hash) entry.2 entry.1⟩ : SessionSyncMessage)) =
      fun entry => some entry.1 := rfl
  rw [hsome, List.filterMap_eq_map', List.zipIdx_map_fst]

/-- A segmented subscription is answered with segments where nothing is refused. -/
theorem makeInitialSessionSync_sendable (hstale : command.cachedStateHash ≠ some hash)
    (hknown : command.knownMessageHashes = some known) (hsegmented : command.segmentedContent = true)
    (h : Sendable computeHashSync sessionPath revision hash known state) :
    ∃ batches : List (List ContentAddressedMessage),
      makeInitialSessionSync computeHashSync sessionPath state.json hash revision command =
        .ok (segments computeHashSync sessionPath revision hash state batches) ∧
      batches.flatten = unknownBodies computeHashSync known state.messages ∧
      (∀ batch ∈ batches,
        FitsFrame (envelopeBytes sessionPath revision hash (transferIdOf revision hash)) batch) ∧
      batches.length = batchesNeeded (envelopeBytes sessionPath revision hash (transferIdOf revision hash)) none
        ((unknownBodies computeHashSync known state.messages).map bodyBytes) := by
  obtain ⟨batches, hmake, hflatten, hfits, hlength⟩ := makeContentBatches_packable h.bodies
  refine ⟨batches, ?_, hflatten, hfits, hlength⟩
  rw [makeInitialSessionSync, if_neg hstale]
  simp only [hknown, stateParts_json]
  rw [if_pos hsegmented, if_neg (not_lt.mpr h.size), unknownMessages_eq]
  rw [transferIdOf] at hmake
  simp only [hmake]
  rw [segments, List.length_mapIdx]
  rfl

theorem makeInitialSessionSync_refused (hstale : command.cachedStateHash ≠ some hash)
    (hknown : command.knownMessageHashes = some known) (hsegmented : command.segmentedContent = true)
    (h : ¬ Sendable computeHashSync sessionPath revision hash known state) :
    ∃ error, makeInitialSessionSync computeHashSync sessionPath state.json hash revision command = .error error := by
  rw [makeInitialSessionSync, if_neg hstale]
  simp only [hknown, stateParts_json]
  rw [if_pos hsegmented, unknownMessages_eq]
  by_cases hstate : byteLength state.json ≤ MAX_SEGMENTED_SESSION_SYNC_BYTES
  · rw [if_neg (not_lt.mpr hstate)]
    obtain ⟨error, hmake⟩ := makeContentBatches_unpackable fun hbodies => h ⟨hstate, hbodies⟩
    rw [transferIdOf] at hmake
    simp only [hmake]
    exact ⟨error, rfl⟩
  · exact ⟨_, if_pos (not_le.mp hstate)⟩

theorem mem_unknownBodies {body : ContentAddressedMessage} {messages : List Value}
    (h : body ∈ unknownBodies computeHashSync known messages) : body.message ∈ messages := by
  have hsublist := unknownMessages_sublist computeHashSync known messages
  rw [unknownMessages_eq] at hsublist
  exact hsublist.subset (List.mem_map_of_mem h)

theorem byteLength_of_mem_batches {transferId : JsString} {batches : List (List ContentAddressedMessage)}
    (hcanonical : ∀ message ∈ batches.flatten, message.message.Canonical)
    (hfits : ∀ batch ∈ batches, FitsFrame (envelopeBytes sessionPath revision hash transferId) batch)
    (hcount : batches.length ≤ MAX_SEGMENTED_SESSION_SYNC_BATCHES) {payload : SessionSyncMessage}
    (h : payload ∈ batches.mapIdx fun i batch => ⟨sessionPath, revision, .content_batch hash transferId i batch⟩) :
    byteLength payload.encode ≤ MAX_DATA_CHANNEL_FRAME_BYTES := by
  obtain ⟨index, hindex, rfl⟩ := List.mem_mapIdx.mp h
  have hmem : batches[index] ∈ batches := List.getElem_mem hindex
  have hsmall := (hfits _ hmem).small
  have hdigits : (decimal index).length ≤ 3 + 1 := by
    refine length_decimal_le ?_
    rw [MAX_SEGMENTED_SESSION_SYNC_BATCHES] at hcount
    omega
  have hroom : MAX_DATA_CHANNEL_FRAME_BYTES - 1024 + 5 ≤ MAX_DATA_CHANNEL_FRAME_BYTES := by decide
  refine (byteLength_batch index fun message hmessage => ?_).trans (by omega)
  exact hcanonical message (List.mem_flatten_of_mem hmem hmessage)

/-- Of the frames of an answer, only the manifest can be too large for the carrier. -/
theorem frames_segments_iff {batches : List (List ContentAddressedMessage)}
    (hsendable : Sendable computeHashSync sessionPath revision hash known state)
    (hflatten : batches.flatten = unknownBodies computeHashSync known state.messages)
    (hfits : ∀ batch ∈ batches, FitsFrame (envelopeBytes sessionPath revision hash (transferIdOf revision hash)) batch)
    (hlength : batches.length = batchesNeeded (envelopeBytes sessionPath revision hash (transferIdOf revision hash)) none
      ((unknownBodies computeHashSync known state.messages).map bodyBytes)) :
    (∀ payload ∈ segments computeHashSync sessionPath revision hash state batches,
        byteLength payload.encode ≤ MAX_DATA_CHANNEL_FRAME_BYTES) ↔
      stateManifestBytes computeHashSync sessionPath revision hash known state ≤ MAX_DATA_CHANNEL_FRAME_BYTES := by
  have hmetadata : (Value.obj state.metadata).Canonical :=
    ⟨(List.nodup_cons.mp state.value_canonical.1).2, state.value_canonical.2.2⟩
  have hmanifest : byteLength (SessionSyncMessage.mk sessionPath revision (.content_manifest hash
      (transferIdOf revision hash) (state.messages.map fun message => computeHashSync (stringify message))
      state.metadata batches.length)).encode =
        stateManifestBytes computeHashSync sessionPath revision hash known state := by
    rw [byteLength_manifest hmetadata, hlength]
    rfl
  constructor
  · intro hframes
    rw [← hmanifest]
    exact hframes _ List.mem_cons_self
  · intro hfit payload hpayload
    obtain rfl | hbatch := List.mem_cons.mp hpayload
    · rw [hmanifest]
      exact hfit
    · refine byteLength_of_mem_batches (fun message hmessage => ?_) hfits (hlength ▸ hsendable.bodies.batches) hbatch
      rw [hflatten] at hmessage
      exact canonicalItems_iff.mp state.messages_canonical _ (mem_unknownBodies hmessage)

theorem bounded_segments_iff {batches : List (List ContentAddressedMessage)}
    (hsendable : Sendable computeHashSync sessionPath revision hash known state)
    (hflatten : batches.flatten = unknownBodies computeHashSync known state.messages)
    (hfits : ∀ batch ∈ batches, FitsFrame (envelopeBytes sessionPath revision hash (transferIdOf revision hash)) batch)
    (hlength : batches.length = batchesNeeded (envelopeBytes sessionPath revision hash (transferIdOf revision hash)) none
      ((unknownBodies computeHashSync known state.messages).map bodyBytes)) :
    Bounded computeHashSync known state.messages
        (segments computeHashSync sessionPath revision hash state batches) ↔
      stateManifestBytes computeHashSync sessionPath revision hash known state ≤ MAX_DATA_CHANNEL_FRAME_BYTES := by
  have hframes := frames_segments_iff hsendable hflatten hfits hlength
  constructor
  · intro hbounded
    exact hframes.mp hbounded.frames
  · intro hfit
    refine ⟨hframes.mpr hfit, ?_, ?_, ?_⟩
    · rw [batchesOf_segments]
      exact fun batch hbatch => (hfits batch hbatch).nonempty
    · rw [batchesOf_segments, hflatten]
    · rw [batchesOf_segments]
      exact hlength ▸ hsendable.bodies.batches

theorem makeInitialSessionSync_single (hstale : command.cachedStateHash ≠ some hash)
    (hknown : command.knownMessageHashes = some known) (hsegmented : command.segmentedContent = true)
    (h : Sendable computeHashSync sessionPath revision hash known state) {body : ContentAddressedMessage}
    (hunknown : unknownBodies computeHashSync known state.messages = [body]) :
    makeInitialSessionSync computeHashSync sessionPath state.json hash revision command =
      .ok (segments computeHashSync sessionPath revision hash state [[body]]) := by
  obtain ⟨batches, hmake, hflatten, -, hlength⟩ := makeInitialSessionSync_sendable hstale hknown hsegmented h
  rw [hunknown] at hflatten hlength
  obtain ⟨batch, rfl⟩ := List.length_eq_one_iff.mp (hlength.trans rfl)
  rw [List.flatten_singleton] at hflatten
  rw [hmake, hflatten]

theorem sendable_of_ok (hstale : command.cachedStateHash ≠ some hash)
    (hknown : command.knownMessageHashes = some known) (hsegmented : command.segmentedContent = true)
    {payloads : List SessionSyncMessage}
    (h : makeInitialSessionSync computeHashSync sessionPath state.json hash revision command = .ok payloads) :
    Sendable computeHashSync sessionPath revision hash known state := by
  by_contra hrefused
  obtain ⟨error, herror⟩ := makeInitialSessionSync_refused hstale hknown hsegmented hrefused
  rw [herror] at h
  cases h

/-- Of the frames of an answer that was made, only the manifest can be too large for the carrier. -/
theorem segmented_sync_bounds_iff (hstale : command.cachedStateHash ≠ some (computeHashSync state.json))
    (hknown : command.knownMessageHashes = some known) (hsegmented : command.segmentedContent = true)
    {payloads : List SessionSyncMessage}
    (h : makeInitialSessionSync computeHashSync sessionPath state.json (computeHashSync state.json) revision command =
      .ok payloads) :
    Bounded computeHashSync known state.messages payloads ↔
      stateManifestBytes computeHashSync sessionPath revision (computeHashSync state.json) known state ≤
        MAX_DATA_CHANNEL_FRAME_BYTES := by
  have hsendable := sendable_of_ok hstale hknown hsegmented h
  obtain ⟨batches, hmake, hflatten, hfits, hlength⟩ :=
    makeInitialSessionSync_sendable hstale hknown hsegmented hsendable
  rw [hmake] at h
  cases h
  exact bounded_segments_iff hsendable hflatten hfits hlength

end

theorem jsonBytes_plain {s : JsString} (h : ∀ u ∈ s, IsPlainUnit u) : jsonBytes (.str s) = s.length + 2 := by
  have hquoted : ∀ u ∈ quote s, u.toNat < 128 := by
    intro u hu
    rw [quote, quoteUnits_plain h] at hu
    obtain rfl | hrest := List.mem_cons.mp hu
    · decide
    · obtain hmem | hlast := List.mem_append.mp hrest
      · exact (h u hmem).2.1
      · rw [List.mem_singleton.mp hlast]
        decide
  rw [jsonBytes, stringify, length_textEncode_ascii hquoted, quote, quoteUnits_plain h, List.length_cons,
    List.length_append, List.length_singleton]

theorem isPlainUnit_hexDigit {u : UInt16} (h : ∃ d < 16, u = jsonl_sync.hexDigit d) : IsPlainUnit u := by
  obtain ⟨d, hd, rfl⟩ := h
  revert d
  unfold IsPlainUnit
  decide

theorem jsonBytes_sha256js (text : JsString) : jsonBytes (.str (sha256js text)) = 66 := by
  rw [jsonBytes_plain fun u hu => isPlainUnit_hexDigit (mem_sha256js hu), length_sha256js]

def shortMessage : Value :=
  .obj [(js "role", .str (js "user")), (js "content", .str (js "a"))]

/-- A session of many equal short messages. -/
def crowdedState (count : Nat) : SessionState where
  messages := List.replicate count shortMessage
  isStreaming := false
  pendingToolCalls := []
  toolCallTimings := .obj []
  model := none
  thinkingLevel := js "off"
  steeringQueue := []
  error := none
  messages_canonical := by
    refine canonicalItems_iff.mpr fun item hitem => ?_
    rw [List.eq_of_mem_replicate hitem]
    refine ⟨?_, trivial, trivial, trivial⟩
    change [js "role", js "content"].Nodup
    decide
  timings_canonical := canonical_emptyObject

/-- A segmented subscription of a client that knows nothing. -/
def segmentedSubscription : SubscribeSession where
  sessionPath := js "/sessions/a.jsonl"
  cachedStateHash := none
  knownMessageHashes := some []
  segmentedContent := true

theorem unknownBodies_crowded (count : Nat) :
    unknownBodies sha256js [] (crowdedState (count + 1)).messages =
      [⟨sha256js (stringify shortMessage), shortMessage⟩] := by
  have hsame : ∀ body ∈ List.replicate count (ContentAddressedMessage.mk (sha256js (stringify shortMessage)) shortMessage),
      ¬ decide ((body.hash == sha256js (stringify shortMessage)) = false) = true := by
    intro body hbody
    rw [List.eq_of_mem_replicate hbody]
    simp
  rw [unknownBodies, crowdedState, List.map_replicate, List.filter_eq_self.mpr (fun body _ => by simp),
    List.replicate_succ, List.eraseDupsBy_cons, List.filter_eq_nil_iff.mpr hsame, List.eraseDupsBy_nil]

theorem itemsBytes_replicate (count : Nat) (item : Value) :
    itemsBytes (List.replicate (count + 1) item) = (count + 1) * jsonBytes item + count := by
  rw [itemsBytes, List.map_replicate, List.sum_replicate_nat, List.length_replicate, Nat.add_sub_cancel]

theorem byteLength_crowded (count : Nat) : 30 * count ≤ byteLength (crowdedState (count + 1)).json ∧
    byteLength (crowdedState (count + 1)).json ≤ 32 * count + 300 := by
  have hmessage : jsonBytes shortMessage = 29 := by decide +kernel
  have hrest : ((crowdedState (count + 1)).metadata.map memberBytes).sum ≤ 200 := by
    change ((crowdedState 0).metadata.map memberBytes).sum ≤ 200
    decide +kernel
  have hkey : jsonBytes (.str (js "messages")) = 10 := by decide +kernel
  change 30 * count ≤ jsonBytes (crowdedState (count + 1)).value ∧ jsonBytes (crowdedState (count + 1)).value ≤ _
  rw [SessionState.value, jsonBytes_obj (List.cons_ne_nil _ _) (crowdedState (count + 1)).value_canonical, List.map_cons,
    List.sum_cons, memberBytes, hkey, jsonBytes_arr (crowdedState (count + 1)).messages_canonical]
  have hitems : itemsBytes (crowdedState (count + 1)).messages = _ := itemsBytes_replicate count shortMessage
  rw [hitems, hmessage]
  omega

theorem bodyBytes_sha256js {message : Value} (text : JsString) (h : message.Canonical) :
    bodyBytes ⟨sha256js text, message⟩ = jsonBytes message + 86 := by
  have hcanonical : (ContentAddressedMessage.mk (sha256js text) message).value.Canonical := canonical_value h
  have hkey : jsonBytes (.str (js "hash")) = 6 := by decide +kernel
  have hother : jsonBytes (.str (js "message")) = 9 := by decide +kernel
  rw [ContentAddressedMessage.value] at hcanonical
  rw [bodyBytes, ContentAddressedMessage.value, jsonBytes_obj (List.cons_ne_nil _ _) hcanonical]
  simp only [List.map_cons, List.map_nil, List.sum_cons, List.sum_nil, memberBytes, jsonBytes_sha256js, hkey, hother]
  omega

theorem jsonBytes_transferIdOf (text : JsString) : jsonBytes (.str (transferIdOf 1 (sha256js text))) = 20 := by
  have hrevision : base36 1 = [0x31] := by decide +kernel
  have hplain : ∀ u ∈ transferIdOf 1 (sha256js text), IsPlainUnit u := by
    intro u hu
    rw [transferIdOf, hrevision, List.singleton_append] at hu
    obtain rfl | hrest := List.mem_cons.mp hu
    · unfold IsPlainUnit
      decide
    · obtain rfl | hdigit := List.mem_cons.mp hrest
      · unfold IsPlainUnit
        decide
      · exact isPlainUnit_hexDigit (mem_sha256js (List.mem_of_mem_take hdigit))
  rw [jsonBytes_plain hplain, transferIdOf, hrevision, List.singleton_append, List.length_cons, List.length_cons,
    List.length_take, length_sha256js]
  rfl

theorem envelopeBytes_sha256js_le (text : JsString) :
    envelopeBytes (js "/sessions/a.jsonl") 1 (sha256js text) (transferIdOf 1 (sha256js text)) ≤ 400 := by
  have hcanonical : (Value.obj ((js "protocolVersion", .num (.int WS_PROTOCOL_VERSION)) :: batchMembers
      (js "/sessions/a.jsonl") 1 (sha256js text) (transferIdOf 1 (sha256js text)) 0 [])).Canonical := by
    refine ⟨?_, trivial, trivial, trivial, trivial, trivial, trivial, trivial, trivial, trivial, trivial⟩
    change [js "protocolVersion", js "type", js "sessionPath", js "revision", js "op", js "hash", js "transferId",
      js "batchIndex", js "messages"].Nodup
    decide
  have hkeys : memberBytes (js "protocolVersion", .num (.int WS_PROTOCOL_VERSION)) +
      ([(js "type", Value.str (js "session_sync")), (js "sessionPath", .str (js "/sessions/a.jsonl")),
        (js "revision", .num (.int 1)), (js "op", .str (js "content_batch")), (js "hash", .null),
        (js "transferId", .null), (js "batchIndex", .num (.int 0)), (js "messages", .arr [])].map memberBytes).sum ≤
        300 := by decide +kernel
  change byteLength (encodeServerMessage (batchMembers (js "/sessions/a.jsonl") 1 (sha256js text)
    (transferIdOf 1 (sha256js text)) 0 [])) - 2 ≤ 400
  rw [byteLength_encodeServerMessage hcanonical]
  simp only [batchMembers, List.map_cons, List.map_nil, List.sum_cons, List.sum_nil, memberBytes, jsonBytes_sha256js,
    jsonBytes_transferIdOf] at hkeys ⊢
  simp only [Nat.cast_one, Nat.cast_zero] at hkeys ⊢
  omega

theorem sendable_crowded (count : Nat) (hcount : count ≤ 4000000) :
    Sendable sha256js (js "/sessions/a.jsonl") 1 (sha256js (crowdedState (count + 1)).json) []
      (crowdedState (count + 1)) := by
  refine ⟨?_, ?_⟩
  · have hsize := (byteLength_crowded count).2
    rw [MAX_SEGMENTED_SESSION_SYNC_BYTES]
    omega
  · rw [unknownBodies_crowded]
    refine ⟨fun message hmessage => ?_, ?_⟩
    · have henvelope := envelopeBytes_sha256js_le (crowdedState (count + 1)).json
      have hshort : jsonBytes shortMessage = 29 := by decide +kernel
      rw [List.mem_singleton.mp hmessage, bodyBytes_sha256js _ (crowdedState 1).messages_canonical.1, hshort,
        MAX_DATA_CHANNEL_FRAME_BYTES]
      omega
    · change 1 ≤ MAX_SEGMENTED_SESSION_SYNC_BATCHES
      decide

theorem byteLength_manifest_sha256js (text : JsString) : byteLength (SessionSyncMessage.mk
    (js "/sessions/a.jsonl") 1 (.content_manifest (sha256js text) (transferIdOf 1 (sha256js text)) [] [] 1)).encode ≤
      400 := by
  have hcanonical : (Value.obj ((js "protocolVersion", .num (.int WS_PROTOCOL_VERSION)) :: manifestMembers
      (js "/sessions/a.jsonl") 1 (sha256js text) (transferIdOf 1 (sha256js text)) [] [] 1)).Canonical := by
    refine ⟨?_, trivial, trivial, trivial, trivial, trivial, trivial, trivial, trivial, ⟨List.nodup_nil, trivial⟩,
      trivial, trivial⟩
    change [js "protocolVersion", js "type", js "sessionPath", js "revision", js "op", js "hash", js "transferId",
      js "messageHashes", js "state", js "batchCount"].Nodup
    decide
  have hkeys : memberBytes (js "protocolVersion", .num (.int WS_PROTOCOL_VERSION)) +
      ([(js "type", Value.str (js "session_sync")), (js "sessionPath", .str (js "/sessions/a.jsonl")),
        (js "revision", .num (.int 1)), (js "op", .str (js "content_manifest")), (js "hash", .null),
        (js "transferId", .null), (js "messageHashes", .arr []), (js "state", .obj []),
        (js "batchCount", .num (.int 1))].map memberBytes).sum ≤ 300 := by decide +kernel
  change byteLength (encodeServerMessage (manifestMembers (js "/sessions/a.jsonl") 1 (sha256js text)
    (transferIdOf 1 (sha256js text)) [] [] 1)) ≤ 400
  rw [byteLength_encodeServerMessage hcanonical]
  simp only [manifestMembers, List.map_cons, List.map_nil, List.sum_cons, List.sum_nil, memberBytes, jsonBytes_sha256js,
    jsonBytes_transferIdOf] at hkeys ⊢
  simp only [Nat.cast_one] at hkeys ⊢
  omega

theorem stateManifestBytes_crowded (count : Nat) :
    66 * count ≤ stateManifestBytes sha256js (js "/sessions/a.jsonl") 1 (sha256js (crowdedState (count + 1)).json) []
      (crowdedState (count + 1)) ∧
    stateManifestBytes sha256js (js "/sessions/a.jsonl") 1 (sha256js (crowdedState (count + 1)).json) []
      (crowdedState (count + 1)) ≤ 67 * count + 1000 := by
  have hhashes : (((crowdedState (count + 1)).messages.map fun message => sha256js (stringify message)).map .str) =
      List.replicate (count + 1) (Value.str (sha256js (stringify shortMessage))) := by
    rw [crowdedState, List.map_replicate, List.map_replicate]
  have hmetadata : 2 ≤ jsonBytes (.obj (crowdedState (count + 1)).metadata) ∧
      jsonBytes (.obj (crowdedState (count + 1)).metadata) ≤ 300 := by
    change 2 ≤ jsonBytes (.obj (crowdedState 0).metadata) ∧ jsonBytes (.obj (crowdedState 0).metadata) ≤ 300
    decide +kernel
  have henvelope := byteLength_manifest_sha256js (crowdedState (count + 1)).json
  have hsingle : ∀ bytes, batchesNeeded (envelopeBytes (js "/sessions/a.jsonl") 1 (sha256js (crowdedState (count + 1)).json)
      (transferIdOf 1 (sha256js (crowdedState (count + 1)).json))) none [bytes] = 1 := fun _ => rfl
  rw [stateManifestBytes, manifestBytes, hhashes, itemsBytes_replicate, jsonBytes_sha256js, unknownBodies_crowded,
    List.map_singleton, hsingle]
  omega

theorem segmented_sync_bounds_iff_short : ∃ payloads,
    makeInitialSessionSync sha256js (js "/sessions/a.jsonl") (crowdedState 1).json (sha256js (crowdedState 1).json) 1
      segmentedSubscription = .ok payloads ∧ Bounded sha256js [] (crowdedState 1).messages payloads := by
  have hstale : segmentedSubscription.cachedStateHash ≠ some (sha256js (crowdedState 1).json) :=
    (Option.some_ne_none _).symm
  obtain ⟨batches, hmake, -⟩ := makeInitialSessionSync_sendable hstale rfl rfl (sendable_crowded 0 (by decide))
  refine ⟨_, hmake, (segmented_sync_bounds_iff hstale rfl rfl hmake).mpr ?_⟩
  exact (stateManifestBytes_crowded 0).2.trans (by decide)

/-- A session of 1100000 short messages: its state takes 33 megabytes, and its manifest more than a frame can. -/
theorem manifest_outgrows_frame : ∃ payloads,
    makeInitialSessionSync sha256js (js "/sessions/a.jsonl") (crowdedState 1100000).json
      (sha256js (crowdedState 1100000).json) 1 segmentedSubscription = .ok payloads ∧
    ¬ Bounded sha256js [] (crowdedState 1100000).messages payloads := by
  have hstale : segmentedSubscription.cachedStateHash ≠ some (sha256js (crowdedState 1100000).json) :=
    (Option.some_ne_none _).symm
  have hsendable := sendable_crowded 1099999 (by decide)
  obtain ⟨batches, hmake, hflatten, hfits, hlength⟩ := makeInitialSessionSync_sendable hstale rfl rfl hsendable
  refine ⟨_, hmake, fun hbounded => ?_⟩
  have hfit := (bounded_segments_iff hsendable hflatten hfits hlength).mp hbounded
  have hlarge := (stateManifestBytes_crowded 1099999).1
  rw [MAX_DATA_CHANNEL_FRAME_BYTES] at hfit
  omega

end pipane.ws_handler

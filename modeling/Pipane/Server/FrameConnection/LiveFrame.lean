import Pipane.Server.FrameConnection
import Pipane.Shared.DataChannelFraming.RoundTrip

open javascript json pipane.data_channel_framing

namespace pipane.frame_connection

/-- The id prefixes of the two carriers. -/
def IsCarrierPrefix (idPrefix : JsString) : Prop :=
  idPrefix = js "s" ∨ idPrefix = js "w"

theorem activePrefix_ne {idPrefix : JsString} (h : IsCarrierPrefix idPrefix) (x y : JsString) :
    ACTIVE_SESSION_SYNC_TRANSFER_KEY ++ x ≠ idPrefix ++ y := by
  have hactive : ACTIVE_SESSION_SYNC_TRANSFER_KEY = 0x61 :: js "ctive-session-sync" := by decide
  have hs : js "s" = [0x73] := by decide
  have hw : js "w" = [0x77] := by decide
  rintro heq
  rw [hactive] at heq
  rcases h with rfl | rfl
  · rw [hs, List.cons_append, List.cons_append, List.cons.injEq] at heq
    exact absurd heq.1 (by decide)
  · rw [hw, List.cons_append, List.cons_append, List.cons.injEq] at heq
    exact absurd heq.1 (by decide)

theorem frameId_injective {idPrefix : JsString} (hextends : IsCarrierPrefix idPrefix) {k l : Option JsString}
    {m n : Nat} (h : frameId idPrefix k m = frameId idPrefix l n) : m = n := by
  simp only [frameId] at h
  split at h <;> split at h
  · exact base36_injective (List.cons.inj (List.append_cancel_left h)).2
  · exact absurd h (activePrefix_ne hextends _ _)
  · exact absurd h.symm (activePrefix_ne hextends _ _)
  · exact base36_injective (List.append_cancel_left h)

namespace Call

/-- The frames that a call hands over. -/
def frames : Call → List JsString
  | .enqueue frame _ _ => [frame]
  | .enqueueSequence frames _ _ => frames
  | .cancelTransfer _ _ => []
  | .flush _ => []

def transferKey : Call → Option JsString
  | .enqueue _ options _ => presentKey options.transferKey
  | .enqueueSequence _ options _ => presentKey options.transferKey
  | .cancelTransfer _ _ => none
  | .flush _ => none

def isControl : Call → Bool
  | .enqueue _ options _ => options.priority ≠ some .bulk
  | .enqueueSequence _ _ _ => false
  | .cancelTransfer _ _ => false
  | .flush _ => false

end Call

/-- The frame is one that a call of the run handed over, in the given lane and with the given key. -/
def Submitted (calls : List Call) (frame : LogicalFrame) (control : Bool) (key : Option JsString) : Prop :=
  ∃ call, calls[frame.call]? = some call ∧ call.frames[frame.position]? = some frame.text ∧
    call.isControl = control ∧ call.transferKey = key

def isControlFrame (calls : List Call) (frame : LogicalFrame) : Bool :=
  (calls[frame.call]?.map Call.isControl).getD false

theorem Submitted.isControlFrame_eq {calls : List Call} {frame : LogicalFrame} {control : Bool}
    {key : Option JsString} (h : Submitted calls frame control key) : isControlFrame calls frame = control := by
  obtain ⟨call, hcall, _, hcontrol, _⟩ := h
  simp [isControlFrame, hcall, hcontrol]

/-- The order in which frames were handed over. -/
def Before (frame other : LogicalFrame) : Prop :=
  frame.call < other.call ∨ (frame.call = other.call ∧ frame.position < other.position)

/-- A queued frame with messages left, for a submitted source. -/
structure LiveFrame (calls : List Call) (control : Bool) (frame : OutgoingFrame) (source : LogicalFrame) :
    Prop where
  source_eq : frame.source = some source
  submitted : Submitted calls source control frame.transferKey
  logical : IsLogicalFrame source.text
  chunkId : isChunkId frame.id = true
  max : (textEncode source.text).length ≤ MAX_DATA_CHANNEL_FRAME_BYTES
  messages : frame.messages = (frameMessages source.text frame.id).map physicalMessage
  pending : frame.nextIndex < frame.messages.length

/-- The entry that the decoder holds for a frame which is partly written. -/
def entryOf (frame : OutgoingFrame) : List (JsString × PendingFrame) :=
  match frame.source with
  | none => []
  | some source =>
    if frame.nextIndex = 0 then [] else [(frame.id, pendingAfter (textEncode source.text) frame.nextIndex)]

theorem entryOf_fresh {frame : OutgoingFrame} (h : frame.nextIndex = 0) : entryOf frame = [] := by
  simp only [entryOf, h, if_true]
  split <;> rfl

theorem flatMap_entryOf_fresh {frames : List OutgoingFrame} (h : ∀ frame ∈ frames, frame.nextIndex = 0) :
    frames.flatMap entryOf = [] := by
  rw [List.flatMap_eq_nil_iff]
  exact fun frame hframe => entryOf_fresh (h frame hframe)

theorem length_entryOf_le (frame : OutgoingFrame) : (entryOf frame).length ≤ 1 := by
  simp only [entryOf]
  split
  · simp
  · split <;> simp

theorem mem_ids_of_mem_entryOf {frames : List OutgoingFrame} {e : JsString × PendingFrame}
    (h : e ∈ frames.flatMap entryOf) : e.1 ∈ frames.map OutgoingFrame.id := by
  obtain ⟨frame, hframe, he⟩ := List.mem_flatMap.mp h
  simp only [entryOf] at he
  split at he
  · cases he
  · split at he
    · cases he
    · rw [List.mem_singleton] at he
      subst he
      exact List.mem_map_of_mem hframe

theorem frameMessages_length (text id : JsString) : (frameMessages text id).length =
    if (textEncode text).length ≤ DATA_CHANNEL_CHUNK_PAYLOAD_BYTES then 1
    else chunkCount (textEncode text).length := by
  rw [frameMessages]
  split <;> simp

theorem frameMessages_ne_nil (text id : JsString) : 0 < (frameMessages text id).length := by
  rw [frameMessages_length]
  split
  · exact Nat.one_pos
  · have htwo := two_le_chunkCount (show DATA_CHANNEL_CHUNK_PAYLOAD_BYTES < (textEncode text).length by omega)
    omega

namespace LiveFrame

variable {calls : List Call} {control : Bool} {frame : OutgoingFrame} {source : LogicalFrame}

theorem advance (h : LiveFrame calls control frame source) (hmore : frame.advance.isComplete = false) :
    LiveFrame calls control frame.advance source := by
  refine ⟨h.source_eq, h.submitted, h.logical, h.chunkId, h.max, h.messages, ?_⟩
  have hpending := h.pending
  have hne : frame.nextIndex + 1 ≠ frame.messages.length := of_decide_eq_false hmore
  change frame.nextIndex + 1 < frame.messages.length
  omega

/-- The decoder takes the next message of a live frame: it completes the frame or extends its entry. -/
theorem accept (h : LiveFrame calls control frame source) {decoder : DataChannelFrameDecoder}
    {others : List (JsString × PendingFrame)} (hpending : decoder.pending.entries.Perm (entryOf frame ++ others))
    (hid : frame.id ∉ others.map Prod.fst) (hroom : others.length ≤ 1) :
    ∃ message next, frame.messages[frame.nextIndex]? = some message ∧
      decoder.accept message.value = (next, .ok (if frame.advance.isComplete then some source.text else none)) ∧
      next.pending.entries.Perm
        ((if frame.advance.isComplete then [] else entryOf frame.advance) ++ others) := by
  have hnext := h.pending
  rw [h.messages, List.length_map, frameMessages_length] at hnext
  have hcomplete : frame.advance.isComplete =
      decide (frame.nextIndex + 1 = (frameMessages source.text frame.id).length) := by
    simp only [OutgoingFrame.isComplete, OutgoingFrame.advance, h.messages, List.length_map]
  rw [frameMessages_length] at hcomplete
  by_cases hshort : (textEncode source.text).length ≤ DATA_CHANNEL_CHUNK_PAYLOAD_BYTES
  · rw [if_pos hshort] at hnext hcomplete
    have hzero : frame.nextIndex = 0 := by omega
    have hlast : frame.advance.isComplete = true := by simp [hcomplete, hzero]
    refine ⟨physicalMessage source.text, decoder, ?_, ?_, ?_⟩
    · simp [h.messages, frameMessages, hshort, hzero]
    · rw [hlast, physicalMessage, decoder.accept_plain h.logical]
      rfl
    · rw [hlast, if_pos rfl]
      rwa [entryOf_fresh hzero] at hpending
  · rw [if_neg hshort] at hnext hcomplete
    have hlong : DATA_CHANNEL_CHUNK_PAYLOAD_BYTES < (textEncode source.text).length := by omega
    have hmessage : frame.messages[frame.nextIndex]? =
        some (physicalMessage (chunkMessage (textEncode source.text) frame.id frame.nextIndex)) := by
      rw [h.messages, frameMessages, if_neg hshort, List.map_map, List.getElem?_map,
        List.getElem?_range hnext]
      rfl
    have hadvanced : entryOf frame.advance =
        [(frame.id, pendingAfter (textEncode source.text) (frame.nextIndex + 1))] := by
      simp only [entryOf, OutgoingFrame.advance, h.source_eq]
      rw [if_neg (by omega)]
    have hexpects : decoder.Expects frame.id (textEncode source.text) frame.nextIndex := by
      by_cases hzero : frame.nextIndex = 0
      · rw [entryOf_fresh hzero, List.nil_append] at hpending
        refine .inl ⟨hzero, ?_, ?_⟩
        · rw [OrderedMap.get?_eq_none_iff, (hpending.map Prod.fst).mem_iff]
          exact hid
        · rw [OrderedMap.size_of_perm hpending, MAX_DATA_CHANNEL_PENDING_FRAMES]
          omega
      · refine .inr ?_
        rw [OrderedMap.get?_of_perm hpending, entryOf, h.source_eq]
        simp only [if_neg hzero]
        exact List.mem_cons_self
    by_cases hlast : frame.nextIndex + 1 = chunkCount (textEncode source.text).length
    · have htwo := two_le_chunkCount hlong
      have hentry : entryOf frame = [(frame.id, pendingAfter (textEncode source.text) frame.nextIndex)] := by
        simp only [entryOf, h.source_eq]
        rw [if_neg (by omega)]
      rw [hentry] at hpending
      refine ⟨_, ⟨decoder.pending.erase frame.id⟩, hmessage, ?_, ?_⟩
      · rw [physicalMessage, DataChannelFrameDecoder.accept_chunk_last h.logical h.chunkId hlong h.max hlast hexpects]
        simp [hcomplete, hlast]
      · rw [hcomplete, decide_eq_true hlast, if_pos rfl]
        exact OrderedMap.perm_erase hpending
    · refine ⟨_, ⟨decoder.pending.set frame.id (pendingAfter (textEncode source.text) (frame.nextIndex + 1))⟩,
        hmessage, ?_, ?_⟩
      · rw [physicalMessage, DataChannelFrameDecoder.accept_chunk_more h.chunkId hlong h.max (by omega) hexpects]
        simp [hcomplete, hlast]
      · rw [hcomplete, decide_eq_false hlast, if_neg (by decide), hadvanced]
        by_cases hzero : frame.nextIndex = 0
        · rw [entryOf_fresh hzero, List.nil_append] at hpending
          exact OrderedMap.perm_set_new hpending hid _
        · rw [entryOf, h.source_eq] at hpending
          simp only [if_neg hzero] at hpending
          exact OrderedMap.perm_set_mem hpending _

end LiveFrame

end pipane.frame_connection

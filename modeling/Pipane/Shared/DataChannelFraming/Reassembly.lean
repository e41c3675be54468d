import Pipane.Lib.Transition
import Pipane.Shared.DataChannelFraming.RoundTrip

open javascript json transition

namespace pipane.data_channel_framing

/-- The chunk that a physical message brings for an id. -/
def chunkFor (id message : JsString) : Option DataChannelChunk :=
  if CHUNK_PREFIX.isPrefixOf message then
    match parseChunk message with
    | .ok chunk => if chunk.id = id then some chunk else none
    | .error _ => none
  else none

/-- The first chunks of a frame of `total` chunks, in order, and their payloads. -/
structure Consecutive (total : Nat) (chunks : List DataChannelChunk) (payloads : List (List UInt8)) : Prop where
  total : ∀ chunk ∈ chunks, chunk.total = total
  indices : chunks.map (·.index) = List.range chunks.length
  payloads : chunks.map (fun chunk => decodeBase64 chunk.data) = payloads.map Except.ok

/-- A frame is the concatenation of the chunks `0, …, total - 1` of one id, and from the first of them on no other
    chunk of the id arrived. -/
def Reassembled (messages : List JsString) (frame : JsString) : Prop :=
  ∃ (id : JsString) (before window : List JsString) (total : Nat) (payloads : List (List UInt8)),
    messages = before ++ window ∧ Consecutive total (window.filterMap (chunkFor id)) payloads ∧
      (window.filterMap (chunkFor id)).length = total ∧ textDecodeFatal payloads.flatten = some frame

theorem chunkFor_of_plain {id message : JsString} (h : CHUNK_PREFIX.isPrefixOf message = false) :
    chunkFor id message = none := by
  rw [chunkFor, if_neg (by simp [h])]

theorem chunkFor_of_parseChunk {id message : JsString} {chunk : DataChannelChunk}
    (hreserved : CHUNK_PREFIX.isPrefixOf message = true) (h : parseChunk message = .ok chunk) :
    chunkFor id message = if chunk.id = id then some chunk else none := by
  rw [chunkFor, if_pos hreserved, h]

theorem chunkPrefix_of_cancelPrefix {message : JsString} (h : CANCEL_PREFIX.isPrefixOf message = true) :
    CHUNK_PREFIX.isPrefixOf message = false := by
  obtain ⟨rest, rfl⟩ := List.isPrefixOf_iff_prefix.mp h
  rfl

theorem index_lt_of_parseChunk {message : JsString} {chunk : DataChannelChunk} (h : parseChunk message = .ok chunk) :
    chunk.index < chunk.total := by
  unfold parseChunk at h
  split at h
  · cases h
  · split at h
    · cases h
    · split at h
      · rename_i value _ _ _ hfields
        cases h
        simp only [chunkFields, Option.bind_eq_bind] at hfields
        split at hfields
        · cases hfields
        · obtain ⟨id, -, hfields⟩ := Option.bind_eq_some_iff.mp hfields
          obtain ⟨index, -, hfields⟩ := Option.bind_eq_some_iff.mp hfields
          obtain ⟨total, -, hfields⟩ := Option.bind_eq_some_iff.mp hfields
          split at hfields
          · cases hfields
          · rename_i hrange
            split at hfields
            · cases hfields
              change index < total
              omega
            · cases hfields
      · cases h

theorem consecutive_nil (total : Nat) : Consecutive total [] [] := by
  refine ⟨?_, rfl, rfl⟩
  intro chunk hchunk
  cases hchunk

theorem Consecutive.concat {total : Nat} {chunks : List DataChannelChunk} {payloads : List (List UInt8)}
    (h : Consecutive total chunks payloads) {chunk : DataChannelChunk} {bytes : List UInt8}
    (htotal : chunk.total = total) (hindex : chunk.index = chunks.length) (hbytes : decodeBase64 chunk.data = .ok bytes) :
    Consecutive total (chunks ++ [chunk]) (payloads ++ [bytes]) := by
  constructor
  · intro other hother
    obtain hbefore | hlast := List.mem_append.mp hother
    · exact h.total other hbefore
    · rw [List.mem_singleton.mp hlast]
      exact htotal
  · rw [List.map_append, h.indices, List.length_append, List.length_singleton, List.range_succ, List.map_singleton,
      hindex]
  · rw [List.map_append, h.payloads, List.map_append, List.map_singleton, List.map_singleton, hbytes]

/-- What the entry of an id stands for after the messages that have arrived. -/
structure Entry (messages : List JsString) (id : JsString) (pending : PendingFrame) : Prop where
  arrived : ∃ before window, messages = before ++ window ∧
    Consecutive pending.total (window.filterMap (chunkFor id)) pending.chunks ∧
      pending.nextIndex = (window.filterMap (chunkFor id)).length
  byteLength : pending.byteLength = pending.chunks.flatten.length
  bounded : pending.byteLength ≤ MAX_DATA_CHANNEL_FRAME_BYTES

theorem Entry.other {messages : List JsString} {id : JsString} {pending : PendingFrame} (h : Entry messages id pending)
    {message : JsString} (hnone : chunkFor id message = none) : Entry (messages ++ [message]) id pending := by
  obtain ⟨before, window, rfl, hconsecutive, hnext⟩ := h.arrived
  have hsame : (window ++ [message]).filterMap (chunkFor id) = window.filterMap (chunkFor id) := by
    rw [List.filterMap_append, List.filterMap_cons_none hnone, List.filterMap_nil, List.append_nil]
  refine ⟨⟨before, window ++ [message], List.append_assoc _ _ _, ?_, ?_⟩, h.byteLength, h.bounded⟩
  · rw [hsame]
    exact hconsecutive
  · rw [hsame]
    exact hnext

namespace DataChannelFrameDecoder

variable {self : DataChannelFrameDecoder} {messages : List JsString} {message : JsString}

/-- What every decoder has that was fed arbitrary messages. -/
structure Sound (messages : List JsString) (decoder : DataChannelFrameDecoder) : Prop where
  size : decoder.pending.size ≤ MAX_DATA_CHANNEL_PENDING_FRAMES
  entry : ∀ {id pending}, decoder.pending.get? id = some pending → Entry messages id pending

theorem sound_fresh (messages : List JsString) : Sound messages fresh := by
  refine ⟨Nat.zero_le _, ?_⟩
  intro id pending hget
  cases hget

theorem Sound.pendingFor (h : Sound messages self) {chunk : DataChannelChunk} {opened : PendingFrame}
    (hopened : self.pendingFor chunk = .ok opened) : Entry messages chunk.id opened ∧
      (self.pending.get? chunk.id = none → self.pending.size < MAX_DATA_CHANNEL_PENDING_FRAMES) := by
  unfold DataChannelFrameDecoder.pendingFor at hopened
  split at hopened
  · rename_i pending hget
    cases hopened
    refine ⟨h.entry hget, fun hnone => ?_⟩
    rw [hget] at hnone
    cases hnone
  · split at hopened
    · cases hopened
    · split at hopened
      · cases hopened
      · rename_i hroom
        cases hopened
        refine ⟨⟨⟨messages, [], (List.append_nil _).symm, consecutive_nil _, rfl⟩, rfl, Nat.zero_le _⟩, fun _ => ?_⟩
        omega

/-- The entry after one more chunk. -/
theorem entry_appendChunk {opened pending : PendingFrame} {chunk : DataChannelChunk}
    (h : Entry messages chunk.id opened) (hreserved : CHUNK_PREFIX.isPrefixOf message = true)
    (hparsed : parseChunk message = .ok chunk) (happend : appendChunk opened chunk = .ok pending) :
    Entry (messages ++ [message]) chunk.id pending ∧ pending.total = chunk.total ∧
      pending.nextIndex = chunk.index + 1 := by
  have hchunk : chunkFor chunk.id message = some chunk := by
    rw [chunkFor_of_parseChunk hreserved hparsed, if_pos rfl]
  obtain ⟨before, window, rfl, hconsecutive, hnext⟩ := h.arrived
  have hwindow : (window ++ [message]).filterMap (chunkFor chunk.id) = window.filterMap (chunkFor chunk.id) ++ [chunk] := by
    rw [List.filterMap_append, List.filterMap_cons_some hchunk, List.filterMap_nil]
  unfold appendChunk at happend
  split at happend
  · cases happend
  · rename_i hmatches
    rw [not_or, not_not, not_not] at hmatches
    split at happend
    · cases happend
    · rename_i bytes hbytes
      split at happend
      · cases happend
      · split at happend
        · cases happend
        · rename_i hfits
          cases happend
          refine ⟨⟨⟨before, window ++ [message], List.append_assoc _ _ _, ?_, ?_⟩, ?_, ?_⟩, hmatches.1, ?_⟩
          · rw [hwindow]
            exact hconsecutive.concat hmatches.1.symm (hmatches.2.trans hnext) hbytes
          · rw [hwindow, List.length_append, List.length_singleton, ← hnext]
          · change opened.byteLength + bytes.length = (opened.chunks ++ [bytes]).flatten.length
            rw [h.byteLength, List.flatten_append, List.length_append, List.flatten_singleton]
          · exact Nat.le_of_not_lt hfits
          · rw [hmatches.2]

theorem size_set_le {pending : PendingFrame} {id : JsString}
    (hsize : self.pending.size ≤ MAX_DATA_CHANNEL_PENDING_FRAMES)
    (hroom : self.pending.get? id = none → self.pending.size < MAX_DATA_CHANNEL_PENDING_FRAMES) :
    (self.pending.set id pending).size ≤ MAX_DATA_CHANNEL_PENDING_FRAMES := by
  cases hget : self.pending.get? id with
  | none =>
    rw [OrderedMap.size_set_of_none hget]
    exact hroom hget
  | some before =>
    rw [OrderedMap.size, OrderedMap.entries_set_of_get? hget, OrderedMap.overwrite, List.length_map]
    exact hsize

theorem size_erase_le (self : DataChannelFrameDecoder) (id : JsString) :
    (self.pending.erase id).size ≤ self.pending.size :=
  List.length_filter_le _ _

/-- An accepted envelope keeps the decoder sound, and what it completes was reassembled. -/
theorem Sound.acceptEnvelope (h : Sound messages self) {next : DataChannelFrameDecoder} {output : Option JsString}
    (hreserved : CHUNK_PREFIX.isPrefixOf message = true ∨ CANCEL_PREFIX.isPrefixOf message = true)
    (haccept : self.acceptEnvelope message = .ok (next, output)) :
    Sound (messages ++ [message]) next ∧ ∀ frame, output = some frame → Reassembled (messages ++ [message]) frame := by
  unfold DataChannelFrameDecoder.acceptEnvelope at haccept
  split at haccept
  · rename_i hcancel
    split at haccept
    · cases haccept
    · rename_i id _
      cases haccept
      refine ⟨⟨(size_erase_le self id).trans h.size, ?_⟩, ?_⟩
      · intro other pending hget
        exact (h.entry (OrderedMap.get?_of_erase hget).2).other
          (chunkFor_of_plain (chunkPrefix_of_cancelPrefix hcancel))
      · intro frame hframe
        cases hframe
  · rename_i hcancel
    have hchunk := hreserved.resolve_right hcancel
    split at haccept
    · cases haccept
    · rename_i chunk hparsed
      have hothers : ∀ {other pending}, other ≠ chunk.id → self.pending.get? other = some pending →
          Entry (messages ++ [message]) other pending := by
        intro other pending hne hget
        refine (h.entry hget).other ?_
        rw [chunkFor_of_parseChunk hchunk hparsed, if_neg hne.symm]
      split at haccept
      · cases haccept
      · rename_i opened hopened
        obtain ⟨hentry, hroom⟩ := h.pendingFor hopened
        split at haccept
        · cases haccept
        · rename_i pending happend
          obtain ⟨hextended, htotal, hnext⟩ := entry_appendChunk hentry hchunk hparsed happend
          split at haccept
          · cases haccept
            refine ⟨⟨size_set_le h.size hroom, ?_⟩, ?_⟩
            · intro other held hget
              change (self.pending.set chunk.id pending).get? other = some held at hget
              by_cases hsame : other = chunk.id
              · subst hsame
                rw [OrderedMap.get?_set_self] at hget
                cases hget
                exact hextended
              · rw [OrderedMap.get?_set_ne hsame] at hget
                exact hothers hsame hget
            · intro frame hframe
              cases hframe
          · rename_i hcomplete
            split at haccept
            · cases haccept
            · rename_i decoded hdecoded
              cases haccept
              refine ⟨⟨(size_erase_le self chunk.id).trans h.size, ?_⟩, ?_⟩
              · intro other held hget
                obtain ⟨hne, hget⟩ := OrderedMap.get?_of_erase hget
                exact hothers hne hget
              · intro frame hframe
                cases hframe
                obtain ⟨before, window, hmessages, hconsecutive, hlength⟩ := hextended.arrived
                have hindex := index_lt_of_parseChunk hparsed
                refine ⟨chunk.id, before, window, pending.total, pending.chunks, hmessages, hconsecutive, ?_, hdecoded⟩
                omega

theorem Sound.accept (h : Sound messages self) (message : JsString) :
    Sound (messages ++ [message]) (self.accept message).1 := by
  unfold DataChannelFrameDecoder.accept
  split
  · rename_i hplain
    refine ⟨h.size, fun hget => (h.entry hget).other (chunkFor_of_plain ?_)⟩
    exact Bool.eq_false_iff.mpr hplain.1
  · rename_i hreserved
    split
    · rename_i next output haccept
      refine (h.acceptEnvelope ?_ haccept).1
      tauto
    · exact sound_fresh _

end DataChannelFrameDecoder

open DataChannelFrameDecoder

theorem length_frameMessages_le {frame id : JsString} (hid : isChunkId id = true)
    (hmax : (textEncode frame).length ≤ MAX_DATA_CHANNEL_FRAME_BYTES) {message : JsString}
    (h : message ∈ frameMessages frame id) : (textEncode message).length ≤ MAX_DATA_CHANNEL_MESSAGE_BYTES := by
  unfold frameMessages at h
  split at h
  · rename_i hshort
    rw [List.mem_singleton.mp h]
    exact hshort.trans (by decide)
  · obtain ⟨index, hindex, rfl⟩ := List.mem_map.mp h
    exact length_chunkMessage_le hid hmax (List.mem_range.mp hindex)

end pipane.data_channel_framing

import Pipane.Shared.DataChannelFraming
import Pipane.Lib.Json.RoundTrip

open javascript json

namespace pipane.data_channel_framing

/-- A logical frame as the carriers are given it: a Unicode text that opens an object and cannot be
    taken for a carrier envelope. -/
structure IsLogicalFrame (frame : JsString) : Prop where
  wellFormed : WellFormed frame
  opens : frame.head? = some 0x7B
  notChunk : CHUNK_PREFIX.isPrefixOf frame = false
  notCancel : CANCEL_PREFIX.isPrefixOf frame = false

theorem canonical_chunkValue (chunk : DataChannelChunk) : (chunkValue chunk).Canonical := by
  refine ⟨?_, trivial, trivial, trivial, trivial, trivial, trivial⟩
  change [CHUNK_KEY, js "id", js "index", js "total", js "data"].Nodup
  decide

theorem canonical_cancelValue (id : JsString) : (cancelValue id).Canonical := by
  refine ⟨?_, trivial, trivial, trivial⟩
  change [CANCEL_KEY, js "id"].Nodup
  decide

theorem stringify_one : stringify (.num (.int 1)) = [0x31] := by
  rw [stringify, stringifyNumber, if_neg (by decide)]
  exact decimal_of_lt (by decide)

theorem stringify_chunkValue (chunk : DataChannelChunk) :
    stringify (chunkValue chunk) = CHUNK_PREFIX ++
      (stringifyMembers [(js "id", .str chunk.id), (js "index", .num (.int chunk.index)),
        (js "total", .num (.int chunk.total)), (js "data", .str chunk.data)] ++ [0x7D]) := by
  have hextends : CHUNK_PREFIX = 0x7B :: (quote CHUNK_KEY ++ [0x3A, 0x31, 0x2C]) := by decide
  rw [hextends, chunkValue, stringify, stringifyMembers, stringify_one]
  simp only [List.cons_append, List.append_assoc, List.nil_append]

theorem stringify_cancelValue (id : JsString) :
    stringify (cancelValue id) = CANCEL_PREFIX ++ (quote (js "id") ++ 0x3A :: quote id ++ [0x7D]) := by
  have hextends : CANCEL_PREFIX = 0x7B :: (quote CANCEL_KEY ++ [0x3A, 0x31, 0x2C]) := by decide
  rw [hextends, cancelValue, stringify, stringifyMembers, stringify_one, stringifyMembers, stringify]
  simp only [List.cons_append, List.append_assoc, List.nil_append]

theorem key_of_start {reserved k : JsString} {v : Value} {members : List (JsString × Value)}
    {tail : JsString} (h : 0x7B :: (quote reserved ++ tail) <+: stringify (.obj ((k, v) :: members))) :
    reserved = k := by
  obtain ⟨rest, hrest⟩ := h
  have hkey : ∃ tail', stringify (.obj ((k, v) :: members)) = 0x7B :: 0x22 :: (quoteUnits k ++ 0x22 :: tail') := by
    cases members <;> simp only [stringify, stringifyMembers, quote, List.cons_append, List.append_assoc,
      List.nil_append, List.cons.injEq, true_and, List.append_cancel_left_eq, exists_eq']
  obtain ⟨tail', htail'⟩ := hkey
  rw [htail'] at hrest
  simp only [quote, List.cons_append, List.append_assoc, List.nil_append, List.cons.injEq, true_and] at hrest
  have hread := parseString_quoteUnits reserved (tail ++ rest)
  rw [hrest, parseString_quoteUnits] at hread
  cases hread
  rfl

theorem isLogicalFrame_stringify {k : JsString} {v : Value} {members : List (JsString × Value)}
    (hvalue : (Value.obj ((k, v) :: members)).Canonical) (hchunk : k ≠ CHUNK_KEY) (hcancel : k ≠ CANCEL_KEY) :
    IsLogicalFrame (stringify (.obj ((k, v) :: members))) := by
  have hchunkPrefix : CHUNK_PREFIX = 0x7B :: (quote CHUNK_KEY ++ [0x3A, 0x31, 0x2C]) := by decide
  have hcancelPrefix : CANCEL_PREFIX = 0x7B :: (quote CANCEL_KEY ++ [0x3A, 0x31, 0x2C]) := by decide
  refine ⟨wellFormed_stringify _ hvalue, by rw [stringify]; rfl, ?_, ?_⟩
  · rw [Bool.eq_false_iff, ne_eq, List.isPrefixOf_iff_prefix, hchunkPrefix]
    exact fun h => hchunk (key_of_start h).symm
  · rw [Bool.eq_false_iff, ne_eq, List.isPrefixOf_iff_prefix, hcancelPrefix]
    exact fun h => hcancel (key_of_start h).symm

/-- The envelope fields that a decoder checks before it looks at its pending frames. -/
structure IsChunk (chunk : DataChannelChunk) : Prop where
  id : isChunkId chunk.id = true
  index : chunk.index < chunk.total
  total : 2 ≤ chunk.total
  totalMax : chunk.total ≤ MAX_CHUNKS_PER_FRAME

theorem safeNatural_small {n : Nat} (h : n ≤ MAX_CHUNKS_PER_FRAME) :
    safeNatural (.num (.int n)) = some n := by
  have hmax : MAX_CHUNKS_PER_FRAME = 5593 := by decide
  rw [safeNatural, if_pos (by omega), Int.toNat_natCast]

theorem chunkFields_chunkValue {chunk : DataChannelChunk} (h : IsChunk chunk) :
    chunkFields (chunkValue chunk) = some chunk := by
  have hmarker : hasMarker CHUNK_KEY (chunkValue chunk) = true := rfl
  have hid : (chunkValue chunk).get? (js "id") = some (.str chunk.id) := rfl
  have hindex : (chunkValue chunk).get? (js "index") = some (.num (.int chunk.index)) := rfl
  have htotal : (chunkValue chunk).get? (js "total") = some (.num (.int chunk.total)) := rfl
  have hdata : (chunkValue chunk).get? (js "data") = some (.str chunk.data) := rfl
  have hrange : ¬ (chunk.total < 2 ∨ MAX_CHUNKS_PER_FRAME < chunk.total ∨ chunk.total ≤ chunk.index) := by
    have hbounds := h.index
    have htwo := h.total
    have hmax := h.totalMax
    omega
  have hsmall : chunk.index ≤ MAX_CHUNKS_PER_FRAME := (Nat.le_of_lt h.index).trans h.totalMax
  simp only [chunkFields, hmarker, envelopeId, hid, h.id, hindex, htotal, hdata, safeNatural_small hsmall,
    safeNatural_small h.totalMax, if_neg hrange, not_true_eq_false, if_false, if_true, Option.bind_eq_bind,
    Option.bind_some]

theorem parseChunk_stringify {chunk : DataChannelChunk} (h : IsChunk chunk) :
    parseChunk (stringify (chunkValue chunk)) = .ok chunk := by
  have hobject : isObject (chunkValue chunk) = true := rfl
  simp only [parseChunk, parse_stringify (canonical_chunkValue chunk), hobject, not_true_eq_false, if_false,
    chunkFields_chunkValue h]

theorem parseCancel_stringify {id : JsString} (h : isChunkId id = true) :
    parseCancel (stringify (cancelValue id)) = .ok id := by
  have hobject : isObject (cancelValue id) = true := rfl
  have hmarker : hasMarker CANCEL_KEY (cancelValue id) = true := rfl
  have hid : (cancelValue id).get? (js "id") = some (.str id) := rfl
  simp only [parseCancel, parse_stringify (canonical_cancelValue id), hobject, not_true_eq_false, if_false,
    hmarker, envelopeId, hid, h, if_true]

theorem decodeBase64_encodeBase64 (bytes : List UInt8) : decodeBase64 (encodeBase64 bytes) = .ok bytes := by
  have hdecode : base64.decode (encodeBase64 bytes) = some bytes := base64.decode_encode bytes
  simp only [decodeBase64, hdecode, ne_eq, not_true_eq_false, if_false]

theorem cancelPrefix_isPrefixOf_chunk (rest : JsString) :
    CANCEL_PREFIX.isPrefixOf (CHUNK_PREFIX ++ rest) = false := by
  rfl

theorem flatten_chunkBytes (bytes : List UInt8) (n : Nat) :
    ((List.range n).map (chunkBytes bytes)).flatten = bytes.take (n * DATA_CHANNEL_CHUNK_PAYLOAD_BYTES) := by
  induction n with
  | zero => simp
  | succ n ih =>
    rw [List.range_succ, List.map_append, List.flatten_append, ih, Nat.succ_mul, List.take_add]
    simp only [List.map_cons, List.map_nil, List.flatten_cons, List.flatten_nil, List.append_nil, chunkBytes]

theorem chunkCount_covers (length : Nat) :
    length ≤ chunkCount length * DATA_CHANNEL_CHUNK_PAYLOAD_BYTES := by
  simp only [chunkCount, DATA_CHANNEL_CHUNK_PAYLOAD_BYTES]
  omega

theorem mul_lt_of_lt_chunkCount {index length : Nat} (h : index < chunkCount length) :
    index * DATA_CHANNEL_CHUNK_PAYLOAD_BYTES < length := by
  simp only [chunkCount, DATA_CHANNEL_CHUNK_PAYLOAD_BYTES] at h ⊢
  omega

theorem two_le_chunkCount {length : Nat} (h : DATA_CHANNEL_CHUNK_PAYLOAD_BYTES < length) :
    2 ≤ chunkCount length := by
  simp only [chunkCount, DATA_CHANNEL_CHUNK_PAYLOAD_BYTES] at h ⊢
  omega

theorem chunkCount_le_max {length : Nat} (h : length ≤ MAX_DATA_CHANNEL_FRAME_BYTES) :
    chunkCount length ≤ MAX_CHUNKS_PER_FRAME := by
  simp only [chunkCount, MAX_CHUNKS_PER_FRAME]
  exact Nat.div_le_div_right (by omega)

theorem length_chunkBytes_le (bytes : List UInt8) (index : Nat) :
    (chunkBytes bytes index).length ≤ DATA_CHANNEL_CHUNK_PAYLOAD_BYTES := by
  rw [chunkBytes, List.length_take]
  exact Nat.min_le_left _ _

theorem length_chunkBytes_pos {bytes : List UInt8} {index : Nat}
    (h : index < chunkCount bytes.length) : 0 < (chunkBytes bytes index).length := by
  have hcut := mul_lt_of_lt_chunkCount h
  have hpayload : 0 < DATA_CHANNEL_CHUNK_PAYLOAD_BYTES := by decide
  rw [chunkBytes, List.length_take, List.length_drop]
  omega

/-- One chunk of a payload. -/
def chunkAt (bytes : List UInt8) (id : JsString) (index : Nat) : DataChannelChunk where
  id := id
  index := index
  total := chunkCount bytes.length
  data := encodeBase64 (chunkBytes bytes index)

def chunkMessage (bytes : List UInt8) (id : JsString) (index : Nat) : JsString :=
  stringify (chunkValue (chunkAt bytes id index))

/-- The decoder's entry for a payload of which the first chunks have arrived. -/
def pendingAfter (bytes : List UInt8) (arrived : Nat) : PendingFrame where
  total := chunkCount bytes.length
  nextIndex := arrived
  byteLength := (bytes.take (arrived * DATA_CHANNEL_CHUNK_PAYLOAD_BYTES)).length
  chunks := (List.range arrived).map (chunkBytes bytes)

theorem isChunk_chunkAt {bytes : List UInt8} {id : JsString} {index : Nat}
    (hid : isChunkId id = true) (hlong : DATA_CHANNEL_CHUNK_PAYLOAD_BYTES < bytes.length)
    (hmax : bytes.length ≤ MAX_DATA_CHANNEL_FRAME_BYTES) (hindex : index < chunkCount bytes.length) :
    IsChunk (chunkAt bytes id index) :=
  ⟨hid, hindex, two_le_chunkCount hlong, chunkCount_le_max hmax⟩

namespace DataChannelFrameDecoder

theorem appendChunk_pendingAfter {bytes : List UInt8} {id : JsString} {index : Nat}
    (hmax : bytes.length ≤ MAX_DATA_CHANNEL_FRAME_BYTES) (hindex : index < chunkCount bytes.length) :
    appendChunk (pendingAfter bytes index) (chunkAt bytes id index) = .ok (pendingAfter bytes (index + 1)) := by
  have hpos := length_chunkBytes_pos hindex
  have hle := length_chunkBytes_le bytes index
  have hlength : (bytes.take (index * DATA_CHANNEL_CHUNK_PAYLOAD_BYTES)).length +
      (chunkBytes bytes index).length =
      (bytes.take ((index + 1) * DATA_CHANNEL_CHUNK_PAYLOAD_BYTES)).length := by
    rw [← List.length_append, Nat.succ_mul, List.take_add, chunkBytes]
  have hfits : (bytes.take ((index + 1) * DATA_CHANNEL_CHUNK_PAYLOAD_BYTES)).length ≤ bytes.length :=
    List.length_take_le' _ _
  simp only [appendChunk, pendingAfter, chunkAt, ne_eq, not_true_eq_false, or_self, if_false,
    decodeBase64_encodeBase64, hlength]
  rw [if_neg (by omega), if_neg (by omega)]
  simp only [List.range_succ, List.map_append, List.map_cons, List.map_nil]

/-- The decoder is where the chunk of the given index continues the payload: its entry holds the
    chunks before it, or the chunk is the first one and there is room for an entry. -/
def Expects (self : DataChannelFrameDecoder) (id : JsString) (bytes : List UInt8) (index : Nat) : Prop :=
  (index = 0 ∧ self.pending.get? id = none ∧ self.pending.size < MAX_DATA_CHANNEL_PENDING_FRAMES) ∨
    self.pending.get? id = some (pendingAfter bytes index)

theorem pendingFor_expected {self : DataChannelFrameDecoder} {bytes : List UInt8}
    {chunk : DataChannelChunk} (htotal : chunk.total = chunkCount bytes.length)
    (h : self.Expects chunk.id bytes chunk.index) :
    self.pendingFor chunk = .ok (pendingAfter bytes chunk.index) := by
  obtain ⟨hzero, hnone, hroom⟩ | hsome := h
  · simp only [pendingFor, hnone, hzero, ne_eq, not_true_eq_false, if_false]
    rw [if_neg (by omega), htotal]
    simp only [pendingAfter, Nat.zero_mul, List.take_zero, List.length_nil, List.range_zero, List.map_nil]
  · simp only [pendingFor, hsome]

theorem accept_of_acceptEnvelope {self next : DataChannelFrameDecoder} {bytes : List UInt8}
    {id : JsString} {index : Nat} {frame : Option JsString}
    (h : self.acceptEnvelope (chunkMessage bytes id index) = .ok (next, frame)) :
    self.accept (chunkMessage bytes id index) = (next, .ok frame) := by
  have hextends : CHUNK_PREFIX.isPrefixOf (chunkMessage bytes id index) = true := by
    rw [chunkMessage, stringify_chunkValue, List.isPrefixOf_iff_prefix]
    exact List.prefix_append _ _
  rw [accept, if_neg (by simp [hextends]), h]

theorem cancelPrefix_isPrefixOf_chunkMessage (bytes : List UInt8) (id : JsString) (index : Nat) :
    CANCEL_PREFIX.isPrefixOf (chunkMessage bytes id index) = false := by
  rw [chunkMessage, stringify_chunkValue]
  exact cancelPrefix_isPrefixOf_chunk _

theorem accept_chunk_more {self : DataChannelFrameDecoder} {bytes : List UInt8} {id : JsString}
    {index : Nat} (hid : isChunkId id = true) (hlong : DATA_CHANNEL_CHUNK_PAYLOAD_BYTES < bytes.length)
    (hmax : bytes.length ≤ MAX_DATA_CHANNEL_FRAME_BYTES) (hmore : index + 1 < chunkCount bytes.length)
    (h : self.Expects id bytes index) :
    self.accept (chunkMessage bytes id index) =
      (⟨self.pending.set id (pendingAfter bytes (index + 1))⟩, .ok none) := by
  have hindex : index < chunkCount bytes.length := by omega
  have hopened : self.pendingFor (chunkAt bytes id index) = .ok (pendingAfter bytes index) :=
    pendingFor_expected rfl h
  have hincomplete : (pendingAfter bytes (index + 1)).nextIndex < (pendingAfter bytes (index + 1)).total := hmore
  have hid' : (chunkAt bytes id index).id = id := rfl
  apply accept_of_acceptEnvelope
  rw [acceptEnvelope, cancelPrefix_isPrefixOf_chunkMessage, if_neg (by decide), chunkMessage,
    parseChunk_stringify (isChunk_chunkAt hid hlong hmax hindex)]
  simp only [hopened, appendChunk_pendingAfter hmax hindex, if_pos hincomplete, hid']

/-- The last chunk removes the entry and yields the frame. -/
theorem accept_chunk_last {self : DataChannelFrameDecoder} {frame id : JsString} {index : Nat}
    (hframe : IsLogicalFrame frame) (hid : isChunkId id = true)
    (hlong : DATA_CHANNEL_CHUNK_PAYLOAD_BYTES < (textEncode frame).length)
    (hmax : (textEncode frame).length ≤ MAX_DATA_CHANNEL_FRAME_BYTES)
    (hlast : index + 1 = chunkCount (textEncode frame).length)
    (h : self.Expects id (textEncode frame) index) :
    self.accept (chunkMessage (textEncode frame) id index) = (⟨self.pending.erase id⟩, .ok (some frame)) := by
  have hindex : index < chunkCount (textEncode frame).length := by omega
  have hopened : self.pendingFor (chunkAt (textEncode frame) id index) =
      .ok (pendingAfter (textEncode frame) index) := pendingFor_expected rfl h
  have hcomplete : ¬ (pendingAfter (textEncode frame) (index + 1)).nextIndex <
      (pendingAfter (textEncode frame) (index + 1)).total := by
    change ¬ index + 1 < chunkCount (textEncode frame).length
    omega
  have hall : (pendingAfter (textEncode frame) (index + 1)).chunks.flatten = textEncode frame := by
    rw [pendingAfter, flatten_chunkBytes, hlast]
    exact List.take_of_length_le (chunkCount_covers _)
  have hdecode : textDecodeFatal (textEncode frame) = some frame := by
    refine textDecodeFatal_textEncode hframe.wellFormed ?_
    rw [hframe.opens]
    decide
  have hid' : (chunkAt (textEncode frame) id index).id = id := rfl
  apply accept_of_acceptEnvelope
  rw [acceptEnvelope, cancelPrefix_isPrefixOf_chunkMessage, if_neg (by decide), chunkMessage,
    parseChunk_stringify (isChunk_chunkAt hid hlong hmax hindex)]
  simp only [hopened, appendChunk_pendingAfter hmax hindex, if_neg hcomplete, hall, hdecode, hid']

theorem accept_plain (self : DataChannelFrameDecoder) {frame : JsString} (h : IsLogicalFrame frame) :
    self.accept frame = (self, .ok (some frame)) := by
  rw [accept, if_pos (by simp [h.notChunk, h.notCancel])]

theorem accept_cancel (self : DataChannelFrameDecoder) {id : JsString} (h : isChunkId id = true) :
    self.accept (stringify (cancelValue id)) = (⟨self.pending.erase id⟩, .ok none) := by
  have hextends : CANCEL_PREFIX.isPrefixOf (stringify (cancelValue id)) = true := by
    rw [stringify_cancelValue, List.isPrefixOf_iff_prefix]
    exact List.prefix_append _ _
  simp only [accept, acceptEnvelope, hextends, not_true_eq_false, and_false, if_false, if_true,
    parseCancel_stringify h]

end DataChannelFrameDecoder

theorem isPlainUnit_of_isChunkIdUnit {u : UInt16} (h : isChunkIdUnit u = true) : IsPlainUnit u := by
  have hbound : 0x2D ≤ u.toNat ∧ u.toNat ≤ 122 ∧ u.toNat ≠ 92 := by
    simp only [isChunkIdUnit, Bool.or_eq_true, Bool.and_eq_true, decide_eq_true_eq, beq_iff_eq] at h
    rcases h with (((h | h) | h) | rfl) | rfl
    · omega
    · omega
    · omega
    · decide
    · decide
  refine ⟨by omega, by omega, ?_, ?_⟩
  · rintro rfl
    exact absurd hbound (by decide)
  · rintro rfl
    exact absurd hbound (by decide)

theorem isPlainUnit_of_isTextUnit {u : UInt16} (h : base64.IsTextUnit u) : IsPlainUnit u := by
  obtain ⟨hlow, hhigh, hslash⟩ := h
  refine ⟨by omega, by omega, ?_, ?_⟩
  · rintro rfl
    exact absurd hlow (by decide)
  · rintro rfl
    exact hslash rfl

theorem isPlainUnit_of_mem_decimal {n : Nat} {u : UInt16} (h : u ∈ decimal n) : u.toNat < 128 := by
  have hdigit := List.all_eq_true.mp (decimal_all_isDigit n) u h
  by_contra hlarge
  rw [isDigit, digitValue, if_neg (by omega)] at hdigit
  cases hdigit

theorem quote_plain {s : JsString} (h : ∀ u ∈ s, IsPlainUnit u) : quote s = 0x22 :: (s ++ [0x22]) := by
  rw [quote, quoteUnits_plain h]

theorem stringify_natural (n : Nat) : stringify (.num (.int n)) = decimal n := by
  rw [stringify, stringifyNumber, if_neg (by omega), Int.natAbs_natCast]

theorem chunkMessage_eq {bytes : List UInt8} {id : JsString} {index : Nat} (hid : isChunkId id = true) :
    chunkMessage bytes id index = CHUNK_PREFIX ++ js "\"id\":\"" ++ id ++ js "\",\"index\":" ++ decimal index ++
      js ",\"total\":" ++ decimal (chunkCount bytes.length) ++ js ",\"data\":\"" ++
      encodeBase64 (chunkBytes bytes index) ++ js "\"\x7d" := by
  have hidPlain : ∀ u ∈ id, IsPlainUnit u := by
    intro u hu
    rw [isChunkId, Bool.and_eq_true] at hid
    exact isPlainUnit_of_isChunkIdUnit (List.all_eq_true.mp hid.2 u hu)
  have hdataPlain : ∀ u ∈ encodeBase64 (chunkBytes bytes index), IsPlainUnit u :=
    fun u hu => isPlainUnit_of_isTextUnit (base64.isTextUnit_of_mem_encode _ u hu)
  have hidKey : js "\"id\":\"" = quote (js "id") ++ [0x3A, 0x22] := by decide
  have hindexKey : js "\",\"index\":" = 0x22 :: 0x2C :: (quote (js "index") ++ [0x3A]) := by decide
  have htotalKey : js ",\"total\":" = 0x2C :: (quote (js "total") ++ [0x3A]) := by decide
  have hdataKey : js ",\"data\":\"" = 0x2C :: (quote (js "data") ++ [0x3A, 0x22]) := by decide
  have hclose : js "\"\x7d" = [0x22, 0x7D] := by decide
  rw [chunkMessage, stringify_chunkValue, hidKey, hindexKey, htotalKey, hdataKey, hclose]
  simp only [stringifyMembers, stringify_natural, chunkAt]
  simp only [stringify, quote_plain hidPlain, quote_plain hdataPlain, List.cons_append, List.append_assoc,
    List.nil_append]

theorem length_textEncode_chunkMessage {bytes : List UInt8} {id : JsString} {index : Nat} (hid : isChunkId id = true) :
    (textEncode (chunkMessage bytes id index)).length = 66 + id.length + (decimal index).length +
      (decimal (chunkCount bytes.length)).length + (encodeBase64 (chunkBytes bytes index)).length := by
  have hascii : ∀ u ∈ chunkMessage bytes id index, u.toNat < 128 := by
    rw [chunkMessage_eq hid]
    simp only [List.mem_append]
    rintro u (((((((((hu | hu) | hu) | hu) | hu) | hu) | hu) | hu) | hu) | hu)
    · exact ascii_of_all (by decide) u hu
    · exact ascii_of_all (by decide) u hu
    · rw [isChunkId, Bool.and_eq_true] at hid
      exact (isPlainUnit_of_isChunkIdUnit (List.all_eq_true.mp hid.2 u hu)).2.1
    · exact ascii_of_all (by decide) u hu
    · exact isPlainUnit_of_mem_decimal hu
    · exact ascii_of_all (by decide) u hu
    · exact isPlainUnit_of_mem_decimal hu
    · exact ascii_of_all (by decide) u hu
    · exact (isPlainUnit_of_isTextUnit (base64.isTextUnit_of_mem_encode _ u hu)).2.1
    · exact ascii_of_all (by decide) u hu
  have hlength : (chunkMessage bytes id index).length = 30 + 6 + id.length + 10 + (decimal index).length + 9 +
      (decimal (chunkCount bytes.length)).length + 9 + (encodeBase64 (chunkBytes bytes index)).length + 2 := by
    rw [chunkMessage_eq hid]
    simp only [List.length_append]
    rfl
  rw [length_textEncode_ascii hascii, hlength]
  omega

theorem length_textEncode_cancellation {id : JsString} (hid : isChunkId id = true) :
    (textEncode (stringify (cancelValue id))).length = 39 + id.length := by
  have hplain : ∀ u ∈ id, IsPlainUnit u := by
    intro u hu
    rw [isChunkId, Bool.and_eq_true] at hid
    exact isPlainUnit_of_isChunkIdUnit (List.all_eq_true.mp hid.2 u hu)
  have hkey : js "\"id\":\"" = quote (js "id") ++ [0x3A, 0x22] := by decide
  have htext : stringify (cancelValue id) = CANCEL_PREFIX ++ js "\"id\":\"" ++ id ++ [0x22, 0x7D] := by
    rw [stringify_cancelValue, quote_plain hplain, hkey]
    simp only [List.cons_append, List.append_assoc, List.nil_append]
  have hascii : ∀ u ∈ stringify (cancelValue id), u.toNat < 128 := by
    rw [htext]
    simp only [List.mem_append]
    rintro u (((hu | hu) | hu) | hu)
    · exact ascii_of_all (by decide) u hu
    · exact ascii_of_all (by decide) u hu
    · exact (hplain u hu).2.1
    · exact ascii_of_all (by decide) u hu
  have hlength : (stringify (cancelValue id)).length = 31 + 6 + id.length + 2 := by
    rw [htext]
    simp only [List.length_append]
    rfl
  rw [length_textEncode_ascii hascii, hlength]
  omega

theorem length_chunkMessage_le {bytes : List UInt8} {id : JsString} {index : Nat} (hid : isChunkId id = true)
    (hmax : bytes.length ≤ MAX_DATA_CHANNEL_FRAME_BYTES) (hindex : index < chunkCount bytes.length) :
    (textEncode (chunkMessage bytes id index)).length ≤ MAX_DATA_CHANNEL_MESSAGE_BYTES := by
  have htotal : chunkCount bytes.length ≤ 5593 := chunkCount_le_max hmax
  have hindexDigits := length_decimal_le (show index < 10 ^ (3 + 1) by omega)
  have htotalDigits := length_decimal_le (show chunkCount bytes.length < 10 ^ (3 + 1) by omega)
  have hdata : (encodeBase64 (chunkBytes bytes index)).length ≤ 16000 := by
    have hchunk := length_chunkBytes_le bytes index
    rw [DATA_CHANNEL_CHUNK_PAYLOAD_BYTES] at hchunk
    rw [encodeBase64, base64.length_encode]
    omega
  have hidLength : id.length ≤ 64 := by
    simp only [isChunkId, Bool.and_eq_true, decide_eq_true_eq] at hid
    exact hid.1.2
  rw [length_textEncode_chunkMessage hid, MAX_DATA_CHANNEL_MESSAGE_BYTES]
  omega

theorem length_chunkBytes_le_chunkMessage {id : JsString} (hid : isChunkId id = true) (bytes : List UInt8) (index : Nat) :
    (chunkBytes bytes index).length ≤ (textEncode (chunkMessage bytes id index)).length := by
  rw [length_textEncode_chunkMessage hid, encodeBase64, base64.length_encode]
  omega

theorem sum_length_chunkBytes (bytes : List UInt8) :
    ((List.range (chunkCount bytes.length)).map fun index => (chunkBytes bytes index).length).sum = bytes.length := by
  have hflatten := flatten_chunkBytes bytes (chunkCount bytes.length)
  rw [List.take_of_length_le (chunkCount_covers bytes.length)] at hflatten
  have hlength := congrArg List.length hflatten
  rw [List.length_flatten, List.map_map] at hlength
  exact hlength

/-- The physical messages of a logical frame: the frame itself, or its chunks in order. -/
def frameMessages (frame id : JsString) : List JsString :=
  if (textEncode frame).length ≤ DATA_CHANNEL_CHUNK_PAYLOAD_BYTES then [frame]
  else (List.range (chunkCount (textEncode frame).length)).map (chunkMessage (textEncode frame) id)

theorem mapM_ok {α β ε : Type} {f : α → Except ε β} {g : α → β} {l : List α}
    (h : ∀ a ∈ l, f a = .ok (g a)) : l.mapM f = .ok (l.map g) := by
  induction l with
  | nil => rfl
  | cons a l ih =>
    rw [List.mapM_cons, h a List.mem_cons_self, ih fun b hb => h b (List.mem_cons_of_mem _ hb)]
    rfl

theorem encodeDataChannelFrame_ok {frame id : JsString} (hid : isChunkId id = true)
    (hmax : (textEncode frame).length ≤ MAX_DATA_CHANNEL_FRAME_BYTES) :
    encodeDataChannelFrame frame id = .ok (frameMessages frame id) := by
  have hchunks : ∀ index ∈ List.range (chunkCount (textEncode frame).length),
      encodeChunk (textEncode frame) id (chunkCount (textEncode frame).length) index =
        .ok (chunkMessage (textEncode frame) id index) := by
    intro index hindex
    have hsize := length_chunkMessage_le hid hmax (List.mem_range.mp hindex)
    rw [chunkMessage, chunkAt] at hsize
    simp only [encodeChunk]
    rw [if_neg (by omega)]
    rfl
  simp only [encodeDataChannelFrame, frameMessages, hid, not_true_eq_false, if_false]
  rw [if_neg (by omega)]
  split
  · rfl
  · exact mapM_ok hchunks

theorem encodeDataChannelFrame_eq_ok_iff {frame id : JsString} {messages : List JsString} :
    encodeDataChannelFrame frame id = .ok messages ↔ isChunkId id = true ∧
      (textEncode frame).length ≤ MAX_DATA_CHANNEL_FRAME_BYTES ∧ messages = frameMessages frame id := by
  constructor
  · intro h
    have hid : isChunkId id = true := by
      by_contra hid
      rw [encodeDataChannelFrame, if_pos hid] at h
      cases h
    have hmax : (textEncode frame).length ≤ MAX_DATA_CHANNEL_FRAME_BYTES := by
      by_contra hmax
      simp only [encodeDataChannelFrame, hid, not_true_eq_false, if_false] at h
      rw [if_pos (by omega)] at h
      cases h
    rw [encodeDataChannelFrame_ok hid hmax] at h
    cases h
    exact ⟨hid, hmax, rfl⟩
  · rintro ⟨hid, hmax, rfl⟩
    exact encodeDataChannelFrame_ok hid hmax

end pipane.data_channel_framing

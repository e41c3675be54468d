import Mathlib.Algebra.Order.BigOperators.Group.List
import Pipane.Server.FrameConnection.Connections
import Pipane.Server.FrameConnection.Linked
import Pipane.Shared.DataChannelFraming.Reassembly

open javascript pipane.data_channel_framing

namespace pipane.frame_connection

/-- The messages of a session snapshot whose frames are numbered after the given number. -/
def transferMessages (idPrefix : JsString) : Nat → List JsString → List JsString
  | _, [] => []
  | number, text :: texts =>
    frameMessages text (frameId idPrefix (some ACTIVE_SESSION_SYNC_TRANSFER_KEY) (number + 1)) ++
      transferMessages idPrefix (number + 1) texts

/-- The encoder accepts the frames of a snapshot. -/
def EncoderAccepts (idPrefix : JsString) : Nat → List JsString → Prop
  | _, [] => True
  | number, text :: texts =>
    (isChunkId (frameId idPrefix (some ACTIVE_SESSION_SYNC_TRANSFER_KEY) (number + 1)) = true ∧
      (textEncode text).length ≤ MAX_DATA_CHANNEL_FRAME_BYTES) ∧ EncoderAccepts idPrefix (number + 1) texts

def messageBytes (messages : List JsString) : Nat :=
  (messages.map fun message => (textEncode message).length).sum

theorem messageBytes_append (messages others : List JsString) :
    messageBytes (messages ++ others) = messageBytes messages + messageBytes others := by
  rw [messageBytes, List.map_append, List.sum_append, messageBytes, messageBytes]

theorem messageBytes_cons (message : JsString) (messages : List JsString) :
    messageBytes (message :: messages) = (textEncode message).length + messageBytes messages := by
  rw [messageBytes, List.map_cons, List.sum_cons, messageBytes]

namespace OutgoingFrame

/-- The messages of a frame that are not written yet. -/
def rest (frame : OutgoingFrame) : List JsString :=
  (frame.messages.drop frame.nextIndex).map PhysicalMessage.value

/-- A frame of a snapshot that is not completely written. -/
structure Unfinished (frame : OutgoingFrame) : Prop where
  more : frame.nextIndex < frame.messages.length
  sizes : ∀ message ∈ frame.messages, message.byteLength = (textEncode message.value).length

/-- The next message of an unfinished frame, and what the frame becomes once it is written. -/
theorem Unfinished.next {frame : OutgoingFrame} (h : frame.Unfinished) :
    ∃ message, frame.messages[frame.nextIndex]? = some message ∧
      message.byteLength = (textEncode message.value).length ∧
      frame.rest = message.value :: ((kept frame).map rest).getD [] ∧ (∀ next ∈ kept frame, next.Unfinished) := by
  obtain ⟨hmore, hsizes⟩ := h
  refine ⟨frame.messages[frame.nextIndex], List.getElem?_eq_getElem hmore, hsizes _ (List.getElem_mem hmore), ?_, ?_⟩
  · have hdrop := List.drop_eq_getElem_cons hmore
    rw [rest, hdrop, List.map_cons, kept, isComplete, advance]
    split
    · rename_i hcomplete
      have hlast : frame.nextIndex + 1 = frame.messages.length := of_decide_eq_true hcomplete
      rw [Option.map_none, Option.getD_none, hlast, List.drop_length, List.map_nil]
    · rfl
  · intro next hnext
    rw [kept] at hnext
    split at hnext
    · cases hnext
    · rename_i hunfinished
      cases hnext
      refine ⟨?_, hsizes⟩
      have hmessages : frame.advance.messages = frame.messages := rfl
      have hindex : frame.advance.nextIndex = frame.nextIndex + 1 := rfl
      rw [isComplete, hmessages, hindex, decide_eq_true_eq] at hunfinished
      rw [hmessages, hindex]
      omega

end OutgoingFrame

/-- A queue with nothing to send but a snapshot, of which the given messages are still to be written: frames that exist
    already, or a sequence that makes its frames one after the other, which the encoder accepts or does not. The number
    is the one of the last frame. -/
inductive Transit (idPrefix : JsString) (number : Nat) (remaining : List JsString) (accepted : Prop) :
    Bool → PrioritizedFrameQueue → Prop
  | frames {queue : PrioritizedFrameQueue} (haccepted : accepted) (frames : List OutgoingFrame)
      (hids : queue.idPrefix = idPrefix)
      (hnumber : queue.nextFrameId = number) (hcontrol : queue.control = []) (hbulk : queue.bulk = frames.map .frame)
      (hframes : ∀ frame ∈ frames, frame.Unfinished) (hremaining : remaining = frames.flatMap OutgoingFrame.rest)
      (hbytes : queue.queuedBytes = messageBytes remaining)
      (hbound : messageBytes remaining ≤ MAX_DATA_CHANNEL_QUEUED_BYTES) :
      Transit idPrefix number remaining accepted false queue
  | sequence {queue : PrioritizedFrameQueue} (iterator : List LogicalFrame) (current : Option OutgoingFrame)
      (hids : queue.idPrefix = idPrefix) (hnumber : queue.nextFrameId + iterator.length = number)
      (hcontrol : queue.control = [])
      (hbulk : queue.bulk = [.sequence { iterator, current, transferKey := some ACTIVE_SESSION_SYNC_TRANSFER_KEY }])
      (hcurrent : ∀ frame ∈ current, frame.Unfinished)
      (hremaining : remaining = (current.map OutgoingFrame.rest).getD [] ++
        transferMessages idPrefix queue.nextFrameId (iterator.map LogicalFrame.text))
      (hbytes : queue.queuedBytes = messageBytes ((current.map OutgoingFrame.rest).getD []))
      (hbound : messageBytes ((current.map OutgoingFrame.rest).getD []) ≤ MAX_DATA_CHANNEL_QUEUED_BYTES)
      (hiterator : EncoderAccepts idPrefix queue.nextFrameId (iterator.map LogicalFrame.text) ↔ accepted) :
      Transit idPrefix number remaining accepted true queue

theorem messageBytes_frameMessages {text id : JsString} (hid : isChunkId id = true)
    (hmax : (textEncode text).length ≤ MAX_DATA_CHANNEL_FRAME_BYTES) :
    messageBytes (frameMessages text id) ≤ MAX_DATA_CHANNEL_QUEUED_BYTES := by
  have hcount : (frameMessages text id).length ≤ 5593 := by
    rw [frameMessages_length]
    split
    · decide
    · exact (chunkCount_le_max hmax).trans (by decide)
  have hsum : messageBytes (frameMessages text id) ≤
      (frameMessages text id).length * MAX_DATA_CHANNEL_MESSAGE_BYTES := by
    refine (List.sum_le_card_nsmul _ MAX_DATA_CHANNEL_MESSAGE_BYTES fun bytes hbytes => ?_).trans ?_
    · obtain ⟨message, hmessage, rfl⟩ := List.mem_map.mp hbytes
      exact length_frameMessages_le hid hmax hmessage
    · rw [List.length_map]
      exact le_rfl
  refine hsum.trans ((Nat.mul_le_mul_right _ hcount).trans (by decide))

theorem le_messageBytes_frameMessages {id : JsString} (hid : isChunkId id = true) (text : JsString) :
    (textEncode text).length ≤ messageBytes (frameMessages text id) := by
  unfold frameMessages
  split
  · exact le_rfl
  · rw [messageBytes, List.map_map]
    refine (sum_length_chunkBytes (textEncode text)).symm.le.trans ?_
    exact List.sum_le_sum fun index _ => length_chunkBytes_le_chunkMessage hid (textEncode text) index

theorem le_messageBytes_transferMessages {idPrefix : JsString} {number : Nat} {texts : List JsString}
    (h : EncoderAccepts idPrefix number texts) :
    messageBytes texts ≤ messageBytes (transferMessages idPrefix number texts) := by
  induction texts generalizing number with
  | nil => exact Nat.zero_le _
  | cons text texts ih =>
    rw [messageBytes_cons, transferMessages, messageBytes_append]
    exact Nat.add_le_add (le_messageBytes_frameMessages h.1.1 text) (ih h.2)

section

variable {queue : PrioritizedFrameQueue} {frame : LogicalFrame}

/-- The id of the next frame of a snapshot. -/
def nextTransferId (queue : PrioritizedFrameQueue) : JsString :=
  frameId queue.idPrefix (some ACTIVE_SESSION_SYNC_TRANSFER_KEY) (queue.nextFrameId + 1)

theorem createFrame_ok (queue : PrioritizedFrameQueue) (hid : isChunkId (nextTransferId queue) = true)
    (hmax : (textEncode frame.text).length ≤ MAX_DATA_CHANNEL_FRAME_BYTES)
    (hroom : queue.queuedBytes + messageBytes (frameMessages frame.text (nextTransferId queue)) ≤
      MAX_DATA_CHANNEL_QUEUED_BYTES) :
    ∃ outgoing, queue.createFrame frame (some ACTIVE_SESSION_SYNC_TRANSFER_KEY) =
        ({ queue with
          nextFrameId := queue.nextFrameId + 1
          queuedBytes := queue.queuedBytes + messageBytes (frameMessages frame.text (nextTransferId queue)) },
        .ok outgoing) ∧
      outgoing.Unfinished ∧ outgoing.rest = frameMessages frame.text (nextTransferId queue) := by
  have hsum : (((frameMessages frame.text (nextTransferId queue)).map physicalMessage).map
      PhysicalMessage.byteLength).sum = messageBytes (frameMessages frame.text (nextTransferId queue)) := by
    rw [List.map_map]
    rfl
  unfold PrioritizedFrameQueue.createFrame
  have hencode : encodeDataChannelFrame frame.text
      (frameId queue.idPrefix (some ACTIVE_SESSION_SYNC_TRANSFER_KEY) (queue.nextFrameId + 1)) =
        .ok (frameMessages frame.text (nextTransferId queue)) := encodeDataChannelFrame_ok hid hmax
  simp only [hencode, hsum]
  rw [if_neg (not_lt.mpr hroom)]
  refine ⟨_, rfl, ⟨?_, ?_⟩, ?_⟩
  · rw [List.length_map]
    exact frameMessages_ne_nil _ _
  · intro message hmessage
    obtain ⟨value, -, rfl⟩ := List.mem_map.mp hmessage
    rfl
  · rw [OutgoingFrame.rest, List.drop_zero, List.map_map]
    exact List.map_id _

theorem createFrame_error (frame : LogicalFrame) (h : ¬ (isChunkId (nextTransferId queue) = true ∧
      (textEncode frame.text).length ≤ MAX_DATA_CHANNEL_FRAME_BYTES) ∨
    (MAX_DATA_CHANNEL_QUEUED_BYTES : Int) <
      queue.queuedBytes + messageBytes (frameMessages frame.text (nextTransferId queue))) :
    ∃ error, queue.createFrame frame (some ACTIVE_SESSION_SYNC_TRANSFER_KEY) =
      ({ queue with nextFrameId := queue.nextFrameId + 1 }, .error error) := by
  have hsum : (((frameMessages frame.text (nextTransferId queue)).map physicalMessage).map
      PhysicalMessage.byteLength).sum = messageBytes (frameMessages frame.text (nextTransferId queue)) := by
    rw [List.map_map]
    rfl
  unfold PrioritizedFrameQueue.createFrame
  simp only
  cases hencode : encodeDataChannelFrame frame.text
      (frameId queue.idPrefix (some ACTIVE_SESSION_SYNC_TRANSFER_KEY) (queue.nextFrameId + 1)) with
  | error error => exact ⟨error, rfl⟩
  | ok values =>
    obtain ⟨hid, hmax, rfl⟩ := encodeDataChannelFrame_eq_ok_iff.mp hencode
    have hover := h.resolve_left (not_not_intro ⟨hid, hmax⟩)
    rw [nextTransferId] at hover hsum
    simp only [hsum]
    rw [if_pos hover]
    exact ⟨_, rfl⟩

end

/-- What a round of a flush does to a queue in transit. -/
def FlushStep.Advances (idPrefix : JsString) (number : Nat) (remaining : List JsString) (accepted : Prop)
    (isSequence : Bool) : FlushStep → Prop
  | .stopped => accepted ∧ remaining = []
  | .skipped queue => accepted ∧ isSequence = true ∧ Transit idPrefix number remaining accepted false queue
  | .wrote queue written => ∃ rest,
    remaining = written.message :: rest ∧ Transit idPrefix number rest accepted isSequence queue
  | .failed _ _ => ¬ accepted

variable {idPrefix : JsString} {number : Nat} {accepted : Prop} {isSequence : Bool} {remaining : List JsString}
  {queue : PrioritizedFrameQueue}

theorem writeNext_sequence (queue : PrioritizedFrameQueue) {frame : OutgoingFrame} {iterator : List LogicalFrame}
    (hframe : frame.Unfinished) (hids : queue.idPrefix = idPrefix)
    (hnumber : queue.nextFrameId + iterator.length = number) (hcontrol : queue.control = [])
    (hbytes : queue.queuedBytes = messageBytes frame.rest)
    (hbound : messageBytes frame.rest ≤ MAX_DATA_CHANNEL_QUEUED_BYTES)
    (hiterator : EncoderAccepts idPrefix queue.nextFrameId (iterator.map LogicalFrame.text) ↔ accepted)
    {current : Option OutgoingFrame} {key : Option JsString}
    (hkey : key = some ACTIVE_SESSION_SYNC_TRANSFER_KEY) :
    (queue.writeNext frame (PrioritizedFrameQueue.putBulk (.sequence { iterator, current, transferKey := key })
      [])).Advances idPrefix number
        (frame.rest ++ transferMessages idPrefix queue.nextFrameId (iterator.map LogicalFrame.text)) accepted true := by
  obtain ⟨message, hmessage, hsize, hrest, hkept⟩ := hframe.next
  rw [hrest, messageBytes_cons] at hbytes hbound
  rw [writeNext_eq hmessage, hrest]
  refine ⟨_, rfl, .sequence iterator (kept frame) hids hnumber hcontrol ?_ hkept rfl ?_ (by omega) hiterator⟩
  · subst hkey
    rfl
  · change queue.queuedBytes - (message.byteLength : Int) = _
    rw [hbytes, hsize]
    push_cast
    omega

theorem transit_step (h : Transit idPrefix number remaining accepted isSequence queue) :
    queue.flushOnce.Advances idPrefix number remaining accepted isSequence := by
  cases h with
  | frames haccepted frames hids hnumber hcontrol hbulk hframes hremaining hbytes hbound =>
    unfold PrioritizedFrameQueue.flushOnce
    rw [hcontrol, hbulk]
    cases frames with
    | nil => exact ⟨haccepted, hremaining⟩
    | cons frame frames =>
      simp only [List.map_cons]
      obtain ⟨message, hmessage, hsize, hrest, hkept⟩ := (hframes frame List.mem_cons_self).next
      have hall : remaining = message.value :: ((kept frame).toList ++ frames).flatMap OutgoingFrame.rest := by
        rw [hremaining, List.flatMap_cons, hrest, List.flatMap_append, List.cons_append]
        cases kept frame with
        | none => rfl
        | some next => rw [Option.toList_some, List.flatMap_singleton, Option.map_some, Option.getD_some]
      rw [hall, messageBytes_cons] at hbytes hbound
      rw [writeNext_eq hmessage, hall]
      refine ⟨_, rfl, .frames haccepted ((kept frame).toList ++ frames) hids hnumber hcontrol ?_ ?_ rfl ?_ (by omega)⟩
      · rw [PrioritizedFrameQueue.putBulk, List.map_append]
        cases kept frame with
        | none => rfl
        | some next => rfl
      · intro other hother
        obtain hnext | hold := List.mem_append.mp hother
        · exact hkept other (Option.mem_toList.mp hnext)
        · exact hframes other (List.mem_cons_of_mem _ hold)
      · change queue.queuedBytes - (message.byteLength : Int) = _
        rw [hbytes, hsize]
        push_cast
        omega
  | sequence iterator current hids hnumber hcontrol hbulk hcurrent hremaining hbytes hbound hiterator =>
    unfold PrioritizedFrameQueue.flushOnce
    rw [hcontrol, hbulk]
    cases current with
    | some frame =>
      rw [hremaining]
      exact writeNext_sequence queue (hcurrent frame rfl) hids hnumber hcontrol hbytes hbound hiterator rfl
    | none =>
      cases iterator with
      | nil =>
        have haccepted : accepted := hiterator.mp trivial
        refine ⟨haccepted, rfl, .frames haccepted [] hids hnumber rfl rfl ?_ hremaining ?_ ?_⟩
        · exact fun _ hmem => absurd hmem List.not_mem_nil
        · rw [hremaining]
          exact hbytes
        · rw [hremaining]
          exact hbound
      | cons next iterator =>
        by_cases hnext : isChunkId (frameId idPrefix (some ACTIVE_SESSION_SYNC_TRANSFER_KEY) (queue.nextFrameId + 1)) =
            true ∧ (textEncode next.text).length ≤ MAX_DATA_CHANNEL_FRAME_BYTES
        · have hrest : EncoderAccepts idPrefix (queue.nextFrameId + 1) (iterator.map LogicalFrame.text) ↔ accepted :=
            (and_iff_right hnext).symm.trans hiterator
          obtain ⟨hid, hmax⟩ := hnext
          rw [← hids] at hid
          have hfits := messageBytes_frameMessages hid hmax
          have hempty : queue.queuedBytes = 0 := hbytes
          have hroom : queue.queuedBytes + messageBytes (frameMessages next.text (nextTransferId queue)) ≤
              MAX_DATA_CHANNEL_QUEUED_BYTES := by
            rw [hempty, nextTransferId]
            omega
          obtain ⟨outgoing, hcreate, hunfinished, hmessages⟩ := createFrame_ok queue hid hmax hroom
          simp only [hcreate]
          have hall : remaining = outgoing.rest ++
              transferMessages idPrefix (queue.nextFrameId + 1) (iterator.map LogicalFrame.text) := by
            rw [hremaining, hmessages, nextTransferId, hids]
            rfl
          rw [hall]
          refine writeNext_sequence { queue with
            nextFrameId := queue.nextFrameId + 1
            queuedBytes := queue.queuedBytes + messageBytes (frameMessages next.text (nextTransferId queue)) }
            hunfinished hids ?_ hcontrol ?_ ?_ hrest rfl
          · rw [← hnumber, List.length_cons]
            exact Nat.add_right_comm _ _ _
          · change queue.queuedBytes + (messageBytes _ : Int) = _
            rw [hempty, hmessages, Int.zero_add]
          · rw [hmessages]
            exact hfits
        · have hrefused : ¬ (isChunkId (nextTransferId queue) = true ∧
              (textEncode next.text).length ≤ MAX_DATA_CHANNEL_FRAME_BYTES) := by
            rw [nextTransferId, hids]
            exact hnext
          obtain ⟨error, hcreate⟩ := createFrame_error next (.inl hrefused)
          simp only [hcreate]
          exact fun haccepted => hnext (hiterator.mpr haccepted).1

/-- However often the carrier can be written to, a flush of a queue in transit fails nowhere and writes the next of the
    messages that remain. -/
theorem transit_flush (h : Transit idPrefix number remaining accepted isSequence queue) (haccepted : accepted)
    (canWrite : List Bool) :
    (queue.flush canWrite).failure = none ∧ ∃ isSequence' rest, (isSequence = false → isSequence' = false) ∧
      Transit idPrefix number rest accepted isSequence' (queue.flush canWrite).queue ∧
        remaining = (queue.flush canWrite).written.map Written.message ++ rest := by
  induction canWrite generalizing queue remaining isSequence with
  | nil => exact ⟨rfl, isSequence, remaining, id, h, rfl⟩
  | cons answer canWrite ih =>
    cases answer with
    | false => exact ⟨rfl, isSequence, remaining, id, h, rfl⟩
    | true =>
      have hstep := transit_step h
      rw [PrioritizedFrameQueue.flush]
      cases honce : queue.flushOnce with
      | stopped => exact ⟨rfl, isSequence, remaining, id, h, rfl⟩
      | skipped next =>
        rw [honce] at hstep
        obtain ⟨-, -, hnext⟩ := hstep
        obtain ⟨hfailure, isSequence', rest, hkeeps, htransit, hwritten⟩ := ih hnext
        exact ⟨hfailure, isSequence', rest, fun _ => hkeeps rfl, htransit, hwritten⟩
      | wrote next written =>
        rw [honce] at hstep
        obtain ⟨rest, rfl, hnext⟩ := hstep
        obtain ⟨hfailure, isSequence', rest', hkeeps, htransit, rfl⟩ := ih hnext
        exact ⟨hfailure, isSequence', rest', hkeeps, htransit, rfl⟩
      | failed next error =>
        rw [honce] at hstep
        exact absurd haccepted hstep

theorem transit_flush_all (h : Transit idPrefix number remaining accepted isSequence queue) (haccepted : accepted)
    {count : Nat} (hcount : remaining.length + isSequence.toNat ≤ count) :
    (queue.flush (List.replicate count true)).written.map Written.message = remaining := by
  induction count generalizing queue remaining isSequence with
  | zero =>
    have hempty : remaining = [] := List.eq_nil_of_length_eq_zero (by omega)
    rw [hempty]
    rfl
  | succ count ih =>
    have hstep := transit_step h
    rw [List.replicate_succ, PrioritizedFrameQueue.flush]
    cases honce : queue.flushOnce with
    | stopped =>
      rw [honce] at hstep
      rw [hstep.2]
      rfl
    | skipped next =>
      rw [honce] at hstep
      obtain ⟨-, rfl, hnext⟩ := hstep
      rw [Bool.toNat_true] at hcount
      exact ih hnext (by rw [Bool.toNat_false]; omega)
    | wrote next written =>
      rw [honce] at hstep
      obtain ⟨rest, rfl, hnext⟩ := hstep
      rw [List.length_cons] at hcount
      have hrest := ih hnext (by omega)
      simp only
      rw [List.map_cons, hrest]
    | failed next error =>
      rw [honce] at hstep
      exact absurd haccepted hstep

theorem transit_flush_refused (h : Transit idPrefix number remaining accepted isSequence queue)
    (hrefused : ¬ accepted) {count : Nat} (hcount : remaining.length < count) :
    (queue.flush (List.replicate count true)).failure.isSome = true := by
  induction count generalizing queue remaining with
  | zero => exact absurd hcount (Nat.not_lt_zero _)
  | succ count ih =>
    have hstep := transit_step h
    rw [List.replicate_succ, PrioritizedFrameQueue.flush]
    cases honce : queue.flushOnce with
    | stopped =>
      rw [honce] at hstep
      exact absurd hstep.1 hrefused
    | skipped next =>
      rw [honce] at hstep
      exact absurd hstep.1 hrefused
    | wrote next written =>
      rw [honce] at hstep
      obtain ⟨rest, rfl, hnext⟩ := hstep
      rw [List.length_cons] at hcount
      exact ih hnext (by omega)
    | failed next error => rfl

/-- A queue with nothing to send. -/
structure PrioritizedFrameQueue.Idle (queue : PrioritizedFrameQueue) : Prop where
  control : queue.control = []
  bulk : queue.bulk = []
  queuedBytes : queue.queuedBytes = 0

theorem PrioritizedFrameQueue.Idle.transit (h : queue.Idle) :
    Transit queue.idPrefix queue.nextFrameId [] True false queue := by
  refine .frames trivial [] rfl rfl h.control h.bulk ?_ rfl h.queuedBytes (Nat.zero_le _)
  exact fun _ hmem => absurd hmem List.not_mem_nil

/-- A frame more behind the frames of a snapshot. -/
theorem transit_push (frame : LogicalFrame) (h : Transit idPrefix number remaining accepted false queue)
    (hid : isChunkId (frameId idPrefix (some ACTIVE_SESSION_SYNC_TRANSFER_KEY) (number + 1)) = true)
    (hmax : (textEncode frame.text).length ≤ MAX_DATA_CHANNEL_FRAME_BYTES)
    (hroom : messageBytes remaining + messageBytes (frameMessages frame.text
      (frameId idPrefix (some ACTIVE_SESSION_SYNC_TRANSFER_KEY) (number + 1))) ≤ MAX_DATA_CHANNEL_QUEUED_BYTES) :
    ∃ created outgoing, queue.createFrame frame (some ACTIVE_SESSION_SYNC_TRANSFER_KEY) = (created, .ok outgoing) ∧
      Transit idPrefix (number + 1) (remaining ++ frameMessages frame.text
        (frameId idPrefix (some ACTIVE_SESSION_SYNC_TRANSFER_KEY) (number + 1))) accepted false
          { created with bulk := created.bulk ++ [.frame outgoing] } := by
  cases h with
  | frames haccepted frames hids hnumber hcontrol hbulk hframes hremaining hbytes hbound =>
    have hnext : nextTransferId queue = frameId idPrefix (some ACTIVE_SESSION_SYNC_TRANSFER_KEY) (number + 1) := by
      rw [nextTransferId, hids, hnumber]
    rw [← hnext] at hid hroom ⊢
    obtain ⟨outgoing, hcreate, hunfinished, hmessages⟩ := createFrame_ok queue hid hmax (by omega)
    refine ⟨_, outgoing, hcreate, .frames haccepted (frames ++ [outgoing]) hids (congrArg (· + 1) hnumber) hcontrol
      ?_ ?_ ?_ ?_ ?_⟩
    · rw [List.map_append, ← hbulk]
      rfl
    · intro other hother
      obtain hold | hnew := List.mem_append.mp hother
      · exact hframes other hold
      · rw [List.mem_singleton.mp hnew]
        exact hunfinished
    · rw [hremaining, List.flatMap_append, List.flatMap_singleton, hmessages]
    · rw [messageBytes_append, ← hmessages]
      change queue.queuedBytes + (messageBytes _ : Int) = _
      rw [hbytes, hmessages]
      push_cast
      rfl
    · rw [messageBytes_append]
      exact hroom

theorem transit_sequence (h : queue.Idle) (frames : List LogicalFrame)
    (hiterator : EncoderAccepts queue.idPrefix queue.nextFrameId (frames.map LogicalFrame.text) ↔ accepted) :
    Transit queue.idPrefix (queue.nextFrameId + frames.length)
      (transferMessages queue.idPrefix queue.nextFrameId (frames.map LogicalFrame.text)) accepted true
        { queue with bulk := queue.bulk ++
          [.sequence { iterator := frames, current := none,
                       transferKey := presentKey (some ACTIVE_SESSION_SYNC_TRANSFER_KEY) }] } := by
  refine .sequence frames none rfl rfl h.control ?_ ?_ rfl h.queuedBytes (Nat.zero_le _) hiterator
  · rw [h.bulk]
    rfl
  · intro frame hnone
    cases hnone

theorem Transit.bounded (h : Transit idPrefix number remaining accepted isSequence queue) :
    queue.queuedBytes ≤ MAX_DATA_CHANNEL_QUEUED_BYTES := by
  cases h with
  | frames _ _ _ _ _ _ _ _ hbytes hbound =>
    rw [hbytes]
    exact_mod_cast hbound
  | sequence _ _ _ _ _ _ _ _ hbytes hbound _ =>
    rw [hbytes]
    exact_mod_cast hbound

end pipane.frame_connection

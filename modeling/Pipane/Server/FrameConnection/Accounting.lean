import Mathlib.Algebra.BigOperators.Group.List.Basic
import Pipane.Server.FrameConnection.Connections
import Pipane.Server.FrameConnection.Linked

open javascript json pipane.data_channel_framing

namespace pipane.frame_connection

/-- A queued frame has something left to write, and each message of a chunked one is at least as long as the
    envelope that would cancel it. -/
structure OutgoingFrame.Accounted (frame : OutgoingFrame) : Prop where
  pending : frame.nextIndex < frame.messages.length
  chunked : 1 < frame.messages.length → isChunkId frame.id = true ∧
    ∀ message ∈ frame.messages, cancellationBytes frame.id ≤ message.byteLength

/-- The byte count of a queue of the given frames. -/
structure AccountedBy (frames : List OutgoingFrame) (bytes : Int) : Prop where
  total : bytes = (frames.map OutgoingFrame.remainingBytes).sum
  bound : bytes ≤ MAX_DATA_CHANNEL_QUEUED_BYTES
  each : ∀ frame ∈ frames, frame.Accounted

namespace OutgoingFrame

/-- A frame of which one message more is written owes that message's bytes less. -/
theorem Accounted.next {frame : OutgoingFrame} (h : frame.Accounted) :
    ∃ message, frame.messages[frame.nextIndex]? = some message ∧
      frame.remainingBytes = message.byteLength + ((kept frame).toList.map remainingBytes).sum ∧
      ∀ next ∈ (kept frame).toList, next.Accounted := by
  have hmore := h.pending
  refine ⟨frame.messages[frame.nextIndex], List.getElem?_eq_getElem hmore, ?_, ?_⟩
  · have hdrop := List.drop_eq_getElem_cons h.pending
    rw [remainingBytes, hdrop, List.map_cons, List.sum_cons, kept, isComplete, advance]
    by_cases hlast : frame.nextIndex + 1 = frame.messages.length
    · simp [hlast]
    · simp [hlast, remainingBytes]
  · intro next hnext
    rw [Option.mem_toList] at hnext
    obtain ⟨hunfinished, rfl⟩ := eq_of_kept hnext
    refine ⟨?_, h.chunked⟩
    have hne : frame.nextIndex + 1 ≠ frame.messages.length := of_decide_eq_false hunfinished
    change frame.nextIndex + 1 < frame.messages.length
    omega

theorem Accounted.cancellationBytes_le {frame : OutgoingFrame} (h : frame.Accounted) (hbegun : frame.isPartial = true) :
    isChunkId frame.id = true ∧ cancellationBytes frame.id ≤ frame.remainingBytes := by
  rw [isPartial, Bool.and_eq_true, decide_eq_true_eq, decide_eq_true_eq] at hbegun
  obtain ⟨hid, hbytes⟩ := h.chunked (by omega)
  refine ⟨hid, ?_⟩
  have hdrop := List.drop_eq_getElem_cons h.pending
  have hmessage := hbytes _ (List.getElem_mem h.pending)
  rw [remainingBytes, hdrop, List.map_cons, List.sum_cons]
  omega

theorem accounted_of_frameMessages {frame : OutgoingFrame} {text : JsString} (hid : isChunkId frame.id = true)
    (hmessages : frame.messages = (frameMessages text frame.id).map physicalMessage) (hzero : frame.nextIndex = 0) :
    frame.Accounted := by
  refine ⟨?_, fun hchunked => ⟨hid, ?_⟩⟩
  · rw [hzero, hmessages, List.length_map]
    exact frameMessages_ne_nil text frame.id
  · intro message hmessage
    rw [hmessages, List.length_map, frameMessages_length] at hchunked
    rw [hmessages, frameMessages] at hmessage
    split at hchunked
    · omega
    · rename_i hlong
      rw [if_neg hlong, List.map_map] at hmessage
      obtain ⟨index, -, rfl⟩ := List.mem_map.mp hmessage
      change (textEncode _).length ≤ (textEncode (chunkMessage _ _ index)).length
      rw [length_textEncode_chunkMessage hid, length_textEncode_cancellation hid]
      omega

theorem accounted_cancellation (idPrefix id value : JsString) :
    (PrioritizedFrameQueue.cancellation idPrefix id value).Accounted :=
  ⟨Nat.one_pos, fun h => absurd h (Nat.lt_irrefl 1)⟩

theorem remainingBytes_cancellation (idPrefix id : JsString) :
    (PrioritizedFrameQueue.cancellation idPrefix id (stringify (cancelValue id))).remainingBytes =
      cancellationBytes id := by
  rw [remainingBytes, PrioritizedFrameQueue.cancellation, List.drop_zero, List.map_singleton, List.sum_singleton,
    cancellationBytes]

end OutgoingFrame

namespace AccountedBy

variable {frames rest dropped : List OutgoingFrame} {frame : OutgoingFrame} {bytes : Int}

theorem nil : AccountedBy [] 0 :=
  ⟨rfl, by decide, fun _ h => absurd h List.not_mem_nil⟩

theorem nonneg (h : AccountedBy frames bytes) : 0 ≤ bytes := by
  rw [h.total]
  exact Int.natCast_nonneg _

theorem perm (h : AccountedBy frames bytes) {others : List OutgoingFrame} (hperm : frames.Perm others) :
    AccountedBy others bytes := by
  refine ⟨?_, h.bound, fun frame hframe => h.each frame (hperm.symm.subset hframe)⟩
  rw [h.total, (hperm.map _).sum_eq]

theorem write (h : AccountedBy (frame :: rest) bytes) :
    ∃ message, frame.messages[frame.nextIndex]? = some message ∧
      AccountedBy ((kept frame).toList ++ rest) (bytes - message.byteLength) := by
  obtain ⟨message, hmessage, hbytes, hkept⟩ := (h.each frame List.mem_cons_self).next
  refine ⟨message, hmessage, ?_, ?_, ?_⟩
  · have htotal := h.total
    rw [List.map_cons, List.sum_cons, hbytes] at htotal
    rw [List.map_append, List.sum_append]
    omega
  · have hbound := h.bound
    omega
  · intro other hother
    rcases List.mem_append.mp hother with hnew | hold
    · exact hkept other hnew
    · exact h.each other (List.mem_cons_of_mem _ hold)

theorem add (h : AccountedBy frames bytes) (hframe : frame.Accounted)
    (hroom : bytes + frame.remainingBytes ≤ MAX_DATA_CHANNEL_QUEUED_BYTES) :
    AccountedBy (frame :: frames) (bytes + frame.remainingBytes) := by
  refine ⟨?_, hroom, List.forall_mem_cons.mpr ⟨hframe, h.each⟩⟩
  have htotal := h.total
  rw [List.map_cons, List.sum_cons]
  omega

theorem cancellations_le (h : ∀ frame ∈ dropped, frame.Accounted) :
    ((dropped.filter OutgoingFrame.isPartial).map fun frame => cancellationBytes frame.id).sum ≤
      (dropped.map OutgoingFrame.remainingBytes).sum := by
  induction dropped with
  | nil => exact Nat.le_refl 0
  | cons frame dropped ih =>
    have hdropped := ih fun other hother => h other (List.mem_cons_of_mem _ hother)
    rw [List.map_cons, List.sum_cons]
    cases hbegun : frame.isPartial with
    | false =>
      rw [List.filter_cons_of_neg (by simp [hbegun])]
      omega
    | true =>
      have hframe := ((h frame List.mem_cons_self).cancellationBytes_le hbegun).2
      rw [List.filter_cons_of_pos hbegun, List.map_cons, List.sum_cons]
      omega

/-- Frames that are dropped make room for the cancellations of those that are partly written. -/
theorem cancel (h : AccountedBy (dropped ++ rest) bytes) (idPrefix : JsString) :
    AccountedBy
      (((dropped.filter OutgoingFrame.isPartial).map fun frame =>
        PrioritizedFrameQueue.cancellation idPrefix frame.id (stringify (cancelValue frame.id))) ++ rest)
      (bytes - (dropped.map OutgoingFrame.remainingBytes).sum +
        ((dropped.filter OutgoingFrame.isPartial).map fun frame => cancellationBytes frame.id).sum) := by
  have hless := cancellations_le fun frame hframe => h.each frame (List.mem_append_left rest hframe)
  have htotal := h.total
  rw [List.map_append, List.sum_append] at htotal
  refine ⟨?_, ?_, ?_⟩
  · have hcancellations : (((dropped.filter OutgoingFrame.isPartial).map fun frame =>
          PrioritizedFrameQueue.cancellation idPrefix frame.id (stringify (cancelValue frame.id))).map
            OutgoingFrame.remainingBytes).sum =
        ((dropped.filter OutgoingFrame.isPartial).map fun frame => cancellationBytes frame.id).sum := by
      rw [List.map_map]
      exact congrArg List.sum
        (List.map_congr_left fun frame _ => OutgoingFrame.remainingBytes_cancellation idPrefix frame.id)
    rw [List.map_append, List.sum_append, hcancellations]
    omega
  · have hbound := h.bound
    omega
  · intro frame hframe
    rcases List.mem_append.mp hframe with hnew | hold
    · obtain ⟨dropped, -, rfl⟩ := List.mem_map.mp hnew
      exact OutgoingFrame.accounted_cancellation _ _ _
    · exact h.each frame (List.mem_append_right _ hold)

end AccountedBy

namespace PrioritizedFrameQueue

/-- `queuedBytes` is the number of bytes that are queued and not written yet, and within its limit. -/
def Accounted (self : PrioritizedFrameQueue) : Prop :=
  AccountedBy (self.control ++ self.bulkFrames) self.queuedBytes

/-- The queue when `flush` calls `write`: the next frame of a sequence has been created. -/
def beforeWrite (self : PrioritizedFrameQueue) : PrioritizedFrameQueue :=
  match self.control, self.bulk with
  | [], .sequence sequence :: rest =>
    match sequence.current, sequence.iterator with
    | none, next :: iterator =>
      match self.createFrame next sequence.transferKey with
      | (self, .error _) => { self with bulk := .sequence { sequence with iterator } :: rest }
      | (self, .ok frame) => { self with bulk := .sequence { sequence with iterator, current := some frame } :: rest }
    | _, _ => self
  | _, _ => self

variable {queue : PrioritizedFrameQueue}

theorem createFrame_bytes (queue : PrioritizedFrameQueue) (frame : LogicalFrame) (key : Option JsString) :
    (∃ error, queue.createFrame frame key =
      ({ queue with nextFrameId := queue.nextFrameId + 1 }, .error error)) ∨
    ∃ outgoing, queue.createFrame frame key =
        ({ queue with
          nextFrameId := queue.nextFrameId + 1
          queuedBytes := queue.queuedBytes + outgoing.remainingBytes }, .ok outgoing) ∧
      outgoing.Accounted ∧ queue.queuedBytes + outgoing.remainingBytes ≤ MAX_DATA_CHANNEL_QUEUED_BYTES := by
  simp only [createFrame]
  cases hencode : encodeDataChannelFrame frame.text (frameId queue.idPrefix key (queue.nextFrameId + 1)) with
  | error error => exact .inl ⟨error, rfl⟩
  | ok values =>
    obtain ⟨hid, -, rfl⟩ := encodeDataChannelFrame_eq_ok_iff.mp hencode
    simp only
    split
    · exact .inl ⟨_, rfl⟩
    · rename_i hroom
      refine .inr ⟨{
        id := frameId queue.idPrefix key (queue.nextFrameId + 1)
        messages := (frameMessages frame.text (frameId queue.idPrefix key (queue.nextFrameId + 1))).map physicalMessage
        nextIndex := 0, transferKey := presentKey key, source := some frame }, ?_, ?_, ?_⟩
      · rw [OutgoingFrame.remainingBytes, List.drop_zero]
      · exact OutgoingFrame.accounted_of_frameMessages hid rfl rfl
      · rw [OutgoingFrame.remainingBytes, List.drop_zero]
        exact Int.not_lt.mp hroom

theorem bulkFrames_cons (item : BulkItem) (rest : List BulkItem) :
    (item :: rest).filterMap BulkItem.current = item.current.toList ++ rest.filterMap BulkItem.current := by
  cases hcurrent : item.current <;> simp [hcurrent]

theorem Accounted.writeNext {self : PrioritizedFrameQueue} {frame : OutgoingFrame} {rest : List OutgoingFrame}
    (h : AccountedBy (frame :: rest) self.queuedBytes)
    {put : PrioritizedFrameQueue → Option OutgoingFrame → PrioritizedFrameQueue}
    (hput : ∀ bytes next, AccountedBy (next.toList ++ rest) bytes →
      (put { self with queuedBytes := bytes } next).Accounted) :
    ∃ next written, self.writeNext frame put = .wrote next written ∧ next.Accounted := by
  obtain ⟨message, hmessage, hnext⟩ := h.write
  exact ⟨_, _, writeNext_eq hmessage put, hput _ _ hnext⟩

theorem Accounted.putBulk {self : PrioritizedFrameQueue} {item : BulkItem} {rest : List BulkItem}
    (hcontrol : self.control = []) (bytes : Int) (next : Option OutgoingFrame)
    (h : AccountedBy (next.toList ++ rest.filterMap BulkItem.current) bytes) :
    (PrioritizedFrameQueue.putBulk item rest { self with queuedBytes := bytes } next).Accounted := by
  rw [Accounted, bulkFrames, PrioritizedFrameQueue.putBulk, hcontrol, List.nil_append, List.filterMap_append,
    BulkItem.current_replace]
  exact h

/-- What one round of `flush` leaves. -/
theorem Accounted.flushOnce (h : queue.Accounted) :
    queue.flushOnce = .stopped ∨
    (∃ next, queue.flushOnce = .skipped next ∧ next.Accounted) ∨
    (∃ next error, queue.flushOnce = .failed next error ∧ next.Accounted) ∨
    ∃ next written, queue.flushOnce = .wrote next written ∧ next.Accounted := by
  rw [Accounted, bulkFrames] at h
  rw [PrioritizedFrameQueue.flushOnce]
  cases hcontrol : queue.control with
  | cons frame rest =>
    rw [hcontrol] at h
    refine .inr (.inr (.inr (Accounted.writeNext h fun bytes next hnext => ?_)))
    rw [Accounted, bulkFrames, putControl, List.append_assoc]
    exact hnext
  | nil =>
    rw [hcontrol, List.nil_append] at h
    cases hbulk : queue.bulk with
    | nil => exact .inl rfl
    | cons item rest =>
      rw [hbulk, bulkFrames_cons] at h
      cases item with
      | frame frame => exact .inr (.inr (.inr (Accounted.writeNext h (Accounted.putBulk hcontrol))))
      | sequence sequence =>
        rw [BulkItem.current] at h
        dsimp only
        cases hcurrent : sequence.current with
        | some frame =>
          rw [hcurrent] at h
          exact .inr (.inr (.inr (Accounted.writeNext h (Accounted.putBulk hcontrol))))
        | none =>
          rw [hcurrent] at h
          cases hiterator : sequence.iterator with
          | nil =>
            exact .inr (.inl ⟨_, rfl, h⟩)
          | cons next iterator =>
            obtain ⟨error, hcreate⟩ | ⟨outgoing, hcreate, hframe, hroom⟩ :=
              createFrame_bytes queue next sequence.transferKey
            · simp only [hcreate]
              refine .inr (.inr (.inl ⟨_, error, rfl, ?_⟩))
              rw [Accounted, bulkFrames, bulkFrames_cons, BulkItem.current, hcontrol]
              exact h
            · simp only [hcreate]
              exact .inr (.inr (.inr (Accounted.writeNext (h.add hframe hroom) (Accounted.putBulk hcontrol))))

theorem Accounted.flush (h : queue.Accounted) (canWrite : List Bool) : (queue.flush canWrite).queue.Accounted := by
  induction canWrite generalizing queue with
  | nil => exact h
  | cons answer canWrite ih =>
    cases answer with
    | false => exact h
    | true =>
      rw [PrioritizedFrameQueue.flush]
      obtain hflush | ⟨next, hflush, hnext⟩ | ⟨next, error, hflush, hnext⟩ | ⟨next, written, hflush, hnext⟩ :=
        h.flushOnce
      · rw [hflush]
        exact h
      · rw [hflush]
        exact ih hnext
      · rw [hflush]
        exact hnext
      · rw [hflush]
        exact ih hnext

theorem Accounted.beforeWrite (h : queue.Accounted) : queue.beforeWrite.Accounted := by
  have hqueue := h
  rw [Accounted, bulkFrames] at h
  rw [PrioritizedFrameQueue.beforeWrite]
  split
  · rename_i sequence rest hcontrol hbulk
    rw [hcontrol, hbulk, List.nil_append, bulkFrames_cons, BulkItem.current] at h
    split
    · rename_i next iterator hcurrent hiterator
      rw [hcurrent] at h
      obtain ⟨error, hcreate⟩ | ⟨outgoing, hcreate, hframe, hroom⟩ := createFrame_bytes queue next sequence.transferKey
      · rw [hcreate, Accounted, bulkFrames, bulkFrames_cons, BulkItem.current, hcurrent, hcontrol]
        exact h
      · rw [hcreate, Accounted, bulkFrames, bulkFrames_cons, BulkItem.current, hcontrol]
        exact h.add hframe hroom
    · exact hqueue
  · exact hqueue

theorem Accounted.enqueue (h : queue.Accounted) (frame : LogicalFrame) (options : FrameSendOptions)
    (canWrite : List Bool) : (queue.enqueue frame options canWrite).queue.Accounted := by
  rw [PrioritizedFrameQueue.enqueue]
  obtain ⟨error, hcreate⟩ | ⟨outgoing, hcreate, hframe, hroom⟩ := createFrame_bytes queue frame options.transferKey
  · rw [hcreate]
    exact h
  · rw [hcreate]
    dsimp only
    have hadded := h.add hframe hroom
    split
    · refine Accounted.flush ?_ canWrite
      rw [Accounted, bulkFrames, List.filterMap_append, ← List.append_assoc]
      exact hadded.perm (List.perm_append_singleton outgoing _).symm
    · refine Accounted.flush ?_ canWrite
      rw [Accounted, bulkFrames, List.append_assoc]
      exact hadded.perm List.perm_middle.symm

theorem Accounted.enqueueSequence (h : queue.Accounted) (frames : List LogicalFrame) (options : FrameSendOptions)
    (canWrite : List Bool) : (queue.enqueueSequence frames options canWrite).queue.Accounted := by
  rw [PrioritizedFrameQueue.enqueueSequence]
  split
  · exact h
  · refine Accounted.flush ?_ canWrite
    have hsequence : [BulkItem.sequence
        { iterator := frames, current := none, transferKey := presentKey options.transferKey }].filterMap
          BulkItem.current = [] := rfl
    rw [Accounted, bulkFrames, List.filterMap_append, hsequence, List.append_nil]
    exact h

theorem Accounted.cancelTransfer (h : queue.Accounted) (transferKey : JsString) (canWrite : List Bool) :
    (queue.cancelTransfer transferKey canWrite).queue.Accounted := by
  have hsplit := AccountedBy.perm h (perm_discarded queue.control queue.bulk transferKey).symm
  have hcancelled := hsplit.cancel queue.idPrefix
  generalize hdropped : (queue.control.filter fun frame => frame.transferKey = some transferKey).reverse ++
    (queue.bulk.filter fun item => item.transferKey = some transferKey).reverse.filterMap BulkItem.current = dropped
    at hsplit hcancelled
  have hids : ∀ id ∈ (dropped.filter OutgoingFrame.isPartial).map OutgoingFrame.id, isChunkId id = true := by
    intro id hid
    obtain ⟨frame, hframe, rfl⟩ := List.mem_map.mp hid
    have hmem := List.mem_filter.mp hframe
    exact ((hsplit.each frame (List.mem_append_left _ hmem.1)).cancellationBytes_le hmem.2).1
  rw [PrioritizedFrameQueue.cancelTransfer]
  rw [hdropped, foldl_discardFrame, List.nil_append, createCancellations_eq _ hids]
  refine Accounted.flush ?_ canWrite
  rw [Accounted, bulkFrames, foldl_discardFrame_bytes, List.map_map, List.map_map]
  rw [List.append_assoc]
  exact hcancelled

theorem Accounted.perform (h : queue.Accounted) (number : Nat) (call : Call) :
    (queue.perform number call).queue.Accounted := by
  cases call with
  | enqueue frame options canWrite => exact h.enqueue _ options canWrite
  | enqueueSequence frames options canWrite => exact h.enqueueSequence _ options canWrite
  | cancelTransfer transferKey canWrite => exact h.cancelTransfer transferKey canWrite
  | flush canWrite => exact h.flush canWrite

end PrioritizedFrameQueue

/-- What happens to a queue: a call of its owner, a `write` that throws where the last call stopped, and `clear` once
    the connection is closed. -/
inductive QueueEvent
  | called (call : Call)
  | writeThrew
  | cleared

namespace PrioritizedFrameQueue

def react (self : PrioritizedFrameQueue) (number : Nat) : QueueEvent → PrioritizedFrameQueue
  | .called call => (self.perform number call).queue
  | .writeThrew => self.beforeWrite
  | .cleared => self.clear

/-- The queue after events of which the first has the given number. -/
def reactFrom (self : PrioritizedFrameQueue) (number : Nat) : List QueueEvent → PrioritizedFrameQueue
  | [] => self
  | event :: events => (self.react number event).reactFrom (number + 1) events

variable {queue : PrioritizedFrameQueue}

theorem Accounted.react (h : queue.Accounted) (number : Nat) (event : QueueEvent) :
    (queue.react number event).Accounted := by
  cases event with
  | called call => exact h.perform number call
  | writeThrew => exact h.beforeWrite
  | cleared => exact AccountedBy.nil

theorem Accounted.reactFrom (h : queue.Accounted) (number : Nat) (events : List QueueEvent) :
    (queue.reactFrom number events).Accounted := by
  induction events generalizing queue number with
  | nil => exact h
  | cons event events ih => exact ih (h.react number event) (number + 1)

/-- In every state that a queue reaches, `queuedBytes` is the number of bytes of the messages not written yet, from
    zero to its limit, and no partly written frame has less left than its cancellation takes. -/
theorem queued_bytes_accounted (idPrefix : JsString) (events : List QueueEvent) :
    let queue := (fresh idPrefix).reactFrom 0 events
    queue.queuedBytes = ((queue.control ++ queue.bulkFrames).map OutgoingFrame.remainingBytes).sum ∧
      0 ≤ queue.queuedBytes ∧ queue.queuedBytes ≤ MAX_DATA_CHANNEL_QUEUED_BYTES ∧
      ∀ frame ∈ queue.control ++ queue.bulkFrames, frame.isPartial = true →
        cancellationBytes frame.id ≤ frame.remainingBytes := by
  have hfresh : (fresh idPrefix).Accounted := AccountedBy.nil
  have haccounted := hfresh.reactFrom 0 events
  exact ⟨haccounted.total, haccounted.nonneg, haccounted.bound,
    fun frame hframe hbegun => ((haccounted.each frame hframe).cancellationBytes_le hbegun).2⟩

end PrioritizedFrameQueue

end pipane.frame_connection

import Pipane.Server.FrameConnection.LiveFrame
import Mathlib.Data.List.Flatten

open javascript json pipane.data_channel_framing

namespace pipane.frame_connection

namespace BulkItem

/-- The frames of an item that have no messages yet. -/
def upcoming : BulkItem → List LogicalFrame
  | .frame _ => []
  | .sequence outgoing => outgoing.iterator

/-- The frames of an item that are not completely written, in the order they will be. -/
def sources (item : BulkItem) : List LogicalFrame :=
  (item.current.bind OutgoingFrame.source).toList ++ item.upcoming

/-- What holds of an item before its frames are written. -/
structure Live (calls : List Call) (item : BulkItem) : Prop where
  current : ∀ frame, item.current = some frame →
    frame.transferKey = item.transferKey ∧ ∃ source, LiveFrame calls false frame source
  upcoming : ∀ next ∈ item.upcoming,
    Submitted calls next false item.transferKey ∧ IsLogicalFrame next.text
  key : presentKey item.transferKey = item.transferKey

theorem current_replace (item : BulkItem) (next : Option OutgoingFrame) :
    (item.replace next).filterMap current = next.toList := by
  cases item <;> cases next <;> rfl

theorem sources_replace (item : BulkItem) (next : Option OutgoingFrame) :
    (item.replace next).flatMap sources = (next.bind OutgoingFrame.source).toList ++ item.upcoming := by
  cases item <;> cases next <;> simp [replace, sources, current, upcoming]

theorem Live.replace {calls : List Call} {item : BulkItem} (h : item.Live calls) {next : Option OutgoingFrame}
    (hnext : ∀ frame, next = some frame →
      frame.transferKey = item.transferKey ∧ ∃ source, LiveFrame calls false frame source) :
    ∀ replaced ∈ item.replace next, replaced.Live calls := by
  intro replaced hreplaced
  cases item with
  | frame outgoing =>
    cases next with
    | none => cases hreplaced
    | some frame =>
      obtain ⟨hkey, hlive⟩ := hnext frame rfl
      rw [BulkItem.replace, Option.map_some, Option.toList_some, List.mem_singleton] at hreplaced
      subst hreplaced
      refine ⟨?_, ?_, ?_⟩
      · rintro _ ⟨⟩
        exact ⟨rfl, hlive⟩
      · rintro _ ⟨⟩
      · have hsame := h.key
        rwa [← hkey] at hsame
  | sequence outgoing =>
    rw [BulkItem.replace, List.mem_singleton] at hreplaced
    subst hreplaced
    exact ⟨hnext, h.upcoming, h.key⟩

end BulkItem

namespace PrioritizedFrameQueue

/-- The bulk frames whose messages exist already. -/
def bulkFrames (self : PrioritizedFrameQueue) : List OutgoingFrame :=
  self.bulk.filterMap BulkItem.current

/-- The frames that are queued and not completely written. -/
def sources (self : PrioritizedFrameQueue) : List LogicalFrame :=
  self.control.filterMap OutgoingFrame.source ++ self.bulk.flatMap BulkItem.sources

end PrioritizedFrameQueue

/-- How a queue and the decoder at the other end agree. `cancelled` are the decoder's entries whose
    cancellation is still queued, `control` the control frames behind those cancellations. -/
structure LinkedBy (calls : List Call) (number : Nat) (queue : PrioritizedFrameQueue)
    (decoder : DataChannelFrameDecoder) (completed : List LogicalFrame)
    (cancelled : List (JsString × PendingFrame)) (control : List OutgoingFrame) : Prop where
  carrier : IsCarrierPrefix queue.idPrefix
  control_eq : queue.control =
    cancelled.map (fun e => PrioritizedFrameQueue.cancellation queue.idPrefix e.1 (stringify (cancelValue e.1))) ++ control
  cancelledIds : ∀ e ∈ cancelled, isChunkId e.1 = true
  liveControl : ∀ frame ∈ control, ∃ source, LiveFrame calls true frame source
  liveBulk : ∀ item ∈ queue.bulk, item.Live calls
  freshControl : ∀ frame ∈ control.tail, frame.nextIndex = 0
  freshBulk : ∀ item ∈ queue.bulk.tail, ∀ frame, item.current = some frame → frame.nextIndex = 0
  ids : ((control ++ queue.bulkFrames).map OutgoingFrame.id).Nodup
  issued : ∀ frame ∈ control ++ queue.bulkFrames, ∃ key n, n ≤ queue.nextFrameId ∧
    frame.id = frameId queue.idPrefix key n
  pending : decoder.pending.entries.Perm (cancelled ++ (control ++ queue.bulkFrames).flatMap entryOf)
  room : decoder.pending.size ≤ 2
  controlOrder : (completed.filter (isControlFrame calls) ++ control.filterMap OutgoingFrame.source).Pairwise Before
  bulkOrder : (completed.filter (fun frame => !isControlFrame calls frame) ++
    queue.bulk.flatMap BulkItem.sources).Pairwise Before
  submitted : ∀ frame ∈ completed, ∃ lane key, Submitted calls frame lane key
  known : ∀ frame ∈ completed ++ control.filterMap OutgoingFrame.source ++ queue.bulk.flatMap BulkItem.sources,
    frame.call < number

def Linked (calls : List Call) (number : Nat) (queue : PrioritizedFrameQueue)
    (decoder : DataChannelFrameDecoder) (completed : List LogicalFrame) : Prop :=
  ∃ cancelled control, LinkedBy calls number queue decoder completed cancelled control

/-- The frames that a sequence of writes completes. -/
def completedOf (written : List Written) : List LogicalFrame :=
  (written.filter Written.last).filterMap Written.source

/-- What the decoder outputs for a message. -/
def Written.output (written : Written) : Option JsString :=
  if written.last then written.source.map LogicalFrame.text else none

/-- The frame after a write, unless it is complete. -/
def kept (frame : OutgoingFrame) : Option OutgoingFrame :=
  if frame.advance.isComplete then none else some frame.advance

theorem kept_ids (frame : OutgoingFrame) :
    ((kept frame).toList.map OutgoingFrame.id).Sublist [frame.id] := by
  rw [kept]
  split
  · exact List.nil_sublist _
  · exact List.Sublist.refl _

theorem eq_of_kept {frame next : OutgoingFrame} (h : kept frame = some next) :
    frame.advance.isComplete = false ∧ next = frame.advance := by
  rw [kept] at h
  split at h
  · cases h
  · rename_i hmore
    cases h
    exact ⟨by simpa using hmore, rfl⟩

theorem completedOf_append_kept {frame : OutgoingFrame} {source : LogicalFrame}
    (h : frame.source = some source) (message : PhysicalMessage) :
    completedOf [frame.written message] ++ (kept frame).toList.filterMap OutgoingFrame.source = [source] := by
  have hadvance : frame.advance.source = some source := h
  cases hlast : frame.advance.isComplete <;>
    simp [completedOf, OutgoingFrame.written, kept, hlast, h, hadvance]

theorem output_written {frame : OutgoingFrame} {source : LogicalFrame} (h : frame.source = some source)
    (message : PhysicalMessage) :
    (frame.written message).output = if frame.advance.isComplete then some source.text else none := by
  simp [Written.output, OutgoingFrame.written, h]

theorem writeNext_eq {queue : PrioritizedFrameQueue} {frame : OutgoingFrame} {message : PhysicalMessage}
    (h : frame.messages[frame.nextIndex]? = some message)
    (put : PrioritizedFrameQueue → Option OutgoingFrame → PrioritizedFrameQueue) :
    queue.writeNext frame put =
      .wrote (put { queue with queuedBytes := queue.queuedBytes - message.byteLength } (kept frame))
        (frame.written message) := by
  simp only [PrioritizedFrameQueue.writeNext, h, kept]

/-- What `createFrame` leaves: one more id is used up, and the frame is either refused or created with
    every message still to be written. -/
theorem createFrame_cases (queue : PrioritizedFrameQueue) (frame : LogicalFrame) (key : Option JsString) :
    (∃ error, queue.createFrame frame key =
      ({ queue with nextFrameId := queue.nextFrameId + 1 }, .error error)) ∨
    ∃ queuedBytes outgoing, queue.createFrame frame key =
        ({ queue with nextFrameId := queue.nextFrameId + 1, queuedBytes }, .ok outgoing) ∧
      outgoing.id = frameId queue.idPrefix key (queue.nextFrameId + 1) ∧ isChunkId outgoing.id = true ∧
      (textEncode frame.text).length ≤ MAX_DATA_CHANNEL_FRAME_BYTES ∧
      outgoing.messages = (frameMessages frame.text outgoing.id).map physicalMessage ∧
      outgoing.nextIndex = 0 ∧ outgoing.transferKey = presentKey key ∧ outgoing.source = some frame := by
  simp only [PrioritizedFrameQueue.createFrame]
  cases hencode : encodeDataChannelFrame frame.text (frameId queue.idPrefix key (queue.nextFrameId + 1)) with
  | error error => exact .inl ⟨error, rfl⟩
  | ok values =>
    obtain ⟨hid, hmax, rfl⟩ := encodeDataChannelFrame_eq_ok_iff.mp hencode
    simp only
    split
    · exact .inl ⟨_, rfl⟩
    · exact .inr ⟨_, _, rfl, rfl, hid, hmax, rfl, rfl, rfl, rfl⟩

theorem presentKey_presentKey (key : Option JsString) : presentKey (presentKey key) = presentKey key := by
  match key with
  | none => rfl
  | some [] => rfl
  | some (_ :: _) => rfl

theorem foldl_discardFrame (discarded : Int × List JsString) (frames : List OutgoingFrame) :
    (frames.foldl PrioritizedFrameQueue.discardFrame discarded).2 =
      discarded.2 ++ (frames.filter OutgoingFrame.isPartial).map OutgoingFrame.id := by
  induction frames generalizing discarded with
  | nil => simp
  | cons frame frames ih =>
    rw [List.foldl_cons, ih, PrioritizedFrameQueue.discardFrame]
    cases hunfinished : frame.isPartial <;> simp [hunfinished]

theorem foldl_discardFrame_bytes (discarded : Int × List JsString) (frames : List OutgoingFrame) :
    (frames.foldl PrioritizedFrameQueue.discardFrame discarded).1 =
      discarded.1 - (frames.map OutgoingFrame.remainingBytes).sum := by
  induction frames generalizing discarded with
  | nil => simp
  | cons frame frames ih =>
    rw [List.foldl_cons, ih, PrioritizedFrameQueue.discardFrame, List.map_cons, List.sum_cons]
    omega

/-- The bytes of the envelope that cancels the frame of the given id. -/
def cancellationBytes (id : JsString) : Nat :=
  (physicalMessage (stringify (cancelValue id))).byteLength

theorem createCancellations_eq (queue : PrioritizedFrameQueue) {ids : List JsString}
    (h : ∀ id ∈ ids, isChunkId id = true) :
    queue.createCancellations ids =
      ({ queue with queuedBytes := queue.queuedBytes + (ids.map cancellationBytes).sum },
        .ok (ids.map fun id => PrioritizedFrameQueue.cancellation queue.idPrefix id (stringify (cancelValue id)))) := by
  induction ids generalizing queue with
  | nil => simp [PrioritizedFrameQueue.createCancellations]
  | cons id ids ih =>
    have hencode : encodeDataChannelFrameCancellation id = .ok (stringify (cancelValue id)) := by
      rw [encodeDataChannelFrameCancellation, if_neg (by simp [h id List.mem_cons_self])]
    have hrest := ih { queue with queuedBytes := queue.queuedBytes + cancellationBytes id }
      fun other hother => h other (List.mem_cons_of_mem _ hother)
    have hbytes : queue.queuedBytes + ((id :: ids).map cancellationBytes).sum =
        queue.queuedBytes + cancellationBytes id + (ids.map cancellationBytes).sum := by
      rw [List.map_cons, List.sum_cons]
      omega
    rw [PrioritizedFrameQueue.createCancellations, hencode, hbytes]
    rw [cancellationBytes] at hrest
    simp only [hrest]
    rfl

theorem createCancellations_ok (queue : PrioritizedFrameQueue) {ids : List JsString}
    (h : ∀ id ∈ ids, isChunkId id = true) :
    ∃ queuedBytes, queue.createCancellations ids = ({ queue with queuedBytes },
      .ok (ids.map fun id => PrioritizedFrameQueue.cancellation queue.idPrefix id (stringify (cancelValue id)))) :=
  ⟨_, createCancellations_eq queue h⟩

/-- A cancelled transfer and what is kept are what was queued. -/
theorem perm_discarded (control : List OutgoingFrame) (bulk : List BulkItem) (transferKey : JsString) :
    (((control.filter fun frame => frame.transferKey = some transferKey).reverse ++
        (bulk.filter fun item => item.transferKey = some transferKey).reverse.filterMap BulkItem.current) ++
      ((control.filter fun frame => frame.transferKey ≠ some transferKey) ++
        (bulk.filter fun item => item.transferKey ≠ some transferKey).filterMap BulkItem.current)).Perm
      (control ++ bulk.filterMap BulkItem.current) := by
  have hsplitControl : ((control.filter fun frame => decide (frame.transferKey = some transferKey)) ++
      control.filter fun frame => decide (frame.transferKey ≠ some transferKey)).Perm control := by
    simpa using List.filter_append_perm (fun frame => decide (frame.transferKey = some transferKey)) control
  have hsplitBulk : ((bulk.filter fun item => decide (item.transferKey = some transferKey)) ++
      bulk.filter fun item => decide (item.transferKey ≠ some transferKey)).Perm bulk := by
    simpa using List.filter_append_perm (fun item => decide (item.transferKey = some transferKey)) bulk
  have hbulkFrames := hsplitBulk.filterMap BulkItem.current
  rw [List.filterMap_append] at hbulkFrames
  have hdropped := (List.reverse_perm (control.filter fun frame => frame.transferKey = some transferKey)).append
    ((List.reverse_perm (bulk.filter fun item => item.transferKey = some transferKey)).filterMap BulkItem.current)
  refine (hdropped.append_right _).trans ?_
  rw [List.append_assoc]
  refine ((List.perm_append_comm_assoc _ _ _).append_left _).trans ?_
  rw [← List.append_assoc]
  exact hsplitControl.append hbulkFrames

theorem ids_of_unfinished {calls : List Call} {frames : List OutgoingFrame}
    (h : ∀ frame ∈ frames, ∃ lane source, LiveFrame calls lane frame source) :
    (frames.filter OutgoingFrame.isPartial).map OutgoingFrame.id = (frames.flatMap entryOf).map Prod.fst := by
  induction frames with
  | nil => rfl
  | cons frame frames ih =>
    obtain ⟨lane, source, hlive⟩ := h frame List.mem_cons_self
    have hrest := ih fun other hother => h other (List.mem_cons_of_mem _ hother)
    have hpending := hlive.pending
    rw [List.flatMap_cons, List.map_append, ← hrest]
    by_cases hzero : frame.nextIndex = 0
    · have hunfinished : frame.isPartial = false := by simp [OutgoingFrame.isPartial, hzero]
      rw [List.filter_cons_of_neg (by simp [hunfinished]), entryOf_fresh hzero]
      rfl
    · have hunfinished : frame.isPartial = true := by
        simp only [OutgoingFrame.isPartial, Bool.and_eq_true, decide_eq_true_eq]
        omega
      have hentry : (entryOf frame).map Prod.fst = [frame.id] := by
        simp only [entryOf, hlive.source_eq, if_neg hzero, List.map_cons, List.map_nil]
      rw [List.filter_cons_of_pos hunfinished, hentry]
      rfl

theorem mem_tail_of_mem_tail_filter {α : Type} {keep : α → Bool} {l : List α} {a : α}
    (h : a ∈ (l.filter keep).tail) : a ∈ l.tail := by
  cases l with
  | nil => simp at h
  | cons b l =>
    rw [List.tail_cons]
    by_cases hb : keep b = true
    · rw [List.filter_cons_of_pos hb, List.tail_cons] at h
      exact List.mem_of_mem_filter h
    · rw [List.filter_cons_of_neg hb] at h
      exact List.mem_of_mem_filter (List.mem_of_mem_tail h)

namespace LinkedBy

variable {calls : List Call} {number : Nat} {queue : PrioritizedFrameQueue} {decoder : DataChannelFrameDecoder}
  {completed : List LogicalFrame} {cancelled : List (JsString × PendingFrame)} {control : List OutgoingFrame}

theorem bulkEntries (h : LinkedBy calls number queue decoder completed cancelled control)
    {item : BulkItem} {rest : List BulkItem} (hbulk : queue.bulk = item :: rest) :
    queue.bulkFrames.flatMap entryOf = item.current.toList.flatMap entryOf := by
  have hfresh : (rest.filterMap BulkItem.current).flatMap entryOf = [] := by
    apply flatMap_entryOf_fresh
    intro frame hframe
    obtain ⟨other, hother, hcurrent⟩ := List.mem_filterMap.mp hframe
    exact h.freshBulk other (by rw [hbulk]; exact hother) frame hcurrent
  rw [PrioritizedFrameQueue.bulkFrames, hbulk, List.filterMap_cons]
  cases item.current with
  | none => exact hfresh
  | some frame =>
    simp only [List.flatMap_cons, Option.toList_some, List.flatMap_nil, hfresh]

theorem length_bulkEntries_le (h : LinkedBy calls number queue decoder completed cancelled control) :
    (queue.bulkFrames.flatMap entryOf).length ≤ 1 := by
  cases hbulk : queue.bulk with
  | nil => simp [PrioritizedFrameQueue.bulkFrames, hbulk]
  | cons item rest =>
    rw [h.bulkEntries hbulk]
    cases item.current with
    | none => simp
    | some frame => simpa using length_entryOf_le frame

/-- A queued cancellation goes out before every other message and removes its entry. -/
theorem writeCancellation {e : JsString × PendingFrame}
    (h : LinkedBy calls number queue decoder completed (e :: cancelled) control) :
    ∃ next written nextDecoder, queue.flushOnce = .wrote next written ∧
      decoder.accept written.message = (nextDecoder, .ok written.output) ∧
      LinkedBy calls number next nextDecoder (completed ++ completedOf [written]) cancelled control := by
  have hcontrol := h.control_eq
  rw [List.map_cons, List.cons_append] at hcontrol
  have hpending := h.pending
  rw [List.cons_append] at hpending
  have herased := OrderedMap.perm_erase hpending
  have hroom := h.room
  rw [OrderedMap.size_of_perm hpending, List.length_cons] at hroom
  refine ⟨{ queue with
      queuedBytes := queue.queuedBytes - (physicalMessage (stringify (cancelValue e.1))).byteLength
      control := cancelled.map (fun e =>
        PrioritizedFrameQueue.cancellation queue.idPrefix e.1 (stringify (cancelValue e.1))) ++ control },
    { source := none, last := true, message := stringify (cancelValue e.1) },
    ⟨decoder.pending.erase e.1⟩, ?_, ?_, ?_⟩
  · rw [PrioritizedFrameQueue.flushOnce, hcontrol]
    rfl
  · exact decoder.accept_cancel (h.cancelledIds e List.mem_cons_self)
  · have hnone : completedOf [{ source := none, last := true, message := stringify (cancelValue e.1) }] = [] := rfl
    rw [hnone, List.append_nil]
    exact { h with
      control_eq := rfl
      cancelledIds := fun e he => h.cancelledIds e (List.mem_cons_of_mem _ he)
      pending := herased
      room := by
        rw [OrderedMap.size_of_perm herased]
        omega }

theorem filter_done {done : List LogicalFrame} {source : LogicalFrame} {lane : Bool}
    (hdone : ∀ other ∈ done, other = source) (hlane : isControlFrame calls source = lane) :
    done.filter (isControlFrame calls) = (if lane then done else []) ∧
      done.filter (fun frame => !isControlFrame calls frame) = if lane then [] else done := by
  have hall : ∀ other ∈ done, isControlFrame calls other = lane := fun other hother => hdone other hother ▸ hlane
  cases lane with
  | true =>
    refine ⟨List.filter_eq_self.mpr hall, List.filter_eq_nil_iff.mpr ?_⟩
    intro other hother
    simp [hall other hother]
  | false =>
    refine ⟨List.filter_eq_nil_iff.mpr ?_, List.filter_eq_self.mpr ?_⟩
    · intro other hother
      simp [hall other hother]
    · intro other hother
      simp [hall other hother]

/-- The next message of the first control frame. -/
theorem writeControl {frame : OutgoingFrame}
    (h : LinkedBy calls number queue decoder completed [] (frame :: control)) :
    ∃ next written nextDecoder, queue.flushOnce = .wrote next written ∧
      decoder.accept written.message = (nextDecoder, .ok written.output) ∧
      LinkedBy calls number next nextDecoder (completed ++ completedOf [written]) []
        ((kept frame).toList ++ control) := by
  obtain ⟨source, hlive⟩ := h.liveControl frame List.mem_cons_self
  have hfresh : control.flatMap entryOf = [] := flatMap_entryOf_fresh h.freshControl
  have hpending : decoder.pending.entries.Perm (entryOf frame ++ queue.bulkFrames.flatMap entryOf) := by
    have hperm := h.pending
    rwa [List.nil_append, List.flatMap_append, List.flatMap_cons, hfresh, List.append_nil] at hperm
  have hids := h.ids
  rw [List.cons_append, List.map_cons, List.nodup_cons] at hids
  have hid : frame.id ∉ (queue.bulkFrames.flatMap entryOf).map Prod.fst := by
    intro hmem
    obtain ⟨e, he, heq⟩ := List.mem_map.mp hmem
    rw [List.map_append, List.mem_append, not_or] at hids
    exact hids.1.2 (heq ▸ mem_ids_of_mem_entryOf he)
  obtain ⟨message, nextDecoder, hmessage, haccept, hnext⟩ := hlive.accept hpending hid h.length_bulkEntries_le
  have hcontrol : queue.control = frame :: control := h.control_eq
  have hsources := completedOf_append_kept hlive.source_eq message
  have hlane := hlive.submitted.isControlFrame_eq
  have hdone : ∀ other ∈ completedOf [frame.written message], other = source := by
    intro other hother
    rw [← List.mem_singleton, ← hsources]
    exact List.mem_append_left _ hother
  have hentries : (if frame.advance.isComplete then [] else entryOf frame.advance) =
      (kept frame).toList.flatMap entryOf := by
    rw [kept]
    split <;> simp
  obtain ⟨hcontrolDone, hbulkDone⟩ := filter_done hdone hlane
  simp only [if_true] at hcontrolDone hbulkDone
  refine ⟨{ queue with
      queuedBytes := queue.queuedBytes - message.byteLength
      control := (kept frame).toList ++ control }, frame.written message, nextDecoder, ?_, ?_, ?_⟩
  · rw [PrioritizedFrameQueue.flushOnce, hcontrol]
    exact writeNext_eq hmessage _
  · rw [output_written hlive.source_eq]
    exact haccept
  · exact { h with
      control_eq := rfl
      liveControl := by
        intro other hother
        rw [List.mem_append, Option.mem_toList] at hother
        rcases hother with hkept | hrest
        · obtain ⟨hmore, rfl⟩ := eq_of_kept hkept
          exact ⟨source, hlive.advance hmore⟩
        · exact h.liveControl other (List.mem_cons_of_mem _ hrest)
      freshControl := by
        intro other hother
        refine h.freshControl other ?_
        rw [List.tail_cons]
        cases hkept : kept frame with
        | none => exact List.mem_of_mem_tail (by simpa [hkept] using hother)
        | some next => simpa [hkept] using hother
      ids := by
        have hsub := ((kept_ids frame).append_right ((control ++ queue.bulkFrames).map OutgoingFrame.id))
        rw [List.append_assoc, List.map_append]
        exact h.ids.sublist hsub
      issued := by
        intro other hother
        rw [List.append_assoc, List.mem_append, Option.mem_toList] at hother
        rcases hother with hkept | hrest
        · obtain ⟨_, rfl⟩ := eq_of_kept hkept
          exact h.issued frame List.mem_cons_self
        · exact h.issued other (List.mem_cons_of_mem _ hrest)
      pending := by
        rw [List.nil_append, List.append_assoc, List.flatMap_append, List.flatMap_append, hfresh, List.nil_append,
          ← hentries]
        exact hnext
      room := by
        have hbulk := h.length_bulkEntries_le
        have hone : ((kept frame).toList.flatMap entryOf).length ≤ 1 := by
          cases kept frame with
          | none => simp
          | some next => simpa using length_entryOf_le next
        rw [OrderedMap.size_of_perm hnext, hentries, List.length_append]
        omega
      controlOrder := by
        have horder := h.controlOrder
        rw [List.filterMap_cons, hlive.source_eq] at horder
        rw [List.filter_append, hcontrolDone, List.append_assoc, List.filterMap_append, ← List.append_assoc
          (completedOf _), hsources]
        exact horder
      bulkOrder := by
        rw [List.filter_append, hbulkDone, List.append_nil]
        exact h.bulkOrder
      submitted := by
        intro other hother
        rcases List.mem_append.mp hother with hold | hnew
        · exact h.submitted other hold
        · exact hdone other hnew ▸ ⟨_, _, hlive.submitted⟩
      known := by
        have hsame : ∀ other ∈ (kept frame).toList.filterMap OutgoingFrame.source, other = source := by
          intro other hother
          rw [← List.mem_singleton, ← hsources]
          exact List.mem_append_right _ hother
        have hsource := h.known source (by simp [hlive.source_eq])
        intro other hother
        rw [List.filterMap_append] at hother
        simp only [List.mem_append] at hother
        rcases hother with ((hold | hnew) | (hkept | hrest)) | hbulk
        · exact h.known other (by simp [hold])
        · exact hdone other hnew ▸ hsource
        · exact hsame other hkept ▸ hsource
        · exact h.known other (by simp [hlive.source_eq, hrest])
        · exact h.known other (by simp [hbulk]) }

theorem flushOnce_bulk {item : BulkItem} {rest : List BulkItem} {frame : OutgoingFrame}
    (hcontrol : queue.control = []) (hbulk : queue.bulk = item :: rest) (hcurrent : item.current = some frame) :
    queue.flushOnce = queue.writeNext frame (PrioritizedFrameQueue.putBulk item rest) := by
  rw [PrioritizedFrameQueue.flushOnce, hcontrol, hbulk]
  cases item with
  | frame outgoing =>
    cases hcurrent
    rfl
  | sequence outgoing =>
    rw [BulkItem.current] at hcurrent
    simp only [hcurrent]

/-- The next message of the first bulk item, when no control frame is queued. -/
theorem writeBulk {item : BulkItem} {rest : List BulkItem} {frame : OutgoingFrame}
    (h : LinkedBy calls number queue decoder completed [] []) (hbulk : queue.bulk = item :: rest)
    (hcurrent : item.current = some frame) :
    ∃ next written nextDecoder, queue.flushOnce = .wrote next written ∧
      decoder.accept written.message = (nextDecoder, .ok written.output) ∧
      LinkedBy calls number next nextDecoder (completed ++ completedOf [written]) [] [] := by
  have hitem := h.liveBulk item (by rw [hbulk]; exact List.mem_cons_self)
  obtain ⟨hkey, source, hlive⟩ := hitem.current frame hcurrent
  have hpending : decoder.pending.entries.Perm (entryOf frame ++ []) := by
    have hperm := h.pending
    rw [List.nil_append, List.nil_append, h.bulkEntries hbulk, hcurrent] at hperm
    simpa using hperm
  obtain ⟨message, nextDecoder, hmessage, haccept, hnext⟩ := hlive.accept hpending (by simp) (by simp)
  have hsources := completedOf_append_kept hlive.source_eq message
  have hdone : ∀ other ∈ completedOf [frame.written message], other = source := by
    intro other hother
    rw [← List.mem_singleton, ← hsources]
    exact List.mem_append_left _ hother
  have hsame : ∀ other ∈ (kept frame).toList.filterMap OutgoingFrame.source, other = source := by
    intro other hother
    rw [← List.mem_singleton, ← hsources]
    exact List.mem_append_right _ hother
  obtain ⟨hcontrolDone, hbulkDone⟩ := filter_done hdone hlive.submitted.isControlFrame_eq
  simp only [Bool.false_eq_true, if_false] at hcontrolDone hbulkDone
  have hkeptSource : ((kept frame).bind OutgoingFrame.source).toList =
      (kept frame).toList.filterMap OutgoingFrame.source := by
    cases kept frame with
    | none => rfl
    | some next => cases hs : next.source <;> simp [hs]
  have hitemSources : item.sources = source :: item.upcoming := by
    simp [BulkItem.sources, hcurrent, hlive.source_eq]
  have hframes : ({ queue with
      queuedBytes := queue.queuedBytes - message.byteLength
      bulk := item.replace (kept frame) ++ rest } : PrioritizedFrameQueue).bulkFrames =
      (kept frame).toList ++ rest.filterMap BulkItem.current := by
    simp only [PrioritizedFrameQueue.bulkFrames, List.filterMap_append, BulkItem.current_replace]
  have hold : queue.bulkFrames = frame :: rest.filterMap BulkItem.current := by
    simp only [PrioritizedFrameQueue.bulkFrames, hbulk, List.filterMap_cons, hcurrent]
  have hfresh : (rest.filterMap BulkItem.current).flatMap entryOf = [] := by
    apply flatMap_entryOf_fresh
    intro other hother
    obtain ⟨i, hi, hi'⟩ := List.mem_filterMap.mp hother
    exact h.freshBulk i (by rw [hbulk]; exact hi) other hi'
  have hentries : (if frame.advance.isComplete then [] else entryOf frame.advance) =
      (kept frame).toList.flatMap entryOf := by
    rw [kept]
    split <;> simp
  refine ⟨{ queue with
      queuedBytes := queue.queuedBytes - message.byteLength
      bulk := item.replace (kept frame) ++ rest }, frame.written message, nextDecoder, ?_, ?_, ?_⟩
  · rw [flushOnce_bulk (by simpa using h.control_eq) hbulk hcurrent]
    exact writeNext_eq hmessage _
  · rw [output_written hlive.source_eq]
    exact haccept
  · exact { h with
      liveBulk := by
        intro other hother
        rcases List.mem_append.mp hother with hreplaced | hrest
        · refine hitem.replace (fun next hkept => ?_) other hreplaced
          obtain ⟨hmore, rfl⟩ := eq_of_kept hkept
          exact ⟨hkey, source, hlive.advance hmore⟩
        · exact h.liveBulk other (by rw [hbulk]; exact List.mem_cons_of_mem _ hrest)
      freshBulk := by
        intro other hother next hnext
        have hrest : other ∈ rest := by
          cases item with
          | frame outgoing =>
            cases hkept : kept frame with
            | none => exact List.mem_of_mem_tail (by simpa [hkept, BulkItem.replace] using hother)
            | some _ => simpa [hkept, BulkItem.replace] using hother
          | sequence outgoing => simpa [BulkItem.replace] using hother
        exact h.freshBulk other (by rw [hbulk]; exact hrest) next hnext
      ids := by
        have hids := h.ids
        rw [List.nil_append, hold, List.map_cons] at hids
        rw [List.nil_append, hframes, List.map_append]
        exact hids.sublist ((kept_ids frame).append_right _)
      issued := by
        intro other hother
        rw [List.nil_append, hframes, List.mem_append, Option.mem_toList] at hother
        rcases hother with hkept | hrest
        · obtain ⟨_, rfl⟩ := eq_of_kept hkept
          exact h.issued frame (by rw [List.nil_append, hold]; exact List.mem_cons_self)
        · exact h.issued other (by rw [List.nil_append, hold]; exact List.mem_cons_of_mem _ hrest)
      pending := by
        rw [List.nil_append, List.nil_append, hframes, List.flatMap_append, hfresh, ← hentries]
        exact hnext
      room := by
        have hone : ((kept frame).toList.flatMap entryOf).length ≤ 1 := by
          cases kept frame with
          | none => simp
          | some next => simpa using length_entryOf_le next
        rw [OrderedMap.size_of_perm hnext, hentries, List.length_append, List.length_nil]
        omega
      controlOrder := by
        rw [List.filter_append, hcontrolDone, List.append_nil]
        exact h.controlOrder
      bulkOrder := by
        have horder := h.bulkOrder
        rw [hbulk, List.flatMap_cons, hitemSources] at horder
        rw [List.filter_append, hbulkDone, List.flatMap_append, BulkItem.sources_replace, hkeptSource,
          List.append_assoc, List.append_assoc, ← List.append_assoc (completedOf _), hsources]
        exact horder
      submitted := by
        intro other hother
        rcases List.mem_append.mp hother with hprior | hnew
        · exact h.submitted other hprior
        · exact hdone other hnew ▸ ⟨_, _, hlive.submitted⟩
      known := by
        have hsource := h.known source (by simp [hbulk, hitemSources])
        intro other hother
        rw [List.flatMap_append, BulkItem.sources_replace, hkeptSource] at hother
        simp only [List.mem_append, List.filterMap_nil, List.not_mem_nil, or_false] at hother
        rcases hother with (hprior | hnew) | (hkept | hupcoming) | hrest
        · exact h.known other (by simp [hprior])
        · exact hdone other hnew ▸ hsource
        · exact hsame other hkept ▸ hsource
        · exact h.known other (by simp [hbulk, hitemSources, hupcoming])
        · exact h.known other (by
            rw [hbulk, List.flatMap_cons]
            simp only [List.mem_append, hrest, or_true]) }

theorem renumber (h : LinkedBy calls number queue decoder completed cancelled control) (queuedBytes : Int) :
    LinkedBy calls number { queue with nextFrameId := queue.nextFrameId + 1, queuedBytes } decoder completed
      cancelled control :=
  { h with
    issued := fun frame hframe => by
      obtain ⟨key, n, hn, hid⟩ := h.issued frame hframe
      exact ⟨key, n, Nat.le_succ_of_le hn, hid⟩ }

theorem fresh_id (h : LinkedBy calls number queue decoder completed cancelled control)
    (key : Option JsString) :
    frameId queue.idPrefix key (queue.nextFrameId + 1) ∉
      (control ++ queue.bulkFrames).map OutgoingFrame.id := by
  intro hmem
  obtain ⟨frame, hframe, heq⟩ := List.mem_map.mp hmem
  obtain ⟨other, n, hn, hid⟩ := h.issued frame hframe
  have hsame := frameId_injective h.carrier (hid.symm.trans heq)
  omega

theorem skip {sequence : OutgoingSequence} {rest : List BulkItem}
    (h : LinkedBy calls number queue decoder completed cancelled control)
    (hbulk : queue.bulk = .sequence sequence :: rest) (hcurrent : sequence.current = none) :
    LinkedBy calls number { queue with bulk := rest } decoder completed cancelled control := by
  have hframes : queue.bulkFrames = ({ queue with bulk := rest } : PrioritizedFrameQueue).bulkFrames := by
    simp only [PrioritizedFrameQueue.bulkFrames, hbulk, List.filterMap_cons, BulkItem.current, hcurrent]
  have hsub : (rest.flatMap BulkItem.sources).Sublist (queue.bulk.flatMap BulkItem.sources) := by
    rw [hbulk, List.flatMap_cons]
    exact List.sublist_append_right _ _
  exact { h with
    liveBulk := fun item hitem => h.liveBulk item (by rw [hbulk]; exact List.mem_cons_of_mem _ hitem)
    freshBulk := fun item hitem => h.freshBulk item (by rw [hbulk]; exact List.mem_of_mem_tail hitem)
    ids := hframes ▸ h.ids
    issued := hframes ▸ h.issued
    pending := hframes ▸ h.pending
    bulkOrder := h.bulkOrder.sublist (hsub.append_left _)
    known := fun frame hframe => h.known frame ((hsub.append_left _).subset hframe) }

/-- A sequence that loses the next frame of its iterator. -/
theorem dropNext {sequence : OutgoingSequence} {rest : List BulkItem} {next : LogicalFrame}
    {iterator : List LogicalFrame} (h : LinkedBy calls number queue decoder completed cancelled control)
    (hbulk : queue.bulk = .sequence sequence :: rest) (hcurrent : sequence.current = none)
    (hiterator : sequence.iterator = next :: iterator) :
    LinkedBy calls number { queue with bulk := .sequence { sequence with iterator } :: rest } decoder completed
      cancelled control := by
  have hitem := h.liveBulk (.sequence sequence) (by rw [hbulk]; exact List.mem_cons_self)
  have hframes : queue.bulkFrames =
      ({ queue with bulk := .sequence { sequence with iterator } :: rest } : PrioritizedFrameQueue).bulkFrames := by
    simp only [PrioritizedFrameQueue.bulkFrames, hbulk, List.filterMap_cons, BulkItem.current, hcurrent]
  have hsub : ((BulkItem.sequence { sequence with iterator } :: rest).flatMap BulkItem.sources).Sublist
      (queue.bulk.flatMap BulkItem.sources) := by
    rw [hbulk, List.flatMap_cons, List.flatMap_cons]
    refine List.Sublist.append_right ?_ _
    simp only [BulkItem.sources, BulkItem.upcoming, hiterator]
    exact List.Sublist.append_left (List.sublist_cons_self _ _) _
  exact { h with
    liveBulk := by
      intro item hmem
      rcases List.mem_cons.mp hmem with rfl | hrest
      · refine ⟨hitem.current, fun upcoming hupcoming => ?_, hitem.key⟩
        exact hitem.upcoming upcoming (by
          rw [BulkItem.upcoming, hiterator]
          exact List.mem_cons_of_mem _ hupcoming)
      · exact h.liveBulk item (by rw [hbulk]; exact List.mem_cons_of_mem _ hrest)
    freshBulk := fun item hmem => h.freshBulk item (by rw [hbulk]; exact hmem)
    ids := hframes ▸ h.ids
    issued := hframes ▸ h.issued
    pending := hframes ▸ h.pending
    bulkOrder := h.bulkOrder.sublist (hsub.append_left _)
    known := fun frame hframe => h.known frame ((hsub.append_left _).subset hframe) }

/-- A sequence whose next frame has been given its messages. -/
theorem expand {sequence : OutgoingSequence} {rest : List BulkItem} {next : LogicalFrame}
    {iterator : List LogicalFrame} {outgoing : OutgoingFrame} (queuedBytes : Int)
    (h : LinkedBy calls number queue decoder completed cancelled control)
    (hbulk : queue.bulk = .sequence sequence :: rest) (hcurrent : sequence.current = none)
    (hiterator : sequence.iterator = next :: iterator)
    (hid : outgoing.id = frameId queue.idPrefix sequence.transferKey (queue.nextFrameId + 1))
    (hchunkId : isChunkId outgoing.id = true)
    (hmax : (textEncode next.text).length ≤ MAX_DATA_CHANNEL_FRAME_BYTES)
    (hmessages : outgoing.messages = (frameMessages next.text outgoing.id).map physicalMessage)
    (hzero : outgoing.nextIndex = 0) (hkey : outgoing.transferKey = presentKey sequence.transferKey)
    (hsource : outgoing.source = some next) :
    LinkedBy calls number
      { queue with
        nextFrameId := queue.nextFrameId + 1
        queuedBytes := queuedBytes
        bulk := .sequence { sequence with iterator, current := some outgoing } :: rest }
      decoder completed cancelled control := by
  have hitem := h.liveBulk (.sequence sequence) (by rw [hbulk]; exact List.mem_cons_self)
  have hsame : outgoing.transferKey = sequence.transferKey := hkey.trans hitem.key
  obtain ⟨hsubmitted, hlogical⟩ := hitem.upcoming next (by
    rw [BulkItem.upcoming, hiterator]
    exact List.mem_cons_self)
  have hlive : LiveFrame calls false outgoing next :=
    { source_eq := hsource
      submitted := hsame ▸ hsubmitted
      logical := hlogical
      chunkId := hchunkId
      max := hmax
      messages := hmessages
      pending := by
        rw [hmessages, hzero, List.length_map]
        exact frameMessages_ne_nil _ _ }
  have hold : queue.bulkFrames = rest.filterMap BulkItem.current := by
    simp only [PrioritizedFrameQueue.bulkFrames, hbulk, List.filterMap_cons, BulkItem.current, hcurrent]
  have hfresh := h.fresh_id sequence.transferKey
  rw [← hid, hold] at hfresh
  have hsources : (BulkItem.sequence { sequence with iterator, current := some outgoing }).sources =
      (BulkItem.sequence sequence).sources := by
    simp [BulkItem.sources, BulkItem.current, BulkItem.upcoming, hcurrent, hsource, hiterator]
  have hperm : (control ++ outgoing :: rest.filterMap BulkItem.current).Perm
      (outgoing :: (control ++ rest.filterMap BulkItem.current)) := List.perm_middle
  have hrenumbered := h.renumber queuedBytes
  exact { hrenumbered with
    liveBulk := by
      intro item hmem
      rcases List.mem_cons.mp hmem with rfl | hrest
      · refine ⟨?_, fun upcoming hupcoming => ?_, hitem.key⟩
        · rintro _ ⟨⟩
          exact ⟨hsame, next, hlive⟩
        · exact hitem.upcoming upcoming (by
            rw [BulkItem.upcoming, hiterator]
            exact List.mem_cons_of_mem _ hupcoming)
      · exact h.liveBulk item (by rw [hbulk]; exact List.mem_cons_of_mem _ hrest)
    freshBulk := fun item hmem => h.freshBulk item (by rw [hbulk]; exact hmem)
    ids := by
      have hids := h.ids
      rw [hold] at hids
      exact ((hperm.map _).nodup_iff).mpr (List.nodup_cons.mpr ⟨hfresh, hids⟩)
    issued := by
      intro frame hframe
      rcases List.mem_cons.mp (hperm.mem_iff.mp hframe) with rfl | hrest
      · exact ⟨_, _, Nat.le_refl _, hid⟩
      · exact hrenumbered.issued frame (by rw [← hold] at hrest; exact hrest)
    pending := by
      have hpending := h.pending
      rw [hold] at hpending
      have hentries := hperm.flatMap_right entryOf
      rw [List.flatMap_cons, entryOf_fresh hzero, List.nil_append] at hentries
      exact hpending.trans (hentries.symm.append_left _)
    bulkOrder := by
      have horder := h.bulkOrder
      rw [hbulk, List.flatMap_cons] at horder
      rw [List.flatMap_cons, hsources]
      exact horder
    known := by
      have hknown := h.known
      rw [hbulk, List.flatMap_cons] at hknown
      rw [List.flatMap_cons, hsources]
      exact hknown }

theorem advanceCall (h : LinkedBy calls number queue decoder completed cancelled control) :
    LinkedBy calls (number + 1) queue decoder completed cancelled control :=
  { h with known := fun frame hframe => Nat.lt_succ_of_lt (h.known frame hframe) }

theorem pairwise_snoc {front fresh : List LogicalFrame} (hfront : front.Pairwise Before)
    (hfresh : fresh.Pairwise Before) (hold : ∀ frame ∈ front, frame.call < number)
    (hnew : ∀ frame ∈ fresh, frame.call = number) : (front ++ fresh).Pairwise Before := by
  rw [List.pairwise_append]
  refine ⟨hfront, hfresh, fun frame hframe other hother => .inl ?_⟩
  rw [hnew other hother]
  exact hold frame hframe

/-- A live control frame of this call joins the end of its lane. -/
theorem pushControl {frame : OutgoingFrame} {source : LogicalFrame}
    (h : LinkedBy calls number queue decoder completed cancelled control)
    (hlive : LiveFrame calls true frame source) (hzero : frame.nextIndex = 0)
    (hid : frame.id ∉ (control ++ queue.bulkFrames).map OutgoingFrame.id)
    (hissued : ∃ key n, n ≤ queue.nextFrameId ∧ frame.id = frameId queue.idPrefix key n)
    (hcall : source.call = number) :
    LinkedBy calls (number + 1) { queue with control := queue.control ++ [frame] } decoder completed cancelled
      (control ++ [frame]) := by
  have hperm : (control ++ [frame] ++ queue.bulkFrames).Perm (frame :: (control ++ queue.bulkFrames)) := by
    rw [List.append_assoc]
    exact List.perm_middle
  have hsource : [frame].filterMap OutgoingFrame.source = [source] := by simp [hlive.source_eq]
  exact { h with
    control_eq := by simp only [h.control_eq, List.append_assoc]
    liveControl := by
      intro other hother
      rcases List.mem_append.mp hother with hold | hnew
      · exact h.liveControl other hold
      · rw [List.mem_singleton] at hnew
        exact ⟨source, hnew ▸ hlive⟩
    freshControl := by
      intro other hother
      cases hcontrol : control with
      | nil => simp [hcontrol] at hother
      | cons first rest =>
        rw [hcontrol, List.cons_append, List.tail_cons, List.mem_append, List.mem_singleton] at hother
        rcases hother with hold | rfl
        · exact h.freshControl other (by rw [hcontrol]; exact hold)
        · exact hzero
    ids := ((hperm.map _).nodup_iff).mpr (List.nodup_cons.mpr ⟨hid, h.ids⟩)
    issued := by
      intro other hother
      rcases List.mem_cons.mp (hperm.mem_iff.mp hother) with rfl | hold
      · exact hissued
      · exact h.issued other hold
    pending := by
      have hentries := hperm.flatMap_right entryOf
      rw [List.flatMap_cons, entryOf_fresh hzero, List.nil_append] at hentries
      exact h.pending.trans (hentries.symm.append_left _)
    controlOrder := by
      rw [List.filterMap_append, ← List.append_assoc, hsource]
      refine pairwise_snoc h.controlOrder (List.pairwise_singleton _ _) (fun other hother => ?_)
        (fun other hother => by rw [List.mem_singleton.mp hother, hcall])
      rcases List.mem_append.mp hother with hdone | hlive
      · exact h.known other (by simp [List.mem_of_mem_filter hdone])
      · exact h.known other (by simp only [List.mem_append, hlive, or_true, true_or])
    known := by
      intro other hother
      rw [List.filterMap_append, hsource] at hother
      simp only [List.mem_append, List.mem_singleton] at hother
      rcases hother with (hdone | hold | rfl) | hbulk
      · exact Nat.lt_succ_of_lt (h.known other (by simp [hdone]))
      · exact Nat.lt_succ_of_lt (h.known other (by simp only [List.mem_append, hold, or_true, true_or]))
      · omega
      · exact Nat.lt_succ_of_lt (h.known other (by simp only [List.mem_append, hbulk, or_true])) }

/-- A live bulk item of this call joins the end of its lane. -/
theorem pushBulk {item : BulkItem} (h : LinkedBy calls number queue decoder completed cancelled control)
    (hlive : item.Live calls)
    (hcurrent : ∀ frame, item.current = some frame → frame.nextIndex = 0 ∧
      frame.id ∉ (control ++ queue.bulkFrames).map OutgoingFrame.id ∧
      ∃ key n, n ≤ queue.nextFrameId ∧ frame.id = frameId queue.idPrefix key n)
    (hcall : ∀ source ∈ item.sources, source.call = number) (hsorted : item.sources.Pairwise Before) :
    LinkedBy calls (number + 1) { queue with bulk := queue.bulk ++ [item] } decoder completed cancelled
      control := by
  have hframes : ({ queue with bulk := queue.bulk ++ [item] } : PrioritizedFrameQueue).bulkFrames =
      queue.bulkFrames ++ item.current.toList := by
    cases hitem : item.current <;>
      simp [PrioritizedFrameQueue.bulkFrames, List.filterMap_append, hitem]
  have hperm : (control ++ (queue.bulkFrames ++ item.current.toList)).Perm
      (item.current.toList ++ (control ++ queue.bulkFrames)) := by
    rw [← List.append_assoc]
    exact List.perm_append_comm
  have hfresh : item.current.toList.flatMap entryOf = [] :=
    flatMap_entryOf_fresh fun frame hframe => (hcurrent frame (Option.mem_toList.mp hframe)).1
  have hsources : (queue.bulk ++ [item]).flatMap BulkItem.sources =
      queue.bulk.flatMap BulkItem.sources ++ item.sources := by simp
  exact { h with
    liveBulk := by
      intro other hother
      rcases List.mem_append.mp hother with hold | hnew
      · exact h.liveBulk other hold
      · exact List.mem_singleton.mp hnew ▸ hlive
    freshBulk := by
      intro other hother frame hframe
      cases hbulk : queue.bulk with
      | nil => simp [hbulk] at hother
      | cons first rest =>
        simp only [hbulk, List.cons_append, List.tail_cons, List.mem_append, List.mem_singleton] at hother
        rcases hother with hold | rfl
        · exact h.freshBulk other (by rw [hbulk]; exact hold) frame hframe
        · exact (hcurrent frame hframe).1
    ids := by
      rw [hframes, (hperm.map _).nodup_iff, List.map_append]
      cases hitem : item.current with
      | none => exact h.ids
      | some frame => exact List.nodup_cons.mpr ⟨(hcurrent frame hitem).2.1, h.ids⟩
    issued := by
      intro other hother
      rw [hframes, hperm.mem_iff, List.mem_append, Option.mem_toList] at hother
      rcases hother with hnew | hold
      · exact (hcurrent other hnew).2.2
      · exact h.issued other hold
    pending := by
      have hentries := hperm.flatMap_right entryOf
      have hnone : (item.current.toList ++ (control ++ queue.bulkFrames)).flatMap entryOf =
          (control ++ queue.bulkFrames).flatMap entryOf := by
        rw [List.flatMap_append, hfresh, List.nil_append]
      rw [hnone] at hentries
      rw [hframes]
      exact h.pending.trans (hentries.symm.append_left _)
    bulkOrder := by
      rw [hsources, ← List.append_assoc]
      refine pairwise_snoc h.bulkOrder hsorted (fun other hother => ?_) hcall
      rcases List.mem_append.mp hother with hdone | hold
      · exact h.known other (by simp [List.mem_of_mem_filter hdone])
      · exact h.known other (by simp only [List.mem_append, hold, or_true])
    known := by
      intro other hother
      rw [hsources] at hother
      simp only [List.mem_append] at hother
      rcases hother with (hdone | hcontrol) | hold | hnew
      · exact Nat.lt_succ_of_lt (h.known other (by simp [hdone]))
      · exact Nat.lt_succ_of_lt (h.known other (by simp only [List.mem_append, hcontrol, or_true, true_or]))
      · exact Nat.lt_succ_of_lt (h.known other (by simp only [List.mem_append, hold, or_true]))
      · have hnumber := hcall other hnew
        omega }

theorem live_created (h : LinkedBy calls number queue decoder completed cancelled control) :
    ∀ frame ∈ control ++ queue.bulkFrames, ∃ lane source, LiveFrame calls lane frame source := by
  intro frame hframe
  rcases List.mem_append.mp hframe with hcontrol | hbulk
  · exact ⟨true, h.liveControl frame hcontrol⟩
  · obtain ⟨item, hitem, hcurrent⟩ := List.mem_filterMap.mp hbulk
    exact ⟨false, ((h.liveBulk item hitem).current frame hcurrent).2⟩

/-- Queued frames with a key are dropped; a partly written one leaves its decoder entry to the
    cancellation that takes its place. -/
theorem cancel (h : LinkedBy calls number queue decoder completed cancelled control) (transferKey : JsString)
    (queuedBytes : Int) {discarded : List OutgoingFrame}
    (hdiscarded : discarded = (queue.control.filter fun frame => frame.transferKey = some transferKey).reverse ++
      (queue.bulk.filter fun item => item.transferKey = some transferKey).reverse.filterMap BulkItem.current) :
    (∀ frame ∈ discarded, ∃ lane source, LiveFrame calls lane frame source) ∧
    LinkedBy calls number
      { queue with
        control := (discarded.flatMap entryOf).map (fun e =>
            PrioritizedFrameQueue.cancellation queue.idPrefix e.1 (stringify (cancelValue e.1))) ++
          queue.control.filter fun frame => frame.transferKey ≠ some transferKey
        bulk := queue.bulk.filter fun item => item.transferKey ≠ some transferKey
        queuedBytes := queuedBytes }
      decoder completed (discarded.flatMap entryOf ++ cancelled)
      (control.filter fun frame => frame.transferKey ≠ some transferKey) := by
  have hdrop : queue.control.filter (fun frame => decide (frame.transferKey = some transferKey)) =
      control.filter fun frame => frame.transferKey = some transferKey := by
    rw [h.control_eq, List.filter_append, List.filter_eq_nil_iff.mpr, List.nil_append]
    intro frame hframe
    obtain ⟨e, _, rfl⟩ := List.mem_map.mp hframe
    simp [PrioritizedFrameQueue.cancellation]
  have hkeep : queue.control.filter (fun frame => decide (frame.transferKey ≠ some transferKey)) =
      cancelled.map (fun e => PrioritizedFrameQueue.cancellation queue.idPrefix e.1 (stringify (cancelValue e.1))) ++
        control.filter fun frame => frame.transferKey ≠ some transferKey := by
    rw [h.control_eq, List.filter_append, List.filter_eq_self.mpr]
    intro frame hframe
    obtain ⟨e, _, rfl⟩ := List.mem_map.mp hframe
    simp [PrioritizedFrameQueue.cancellation]
  rw [hdrop] at hdiscarded
  have hperm : (discarded ++ ((control.filter fun frame => decide (frame.transferKey ≠ some transferKey)) ++
      (queue.bulk.filter fun item => decide (item.transferKey ≠ some transferKey)).filterMap
        BulkItem.current)).Perm (control ++ queue.bulkFrames) := by
    rw [hdiscarded]
    exact perm_discarded control queue.bulk transferKey
  have hlive : ∀ frame ∈ discarded, ∃ lane source, LiveFrame calls lane frame source :=
    fun frame hframe => h.live_created frame (hperm.subset (List.mem_append_left _ hframe))
  have hentries := hperm.flatMap_right entryOf
  rw [List.flatMap_append] at hentries
  have hcreated : ((control.filter fun frame => decide (frame.transferKey ≠ some transferKey)) ++
      (queue.bulk.filter fun item => decide (item.transferKey ≠ some transferKey)).filterMap
        BulkItem.current).Sublist (control ++ queue.bulkFrames) :=
    List.filter_sublist.append (List.filter_sublist.filterMap _)
  refine ⟨hlive, { h with
    control_eq := by rw [hkeep, List.map_append, List.append_assoc]
    cancelledIds := ?_
    liveControl := fun frame hframe => h.liveControl frame (List.mem_of_mem_filter hframe)
    liveBulk := fun item hitem => h.liveBulk item (List.mem_of_mem_filter hitem)
    freshControl := fun frame hframe => h.freshControl frame (mem_tail_of_mem_tail_filter hframe)
    freshBulk := fun item hitem => h.freshBulk item (mem_tail_of_mem_tail_filter hitem)
    ids := h.ids.sublist (hcreated.map _)
    issued := fun frame hframe => h.issued frame (hcreated.subset hframe)
    pending := ?_
    controlOrder := h.controlOrder.sublist ((List.filter_sublist.filterMap _).append_left _)
    bulkOrder := h.bulkOrder.sublist ((List.filter_sublist.flatMap _).append_left _)
    known := ?_ }⟩
  · intro e he
    rcases List.mem_append.mp he with hnew | hold
    · obtain ⟨frame, hframe, hid⟩ := List.mem_map.mp (mem_ids_of_mem_entryOf hnew)
      obtain ⟨_, _, hframeLive⟩ := hlive frame hframe
      exact hid ▸ hframeLive.chunkId
    · exact h.cancelledIds e hold
  · refine h.pending.trans ((hentries.symm.append_left _).trans ?_)
    rw [← List.append_assoc]
    exact List.perm_append_comm.append_right _
  · intro frame hframe
    have hsub : (completed ++ (control.filter fun frame => decide (frame.transferKey ≠ some transferKey)).filterMap
        OutgoingFrame.source ++ (queue.bulk.filter fun item => decide (item.transferKey ≠ some transferKey)).flatMap
        BulkItem.sources).Sublist
        (completed ++ control.filterMap OutgoingFrame.source ++ queue.bulk.flatMap BulkItem.sources) :=
      ((List.filter_sublist.filterMap _).append_left _).append (List.filter_sublist.flatMap _)
    exact h.known frame (hsub.subset hframe)

/-- Every queued frame was submitted, under the transfer key it is queued with. -/
theorem sources_submitted (h : LinkedBy calls number queue decoder completed cancelled control) :
    ∀ source ∈ queue.sources, ∃ lane key, Submitted calls source lane key ∧
      ((∃ frame ∈ queue.control, frame.transferKey = key) ∨ ∃ item ∈ queue.bulk, item.transferKey = key) := by
  intro source hsource
  rw [PrioritizedFrameQueue.sources, List.mem_append] at hsource
  rcases hsource with hcontrol | hbulk
  · obtain ⟨frame, hframe, heq⟩ := List.mem_filterMap.mp hcontrol
    have hqueued := hframe
    rw [h.control_eq, List.mem_append] at hframe
    rcases hframe with hcancelled | hdata
    · obtain ⟨e, _, rfl⟩ := List.mem_map.mp hcancelled
      cases heq
    · obtain ⟨other, hlive⟩ := h.liveControl frame hdata
      rw [hlive.source_eq, Option.some.injEq] at heq
      exact ⟨true, _, heq ▸ hlive.submitted, .inl ⟨frame, hqueued, rfl⟩⟩
  · obtain ⟨item, hitem, hmem⟩ := List.mem_flatMap.mp hbulk
    have hlive := h.liveBulk item hitem
    rw [BulkItem.sources, List.mem_append, Option.mem_toList] at hmem
    rcases hmem with hcurrent | hupcoming
    · obtain ⟨frame, hframe, heq⟩ := Option.bind_eq_some_iff.mp hcurrent
      obtain ⟨hkey, other, hframeLive⟩ := hlive.current frame hframe
      rw [hframeLive.source_eq, Option.some.injEq] at heq
      exact ⟨false, _, heq ▸ hframeLive.submitted, .inr ⟨item, hitem, hkey.symm⟩⟩
    · exact ⟨false, _, (hlive.upcoming source hupcoming).1, .inr ⟨item, hitem, rfl⟩⟩

end LinkedBy

/-- One round of `flush` keeps the queue and the decoder linked, whatever message it writes. -/
theorem Linked.flushOnce {calls : List Call} {number : Nat} {queue : PrioritizedFrameQueue}
    {decoder : DataChannelFrameDecoder} {completed : List LogicalFrame}
    (h : Linked calls number queue decoder completed) :
    queue.flushOnce = .stopped ∨
    (∃ next, queue.flushOnce = .skipped next ∧ Linked calls number next decoder completed) ∨
    (∃ next error, queue.flushOnce = .failed next error ∧ Linked calls number next decoder completed) ∨
    ∃ next written nextDecoder, queue.flushOnce = .wrote next written ∧
      decoder.accept written.message = (nextDecoder, .ok written.output) ∧
      Linked calls number next nextDecoder (completed ++ completedOf [written]) := by
  obtain ⟨cancelled, control, h⟩ := h
  cases cancelled with
  | cons e cancelled =>
    obtain ⟨next, written, nextDecoder, hflush, haccept, hnext⟩ := h.writeCancellation
    exact .inr (.inr (.inr ⟨next, written, nextDecoder, hflush, haccept, _, _, hnext⟩))
  | nil =>
    cases control with
    | cons frame control =>
      obtain ⟨next, written, nextDecoder, hflush, haccept, hnext⟩ := h.writeControl
      exact .inr (.inr (.inr ⟨next, written, nextDecoder, hflush, haccept, _, _, hnext⟩))
    | nil =>
      have hcontrol : queue.control = [] := h.control_eq
      cases hbulk : queue.bulk with
      | nil =>
        left
        rw [PrioritizedFrameQueue.flushOnce, hcontrol, hbulk]
      | cons item rest =>
        cases hcurrent : item.current with
        | some frame =>
          obtain ⟨next, written, nextDecoder, hflush, haccept, hnext⟩ := h.writeBulk hbulk hcurrent
          exact .inr (.inr (.inr ⟨next, written, nextDecoder, hflush, haccept, _, _, hnext⟩))
        | none =>
          cases item with
          | frame outgoing => cases hcurrent
          | sequence sequence =>
            rw [BulkItem.current] at hcurrent
            cases hiterator : sequence.iterator with
            | nil =>
              right
              left
              refine ⟨{ queue with bulk := rest }, ?_, _, _, h.skip hbulk hcurrent⟩
              rw [PrioritizedFrameQueue.flushOnce, hcontrol, hbulk]
              simp only [hcurrent, hiterator]
            | cons next iterator =>
              obtain ⟨error, hcreate⟩ | ⟨queuedBytes, outgoing, hcreate, hid, hchunkId, hmax, hmessages, hzero,
                hkey, hsource⟩ := createFrame_cases queue next sequence.transferKey
              · right
                right
                left
                have hdropped := (h.dropNext hbulk hcurrent hiterator).renumber queue.queuedBytes
                refine ⟨_, error, ?_, _, _, hdropped⟩
                rw [PrioritizedFrameQueue.flushOnce, hcontrol, hbulk]
                simp only [hcurrent, hiterator, hcreate, hcontrol]
              · have hexpanded := h.expand queuedBytes hbulk hcurrent hiterator hid hchunkId hmax
                  hmessages hzero hkey hsource
                obtain ⟨next', written, nextDecoder, hflush, haccept, hnext⟩ := hexpanded.writeBulk rfl rfl
                refine .inr (.inr (.inr ⟨next', written, nextDecoder, ?_, haccept, _, _, hnext⟩))
                rw [← hflush, PrioritizedFrameQueue.flushOnce, hcontrol, hbulk]
                simp only [hcurrent, hiterator, hcreate, PrioritizedFrameQueue.flushOnce, hcontrol]
                rfl

end pipane.frame_connection

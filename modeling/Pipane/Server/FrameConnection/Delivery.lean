import Pipane.Server.FrameConnection.Linked

open javascript json pipane.data_channel_framing

namespace pipane.frame_connection

/-- A decoder fed with messages one after another. -/
def feed (decoder : DataChannelFrameDecoder) :
    List JsString → DataChannelFrameDecoder × List (Except String (Option JsString))
  | [] => (decoder, [])
  | message :: messages =>
    let accepted := decoder.accept message
    let rest := feed accepted.1 messages
    (rest.1, accepted.2 :: rest.2)

/-- The frame that `accept` returned, if it returned one. -/
def outputOf : Except String (Option JsString) → Option JsString
  | .ok frame => frame
  | .error _ => none

/-- The decoder takes the written messages: it outputs a frame at its last message and nothing at the
    others, and never holds more than two entries. -/
inductive Decodes : DataChannelFrameDecoder → List Written → DataChannelFrameDecoder → Prop
  | nil {decoder} (room : decoder.pending.size ≤ 2) : Decodes decoder [] decoder
  | cons {decoder next last written rest} (room : decoder.pending.size ≤ 2)
      (accepted : decoder.accept written.message = (next, .ok written.output)) (rest_ : Decodes next rest last) :
      Decodes decoder (written :: rest) last

namespace Decodes

theorem append {decoder next last : DataChannelFrameDecoder} {written rest : List Written}
    (h : Decodes decoder written next) (hrest : Decodes next rest last) : Decodes decoder (written ++ rest) last := by
  induction h with
  | nil room => exact hrest
  | cons room accepted _ ih => exact .cons room accepted (ih hrest)

theorem feed_eq {decoder last : DataChannelFrameDecoder} {written : List Written}
    (h : Decodes decoder written last) :
    feed decoder (written.map Written.message) = (last, written.map fun w => .ok w.output) := by
  induction h with
  | nil room => rfl
  | cons room accepted _ ih => simp only [List.map_cons, feed, accepted, ih]

theorem room_take {decoder last : DataChannelFrameDecoder} {written : List Written}
    (h : Decodes decoder written last) (n : Nat) :
    (feed decoder ((written.take n).map Written.message)).1.pending.size ≤ 2 := by
  induction h generalizing n with
  | nil room => simpa [feed] using room
  | cons room accepted _ ih =>
    cases n with
    | zero => simpa [feed] using room
    | succ n =>
      simp only [List.take_succ_cons, List.map_cons, feed, accepted]
      exact ih n

end Decodes

theorem completedOf_append (written rest : List Written) :
    completedOf (written ++ rest) = completedOf written ++ completedOf rest := by
  simp [completedOf]

theorem Linked.room {calls : List Call} {number : Nat} {queue : PrioritizedFrameQueue}
    {decoder : DataChannelFrameDecoder} {completed : List LogicalFrame}
    (h : Linked calls number queue decoder completed) : decoder.pending.size ≤ 2 := by
  obtain ⟨_, _, h⟩ := h
  exact h.room

/-- What a flush leaves, by induction on the answers of `canWrite`. -/
theorem Linked.flush {calls : List Call} {number : Nat} {queue : PrioritizedFrameQueue}
    {decoder : DataChannelFrameDecoder} {completed : List LogicalFrame}
    (h : Linked calls number queue decoder completed) (canWrite : List Bool) :
    ∃ last, Decodes decoder (queue.flush canWrite).written last ∧
      Linked calls number (queue.flush canWrite).queue last
        (completed ++ completedOf (queue.flush canWrite).written) := by
  have hidle : ∃ last, Decodes decoder [] last ∧ Linked calls number queue last (completed ++ completedOf []) :=
    ⟨decoder, .nil h.room, by simpa [completedOf] using h⟩
  induction canWrite generalizing queue decoder completed with
  | nil => exact hidle
  | cons answer canWrite ih =>
    cases answer with
    | false => exact hidle
    | true =>
      obtain hstop | ⟨next, hskip, hnext⟩ | ⟨next, error, hfail, hnext⟩ |
        ⟨next, written, nextDecoder, hwrote, haccept, hnext⟩ := h.flushOnce
      · rw [PrioritizedFrameQueue.flush, hstop]
        exact hidle
      · rw [PrioritizedFrameQueue.flush, hskip]
        exact ih hnext ⟨decoder, .nil hnext.room, by simpa [completedOf] using hnext⟩
      · rw [PrioritizedFrameQueue.flush, hfail]
        exact ⟨decoder, .nil hnext.room, by simpa [completedOf] using hnext⟩
      · obtain ⟨last, hdecodes, hlinked⟩ := ih hnext ⟨nextDecoder, .nil hnext.room, by simpa [completedOf] using hnext⟩
        rw [PrioritizedFrameQueue.flush, hwrote]
        refine ⟨last, .cons h.room haccept hdecodes, ?_⟩
        rw [List.append_assoc, ← completedOf_append] at hlinked
        exact hlinked

theorem mem_logicalFrames {number : Nat} {frames : List JsString} {source : LogicalFrame}
    (h : source ∈ logicalFrames number frames) :
    source.call = number ∧ frames[source.position]? = some source.text := by
  obtain ⟨position, hposition, rfl⟩ := List.mem_mapIdx.mp h
  exact ⟨rfl, List.getElem?_eq_getElem hposition⟩

theorem pairwise_logicalFrames (number : Nat) (frames : List JsString) :
    (logicalFrames number frames).Pairwise Before := by
  rw [List.pairwise_iff_getElem]
  intro i j hi hj hij
  simp only [logicalFrames, List.getElem_mapIdx]
  exact .inr ⟨rfl, hij⟩

/-- The frames that every call of a run hands over are application frames. -/
def FramesAreLogical (calls : List Call) : Prop :=
  ∀ call ∈ calls, ∀ frame ∈ call.frames, IsLogicalFrame frame

theorem Linked.enqueue {calls : List Call} {number : Nat} {queue : PrioritizedFrameQueue}
    {decoder : DataChannelFrameDecoder} {completed : List LogicalFrame} {frame : JsString}
    {options : FrameSendOptions} {canWrite : List Bool} (h : Linked calls number queue decoder completed)
    (hcall : calls[number]? = some (.enqueue frame options canWrite)) (hlogical : IsLogicalFrame frame) :
    ∃ last, Decodes decoder (queue.enqueue ⟨number, 0, frame⟩ options canWrite).written last ∧
      Linked calls (number + 1) (queue.enqueue ⟨number, 0, frame⟩ options canWrite).queue last
        (completed ++ completedOf (queue.enqueue ⟨number, 0, frame⟩ options canWrite).written) := by
  obtain ⟨cancelled, control, h⟩ := h
  obtain ⟨error, hcreate⟩ | ⟨queuedBytes, outgoing, hcreate, hid, hchunkId, hmax, hmessages, hzero, hkey,
    hsource⟩ := createFrame_cases queue ⟨number, 0, frame⟩ options.transferKey
  · have hrefused : Linked calls (number + 1) { queue with nextFrameId := queue.nextFrameId + 1 } decoder completed :=
      ⟨_, _, (h.renumber queue.queuedBytes).advanceCall⟩
    rw [PrioritizedFrameQueue.enqueue, hcreate]
    exact ⟨decoder, .nil h.room, by simpa [completedOf] using hrefused⟩
  · have hsubmitted : ∀ lane, (Call.enqueue frame options canWrite).isControl = lane →
        Submitted calls ⟨number, 0, frame⟩ lane outgoing.transferKey :=
      fun lane hlane => ⟨_, hcall, rfl, hlane, hkey.symm⟩
    have hlive : ∀ lane, (Call.enqueue frame options canWrite).isControl = lane →
        LiveFrame calls lane outgoing ⟨number, 0, frame⟩ := fun lane hlane =>
      { source_eq := hsource
        submitted := hsubmitted lane hlane
        logical := hlogical
        chunkId := hchunkId
        max := hmax
        messages := hmessages
        pending := by
          rw [hmessages, hzero, List.length_map]
          exact frameMessages_ne_nil _ _ }
    have hfresh := h.fresh_id options.transferKey
    rw [← hid] at hfresh
    have hissued : ∃ key n, n ≤ queue.nextFrameId + 1 ∧ outgoing.id = frameId queue.idPrefix key n :=
      ⟨_, _, Nat.le_refl _, hid⟩
    have hrenumbered := h.renumber queuedBytes
    rw [PrioritizedFrameQueue.enqueue, hcreate]
    by_cases hbulk : options.priority = some .bulk
    · have hlane : (Call.enqueue frame options canWrite).isControl = false := by simp [Call.isControl, hbulk]
      have hitem : (BulkItem.frame outgoing).Live calls := by
        refine ⟨?_, fun next hnext => absurd hnext List.not_mem_nil, ?_⟩
        · rintro _ ⟨⟩
          exact ⟨rfl, _, hlive false hlane⟩
        · rw [BulkItem.transferKey, hkey]
          exact presentKey_presentKey _
      have hsources : (BulkItem.frame outgoing).sources = [⟨number, 0, frame⟩] := by
        simp [BulkItem.sources, BulkItem.current, BulkItem.upcoming, hsource]
      have hpushed := hrenumbered.pushBulk hitem (by
        rintro _ ⟨⟩
        exact ⟨hzero, hfresh, hissued⟩) (by simp [hsources]) (by simp [hsources])
      simp only [if_pos hbulk]
      exact Linked.flush ⟨_, _, hpushed⟩ canWrite
    · have hlane : (Call.enqueue frame options canWrite).isControl = true := by simp [Call.isControl, hbulk]
      have hpushed := hrenumbered.pushControl (hlive true hlane) hzero hfresh hissued rfl
      simp only [if_neg hbulk]
      exact Linked.flush ⟨_, _, hpushed⟩ canWrite

theorem Linked.enqueueSequence {calls : List Call} {number : Nat} {queue : PrioritizedFrameQueue}
    {decoder : DataChannelFrameDecoder} {completed : List LogicalFrame} {frames : List JsString}
    {options : FrameSendOptions} {canWrite : List Bool} (h : Linked calls number queue decoder completed)
    (hcall : calls[number]? = some (.enqueueSequence frames options canWrite))
    (hlogical : ∀ frame ∈ frames, IsLogicalFrame frame) :
    ∃ last, Decodes decoder (queue.enqueueSequence (logicalFrames number frames) options canWrite).written last ∧
      Linked calls (number + 1) (queue.enqueueSequence (logicalFrames number frames) options canWrite).queue last
        (completed ++
          completedOf (queue.enqueueSequence (logicalFrames number frames) options canWrite).written) := by
  obtain ⟨cancelled, control, h⟩ := h
  rw [PrioritizedFrameQueue.enqueueSequence]
  by_cases hbulk : options.priority = some .bulk
  · rw [if_neg (by simp [hbulk])]
    have hitem : (BulkItem.sequence ⟨logicalFrames number frames, none, presentKey options.transferKey⟩).Live
        calls := by
      refine ⟨?_, fun next hnext => ?_, presentKey_presentKey _⟩
      · rintro _ ⟨⟩
      · obtain ⟨hnumber, htext⟩ := mem_logicalFrames hnext
        exact ⟨⟨.enqueueSequence frames options canWrite, hnumber ▸ hcall, htext, rfl, rfl⟩, hlogical _ (List.mem_of_getElem? htext)⟩
    have hsources : (BulkItem.sequence ⟨logicalFrames number frames, none, presentKey options.transferKey⟩).sources =
        logicalFrames number frames := rfl
    have hpushed := h.pushBulk hitem (by rintro _ ⟨⟩) (fun source hsource => (mem_logicalFrames hsource).1)
      (pairwise_logicalFrames number frames)
    exact Linked.flush ⟨_, _, hpushed⟩ canWrite
  · rw [if_pos hbulk]
    exact ⟨decoder, .nil h.room, _, _, by simpa [completedOf] using h.advanceCall⟩

/-- A cancellation is a queue change that leaves no frame of the key, followed by a flush. -/
theorem Linked.cancelTransfer {calls : List Call} {number : Nat} {queue : PrioritizedFrameQueue}
    {decoder : DataChannelFrameDecoder} {completed : List LogicalFrame}
    (h : Linked calls number queue decoder completed) (transferKey : JsString) (canWrite : List Bool) :
    ∃ next, queue.cancelTransfer transferKey canWrite = next.flush canWrite ∧
      Linked calls number next decoder completed ∧ (∀ source ∈ next.sources, source ∈ queue.sources) ∧
      ∀ source ∈ next.sources, ∀ lane, ¬ Submitted calls source lane (some transferKey) := by
  obtain ⟨cancelled, control, h⟩ := h
  obtain ⟨hlive, _⟩ := h.cancel transferKey 0 rfl
  have hids := ids_of_unfinished hlive
  have hvalid : ∀ id ∈ (((queue.control.filter fun frame => frame.transferKey = some transferKey).reverse ++
      (queue.bulk.filter fun item => item.transferKey = some transferKey).reverse.filterMap
        BulkItem.current).flatMap entryOf).map Prod.fst, isChunkId id = true := by
    intro id hid
    rw [← hids] at hid
    obtain ⟨frame, hframe, rfl⟩ := List.mem_map.mp hid
    obtain ⟨_, _, hframeLive⟩ := hlive frame (List.mem_of_mem_filter hframe)
    exact hframeLive.chunkId
  obtain ⟨queuedBytes, hcreate⟩ := createCancellations_ok { queue with
    control := queue.control.filter fun frame => frame.transferKey ≠ some transferKey
    bulk := queue.bulk.filter fun item => item.transferKey ≠ some transferKey
    queuedBytes := ((((queue.control.filter fun frame => frame.transferKey = some transferKey).reverse ++
      (queue.bulk.filter fun item => item.transferKey = some transferKey).reverse.filterMap
        BulkItem.current).foldl PrioritizedFrameQueue.discardFrame (queue.queuedBytes, [])).1) } hvalid
  obtain ⟨_, hnext⟩ := h.cancel transferKey queuedBytes rfl
  refine ⟨_, ?_, ⟨_, _, hnext⟩, ?_, ?_⟩
  · simp only [PrioritizedFrameQueue.cancelTransfer]
    rw [foldl_discardFrame, List.nil_append, hids, hcreate]
    simp only [List.map_map]
    rfl
  · intro source hsource
    simp only [PrioritizedFrameQueue.sources, List.mem_append, List.filterMap_append] at hsource ⊢
    rcases hsource with (hcancelled | hcontrol) | hbulk
    · obtain ⟨frame, hframe, heq⟩ := List.mem_filterMap.mp hcancelled
      obtain ⟨e, _, rfl⟩ := List.mem_map.mp hframe
      cases heq
    · exact .inl ((List.filter_sublist.filterMap _).subset hcontrol)
    · exact .inr ((List.filter_sublist.flatMap _).subset hbulk)
  · rintro source hsource lane ⟨call, hcall, _, _, hkey⟩
    obtain ⟨_, key, ⟨other, hother, _, _, hotherKey⟩, hqueued⟩ := hnext.sources_submitted source hsource
    rw [hcall, Option.some.injEq] at hother
    rw [← hother, hkey] at hotherKey
    rcases hqueued with ⟨frame, hframe, hframeKey⟩ | ⟨item, hitem, hitemKey⟩
    · rcases List.mem_append.mp hframe with hcancelled | hkept
      · obtain ⟨e, _, rfl⟩ := List.mem_map.mp hcancelled
        rw [← hotherKey] at hframeKey
        cases hframeKey
      · have hne := (List.mem_filter.mp hkept).2
        simp [hframeKey, ← hotherKey] at hne
    · have hne := (List.mem_filter.mp hitem).2
      simp [hitemKey, ← hotherKey] at hne

theorem Linked.perform {calls : List Call} {number : Nat} {queue : PrioritizedFrameQueue}
    {decoder : DataChannelFrameDecoder} {completed : List LogicalFrame} {call : Call}
    (h : Linked calls number queue decoder completed) (hcall : calls[number]? = some call)
    (hlogical : ∀ frame ∈ call.frames, IsLogicalFrame frame) :
    ∃ last, Decodes decoder (queue.perform number call).written last ∧
      Linked calls (number + 1) (queue.perform number call).queue last
        (completed ++ completedOf (queue.perform number call).written) := by
  have hadvance : ∀ {next}, Linked calls number next decoder completed →
      Linked calls (number + 1) next decoder completed := by
    rintro next ⟨_, _, hnext⟩
    exact ⟨_, _, hnext.advanceCall⟩
  cases call with
  | enqueue frame options canWrite => exact h.enqueue hcall (hlogical frame (by simp [Call.frames]))
  | enqueueSequence frames options canWrite => exact h.enqueueSequence hcall hlogical
  | cancelTransfer transferKey canWrite =>
    obtain ⟨next, heq, hnext, _⟩ := h.cancelTransfer transferKey canWrite
    rw [PrioritizedFrameQueue.perform, heq]
    exact (hadvance hnext).flush canWrite
  | flush canWrite => exact (hadvance h).flush canWrite

/-- What a run of calls leaves, by induction on the calls that are still to come. -/
theorem Linked.runFrom {calls : List Call} {queue : PrioritizedFrameQueue} {decoder : DataChannelFrameDecoder}
    {completed : List LogicalFrame} (before rest : List Call) (hcalls : before ++ rest <+: calls)
    (h : Linked calls before.length queue decoder completed) (hlogical : FramesAreLogical rest) :
    ∃ last, Decodes decoder (queue.runFrom before.length rest).2 last ∧
      Linked calls (before ++ rest).length (queue.runFrom before.length rest).1 last
        (completed ++ completedOf (queue.runFrom before.length rest).2) := by
  induction rest generalizing before queue decoder completed with
  | nil =>
    rw [List.append_nil]
    exact ⟨decoder, .nil h.room, by simpa [PrioritizedFrameQueue.runFrom, completedOf] using h⟩
  | cons call rest ih =>
    have hcall : calls[before.length]? = some call := by
      obtain ⟨after, rfl⟩ := hcalls
      simp
    obtain ⟨next, hdecodes, hnext⟩ := h.perform hcall (hlogical call List.mem_cons_self)
    have hlength : (before ++ [call]).length = before.length + 1 := by simp
    obtain ⟨last, hrest, hlast⟩ := ih (before ++ [call]) (by simpa using hcalls) (hlength ▸ hnext)
      fun other hother => hlogical other (List.mem_cons_of_mem _ hother)
    rw [hlength] at hrest hlast
    refine ⟨last, hdecodes.append hrest, ?_⟩
    rw [List.append_assoc completed, ← completedOf_append, List.append_assoc before] at hlast
    exact hlast

/-- A round of `flush` completes and keeps only frames of the given list. -/
def FlushStep.Within (allowed : List LogicalFrame) : FlushStep → Prop
  | .stopped => True
  | .skipped next => next.sources ⊆ allowed
  | .failed next _ => next.sources ⊆ allowed
  | .wrote next written => completedOf [written] ⊆ allowed ∧ next.sources ⊆ allowed

theorem writeNext_within {queue : PrioritizedFrameQueue} {frame : OutgoingFrame}
    {put : PrioritizedFrameQueue → Option OutgoingFrame → PrioritizedFrameQueue} {allowed : List LogicalFrame}
    (hframe : frame.source.toList ⊆ allowed)
    (hput : ∀ bytes kept, (∀ other, kept = some other → other.source = frame.source) →
      (put { queue with queuedBytes := bytes } kept).sources ⊆ allowed) :
    (queue.writeNext frame put).Within allowed := by
  cases hmessage : frame.messages[frame.nextIndex]? with
  | none =>
    simp only [PrioritizedFrameQueue.writeNext, hmessage, FlushStep.Within]
    exact hput queue.queuedBytes (some frame) (by rintro _ ⟨⟩; rfl)
  | some message =>
    rw [writeNext_eq hmessage]
    refine ⟨?_, hput _ _ fun other hkept => ?_⟩
    · refine List.Subset.trans ?_ hframe
      cases hsource : frame.source <;> cases hlast : frame.advance.isComplete <;>
        simp [completedOf, OutgoingFrame.written, hsource, hlast]
    · obtain ⟨_, rfl⟩ := eq_of_kept hkept
      rfl

theorem bulk_within {queue : PrioritizedFrameQueue} {item : BulkItem} {rest : List BulkItem}
    {frame : OutgoingFrame} {allowed : List LogicalFrame} (hcontrol : queue.control = [])
    (hframe : frame.source.toList ⊆ allowed) (hupcoming : item.upcoming ⊆ allowed)
    (hrest : rest.flatMap BulkItem.sources ⊆ allowed) :
    (queue.writeNext frame (PrioritizedFrameQueue.putBulk item rest)).Within allowed := by
  refine writeNext_within hframe fun bytes kept hkept => ?_
  have hsource : (kept.bind OutgoingFrame.source).toList ⊆ allowed := by
    cases hk : kept with
    | none => exact List.nil_subset _
    | some other =>
      rw [Option.bind_some, hkept other hk]
      exact hframe
  simp only [PrioritizedFrameQueue.sources, PrioritizedFrameQueue.putBulk, hcontrol, List.filterMap_nil,
    List.nil_append, List.flatMap_append, BulkItem.sources_replace]
  exact List.append_subset.mpr ⟨List.append_subset.mpr ⟨hsource, hupcoming⟩, hrest⟩

theorem flushOnce_within (queue : PrioritizedFrameQueue) : queue.flushOnce.Within queue.sources := by
  rw [PrioritizedFrameQueue.flushOnce]
  cases hcontrol : queue.control with
  | cons frame rest =>
    have hsources : queue.sources =
        frame.source.toList ++ (rest.filterMap OutgoingFrame.source ++ queue.bulk.flatMap BulkItem.sources) := by
      cases hsource : frame.source <;> simp [PrioritizedFrameQueue.sources, hcontrol, hsource]
    refine writeNext_within (hsources ▸ List.subset_append_left _ _) fun bytes kept hkept => ?_
    have hput : (PrioritizedFrameQueue.putControl rest { queue with queuedBytes := bytes } kept).sources =
        kept.toList.filterMap OutgoingFrame.source ++
          (rest.filterMap OutgoingFrame.source ++ queue.bulk.flatMap BulkItem.sources) := by
      simp [PrioritizedFrameQueue.sources, PrioritizedFrameQueue.putControl]
    rw [hput, hsources]
    refine List.append_subset.mpr ⟨List.subset_append_of_subset_left _ ?_, List.subset_append_right _ _⟩
    cases hk : kept with
    | none => exact List.nil_subset _
    | some other => cases hsource : frame.source <;> simp [hkept other hk, hsource]
  | nil =>
    cases hbulk : queue.bulk with
    | nil => trivial
    | cons item rest =>
      have hsources : queue.sources = item.sources ++ rest.flatMap BulkItem.sources := by
        simp [PrioritizedFrameQueue.sources, hcontrol, hbulk]
      have hrest : rest.flatMap BulkItem.sources ⊆ queue.sources := hsources ▸ List.subset_append_right _ _
      have hitem : item.sources ⊆ queue.sources := hsources ▸ List.subset_append_left _ _
      rw [BulkItem.sources, List.append_subset] at hitem
      cases item with
      | frame outgoing => exact bulk_within hcontrol hitem.1 hitem.2 hrest
      | sequence sequence =>
        obtain ⟨iterator, current, transferKey⟩ := sequence
        cases current with
        | some outgoing => exact bulk_within hcontrol hitem.1 hitem.2 hrest
        | none =>
          cases iterator with
          | nil => exact hrest
          | cons next iterator =>
            have hupcoming := List.cons_subset.mp hitem.2
            obtain ⟨error, hcreate⟩ | ⟨queuedBytes, outgoing, hcreate, _, _, _, _, _, _, hsource⟩ :=
              createFrame_cases queue next transferKey
            · simp only [hcreate, FlushStep.Within]
              have hnext : ({ queue with
                  nextFrameId := queue.nextFrameId + 1
                  bulk := .sequence ⟨iterator, none, transferKey⟩ :: rest } : PrioritizedFrameQueue).sources =
                  iterator ++ rest.flatMap BulkItem.sources := by
                simp [PrioritizedFrameQueue.sources, hcontrol, BulkItem.sources, BulkItem.current, BulkItem.upcoming]
              rw [hnext]
              exact List.append_subset.mpr ⟨hupcoming.2, hrest⟩
            · simp only [hcreate]
              refine bulk_within hcontrol ?_ hupcoming.2 hrest
              simpa [hsource] using hupcoming.1

theorem flush_within (queue : PrioritizedFrameQueue) (canWrite : List Bool) :
    completedOf (queue.flush canWrite).written ⊆ queue.sources ∧
      (queue.flush canWrite).queue.sources ⊆ queue.sources := by
  induction canWrite generalizing queue with
  | nil => exact ⟨List.nil_subset _, List.Subset.refl _⟩
  | cons answer canWrite ih =>
    cases answer with
    | false => exact ⟨List.nil_subset _, List.Subset.refl _⟩
    | true =>
      have hstep := flushOnce_within queue
      rw [PrioritizedFrameQueue.flush]
      cases hflush : queue.flushOnce with
      | stopped => exact ⟨List.nil_subset _, List.Subset.refl _⟩
      | skipped next =>
        rw [hflush] at hstep
        exact ⟨List.Subset.trans (ih next).1 hstep, List.Subset.trans (ih next).2 hstep⟩
      | failed next error =>
        rw [hflush] at hstep
        exact ⟨List.nil_subset _, hstep⟩
      | wrote next written =>
        rw [hflush] at hstep
        refine ⟨?_, List.Subset.trans (ih next).2 hstep.2⟩
        change completedOf ([written] ++ (next.flush canWrite).written) ⊆ queue.sources
        rw [completedOf_append]
        exact List.append_subset.mpr ⟨hstep.1, List.Subset.trans (ih next).1 hstep.2⟩

/-- A call completes and keeps only frames that were queued or that it hands over itself. -/
theorem Linked.perform_within {calls : List Call} {number : Nat} {queue : PrioritizedFrameQueue}
    {decoder : DataChannelFrameDecoder} {completed : List LogicalFrame}
    (h : Linked calls number queue decoder completed) (call : Call) :
    ∀ frame ∈ completedOf (queue.perform number call).written ++ (queue.perform number call).queue.sources,
      frame ∈ queue.sources ∨ frame.call = number := by
  have hflush : ∀ (next : PrioritizedFrameQueue) (canWrite : List Bool),
      (∀ frame ∈ next.sources, frame ∈ queue.sources ∨ frame.call = number) →
      ∀ frame ∈ completedOf (next.flush canWrite).written ++ (next.flush canWrite).queue.sources,
        frame ∈ queue.sources ∨ frame.call = number := by
    intro next canWrite hnext frame hframe
    rcases List.mem_append.mp hframe with hdone | hkept
    · exact hnext frame ((flush_within next canWrite).1 hdone)
    · exact hnext frame ((flush_within next canWrite).2 hkept)
  cases call with
  | enqueue frame options canWrite =>
    obtain ⟨error, hcreate⟩ | ⟨queuedBytes, outgoing, hcreate, _, _, _, _, _, _, hsource⟩ :=
      createFrame_cases queue ⟨number, 0, frame⟩ options.transferKey
    · rw [PrioritizedFrameQueue.perform, PrioritizedFrameQueue.enqueue, hcreate]
      exact fun other hother => .inl hother
    · rw [PrioritizedFrameQueue.perform, PrioritizedFrameQueue.enqueue, hcreate]
      simp only
      split
      · refine hflush _ canWrite fun other hother => ?_
        simp only [PrioritizedFrameQueue.sources, List.flatMap_append, List.flatMap_singleton, BulkItem.sources,
          BulkItem.current, BulkItem.upcoming, Option.bind_some, hsource, List.mem_append] at hother ⊢
        rcases hother with hcontrol | hbulk | hnew
        · exact .inl (.inl hcontrol)
        · exact .inl (.inr hbulk)
        · right
          simp only [Option.toList_some, List.mem_singleton, List.not_mem_nil, or_false] at hnew
          rw [hnew]
      · refine hflush _ canWrite fun other hother => ?_
        simp only [PrioritizedFrameQueue.sources, List.filterMap_append, List.mem_append] at hother ⊢
        rcases hother with (hcontrol | hnew) | hbulk
        · exact .inl (.inl hcontrol)
        · right
          simp only [List.filterMap_cons, hsource, List.filterMap_nil, List.mem_singleton] at hnew
          rw [hnew]
        · exact .inl (.inr hbulk)
  | enqueueSequence frames options canWrite =>
    rw [PrioritizedFrameQueue.perform, PrioritizedFrameQueue.enqueueSequence]
    split
    · exact fun other hother => .inl hother
    · refine hflush _ canWrite fun other hother => ?_
      simp only [PrioritizedFrameQueue.sources, List.flatMap_append, List.flatMap_singleton, BulkItem.sources,
        BulkItem.current, BulkItem.upcoming, Option.bind_none, Option.toList_none, List.nil_append,
        List.mem_append] at hother ⊢
      rcases hother with hcontrol | hbulk | hnew
      · exact .inl (.inl hcontrol)
      · exact .inl (.inr hbulk)
      · exact .inr (mem_logicalFrames hnew).1
  | cancelTransfer transferKey canWrite =>
    obtain ⟨next, heq, _, hsub, _⟩ := h.cancelTransfer transferKey canWrite
    rw [PrioritizedFrameQueue.perform, heq]
    exact hflush next canWrite fun other hother => .inl (hsub other hother)
  | flush canWrite => exact hflush queue canWrite fun other hother => .inl hother

/-- A run completes only frames that were queued before it or that its own calls hand over. -/
theorem Linked.runFrom_within {calls : List Call} {queue : PrioritizedFrameQueue}
    {decoder : DataChannelFrameDecoder} {completed : List LogicalFrame} (before rest : List Call)
    (hcalls : before ++ rest <+: calls) (h : Linked calls before.length queue decoder completed)
    (hlogical : FramesAreLogical rest) :
    ∀ frame ∈ completedOf (queue.runFrom before.length rest).2,
      frame ∈ queue.sources ∨ before.length ≤ frame.call := by
  induction rest generalizing before queue decoder completed with
  | nil =>
    intro frame hframe
    cases hframe
  | cons call rest ih =>
    have hcall : calls[before.length]? = some call := by
      obtain ⟨after, rfl⟩ := hcalls
      simp
    have hstep := h.perform_within call
    obtain ⟨next, _, hnext⟩ := h.perform hcall (hlogical call List.mem_cons_self)
    have hlength : (before ++ [call]).length = before.length + 1 := by simp
    have hrest := ih (before ++ [call]) (by simpa using hcalls) (hlength ▸ hnext)
      fun other hother => hlogical other (List.mem_cons_of_mem _ hother)
    rw [hlength] at hrest
    intro frame hframe
    rw [PrioritizedFrameQueue.runFrom, completedOf_append, List.mem_append] at hframe
    rcases hframe with hnow | hlater
    · exact (hstep frame (List.mem_append_left _ hnow)).imp_right fun heq => Nat.le_of_eq heq.symm
    · rcases hrest frame hlater with hqueued | hcallNumber
      · exact (hstep frame (List.mem_append_right _ hqueued)).imp_right fun heq => Nat.le_of_eq heq.symm
      · exact .inr (by omega)

theorem linked_fresh {calls : List Call} {idPrefix : JsString} (hextends : IsCarrierPrefix idPrefix) :
    Linked calls 0 (.fresh idPrefix) .fresh [] := by
  refine ⟨[], [], ?_⟩
  constructor
  case carrier => exact hextends
  all_goals simp [PrioritizedFrameQueue.fresh, PrioritizedFrameQueue.bulkFrames, DataChannelFrameDecoder.fresh,
    OrderedMap.size]

theorem runFrom_append (queue : PrioritizedFrameQueue) (number : Nat) (before rest : List Call) :
    queue.runFrom number (before ++ rest) =
      (((queue.runFrom number before).1.runFrom (number + before.length) rest).1,
        (queue.runFrom number before).2 ++ ((queue.runFrom number before).1.runFrom (number + before.length) rest).2) := by
  induction before generalizing queue number with
  | nil => rfl
  | cons call before ih =>
    simp only [List.cons_append, PrioritizedFrameQueue.runFrom, ih, List.length_cons, List.append_assoc]
    rw [show number + 1 + before.length = number + (before.length + 1) by omega]

/-- A frame that is queued when its transfer is cancelled is never completed afterwards. -/
theorem cancelled_not_completed {idPrefix : JsString} (hextends : IsCarrierPrefix idPrefix)
    {before rest : List Call} {transferKey : JsString} {canWrite : List Bool}
    (hlogical : FramesAreLogical (before ++ .cancelTransfer transferKey canWrite :: rest)) {frame : LogicalFrame}
    {lane : Bool} (hsubmitted : Submitted (before ++ .cancelTransfer transferKey canWrite :: rest) frame lane
      (some transferKey))
    (hcall : frame.call < before.length)
    (hincomplete : frame ∉ completedOf ((PrioritizedFrameQueue.fresh idPrefix).runFrom 0 before).2) :
    frame ∉ completedOf ((PrioritizedFrameQueue.fresh idPrefix).runFrom 0
      (before ++ .cancelTransfer transferKey canWrite :: rest)).2 := by
  have hbefore : [] ++ before <+: before ++ .cancelTransfer transferKey canWrite :: rest := List.prefix_append _ _
  obtain ⟨decoder, _, hlinked⟩ := (linked_fresh hextends).runFrom [] before hbefore
    fun call hmem => hlogical call (List.mem_append_left _ hmem)
  rw [List.nil_append, List.length_nil] at hlinked
  obtain ⟨next, heq, hnext, _, hdropped⟩ := hlinked.cancelTransfer transferKey canWrite
  have hcallAt : (before ++ .cancelTransfer transferKey canWrite :: rest)[before.length]? =
      some (.cancelTransfer transferKey canWrite) := by simp
  obtain ⟨_, _, hafter⟩ := hlinked.perform hcallAt fun other hother => absurd hother List.not_mem_nil
  have hlength : (before ++ [Call.cancelTransfer transferKey canWrite]).length = before.length + 1 := by simp
  have hrest := Linked.runFrom_within (before ++ [.cancelTransfer transferKey canWrite]) rest (by simp)
    (hlength ▸ hafter) fun call hmem =>
      hlogical call (List.mem_append_right _ (List.mem_cons_of_mem _ hmem))
  rw [hlength] at hrest
  have hkeptOut : frame ∉ next.sources := fun hmem => hdropped frame hmem lane hsubmitted
  rw [runFrom_append, Nat.zero_add, completedOf_append, List.mem_append, not_or]
  refine ⟨hincomplete, ?_⟩
  rw [PrioritizedFrameQueue.runFrom, completedOf_append, List.mem_append, not_or]
  rw [PrioritizedFrameQueue.perform, heq] at hrest ⊢
  refine ⟨fun hmem => hkeptOut ((flush_within next canWrite).1 hmem), fun hmem => ?_⟩
  rcases hrest frame hmem with hqueued | hlate
  · exact hkeptOut ((flush_within next canWrite).2 hqueued)
  · omega

/-- What the other end of a carrier sees of a run of the queue. -/
structure Delivered (idPrefix : JsString) (calls : List Call) (written : List Written) : Prop where
  neverThrows : ∀ result ∈ (feed .fresh (written.map Written.message)).2, ∃ frame, result = .ok frame
  pendingBound : ∀ n, (feed .fresh ((written.take n).map Written.message)).1.pending.size ≤ 2
  outputs : (feed .fresh (written.map Written.message)).2.filterMap outputOf =
    (completedOf written).map LogicalFrame.text
  submitted : ∀ frame ∈ completedOf written, ∃ lane key, Submitted calls frame lane key
  once : ((completedOf written).map fun frame => (frame.call, frame.position)).Nodup
  controlFifo : ((completedOf written).filter (isControlFrame calls)).Pairwise Before
  bulkFifo : ((completedOf written).filter fun frame => !isControlFrame calls frame).Pairwise Before
  cancelled : ∀ number transferKey canWrite, calls[number]? = some (.cancelTransfer transferKey canWrite) →
    ∀ frame lane, Submitted calls frame lane (some transferKey) → frame.call < number →
      frame ∉ completedOf ((PrioritizedFrameQueue.fresh idPrefix).runFrom 0 (calls.take number)).2 →
      frame ∉ completedOf written

theorem filterMap_outputOf (written : List Written) :
    (written.map fun w => (.ok w.output : Except String (Option JsString))).filterMap outputOf =
      (completedOf written).map LogicalFrame.text := by
  induction written with
  | nil => rfl
  | cons w written ih =>
    rw [← List.singleton_append, completedOf_append, List.map_append, List.map_append, List.filterMap_append, ih]
    congr 1
    cases hlast : w.last <;> cases hsource : w.source <;>
      simp [outputOf, Written.output, completedOf, hlast, hsource]

theorem nodup_of_pairwise {frames : List LogicalFrame} (h : frames.Pairwise Before) :
    (frames.map fun frame => (frame.call, frame.position)).Nodup := by
  rw [List.Nodup, List.pairwise_map]
  refine h.imp fun {a b} hbefore heq => ?_
  rw [Prod.mk.injEq] at heq
  rcases hbefore with hcall | ⟨_, hposition⟩ <;> omega

/-- The frames of the two lanes differ, so that the order within each lane rules out every repetition. -/
theorem nodup_of_lanes {calls : List Call} {frames : List LogicalFrame}
    (hcontrol : (frames.filter (isControlFrame calls)).Pairwise Before)
    (hbulk : (frames.filter fun frame => !isControlFrame calls frame).Pairwise Before) :
    (frames.map fun frame => (frame.call, frame.position)).Nodup := by
  have hperm : (frames.filter (isControlFrame calls) ++
      frames.filter fun frame => !isControlFrame calls frame).Perm frames := List.filter_append_perm _ _
  rw [← (hperm.map _).nodup_iff, List.map_append, List.nodup_append]
  refine ⟨nodup_of_pairwise hcontrol, nodup_of_pairwise hbulk, ?_⟩
  intro a ha b hb heq
  obtain ⟨frame, hframe, rfl⟩ := List.mem_map.mp ha
  obtain ⟨other, hother, hsame⟩ := List.mem_map.mp hb
  have hcall : other.call = frame.call := (Prod.mk.inj (hsame.trans heq.symm)).1
  have hlane := (List.mem_filter.mp hframe).2
  have hotherLane := (List.mem_filter.mp hother).2
  simp only [isControlFrame, hcall] at hlane hotherLane
  simp [hlane] at hotherLane

/-- Whatever the order of the calls and the answers of `canWrite`, the decoder at the other end takes
    every message: it outputs exactly the frames that were completely written, each once, unchanged and
    in the order of its lane, and no frame that was cancelled before its last message. -/
theorem written_frames_delivered {idPrefix : JsString} (hextends : IsCarrierPrefix idPrefix) {calls : List Call}
    (hlogical : FramesAreLogical calls) :
    Delivered idPrefix calls ((PrioritizedFrameQueue.fresh idPrefix).runFrom 0 calls).2 := by
  have hcalls : [] ++ calls <+: calls := List.prefix_refl _
  obtain ⟨decoder, hdecodes, cancelled, control, hlinked⟩ := (linked_fresh hextends).runFrom [] calls hcalls hlogical
  rw [List.length_nil] at hdecodes hlinked
  rw [List.nil_append, List.nil_append] at hlinked
  have hcontrol := (List.pairwise_append.mp hlinked.controlOrder).1
  have hbulk := (List.pairwise_append.mp hlinked.bulkOrder).1
  have hfeed := hdecodes.feed_eq
  refine ⟨?_, hdecodes.room_take, ?_, hlinked.submitted, nodup_of_lanes hcontrol hbulk, hcontrol, hbulk, ?_⟩
  · intro result hresult
    rw [hfeed] at hresult
    obtain ⟨w, _, rfl⟩ := List.mem_map.mp hresult
    exact ⟨_, rfl⟩
  · rw [hfeed]
    exact filterMap_outputOf _
  · intro number transferKey canWrite hcall frame lane hsubmitted hbefore hincomplete
    obtain ⟨hnumber, hat⟩ := List.getElem?_eq_some_iff.mp hcall
    have hsplit : calls = calls.take number ++ .cancelTransfer transferKey canWrite :: calls.drop (number + 1) := by
      rw [← hat, List.getElem_cons_drop, List.take_append_drop]
    have hlength : (calls.take number).length = number := List.length_take_of_le (Nat.le_of_lt hnumber)
    rw [hsplit] at hlogical hsubmitted ⊢
    exact cancelled_not_completed hextends hlogical hsubmitted (hlength.symm ▸ hbefore) hincomplete

/-- A control frame and a bulk frame, the bulk frame's transfer being cancelled after one write. -/
theorem written_frames_delivered_cancelled : Delivered (js "s")
    [.enqueue (stringify (.obj [(js "type", .str (js "pong"))])) ⟨some .bulk, some (js "k")⟩ [],
      .enqueue (stringify (.obj [(js "type", .str (js "pong"))])) ⟨none, none⟩ [true],
      .cancelTransfer (js "k") [true, true]]
    ((PrioritizedFrameQueue.fresh (js "s")).runFrom 0
      [.enqueue (stringify (.obj [(js "type", .str (js "pong"))])) ⟨some .bulk, some (js "k")⟩ [],
        .enqueue (stringify (.obj [(js "type", .str (js "pong"))])) ⟨none, none⟩ [true],
        .cancelTransfer (js "k") [true, true]]).2 := by
  have hpong : IsLogicalFrame (stringify (.obj [(js "type", .str (js "pong"))])) :=
    isLogicalFrame_stringify ⟨by simp, trivial, trivial⟩ (by decide) (by decide)
  refine written_frames_delivered (.inl rfl) ?_
  intro call hcall frame hframe
  simp only [List.mem_cons, List.not_mem_nil, or_false] at hcall
  rcases hcall with rfl | rfl | rfl
  · exact List.mem_singleton.mp hframe ▸ hpong
  · exact List.mem_singleton.mp hframe ▸ hpong
  · exact absurd hframe List.not_mem_nil

end pipane.frame_connection

import Pipane.Server.FrameConnection.Transfer
import Pipane.Server.WsHandler.Subscribe

open javascript json pipane.data_channel_framing pipane.frame_connection pipane.jsonl_sync pipane.session_jsonl
open pipane.ws_protocol

namespace pipane.ws_handler

/-- What has been written over a connection. -/
def writtenMessages (carrier : Carrier) : List JsString :=
  carrier.written.map Written.message

/-- A connection that is still open with a queue within its bound, over which the next of the expected messages have
    been written since the start and nothing else. -/
structure OnTheWay (start : Carrier) (expected : List JsString) (carrier : Carrier) : Prop where
  isOpen : carrier.isOpen = true
  bounded : carrier.queue.queuedBytes ≤ MAX_DATA_CHANNEL_QUEUED_BYTES
  inOrder : ∃ rest, writtenMessages start ++ expected = writtenMessages carrier ++ rest

/-- The frames of an answer, as they are numbered. -/
def answerMessages (queue : PrioritizedFrameQueue) (payloads : List SessionSyncMessage) : List JsString :=
  transferMessages queue.idPrefix queue.nextFrameId (payloads.map SessionSyncMessage.encode)

/-- However often it can be written to, the connection takes an answer without an exception and stays on the way while
    the messages are sent one by one and while it is flushed later, and once it can be written to often enough it has
    written all of the answer. -/
structure Delivers (connection : ServerFrameConnection Carrier) (start : Carrier) (payloads : List SessionSyncMessage) :
    Prop where
  thrown : (sendInitialSessionSync connection start payloads).2 = none
  sending : connection.sendSequence = none ∨ payloads.length ≤ 1 → ∀ count,
    OnTheWay start (answerMessages start.queue payloads) (sendEach connection start (payloads.take count)).1
  flushing : ∀ count, OnTheWay start (answerMessages start.queue payloads)
    (Carrier.flush^[count] (sendInitialSessionSync connection start payloads).1)
  arriving : ∀ count, ∃ writes, writtenMessages
    ({ Carrier.flush^[count] (sendInitialSessionSync connection start payloads).1 with
      canWrite := [List.replicate writes true] } : Carrier).flush =
        writtenMessages start ++ answerMessages start.queue payloads

/-- An open connection with the given queue delivers an answer, whenever it can be written to. -/
def Deliverable (route : Route) (queue : PrioritizedFrameQueue) (payloads : List SessionSyncMessage) : Prop :=
  ∀ start : Carrier, start.queue = queue → start.isOpen = true → Delivers route.connection start payloads

/-- A connection in the middle of a snapshot: of the messages that were queued since the start some are written, and the
    queue holds the others. -/
structure Carried (start : Carrier) (number : Nat) (queued : List JsString) (isSequence : Bool) (carrier : Carrier) :
    Prop where
  isOpen : carrier.isOpen = true
  split : ∃ written remaining, writtenMessages carrier = writtenMessages start ++ written ∧
    queued = written ++ remaining ∧ Transit start.queue.idPrefix number remaining True isSequence carrier.queue

section

variable {start carrier : Carrier} {number : Nat} {queued : List JsString} {isSequence : Bool}

theorem carried_start (hidle : start.queue.Idle) (hopen : start.isOpen = true) :
    Carried start start.queue.nextFrameId [] false start :=
  ⟨hopen, [], [], (List.append_nil _).symm, rfl, hidle.transit⟩

theorem Carried.onTheWay (h : Carried start number queued isSequence carrier) (rest : List JsString) :
    OnTheWay start (queued ++ rest) carrier := by
  obtain ⟨written, remaining, hwritten, rfl, htransit⟩ := h.split
  refine ⟨h.isOpen, htransit.bounded, remaining ++ rest, ?_⟩
  rw [hwritten, List.append_assoc, List.append_assoc]

theorem Carried.flushed {queue : PrioritizedFrameQueue} (hopen : carrier.isOpen = true)
    {written remaining : List JsString} (hwritten : writtenMessages carrier = writtenMessages start ++ written)
    (htransit : Transit start.queue.idPrefix number remaining True isSequence queue) (canWrite : List Bool) :
    ∃ isSequence', (isSequence = false → isSequence' = false) ∧
      Carried start number (written ++ remaining) isSequence' (carrier.flushed (queue.flush canWrite)) := by
  obtain ⟨hfailure, isSequence', rest, hkeeps, hnext, rfl⟩ := transit_flush htransit trivial canWrite
  refine ⟨isSequence', hkeeps, ?_⟩
  rw [Carrier.flushed, hfailure]
  refine ⟨hopen, written ++ (queue.flush canWrite).written.map Written.message, rest, ?_, ?_, hnext⟩
  · rw [writtenMessages, ← List.append_assoc, ← hwritten]
    exact List.map_append
  · rw [List.append_assoc]

theorem Carried.flush (h : Carried start number queued isSequence carrier) :
    ∃ isSequence', Carried start number queued isSequence' carrier.flush := by
  obtain ⟨written, remaining, hwritten, rfl, htransit⟩ := h.split
  obtain ⟨isSequence', -, hcarried⟩ := Carried.flushed h.isOpen hwritten htransit carrier.answers
  exact ⟨isSequence', hcarried⟩

theorem Carried.flushes (h : Carried start number queued isSequence carrier) (count : Nat) :
    ∃ isSequence', Carried start number queued isSequence' (Carrier.flush^[count] carrier) := by
  induction count generalizing carrier isSequence with
  | zero => exact ⟨isSequence, h⟩
  | succ count ih =>
    obtain ⟨isSequence', hflush⟩ := h.flush
    exact ih hflush

/-- A connection that can be written to often enough writes all that is queued. -/
theorem Carried.arrives (h : Carried start number queued isSequence carrier) : ∃ writes, writtenMessages
    ({ carrier with canWrite := [List.replicate writes true] } : Carrier).flush = writtenMessages start ++ queued := by
  obtain ⟨written, remaining, hwritten, rfl, htransit⟩ := h.split
  refine ⟨remaining.length + isSequence.toNat, ?_⟩
  have hall := transit_flush_all htransit trivial le_rfl
  have hfailure := (transit_flush htransit trivial (List.replicate (remaining.length + isSequence.toNat) true)).1
  have hflush : ({ carrier with canWrite := [List.replicate (remaining.length + isSequence.toNat) true] } :
      Carrier).flush = ({ carrier with canWrite := [List.replicate (remaining.length + isSequence.toNat) true] } :
        Carrier).after (carrier.queue.flush (List.replicate (remaining.length + isSequence.toNat) true)) :=
    if_neg (by rw [Carrier.answers, List.headD_cons, hfailure]; exact Bool.false_ne_true)
  have happend : writtenMessages (({ carrier with
      canWrite := [List.replicate (remaining.length + isSequence.toNat) true] } : Carrier).after
        (carrier.queue.flush (List.replicate (remaining.length + isSequence.toNat) true))) =
      writtenMessages carrier ++
        (carrier.queue.flush (List.replicate (remaining.length + isSequence.toNat) true)).written.map Written.message :=
    List.map_append
  rw [hflush, happend, hall, hwritten, List.append_assoc]

end

section

variable {carrier : Carrier} {idPrefix : JsString} {number : Nat} {remaining : List JsString} {text : JsString}

/-- What the encoder asks of the next frame. -/
def Accepted (idPrefix : JsString) (number : Nat) (text : JsString) : Prop :=
  isChunkId (frameId idPrefix (some ACTIVE_SESSION_SYNC_TRANSFER_KEY) (number + 1)) = true ∧
    (textEncode text).length ≤ MAX_DATA_CHANNEL_FRAME_BYTES

/-- The messages of the next frame. -/
def nextMessages (idPrefix : JsString) (number : Nat) (text : JsString) : List JsString :=
  frameMessages text (frameId idPrefix (some ACTIVE_SESSION_SYNC_TRANSFER_KEY) (number + 1))

/-- A frame that the encoder accepts and the queue has room for is queued behind the others. -/
theorem send_accepted (closedError : String) (hopen : carrier.isOpen = true)
    (htransit : Transit idPrefix number remaining True false carrier.queue) (haccepted : Accepted idPrefix number text)
    (hroom : messageBytes (remaining ++ nextMessages idPrefix number text) ≤ MAX_DATA_CHANNEL_QUEUED_BYTES) :
    ∃ queue, Transit idPrefix (number + 1) (remaining ++ nextMessages idPrefix number text) True false queue ∧
      carrier.send closedError text sessionSyncOptions = (carrier.flushed (queue.flush carrier.answers), none) := by
  rw [messageBytes_append] at hroom
  obtain ⟨created, outgoing, hcreate, hpushed⟩ :=
    transit_push { call := carrier.calls, position := 0, text } htransit haccepted.1 haccepted.2 hroom
  refine ⟨_, hpushed, ?_⟩
  have henqueue : carrier.queue.enqueue { call := carrier.calls, position := 0, text } sessionSyncOptions
      carrier.answers = ({ created with bulk := created.bulk ++ [.frame outgoing] } :
        PrioritizedFrameQueue).flush carrier.answers := by
    rw [PrioritizedFrameQueue.enqueue, sessionSyncOptions, hcreate]
    exact if_pos rfl
  rw [Carrier.send, if_neg (not_not_intro hopen)]
  simp only [henqueue]
  rw [sessionSyncOptions, hcreate]

theorem send_refused (closedError : String) (hopen : carrier.isOpen = true)
    (htransit : Transit idPrefix number remaining True false carrier.queue)
    (h : ¬ (Accepted idPrefix number text ∧
      messageBytes (remaining ++ nextMessages idPrefix number text) ≤ MAX_DATA_CHANNEL_QUEUED_BYTES)) :
    ∃ error, (carrier.send closedError text sessionSyncOptions).2 = some error := by
  cases htransit with
  | frames _ frames hids hnumber hcontrol hbulk hframes hremaining hbytes hbound =>
    have hnext : nextTransferId carrier.queue =
        frameId idPrefix (some ACTIVE_SESSION_SYNC_TRANSFER_KEY) (number + 1) := by
      rw [nextTransferId, hids, hnumber]
    rw [Accepted, nextMessages, ← hnext, messageBytes_append] at h
    have hrefused : ¬ (isChunkId (nextTransferId carrier.queue) = true ∧
          (textEncode text).length ≤ MAX_DATA_CHANNEL_FRAME_BYTES) ∨
        (MAX_DATA_CHANNEL_QUEUED_BYTES : Int) <
          carrier.queue.queuedBytes + messageBytes (frameMessages text (nextTransferId carrier.queue)) := by
      rw [not_and_or] at h
      refine h.imp_right fun hover => ?_
      rw [hbytes]
      omega
    obtain ⟨error, hcreate⟩ := createFrame_error { call := carrier.calls, position := 0, text } hrefused
    refine ⟨error, ?_⟩
    rw [Carrier.send, if_neg (not_not_intro hopen)]
    simp only [sessionSyncOptions, hcreate]

end

section

variable {idPrefix : JsString}

theorem transferMessages_append (texts others : List JsString) (number : Nat) :
    transferMessages idPrefix number (texts ++ others) =
      transferMessages idPrefix number texts ++ transferMessages idPrefix (number + texts.length) others := by
  induction texts generalizing number with
  | nil => rfl
  | cons text texts ih =>
    rw [List.cons_append, transferMessages, ih, transferMessages, List.append_assoc, List.length_cons]
    congr 3
    omega

theorem encodable_append {texts others : List JsString} {number : Nat}
    (h : EncoderAccepts idPrefix number (texts ++ others)) : EncoderAccepts idPrefix number texts := by
  induction texts generalizing number with
  | nil => trivial
  | cons text texts ih =>
    obtain ⟨hnext, hrest⟩ := h
    exact ⟨hnext, ih hrest⟩

/-- The encoder looks at the id of every frame, which is made of its number, and at its size. -/
theorem encodable_iff {texts : List JsString} {number : Nat} :
    EncoderAccepts idPrefix number texts ↔
      (∀ index < texts.length, isChunkId (frameId idPrefix (some ACTIVE_SESSION_SYNC_TRANSFER_KEY)
        (number + index + 1)) = true) ∧
      ∀ text ∈ texts, (textEncode text).length ≤ MAX_DATA_CHANNEL_FRAME_BYTES := by
  induction texts generalizing number with
  | nil => exact iff_of_true trivial ⟨fun _ h => absurd h (Nat.not_lt_zero _), fun _ h => absurd h List.not_mem_nil⟩
  | cons text texts ih =>
    rw [EncoderAccepts, ih, List.forall_mem_cons]
    constructor
    · rintro ⟨⟨hid, hmax⟩, hids, hsizes⟩
      refine ⟨fun index hindex => ?_, hmax, hsizes⟩
      cases index with
      | zero => exact hid
      | succ index =>
        have hrest := hids index (Nat.lt_of_succ_lt_succ hindex)
        rwa [Nat.add_right_comm number 1 index] at hrest
    · rintro ⟨hids, hmax, hsizes⟩
      refine ⟨⟨hids 0 (Nat.zero_lt_succ _), hmax⟩, fun index hindex => ?_, hsizes⟩
      have hrest := hids (index + 1) (Nat.succ_lt_succ hindex)
      rwa [Nat.add_right_comm number 1 index]

end

section

variable {start carrier : Carrier} {number : Nat} {queued : List JsString} {payloads : List SessionSyncMessage}

theorem sendMessage_open (route : Route) (hopen : carrier.isOpen = true) (text : JsString) :
    ∃ closedError, sendMessage route.connection carrier text sessionSyncOptions =
      carrier.send closedError text sessionSyncOptions := by
  cases route with
  | webSocket => exact ⟨_, if_neg (not_not_intro hopen)⟩
  | application => exact ⟨_, if_neg (not_not_intro hopen)⟩

/-- Messages that are sent one by one are queued behind one another, by induction on the messages. -/
theorem carried_sendEach (route : Route) (h : Carried start number queued false carrier)
    (hencodable : EncoderAccepts start.queue.idPrefix number (payloads.map SessionSyncMessage.encode))
    (hroom : messageBytes (queued ++
      transferMessages start.queue.idPrefix number (payloads.map SessionSyncMessage.encode)) ≤
        MAX_DATA_CHANNEL_QUEUED_BYTES) :
    (sendEach route.connection carrier payloads).2 = none ∧
      Carried start (number + payloads.length)
        (queued ++ transferMessages start.queue.idPrefix number (payloads.map SessionSyncMessage.encode)) false
          (sendEach route.connection carrier payloads).1 := by
  induction payloads generalizing carrier number queued with
  | nil =>
    rw [List.map_nil, transferMessages, List.append_nil]
    exact ⟨rfl, h⟩
  | cons payload payloads ih =>
    obtain ⟨haccepted, hrest⟩ := hencodable
    have hmessages : queued ++
        transferMessages start.queue.idPrefix number ((payload :: payloads).map SessionSyncMessage.encode) =
          (queued ++ nextMessages start.queue.idPrefix number payload.encode) ++
            transferMessages start.queue.idPrefix (number + 1) (payloads.map SessionSyncMessage.encode) :=
      (List.append_assoc ..).symm
    rw [hmessages] at hroom ⊢
    obtain ⟨written, remaining, hwritten, rfl, htransit⟩ := h.split
    obtain ⟨closedError, hsend⟩ := sendMessage_open route h.isOpen payload.encode
    have hfits : messageBytes (remaining ++ nextMessages start.queue.idPrefix number payload.encode) ≤
        MAX_DATA_CHANNEL_QUEUED_BYTES := by
      simp only [messageBytes_append] at hroom ⊢
      omega
    obtain ⟨queue, hpushed, hsent⟩ := send_accepted closedError h.isOpen htransit haccepted hfits
    obtain ⟨isSequence', hkeeps, hcarried⟩ := Carried.flushed h.isOpen hwritten hpushed carrier.answers
    rw [hkeeps rfl, ← List.append_assoc] at hcarried
    rw [sendEach, hsend, hsent, List.length_cons, Nat.add_comm payloads.length, ← Nat.add_assoc]
    exact ih hcarried hrest hroom

/-- A connection that is never written to takes messages one by one only as long as the encoder accepts them and the
    queue has room for all of them, by induction on the messages. -/
theorem sendEach_stalled (route : Route) {idPrefix : JsString} {remaining : List JsString}
    (hopen : carrier.isOpen = true) (hstalled : carrier.canWrite = [])
    (htransit : Transit idPrefix number remaining True false carrier.queue)
    (hsent : (sendEach route.connection carrier payloads).2 = none) :
    EncoderAccepts idPrefix number (payloads.map SessionSyncMessage.encode) ∧
      messageBytes (remaining ++ transferMessages idPrefix number (payloads.map SessionSyncMessage.encode)) ≤
        MAX_DATA_CHANNEL_QUEUED_BYTES := by
  induction payloads generalizing carrier number remaining with
  | nil =>
    refine ⟨trivial, ?_⟩
    rw [List.map_nil, transferMessages, List.append_nil]
    cases htransit with
    | frames _ _ _ _ _ _ _ _ _ hbound => exact hbound
  | cons payload payloads ih =>
    have hmessages : remaining ++
        transferMessages idPrefix number ((payload :: payloads).map SessionSyncMessage.encode) =
          (remaining ++ nextMessages idPrefix number payload.encode) ++
            transferMessages idPrefix (number + 1) (payloads.map SessionSyncMessage.encode) :=
      (List.append_assoc ..).symm
    rw [hmessages]
    obtain ⟨closedError, hsend⟩ := sendMessage_open route hopen payload.encode
    by_cases h : Accepted idPrefix number payload.encode ∧
        messageBytes (remaining ++ nextMessages idPrefix number payload.encode) ≤ MAX_DATA_CHANNEL_QUEUED_BYTES
    · obtain ⟨queue, hpushed, hqueued⟩ := send_accepted closedError hopen htransit h.1 h.2
      have hanswers : carrier.answers = [] := by rw [Carrier.answers, hstalled]; rfl
      rw [hanswers] at hqueued
      rw [sendEach, hsend, hqueued] at hsent
      have hstillOpen : (carrier.flushed (queue.flush [])).isOpen = true := hopen
      have hstillStalled : (carrier.flushed (queue.flush [])).canWrite = [] := congrArg List.tail hstalled
      have hnext := ih hstillOpen hstillStalled hpushed hsent
      exact ⟨⟨h.1, hnext.1⟩, hnext.2⟩
    · obtain ⟨error, hrefused⟩ := send_refused closedError hopen htransit h
      rw [sendEach, hsend] at hsent
      split at hsent
      · cases hsent
      · rename_i hnone
        rw [hnone] at hrefused
        cases hrefused

end

section

variable {connection : ServerFrameConnection Carrier} {start : Carrier} {number : Nat} {isSequence : Bool}
  {payloads : List SessionSyncMessage}

theorem sendInitialSessionSync_each (h : connection.sendSequence = none ∨ payloads.length ≤ 1) :
    sendInitialSessionSync connection start payloads = sendEach connection start payloads := by
  unfold sendInitialSessionSync
  cases hsequence : connection.sendSequence with
  | none => rfl
  | some sendSequence =>
    rw [hsequence] at h
    exact if_neg (not_lt.mpr (h.resolve_left (Option.some_ne_none _)))

theorem Carried.delivers (hthrown : (sendInitialSessionSync connection start payloads).2 = none)
    (hsending : connection.sendSequence = none ∨ payloads.length ≤ 1 → ∀ count,
      OnTheWay start (answerMessages start.queue payloads) (sendEach connection start (payloads.take count)).1)
    (h : Carried start number (answerMessages start.queue payloads) isSequence
      (sendInitialSessionSync connection start payloads).1) : Delivers connection start payloads where
  thrown := hthrown
  sending := hsending
  flushing count := by
    obtain ⟨isSequence', hflushed⟩ := h.flushes count
    have hway := hflushed.onTheWay []
    rwa [List.append_nil] at hway
  arriving count := by
    obtain ⟨isSequence', hflushed⟩ := h.flushes count
    exact hflushed.arrives

end

section

variable {route : Route} {start : Carrier} {queue : PrioritizedFrameQueue} {payloads : List SessionSyncMessage}

theorem delivers_each (hidle : start.queue.Idle) (hopen : start.isOpen = true)
    (heach : route.connection.sendSequence = none ∨ payloads.length ≤ 1)
    (hencodable : EncoderAccepts start.queue.idPrefix start.queue.nextFrameId (payloads.map SessionSyncMessage.encode))
    (hroom : messageBytes (answerMessages start.queue payloads) ≤ MAX_DATA_CHANNEL_QUEUED_BYTES) :
    Delivers route.connection start payloads := by
  have hstart := carried_start hidle hopen
  have hall := carried_sendEach route hstart hencodable hroom
  rw [← sendInitialSessionSync_each heach] at hall
  refine hall.2.delivers hall.1 fun _ count => ?_
  have hsplit : answerMessages start.queue payloads = transferMessages start.queue.idPrefix start.queue.nextFrameId
      ((payloads.take count).map SessionSyncMessage.encode) ++ transferMessages start.queue.idPrefix
        (start.queue.nextFrameId + ((payloads.take count).map SessionSyncMessage.encode).length)
          ((payloads.drop count).map SessionSyncMessage.encode) := by
    rw [← transferMessages_append, ← List.map_append, List.take_append_drop, answerMessages]
  have hprefix : EncoderAccepts start.queue.idPrefix start.queue.nextFrameId
      ((payloads.take count).map SessionSyncMessage.encode) := by
    rw [← List.take_append_drop count payloads, List.map_append] at hencodable
    exact encodable_append hencodable
  rw [hsplit] at hroom ⊢
  refine (carried_sendEach route hstart hprefix ?_).2.onTheWay _
  rw [messageBytes_append] at hroom
  rw [List.nil_append]
  omega

theorem map_text_logicalFrames (call : Nat) (texts : List JsString) :
    (logicalFrames call texts).map LogicalFrame.text = texts := by
  rw [logicalFrames, List.mapIdx_eq_zipIdx_map, List.map_map]
  exact List.zipIdx_map_fst 0 texts

theorem sendInitialSessionSync_sequence (hidle : start.queue.Idle) (hopen : start.isOpen = true)
    (hlong : 1 < payloads.length) {accepted : Prop}
    (haccepted : EncoderAccepts start.queue.idPrefix start.queue.nextFrameId (payloads.map SessionSyncMessage.encode) ↔
      accepted) :
    ∃ queue, Transit start.queue.idPrefix
        (start.queue.nextFrameId + (logicalFrames start.calls (payloads.map SessionSyncMessage.encode)).length)
        (answerMessages start.queue payloads) accepted true queue ∧
      sendInitialSessionSync Route.webSocket.connection start payloads =
        (start.flushed (queue.flush start.answers), none) := by
  have hiterator : EncoderAccepts start.queue.idPrefix start.queue.nextFrameId
      ((logicalFrames start.calls (payloads.map SessionSyncMessage.encode)).map LogicalFrame.text) ↔ accepted := by
    rw [map_text_logicalFrames]
    exact haccepted
  have htransit := transit_sequence hidle _ hiterator
  rw [map_text_logicalFrames] at htransit
  refine ⟨_, htransit, ?_⟩
  have hsent : sendInitialSessionSync Route.webSocket.connection start payloads = Carrier.sendSequence
      "WebSocket frame connection is closed" start (payloads.map SessionSyncMessage.encode) sessionSyncOptions :=
    if_pos hlong
  rw [hsent, Carrier.sendSequence, if_neg (not_not_intro hopen)]
  rfl

theorem delivers_sequence (hidle : start.queue.Idle) (hopen : start.isOpen = true) (hlong : 1 < payloads.length)
    (hencodable : EncoderAccepts start.queue.idPrefix start.queue.nextFrameId
      (payloads.map SessionSyncMessage.encode)) :
    Delivers Route.webSocket.connection start payloads := by
  obtain ⟨queue, htransit, hsent⟩ := sendInitialSessionSync_sequence hidle hopen hlong (iff_true_intro hencodable)
  obtain ⟨isSequence', -, hcarried⟩ :=
    Carried.flushed hopen (List.append_nil (writtenMessages start)).symm htransit start.answers
  have hresult : (sendInitialSessionSync Route.webSocket.connection start payloads).1 =
      start.flushed (queue.flush start.answers) := by rw [hsent]
  rw [List.nil_append, ← hresult] at hcarried
  refine hcarried.delivers (congrArg Prod.snd hsent) fun hshort => ?_
  obtain hnone | hshort := hshort
  · cases hnone
  · omega

theorem encodable_of_deliverable (hidle : queue.Idle) (h : Deliverable route queue payloads) :
    EncoderAccepts queue.idPrefix queue.nextFrameId (payloads.map SessionSyncMessage.encode) := by
  by_cases heach : route.connection.sendSequence = none ∨ payloads.length ≤ 1
  · have hsent := (h { queue, isOpen := true, canWrite := [], calls := 0, written := [] } rfl rfl).thrown
    rw [sendInitialSessionSync_each heach] at hsent
    exact (sendEach_stalled route rfl rfl hidle.transit hsent).1
  · rw [not_or, not_le] at heach
    cases route with
    | application => exact absurd rfl heach.1
    | webSocket =>
      by_contra hrefused
      obtain ⟨start, rfl, hopen, hanswers⟩ : ∃ start : Carrier, start.queue = queue ∧ start.isOpen = true ∧
          start.answers = List.replicate ((answerMessages queue payloads).length + 1) true :=
        ⟨⟨queue, true, [_], 0, []⟩, rfl, rfl, rfl⟩
      obtain ⟨next, htransit, hsent⟩ := sendInitialSessionSync_sequence hidle hopen heach.2 (iff_false_intro hrefused)
      have hfailure := transit_flush_refused htransit id (Nat.lt_succ_self _)
      have hstillOpen := ((h start rfl hopen).flushing 0).isOpen
      rw [Function.iterate_zero, id, hsent, hanswers, Carrier.flushed, if_pos hfailure] at hstillOpen
      cases hstillOpen

theorem deliverable_iff (hidle : queue.Idle) :
    Deliverable route queue payloads ↔
      EncoderAccepts queue.idPrefix queue.nextFrameId (payloads.map SessionSyncMessage.encode) ∧
        (route = .application → messageBytes (answerMessages queue payloads) ≤ MAX_DATA_CHANNEL_QUEUED_BYTES) := by
  constructor
  · refine fun h => ⟨encodable_of_deliverable hidle h, ?_⟩
    rintro rfl
    have hsent := (h { queue, isOpen := true, canWrite := [], calls := 0, written := [] } rfl rfl).thrown
    rw [sendInitialSessionSync_each (.inl rfl)] at hsent
    exact (sendEach_stalled .application rfl rfl hidle.transit hsent).2
  · rintro ⟨hencodable, hroom⟩ start rfl hopen
    cases route with
    | application => exact delivers_each hidle hopen (.inl rfl) hencodable (hroom rfl)
    | webSocket =>
      by_cases hlong : 1 < payloads.length
      · exact delivers_sequence hidle hopen hlong hencodable
      · refine delivers_each hidle hopen (.inr (not_lt.mp hlong)) hencodable ?_
        -- a single message never takes more than the queue holds
        cases payloads with
        | nil => exact Nat.zero_le _
        | cons payload payloads =>
          have hnone : payloads = [] := List.eq_nil_of_length_eq_zero (by rw [List.length_cons] at hlong; omega)
          rw [hnone, answerMessages, List.map_singleton, transferMessages, transferMessages, List.append_nil]
          exact messageBytes_frameMessages hencodable.1.1 hencodable.1.2

end

section

variable {computeHashSync : JsString → JsString} {sessionPath : JsString} {revision : Nat} {state : SessionState}
  {command : SubscribeSession}

/-- The size of the first frame that answers a subscription: of the only frame, or of the manifest. -/
def firstFrameBytes (computeHashSync : JsString → JsString) (sessionPath : JsString) (revision : Nat)
    (state : SessionState) (command : SubscribeSession) : Nat :=
  if command.cachedStateHash = some (computeHashSync state.json) then
    byteLength (SessionSyncMessage.mk sessionPath revision (.not_modified (computeHashSync state.json))).encode
  else
    match command.knownMessageHashes with
    | none =>
      byteLength (SessionSyncMessage.mk sessionPath revision
        (.sync (.full state.json (computeHashSync state.json)))).encode
    | some known => stateManifestBytes computeHashSync sessionPath revision (computeHashSync state.json) known state

theorem frames_fit_iff (hsegmented : command.segmentedContent = true) {payloads : List SessionSyncMessage}
    (h : makeInitialSessionSync computeHashSync sessionPath state.json (computeHashSync state.json) revision command =
      .ok payloads) :
    (∀ payload ∈ payloads, byteLength payload.encode ≤ MAX_DATA_CHANNEL_FRAME_BYTES) ↔
      firstFrameBytes computeHashSync sessionPath revision state command ≤ MAX_DATA_CHANNEL_FRAME_BYTES := by
  by_cases hstale : command.cachedStateHash = some (computeHashSync state.json)
  · rw [makeInitialSessionSync, if_pos hstale] at h
    cases h
    rw [firstFrameBytes, if_pos hstale, List.forall_mem_singleton]
  · cases hknown : command.knownMessageHashes with
    | none =>
      rw [makeInitialSessionSync, if_neg hstale] at h
      simp only [hknown] at h
      cases h
      rw [firstFrameBytes, if_neg hstale, hknown, List.forall_mem_singleton]
    | some known =>
      have hsendable := sendable_of_ok hstale hknown hsegmented h
      obtain ⟨batches, hmake, hflatten, hfits, hlength⟩ :=
        makeInitialSessionSync_sendable hstale hknown hsegmented hsendable
      rw [hmake] at h
      cases h
      rw [firstFrameBytes, if_neg hstale, hknown]
      exact frames_segments_iff hsendable hflatten hfits hlength

/-- An answer is delivered where its first frame is small enough, the counter of the frames gives ids that a chunk may
    have, and, over a connection that makes all frames at once, the queue has room for all of them. -/
theorem segmented_sync_deliverable_iff (route : Route) {queue : PrioritizedFrameQueue} (hidle : queue.Idle)
    (hsegmented : command.segmentedContent = true) {payloads : List SessionSyncMessage}
    (h : makeInitialSessionSync computeHashSync sessionPath state.json (computeHashSync state.json) revision command =
      .ok payloads) :
    Deliverable route queue payloads ↔
      firstFrameBytes computeHashSync sessionPath revision state command ≤ MAX_DATA_CHANNEL_FRAME_BYTES ∧
      (∀ index < payloads.length, isChunkId (frameId queue.idPrefix (some ACTIVE_SESSION_SYNC_TRANSFER_KEY)
        (queue.nextFrameId + index + 1)) = true) ∧
      (route = .application → messageBytes (answerMessages queue payloads) ≤ MAX_DATA_CHANNEL_QUEUED_BYTES) := by
  have hframes := frames_fit_iff hsegmented h
  rw [deliverable_iff hidle, encodable_iff, List.length_map, List.forall_mem_map, ← hframes]
  constructor
  · rintro ⟨⟨hids, hsizes⟩, hroom⟩
    exact ⟨hsizes, hids, hroom⟩
  · rintro ⟨hsizes, hids, hroom⟩
    exact ⟨⟨hids, hsizes⟩, hroom⟩

end

theorem idle_fresh (idPrefix : JsString) : (PrioritizedFrameQueue.fresh idPrefix).Idle :=
  ⟨rfl, rfl, rfl⟩

/-- A session of a single short message over a WebSocket. -/
theorem segmented_sync_deliverable_iff_short : ∃ payloads,
    makeInitialSessionSync sha256js (js "/sessions/a.jsonl") (crowdedState 1).json (sha256js (crowdedState 1).json) 1
      segmentedSubscription = .ok payloads ∧ Deliverable .webSocket (.fresh (js "w")) payloads := by
  have hstale : segmentedSubscription.cachedStateHash ≠ some (sha256js (crowdedState 1).json) :=
    (Option.some_ne_none _).symm
  have hmake := makeInitialSessionSync_single hstale rfl rfl (sendable_crowded 0 (by decide)) (unknownBodies_crowded 0)
  have hids : ∀ index < 2,
      isChunkId (frameId (js "w") (some ACTIVE_SESSION_SYNC_TRANSFER_KEY) (0 + index + 1)) = true := by
    decide +kernel
  refine ⟨_, hmake, (segmented_sync_deliverable_iff .webSocket (idle_fresh _) rfl hmake).mpr ⟨?_, hids, ?_⟩⟩
  · rw [firstFrameBytes, if_neg hstale]
    exact (stateManifestBytes_crowded 0).2.trans (by decide)
  · exact fun happlication => absurd happlication (by decide)

/-- A message of the given size. -/
def bulkyMessage (size : Nat) : Value :=
  .obj [(js "role", .str (js "user")), (js "content", .str (List.replicate size 0x61))]

theorem bulkyMessage_canonical (size : Nat) : (bulkyMessage size).Canonical := by
  refine ⟨?_, trivial, trivial, trivial⟩
  change [js "role", js "content"].Nodup
  decide

/-- A session with a message and a steering message of the given size. -/
def bulkyState (size : Nat) : SessionState where
  messages := [bulkyMessage size]
  isStreaming := false
  pendingToolCalls := []
  toolCallTimings := .obj []
  model := none
  thinkingLevel := js "off"
  steeringQueue := [List.replicate size 0x61]
  error := none
  messages_canonical := ⟨bulkyMessage_canonical size, trivial⟩
  timings_canonical := canonical_emptyObject

theorem jsonBytes_bulky (size : Nat) : jsonBytes (.str (List.replicate size 0x61)) = size + 2 := by
  have hplain : ∀ u ∈ List.replicate size 0x61, IsPlainUnit u := by
    intro u hu
    rw [List.eq_of_mem_replicate hu]
    unfold IsPlainUnit
    decide
  rw [jsonBytes_plain hplain, List.length_replicate]

theorem jsonBytes_bulkyMessage (size : Nat) : jsonBytes (bulkyMessage size) = size + 28 := by
  have hrole : jsonBytes (.str (js "role")) = 6 := by decide +kernel
  have huser : jsonBytes (.str (js "user")) = 6 := by decide +kernel
  have hcontent : jsonBytes (.str (js "content")) = 9 := by decide +kernel
  rw [bulkyMessage, jsonBytes_obj (List.cons_ne_nil _ _) (bulkyMessage_canonical size)]
  simp only [List.map_cons, List.map_nil, List.sum_cons, List.sum_nil, memberBytes, jsonBytes_bulky, hrole, huser,
    hcontent]
  omega

theorem metadata_bulky (size : Nat) : size ≤ ((bulkyState size).metadata.map memberBytes).sum ∧
    ((bulkyState size).metadata.map memberBytes).sum ≤ size + 200 := by
  have hqueue : CanonicalItems [Value.str (List.replicate size 0x61)] := ⟨trivial, trivial⟩
  have hrest : (([(js "isStreaming", .bool false), (js "pendingToolCalls", .arr []), (js "toolCallTimings", .obj []),
      (js "model", .null), (js "thinkingLevel", .str (js "off"))] : List (JsString × Value)).map memberBytes).sum +
        jsonBytes (.str (js "steeringQueue")) ≤ 150 := by decide +kernel
  have hall : (bulkyState size).metadata = [(js "isStreaming", .bool false), (js "pendingToolCalls", .arr []),
      (js "toolCallTimings", .obj []), (js "model", .null), (js "thinkingLevel", .str (js "off"))] ++
        [(js "steeringQueue", .arr [.str (List.replicate size 0x61)])] := rfl
  have hsteering : memberBytes (js "steeringQueue", .arr [.str (List.replicate size 0x61)]) =
      jsonBytes (.str (js "steeringQueue")) + 2 + (2 + (size + 2)) := by
    rw [memberBytes, jsonBytes_arr hqueue, itemsBytes, List.map_singleton, List.sum_singleton, jsonBytes_bulky]
    rfl
  rw [hall, List.map_append, List.sum_append, List.map_singleton, List.sum_singleton, hsteering]
  omega

theorem byteLength_bulky (size : Nat) : byteLength (bulkyState size).json ≤ 2 * size + 300 := by
  have hmetadata := (metadata_bulky size).2
  have hkey : jsonBytes (.str (js "messages")) = 10 := by decide +kernel
  have hmessage : itemsBytes (bulkyState size).messages = size + 28 := by
    change itemsBytes [bulkyMessage size] = _
    rw [itemsBytes, List.map_singleton, List.sum_singleton, jsonBytes_bulkyMessage]
    rfl
  change jsonBytes (bulkyState size).value ≤ _
  rw [SessionState.value, jsonBytes_obj (List.cons_ne_nil _ _) (bulkyState size).value_canonical, List.map_cons,
    List.sum_cons, memberBytes, hkey, jsonBytes_arr (bulkyState size).messages_canonical, hmessage]
  omega

theorem unknownBodies_bulky (size : Nat) : unknownBodies sha256js [] (bulkyState size).messages =
    [⟨sha256js (stringify (bulkyMessage size)), bulkyMessage size⟩] :=
  rfl

theorem sendable_bulky {size : Nat} (hsize : size ≤ 60000000) :
    Sendable sha256js (js "/sessions/a.jsonl") 1 (sha256js (bulkyState size).json) [] (bulkyState size) := by
  refine ⟨?_, fun message hmessage => ?_, ?_⟩
  · have hbytes := byteLength_bulky size
    rw [MAX_SEGMENTED_SESSION_SYNC_BYTES]
    omega
  · have henvelope := envelopeBytes_sha256js_le (bulkyState size).json
    rw [unknownBodies_bulky] at hmessage
    rw [List.mem_singleton.mp hmessage, bodyBytes_sha256js _ (bulkyMessage_canonical size), jsonBytes_bulkyMessage,
      MAX_DATA_CHANNEL_FRAME_BYTES]
    omega
  · change 1 ≤ MAX_SEGMENTED_SESSION_SYNC_BATCHES
    decide

theorem manifest_bulky (size : Nat) : size ≤ byteLength (SessionSyncMessage.mk (js "/sessions/a.jsonl") 1
    (.content_manifest (sha256js (bulkyState size).json) (transferIdOf 1 (sha256js (bulkyState size).json))
      ((bulkyState size).messages.map fun message => sha256js (stringify message))
      (bulkyState size).metadata 1)).encode := by
  have hmetadata : (Value.obj (bulkyState size).metadata).Canonical :=
    ⟨(List.nodup_cons.mp (bulkyState size).value_canonical.1).2, (bulkyState size).value_canonical.2.2⟩
  have hbytes := (metadata_bulky size).1
  have hhashes :
      itemsBytes (((bulkyState size).messages.map fun message => sha256js (stringify message)).map .str) = 66 := by
    change itemsBytes [.str (sha256js (stringify (bulkyMessage size)))] = 66
    rw [itemsBytes, List.map_singleton, List.sum_singleton, jsonBytes_sha256js]
    rfl
  have hobject : jsonBytes (.obj (bulkyState size).metadata) = 1 + ((bulkyState size).metadata.map memberBytes).sum :=
    jsonBytes_obj (List.cons_ne_nil _ _) hmetadata
  rw [byteLength_manifest hmetadata, manifestBytes, hhashes]
  omega

/-- A session with a message and a steering message of 55 megabytes: each of the two frames can be carried, but a queue
    does not hold both, and an application connection makes both at once. -/
theorem queue_outgrown : ∃ payloads,
    makeInitialSessionSync sha256js (js "/sessions/a.jsonl") (bulkyState 55000000).json
      (sha256js (bulkyState 55000000).json) 1 segmentedSubscription = .ok payloads ∧
    ¬ Deliverable .application (.fresh (js "s")) payloads := by
  have hstale : segmentedSubscription.cachedStateHash ≠ some (sha256js (bulkyState 55000000).json) :=
    (Option.some_ne_none _).symm
  have hmake := makeInitialSessionSync_single hstale rfl rfl (sendable_bulky (by decide)) (unknownBodies_bulky _)
  refine ⟨_, hmake, fun hdelivered => ?_⟩
  obtain ⟨hencodable, hroom⟩ := (deliverable_iff (idle_fresh _)).mp hdelivered
  have htexts := (le_messageBytes_transferMessages hencodable).trans (hroom rfl)
  have hmanifest := manifest_bulky 55000000
  have hbatch : 55000000 ≤ byteLength (SessionSyncMessage.mk (js "/sessions/a.jsonl") 1 (.content_batch
      (sha256js (bulkyState 55000000).json) (transferIdOf 1 (sha256js (bulkyState 55000000).json)) 0
        [⟨sha256js (stringify (bulkyMessage 55000000)), bulkyMessage 55000000⟩])).encode := by
    refine le_trans ?_ (packedBytes_le_batch 0 fun message hmessage => ?_)
    · rw [packedBytes_singleton, bodyBytes_sha256js _ (bulkyMessage_canonical 55000000), jsonBytes_bulkyMessage]
      omega
    · rw [List.mem_singleton.mp hmessage]
      exact (bulkyMessage_canonical 55000000)
  rw [segments, List.mapIdx_cons, List.mapIdx_nil, List.map_cons, List.map_singleton, messageBytes_cons,
    messageBytes_cons, MAX_DATA_CHANNEL_QUEUED_BYTES] at htexts
  rw [byteLength] at hmanifest hbatch
  rw [List.length_singleton] at htexts
  omega

end pipane.ws_handler

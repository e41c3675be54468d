import Pipane.Server.WsHandler.SessionSync

open javascript json pipane.jsonl_sync pipane.session_jsonl pipane.ws_protocol

namespace pipane.ws_handler

/-- What a browser holds when it subscribes: the state and the message bodies of its cache. -/
structure ClientCache where
  state : Option JsString
  objects : OrderedMap JsString Value

instance : Inhabited ClientCache := ⟨⟨none, ∅⟩⟩

/-- A manifest whose batches have begun to arrive. -/
structure Segments where
  hash : JsString
  transferId : JsString
  messageHashes : List JsString
  state : List (JsString × Value)
  batchCount : Nat
  nextBatchIndex : Nat
  messages : List ContentAddressedMessage

/-- What the frames since the last subscription fold to. -/
structure Folded where
  base : SyncResult
  segments : Option Segments

def Folded.empty : Folded := ⟨⟨[], []⟩, none⟩

/-- `JSON.stringify({ messages, ...state })` with the bodies looked up by hash; `none` if one is missing. -/
def contentData (cache : ClientCache) (messageHashes : List JsString) (messages : List ContentAddressedMessage)
    (state : List (JsString × Value)) : Option JsString :=
  let objects := messages.foldl (fun objects body => objects.set body.hash body.message) cache.objects
  (messageHashes.mapM objects.get?).map fun bodies =>
    stringify (.obj (state.foldl defineMember [(js "messages", .arr bodies)]))

section

variable (computeHash : JsString → JsString)

def applyContent (cache : ClientCache) (hash : JsString) (messageHashes : List JsString)
    (messages : List ContentAddressedMessage) (state : List (JsString × Value)) : Option Folded := do
  let data ← contentData cache messageHashes messages state
  let base ← applySyncOp computeHash [] [] (.full data hash)
  return ⟨base, none⟩

/-- One more `session_sync` frame: a delta is checked against the base, every other operation gives a new
    base. -/
def applyFrame (cache : ClientCache) (folded : Folded) : SessionSyncOp → Option Folded
  | .sync op =>
    (applySyncOp computeHash folded.base.data folded.base.hash op).map fun base => ⟨base, none⟩
  | .not_modified hash =>
    match cache.state with
    | some json => if computeHash json = hash then some ⟨⟨json, hash⟩, none⟩ else none
    | none => none
  | .content hash messageHashes messages state =>
    applyContent computeHash cache hash messageHashes messages state
  | .content_manifest hash transferId messageHashes state batchCount =>
    if batchCount = 0 then applyContent computeHash cache hash messageHashes [] state
    else
      let segments : Segments :=
        { hash, transferId, messageHashes, state, batchCount, nextBatchIndex := 0, messages := [] }
      some { folded with segments := some segments }
  | .content_batch hash transferId batchIndex messages =>
    match folded.segments with
    | none => none
    | some segments =>
      if transferId ≠ segments.transferId ∨ hash ≠ segments.hash ∨ batchIndex ≠ segments.nextBatchIndex then none
      else
        let received := segments.messages ++ messages
        if segments.nextBatchIndex + 1 = segments.batchCount then
          applyContent computeHash cache hash segments.messageHashes received segments.state
        else
          let segments := { segments with nextBatchIndex := segments.nextBatchIndex + 1, messages := received }
          some { folded with segments := some segments }

def applyFrames (cache : ClientCache) (folded : Folded) (messages : List SessionSyncMessage) : Option Folded :=
  messages.foldlM (fun folded message => applyFrame computeHash cache folded message.op) folded

end

/-- What happens to a handler. Wherever the handler reads a file, the operation carries what it observes. -/
inductive Op (Ws : Type)
  | acceptConnection (ws : Ws)
  | closeConnection (ws : Ws)
  | removeConnection (ws : Ws)
  | subscribe (ws : Ws) (command : SubscribeSession) (cache : ClientCache) (resolved : Option JsString)
    (disk : SessionState) (size : Nat)
  | notifySessionFileChanged (sessionPath : JsString)
  | flushTimer (sessionPath : JsString) (newSize : Nat) (disk : SessionState)
  | attach (sessionPath : JsString) (session : SessionJsonl)
  | applyEvent (sessionPath : JsString) (session : SessionJsonl)
  | push (sessionPath : JsString)
  | release (sessionPath : JsString) (preserveLiveControls : Bool) (disk : SessionState) (size : Nat)

/-- What a client sees: its connection starts, its subscription is taken up, a frame arrives. -/
inductive Event (Ws : Type)
  | accepted (ws : Ws)
  | subscribed (ws : Ws) (cache : ClientCache)
  | sent (ws : Ws) (message : SessionSyncMessage)

section

variable {Ws : Type} [DecidableEq Ws] (computeHash : JsString → JsString)

def WsHandler.perform (self : WsHandler Ws) : Op Ws → Outcome Ws
  | .acceptConnection ws => { handler := self.acceptConnection ws, sent := [], failure := none }
  | .closeConnection ws => { handler := self.closeConnection ws, sent := [], failure := none }
  | .removeConnection ws =>
    { handler := { self with clients := self.clients.erase ws }, sent := [], failure := none }
  | .subscribe ws command _ resolved disk size =>
    self.handleSubscribeSession computeHash ws command resolved disk size
  | .notifySessionFileChanged sessionPath =>
    { handler := self.notifySessionFileChanged sessionPath, sent := [], failure := none }
  | .flushTimer sessionPath newSize disk => self.onFlushTimer computeHash sessionPath newSize disk
  | .attach sessionPath session =>
    if self.isAttached sessionPath then { handler := self, sent := [], failure := none }
    else
      { handler := { self with attached := self.attached.set sessionPath session }, sent := [], failure := none }
  | .applyEvent sessionPath session =>
    if self.isAttached sessionPath then
      { handler := { self with attached := self.attached.set sessionPath session }, sent := [], failure := none }
    else { handler := self, sent := [], failure := none }
  | .push sessionPath =>
    match self.attached.get? sessionPath with
    | some session => self.pushUpdateToSubscribers computeHash sessionPath session
    | none => { handler := self, sent := [], failure := none }
  | .release sessionPath preserveLiveControls disk size =>
    self.releaseActor computeHash sessionPath preserveLiveControls disk size

/-- What an operation shows to the clients before the frames it sends. -/
def opening : Op Ws → List (Event Ws)
  | .acceptConnection ws => [.accepted ws]
  | .subscribe ws _ cache _ _ _ => [.subscribed ws cache]
  | _ => []

/-- A run in which every call succeeds. -/
inductive Run : List (Op Ws) → WsHandler Ws → List (Event Ws) → Prop
  | start : Run [] .start []
  | step {ops handler events} (op : Op Ws) (before : Run ops handler events)
      (succeeds : (handler.perform computeHash op).failure = none) :
      Run (ops ++ [op]) (handler.perform computeHash op).handler
        (events ++ opening op ++ (handler.perform computeHash op).sent.map fun e => .sent e.1 e.2)

/-- A client's cache and the fold of the frames sent to it since its last subscription. -/
structure View where
  cache : ClientCache
  folded : Option Folded

def View.see (ws : Ws) (view : View) : Event Ws → View
  | .accepted other => if other = ws then ⟨default, some .empty⟩ else view
  | .subscribed other cache => if other = ws then ⟨cache, some .empty⟩ else view
  | .sent other message =>
    if other = ws then
      ⟨view.cache, view.folded.bind fun folded => applyFrame computeHash view.cache folded message.op⟩
    else view

def viewOf (ws : Ws) (events : List (Event Ws)) : View :=
  events.foldl (View.see computeHash ws) ⟨default, some .empty⟩

/-- The hashes of a subscription name what the client's cache holds. -/
structure Backs (cache : ClientCache) (command : SubscribeSession) : Prop where
  state : ∀ hash, command.cachedStateHash = some hash → ∃ json, cache.state = some json ∧ computeHash json = hash
  objects : ∀ known, command.knownMessageHashes = some known → ∀ hash ∈ known,
    ∃ message, cache.objects.get? hash = some message ∧ computeHash (stringify message) = hash

/-- No two of the texts have the same hash. -/
def Distinguishes (texts : List JsString) : Prop :=
  ∀ text ∈ texts, ∀ other ∈ texts, computeHash text = computeHash other → text = other

/-- Every subscription of a run comes from a client whose cache holds what it names. -/
def SubscriptionsAreBacked (ops : List (Op Ws)) : Prop :=
  ∀ ws command cache resolved disk size, Op.subscribe ws command cache resolved disk size ∈ ops →
    Backs computeHash cache command

end

section

variable {computeHash : JsString → JsString}

theorem stringifyItems_congr {xs ys : List Value} (h : xs.map stringify = ys.map stringify) :
    stringifyItems xs = stringifyItems ys := by
  induction xs generalizing ys with
  | nil =>
    cases ys with
    | nil => rfl
    | cons y ys => cases h
  | cons x xs ih =>
    cases ys with
    | nil => cases h
    | cons y ys =>
      rw [List.map_cons, List.map_cons, List.cons.injEq] at h
      have hrest := ih h.2
      cases xs with
      | nil =>
        cases ys with
        | nil => simpa [stringifyItems] using h.1
        | cons z ys => cases h.2
      | cons w xs =>
        cases ys with
        | nil => cases h.2
        | cons z ys => rw [stringifyItems, stringifyItems, h.1, hrest]

theorem stringify_obj_congr {k : JsString} {v w : Value} {rest : List (JsString × Value)}
    (h : stringify v = stringify w) : stringify (.obj ((k, v) :: rest)) = stringify (.obj ((k, w) :: rest)) := by
  cases rest <;> simp only [stringify, stringifyMembers, h]

theorem stateParts_json (state : SessionState) :
    stateParts state.json = some (state.messages, state.metadata) := by
  have hparse : parse state.json = some state.value := parse_stringify state.value_canonical
  have hlookup : ((js "messages", Value.arr state.messages) :: state.metadata).lookup (js "messages") =
      some (.arr state.messages) := by rw [List.lookup_cons_self]
  have hkeys : js "messages" ∉ state.metadata.map Prod.fst :=
    (List.nodup_cons.mp state.value_canonical.1).1
  have hfilter : ((js "messages", Value.arr state.messages) :: state.metadata).filter
      (fun member => member.1 ≠ js "messages") = state.metadata := by
    rw [List.filter_cons_of_neg (by simp), List.filter_eq_self]
    intro member hmember
    simp only [ne_eq, decide_eq_true_eq]
    intro heq
    have hmem := List.mem_map_of_mem (f := Prod.fst) hmember
    rw [heq] at hmem
    exact hkeys hmem
  simp only [stateParts, hparse, SessionState.value, hlookup, hfilter]

/-- The unknown bodies are messages of the state in their order, under their own hashes, and with the known
    ones they are all of them. -/
theorem unknownMessages_spec (computeHash : JsString → JsString) (known : List JsString) (messages : List Value) :
    (∀ body ∈ unknownMessages computeHash known messages, body.hash = computeHash (stringify body.message)) ∧
    (∀ message ∈ messages, computeHash (stringify message) ∈ known ∨
      computeHash (stringify message) ∈
        (unknownMessages computeHash known messages).map ContentAddressedMessage.hash) ∧
    ((unknownMessages computeHash known messages).map ContentAddressedMessage.message).Sublist messages := by
  have hloop : ∀ (messages : List Value) (emitted : List ContentAddressedMessage),
      (∀ body ∈ emitted, body.hash = computeHash (stringify body.message)) →
      let all := messages.foldl (fun emitted message =>
        let hash := computeHash (stringify message)
        if hash ∈ known ∨ hash ∈ emitted.map ContentAddressedMessage.hash then emitted
        else emitted ++ [⟨hash, message⟩]) emitted
      (∀ body ∈ all, body.hash = computeHash (stringify body.message)) ∧
      (∀ hash ∈ emitted.map ContentAddressedMessage.hash, hash ∈ all.map ContentAddressedMessage.hash) ∧
      (∀ message ∈ messages, computeHash (stringify message) ∈ known ∨
        computeHash (stringify message) ∈ all.map ContentAddressedMessage.hash) ∧
      (all.map ContentAddressedMessage.message).Sublist (emitted.map ContentAddressedMessage.message ++ messages) := by
    intro messages
    induction messages with
    | nil =>
      intro emitted hemitted
      refine ⟨hemitted, fun _ hmem => hmem, fun _ hmem => absurd hmem List.not_mem_nil, ?_⟩
      rw [List.append_nil]
      exact List.Sublist.refl _
    | cons message messages ih =>
      intro emitted hemitted
      simp only [List.foldl_cons]
      split
      · rename_i hseen
        obtain ⟨hbodies, hkept, hcovered, hsublist⟩ := ih emitted hemitted
        refine ⟨hbodies, hkept, ?_, ?_⟩
        · intro other hother
          rcases List.mem_cons.mp hother with rfl | hrest
          · exact hseen.imp_right (hkept _)
          · exact hcovered other hrest
        · exact hsublist.trans ((List.Sublist.refl _).append (List.sublist_cons_self _ _))
      · obtain ⟨hbodies, hkept, hcovered, hsublist⟩ := ih (emitted ++ [⟨computeHash (stringify message), message⟩]) (by
          intro body hbody
          rcases List.mem_append.mp hbody with hold | hnew
          · exact hemitted body hold
          · rw [List.mem_singleton.mp hnew])
        refine ⟨hbodies, fun hash hhash => hkept hash (by simp [hhash]), ?_, ?_⟩
        · intro other hother
          rcases List.mem_cons.mp hother with rfl | hrest
          · exact .inr (hkept _ (by simp))
          · exact hcovered other hrest
        · rw [List.map_append, List.append_assoc] at hsublist
          exact hsublist
  obtain ⟨hbodies, _, hcovered, hsublist⟩ := hloop messages [] fun _ hmem => absurd hmem List.not_mem_nil
  exact ⟨hbodies, hcovered, hsublist⟩

theorem unknownMessages_sublist (computeHash : JsString → JsString) (known : List JsString) (messages : List Value) :
    ((unknownMessages computeHash known messages).map ContentAddressedMessage.message).Sublist messages :=
  (unknownMessages_spec computeHash known messages).2.2

/-- A body that the frames carry is found under its hash; the other hashes are those of the cache. -/
theorem get?_setBodies (bodies : List ContentAddressedMessage) (objects : OrderedMap JsString Value)
    (hash : JsString) :
    (∃ body ∈ bodies, body.hash = hash ∧
      (bodies.foldl (fun objects body => objects.set body.hash body.message) objects).get? hash = some body.message) ∨
    (hash ∉ bodies.map ContentAddressedMessage.hash ∧
      (bodies.foldl (fun objects body => objects.set body.hash body.message) objects).get? hash =
        objects.get? hash) := by
  induction bodies generalizing objects with
  | nil => exact .inr ⟨List.not_mem_nil, rfl⟩
  | cons body bodies ih =>
    rw [List.foldl_cons]
    obtain ⟨other, hother, hhash, hget⟩ | ⟨hnot, hget⟩ := ih (objects.set body.hash body.message)
    · exact .inl ⟨other, List.mem_cons_of_mem _ hother, hhash, hget⟩
    · by_cases heq : body.hash = hash
      · refine .inl ⟨body, List.mem_cons_self, heq, ?_⟩
        rw [hget, ← heq, OrderedMap.get?_set_self]
      · refine .inr ⟨?_, ?_⟩
        · rw [List.map_cons, List.mem_cons, not_or]
          exact ⟨fun hsame => heq hsame.symm, hnot⟩
        · rw [hget, OrderedMap.get?_set_ne (Ne.symm heq)]

theorem mapM_get?_eq {objects : OrderedMap JsString Value} {messages : List Value}
    (h : ∀ message ∈ messages, ∃ body, objects.get? (computeHash (stringify message)) = some body ∧
      stringify body = stringify message) :
    ∃ bodies, (messages.map fun message => computeHash (stringify message)).mapM objects.get? = some bodies ∧
      bodies.map stringify = messages.map stringify := by
  induction messages with
  | nil => exact ⟨[], rfl, rfl⟩
  | cons message messages ih =>
    obtain ⟨body, hget, hsame⟩ := h message List.mem_cons_self
    obtain ⟨bodies, hbodies, hall⟩ := ih fun other hother => h other (List.mem_cons_of_mem _ hother)
    refine ⟨body :: bodies, ?_, by rw [List.map_cons, List.map_cons, hsame, hall]⟩
    rw [List.map_cons, List.mapM_cons, hget, hbodies]
    rfl

/-- The content that a client puts together from its cache and the bodies it did not know is the state. -/
theorem contentData_eq (cache : ClientCache) (state : SessionState)
    (hdistinct : Distinguishes computeHash ((state.messages ++ cache.objects.values).map stringify))
    {known : List JsString}
    (hknown : ∀ hash ∈ known, ∃ message, cache.objects.get? hash = some message ∧
      computeHash (stringify message) = hash) :
    contentData cache (state.messages.map fun message => computeHash (stringify message))
      (unknownMessages computeHash known state.messages) state.metadata = some state.json := by
  obtain ⟨hbodies, hcovered, hsublist⟩ := unknownMessages_spec computeHash known state.messages
  have hown : ∀ message ∈ state.messages, stringify message ∈ (state.messages ++ cache.objects.values).map stringify :=
    fun message hmessage => List.mem_map_of_mem (List.mem_append_left _ hmessage)
  have hfound : ∀ message ∈ state.messages, ∃ body,
      ((unknownMessages computeHash known state.messages).foldl
        (fun objects body => objects.set body.hash body.message) cache.objects).get?
          (computeHash (stringify message)) = some body ∧ stringify body = stringify message := by
    intro message hmessage
    obtain ⟨body, hbody, hhash, hget⟩ | ⟨hnot, hget⟩ :=
      get?_setBodies (unknownMessages computeHash known state.messages) cache.objects
        (computeHash (stringify message))
    · have hbody' := hown body.message (hsublist.subset (List.mem_map_of_mem hbody))
      exact ⟨body.message, hget, hdistinct _ hbody' _ (hown message hmessage) ((hbodies body hbody).symm.trans hhash)⟩
    · obtain ⟨other, hother, hhash⟩ := hknown _ ((hcovered message hmessage).resolve_right hnot)
      have hother' : stringify other ∈ (state.messages ++ cache.objects.values).map stringify :=
        List.mem_map_of_mem (List.mem_append_right _ (OrderedMap.mem_values_of_get? hother))
      exact ⟨other, hget.trans hother, hdistinct _ hother' _ (hown message hmessage) hhash⟩
  obtain ⟨bodies, hmapM, hsame⟩ := mapM_get?_eq hfound
  have hmembers : state.metadata.foldl defineMember [(js "messages", .arr bodies)] =
      (js "messages", .arr bodies) :: state.metadata :=
    foldl_defineMember [(js "messages", .arr bodies)] state.metadata state.value_canonical.1
  have hitems : stringify (.arr bodies) = stringify (.arr state.messages) := by
    rw [stringify, stringify, stringifyItems_congr hsame]
  simp only [contentData, hmapM, Option.map_some, hmembers]
  rw [stringify_obj_congr hitems]
  rfl

theorem applyContent_eq (hcollision : Function.Injective computeHash) (state : SessionState)
    {cache : ClientCache} {known : List JsString}
    (hknown : ∀ hash ∈ known, ∃ message, cache.objects.get? hash = some message ∧
      computeHash (stringify message) = hash) :
    applyContent computeHash cache (computeHash state.json)
      (state.messages.map fun message => computeHash (stringify message))
      (unknownMessages computeHash known state.messages) state.metadata =
      some ⟨⟨state.json, computeHash state.json⟩, none⟩ := by
  rw [applyContent, contentData_eq cache state (fun _ _ _ _ h => hcollision h) hknown]
  simp [applySyncOp]

theorem addToBatches_step {envelopeBytes : Nat} {filled next : ContentBatches}
    {message : ContentAddressedMessage} (h : addToBatches envelopeBytes filled message = .ok next) :
    next.batches.flatten ++ next.current = filled.batches.flatten ++ filled.current ++ [message] := by
  unfold addToBatches at h
  extract_lets messageBytes nextBytes started singleFrameBytes limit at h
  have hstarted : started.batches.flatten ++ started.current = filled.batches.flatten ++ filled.current := by
    simp only [started]
    split <;> simp
  by_cases hlimit : limit < singleFrameBytes
  · rw [if_pos hlimit] at h
    cases h
  · rw [if_neg hlimit] at h
    cases h
    rw [← List.append_assoc, hstarted]

theorem addToBatches_flatten {envelopeBytes : Nat} (messages : List ContentAddressedMessage)
    (filled result : ContentBatches) (h : messages.foldlM (addToBatches envelopeBytes) filled = .ok result) :
    result.batches.flatten ++ result.current = filled.batches.flatten ++ filled.current ++ messages := by
  induction messages generalizing filled with
  | nil =>
    cases h
    rw [List.append_nil]
  | cons message messages ih =>
    rw [List.foldlM_cons] at h
    cases hadd : addToBatches envelopeBytes filled message with
    | error error =>
      rw [hadd] at h
      cases h
    | ok next =>
      rw [hadd] at h
      rw [ih next h, addToBatches_step hadd, List.append_assoc, List.singleton_append]

theorem makeContentBatches_ok {sessionPath hash transferId : JsString} {revision : Nat}
    {messages : List ContentAddressedMessage} {result : List SessionSyncMessage}
    (h : makeContentBatches sessionPath revision hash transferId messages = .ok result) :
    ∃ batches : List (List ContentAddressedMessage), batches.flatten = messages ∧
      result = batches.mapIdx fun i batch => ⟨sessionPath, revision, .content_batch hash transferId i batch⟩ := by
  unfold makeContentBatches at h
  extract_lets envelopeBytes at h
  cases hfill : messages.foldlM (addToBatches envelopeBytes) { batches := [], current := [], currentBytes := 0 } with
  | error error =>
    simp only [hfill] at h
    cases h
  | ok filled =>
    have hall := addToBatches_flatten messages _ filled hfill
    rw [List.flatten_nil, List.append_nil, List.nil_append] at hall
    simp only [hfill] at h
    refine ⟨if filled.current = [] then filled.batches else filled.batches ++ [filled.current], ?_, ?_⟩
    · rw [← hall]
      split
      · rename_i hempty
        rw [hempty, List.append_nil]
      · rw [List.flatten_append, List.flatten_cons, List.flatten_nil, List.append_nil]
    · by_cases hlimit : MAX_SEGMENTED_SESSION_SYNC_BATCHES <
          (if filled.current = [] then filled.batches else filled.batches ++ [filled.current]).length
      · rw [if_pos hlimit] at h
        cases h
      · rw [if_neg hlimit] at h
        cases h
        rfl

/-- The batches of a manifest complete it with all their bodies, by induction on the batches to come. -/
theorem applyFrames_batches (computeHash : JsString → JsString) (cache : ClientCache)
    (sessionPath hash transferId : JsString) (revision : Nat) (messageHashes : List JsString)
    (state : List (JsString × Value)) (base : SyncResult) (batches : List (List ContentAddressedMessage))
    (index : Nat) (received : List ContentAddressedMessage) (hne : batches ≠ []) :
    applyFrames computeHash cache
      ⟨base, some ⟨hash, transferId, messageHashes, state, index + batches.length, index, received⟩⟩
      (batches.mapIdx fun i batch => ⟨sessionPath, revision, .content_batch hash transferId (index + i) batch⟩) =
      applyContent computeHash cache hash messageHashes (received ++ batches.flatten) state := by
  induction batches generalizing index received with
  | nil => exact absurd rfl hne
  | cons batch batches ih =>
    have hstep : applyFrame computeHash cache
        ⟨base, some ⟨hash, transferId, messageHashes, state, index + (batch :: batches).length, index, received⟩⟩
        (.content_batch hash transferId (index + 0) batch) =
        if batches = [] then applyContent computeHash cache hash messageHashes (received ++ batch) state
        else some ⟨base, some ⟨hash, transferId, messageHashes, state, index + 1 + batches.length, index + 1,
          received ++ batch⟩⟩ := by
      have hlast : (index + 1 = index + 1 + batches.length) ↔ batches = [] := by
        rw [← List.length_eq_zero_iff]
        omega
      have hcount : index + (batch :: batches).length = index + 1 + batches.length := by
        rw [List.length_cons]
        omega
      simp only [applyFrame, Nat.add_zero, ne_eq, not_true_eq_false, or_self, if_false, hcount, hlast]
    have hshift : (fun i (batch : List ContentAddressedMessage) =>
        (⟨sessionPath, revision, .content_batch hash transferId (index + (i + 1)) batch⟩ : SessionSyncMessage)) =
        fun i batch => ⟨sessionPath, revision, .content_batch hash transferId (index + 1 + i) batch⟩ := by
      funext i batch
      rw [show index + (i + 1) = index + 1 + i by omega]
    rw [List.mapIdx_cons, applyFrames, List.foldlM_cons, hstep, hshift]
    by_cases hbatches : batches = []
    · subst hbatches
      rw [if_pos rfl, List.flatten_cons, List.flatten_nil, List.append_nil, Option.bind_eq_bind]
      cases applyContent computeHash cache hash messageHashes (received ++ batch) state <;> rfl
    · rw [if_neg hbatches, Option.bind_eq_bind, Option.bind_some, List.flatten_cons, ← List.append_assoc]
      exact ih (index + 1) (received ++ batch) hbatches

theorem applyFrames_single (cache : ClientCache) (folded : Folded) (message : SessionSyncMessage) :
    applyFrames computeHash cache folded [message] = applyFrame computeHash cache folded message.op := by
  rw [applyFrames, List.foldlM_cons]
  cases applyFrame computeHash cache folded message.op <;> rfl

/-- Whatever form the answer to a subscription takes, it gives the client the published state. -/
theorem applyFrames_makeInitialSessionSync (hcollision : Function.Injective computeHash) {cache : ClientCache}
    {command : SubscribeSession} (hbacks : Backs computeHash cache command) {sessionPath : JsString}
    {state : SessionState} {revision : Nat} {messages : List SessionSyncMessage}
    (h : makeInitialSessionSync computeHash sessionPath state.json (computeHash state.json) revision command =
      .ok messages) :
    applyFrames computeHash cache .empty messages = some ⟨⟨state.json, computeHash state.json⟩, none⟩ := by
  rw [makeInitialSessionSync] at h
  by_cases hcached : command.cachedStateHash = some (computeHash state.json)
  · rw [if_pos hcached] at h
    cases h
    obtain ⟨json, hjson, hhash⟩ := hbacks.state _ hcached
    have hsame : json = state.json := hcollision hhash
    rw [applyFrames_single]
    simp only [applyFrame, hjson, hsame, if_true]
  · rw [if_neg hcached] at h
    cases hknown : command.knownMessageHashes with
    | none =>
      simp only [hknown] at h
      cases h
      rw [applyFrames_single]
      simp [applyFrame, applySyncOp]
    | some known =>
      have hcontent := applyContent_eq hcollision state (hbacks.objects known hknown)
      simp only [hknown, stateParts_json] at h
      by_cases hsegmented : command.segmentedContent = true
      · rw [if_pos hsegmented] at h
        by_cases hsize : MAX_SEGMENTED_SESSION_SYNC_BYTES < byteLength state.json
        · rw [if_pos hsize] at h
          cases h
        · rw [if_neg hsize] at h
          cases hmake : makeContentBatches sessionPath revision (computeHash state.json)
              (base36 revision ++ 0x2D :: (computeHash state.json).take 16)
              (unknownMessages computeHash known state.messages) with
          | error error =>
            rw [hmake] at h
            cases h
          | ok sent =>
            rw [hmake] at h
            cases h
            obtain ⟨batches, hflatten, rfl⟩ := makeContentBatches_ok hmake
            rw [List.length_mapIdx, applyFrames, List.foldlM_cons, Option.bind_eq_bind]
            by_cases hnone : batches = []
            · subst hnone
              rw [List.flatten_nil] at hflatten
              rw [← hflatten] at hcontent
              simp only [List.length_nil, applyFrame, if_true, hcontent, Option.bind_some, List.mapIdx_nil,
                List.foldlM_nil, Option.pure_def]
            · have hcount : batches.length ≠ 0 := fun hzero => hnone (List.length_eq_zero_iff.mp hzero)
              simp only [applyFrame, if_neg hcount, Option.bind_some]
              have hall := applyFrames_batches computeHash cache sessionPath (computeHash state.json)
                (base36 revision ++ 0x2D :: (computeHash state.json).take 16) revision
                (state.messages.map fun message => computeHash (stringify message)) state.metadata
                Folded.empty.base batches 0 [] hnone
              simp only [Nat.zero_add, List.nil_append, hflatten, hcontent] at hall
              exact hall
      · rw [if_neg hsegmented] at h
        cases h
        rw [applyFrames_single]
        exact hcontent

end

end pipane.ws_handler

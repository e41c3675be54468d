import Pipane.Server.WsHandler.SyncBase

open javascript json pipane.jsonl_sync pipane.session_jsonl pipane.ws_protocol

namespace pipane.ws_handler

section

variable {Ws : Type} [DecidableEq Ws] (computeHash : JsString → JsString)

/-- The record of a client and what it was sent since its last subscription. -/
structure ClientAgrees (view : View) (client : ClientState) : Prop where
  folded : client.isOpen = true → view.folded = some ⟨⟨client.lastJson, client.lastHash⟩, none⟩
  verified : Verified computeHash client.lastJson client.lastHash

def Agrees (handler : WsHandler Ws) (events : List (Event Ws)) : Prop :=
  ∀ ws client, handler.clients.get? ws = some client → ClientAgrees computeHash (viewOf computeHash ws events) client

/-- A push leaves a record and sends nothing, or moves the record to a state and sends the operation that
    leads there. -/
def Pushes (client : ClientState) (pushed : ClientState × Option SessionSyncMessage) : Prop :=
  pushed = (client, none) ∨
  ∃ (json : JsString) (version revision : Nat) (sessionPath : JsString), pushed =
    ({ client with lastJson := json, lastHash := computeHash json, lastVersion := version },
      some ⟨sessionPath, revision,
        .sync (computeSyncOp client.lastJson json client.lastHash (computeHash json))⟩)

/-- The frames that one client receives. -/
def received (ws : Ws) (sent : List (Ws × SessionSyncMessage)) : List SessionSyncMessage :=
  sent.filterMap fun e => if e.1 = ws then some e.2 else none

end

section

variable {Ws : Type} [DecidableEq Ws] {computeHash : JsString → JsString}

theorem viewOf_append (ws : Ws) (events more : List (Event Ws)) :
    viewOf computeHash ws (events ++ more) = more.foldl (View.see computeHash ws) (viewOf computeHash ws events) := by
  rw [viewOf, List.foldl_append, viewOf]

theorem foldl_see_sent (ws : Ws) (sent : List (Ws × SessionSyncMessage)) (view : View) :
    (sent.map fun e => Event.sent e.1 e.2).foldl (View.see computeHash ws) view =
      ⟨view.cache, view.folded.bind fun folded => applyFrames computeHash view.cache folded (received ws sent)⟩ := by
  induction sent generalizing view with
  | nil =>
    obtain ⟨cache, folded⟩ := view
    cases folded <;> rfl
  | cons e sent ih =>
    rw [List.map_cons, List.foldl_cons, ih, View.see]
    by_cases hws : e.1 = ws
    · have hreceived : received ws (e :: sent) = e.2 :: received ws sent :=
        List.filterMap_cons_some (by rw [if_pos hws])
      rw [if_pos hws, hreceived, Option.bind_assoc]
      rfl
    · have hreceived : received ws (e :: sent) = received ws sent :=
        List.filterMap_cons_none (by rw [if_neg hws])
      rw [if_neg hws, hreceived]

theorem received_nil_of_ne {ws : Ws} {sent : List (Ws × SessionSyncMessage)} (h : ∀ e ∈ sent, e.1 ≠ ws) :
    received ws sent = [] := by
  rw [received, List.filterMap_eq_nil_iff]
  intro e he
  rw [if_neg (h e he)]

theorem received_sendMessages (ws : Ws) {client : ClientState} (hopen : client.isOpen = true)
    (messages : List SessionSyncMessage) : received ws (WsHandler.sendMessages ws client messages) = messages := by
  rw [WsHandler.sendMessages, if_pos hopen, received, List.filterMap_map]
  have hsame : (fun e : Ws × SessionSyncMessage => if e.1 = ws then some e.2 else none) ∘ (ws, ·) = some := by
    funext message
    rw [Function.comp_apply, if_pos rfl]
  rw [hsame, List.filterMap_some]

omit [DecidableEq Ws] in
theorem mem_sendMessages {ws : Ws} {client : ClientState} {messages : List SessionSyncMessage}
    {e : Ws × SessionSyncMessage} (h : e ∈ WsHandler.sendMessages ws client messages) : e.1 = ws := by
  rw [WsHandler.sendMessages] at h
  split at h
  · obtain ⟨message, _, rfl⟩ := List.mem_map.mp h
    rfl
  · cases h

/-- Each client receives its own push and no other. -/
theorem received_pushToClients {handler : WsHandler Ws}
    {push : ClientState → ClientState × Option SessionSyncMessage} {ws : Ws} {client : ClientState}
    (hclient : handler.clients.get? ws = some client) :
    received ws (handler.pushToClients push).sent = (push client).2.toList := by
  have hloop : ∀ entries : List (Ws × ClientState), (entries.map Prod.fst).Nodup →
      received ws (entries.filterMap fun entry => (push entry.2).2.map (entry.1, ·)) =
        ((entries.lookup ws).bind fun client => (push client).2).toList := by
    intro entries hnodup
    induction entries with
    | nil => rfl
    | cons entry entries ih =>
      obtain ⟨other, record⟩ := entry
      rw [List.map_cons, List.nodup_cons] at hnodup
      have hrest := ih hnodup.2
      by_cases hws : other = ws
      · subst hws
        have hnone : received other (entries.filterMap fun entry => (push entry.2).2.map (entry.1, ·)) = [] := by
          apply received_nil_of_ne
          intro e he
          obtain ⟨entry, hentry, hmap⟩ := List.mem_filterMap.mp he
          obtain ⟨message, _, rfl⟩ := Option.map_eq_some_iff.mp hmap
          have hmem : entry.1 ∈ entries.map Prod.fst := List.mem_map_of_mem hentry
          exact fun hsame => hnodup.1 (hsame ▸ hmem)
        rw [List.lookup_cons_self, Option.bind_some]
        cases hpush : (push record).2 with
        | none =>
          rw [List.filterMap_cons_none (by rw [hpush]; rfl), hnone]
          rfl
        | some message =>
          rw [List.filterMap_cons_some (by rw [hpush]; rfl), received, List.filterMap_cons_some (by rw [if_pos rfl])]
          rw [received] at hnone
          rw [hnone]
          rfl
      · have hne : (ws == other) = false := beq_eq_false_iff_ne.mpr (Ne.symm hws)
        rw [List.lookup_cons, hne]
        simp only
        rw [← hrest]
        cases hpush : (push record).2 with
        | none => rw [List.filterMap_cons_none (by rw [hpush]; rfl)]
        | some message =>
          rw [List.filterMap_cons_some (by rw [hpush]; rfl), received, List.filterMap_cons_none (by rw [if_neg hws]),
            received]
  rw [WsHandler.pushToClients, hloop handler.clients.entries handler.clients.nodup]
  have hlookup : handler.clients.entries.lookup ws = some client := hclient
  rw [hlookup, Option.bind_some]

theorem clientAgrees_push {view : View} {client : ClientState}
    {pushed : ClientState × Option SessionSyncMessage} (hagrees : ClientAgrees computeHash view client)
    (hpush : Pushes computeHash client pushed) :
    ClientAgrees computeHash
      ⟨view.cache, view.folded.bind fun folded => applyFrames computeHash view.cache folded pushed.2.toList⟩
      pushed.1 := by
  obtain rfl | ⟨json, version, revision, sessionPath, rfl⟩ := hpush
  · refine ⟨fun hopen => ?_, hagrees.verified⟩
    rw [hagrees.folded hopen]
    rfl
  · refine ⟨fun hopen => ?_, .inr rfl⟩
    rw [hagrees.folded hopen, Option.bind_some, Option.toList_some, applyFrames_single]
    simp only [applyFrame]
    rw [applySyncOp_computeSyncOp]
    rfl

theorem agrees_pushToClients {handler : WsHandler Ws} {events : List (Event Ws)}
    {push : ClientState → ClientState × Option SessionSyncMessage} (hagrees : Agrees computeHash handler events)
    (hpush : ∀ client, Pushes computeHash client (push client)) :
    Agrees computeHash (handler.pushToClients push).handler
      (events ++ (handler.pushToClients push).sent.map fun e => .sent e.1 e.2) := by
  intro ws after hafter
  have hget : (handler.pushToClients push).handler.clients.get? ws =
      (handler.clients.get? ws).map fun client => (push client).1 :=
    OrderedMap.get?_mapValues handler.clients (fun _ client => (push client).1) ws
  rw [hget, Option.map_eq_some_iff] at hafter
  obtain ⟨client, hclient, rfl⟩ := hafter
  rw [viewOf_append, foldl_see_sent, received_pushToClients hclient]
  exact clientAgrees_push (hagrees ws client hclient) (hpush client)

omit [DecidableEq Ws] in
theorem clients_revisionForState (handler : WsHandler Ws) (sessionPath hash : JsString) :
    (handler.revisionForState sessionPath hash).2.clients = handler.clients := by
  rw [WsHandler.revisionForState]
  cases handler.sessionRevisions.get? sessionPath with
  | none => rfl
  | some current =>
    simp only
    split <;> rfl

theorem agrees_of_clients_eq {handler next : WsHandler Ws} {events : List (Event Ws)}
    (hagrees : Agrees computeHash handler events) (hclients : next.clients = handler.clients) :
    Agrees computeHash next events := by
  intro ws client hclient
  rw [hclients] at hclient
  exact hagrees ws client hclient

theorem agrees_pushSnapshotToSubscribers {handler : WsHandler Ws} {events : List (Event Ws)}
    (hagrees : Agrees computeHash handler events) (sessionPath json : JsString) :
    Agrees computeHash (handler.pushSnapshotToSubscribers sessionPath json (computeHash json)).handler
      (events ++ (handler.pushSnapshotToSubscribers sessionPath json (computeHash json)).sent.map
        fun e => .sent e.1 e.2) := by
  apply agrees_pushToClients
  · exact agrees_of_clients_eq hagrees (clients_revisionForState handler sessionPath _)
  · intro client
    rw [WsHandler.pushSnapshot]
    split
    · exact .inl rfl
    · exact .inr ⟨json, 0, _, sessionPath, rfl⟩

theorem agrees_pushUpdateToSubscribers {handler : WsHandler Ws} {events : List (Event Ws)}
    (hagrees : Agrees computeHash handler events) (sessionPath : JsString) (session : SessionJsonl) :
    Agrees computeHash (handler.pushUpdateToSubscribers computeHash sessionPath session).handler
      (events ++ (handler.pushUpdateToSubscribers computeHash sessionPath session).sent.map
        fun e => .sent e.1 e.2) := by
  apply agrees_pushToClients
  · exact agrees_of_clients_eq hagrees (clients_revisionForState handler sessionPath _)
  · intro client
    rw [WsHandler.pushUpdate]
    split
    · exact .inl rfl
    · rw [SessionJsonl.computeSyncOp]
      split
      · exact .inl rfl
      · rename_i hsome
        split at hsome
        · cases hsome
        · cases hsome
          exact .inr ⟨session.json, session.version, _, sessionPath, rfl⟩

/-- The record and the answer to a subscription agree, whatever the client held before. -/
theorem agrees_publishInitial (hcollision : Function.Injective computeHash) {handler : WsHandler Ws}
    {events : List (Event Ws)} (hagrees : Agrees computeHash handler events) {ws : Ws} {client : ClientState}
    {sessionPath : JsString} {state : SessionState} {version : Nat} {command : SubscribeSession}
    {cache : ClientCache} (hbacks : Backs computeHash cache command)
    (hok : (handler.publishInitial computeHash ws client sessionPath state.json (computeHash state.json) version
      command).failure = none) :
    Agrees computeHash
      (handler.publishInitial computeHash ws client sessionPath state.json (computeHash state.json) version
        command).handler
      (events ++ [.subscribed ws cache] ++
        (handler.publishInitial computeHash ws client sessionPath state.json (computeHash state.json) version
          command).sent.map fun e => .sent e.1 e.2) := by
  unfold WsHandler.publishInitial at hok ⊢
  extract_lets at hok ⊢
  rename_i subscribed
  have hclients := clients_revisionForState { handler with clients := handler.clients.set ws subscribed }
    sessionPath (computeHash state.json)
  generalize WsHandler.revisionForState { handler with clients := handler.clients.set ws subscribed }
    sessionPath (computeHash state.json) = revised at hok hclients ⊢
  obtain ⟨revision, next⟩ := revised
  simp only at hok hclients ⊢
  cases hmake : makeInitialSessionSync computeHash sessionPath state.json (computeHash state.json) revision command with
  | error error =>
    rw [hmake] at hok
    cases hok
  | ok messages =>
    simp only
    intro other record hrecord
    rw [hclients, OrderedMap.get?_set] at hrecord
    rw [viewOf_append, viewOf_append, foldl_see_sent, List.foldl_cons, List.foldl_nil, View.see]
    by_cases hother : other = ws
    · rw [if_pos hother] at hrecord
      cases hrecord
      subst hother
      refine ⟨fun hopen => ?_, .inr rfl⟩
      rw [if_pos rfl, received_sendMessages other hopen, Option.bind_some]
      exact applyFrames_makeInitialSessionSync hcollision hbacks hmake
    · rw [if_neg hother] at hrecord
      rw [if_neg (Ne.symm hother), received_nil_of_ne]
      · have hsame := hagrees other record hrecord
        refine ⟨fun hopen => ?_, hsame.verified⟩
        rw [hsame.folded hopen]
        rfl
      · intro e he
        rw [mem_sendMessages he]
        exact Ne.symm hother

theorem agrees_handleSubscribeSession (hcollision : Function.Injective computeHash) {handler : WsHandler Ws}
    {events : List (Event Ws)} (hagrees : Agrees computeHash handler events) {ws : Ws} {command : SubscribeSession}
    {cache : ClientCache} {resolved : Option JsString} {disk : SessionState} {size : Nat}
    (hbacks : Backs computeHash cache command)
    (hok : (handler.handleSubscribeSession computeHash ws command resolved disk size).failure = none) :
    Agrees computeHash (handler.handleSubscribeSession computeHash ws command resolved disk size).handler
      (events ++ [.subscribed ws cache] ++
        (handler.handleSubscribeSession computeHash ws command resolved disk size).sent.map
          fun e => .sent e.1 e.2) := by
  rw [WsHandler.handleSubscribeSession] at hok ⊢
  cases hclient : handler.clients.get? ws with
  | none =>
    simp only [List.map_nil, List.append_nil]
    intro other record hrecord
    have hother : other ≠ ws := by
      rintro rfl
      rw [hclient] at hrecord
      cases hrecord
    rw [viewOf_append, List.foldl_cons, List.foldl_nil, View.see, if_neg (Ne.symm hother)]
    exact hagrees other record hrecord
  | some client =>
    simp only [hclient] at hok ⊢
    by_cases hempty : command.sessionPath = []
    · simp only [if_pos hempty, List.map_nil, List.append_nil] at hok ⊢
      intro other record hrecord
      rw [OrderedMap.get?_set] at hrecord
      rw [viewOf_append, List.foldl_cons, List.foldl_nil, View.see]
      by_cases hother : other = ws
      · rw [if_pos hother] at hrecord
        cases hrecord
        rw [if_pos hother.symm]
        exact ⟨fun _ => rfl, .inl ⟨rfl, rfl⟩⟩
      · rw [if_neg hother] at hrecord
        rw [if_neg (Ne.symm hother)]
        exact hagrees other record hrecord
    · simp only [if_neg hempty] at hok ⊢
      cases resolved with
      | none => cases hok
      | some sessionPath =>
        simp only at hok ⊢
        cases hattached : handler.attached.get? sessionPath with
        | some session =>
          simp only [hattached] at hok ⊢
          exact agrees_publishInitial hcollision hagrees hbacks hok
        | none =>
          simp only [hattached] at hok ⊢
          refine agrees_publishInitial hcollision ?_ hbacks hok
          exact agrees_of_clients_eq hagrees rfl

theorem agrees_accept {handler : WsHandler Ws} {events : List (Event Ws)}
    (hagrees : Agrees computeHash handler events) (ws : Ws) :
    Agrees computeHash (handler.acceptConnection ws) (events ++ [.accepted ws]) := by
  intro other record hrecord
  rw [WsHandler.acceptConnection, OrderedMap.get?_set] at hrecord
  rw [viewOf_append, List.foldl_cons, List.foldl_nil, View.see]
  by_cases hother : other = ws
  · rw [if_pos hother] at hrecord
    cases hrecord
    rw [if_pos hother.symm]
    exact ⟨fun _ => rfl, .inl ⟨rfl, rfl⟩⟩
  · rw [if_neg hother] at hrecord
    rw [if_neg (Ne.symm hother)]
    exact hagrees other record hrecord

theorem agrees_close {handler : WsHandler Ws} {events : List (Event Ws)}
    (hagrees : Agrees computeHash handler events) (ws : Ws) :
    Agrees computeHash (handler.closeConnection ws) events := by
  rw [WsHandler.closeConnection]
  cases hclient : handler.clients.get? ws with
  | none => exact hagrees
  | some client =>
    intro other record hrecord
    simp only [OrderedMap.get?_set] at hrecord
    by_cases hother : other = ws
    · rw [if_pos hother] at hrecord
      cases hrecord
      subst hother
      exact ⟨fun hopen => absurd hopen Bool.false_ne_true, (hagrees other client hclient).verified⟩
    · rw [if_neg hother] at hrecord
      exact hagrees other record hrecord

/-- What one operation preserves. -/
theorem agrees_perform (hcollision : Function.Injective computeHash) {handler : WsHandler Ws}
    {events : List (Event Ws)} (hagrees : Agrees computeHash handler events) {op : Op Ws}
    (hbacked : ∀ ws command cache resolved disk size, op = .subscribe ws command cache resolved disk size →
      Backs computeHash cache command)
    (hok : (handler.perform computeHash op).failure = none) :
    Agrees computeHash (handler.perform computeHash op).handler
      (events ++ opening op ++ (handler.perform computeHash op).sent.map fun e => .sent e.1 e.2) := by
  have hkept : ∀ next : WsHandler Ws, next.clients = handler.clients → Agrees computeHash next (events ++ [] ++ []) := by
    intro next hclients
    rw [List.append_nil, List.append_nil]
    exact agrees_of_clients_eq hagrees hclients
  cases op with
  | acceptConnection ws =>
    simp only [WsHandler.perform, opening, List.map_nil, List.append_nil]
    exact agrees_accept hagrees ws
  | closeConnection ws =>
    simp only [WsHandler.perform, opening, List.map_nil, List.append_nil]
    exact agrees_close hagrees ws
  | removeConnection ws =>
    simp only [WsHandler.perform, opening, List.map_nil, List.append_nil]
    intro other record hrecord
    rw [OrderedMap.get?_erase] at hrecord
    split at hrecord
    · cases hrecord
    · exact hagrees other record hrecord
  | subscribe ws command cache resolved disk size =>
    exact agrees_handleSubscribeSession hcollision hagrees (hbacked _ _ _ _ _ _ rfl) hok
  | notifySessionFileChanged sessionPath =>
    refine hkept _ ?_
    simp only [WsHandler.perform, WsHandler.notifySessionFileChanged]
    split <;> rfl
  | flushTimer sessionPath newSize disk =>
    simp only [WsHandler.perform, WsHandler.onFlushTimer, opening, List.append_nil]
    split
    · simpa using hagrees
    · simp only [WsHandler.flushDetachedSessionSync]
      split
      · rw [List.map_nil, List.append_nil]
        exact agrees_of_clients_eq hagrees rfl
      · split
        · rw [List.map_nil, List.append_nil]
          exact agrees_of_clients_eq hagrees rfl
        · refine agrees_pushSnapshotToSubscribers ?_ sessionPath disk.json
          exact agrees_of_clients_eq hagrees rfl
  | attach sessionPath session =>
    simp only [WsHandler.perform]
    split
    · exact hkept _ rfl
    · exact hkept _ rfl
  | applyEvent sessionPath session =>
    simp only [WsHandler.perform]
    split
    · exact hkept _ rfl
    · exact hkept _ rfl
  | push sessionPath =>
    simp only [WsHandler.perform, opening, List.append_nil]
    cases handler.attached.get? sessionPath with
    | none => simpa using hagrees
    | some session => exact agrees_pushUpdateToSubscribers hagrees sessionPath session
  | release sessionPath preserveLiveControls disk size =>
    simp only [WsHandler.perform, opening, List.append_nil]
    refine agrees_pushSnapshotToSubscribers ?_ sessionPath (SessionState.json _)
    exact agrees_of_clients_eq hagrees rfl

theorem agrees_run (hcollision : Function.Injective computeHash) {ops : List (Op Ws)} {handler : WsHandler Ws}
    {events : List (Event Ws)} (hrun : Run computeHash ops handler events)
    (hbacked : SubscriptionsAreBacked computeHash ops) : Agrees computeHash handler events := by
  induction hrun with
  | start =>
    intro ws client hclient
    cases hclient
  | step op before succeeds ih =>
    refine agrees_perform hcollision (ih fun ws command cache resolved disk size hmem => ?_) ?_ succeeds
    · exact hbacked ws command cache resolved disk size (List.mem_append_left _ hmem)
    · rintro ws command cache resolved disk size rfl
      exact hbacked ws command cache resolved disk size (by simp)

/-- The fold of the frames sent to an open client since its last subscription is the pair that the handler
    keeps for it, and every kept pair is verified. -/
theorem sync_base_agreement {computeHash : JsString → JsString} (hcollision : Function.Injective computeHash)
    {ops : List (Op Ws)} {handler : WsHandler Ws} {events : List (Event Ws)}
    (hrun : Run computeHash ops handler events) (hbacked : SubscriptionsAreBacked computeHash ops) (ws : Ws)
    (client : ClientState) (hclient : handler.clients.get? ws = some client) :
    (client.isOpen = true →
      (viewOf computeHash ws events).folded = some ⟨⟨client.lastJson, client.lastHash⟩, none⟩) ∧
    Verified computeHash client.lastJson client.lastHash := by
  obtain ⟨hfolded, hverified⟩ := agrees_run hcollision hrun hbacked ws client hclient
  exact ⟨hfolded, hverified⟩

end

/-- A session file without messages. -/
def blankSession : SessionState where
  messages := []
  isStreaming := false
  pendingToolCalls := []
  toolCallTimings := .obj []
  model := none
  thinkingLevel := js "off"
  steeringQueue := []
  error := none
  messages_canonical := trivial
  timings_canonical := canonical_emptyObject

/-- A client subscribes to a session whose file then grows. -/
def grownFile : List (Op Unit) :=
  [.acceptConnection (),
    .subscribe () ⟨js "a.jsonl", none, none, false⟩ default (some (js "a.jsonl")) blankSession 10,
    .notifySessionFileChanged (js "a.jsonl"),
    .flushTimer (js "a.jsonl") 20 { blankSession with thinkingLevel := js "high" }]

theorem sync_base_agreement_grownFile :
    ∃ (handler : WsHandler Unit) (events : List (Event Unit)) (client : ClientState),
      Run (List.cons 0x68) grownFile handler events ∧
      handler.clients.get? () = some client ∧ client.isOpen = true ∧
      client.lastJson = { blankSession with thinkingLevel := js "high" }.json ∧
      (viewOf (List.cons 0x68) () events).folded = some ⟨⟨client.lastJson, client.lastHash⟩, none⟩ ∧
      Verified (List.cons 0x68) client.lastJson client.lastHash := by
  have haccepted := (@Run.start Unit _ (List.cons 0x68)).step (.acceptConnection ()) rfl
  have hsubscribed := haccepted.step
    (.subscribe () ⟨js "a.jsonl", none, none, false⟩ default (some (js "a.jsonl")) blankSession 10) rfl
  have hnotified := hsubscribed.step (.notifySessionFileChanged (js "a.jsonl")) rfl
  have hrun := hnotified.step
    (.flushTimer (js "a.jsonl") 20 { blankSession with thinkingLevel := js "high" }) rfl
  have hbacked : SubscriptionsAreBacked (List.cons 0x68) grownFile := by
    intro ws command cache resolved disk size hmem
    simp only [grownFile, List.mem_cons, List.not_mem_nil, reduceCtorEq, false_or, or_false,
      Op.subscribe.injEq] at hmem
    obtain ⟨_, rfl, _⟩ := hmem
    exact ⟨fun _ h => absurd h (by simp), fun _ h => absurd h (by simp)⟩
  have hagrees := sync_base_agreement (fun _ _ h => (List.cons.inj h).2) hrun hbacked () _ rfl
  exact ⟨_, _, _, hrun, rfl, rfl, rfl, hagrees.1 rfl, hagrees.2⟩

end pipane.ws_handler

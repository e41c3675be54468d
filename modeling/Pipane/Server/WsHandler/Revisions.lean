import Mathlib.Data.List.Chain
import Pipane.Lib.Transition
import Pipane.Server.WsHandler.Agreement

open javascript json transition pipane.jsonl_sync pipane.session_jsonl pipane.ws_protocol

namespace pipane.ws_handler

section

variable {Ws : Type} [DecidableEq Ws] (computeHash : JsString → JsString)

/-- A handler and the messages it has sent. -/
structure Served (Ws : Type) where
  handler : WsHandler Ws
  sent : List (Ws × SessionSyncMessage)

/-- One more operation, whether it succeeds or throws. -/
def Served.perform (served : Served Ws) (op : Op Ws) : Served Ws where
  handler := (served.handler.perform computeHash op).handler
  sent := served.sent ++ (served.handler.perform computeHash op).sent

def IsDelta : SessionSyncOp → Prop
  | .sync (.delta ..) => True
  | _ => False

instance : DecidablePred IsDelta
  | .sync (.delta ..) => isTrue trivial
  | .sync (.full ..) | .not_modified .. | .content .. | .content_manifest .. | .content_batch .. => isFalse id

/-- Each delta carries the revision that follows the one of the frame before it. -/
def Contiguous (frames : List SessionSyncMessage) : Prop :=
  frames.IsChain fun previous next => IsDelta next.op → next.revision = previous.revision + 1

/-- An operation that ends a client's subscription or its connection. -/
def Leaves (ws : Ws) : Op Ws → Prop
  | .acceptConnection other => other = ws
  | .closeConnection other => other = ws
  | .removeConnection other => other = ws
  | .subscribe other _ _ _ _ _ => other = ws
  | _ => False

/-- The hash of the state that a subscription to a session publishes. -/
def publishedHash (handler : WsHandler Ws) (sessionPath : JsString) (disk : SessionState) : JsString :=
  match handler.attached.get? sessionPath with
  | some session => session.hash computeHash
  | none => (serializeSessionState computeHash disk).hash

/-- A subscription to the session finds it in the state that was published last. -/
def FindsPublishedState (sessionPath : JsString) (handler : WsHandler Ws) : Op Ws → Prop
  | .subscribe ws command _ resolved disk _ =>
    handler.clients.contains ws = true → command.sessionPath ≠ [] → resolved = some sessionPath →
    ∃ record, handler.sessionRevisions.get? sessionPath = some record ∧
      record.hash = publishedHash computeHash handler sessionPath disk
  | _ => True

/-- The frames that a client receives in a part of a run. -/
def framesOf (ws : Ws) (handler : WsHandler Ws) (ops : List (Op Ws)) : List SessionSyncMessage :=
  received ws (run (Served.perform computeHash) ⟨handler, []⟩ ops).sent

/-- A client is up to date with the revisions of its session. -/
structure FollowsRevisions (ws : Ws) (sessionPath : JsString) (served : Served Ws) : Prop where
  contiguous : Contiguous (received ws served.sent)
  current : ∃ client record, served.handler.clients.get? ws = some client ∧ client.isOpen = true ∧
    client.subscribedSession = some sessionPath ∧
    served.handler.sessionRevisions.get? sessionPath = some record ∧ client.lastHash = record.hash ∧
    ∀ last ∈ (received ws served.sent).getLast?, last.revision = record.revision

/-- A push that reaches every open subscriber of a session which does not hold the state. -/
def PushesTo (sessionPath hash : JsString) (revision : Nat)
    (push : ClientState → ClientState × Option SessionSyncMessage) : Prop :=
  ∀ client, (client.subscribedSession ≠ some sessionPath → push client = (client, none)) ∧
    (client.subscribedSession = some sessionPath → client.isOpen = true →
      (client.lastHash = hash → push client = (client, none)) ∧
      (client.lastHash ≠ hash → ∃ json version op, push client =
        ({ client with lastJson := json, lastHash := hash, lastVersion := version }, some ⟨sessionPath, revision, op⟩)))

end

section

variable {Ws : Type} [DecidableEq Ws] {computeHash : JsString → JsString}

theorem received_append (ws : Ws) (sent more : List (Ws × SessionSyncMessage)) :
    received ws (sent ++ more) = received ws sent ++ received ws more := by
  rw [received, received, received, List.filterMap_append]

omit [DecidableEq Ws] in
theorem revisionForState_of_some {handler : WsHandler Ws} {sessionPath : JsString} {record : SessionRevision}
    (hrecord : handler.sessionRevisions.get? sessionPath = some record) (hash : JsString) :
    (record.hash = hash ∧ handler.revisionForState sessionPath hash = (record.revision, handler)) ∨
    (record.hash ≠ hash ∧ handler.revisionForState sessionPath hash = (record.revision + 1, { handler with
      sessionRevisions := handler.sessionRevisions.set sessionPath { revision := record.revision + 1, hash } })) := by
  rw [WsHandler.revisionForState]
  simp only [hrecord]
  by_cases hsame : record.hash = hash
  · exact .inl ⟨hsame, by rw [if_pos hsame]⟩
  · exact .inr ⟨hsame, by rw [if_neg hsame]⟩

omit [DecidableEq Ws] in
theorem get?_revisionForState (handler : WsHandler Ws) (sessionPath hash : JsString) :
    (handler.revisionForState sessionPath hash).2.sessionRevisions.get? sessionPath =
      some { revision := (handler.revisionForState sessionPath hash).1, hash } := by
  rw [WsHandler.revisionForState]
  cases hrecord : handler.sessionRevisions.get? sessionPath with
  | none => exact OrderedMap.get?_set_self _ _ _
  | some record =>
    simp only
    split
    · rename_i hsame
      rw [hrecord, ← hsame]
    · exact OrderedMap.get?_set_self _ _ _

omit [DecidableEq Ws] in
theorem sessionRevisions_revisionForState_ne {handler : WsHandler Ws} {sessionPath other hash : JsString}
    (hne : sessionPath ≠ other) : (handler.revisionForState other hash).2.sessionRevisions.get? sessionPath =
      handler.sessionRevisions.get? sessionPath := by
  rw [WsHandler.revisionForState]
  cases handler.sessionRevisions.get? other with
  | none => exact OrderedMap.get?_set_ne hne _
  | some record =>
    simp only
    split
    · rfl
    · exact OrderedMap.get?_set_ne hne _

theorem pushesTo_pushSnapshot (sessionPath json hash : JsString) (revision : Nat) :
    PushesTo sessionPath hash revision (WsHandler.pushSnapshot sessionPath json hash revision) := by
  intro client
  rw [WsHandler.pushSnapshot]
  refine ⟨fun hother => if_pos (.inl hother), fun hsubscribed hopen => ?_⟩
  refine ⟨fun hhash => if_pos (.inr (.inr hhash)), fun hhash => ⟨json, 0, _, if_neg ?_⟩⟩
  · rintro (hother | hclosed | hsame)
    · exact hother hsubscribed
    · exact hclosed hopen
    · exact hhash hsame

theorem pushesTo_pushUpdate (sessionPath : JsString) (session : SessionJsonl) (revision : Nat) :
    PushesTo sessionPath (session.hash computeHash) revision
      (WsHandler.pushUpdate computeHash sessionPath session revision) := by
  intro client
  rw [WsHandler.pushUpdate]
  refine ⟨fun hother => if_pos (.inl hother), fun hsubscribed hopen => ?_⟩
  rw [if_neg (by rw [hsubscribed, hopen]; simp), SessionJsonl.computeSyncOp]
  exact ⟨fun hhash => by rw [if_pos hhash], fun hhash => ⟨session.json, session.version, _, by rw [if_neg hhash]⟩⟩

/-- Publishing a state to all its subscribers moves the shared revision and every subscriber together. -/
theorem FollowsRevisions.publish {ws : Ws} {sessionPath : JsString} {served : Served Ws}
    (hfollows : FollowsRevisions ws sessionPath served) (other hash : JsString)
    {push : ClientState → ClientState × Option SessionSyncMessage}
    (hpush : PushesTo other hash (served.handler.revisionForState other hash).1 push) :
    FollowsRevisions ws sessionPath
      { handler := ((served.handler.revisionForState other hash).2.pushToClients push).handler
        sent := served.sent ++ ((served.handler.revisionForState other hash).2.pushToClients push).sent } := by
  obtain ⟨client, record, hclient, hopen, hsubscribed, hrecord, hhash, hlast⟩ := hfollows.current
  have hclients := clients_revisionForState served.handler other hash
  have hclient' : (served.handler.revisionForState other hash).2.clients.get? ws = some client := by
    rw [hclients, hclient]
  have hafter : ((served.handler.revisionForState other hash).2.pushToClients push).handler.clients.get? ws =
      some (push client).1 := by
    rw [WsHandler.pushToClients, OrderedMap.get?_mapValues, hclient']
    rfl
  have hreceived : received ws (served.sent ++ ((served.handler.revisionForState other hash).2.pushToClients push).sent) =
      received ws served.sent ++ (push client).2.toList := by
    rw [received_append, received_pushToClients hclient']
  by_cases hpath : other = sessionPath
  · subst hpath
    obtain ⟨hholds, hlacks⟩ := (hpush client).2 hsubscribed hopen
    obtain ⟨hsame, hrevised⟩ | ⟨hdiffers, hrevised⟩ := revisionForState_of_some hrecord hash
    · have hnothing := hholds (hhash.trans hsame)
      rw [hnothing] at hafter hreceived
      refine ⟨by rw [hreceived, Option.toList_none, List.append_nil]; exact hfollows.contiguous, ?_⟩
      refine ⟨client, record, hafter, hopen, hsubscribed, ?_, hhash, ?_⟩
      · rw [hrevised]
        exact hrecord
      · rw [hreceived, Option.toList_none, List.append_nil]
        exact hlast
    · obtain ⟨json, version, op, hsends⟩ := hlacks (by rw [hhash]; exact hdiffers)
      rw [hrevised] at hsends
      rw [hsends] at hafter hreceived
      refine ⟨?_, ?_⟩
      · rw [hreceived, Option.toList_some]
        refine List.IsChain.append hfollows.contiguous (List.isChain_singleton _) ?_
        intro previous hprevious next hnext _
        rw [List.head?_cons, Option.mem_some_iff] at hnext
        rw [← hnext, hlast previous hprevious]
      · refine ⟨_, ⟨record.revision + 1, hash⟩, hafter, hopen, hsubscribed, ?_, rfl, ?_⟩
        · rw [hrevised]
          exact OrderedMap.get?_set_self _ _ _
        · rw [hreceived, Option.toList_some, List.getLast?_concat]
          intro newest hnewest
          rw [← Option.mem_some_iff.mp hnewest]
  · have hnothing := (hpush client).1 (by rw [hsubscribed]; exact fun h => hpath (Option.some.inj h).symm)
    rw [hnothing] at hafter hreceived
    refine ⟨by rw [hreceived, Option.toList_none, List.append_nil]; exact hfollows.contiguous, ?_⟩
    refine ⟨client, record, hafter, hopen, hsubscribed, ?_, hhash, ?_⟩
    · rw [WsHandler.pushToClients, sessionRevisions_revisionForState_ne (Ne.symm hpath), hrecord]
    · rw [hreceived, Option.toList_none, List.append_nil]
      exact hlast

theorem FollowsRevisions.frame {ws : Ws} {sessionPath : JsString} {served : Served Ws}
    (hfollows : FollowsRevisions ws sessionPath served) {handler : WsHandler Ws} {sent : List (Ws × SessionSyncMessage)}
    (hclients : handler.clients.get? ws = served.handler.clients.get? ws)
    (hrevisions : handler.sessionRevisions.get? sessionPath = served.handler.sessionRevisions.get? sessionPath)
    (hsent : received ws sent = []) : FollowsRevisions ws sessionPath { handler, sent := served.sent ++ sent } := by
  have hreceived : received ws (served.sent ++ sent) = received ws served.sent := by
    rw [received_append, hsent, List.append_nil]
  obtain ⟨client, record, hclient, hopen, hsubscribed, hrecord, hhash, hlast⟩ := hfollows.current
  refine ⟨by rw [hreceived]; exact hfollows.contiguous, client, record, hclients.trans hclient, hopen, hsubscribed,
    hrevisions.trans hrecord, hhash, ?_⟩
  rw [hreceived]
  exact hlast

theorem FollowsRevisions.publishSnapshot {ws : Ws} {sessionPath : JsString} {served : Served Ws}
    (hfollows : FollowsRevisions ws sessionPath served) {handler : WsHandler Ws}
    (hclients : handler.clients = served.handler.clients)
    (hrevisions : handler.sessionRevisions = served.handler.sessionRevisions) (path json hash : JsString) :
    FollowsRevisions ws sessionPath
      { handler := (handler.pushSnapshotToSubscribers path json hash).handler
        sent := served.sent ++ (handler.pushSnapshotToSubscribers path json hash).sent } := by
  have hmoved : FollowsRevisions ws sessionPath { handler, sent := served.sent } := by
    refine ⟨hfollows.contiguous, ?_⟩
    rw [hclients, hrevisions]
    exact hfollows.current
  exact hmoved.publish path hash (pushesTo_pushSnapshot path json hash _)

omit [DecidableEq Ws] in
theorem revisionForState_of_published {handler : WsHandler Ws} {sessionPath hash : JsString}
    (hpublished : ∃ record, handler.sessionRevisions.get? sessionPath = some record ∧ record.hash = hash) :
    (handler.revisionForState sessionPath hash).2 = handler := by
  obtain ⟨record, hrecord, hhash⟩ := hpublished
  obtain ⟨-, hrevised⟩ | ⟨hdiffers, -⟩ := revisionForState_of_some hrecord hash
  · rw [hrevised]
  · exact absurd hhash hdiffers

/-- The answer to another client's subscription. -/
theorem FollowsRevisions.publishInitial {ws other : Ws} {sessionPath : JsString} {served : Served Ws}
    (hfollows : FollowsRevisions ws sessionPath served) (hother : other ≠ ws) {handler : WsHandler Ws}
    (hclients : handler.clients = served.handler.clients)
    (hrevisions : handler.sessionRevisions = served.handler.sessionRevisions) {client : ClientState}
    {path json hash : JsString} {version : Nat} {command : SubscribeSession}
    (hpublished : path = sessionPath → ∃ record, served.handler.sessionRevisions.get? sessionPath = some record ∧
      record.hash = hash) :
    FollowsRevisions ws sessionPath
      { handler := (handler.publishInitial computeHash other client path json hash version command).handler
        sent := served.sent ++
          (handler.publishInitial computeHash other client path json hash version command).sent } := by
  unfold WsHandler.publishInitial
  extract_lets
  rename_i subscribed
  have hclient := clients_revisionForState { handler with clients := handler.clients.set other subscribed } path hash
  have hrecord : ({ handler with clients := handler.clients.set other subscribed }.revisionForState path
      hash).2.sessionRevisions.get? sessionPath = served.handler.sessionRevisions.get? sessionPath := by
    by_cases hpath : path = sessionPath
    · subst hpath
      rw [revisionForState_of_published]
      · exact congrArg (·.get? path) hrevisions
      · simp only [hrevisions]
        exact hpublished rfl
    · rw [sessionRevisions_revisionForState_ne (Ne.symm hpath)]
      exact congrArg (·.get? sessionPath) hrevisions
  generalize { handler with clients := handler.clients.set other subscribed }.revisionForState path hash = revised
    at hclient hrecord ⊢
  obtain ⟨revision, next⟩ := revised
  simp only at hclient hrecord ⊢
  have hget : next.clients.get? ws = served.handler.clients.get? ws := by
    rw [hclient, OrderedMap.get?_set_ne (Ne.symm hother), hclients]
  cases makeInitialSessionSync computeHash path json hash revision command with
  | error error => exact hfollows.frame hget hrecord rfl
  | ok messages =>
    refine hfollows.frame hget hrecord (received_nil_of_ne fun e he => ?_)
    rw [mem_sendMessages he]
    exact hother

/-- One operation of other clients, of the file watcher, or of the session's actor. -/
theorem FollowsRevisions.perform {ws : Ws} {sessionPath : JsString} {served : Served Ws} {op : Op Ws}
    (hfollows : FollowsRevisions ws sessionPath served) (hstays : ¬ Leaves ws op)
    (hpublished : FindsPublishedState computeHash sessionPath served.handler op) :
    FollowsRevisions ws sessionPath (served.perform computeHash op) := by
  have hnothing : FollowsRevisions ws sessionPath { served with sent := served.sent ++ [] } := by
    rw [List.append_nil]
    exact hfollows
  rw [Served.perform]
  cases op with
  | acceptConnection other => exact hfollows.frame (OrderedMap.get?_set_ne (Ne.symm hstays) _) rfl rfl
  | closeConnection other =>
    simp only [WsHandler.perform, WsHandler.closeConnection]
    cases served.handler.clients.get? other with
    | none => exact hnothing
    | some client => exact hfollows.frame (OrderedMap.get?_set_ne (Ne.symm hstays) _) rfl rfl
  | removeConnection other => exact hfollows.frame (OrderedMap.get?_erase_ne (Ne.symm hstays)) rfl rfl
  | subscribe other command cache resolved disk size =>
    simp only [WsHandler.perform, WsHandler.handleSubscribeSession]
    cases hclient : served.handler.clients.get? other with
    | none => exact hnothing
    | some client =>
      simp only
      split
      · exact hfollows.frame (OrderedMap.get?_set_ne (Ne.symm hstays) _) rfl rfl
      · rename_i hpath
        have hcontains : served.handler.clients.contains other = true := by rw [OrderedMap.contains, hclient]; rfl
        cases resolved with
        | none => exact hnothing
        | some path =>
          have hfinds : path = sessionPath → ∃ record, served.handler.sessionRevisions.get? sessionPath = some record ∧
              record.hash = publishedHash computeHash served.handler sessionPath disk :=
            fun hsame => hpublished hcontains hpath (by rw [hsame])
          rw [publishedHash] at hfinds
          cases hattached : served.handler.attached.get? path with
          | some session =>
            simp only [hattached]
            apply hfollows.publishInitial hstays
            · rfl
            · rfl
            · intro hsame
              subst hsame
              simpa only [hattached] using hfinds rfl
          | none =>
            simp only [hattached]
            apply hfollows.publishInitial hstays
            · rfl
            · rfl
            · intro hsame
              subst hsame
              simpa only [hattached] using hfinds rfl
  | notifySessionFileChanged path =>
    simp only [WsHandler.perform, WsHandler.notifySessionFileChanged]
    split
    · exact hnothing
    · exact hfollows.frame rfl rfl rfl
  | flushTimer path newSize disk =>
    simp only [WsHandler.perform, WsHandler.onFlushTimer, WsHandler.flushDetachedSessionSync]
    split
    · exact hnothing
    · split
      · exact hfollows.frame rfl rfl rfl
      · split
        · exact hfollows.frame rfl rfl rfl
        · apply hfollows.publishSnapshot
          · rfl
          · rfl
  | attach path session =>
    simp only [WsHandler.perform]
    split
    · exact hnothing
    · exact hfollows.frame rfl rfl rfl
  | applyEvent path session =>
    simp only [WsHandler.perform]
    split
    · exact hfollows.frame rfl rfl rfl
    · exact hnothing
  | push path =>
    simp only [WsHandler.perform]
    cases served.handler.attached.get? path with
    | none => exact hnothing
    | some session =>
      exact hfollows.publish path _ (pushesTo_pushUpdate path session _)
  | release path preserveLiveControls disk size =>
    simp only [WsHandler.perform, WsHandler.releaseActor]
    apply hfollows.publishSnapshot
    · rfl
    · rfl

/-- The messages that answer a subscription carry its revision, and none is a delta. -/
theorem makeInitialSessionSync_frames {sessionPath json hash : JsString} {revision : Nat}
    {command : SubscribeSession} {messages : List SessionSyncMessage}
    (h : makeInitialSessionSync computeHash sessionPath json hash revision command = .ok messages) :
    ∀ message ∈ messages, message.revision = revision ∧ ¬ IsDelta message.op := by
  have hsingle : ∀ op, ¬ IsDelta op → Except.ok [SessionSyncMessage.mk sessionPath revision op] =
      (Except.ok messages : Except String _) →
      ∀ message ∈ messages, message.revision = revision ∧ ¬ IsDelta message.op := by
    intro op hop hok message hmessage
    cases hok
    rw [List.mem_singleton.mp hmessage]
    exact ⟨rfl, hop⟩
  rw [makeInitialSessionSync] at h
  split at h
  · exact hsingle _ id h
  · split at h
    · exact hsingle _ id h
    · split at h
      · cases h
      · simp only at h
        split at h
        · split at h
          · cases h
          · split at h
            · cases h
            · rename_i hbatches
              cases h
              intro message hmessage
              obtain ⟨batches, -, rfl⟩ := makeContentBatches_ok hbatches
              obtain rfl | hbatch := List.mem_cons.mp hmessage
              · exact ⟨rfl, id⟩
              · obtain ⟨index, hindex, rfl⟩ := List.mem_mapIdx.mp hbatch
                exact ⟨rfl, id⟩
        · exact hsingle _ id h

theorem contiguous_of_not_delta {frames : List SessionSyncMessage} (h : ∀ frame ∈ frames, ¬ IsDelta frame.op) :
    Contiguous frames := by
  apply List.Pairwise.isChain
  rw [List.pairwise_iff_forall_sublist]
  intro previous next hsublist hdelta
  have hnext : next ∈ frames := hsublist.subset (by simp)
  exact absurd hdelta (h next hnext)

/-- The client's own subscription. -/
theorem followsRevisions_publishInitial {ws : Ws} {handler : WsHandler Ws} {client : ClientState}
    (hopen : client.isOpen = true) (path json hash : JsString) (version : Nat) (command : SubscribeSession) :
    FollowsRevisions ws path
      { handler := (handler.publishInitial computeHash ws client path json hash version command).handler
        sent := (handler.publishInitial computeHash ws client path json hash version command).sent } := by
  unfold WsHandler.publishInitial
  extract_lets subscribed
  have hclients := clients_revisionForState { handler with clients := handler.clients.set ws subscribed } path hash
  have hrecord := get?_revisionForState { handler with clients := handler.clients.set ws subscribed } path hash
  generalize { handler with clients := handler.clients.set ws subscribed }.revisionForState path hash = revised
    at hclients hrecord ⊢
  obtain ⟨revision, next⟩ := revised
  simp only at hclients hrecord ⊢
  have hclient : next.clients.get? ws = some subscribed := by
    rw [hclients, OrderedMap.get?_set_self]
  cases hmake : makeInitialSessionSync computeHash path json hash revision command with
  | error error => exact ⟨List.isChain_nil, subscribed, _, hclient, hopen, rfl, hrecord, rfl, by simp [received]⟩
  | ok messages =>
    have hframes := makeInitialSessionSync_frames hmake
    have hreceived : received ws (WsHandler.sendMessages ws subscribed messages) = messages :=
      received_sendMessages ws hopen messages
    refine ⟨?_, subscribed, _, hclient, hopen, rfl, hrecord, rfl, ?_⟩
    · rw [hreceived]
      exact contiguous_of_not_delta fun frame hframe => (hframes frame hframe).2
    · rw [hreceived]
      exact fun last hlast => (hframes last (List.mem_of_getLast? hlast)).1

/-- Where every other subscription to the session finds it in the state that was published last, each delta
    that a client receives carries the next revision. -/
theorem revisions_contiguous (handler : WsHandler Ws) (ws : Ws) (client : ClientState)
    (hclient : handler.clients.get? ws = some client) (hopen : client.isOpen = true) (command : SubscribeSession)
    (hpath : command.sessionPath ≠ []) (cache : ClientCache) (sessionPath : JsString) (disk : SessionState) (size : Nat)
    (after : List (Op Ws)) (hstays : ∀ op ∈ after, ¬ Leaves ws op)
    (hpublished : EveryStep (Served.perform computeHash)
      (Served.perform computeHash ⟨handler, []⟩ (.subscribe ws command cache (some sessionPath) disk size))
      (fun served op => FindsPublishedState computeHash sessionPath served.handler op) after) :
    Contiguous (framesOf computeHash ws handler (.subscribe ws command cache (some sessionPath) disk size :: after)) := by
  have hstart : FollowsRevisions ws sessionPath
      (Served.perform computeHash ⟨handler, []⟩ (.subscribe ws command cache (some sessionPath) disk size)) := by
    simp only [Served.perform, List.nil_append, WsHandler.perform, WsHandler.handleSubscribeSession, hclient, if_neg hpath]
    cases handler.attached.get? sessionPath with
    | some session => exact followsRevisions_publishInitial hopen _ _ _ _ _
    | none => exact followsRevisions_publishInitial hopen _ _ _ _ _
  have hboth : EveryStep (Served.perform computeHash)
      (Served.perform computeHash ⟨handler, []⟩ (.subscribe ws command cache (some sessionPath) disk size))
      (fun served op => ¬ Leaves ws op ∧ FindsPublishedState computeHash sessionPath served.handler op) after := by
    intro before op hbefore
    exact ⟨hstays op (hbefore.subset (by simp)), hpublished before op hbefore⟩
  have halways := always_of_everyStep hstart (fun served op hfollows hop => hfollows.perform hop.1 hop.2) hboth
  exact halways.last.contiguous

end

/-- A server that two clients have reached. -/
def twoConnections : WsHandler Bool :=
  (run (Served.perform (List.cons 0x68)) ⟨.start, []⟩ [.acceptConnection false, .acceptConnection true]).handler

def subscribesTo (ws : Bool) (disk : SessionState) (size : Nat) : Op Bool :=
  .subscribe ws ⟨js "a.jsonl", none, none, false⟩ default (some (js "a.jsonl")) disk size

/-- The file grows and the timer that its watcher set runs. -/
def grows (disk : SessionState) (size : Nat) : List (Op Bool) :=
  [.notifySessionFileChanged (js "a.jsonl"), .flushTimer (js "a.jsonl") size disk]

/-- The second client subscribes between two flushes, to the state of the first. -/
def sharedFile : List (Op Bool) :=
  grows { blankSession with thinkingLevel := js "low" } 20 ++
    subscribesTo true { blankSession with thinkingLevel := js "low" } 20 ::
    grows { blankSession with thinkingLevel := js "high" } 30

theorem revisions_contiguous_sharedFile :
    (framesOf (List.cons 0x68) false twoConnections (subscribesTo false blankSession 10 :: sharedFile)).map
      (·.revision) = [1, 2, 3] ∧
    Contiguous (framesOf (List.cons 0x68) false twoConnections (subscribesTo false blankSession 10 :: sharedFile)) := by
  refine ⟨by decide +kernel, ?_⟩
  apply revisions_contiguous twoConnections false ⟨true, none, 0, [], []⟩ rfl rfl
  · decide
  · simp [sharedFile, grows, subscribesTo, Leaves]
  · simp only [sharedFile, grows, subscribesTo, List.cons_append, List.nil_append, everyStep_cons]
    refine ⟨trivial, trivial, fun _ _ _ => ⟨_, rfl, rfl⟩, trivial, trivial, everyStep_nil⟩

/-- The second client subscribes to a state that the first one has not been sent. -/
def grownBetweenFlushes : List (Op Bool) :=
  subscribesTo true { blankSession with thinkingLevel := js "low" } 20 ::
    grows { blankSession with thinkingLevel := js "high" } 30

theorem revisions_gap_grownBetweenFlushes :
    (∀ op ∈ grownBetweenFlushes, ¬ Leaves false op) ∧
    (framesOf (List.cons 0x68) false twoConnections (subscribesTo false blankSession 10 :: grownBetweenFlushes)).map
      (fun frame => (frame.revision, decide (IsDelta frame.op))) = [(1, false), (3, true)] ∧
    ¬ Contiguous
      (framesOf (List.cons 0x68) false twoConnections (subscribesTo false blankSession 10 :: grownBetweenFlushes)) := by
  refine ⟨by simp [grownBetweenFlushes, grows, subscribesTo, Leaves], by decide +kernel, ?_⟩
  unfold Contiguous
  decide +kernel

end pipane.ws_handler

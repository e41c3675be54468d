import Pipane.Client.SessionStateCache

open javascript json transition pipane.ws_protocol pipane.session_state_cache

namespace pipane.ws_agent_adapter.session_cache

/-- What a delayed save captured. -/
structure ScheduledSave where
  backendId : JsString
  sessionPath : JsString
  json : JsString
  hash : JsString
  messageHashes : Option (List JsString)
deriving DecidableEq

/-- The part of `WsAgentAdapter` that uses the session cache. `cacheSaveTimers` holds the timers that have not fired
    yet, by what their callbacks captured. -/
structure CachingAdapter where
  cacheBackendId : Option JsString
  cacheSaveTimers : OrderedMap JsString ScheduledSave
  sessionCache : IndexedDbSessionStateCache

/-- What happens to the adapter and its cache. Switching to a session, restoring it and prefetching it read the
    cache. -/
inductive Event
  | identified (backendId : JsString)
  /-- A batch of `session_sync` messages is committed with its final text. -/
  | synced (sessionPath json hash : JsString) (messageHashes : Option (List JsString))
  | timerFired (key : JsString) (now : Nat)
  | previewRead (sessionPath : JsString) (now : Nat)
  | stateRead (sessionPath : JsString) (now : Nat)
  /-- `deleteSession` completes: the session is deleted, or was missing. -/
  | deleted (sessionPath : JsString) (now : Nat)
  /-- The next transaction of the cache operation at an index. -/
  | committed (index now : Nat)

/-- Whether an event commits a `session_sync` of a session. -/
def Event.Commits (sessionPath : JsString) : Event → Prop
  | .synced path _ _ _ => path = sessionPath
  | _ => False

variable (computeHash : JsString → JsString) (maxBytes maxSessions : Nat)

namespace CachingAdapter

def fresh (cacheBackendId : Option JsString) : CachingAdapter where
  cacheBackendId := cacheBackendId
  cacheSaveTimers := ∅
  sessionCache := .fresh

/-- A call of the cache with the backend's id, or none without that id. -/
def request (self : CachingAdapter) (call : JsString → Request) (now : Nat) : CachingAdapter :=
  match presentText self.cacheBackendId with
  | none => self
  | some backendId =>
    { self with sessionCache :=
        self.sessionCache.react computeHash maxBytes maxSessions (.requested (call backendId) now) }

/-- A timer that is pending for the key is replaced. -/
def scheduleSessionCacheSave (self : CachingAdapter) (sessionPath json hash : JsString)
    (messageHashes : Option (List JsString)) : CachingAdapter :=
  match presentText self.cacheBackendId with
  | none => self
  | some backendId =>
    let save : ScheduledSave := { backendId, sessionPath, json, hash, messageHashes }
    { self with cacheSaveTimers := self.cacheSaveTimers.set (cacheKey backendId sessionPath) save }

def react (self : CachingAdapter) : Event → CachingAdapter
  | .identified backendId => { self with cacheBackendId := some backendId }
  | .synced sessionPath json hash messageHashes =>
    match decodeSessionStateJson json with
    | .error _ => self
    | .ok _ => self.scheduleSessionCacheSave sessionPath json hash messageHashes
  | .timerFired key now =>
    match self.cacheSaveTimers.get? key with
    | none => self
    | some save =>
      { self with
        cacheSaveTimers := self.cacheSaveTimers.erase key
        sessionCache := self.sessionCache.react computeHash maxBytes maxSessions (.requested
          (.save save.backendId save.sessionPath save.json save.hash save.messageHashes) now) }
  | .previewRead sessionPath now => self.request computeHash maxBytes maxSessions (.loadPreview · sessionPath) now
  | .stateRead sessionPath now => self.request computeHash maxBytes maxSessions (.load · sessionPath) now
  | .deleted sessionPath now => self.request computeHash maxBytes maxSessions (.remove · sessionPath) now
  | .committed index now =>
    { self with sessionCache := self.sessionCache.react computeHash maxBytes maxSessions (.committed index now) }

/-- The session whose snapshot an event writes to the cache. -/
def written (self : CachingAdapter) : Event → Option JsString
  | .committed index _ =>
    match self.sessionCache.tasks[index]? with
    | some (.save manifest _) => some manifest.sessionPath
    | _ => none
  | _ => none

/-- No save of a session waits for its timer or for its transaction. -/
structure NoSavePending (adapter : CachingAdapter) (sessionPath : JsString) : Prop where
  timers : ∀ key save, adapter.cacheSaveTimers.get? key = some save → save.sessionPath ≠ sessionPath
  saves : ∀ manifest snapshot, .save manifest snapshot ∈ adapter.sessionCache.tasks →
    manifest.sessionPath ≠ sessionPath

/-- Whatever happens from here on, nothing of a session is written before a `session_sync` of it is committed. -/
def LeavesNoCache (self : CachingAdapter) (sessionPath : JsString) : Prop :=
  ∀ later : List Event, (∀ event ∈ later, ¬ event.Commits sessionPath) →
    EveryStep (react computeHash maxBytes maxSessions) self
      (fun adapter event => adapter.written event ≠ some sessionPath) later

end CachingAdapter

/-! Only `save` writes a snapshot. -/

section

variable {computeHash : JsString → JsString} {maxBytes maxSessions now : Nat}

theorem save_not_mem_commit (db : Database) (task : Task) (manifest : CacheManifest) (snapshot : CacheSnapshot) :
    .save manifest snapshot ∉ (task.commit computeHash maxBytes maxSessions db now).tasks := by
  intro hmem
  cases task with
  | load key =>
    rw [Task.commit, finishLoad.eq_def] at hmem
    split at hmem
    · cases hmem
    · split at hmem
      · cases List.mem_singleton.mp hmem
      split at hmem
      · cases List.mem_singleton.mp hmem
      · rcases List.mem_append.mp hmem with hbackfill | htouch
        · split at hbackfill
          · cases List.mem_singleton.mp hbackfill
          · cases hbackfill
        · cases List.mem_singleton.mp htouch
    · cases List.mem_singleton.mp hmem
  | loadPreview key =>
    rw [Task.commit, finishLoadPreview.eq_def] at hmem
    dsimp only at hmem
    split at hmem
    · cases hmem
    split at hmem
    · split at hmem
      · cases hmem
      split at hmem
      · cases hmem
      · cases List.mem_singleton.mp hmem
    · cases hmem
  | prune =>
    rw [Task.commit] at hmem
    dsimp only at hmem
    split at hmem
    · cases hmem
    · cases List.mem_singleton.mp hmem
  | save | backfillPreview => cases List.mem_singleton.mp hmem
  | remove | touch | evict => cases hmem

theorem begin_save {backendId sessionPath json hash : JsString} {messageHashes : Option (List JsString)}
    {state : List (JsString × Value)} (h : decodeSessionStateJson json = .ok state) :
    ∃ manifest snapshot, (Request.save backendId sessionPath json hash messageHashes).begin computeHash now =
      [.save manifest snapshot] ∧ manifest.sessionPath = sessionPath := by
  rw [Request.begin, beginSave, h]
  exact ⟨_, _, rfl, rfl⟩

theorem sessionPath_of_mem_begin_save {backendId sessionPath json hash : JsString}
    {messageHashes : Option (List JsString)} {manifest : CacheManifest} {snapshot : CacheSnapshot}
    (h : .save manifest snapshot ∈ (Request.save backendId sessionPath json hash messageHashes).begin computeHash now) :
    manifest.sessionPath = sessionPath := by
  rw [Request.begin, beginSave] at h
  split at h
  · cases h
  · cases List.mem_singleton.mp h
    rfl

end

namespace CachingAdapter

variable {computeHash : JsString → JsString} {maxBytes maxSessions : Nat} {adapter : CachingAdapter}
  {sessionPath : JsString}

theorem NoSavePending.written (h : adapter.NoSavePending sessionPath) (event : Event) :
    adapter.written event ≠ some sessionPath := by
  cases event with
  | committed index now =>
    rw [CachingAdapter.written]
    split
    · rename_i manifest snapshot htask
      exact fun hsame => h.saves manifest snapshot (List.mem_of_getElem? htask) (Option.some.inj hsame)
    · exact nofun
  | _ => exact nofun

theorem NoSavePending.request (h : adapter.NoSavePending sessionPath) {call : JsString → Request} {now : Nat}
    (hcall : ∀ backendId manifest snapshot, .save manifest snapshot ∉ (call backendId).begin computeHash now) :
    (adapter.request computeHash maxBytes maxSessions call now).NoSavePending sessionPath := by
  rw [CachingAdapter.request]
  split
  · exact h
  · rename_i backendId _
    refine ⟨h.timers, fun manifest snapshot hmem => ?_⟩
    rcases List.mem_append.mp hmem with hold | hnew
    · exact h.saves manifest snapshot hold
    · exact absurd hnew (hcall backendId manifest snapshot)

/-- Only a commit of the session's own `session_sync` brings a save of it about. -/
theorem NoSavePending.react (h : adapter.NoSavePending sessionPath) {event : Event}
    (hevent : ¬ event.Commits sessionPath) :
    (adapter.react computeHash maxBytes maxSessions event).NoSavePending sessionPath := by
  cases event with
  | identified backendId => exact ⟨h.timers, h.saves⟩
  | synced path json hash messageHashes =>
    rw [CachingAdapter.react]
    split
    · exact h
    · rw [scheduleSessionCacheSave]
      split
      · exact h
      · refine ⟨fun key save hfound => ?_, h.saves⟩
        change (adapter.cacheSaveTimers.set _ _).get? key = some save at hfound
        rw [OrderedMap.get?_set] at hfound
        split at hfound
        · cases hfound
          exact hevent
        · exact h.timers key save hfound
  | timerFired key now =>
    rw [CachingAdapter.react]
    split
    · exact h
    · rename_i save hsave
      refine ⟨fun other found hfound => h.timers other found (OrderedMap.get?_of_erase hfound).2, ?_⟩
      intro manifest snapshot hmem
      rcases List.mem_append.mp hmem with hold | hnew
      · exact h.saves manifest snapshot hold
      · rw [sessionPath_of_mem_begin_save hnew]
        exact h.timers key save hsave
  | previewRead path now =>
    refine h.request fun backendId manifest snapshot hmem => ?_
    cases List.mem_singleton.mp hmem
  | stateRead path now =>
    refine h.request fun backendId manifest snapshot hmem => ?_
    cases List.mem_singleton.mp hmem
  | deleted path now =>
    refine h.request fun backendId manifest snapshot hmem => ?_
    cases List.mem_singleton.mp hmem
  | committed index now =>
    refine ⟨h.timers, fun manifest snapshot hmem => ?_⟩
    rw [CachingAdapter.react, IndexedDbSessionStateCache.react] at hmem
    split at hmem
    · exact h.saves manifest snapshot hmem
    · rcases List.mem_append.mp hmem with hold | hnew
      · exact h.saves manifest snapshot (List.mem_of_mem_eraseIdx hold)
      · exact absurd hnew (save_not_mem_commit _ _ _ _)

theorem NoSavePending.leavesNoCache (h : adapter.NoSavePending sessionPath) :
    adapter.LeavesNoCache computeHash maxBytes maxSessions sessionPath := by
  intro later hlater
  induction later generalizing adapter with
  | nil => exact everyStep_nil
  | cons event later ih =>
    rw [everyStep_cons]
    exact ⟨h.written event, ih (h.react (hlater event List.mem_cons_self))
      fun other hother => hlater other (List.mem_cons_of_mem _ hother)⟩

theorem not_leavesNoCache_of_save {manifest : CacheManifest} {snapshot : CacheSnapshot}
    (hsave : .save manifest snapshot ∈ adapter.sessionCache.tasks) (hpath : manifest.sessionPath = sessionPath) :
    ¬ adapter.LeavesNoCache computeHash maxBytes maxSessions sessionPath := by
  intro hleaves
  obtain ⟨index, hindex⟩ := List.mem_iff_getElem?.mp hsave
  have hlater : ∀ event ∈ [Event.committed index 0], ¬ event.Commits sessionPath := by
    intro event hevent
    rw [List.mem_singleton.mp hevent]
    exact id
  have hnext := (everyStep_cons.mp (hleaves _ hlater)).1
  rw [CachingAdapter.written, hindex] at hnext
  exact hnext (congrArg some hpath)

/-- The texts that wait for their timers are session states. -/
def TimersDecode (self : CachingAdapter) : Prop :=
  ∀ key save, self.cacheSaveTimers.get? key = some save → ∃ state, decodeSessionStateJson save.json = .ok state

theorem TimersDecode.react (h : adapter.TimersDecode) (event : Event) :
    (adapter.react computeHash maxBytes maxSessions event).TimersDecode := by
  have hrequest : ∀ (call : JsString → Request) (now : Nat),
      (adapter.request computeHash maxBytes maxSessions call now).TimersDecode := by
    intro call now
    rw [CachingAdapter.request]
    split
    · exact h
    · exact h
  cases event with
  | identified backendId => exact h
  | synced path json hash messageHashes =>
    rw [CachingAdapter.react]
    split
    · exact h
    · rename_i state hdecode
      rw [scheduleSessionCacheSave]
      split
      · exact h
      · intro key save hfound
        change (adapter.cacheSaveTimers.set _ _).get? key = some save at hfound
        rw [OrderedMap.get?_set] at hfound
        split at hfound
        · cases hfound
          exact ⟨state, hdecode⟩
        · exact h key save hfound
  | timerFired key now =>
    rw [CachingAdapter.react]
    split
    · exact h
    · exact fun other found hfound => h other found (OrderedMap.get?_of_erase hfound).2
  | previewRead path now => exact hrequest _ _
  | stateRead path now => exact hrequest _ _
  | deleted path now => exact hrequest _ _
  | committed index now => exact h

theorem timersDecode_run (cacheBackendId : Option JsString) (events : List Event) :
    (run (react computeHash maxBytes maxSessions) (fresh cacheBackendId) events).TimersDecode := by
  induction events using List.reverseRecOn with
  | nil => exact fun key save hfound => by cases hfound
  | append_singleton events event ih =>
    rw [run_snoc]
    exact ih.react event

theorem not_leavesNoCache_of_timer (hdecode : adapter.TimersDecode) {key : JsString} {save : ScheduledSave}
    (htimer : adapter.cacheSaveTimers.get? key = some save) (hpath : save.sessionPath = sessionPath) :
    ¬ adapter.LeavesNoCache computeHash maxBytes maxSessions sessionPath := by
  intro hleaves
  obtain ⟨state, hstate⟩ := hdecode key save htimer
  obtain ⟨manifest, snapshot, hbegin, hmanifest⟩ := @begin_save computeHash 0 save.backendId save.sessionPath save.json
    save.hash save.messageHashes state hstate
  refine @not_leavesNoCache_of_save computeHash maxBytes maxSessions
    (adapter.react computeHash maxBytes maxSessions (.timerFired key 0)) sessionPath manifest snapshot ?_
    (hmanifest.trans hpath) ?_
  · rw [CachingAdapter.react, htimer]
    refine List.mem_append_right _ ?_
    rw [hbegin]
    exact List.mem_singleton.mpr rfl
  · intro later hlater
    have hall : ∀ event ∈ Event.timerFired key 0 :: later, ¬ event.Commits sessionPath :=
      List.forall_mem_cons.mpr ⟨id, hlater⟩
    exact (everyStep_cons.mp (hleaves _ hall)).2

theorem noSavePending_deleted (now : Nat) :
    (adapter.react computeHash maxBytes maxSessions (.deleted sessionPath now)).NoSavePending sessionPath ↔
      adapter.NoSavePending sessionPath := by
  constructor
  · intro h
    rw [CachingAdapter.react, CachingAdapter.request] at h
    split at h
    · exact h
    · exact ⟨h.timers, fun manifest snapshot hmem => h.saves manifest snapshot (List.mem_append_left _ hmem)⟩
  · exact fun h => h.react id

end CachingAdapter

open CachingAdapter

/-- After `deleteSession` has completed, nothing of the session is written to the cache before a `session_sync` of it
    is committed again, whatever happens: if and only if no save of it waited for its timer or was in progress then. -/
theorem deleted_session_cache_iff (computeHash : JsString → JsString) (maxBytes maxSessions : Nat)
    (cacheBackendId : Option JsString) (events : List Event) (sessionPath : JsString) (now : Nat) :
    (run (react computeHash maxBytes maxSessions) (fresh cacheBackendId)
        (events ++ [.deleted sessionPath now])).LeavesNoCache computeHash maxBytes maxSessions sessionPath ↔
      (run (react computeHash maxBytes maxSessions) (fresh cacheBackendId) events).NoSavePending sessionPath := by
  have hdecode := @timersDecode_run computeHash maxBytes maxSessions cacheBackendId (events ++ [.deleted sessionPath now])
  rw [run_snoc] at hdecode ⊢
  rw [← noSavePending_deleted now]
  constructor
  · intro hleaves
    refine ⟨fun key save htimer hpath => ?_, fun manifest snapshot hsave hpath => ?_⟩
    · exact not_leavesNoCache_of_timer hdecode htimer hpath hleaves
    · exact not_leavesNoCache_of_save hsave hpath hleaves
  · exact NoSavePending.leavesNoCache

/-- The state of a session without messages. -/
def emptyState : JsString :=
  js "\x7b\"messages\":[],\"isStreaming\":false,\"pendingToolCalls\":[],\"toolCallTimings\":\x7b\x7d,\"model\":null,\"thinkingLevel\":\"off\",\"steeringQueue\":[]\x7d"

theorem decode_emptyState : ∃ state, decodeSessionStateJson emptyState = .ok state := by
  have hok : (decodeSessionStateJson emptyState).isOk = true := by decide +kernel
  cases h : decodeSessionStateJson emptyState with
  | ok state => exact ⟨state, rfl⟩
  | error e =>
    rw [h] at hok
    cases hok

/-- A session is deleted within the delay of the save that its last `session_sync` scheduled. -/
theorem deleted_session_cached :
    ¬ (run (react id 100 1) (fresh (some (js "backend")))
        [.synced (js "/s.jsonl") emptyState (js "h") none, .deleted (js "/s.jsonl") 0]).LeavesNoCache id 100 1
          (js "/s.jsonl") := by
  obtain ⟨state, hstate⟩ := decode_emptyState
  have hcommitted : (run (react id 100 1) (fresh (some (js "backend")))
      [.synced (js "/s.jsonl") emptyState (js "h") none, .deleted (js "/s.jsonl") 0]).cacheSaveTimers.get?
        (cacheKey (js "backend") (js "/s.jsonl")) =
      some (ScheduledSave.mk (js "backend") (js "/s.jsonl") emptyState (js "h") none) := by
    rw [run, List.foldl_cons, react, hstate]
    rfl
  exact not_leavesNoCache_of_timer (timersDecode_run _ _) hcommitted rfl

end pipane.ws_agent_adapter.session_cache

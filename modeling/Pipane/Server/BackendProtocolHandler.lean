import Pipane.Lib.ListLookup
import Pipane.Lib.OrderedMap
import Pipane.Lib.Transition
import Pipane.Shared.BackendProtocol

open javascript json transition pipane.backend_protocol

namespace pipane.backend_protocol_handler

def MAX_COMPLETED_REQUESTS : Nat := 128

def MAX_CACHED_RESPONSE_BYTES : Nat := 256 * 1024

def MAX_ACTIVE_REQUESTS : Nat := 64

/-- A connection that was accepted for a device. -/
structure ServerFrameConnection where
  deviceId : JsString
  isOpen : Bool

/-- Where a request came from, under its device and its id. -/
structure Request (Connection : Type) where
  connection : Connection
  deviceId : JsString
  id : JsString

/-- The encoded response of a dispatch, and how many responses had been remembered before it. -/
structure Completion where
  frame : JsString
  remembered : Nat

/-- One dispatch of a request to the API, and how many responses had been remembered by then. -/
structure Dispatch where
  deviceId : JsString
  request : BackendRequestFrame
  remembered : Nat
  completion : Option Completion

/-- What a frame answers a request with: a dispatch it waited for, a remembered response, or a refusal. -/
inductive Source
  | operation (dispatch : Nat)
  | remembered
  | refusal
deriving DecidableEq

structure SentFrame (Connection : Type) where
  request : Request Connection
  source : Source
  frame : JsString

/-- The handler, the dispatches it made, the responses it remembered in order, and the requests that wait for a
    dispatch. -/
structure BackendProtocolHandler (Connection : Type) where
  connections : OrderedMap Connection ServerFrameConnection
  completed : OrderedMap JsString JsString
  active : OrderedMap JsString Nat
  dispatches : List Dispatch
  remembered : List (JsString × JsString)
  waiting : List (Request Connection × Nat)
  sent : List (SentFrame Connection)

/-- A connection is accepted or closes, a frame arrives, the API answers a dispatch. -/
inductive Event (Connection : Type)
  | accept (connection : Connection) (deviceId : JsString)
  | close (connection : Connection)
  | message (connection : Connection) (decoded : BackendProtocolDecodeResult)
  | complete (dispatch : Nat) (outcome : Except BackendApiErrorPayload Value)

def cacheKey (deviceId requestId : JsString) : JsString :=
  deviceId ++ 0x3A :: requestId

def Dispatch.key (dispatch : Dispatch) : JsString :=
  cacheKey dispatch.deviceId dispatch.request.id

/-- The dispatch once its response is encoded. -/
def Dispatch.answered (dispatch : Dispatch) (frame : JsString) (remembered : Nat) : Dispatch :=
  { dispatch with completion := some { frame, remembered } }

def failure (request : BackendRequestFrame) (error : BackendApiErrorPayload) : BackendResponseFrame where
  id := request.id
  method := request.method
  outcome := .error error

def isCacheable (response : JsString) : Bool :=
  (textEncode response).length ≤ MAX_CACHED_RESPONSE_BYTES

/-- Keep a response that is small enough, in place of the oldest when there are too many. -/
def remember (cache : OrderedMap JsString JsString) (id response : JsString) : OrderedMap JsString JsString :=
  if ¬ isCacheable response then cache
  else
    let cache := cache.set id response
    if cache.size ≤ MAX_COMPLETED_REQUESTS then cache
    else
      match cache.keys with
      | oldest :: _ => cache.erase oldest
      | [] => cache

namespace BackendProtocolHandler

variable {Connection : Type} [DecidableEq Connection]

def start : BackendProtocolHandler Connection where
  connections := ∅
  completed := ∅
  active := ∅
  dispatches := []
  remembered := []
  waiting := []
  sent := []

/-- Frames are sent to a connection while it is reported open. -/
def send (self : BackendProtocolHandler Connection) (request : Request Connection) (source : Source)
    (frame : JsString) : BackendProtocolHandler Connection :=
  match self.connections.get? request.connection with
  | some accepted =>
    if accepted.isOpen then { self with sent := self.sent ++ [{ request, source, frame }] } else self
  | none => self

/-- `execute` up to its first `await`. -/
def execute (self : BackendProtocolHandler Connection) (deviceId : JsString) (request : BackendRequestFrame) :
    BackendProtocolHandler Connection :=
  { self with
    dispatches := self.dispatches ++
      [{ deviceId, request, remembered := self.remembered.length, completion := none }] }

/-- The listener that `accept` adds to a connection, for a request. -/
def onRequest (self : BackendProtocolHandler Connection) (connection : Connection) (deviceId : JsString)
    (request : BackendRequestFrame) : BackendProtocolHandler Connection :=
  let key := cacheKey deviceId request.id
  let sender : Request Connection := { connection, deviceId, id := request.id }
  match self.completed.get? key with
  | some prior => self.send sender .remembered prior
  | none =>
    match self.active.get? key with
    | some operation => { self with waiting := self.waiting ++ [(sender, operation)] }
    | none =>
      if MAX_ACTIVE_REQUESTS ≤ self.active.size then
        self.send sender .refusal (encodeBackendFrame
          (failure request { code := js "conflict", message := js "Too many backend requests are active" }))
      else
        let operation := self.dispatches.length
        let self := self.execute deviceId request
        { self with
          active := self.active.set key operation
          waiting := self.waiting ++ [(sender, operation)] }

def onMessage (self : BackendProtocolHandler Connection) (connection : Connection)
    (decoded : BackendProtocolDecodeResult) : BackendProtocolHandler Connection :=
  match self.connections.get? connection with
  | none => self
  | some accepted =>
    match decoded with
    | .invalid error requestId method =>
      let id := requestId.getD (js "invalid")
      self.send { connection, deviceId := accepted.deviceId, id } .refusal (encodeBackendFrame
        { id, method := if method = [] then js "unknown" else method, outcome := .error error })
    | .ok request => self.onRequest connection accepted.deviceId request

/-- The rest of `execute` once the API has answered, and the continuations of its promise. -/
def complete (self : BackendProtocolHandler Connection) (operation : Nat)
    (outcome : Except BackendApiErrorPayload Value) : BackendProtocolHandler Connection :=
  match self.dispatches[operation]? with
  | none => self
  | some dispatch =>
    if dispatch.completion.isSome then self
    else
      let encoded := encodeBackendFrame { id := dispatch.request.id, method := dispatch.request.method, outcome }
      let settled : BackendProtocolHandler Connection := { self with
        completed := remember self.completed dispatch.key encoded
        active := self.active.erase dispatch.key
        remembered := if isCacheable encoded then self.remembered ++ [(dispatch.key, encoded)] else self.remembered
        dispatches := self.dispatches.set operation (dispatch.answered encoded self.remembered.length)
        waiting := self.waiting.filter fun waiter => waiter.2 ≠ operation }
      (self.waiting.filter fun waiter => waiter.2 = operation).foldl
        (fun handler waiter => handler.send waiter.1 (.operation operation) encoded) settled

def step (self : BackendProtocolHandler Connection) : Event Connection → BackendProtocolHandler Connection
  | .accept connection deviceId =>
    { self with connections := self.connections.set connection { deviceId, isOpen := true } }
  | .close connection =>
    match self.connections.get? connection with
    | none => self
    | some accepted => { self with connections := self.connections.set connection { accepted with isOpen := false } }
  | .message connection decoded => self.onMessage connection decoded
  | .complete operation outcome => self.complete operation outcome

end BackendProtocolHandler

/-- The responses to other requests in a part of the log. -/
def othersRemembered (remembered : List (JsString × JsString)) (key : JsString) (i j : Nat) : Nat :=
  ((remembered.take j).drop i).countP fun entry => entry.1 ≠ key

/-- Two dispatches of one request. -/
def SameRequest (first second : Dispatch) : Prop :=
  first.deviceId = second.deviceId ∧ first.request.id = second.request.id

section

variable {Connection : Type}

/-- What the two stores are for: a request is dispatched again only after it has completed with a response that
    is too large or was followed by 128 others, and what a request is answered is the response of its own
    device's dispatch. -/
structure DispatchesOnce (handler : BackendProtocolHandler Connection) : Prop where
  dispatched_again : ∀ (i j : Nat) first second, i < j → handler.dispatches[i]? = some first →
    handler.dispatches[j]? = some second → SameRequest first second →
    ∃ completion, first.completion = some completion ∧ (isCacheable completion.frame = true →
      128 ≤ othersRemembered handler.remembered first.key completion.remembered second.remembered)
  active_le : (handler.dispatches.countP fun dispatch => dispatch.completion.isNone) ≤ 64
  answered : ∀ frame ∈ handler.sent, frame.source ≠ .refusal → ∃ (n : Nat) (dispatch : Dispatch) (completion : Completion),
    handler.dispatches[n]? = some dispatch ∧ dispatch.deviceId = frame.request.deviceId ∧
    dispatch.request.id = frame.request.id ∧ dispatch.completion = some completion ∧
    completion.frame = frame.frame ∧ ∀ k, frame.source = .operation k → k = n
  waiting : ∀ waiter ∈ handler.waiting, ∃ dispatch, handler.dispatches[waiter.2]? = some dispatch ∧
    dispatch.completion = none ∧ dispatch.deviceId = waiter.1.deviceId ∧ dispatch.request.id = waiter.1.id

/-- A replay of a request whose last dispatch is active waits for it; one whose last dispatch has a remembered
    response is sent that response. Neither is dispatched. -/
def AnswersReplays [DecidableEq Connection] (handler : BackendProtocolHandler Connection) : Prop :=
  ∀ connection accepted request (n : Nat) dispatch, handler.connections.get? connection = some accepted →
    handler.dispatches[n]? = some dispatch → dispatch.deviceId = accepted.deviceId → dispatch.request.id = request.id →
    (∀ (later : Nat) other, n < later → handler.dispatches[later]? = some other → ¬ SameRequest dispatch other) →
    match dispatch.completion with
    | none => handler.onMessage connection (.ok request) =
        { handler with waiting := handler.waiting ++ [(⟨connection, accepted.deviceId, request.id⟩, n)] }
    | some completion => isCacheable completion.frame = true →
        othersRemembered handler.remembered dispatch.key completion.remembered handler.remembered.length < 128 →
        handler.onMessage connection (.ok request) =
          handler.send ⟨connection, accepted.deviceId, request.id⟩ .remembered completion.frame

end

section

variable {Connection : Type}

/-- The stores of a handler agree with what it dispatched. Device ids hold no colon. -/
structure StoreInvariant (handler : BackendProtocolHandler Connection) : Prop where
  accepted : ∀ dispatch ∈ handler.dispatches, 0x3A ∉ dispatch.deviceId
  /-- The cache holds the last 128 remembered responses. -/
  cache : handler.completed.entries = handler.remembered.drop (handler.remembered.length - 128)
  active : ∀ key n, handler.active.get? key = some n ↔ ∃ dispatch, handler.dispatches[n]? = some dispatch ∧
    dispatch.key = key ∧ dispatch.completion = none
  active_size : handler.active.size = handler.dispatches.countP fun dispatch => dispatch.completion.isNone
  active_le : handler.active.size ≤ 64
  running_uncached : ∀ (n : Nat) dispatch, handler.dispatches[n]? = some dispatch → dispatch.completion = none →
    handler.completed.get? dispatch.key = none
  started : ∀ (n : Nat) dispatch, handler.dispatches[n]? = some dispatch →
    dispatch.remembered ≤ handler.remembered.length
  completed : ∀ (n : Nat) dispatch completion, handler.dispatches[n]? = some dispatch →
    dispatch.completion = some completion → isCacheable completion.frame = true →
    handler.remembered[completion.remembered]? = some (dispatch.key, completion.frame)
  remembered : ∀ (p : Nat) key frame, handler.remembered[p]? = some (key, frame) →
    ∃ (n : Nat) (dispatch : Dispatch), handler.dispatches[n]? = some dispatch ∧ dispatch.key = key ∧
      dispatch.completion = some ⟨frame, p⟩ ∧ isCacheable frame = true
  dispatched_again : ∀ (i j : Nat) first second, i < j → handler.dispatches[i]? = some first →
    handler.dispatches[j]? = some second → first.key = second.key →
    ∃ completion, first.completion = some completion ∧ (isCacheable completion.frame = true →
      128 ≤ othersRemembered handler.remembered first.key completion.remembered second.remembered)

/-- What was sent and who waits. -/
structure AnswerInvariant (handler : BackendProtocolHandler Connection) : Prop where
  answered : ∀ frame ∈ handler.sent, frame.source ≠ .refusal → ∃ (n : Nat) (dispatch : Dispatch) (completion : Completion),
    handler.dispatches[n]? = some dispatch ∧ dispatch.deviceId = frame.request.deviceId ∧
    dispatch.request.id = frame.request.id ∧ dispatch.completion = some completion ∧
    completion.frame = frame.frame ∧ ∀ k, frame.source = .operation k → k = n
  waiting : ∀ waiter ∈ handler.waiting, ∃ dispatch, handler.dispatches[waiter.2]? = some dispatch ∧
    dispatch.completion = none ∧ dispatch.deviceId = waiter.1.deviceId ∧ dispatch.request.id = waiter.1.id

end

theorem cacheKey_injective {deviceId deviceId' requestId requestId' : JsString} (hdevice : 0x3A ∉ deviceId)
    (hdevice' : 0x3A ∉ deviceId') (h : cacheKey deviceId requestId = cacheKey deviceId' requestId') :
    deviceId = deviceId' ∧ requestId = requestId' := by
  induction deviceId generalizing deviceId' with
  | nil =>
    cases deviceId' with
    | nil => exact ⟨rfl, (List.cons.inj h).2⟩
    | cons unit rest =>
      have hhead := (List.cons.inj h).1
      exact absurd (hhead ▸ List.mem_cons_self) hdevice'
  | cons unit rest ih =>
    cases deviceId' with
    | nil =>
      have hhead := (List.cons.inj h).1
      exact absurd (hhead ▸ List.mem_cons_self) hdevice
    | cons unit' rest' =>
      obtain ⟨hhead, htail⟩ := List.cons.inj h
      rw [List.mem_cons, not_or] at hdevice hdevice'
      obtain ⟨hrest, hid⟩ := ih hdevice.2 hdevice'.2 htail
      exact ⟨by rw [hhead, hrest], hid⟩

theorem Dispatch.sameRequest_iff_key {first second : Dispatch} (hfirst : 0x3A ∉ first.deviceId)
    (hsecond : 0x3A ∉ second.deviceId) : SameRequest first second ↔ first.key = second.key := by
  constructor
  · rintro ⟨hdevice, hid⟩
    rw [Dispatch.key, Dispatch.key, hdevice, hid]
  · exact cacheKey_injective hfirst hsecond

theorem le_othersRemembered {remembered : List (JsString × JsString)} {key : JsString} {p : Nat}
    (hp : p < remembered.length - 128) (hothers : ∀ entry ∈ remembered.drop (remembered.length - 128), entry.1 ≠ key) :
    128 ≤ othersRemembered remembered key p remembered.length := by
  have hlast : (remembered.drop (remembered.length - 128)).countP (fun entry => entry.1 ≠ key) =
      (remembered.drop (remembered.length - 128)).length :=
    List.countP_eq_length.mpr fun entry hentry => decide_eq_true (hothers entry hentry)
  have hsub : (remembered.drop (remembered.length - 128)).Sublist (remembered.drop p) := by
    have hdrop : remembered.drop (remembered.length - 128) =
        (remembered.drop p).drop (remembered.length - 128 - p) := by
      rw [List.drop_drop, show p + (remembered.length - 128 - p) = remembered.length - 128 by omega]
    rw [hdrop]
    exact List.drop_sublist _ _
  rw [othersRemembered, List.take_length]
  refine Nat.le_trans ?_ hsub.countP_le
  rw [hlast, List.length_drop]
  omega

theorem othersRemembered_append {remembered more : List (JsString × JsString)} {key : JsString} {i j : Nat}
    (hj : j ≤ remembered.length) :
    othersRemembered (remembered ++ more) key i j = othersRemembered remembered key i j := by
  rw [othersRemembered, othersRemembered, List.take_append_of_le_length hj]

theorem lt_of_othersRemembered {remembered : List (JsString × JsString)} {key frame : JsString} {p j : Nat}
    (hget : remembered[p]? = some (key, frame)) (hothers : 128 ≤ othersRemembered remembered key p j) :
    p + 128 < j := by
  have hcount : othersRemembered remembered key p j ≤ j - p := by
    refine Nat.le_trans List.countP_le_length ?_
    rw [List.length_drop, List.length_take]
    omega
  by_contra hle
  obtain ⟨hlt, hentry⟩ := List.getElem?_eq_some_iff.mp hget
  have hj : p < j := by omega
  have htake : p < (remembered.take j).length := by
    rw [List.length_take]
    omega
  have hhead : (remembered.take j).drop p = (key, frame) :: (remembered.take j).drop (p + 1) := by
    rw [List.drop_eq_getElem_cons htake, List.getElem_take, hentry]
  rw [othersRemembered, hhead, List.countP_cons_of_neg (by simp)] at hothers
  have hrest := hothers.trans List.countP_le_length
  rw [List.length_drop, List.length_take] at hrest
  omega

/-- A response that is remembered under a new key becomes the last of the cache. -/
theorem entries_remember {cache : OrderedMap JsString JsString} {remembered : List (JsString × JsString)}
    {key response : JsString} (hcache : cache.entries = remembered.drop (remembered.length - 128))
    (hnone : cache.get? key = none) (hcacheable : isCacheable response = true) :
    (remember cache key response).entries =
      (remembered ++ [(key, response)]).drop ((remembered ++ [(key, response)]).length - 128) := by
  have hset : (cache.set key response).entries = remembered.drop (remembered.length - 128) ++ [(key, response)] := by
    rw [OrderedMap.entries_set_of_none hnone, hcache]
  have hsize : (cache.set key response).size = remembered.length - (remembered.length - 128) + 1 := by
    rw [OrderedMap.size, hset, List.length_append, List.length_drop, List.length_singleton]
  have hmax : MAX_COMPLETED_REQUESTS = 128 := rfl
  rw [remember, if_neg (by simp [hcacheable])]
  simp only [List.length_append, List.length_singleton]
  by_cases hsmall : (cache.set key response).size ≤ MAX_COMPLETED_REQUESTS
  · rw [if_pos hsmall, hset, show remembered.length - 128 = 0 by omega,
      show remembered.length + 1 - 128 = 0 by omega]
    rfl
  · rw [if_neg hsmall]
    obtain ⟨⟨oldest, frame⟩, hdrop⟩ : ∃ entry, remembered.drop (remembered.length - 128) =
        entry :: remembered.drop (remembered.length - 128 + 1) := ⟨_, List.drop_eq_getElem_cons (by omega)⟩
    rw [hdrop, List.cons_append] at hset
    have hkeys : (cache.set key response).keys =
        oldest :: (remembered.drop (remembered.length - 128 + 1) ++ [(key, response)]).map Prod.fst := by
      rw [OrderedMap.keys, hset, List.map_cons]
    rw [hkeys]
    simp only
    rw [OrderedMap.entries_erase_oldest hset, List.drop_append_of_le_length (by omega),
      show remembered.length + 1 - 128 = remembered.length - 128 + 1 by omega]

theorem get?_remember_of_none {cache : OrderedMap JsString JsString} {key other response : JsString}
    (hne : other ≠ key) (hnone : cache.get? other = none) : (remember cache key response).get? other = none := by
  rw [remember]
  split
  · exact hnone
  · have hset : (cache.set key response).get? other = none := by rw [OrderedMap.get?_set_ne hne, hnone]
    simp only
    split
    · exact hset
    · split
      · rename_i oldest _ _
        rw [OrderedMap.get?_erase]
        split
        · rfl
        · exact hset
      · exact hset

section

variable {Connection : Type} [DecidableEq Connection]

theorem send_eq (handler : BackendProtocolHandler Connection) (request : Request Connection) (source : Source)
    (frame : JsString) : ∃ sent, handler.send request source frame = { handler with sent } ∧
      ∀ other ∈ sent, other ∈ handler.sent ∨ other = ⟨request, source, frame⟩ := by
  rw [BackendProtocolHandler.send]
  cases handler.connections.get? request.connection with
  | none => exact ⟨handler.sent, rfl, fun _ hmem => .inl hmem⟩
  | some accepted =>
    simp only
    split
    · refine ⟨_, rfl, fun other hmem => ?_⟩
      exact (List.mem_append.mp hmem).imp_right List.mem_singleton.mp
    · exact ⟨handler.sent, rfl, fun _ hmem => .inl hmem⟩

theorem foldl_send_eq (waiters : List (Request Connection × Nat)) (operation : Nat) (frame : JsString)
    (handler : BackendProtocolHandler Connection) : ∃ sent,
    waiters.foldl (fun handler waiter => handler.send waiter.1 (.operation operation) frame) handler =
      { handler with sent } ∧
    ∀ other ∈ sent, other ∈ handler.sent ∨ ∃ waiter ∈ waiters, other = ⟨waiter.1, .operation operation, frame⟩ := by
  induction waiters generalizing handler with
  | nil => exact ⟨handler.sent, rfl, fun _ hmem => .inl hmem⟩
  | cons waiter waiters ih =>
    obtain ⟨first, hfirst, hnew⟩ := send_eq handler waiter.1 (.operation operation) frame
    rw [List.foldl_cons, hfirst]
    obtain ⟨sent, hsent, hrest⟩ := ih { handler with sent := first }
    refine ⟨sent, hsent, fun other hmem => ?_⟩
    rcases hrest other hmem with hbefore | ⟨later, hlater, hother⟩
    · exact (hnew other hbefore).imp_right fun hother => ⟨waiter, List.mem_cons_self, hother⟩
    · exact .inr ⟨later, List.mem_cons_of_mem _ hlater, hother⟩

omit [DecidableEq Connection] in
theorem StoreInvariant.cached {handler : BackendProtocolHandler Connection} (hinv : StoreInvariant handler)
    {key prior : JsString} (hprior : handler.completed.get? key = some prior) :
    ∃ (p n : Nat) (dispatch : Dispatch), handler.remembered.length - 128 ≤ p ∧
      handler.remembered[p]? = some (key, prior) ∧ handler.dispatches[n]? = some dispatch ∧ dispatch.key = key ∧
      dispatch.completion = some ⟨prior, p⟩ := by
  have hmem := OrderedMap.mem_entries_iff.mpr hprior
  rw [hinv.cache, List.mem_iff_getElem?] at hmem
  obtain ⟨k, hk⟩ := hmem
  rw [List.getElem?_drop] at hk
  obtain ⟨n, dispatch, hdispatch, hkey, hcompletion, -⟩ := hinv.remembered _ key prior hk
  exact ⟨_, n, dispatch, Nat.le_add_right _ _, hk, hdispatch, hkey, hcompletion⟩

omit [DecidableEq Connection] in
theorem StoreInvariant.uncached {handler : BackendProtocolHandler Connection} (hinv : StoreInvariant handler)
    {key : JsString} (hnone : handler.completed.get? key = none) :
    ∀ entry ∈ handler.remembered.drop (handler.remembered.length - 128), entry.1 ≠ key := by
  rintro ⟨other, frame⟩ hentry rfl
  rw [← hinv.cache, OrderedMap.mem_entries_iff, hnone] at hentry
  cases hentry

omit [DecidableEq Connection] in
theorem StoreInvariant.again {handler : BackendProtocolHandler Connection} (hinv : StoreInvariant handler)
    {key : JsString} (hnone : handler.completed.get? key = none) (hidle : handler.active.get? key = none) {i : Nat}
    {first : Dispatch} (hfirst : handler.dispatches[i]? = some first) (hkey : first.key = key) :
    ∃ completion, first.completion = some completion ∧ (isCacheable completion.frame = true →
      128 ≤ othersRemembered handler.remembered key completion.remembered handler.remembered.length) := by
  cases hcompletion : first.completion with
  | none =>
    have hactive := (hinv.active key i).mpr ⟨first, hfirst, hkey, hcompletion⟩
    rw [hidle] at hactive
    cases hactive
  | some completion =>
    refine ⟨completion, rfl, fun hcacheable => ?_⟩
    have hentry := hinv.completed i first completion hfirst hcompletion hcacheable
    rw [hkey] at hentry
    have hothers := hinv.uncached hnone
    refine le_othersRemembered ?_ hothers
    by_contra hrecent
    have hmem : (key, completion.frame) ∈ handler.remembered.drop (handler.remembered.length - 128) := by
      rw [List.mem_iff_getElem?]
      refine ⟨completion.remembered - (handler.remembered.length - 128), ?_⟩
      rw [List.getElem?_drop, Nat.add_sub_cancel' (by omega), hentry]
    exact hothers _ hmem rfl

omit [DecidableEq Connection] in
/-- A new dispatch under a key that is neither active nor in the cache. -/
theorem StoreInvariant.execute {handler : BackendProtocolHandler Connection} (hinv : StoreInvariant handler)
    {deviceId : JsString} {request : BackendRequestFrame} (hdevice : 0x3A ∉ deviceId)
    (hnone : handler.completed.get? (cacheKey deviceId request.id) = none)
    (hidle : handler.active.get? (cacheKey deviceId request.id) = none) (hroom : handler.active.size < 64)
    (waiting : List (Request Connection × Nat)) :
    StoreInvariant { handler.execute deviceId request with
      active := handler.active.set (cacheKey deviceId request.id) handler.dispatches.length
      waiting } := by
  rw [BackendProtocolHandler.execute]
  constructor
  · intro dispatch hmem
    rcases List.mem_append.mp hmem with hbefore | hlast
    · exact hinv.accepted dispatch hbefore
    · obtain rfl := List.mem_singleton.mp hlast
      exact hdevice
  · exact hinv.cache
  · intro key n
    simp only
    rw [OrderedMap.get?_set]
    by_cases hkey : key = cacheKey deviceId request.id
    · rw [if_pos hkey]
      constructor
      · intro hn
        cases hn
        exact ⟨_, List.getElem?_concat_last _ _, hkey.symm, rfl⟩
      · rintro ⟨dispatch, hdispatch, hsame, hrunning⟩
        obtain hbefore | ⟨rfl, -⟩ := List.getElem?_concat_cases hdispatch
        · have hactive := (hinv.active key n).mpr ⟨dispatch, hbefore, hsame, hrunning⟩
          rw [hkey, hidle] at hactive
          cases hactive
        · rfl
    · rw [if_neg hkey, hinv.active key n]
      constructor
      · rintro ⟨dispatch, hdispatch, hrest⟩
        exact ⟨dispatch, List.getElem?_concat_of_some hdispatch _, hrest⟩
      · rintro ⟨dispatch, hdispatch, hsame, hrunning⟩
        obtain hbefore | ⟨-, rfl⟩ := List.getElem?_concat_cases hdispatch
        · exact ⟨dispatch, hbefore, hsame, hrunning⟩
        · exact absurd hsame.symm hkey
  · simp only
    rw [OrderedMap.size_set_of_none hidle, List.countP_append, hinv.active_size]
    rfl
  · simp only
    rw [OrderedMap.size_set_of_none hidle]
    omega
  · intro n dispatch hdispatch hrunning
    obtain hbefore | ⟨-, rfl⟩ := List.getElem?_concat_cases hdispatch
    · exact hinv.running_uncached n dispatch hbefore hrunning
    · exact hnone
  · intro n dispatch hdispatch
    obtain hbefore | ⟨-, rfl⟩ := List.getElem?_concat_cases hdispatch
    · exact hinv.started n dispatch hbefore
    · exact Nat.le_refl _
  · intro n dispatch completion hdispatch hcompletion
    obtain hbefore | ⟨-, rfl⟩ := List.getElem?_concat_cases hdispatch
    · exact hinv.completed n dispatch completion hbefore hcompletion
    · cases hcompletion
  · intro p key frame hentry
    obtain ⟨n, dispatch, hdispatch, hrest⟩ := hinv.remembered p key frame hentry
    exact ⟨n, dispatch, List.getElem?_concat_of_some hdispatch _, hrest⟩
  · intro i j first second hlt hfirst hsecond hsame
    obtain ⟨hbound, -⟩ := List.getElem?_eq_some_iff.mp hsecond
    rw [List.length_append, List.length_singleton] at hbound
    have hfirst' : handler.dispatches[i]? = some first := by
      obtain hbefore | ⟨rfl, -⟩ := List.getElem?_concat_cases hfirst
      · exact hbefore
      · omega
    obtain hlater | ⟨-, rfl⟩ := List.getElem?_concat_cases hsecond
    · exact hinv.dispatched_again i j first second hlt hfirst' hlater hsame
    · obtain ⟨completion, hcompletion, hothers⟩ := hinv.again hnone hidle hfirst' hsame
      rw [hsame]
      exact ⟨completion, hcompletion, hothers⟩

omit [DecidableEq Connection] in
/-- The state after a response, before it is sent. -/
theorem StoreInvariant.complete {handler : BackendProtocolHandler Connection} (hinv : StoreInvariant handler)
    {operation : Nat} {dispatch : Dispatch} (hget : handler.dispatches[operation]? = some dispatch)
    (hrunning : dispatch.completion = none) (encoded : JsString) (waiting : List (Request Connection × Nat)) :
    StoreInvariant { handler with
      completed := remember handler.completed dispatch.key encoded
      active := handler.active.erase dispatch.key
      remembered :=
        if isCacheable encoded then handler.remembered ++ [(dispatch.key, encoded)] else handler.remembered
      dispatches := handler.dispatches.set operation (dispatch.answered encoded handler.remembered.length)
      waiting } := by
  have hactive := (hinv.active dispatch.key operation).mpr ⟨dispatch, hget, rfl, hrunning⟩
  have hnone := hinv.running_uncached operation dispatch hget hrunning
  -- Another running dispatch has another key.
  have hothers : ∀ (n : Nat) other, n ≠ operation → handler.dispatches[n]? = some other → other.completion = none →
      other.key ≠ dispatch.key := by
    intro n other hne hother hotherRunning hsame
    have hn := (hinv.active dispatch.key n).mpr ⟨other, hother, hsame, hotherRunning⟩
    rw [hactive] at hn
    exact hne (Option.some.inj hn).symm
  obtain ⟨more, hlog⟩ : ∃ more, (if isCacheable encoded then handler.remembered ++ [(dispatch.key, encoded)]
      else handler.remembered) = handler.remembered ++ more := by
    split
    · exact ⟨_, rfl⟩
    · exact ⟨[], (List.append_nil _).symm⟩
  constructor
  · intro other hmem
    obtain ⟨n, hn⟩ := List.mem_iff_getElem?.mp hmem
    obtain ⟨-, rfl⟩ | ⟨-, hbefore⟩ := List.getElem?_set_cases hn
    · exact hinv.accepted dispatch (List.mem_of_getElem? hget)
    · exact hinv.accepted other (List.mem_of_getElem? hbefore)
  · simp only
    by_cases hcacheable : isCacheable encoded = true
    · rw [if_pos hcacheable]
      exact entries_remember hinv.cache hnone hcacheable
    · rw [if_neg hcacheable, remember, if_pos hcacheable]
      exact hinv.cache
  · intro key n
    simp only
    rw [OrderedMap.get?_erase]
    by_cases hkey : key = dispatch.key
    · rw [if_pos hkey]
      constructor
      · exact fun hn => by cases hn
      · rintro ⟨other, hother, hsame, hotherRunning⟩
        obtain ⟨-, rfl⟩ | ⟨hne, hbefore⟩ := List.getElem?_set_cases hother
        · cases hotherRunning
        · exact absurd (hsame.trans hkey) (hothers n other hne hbefore hotherRunning)
    · rw [if_neg hkey, hinv.active key n]
      constructor
      · rintro ⟨other, hother, hsame, hotherRunning⟩
        refine ⟨other, ?_, hsame, hotherRunning⟩
        rw [List.getElem?_set_ne]
        · exact hother
        · rintro rfl
          rw [hget] at hother
          cases hother
          exact hkey hsame.symm
      · rintro ⟨other, hother, hsame, hotherRunning⟩
        obtain ⟨-, rfl⟩ | ⟨-, hbefore⟩ := List.getElem?_set_cases hother
        · cases hotherRunning
        · exact ⟨other, hbefore, hsame, hotherRunning⟩
  · have hsize := OrderedMap.size_erase_of_get? hactive
    have hcount := List.countP_set_add (fun other : Dispatch => other.completion.isNone) hget
      (dispatch.answered encoded handler.remembered.length)
    have hanswered : (dispatch.answered encoded handler.remembered.length).completion.isNone = false := rfl
    rw [hinv.active_size] at hsize
    simp only [hrunning, hanswered, Option.isNone_none, if_true, Bool.false_eq_true, if_false] at hcount
    simp only
    omega
  · have hsize := OrderedMap.size_erase_of_get? hactive
    have hle := hinv.active_le
    simp only
    omega
  · intro n other hother hotherRunning
    obtain ⟨-, rfl⟩ | ⟨hne, hbefore⟩ := List.getElem?_set_cases hother
    · cases hotherRunning
    · exact get?_remember_of_none (hothers n other hne hbefore hotherRunning)
        (hinv.running_uncached n other hbefore hotherRunning)
  · intro n other hother
    simp only [hlog, List.length_append]
    obtain ⟨-, rfl⟩ | ⟨-, hbefore⟩ := List.getElem?_set_cases hother
    · exact Nat.le_trans (hinv.started operation dispatch hget) (Nat.le_add_right _ _)
    · exact Nat.le_trans (hinv.started n other hbefore) (Nat.le_add_right _ _)
  · intro n other completion hother hcompletion hcacheable
    obtain ⟨-, rfl⟩ | ⟨-, hbefore⟩ := List.getElem?_set_cases hother
    · cases hcompletion
      simp only at hcacheable
      simp only [if_pos hcacheable]
      exact List.getElem?_concat_last _ _
    · simp only [hlog]
      exact List.getElem?_concat_of_some (hinv.completed n other completion hbefore hcompletion hcacheable) _
  · intro p key frame hentry
    have hbefore : handler.remembered[p]? = some (key, frame) → ∃ (n : Nat) (other : Dispatch),
        (handler.dispatches.set operation (dispatch.answered encoded handler.remembered.length))[n]? = some other ∧
          other.key = key ∧ other.completion = some ⟨frame, p⟩ ∧ isCacheable frame = true := by
      intro hp
      obtain ⟨n, other, hother, hkey, hcompletion, hcacheable⟩ := hinv.remembered p key frame hp
      refine ⟨n, other, ?_, hkey, hcompletion, hcacheable⟩
      rw [List.getElem?_set_ne]
      · exact hother
      · rintro rfl
        rw [hget] at hother
        cases hother
        rw [hrunning] at hcompletion
        cases hcompletion
    simp only at hentry
    by_cases hcacheable : isCacheable encoded = true
    · rw [if_pos hcacheable] at hentry
      obtain hp | ⟨rfl, hlast⟩ := List.getElem?_concat_cases hentry
      · exact hbefore hp
      · cases hlast
        exact ⟨operation, _, List.getElem?_set_same hget _, rfl, rfl, hcacheable⟩
    · rw [if_neg hcacheable] at hentry
      exact hbefore hentry
  · intro i j first second hlt hfirst hsecond hsame
    have hearlier : ∀ (k : Nat) other, (handler.dispatches.set operation
        (dispatch.answered encoded handler.remembered.length))[k]? = some other →
        ∃ before, handler.dispatches[k]? = some before ∧ before.key = other.key ∧
          before.remembered = other.remembered ∧ (before.completion = other.completion ∨ before.completion = none) := by
      intro k other hother
      obtain ⟨rfl, rfl⟩ | ⟨-, hbefore⟩ := List.getElem?_set_cases hother
      · exact ⟨dispatch, hget, rfl, rfl, .inr hrunning⟩
      · exact ⟨other, hbefore, rfl, rfl, .inl rfl⟩
    obtain ⟨before, hbefore, hkey, -, hcompletion⟩ := hearlier i first hfirst
    obtain ⟨later, hlater, hlaterKey, hremembered, -⟩ := hearlier j second hsecond
    obtain ⟨completion, hcompleted, hothersSince⟩ := hinv.dispatched_again i j before later hlt hbefore hlater
      (hkey.trans (hsame.trans hlaterKey.symm))
    have hfirstCompletion : first.completion = some completion := by
      obtain hsameCompletion | hnoneBefore := hcompletion
      · exact hsameCompletion.symm.trans hcompleted
      · rw [hnoneBefore] at hcompleted
        cases hcompleted
    refine ⟨completion, hfirstCompletion, fun hcacheable => ?_⟩
    simp only [hlog]
    rw [othersRemembered_append, ← hkey, ← hremembered]
    · exact hothersSince hcacheable
    · rw [← hremembered]
      exact hinv.started j later hlater

/-- The invariants of a run whose connections are accepted for device ids without a colon. -/
structure HandlerInvariant (handler : BackendProtocolHandler Connection) : Prop where
  devices : ∀ connection accepted, handler.connections.get? connection = some accepted → 0x3A ∉ accepted.deviceId
  store : StoreInvariant handler
  answers : AnswerInvariant handler

theorem handlerInvariant_send {handler : BackendProtocolHandler Connection} (hinv : HandlerInvariant handler)
    (request : Request Connection) (source : Source) (frame : JsString)
    (hanswer : source ≠ .refusal → ∃ (n : Nat) (dispatch : Dispatch) (completion : Completion),
      handler.dispatches[n]? = some dispatch ∧ dispatch.deviceId = request.deviceId ∧
      dispatch.request.id = request.id ∧ dispatch.completion = some completion ∧
      completion.frame = frame ∧ ∀ k, source = .operation k → k = n) :
    HandlerInvariant (handler.send request source frame) := by
  obtain ⟨sent, hsent, hnew⟩ := send_eq handler request source frame
  rw [hsent]
  refine ⟨hinv.devices, { hinv.store with }, ⟨?_, hinv.answers.waiting⟩⟩
  intro other hother hsource
  rcases hnew other hother with hbefore | rfl
  · exact hinv.answers.answered other hbefore hsource
  · exact hanswer hsource

theorem handlerInvariant_onMessage {handler : BackendProtocolHandler Connection}
    (hinv : HandlerInvariant handler) (connection : Connection) (decoded : BackendProtocolDecodeResult) :
    HandlerInvariant (handler.onMessage connection decoded) := by
  rw [BackendProtocolHandler.onMessage]
  cases haccepted : handler.connections.get? connection with
  | none => exact hinv
  | some accepted =>
    cases decoded with
    | invalid error requestId method =>
      exact handlerInvariant_send hinv _ _ _ fun hsource => absurd rfl hsource
    | ok request =>
      have hdevice := hinv.devices connection accepted haccepted
      simp only [BackendProtocolHandler.onRequest]
      cases hprior : handler.completed.get? (cacheKey accepted.deviceId request.id) with
      | some prior =>
        refine handlerInvariant_send hinv _ _ _ fun _ => ?_
        obtain ⟨p, n, dispatch, -, -, hdispatch, hkey, hcompletion⟩ := hinv.store.cached hprior
        obtain ⟨hsameDevice, hsameId⟩ := cacheKey_injective
          (hinv.store.accepted dispatch (List.mem_of_getElem? hdispatch)) hdevice hkey
        exact ⟨n, dispatch, _, hdispatch, hsameDevice, hsameId, hcompletion, rfl, fun _ hk => (by cases hk)⟩
      | none =>
        simp only
        cases hactive : handler.active.get? (cacheKey accepted.deviceId request.id) with
        | some operation =>
          refine ⟨hinv.devices, { hinv.store with }, ⟨hinv.answers.answered, ?_⟩⟩
          intro waiter hwaiter
          rcases List.mem_append.mp hwaiter with hbefore | hnew
          · exact hinv.answers.waiting waiter hbefore
          · obtain rfl := List.mem_singleton.mp hnew
            obtain ⟨dispatch, hdispatch, hkey, hrunning⟩ := (hinv.store.active _ operation).mp hactive
            obtain ⟨hsameDevice, hsameId⟩ := cacheKey_injective
              (hinv.store.accepted dispatch (List.mem_of_getElem? hdispatch)) hdevice hkey
            exact ⟨dispatch, hdispatch, hrunning, hsameDevice, hsameId⟩
        | none =>
          simp only
          split
          · exact handlerInvariant_send hinv _ _ _ fun hsource => absurd rfl hsource
          · rename_i hroom
            refine ⟨hinv.devices, hinv.store.execute hdevice hprior hactive (Nat.lt_of_not_le hroom) _, ⟨?_, ?_⟩⟩
            · intro frame hframe hsource
              obtain ⟨n, dispatch, completion, hdispatch, hrest⟩ := hinv.answers.answered frame hframe hsource
              exact ⟨n, dispatch, completion, List.getElem?_concat_of_some hdispatch _, hrest⟩
            · intro waiter hwaiter
              rcases List.mem_append.mp hwaiter with hbefore | hnew
              · obtain ⟨dispatch, hdispatch, hrest⟩ := hinv.answers.waiting waiter hbefore
                exact ⟨dispatch, List.getElem?_concat_of_some hdispatch _, hrest⟩
              · obtain rfl := List.mem_singleton.mp hnew
                exact ⟨_, List.getElem?_concat_last _ _, rfl, rfl, rfl⟩

theorem handlerInvariant_complete {handler : BackendProtocolHandler Connection}
    (hinv : HandlerInvariant handler) (operation : Nat) (outcome : Except BackendApiErrorPayload Value) :
    HandlerInvariant (handler.complete operation outcome) := by
  rw [BackendProtocolHandler.complete]
  cases hget : handler.dispatches[operation]? with
  | none => exact hinv
  | some dispatch =>
    simp only
    split
    · exact hinv
    · rename_i hrunning
      rw [Bool.not_eq_true, Option.isSome_eq_false_iff, Option.isNone_iff_eq_none] at hrunning
      generalize encodeBackendFrame { id := dispatch.request.id, method := dispatch.request.method, outcome } = encoded
      have hstore := hinv.store.complete hget hrunning encoded
        (handler.waiting.filter fun waiter => waiter.2 ≠ operation)
      obtain ⟨sent, hsent, hnew⟩ := foldl_send_eq (handler.waiting.filter fun waiter => waiter.2 = operation)
        operation encoded { handler with
          completed := remember handler.completed dispatch.key encoded
          active := handler.active.erase dispatch.key
          remembered :=
            if isCacheable encoded then handler.remembered ++ [(dispatch.key, encoded)] else handler.remembered
          dispatches := handler.dispatches.set operation (dispatch.answered encoded handler.remembered.length)
          waiting := handler.waiting.filter fun waiter => waiter.2 ≠ operation }
      rw [hsent]
      refine ⟨hinv.devices, { hstore with }, ⟨?_, ?_⟩⟩
      · intro frame hframe hsource
        rcases hnew frame hframe with hbefore | ⟨waiter, hwaiter, rfl⟩
        · obtain ⟨n, other, completion, hother, hdevice, hid, hcompletion, hrest⟩ :=
            hinv.answers.answered frame hbefore hsource
          refine ⟨n, other, completion, ?_, hdevice, hid, hcompletion, hrest⟩
          rw [List.getElem?_set_ne]
          · exact hother
          · rintro rfl
            rw [hget] at hother
            cases hother
            rw [hrunning] at hcompletion
            cases hcompletion
        · rw [List.mem_filter] at hwaiter
          obtain ⟨other, hother, -, hdevice, hid⟩ := hinv.answers.waiting waiter hwaiter.1
          rw [of_decide_eq_true hwaiter.2, hget] at hother
          cases hother
          exact ⟨operation, _, _, List.getElem?_set_same hget _, hdevice, hid, rfl, rfl, fun k hk => by cases hk; rfl⟩
      · intro waiter hwaiter
        rw [List.mem_filter] at hwaiter
        obtain ⟨other, hother, hrest⟩ := hinv.answers.waiting waiter hwaiter.1
        refine ⟨other, ?_, hrest⟩
        rw [List.getElem?_set_ne (Ne.symm (of_decide_eq_true hwaiter.2)), hother]

theorem handlerInvariant_start :
    HandlerInvariant (BackendProtocolHandler.start : BackendProtocolHandler Connection) := by
  refine ⟨fun connection accepted haccepted => (by cases haccepted), ?_,
    ⟨fun _ hmem => (by cases hmem), fun _ hmem => (by cases hmem)⟩⟩
  constructor
  · exact fun dispatch hmem => by cases hmem
  · exact List.drop_nil.symm
  · exact fun key n => ⟨fun h => (by cases h), fun ⟨dispatch, hdispatch, _⟩ => (by cases hdispatch)⟩
  · rfl
  · exact Nat.zero_le _
  · exact fun n dispatch hdispatch => by cases hdispatch
  · exact fun n dispatch hdispatch => by cases hdispatch
  · exact fun n dispatch completion hdispatch => by cases hdispatch
  · exact fun p key frame hentry => by cases hentry
  · exact fun i j first second hlt hfirst => by cases hfirst

/-- The devices of a run are named without a colon. -/
def DevicesHaveNoColon (events : List (Event Connection)) : Prop :=
  ∀ connection deviceId, Event.accept connection deviceId ∈ events → 0x3A ∉ deviceId

theorem handlerInvariant_run {events : List (Event Connection)} (hdevices : DevicesHaveNoColon events) :
    HandlerInvariant (run BackendProtocolHandler.step BackendProtocolHandler.start events) := by
  have hsteps : EveryStep BackendProtocolHandler.step BackendProtocolHandler.start
      (fun _ event => ∀ connection deviceId, event = .accept connection deviceId → 0x3A ∉ deviceId) events := by
    rintro before event hextends connection deviceId rfl
    exact hdevices connection deviceId (hextends.subset (by simp))
  refine (always_of_everyStep handlerInvariant_start ?_ hsteps).last
  intro handler event hinv hevent
  cases event with
  | accept connection deviceId =>
    refine ⟨?_, { hinv.store with }, { hinv.answers with }⟩
    intro other accepted haccepted
    simp only [BackendProtocolHandler.step, OrderedMap.get?_set] at haccepted
    split at haccepted
    · cases haccepted
      exact hevent connection deviceId rfl
    · exact hinv.devices other accepted haccepted
  | close connection =>
    simp only [BackendProtocolHandler.step]
    cases hclosed : handler.connections.get? connection with
    | none => exact hinv
    | some closed =>
      refine ⟨?_, { hinv.store with }, { hinv.answers with }⟩
      intro other accepted haccepted
      simp only [OrderedMap.get?_set] at haccepted
      split at haccepted
      · cases haccepted
        exact hinv.devices connection closed hclosed
      · exact hinv.devices other accepted haccepted
  | message connection decoded => exact handlerInvariant_onMessage hinv connection decoded
  | complete operation outcome => exact handlerInvariant_complete hinv operation outcome

theorem HandlerInvariant.dispatchesOnce {handler : BackendProtocolHandler Connection}
    (hinv : HandlerInvariant handler) : DispatchesOnce handler := by
  refine ⟨?_, ?_, hinv.answers.answered, hinv.answers.waiting⟩
  · intro i j first second hlt hfirst hsecond hsame
    have hkey := (Dispatch.sameRequest_iff_key (hinv.store.accepted first (List.mem_of_getElem? hfirst))
      (hinv.store.accepted second (List.mem_of_getElem? hsecond))).mp hsame
    exact hinv.store.dispatched_again i j first second hlt hfirst hsecond hkey
  · rw [← hinv.store.active_size]
    exact hinv.store.active_le

theorem HandlerInvariant.answersReplays {handler : BackendProtocolHandler Connection}
    (hinv : HandlerInvariant handler) : AnswersReplays handler := by
  intro connection accepted request n dispatch haccepted hdispatch hdevice hid hlast
  have hkey : cacheKey accepted.deviceId request.id = dispatch.key := by rw [Dispatch.key, hdevice, hid]
  have hnoColon := hinv.store.accepted dispatch (List.mem_of_getElem? hdispatch)
  have honMessage : handler.onMessage connection (.ok request) =
      handler.onRequest connection accepted.deviceId request := by
    rw [BackendProtocolHandler.onMessage, haccepted]
  cases hcompletion : dispatch.completion with
  | none =>
    simp only
    rw [honMessage, BackendProtocolHandler.onRequest]
    simp only [hkey, hinv.store.running_uncached n dispatch hdispatch hcompletion,
      (hinv.store.active dispatch.key n).mpr ⟨dispatch, hdispatch, rfl, hcompletion⟩]
  | some completion =>
    intro hcacheable hfew
    have hentry := hinv.store.completed n dispatch completion hdispatch hcompletion hcacheable
    have hcached : handler.completed.get? dispatch.key = some completion.frame := by
      cases hprior : handler.completed.get? dispatch.key with
      | none =>
        have hothers := hinv.store.uncached hprior
        by_cases hrecent : completion.remembered < handler.remembered.length - 128
        · have hmany := le_othersRemembered hrecent hothers
          omega
        · have hmem : (dispatch.key, completion.frame) ∈
              handler.remembered.drop (handler.remembered.length - 128) := by
            rw [List.mem_iff_getElem?]
            refine ⟨completion.remembered - (handler.remembered.length - 128), ?_⟩
            rw [List.getElem?_drop, Nat.add_sub_cancel' (by omega), hentry]
          exact absurd rfl (hothers _ hmem)
      | some prior =>
        obtain ⟨p, m, other, hp, hremembered, hother, hotherKey, hotherCompletion⟩ := hinv.store.cached hprior
        have hsame := (Dispatch.sameRequest_iff_key hnoColon
          (hinv.store.accepted other (List.mem_of_getElem? hother))).mpr hotherKey.symm
        rcases Nat.lt_trichotomy m n with hlt | rfl | hlt
        · obtain ⟨earlier, hearlier, hagain⟩ :=
            hinv.store.dispatched_again m n other dispatch hlt hother hdispatch hotherKey
          rw [hotherCompletion] at hearlier
          cases hearlier
          obtain ⟨-, -, -, -, -, hpriorCacheable⟩ := hinv.store.remembered p dispatch.key prior hremembered
          have hfar := hagain hpriorCacheable
          rw [hotherKey] at hfar
          have hgone := lt_of_othersRemembered hremembered hfar
          have hbound := hinv.store.started n dispatch hdispatch
          omega
        · rw [hdispatch] at hother
          cases hother
          rw [hcompletion] at hotherCompletion
          cases hotherCompletion
          rfl
        · exact absurd hsame (hlast m other hlt hother)
    rw [honMessage, BackendProtocolHandler.onRequest]
    simp only [hkey, hcached]

/-- A request is dispatched at most once while it is active and while its response is remembered, and its replays
    are answered with that response, for any order of frames, replays and completions. -/
theorem requests_dispatched_once {events : List (Event Connection)} (hdevices : DevicesHaveNoColon events) :
    DispatchesOnce (run BackendProtocolHandler.step BackendProtocolHandler.start events) ∧
      AnswersReplays (run BackendProtocolHandler.step BackendProtocolHandler.start events) :=
  ⟨(handlerInvariant_run hdevices).dispatchesOnce, (handlerInvariant_run hdevices).answersReplays⟩

end

/-- A device asks for its sessions, reconnects, and sends the same frame again before and after the answer. -/
def replayedRequest : List (Event Nat) :=
  let request : BackendRequestFrame := ⟨js "api_1", js "sessions.list", .obj []⟩
  [.accept 0 (js "laptop"), .message 0 (.ok request), .close 0, .accept 1 (js "laptop"), .message 1 (.ok request),
    .complete 0 (.ok (.arr [])), .message 1 (.ok request)]

theorem requests_dispatched_once_replayedRequest :
    let handler := run BackendProtocolHandler.step BackendProtocolHandler.start replayedRequest
    handler.dispatches.length = 1 ∧ handler.sent.map SentFrame.source = [.operation 0, .remembered] ∧
      DispatchesOnce handler ∧ AnswersReplays handler := by
  refine ⟨by decide +kernel, by decide +kernel, requests_dispatched_once ?_⟩
  intro connection deviceId hmem
  simp only [replayedRequest, List.mem_cons, Event.accept.injEq, reduceCtorEq, List.not_mem_nil, or_false,
    false_or] at hmem
  rcases hmem with ⟨-, rfl⟩ | ⟨-, rfl⟩ <;> decide

end pipane.backend_protocol_handler

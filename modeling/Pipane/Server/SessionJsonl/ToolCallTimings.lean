import Pipane.Lib.JsObject

open javascript json js_object

namespace pipane.session_jsonl

/-- The `timestamp` of a message: missing or no number, a number that is not finite, or a finite one. -/
inductive Timestamp
  | missing
  | notFinite
  | finite (n : Number)

inductive ContentPart
  | toolCall (id : JsString)
  | other

inductive AgentMessage
  | assistant (timestamp : Timestamp) (content : List ContentPart)
  | toolResult (timestamp : Timestamp) (toolCallId : JsString)
  | other (timestamp : Timestamp)

def AgentMessage.timestamp : AgentMessage → Timestamp
  | .assistant timestamp _ => timestamp
  | .toolResult timestamp _ => timestamp
  | .other timestamp => timestamp

/-- A display entry: a message with the timestamp of its entry, or one of another type. -/
inductive DisplayEntry
  | message (timestamp : JsString) (message : AgentMessage)
  | other

def messageTimestamp (message : AgentMessage) : Option Number :=
  match message.timestamp with
  | .finite n => some n
  | _ => none

def STARTED_AT : JsString := js "startedAt"

def COMPLETED_AT : JsString := js "completedAt"

/-- `timings[id] ??= { startedAt }` -/
def startTiming (heap : Heap) (timings : Ref) (id : JsString) (startedAt : Number) : Option Heap :=
  if (heap.get timings id).isNullish then
    let entry : JsObject :=
      { own := (∅ : OrderedMap JsString Property).set STARTED_AT (.data (.num startedAt)), proto := some OBJECT_PROTOTYPE }
    let (heap, entry) := heap.create entry
    heap.set timings id (.ref entry)
  else some heap

/-- `if (timing) timing.completedAt = completedAt` of `timings[id]` -/
def endTiming (heap : Heap) (timings : Ref) (id : JsString) (completedAt : Number) : Option Heap :=
  let timing := heap.get timings id
  if timing.isTruthy then heap.setMember timing COMPLETED_AT (.num completedAt) else some heap

def startTimings (heap : Heap) (timings : Ref) (startedAt : Number) (content : List ContentPart) : Option Heap :=
  content.foldlM (fun heap part =>
    match part with
    | .toolCall id => startTiming heap timings id startedAt
    | .other => some heap) heap

/-- `{}` -/
def createTimings (heap : Heap) : Heap × Ref :=
  heap.create { proto := some OBJECT_PROTOTYPE }

/-- The heap at the end, with the map that is returned; `none` is a thrown `TypeError`. -/
def inferToolCallTimings (heap : Heap) (messages : List AgentMessage) : Option (Heap × Ref) :=
  let (heap, timings) := createTimings heap
  let visit (heap : Heap) (message : AgentMessage) : Option Heap :=
    match message with
    | .assistant _ content =>
      match messageTimestamp message with
      | none => some heap
      | some startedAt => startTimings heap timings startedAt content
    | .toolResult _ toolCallId =>
      match messageTimestamp message with
      | none => some heap
      | some completedAt => endTiming heap timings toolCallId completedAt
    | .other _ => some heap
  (messages.foldlM visit heap).map fun heap => (heap, timings)

/-- The same of the entries as `buildSessionDisplayEntries` orders them; `dateTime` is `new Date(text).getTime()`, `none`
    where that is not a number. -/
def buildSessionToolCallTimings (dateTime : JsString → Option Number) (heap : Heap) (entries : List DisplayEntry) :
    Option (Heap × Ref) :=
  let (heap, timings) := createTimings heap
  let visit (heap : Heap) (entry : DisplayEntry) : Option Heap :=
    match entry with
    | .other => some heap
    | .message entryTimestamp message =>
      match (dateTime entryTimestamp).or (messageTimestamp message) with
      | none => some heap
      | some timestamp =>
        match message with
        | .assistant _ content => startTimings heap timings timestamp content
        | .toolResult _ toolCallId => endTiming heap timings toolCallId timestamp
        | .other _ => some heap
  (entries.foldlM visit heap).map fun heap => (heap, timings)

/-! What the map should hold. -/

/-- A tool call or the end of one, at a finite time. -/
inductive ToolEvent
  | called (id : JsString) (time : Number)
  | returned (id : JsString) (time : Number)

def ToolEvent.id : ToolEvent → JsString
  | .called id _ => id
  | .returned id _ => id

def toolEvents (timestamp : Option Number) (message : AgentMessage) : List ToolEvent :=
  match timestamp, message with
  | some time, .assistant _ content =>
    content.filterMap fun part =>
      match part with
      | .toolCall id => some (.called id time)
      | .other => none
  | some time, .toolResult _ id => [.returned id time]
  | _, _ => []

/-- The events of messages at their own timestamps. -/
def messageEvents (messages : List AgentMessage) : List ToolEvent :=
  messages.flatMap fun message => toolEvents (messageTimestamp message) message

/-- The events of entries at the timestamps of the entries, or else at those of their messages. -/
def entryEvents (dateTime : JsString → Option Number) (entries : List DisplayEntry) : List ToolEvent :=
  entries.flatMap fun entry =>
    match entry with
    | .message timestamp message => toolEvents ((dateTime timestamp).or (messageTimestamp message)) message
    | .other => []

structure ToolCallTiming where
  startedAt : Number
  completedAt : Option Number := none

/-- The first call under an id, and what happens after it. -/
def firstCall? (id : JsString) : List ToolEvent → Option (Number × List ToolEvent)
  | [] => none
  | .called other time :: later => if other = id then some (time, later) else firstCall? id later
  | .returned _ _ :: later => firstCall? id later

def returnedAt? (id : JsString) : ToolEvent → Option Number
  | .called _ _ => none
  | .returned other time => if other = id then some time else none

/-- When the first call under an id began, and when the last result for it after that came. -/
def timing? (id : JsString) (events : List ToolEvent) : Option ToolCallTiming :=
  (firstCall? id events).map fun call => ⟨call.1, (call.2.filterMap (returnedAt? id)).getLast?⟩

/-- An entry has a timing for its own properties. -/
structure IsEntry (entry : JsObject) (timing : ToolCallTiming) : Prop where
  startedAt : entry.own.get? STARTED_AT = some (.data (.num timing.startedAt))
  completedAt : entry.own.get? COMPLETED_AT = timing.completedAt.map fun time => .data (.num time)
  nothingElse : ∀ key, key ≠ STARTED_AT → key ≠ COMPLETED_AT → entry.own.get? key = none

/-- The own property of the map under an id is the timing, if there is one, in an entry of its own. -/
def Shows (heap : Heap) (own : OrderedMap JsString Property) (id : JsString) : Option ToolCallTiming → Prop
  | none => own.get? id = none
  | some timing => ∃ ref entry, own.get? id = some (.data (.ref ref)) ∧ heap.objects.get? ref = some entry ∧
      IsEntry entry timing

/-- The map has exactly the timings of the events, and nothing that the program had before was written to. -/
structure Recorded (before : Heap) (events : List ToolEvent) (heap : Heap) (timings : Ref) : Prop where
  shows : ∃ map, heap.objects.get? timings = some map ∧ ∀ id, Shows heap map.own id (timing? id events)
  fresh : ∃ writes, heap.writes = before.writes ++ writes ∧ ∀ write ∈ writes, before.allocated ≤ write.target

/-- A run that returns such a map. -/
def Records (before : Heap) (events : List ToolEvent) (result : Option (Heap × Ref)) : Prop :=
  ∃ heap timings, result = some (heap, timings) ∧ Recorded before events heap timings

/-! What one event adds. -/

theorem firstCall?_append (id : JsString) (events later : List ToolEvent) :
    firstCall? id (events ++ later) =
      ((firstCall? id events).map fun call => (call.1, call.2 ++ later)).or (firstCall? id later) := by
  induction events with
  | nil => rfl
  | cons event events ih =>
    cases event with
    | called other time =>
      rw [List.cons_append, firstCall?, firstCall?]
      split
      · rfl
      · exact ih
    | returned other time => exact ih

theorem timing?_append_called (id other : JsString) (events : List ToolEvent) (time : Number) :
    timing? id (events ++ [.called other time]) =
      (timing? id events).or (if other = id then some ⟨time, none⟩ else none) := by
  rw [timing?, timing?, firstCall?_append]
  cases firstCall? id events with
  | none =>
    rw [firstCall?]
    split <;> rfl
  | some call =>
    change some (ToolCallTiming.mk call.1 ((call.2 ++ [ToolEvent.called other time]).filterMap (returnedAt? id)).getLast?) = _
    rw [List.filterMap_append]
    change some (ToolCallTiming.mk call.1 (call.2.filterMap (returnedAt? id) ++ []).getLast?) = _
    rw [List.append_nil]
    rfl

theorem timing?_append_returned (id other : JsString) (events : List ToolEvent) (time : Number) :
    timing? id (events ++ [.returned other time]) =
      (timing? id events).map fun timing => if other = id then { timing with completedAt := some time } else timing := by
  rw [timing?, timing?, firstCall?_append]
  cases firstCall? id events with
  | none => rfl
  | some call =>
    change some (ToolCallTiming.mk call.1 ((call.2 ++ [ToolEvent.returned other time]).filterMap (returnedAt? id)).getLast?) =
      some (if other = id then ToolCallTiming.mk call.1 (some time)
        else ToolCallTiming.mk call.1 (call.2.filterMap (returnedAt? id)).getLast?)
    rw [List.filterMap_append, List.filterMap_cons, returnedAt?, List.filterMap_nil]
    by_cases h : other = id
    · rw [if_pos h, if_pos h]
      exact congrArg (fun last => some (ToolCallTiming.mk call.1 last)) List.getLast?_concat
    · rw [if_neg h, if_neg h]
      exact congrArg (fun times => some (ToolCallTiming.mk call.1 (List.getLast? times))) (List.append_nil _)

/-! The loop. -/

def record (heap : Heap) (timings : Ref) : ToolEvent → Option Heap
  | .called id time => startTiming heap timings id time
  | .returned id time => endTiming heap timings id time

theorem startTimings_eq (heap : Heap) (timings : Ref) (time : Number) (content : List ContentPart)
    (timestamp : Timestamp) :
    startTimings heap timings time content =
      (toolEvents (some time) (.assistant timestamp content)).foldlM (fun heap event => record heap timings event) heap := by
  induction content generalizing heap with
  | nil => rfl
  | cons part content ih =>
    cases part with
    | toolCall id =>
      change (startTiming heap timings id time).bind (fun heap => startTimings heap timings time content) =
        (startTiming heap timings id time).bind fun heap =>
          (toolEvents (some time) (.assistant timestamp content)).foldlM (fun heap event => record heap timings event) heap
      exact congrArg _ (funext ih)
    | other => exact ih heap

theorem foldlM_flatMap {α β σ : Type} {f : σ → β → Option σ} {g : α → List β} (l : List α) (s : σ) :
    (l.flatMap g).foldlM f s = l.foldlM (fun s x => (g x).foldlM f s) s := by
  induction l generalizing s with
  | nil => rfl
  | cons x l ih =>
    rw [List.flatMap_cons, List.foldlM_append, List.foldlM_cons]
    exact congrArg _ (funext ih)

/-- The loop over the events with what it begins and ends with. -/
def recordAll (heap : Heap) (events : List ToolEvent) : Option (Heap × Ref) :=
  let (heap, timings) := createTimings heap
  (events.foldlM (fun heap event => record heap timings event) heap).map fun heap => (heap, timings)

theorem inferToolCallTimings_eq (heap : Heap) (messages : List AgentMessage) :
    inferToolCallTimings heap messages = recordAll heap (messageEvents messages) := by
  rw [inferToolCallTimings, recordAll, messageEvents]
  dsimp only
  rw [foldlM_flatMap]
  refine congrArg (fun visit : Heap → AgentMessage → Option Heap =>
    (messages.foldlM visit (createTimings heap).1).map fun heap' => (heap', (createTimings heap).2)) ?_
  funext heap' message
  cases message with
  | assistant timestamp content =>
    dsimp only
    cases messageTimestamp (.assistant timestamp content) with
    | none => rfl
    | some time => exact startTimings_eq _ _ _ _ _
  | toolResult timestamp id =>
    dsimp only
    cases messageTimestamp (.toolResult timestamp id) with
    | none => rfl
    | some time => exact (bind_pure _).symm
  | other timestamp =>
    dsimp only
    cases messageTimestamp (.other timestamp) <;> rfl

theorem buildSessionToolCallTimings_eq (dateTime : JsString → Option Number) (heap : Heap)
    (entries : List DisplayEntry) :
    buildSessionToolCallTimings dateTime heap entries = recordAll heap (entryEvents dateTime entries) := by
  rw [buildSessionToolCallTimings, recordAll, entryEvents]
  dsimp only
  rw [foldlM_flatMap]
  refine congrArg (fun visit : Heap → DisplayEntry → Option Heap =>
    (entries.foldlM visit (createTimings heap).1).map fun heap' => (heap', (createTimings heap).2)) ?_
  funext heap' entry
  cases entry with
  | other => rfl
  | message timestamp message =>
    dsimp only
    cases (dateTime timestamp).or (messageTimestamp message) with
    | none => rfl
    | some time =>
      cases message with
      | assistant _ content => exact startTimings_eq _ _ _ _ _
      | toolResult _ id => exact (bind_pure _).symm
      | other _ => rfl

end pipane.session_jsonl

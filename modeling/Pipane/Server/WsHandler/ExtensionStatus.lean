import Mathlib.Logic.Function.Basic
import Pipane.Lib.JsString
import Pipane.Lib.OrderedMap
import Pipane.Lib.Transition

open javascript transition

namespace pipane.extension_status

def MAX_STATUS_KEY_LENGTH : Nat := 128

def MAX_STATUS_TEXT_LENGTH : Nat := 512

/-- A unit of `KEY_CONTROL_CHARACTER`. -/
def isKeyControlCharacter (u : UInt16) : Bool :=
  u.toNat ≤ 0x1F || (0x7F ≤ u.toNat && u.toNat ≤ 0x9F)

/-- A unit of `CONTROL_CHARACTERS`, which leaves tabs and line ends. -/
def isControlCharacter (u : UInt16) : Bool :=
  isKeyControlCharacter u && !(u == 0x09 || u == 0x0A || u == 0x0D)

/-- A unit that `\s` matches and `trim` removes. -/
def isSpace (u : UInt16) : Bool :=
  (0x09 ≤ u.toNat && u.toNat ≤ 0x0D) || u == 0x20 || u == 0xA0 || u == 0x1680 ||
    (0x2000 ≤ u.toNat && u.toNat ≤ 0x200A) || u == 0x2028 || u == 0x2029 || u == 0x202F || u == 0x205F ||
    u == 0x3000 || u == 0xFEFF

def isValidExtensionStatusKey (value : JsString) : Bool :=
  0 < value.length && value.length ≤ MAX_STATUS_KEY_LENGTH && !value.any isKeyControlCharacter

/-- `replace`, with a space for every run of at least so many units; the first argument is the run so far. -/
def replaceRuns (isMatch : UInt16 → Bool) (least : Nat) (run : JsString) : JsString → JsString
  | [] => if least ≤ run.length then [0x20] else run
  | u :: rest =>
    if isMatch u then replaceRuns isMatch least (run ++ [u]) rest
    else (if least ≤ run.length then [0x20] else run) ++ u :: replaceRuns isMatch least [] rest

def trim (value : JsString) : JsString :=
  ((value.dropWhile isSpace).reverse.dropWhile isSpace).reverse

/-- The function that removes terminal sequences comes from the platform. -/
def normalizeExtensionStatusText (stripVTControlCharacters : JsString → JsString) (value : JsString) : JsString :=
  let spaced := replaceRuns (fun u => u == 0x0D || u == 0x0A || u == 0x09) 1 [] (stripVTControlCharacters value)
  let printable := spaced.filter fun u => !isControlCharacter u
  (trim (replaceRuns isSpace 2 [] printable)).take MAX_STATUS_TEXT_LENGTH

end pipane.extension_status

namespace pipane.ws_handler.extension_ui

open extension_status

/-- A `setStatus` event, and the session to which the process was bound when it emitted it: that of its last successful
    `new_session` or `switch_session`. -/
structure StatusEvent where
  process : Nat
  statusKey : JsString
  statusText : Option JsString
  session : Option JsString
deriving DecidableEq

/-- A map of statuses. No handler reads the events that were recorded in it. -/
structure Statuses where
  texts : OrderedMap JsString JsString
  sources : List StatusEvent

def Statuses.empty : Statuses where
  texts := ∅
  sources := []

structure ExtensionUiRoute where
  sessionPath : JsString
  persistent : Bool

/-- How a handler replaces the session of a process that it has leased: `acquireForActor`, `handlePrompt` of a new
    session, and `handleForkPrompt`. -/
inductive Replacement
  | acquire (sessionPath : JsString)
  | create
  | fork (sessionPath : JsString)

/-- The session that Pi opens; where it creates one, it chooses the path. -/
def Replacement.opened (created : JsString) : Replacement → JsString
  | .acquire sessionPath | .fork sessionPath => sessionPath
  | .create => created

/-- How far the handler that has leased a process has got: the request is sent, it was answered with success, or the
    actor of the session has the lease. -/
inductive Stage
  | idle
  | replacing (replacement : Replacement)
  | replaced (sessionPath : JsString)
  | attached (sessionPath : JsString)

/-- The stage once Pi has opened a session for a request, given those that it has not read yet. The answer to the last
    request is what a handler waits for. -/
def stageAfter (stage : Stage) (requests : List Replacement) (session : JsString) : Stage :=
  match stage, requests with
  | .replacing _, [] => .replaced session
  | stage, _ => stage

/-- A process, with the requests that Pi has read nothing of yet. Only the last of them may still be waited for. -/
structure Process where
  isAlive : Bool
  session : Option JsString
  requests : List Replacement
  stage : Stage

/-- The parts of `WsHandler` and its processes that decide where a status goes. -/
structure ExtensionUi where
  processes : Nat → Process
  extensionStatusesBySession : OrderedMap JsString Statuses
  pendingExtensionStatuses : Nat → Option Statuses
  extensionUiRoutes : Nat → Option ExtensionUiRoute

namespace ExtensionUi

def start : ExtensionUi where
  processes _ := { isAlive := true, session := none, requests := [], stage := .idle }
  extensionStatusesBySession := ∅
  pendingExtensionStatuses _ := none
  extensionUiRoutes _ := none

def setProcess (self : ExtensionUi) (proc : Nat) (process : Process) : ExtensionUi :=
  { self with processes := Function.update self.processes proc process }

def setStatuses (self : ExtensionUi) (sessionPath : JsString) (statuses : Statuses) : ExtensionUi :=
  { self with extensionStatusesBySession := self.extensionStatusesBySession.set sessionPath statuses }

def setPending (self : ExtensionUi) (proc : Nat) (pending : Option Statuses) : ExtensionUi :=
  { self with pendingExtensionStatuses := Function.update self.pendingExtensionStatuses proc pending }

def setRoute (self : ExtensionUi) (proc : Nat) (route : Option ExtensionUiRoute) : ExtensionUi :=
  { self with extensionUiRoutes := Function.update self.extensionUiRoutes proc route }

/-- `registry.getActorForProcess(proc)?.sessionPath` -/
def actorSessionPath (self : ExtensionUi) (proc : Nat) : Option JsString :=
  match (self.processes proc).stage with
  | .attached sessionPath => some sessionPath
  | .idle | .replacing _ | .replaced _ => none

/-- The session under which an event of a process is recorded. -/
def statusSessionPath (self : ExtensionUi) (proc : Nat) : Option JsString :=
  match self.actorSessionPath proc with
  | some sessionPath => some sessionPath
  | none => (self.extensionUiRoutes proc).bind fun route => if route.persistent then some route.sessionPath else none

end ExtensionUi

/-- An event in a map of statuses. -/
def Statuses.record (stripVTControlCharacters : JsString → JsString) (self : Statuses) (event : StatusEvent) :
    Statuses where
  texts :=
    match event.statusText with
    | none => self.texts.erase event.statusKey
    | some statusText =>
      let normalized := normalizeExtensionStatusText stripVTControlCharacters statusText
      if normalized ≠ [] then self.texts.set event.statusKey normalized else self.texts.erase event.statusKey
  sources := self.sources ++ [event]

namespace ExtensionUi

/-- `handleProcessEvent` of a `setStatus` event. The empty path is none. -/
def handleProcessEvent (stripVTControlCharacters : JsString → JsString) (self : ExtensionUi) (event : StatusEvent) :
    ExtensionUi :=
  if ¬ isValidExtensionStatusKey event.statusKey then self
  else
    match (self.statusSessionPath event.process).filter (· ≠ []) with
    | some sessionPath =>
      let statuses := (self.extensionStatusesBySession.get? sessionPath).getD .empty
      self.setStatuses sessionPath (statuses.record stripVTControlCharacters event)
    | none =>
      match self.pendingExtensionStatuses event.process with
      | none => self
      | some pending => self.setPending event.process (some (pending.record stripVTControlCharacters event))

def beginPendingExtensionStatusCapture (self : ExtensionUi) (proc : Nat) (sessionPath : Option JsString) :
    ExtensionUi :=
  let existing := sessionPath.bind self.extensionStatusesBySession.get?
  self.setPending proc (some (existing.getD .empty))

def commitPendingExtensionStatuses (self : ExtensionUi) (proc : Nat) (sessionPath : JsString) : ExtensionUi :=
  let committed := self.setPending proc none
  match self.pendingExtensionStatuses proc with
  | some pending => committed.setStatuses sessionPath pending
  | none =>
    if self.extensionStatusesBySession.contains sessionPath then committed
    else committed.setStatuses sessionPath .empty

/-- The session whose statuses a capture starts from: `acquireForActor` alone names one. -/
def captured : Replacement → Option JsString
  | .acquire sessionPath => some sessionPath
  | .create | .fork _ => none

/-- A handler that has leased a process starts the capture and calls `replacePiSession`. -/
def replacePiSession (self : ExtensionUi) (proc : Nat) (replacement : Replacement) : ExtensionUi :=
  let process := self.processes proc
  ((self.beginPendingExtensionStatusCapture proc (captured replacement)).setRoute proc none).setProcess proc
    { process with requests := process.requests ++ [replacement], stage := .replacing replacement }

/-- Pi carries out the oldest request or refuses it. -/
def perform (self : ExtensionUi) (proc : Nat) (succeeds : Bool) (created : JsString) : ExtensionUi :=
  let process := self.processes proc
  match process.requests with
  | [] => self
  | replacement :: requests =>
    if ¬ succeeds then self.setProcess proc { process with requests }
    else
      let session := replacement.opened created
      self.setProcess proc { process with
        requests
        session := some session
        stage := stageAfter process.stage requests session }

/-- The actor takes over the lease, and the capture is committed. -/
def attach (self : ExtensionUi) (proc : Nat) (sessionPath : JsString) : ExtensionUi :=
  (self.setProcess proc { self.processes proc with stage := .attached sessionPath }).commitPendingExtensionStatuses proc
    sessionPath

/-- A handler gives a process back: on an error path, or `releaseActor`. -/
def giveBack (self : ExtensionUi) (proc : Nat) : ExtensionUi :=
  (self.setPending proc none).setProcess proc { self.processes proc with stage := .idle }

/-- `handleProcessExit` before it enters the mailbox of the actor. -/
def handleProcessExit (self : ExtensionUi) (proc : Nat) : ExtensionUi :=
  ((self.setPending proc none).setRoute proc none).setProcess proc
    { self.processes proc with isAlive := false, requests := [] }

end ExtensionUi

/-- What can happen next. `abandon` stands for every error path from the request on, a request that was not answered in
    time included, `persist` for the assignment of `persistent` in `handlePrompt`, `discard` for a new session that was
    not created, and `dropPending` for an error path that only ends the capture. -/
inductive Event
  | setStatus (proc : Nat) (statusKey : JsString) (statusText : Option JsString)
  | replacePiSession (proc : Nat) (replacement : Replacement)
  | perform (proc : Nat) (succeeds : Bool) (created : JsString)
  | attach (proc : Nat)
  | abandon (proc : Nat)
  | route (proc : Nat) (persistent : Bool)
  | persist (proc : Nat) (persistent : Bool)
  | release (proc : Nat)
  | discard (sessionPath : JsString)
  | dropPending (proc : Nat)
  | exit (proc : Nat)

/-- One step. What the state does not allow changes nothing: a process is leased to one handler at a time. -/
def step (stripVTControlCharacters : JsString → JsString) (self : ExtensionUi) : Event → ExtensionUi
  | .setStatus proc statusKey statusText =>
    if (self.processes proc).isAlive then
      self.handleProcessEvent stripVTControlCharacters
        { process := proc, statusKey, statusText, session := (self.processes proc).session }
    else self
  | .replacePiSession proc replacement =>
    match (self.processes proc).stage with
    | .idle => if (self.processes proc).isAlive then self.replacePiSession proc replacement else self
    | .replacing _ | .replaced _ | .attached _ => self
  | .perform proc succeeds created => self.perform proc succeeds created
  | .attach proc =>
    match (self.processes proc).stage with
    | .replaced sessionPath => self.attach proc sessionPath
    | .idle | .replacing _ | .attached _ => self
  | .abandon proc =>
    match (self.processes proc).stage with
    | .replacing _ | .replaced _ => self.giveBack proc
    | .idle | .attached _ => self
  | .route proc persistent =>
    match (self.processes proc).stage with
    | .attached sessionPath => self.setRoute proc (some { sessionPath, persistent })
    | .idle | .replacing _ | .replaced _ => self
  | .persist proc persistent =>
    match (self.processes proc).stage with
    | .attached _ => self.setRoute proc ((self.extensionUiRoutes proc).map ({ · with persistent }))
    | .idle | .replacing _ | .replaced _ => self
  | .release proc =>
    match (self.processes proc).stage with
    | .attached _ => self.giveBack proc
    | .idle | .replacing _ | .replaced _ => self
  | .discard sessionPath =>
    { self with extensionStatusesBySession := self.extensionStatusesBySession.erase sessionPath }
  | .dropPending proc => self.setPending proc none
  | .exit proc => self.handleProcessExit proc

/-- A status is recorded under the session to which its process was bound, or nowhere. -/
def Isolated (self : ExtensionUi) : Prop :=
  ∀ sessionPath statuses, self.extensionStatusesBySession.get? sessionPath = some statuses →
    ∀ event ∈ statuses.sources, event.session = some sessionPath

/-- A process does not emit a status that is captured for a session that Pi has not opened yet, unless it is bound to
    that very session. -/
def Timely (self : ExtensionUi) : Event → Prop
  | .setStatus proc _ _ =>
    self.pendingExtensionStatuses proc ≠ none → ∀ replacement, (self.processes proc).stage = .replacing replacement →
      ∃ sessionPath, (self.processes proc).session = some sessionPath ∧
        ∀ created, replacement.opened created = sessionPath
  | _ => True

/-- What was captured since the request for a process was sent belongs to the session that Pi opens, and what the
    process is bound to is what its handler and its route say. -/
structure Tracked (process : Process) (pending : Option Statuses) (route : Option ExtensionUiRoute) : Prop where
  uncaptured : process.stage = .idle ∨ (∃ sessionPath, process.stage = .attached sessionPath) → pending = none
  capturing : ∀ replacement, process.stage = .replacing replacement → ∀ statuses, pending = some statuses →
    ∀ event ∈ statuses.sources, ∀ created, event.session = some (replacement.opened created)
  captured : ∀ sessionPath, process.stage = .replaced sessionPath → ∀ statuses, pending = some statuses →
    ∀ event ∈ statuses.sources, event.session = some sessionPath
  waiting : ∀ replacement, process.stage = .replacing replacement →
    process.requests = [] ∨ ∃ earlier, process.requests = earlier ++ [replacement]
  bound : ∀ sessionPath, process.stage = .replaced sessionPath ∨ process.stage = .attached sessionPath →
    process.requests = [] ∧ process.session = some sessionPath
  routed : ∀ entry, route = some entry → process.requests = [] ∧ process.session = some entry.sessionPath

/-- The invariant of the handlers. -/
structure Attributed (ui : ExtensionUi) : Prop where
  isolated : Isolated ui
  tracked : ∀ proc, Tracked (ui.processes proc) (ui.pendingExtensionStatuses proc) (ui.extensionUiRoutes proc)

theorem attributed_start : Attributed .start where
  isolated sessionPath statuses h := by cases h
  tracked _ := by
    refine ⟨fun _ => rfl, ?_, ?_, ?_, ?_, ?_⟩
    · intro replacement h
      cases h
    · intro sessionPath h
      cases h
    · intro replacement h
      cases h
    · intro sessionPath h
      obtain h | h := h
      · cases h
      · cases h
    · intro entry h
      cases h

section

variable {self next : ExtensionUi} {proc : Nat}

theorem Attributed.of_tracked (proc : Nat) (h : Attributed self) (hisolated : Isolated next)
    (hothers : ∀ other ≠ proc, next.processes other = self.processes other ∧
      next.pendingExtensionStatuses other = self.pendingExtensionStatuses other ∧
      next.extensionUiRoutes other = self.extensionUiRoutes other)
    (htracked : Tracked (next.processes proc) (next.pendingExtensionStatuses proc) (next.extensionUiRoutes proc)) :
    Attributed next := by
  refine ⟨hisolated, fun other => ?_⟩
  by_cases hsame : other = proc
  · rw [hsame]
    exact htracked
  · obtain ⟨hprocess, hpending, hroute⟩ := hothers other hsame
    rw [hprocess, hpending, hroute]
    exact h.tracked other

theorem Isolated.setStatuses (h : Isolated self) {sessionPath : JsString} {statuses : Statuses}
    (hsources : ∀ event ∈ statuses.sources, event.session = some sessionPath) :
    Isolated (self.setStatuses sessionPath statuses) := by
  intro other recorded hrecorded
  rw [ExtensionUi.setStatuses, OrderedMap.get?_set] at hrecorded
  split at hrecorded
  · rename_i hsame
    cases hrecorded
    rw [hsame]
    exact hsources
  · exact h other recorded hrecorded

theorem Attributed.statusSessionPath (h : Attributed self) {sessionPath : JsString}
    (hpath : self.statusSessionPath proc = some sessionPath) :
    (self.processes proc).session = some sessionPath := by
  have htracked := h.tracked proc
  rw [ExtensionUi.statusSessionPath, ExtensionUi.actorSessionPath] at hpath
  cases hstage : (self.processes proc).stage with
  | attached attachedPath =>
    rw [hstage] at hpath
    cases hpath
    exact (htracked.bound _ (.inr hstage)).2
  | idle | replacing replacement | replaced replacedPath =>
    rw [hstage] at hpath
    obtain ⟨route, hroute, hpersistent⟩ := Option.bind_eq_some_iff.mp hpath
    split at hpersistent
    · cases hpersistent
      exact (htracked.routed route hroute).2
    · cases hpersistent

theorem Isolated.sources (h : Isolated self) (sessionPath : JsString) :
    ∀ event ∈ ((self.extensionStatusesBySession.get? sessionPath).getD .empty).sources,
      event.session = some sessionPath := by
  intro event hevent
  cases hget : self.extensionStatusesBySession.get? sessionPath with
  | none =>
    rw [hget] at hevent
    cases hevent
  | some statuses =>
    rw [hget] at hevent
    exact h sessionPath statuses hget event hevent

theorem mem_sources_record {stripVTControlCharacters : JsString → JsString} {statuses : Statuses}
    {event other : StatusEvent} (h : other ∈ (statuses.record stripVTControlCharacters event).sources) :
    other ∈ statuses.sources ∨ other = event := by
  obtain hold | hnew := List.mem_append.mp h
  · exact .inl hold
  · exact .inr (List.mem_singleton.mp hnew)

end

section

variable {process : Process} {pending : Option Statuses} {route : Option ExtensionUiRoute}

theorem Tracked.record (h : Tracked process pending route) (stripVTControlCharacters : JsString → JsString)
    {statuses : Statuses} (hpending : pending = some statuses) {event : StatusEvent}
    (hsession : event.session = process.session)
    (htimely : ∀ replacement, process.stage = .replacing replacement →
      ∃ sessionPath, process.session = some sessionPath ∧ ∀ created, replacement.opened created = sessionPath) :
    Tracked process (some (statuses.record stripVTControlCharacters event)) route where
  uncaptured hstage := by
    have hnone := h.uncaptured hstage
    rw [hpending] at hnone
    cases hnone
  capturing replacement hstage recorded hrecorded other hother created := by
    cases hrecorded
    obtain hold | rfl := mem_sources_record hother
    · exact h.capturing replacement hstage statuses hpending other hold created
    · obtain ⟨sessionPath, hbound, hopened⟩ := htimely replacement hstage
      rw [hsession, hbound, hopened]
  captured sessionPath hstage recorded hrecorded other hother := by
    cases hrecorded
    obtain hold | rfl := mem_sources_record hother
    · exact h.captured sessionPath hstage statuses hpending other hold
    · rw [hsession]
      exact (h.bound sessionPath (.inl hstage)).2
  waiting := h.waiting
  bound := h.bound
  routed := h.routed

theorem Tracked.dropPending (h : Tracked process pending route) : Tracked process none route where
  uncaptured _ := rfl
  capturing _ _ _ hnone := by cases hnone
  captured _ _ _ hnone := by cases hnone
  waiting := h.waiting
  bound := h.bound
  routed := h.routed

theorem Tracked.giveBack (h : Tracked process pending route) : Tracked { process with stage := .idle } none route where
  uncaptured _ := rfl
  capturing _ hstage := by cases hstage
  captured _ hstage := by cases hstage
  waiting _ hstage := by cases hstage
  bound _ hstage := by
    obtain hstage | hstage := hstage
    · cases hstage
    · cases hstage
  routed := h.routed

theorem Tracked.attach (h : Tracked process pending route) {sessionPath : JsString}
    (hstage : process.stage = .replaced sessionPath) :
    Tracked { process with stage := .attached sessionPath } none route where
  uncaptured _ := rfl
  capturing _ hstage := by cases hstage
  captured _ hstage := by cases hstage
  waiting _ hstage := by cases hstage
  bound other hother := by
    obtain hother | hother := hother
    · cases hother
    · cases hother
      exact h.bound sessionPath (.inl hstage)
  routed := h.routed

theorem Tracked.setRoute (h : Tracked process pending route) {sessionPath : JsString}
    (hstage : process.stage = .attached sessionPath) {next : Option ExtensionUiRoute}
    (hnext : ∀ entry ∈ next, entry.sessionPath = sessionPath ∨ ∃ old ∈ route, entry.sessionPath = old.sessionPath) :
    Tracked process pending next where
  uncaptured := h.uncaptured
  capturing := h.capturing
  captured := h.captured
  waiting := h.waiting
  bound := h.bound
  routed entry hentry := by
    obtain hsame | ⟨old, hold, hsame⟩ := hnext entry hentry
    · rw [hsame]
      exact h.bound sessionPath (.inr hstage)
    · rw [hsame]
      exact h.routed old hold

theorem Tracked.exit (h : Tracked process pending route) :
    Tracked { process with isAlive := false, requests := [] } none none where
  uncaptured _ := rfl
  capturing _ _ _ hnone := by cases hnone
  captured _ _ _ hnone := by cases hnone
  waiting _ _ := .inl rfl
  bound sessionPath hstage := ⟨rfl, (h.bound sessionPath hstage).2⟩
  routed _ hnone := by cases hnone

theorem Tracked.replacePiSession (process : Process) {replacement : Replacement} {statuses : Statuses}
    (hsources : ∀ event ∈ statuses.sources, ∀ created, event.session = some (replacement.opened created)) :
    Tracked { process with requests := process.requests ++ [replacement], stage := .replacing replacement }
      (some statuses) none where
  uncaptured hstage := by
    obtain hstage | ⟨sessionPath, hstage⟩ := hstage
    · cases hstage
    · cases hstage
  capturing other hother captured hcaptured := by
    cases hother
    cases hcaptured
    exact hsources
  captured _ hstage := by cases hstage
  waiting other hother := by
    cases hother
    exact .inr ⟨process.requests, rfl⟩
  bound _ hstage := by
    obtain hstage | hstage := hstage
    · cases hstage
    · cases hstage
  routed _ hnone := by cases hnone

theorem Tracked.requested (h : Tracked process pending route) {replacement : Replacement}
    {requests : List Replacement} (hrequests : process.requests = replacement :: requests) :
    route = none ∧ ∀ sessionPath, process.stage ≠ .replaced sessionPath ∧ process.stage ≠ .attached sessionPath := by
  have hsome : process.requests ≠ [] := by
    rw [hrequests]
    exact List.cons_ne_nil _ _
  refine ⟨Option.eq_none_iff_forall_ne_some.mpr fun entry hentry => hsome (h.routed entry hentry).1, ?_⟩
  intro sessionPath
  exact ⟨fun hstage => hsome (h.bound sessionPath (.inl hstage)).1,
    fun hstage => hsome (h.bound sessionPath (.inr hstage)).1⟩

theorem Tracked.awaited (h : Tracked process pending route) {replacement other : Replacement}
    {requests : List Replacement} (hrequests : process.requests = replacement :: requests)
    (hstage : process.stage = .replacing other) :
    requests = [] ∧ replacement = other ∨ ∃ earlier, requests = earlier ++ [other] := by
  obtain hnone | ⟨earlier, hearlier⟩ := h.waiting other hstage
  · rw [hrequests] at hnone
    cases hnone
  · rw [hrequests] at hearlier
    cases earlier with
    | nil =>
      cases hearlier
      exact .inl ⟨rfl, rfl⟩
    | cons first earlier =>
      cases hearlier
      exact .inr ⟨earlier, rfl⟩

theorem Tracked.refuse (h : Tracked process pending route) {replacement : Replacement} {requests : List Replacement}
    (hrequests : process.requests = replacement :: requests) :
    Tracked { process with requests } pending route where
  uncaptured := h.uncaptured
  capturing := h.capturing
  captured := h.captured
  waiting other hstage := by
    obtain ⟨hnone, -⟩ | hearlier := h.awaited hrequests hstage
    · exact .inl hnone
    · exact .inr hearlier
  bound sessionPath hstage := by
    obtain ⟨-, hunbound⟩ := h.requested hrequests
    obtain hstage | hstage := hstage
    · exact absurd hstage (hunbound sessionPath).1
    · exact absurd hstage (hunbound sessionPath).2
  routed entry hentry := by
    rw [(h.requested hrequests).1] at hentry
    cases hentry

end

theorem Tracked.perform {process : Process} {pending : Option Statuses} {route : Option ExtensionUiRoute}
    (h : Tracked process pending route) {replacement : Replacement} {requests : List Replacement} (created : JsString)
    (hrequests : process.requests = replacement :: requests) :
    Tracked { process with
      requests
      session := some (replacement.opened created)
      stage := stageAfter process.stage requests (replacement.opened created) } pending route := by
  obtain ⟨rfl, hunbound⟩ := h.requested hrequests
  cases hstage : process.stage with
  | idle =>
    refine ⟨fun _ => h.uncaptured (.inl hstage), ?_, ?_, ?_, ?_, ?_⟩
    · intro other hother
      cases hother
    · intro sessionPath hother
      cases hother
    · intro other hother
      cases hother
    · intro sessionPath hother
      obtain hother | hother := hother
      · cases hother
      · cases hother
    · intro entry hnone
      cases hnone
  | replaced sessionPath => exact absurd hstage (hunbound sessionPath).1
  | attached sessionPath => exact absurd hstage (hunbound sessionPath).2
  | replacing other =>
    obtain ⟨rfl, rfl⟩ | ⟨earlier, rfl⟩ := h.awaited hrequests hstage
    · refine ⟨?_, ?_, ?_, ?_, ?_, ?_⟩
      · intro hother
        obtain hother | ⟨sessionPath, hother⟩ := hother
        · cases hother
        · cases hother
      · intro other hother
        cases hother
      · intro sessionPath hother statuses hpending event hevent
        cases hother
        exact h.capturing replacement hstage statuses hpending event hevent created
      · intro other hother
        cases hother
      · intro sessionPath hother
        obtain hother | hother := hother
        · cases hother
          exact ⟨rfl, rfl⟩
        · cases hother
      · intro entry hnone
        cases hnone
    · have hwaits : stageAfter (.replacing other) (earlier ++ [other]) (replacement.opened created) =
          .replacing other := by
        cases earlier with
        | nil => rfl
        | cons first earlier => rfl
      rw [hwaits]
      refine ⟨?_, ?_, ?_, ?_, ?_, ?_⟩
      · intro hother
        obtain hother | ⟨sessionPath, hother⟩ := hother
        · cases hother
        · cases hother
      · intro next hnext
        cases hnext
        exact h.capturing other hstage
      · intro sessionPath hother
        cases hother
      · intro next hnext
        cases hnext
        exact .inr ⟨earlier, rfl⟩
      · intro sessionPath hother
        obtain hother | hother := hother
        · cases hother
        · cases hother
      · intro entry hnone
        cases hnone

section

variable {self : ExtensionUi}

theorem Attributed.setProcess (h : Attributed self) {proc : Nat} {process : Process}
    (htracked : Tracked process (self.pendingExtensionStatuses proc) (self.extensionUiRoutes proc)) :
    Attributed (self.setProcess proc process) := by
  refine h.of_tracked proc h.isolated ?_ ?_
  · intro other hother
    exact ⟨Function.update_of_ne hother _ _, rfl, rfl⟩
  · simp only [ExtensionUi.setProcess, Function.update_self]
    exact htracked

theorem Attributed.handleProcessEvent (h : Attributed self) (stripVTControlCharacters : JsString → JsString)
    {event : StatusEvent} (hsession : event.session = (self.processes event.process).session)
    (htimely : self.pendingExtensionStatuses event.process ≠ none →
      ∀ replacement, (self.processes event.process).stage = .replacing replacement →
        ∃ sessionPath, (self.processes event.process).session = some sessionPath ∧
          ∀ created, replacement.opened created = sessionPath) :
    Attributed (self.handleProcessEvent stripVTControlCharacters event) := by
  unfold ExtensionUi.handleProcessEvent
  split
  · exact h
  · split
    · rename_i sessionPath hpath
      have hbound := h.statusSessionPath (Option.filter_eq_some_iff.mp hpath).1
      refine ⟨h.isolated.setStatuses fun other hother => ?_, h.tracked⟩
      obtain hold | rfl := mem_sources_record hother
      · exact h.isolated.sources sessionPath other hold
      · rw [hsession, hbound]
    · split
      · exact h
      · rename_i pending hpending
        have hcaptures : self.pendingExtensionStatuses event.process ≠ none := by
          rw [hpending]
          exact Option.some_ne_none _
        refine h.of_tracked event.process h.isolated ?_ ?_
        · intro other hother
          exact ⟨rfl, Function.update_of_ne hother _ _, rfl⟩
        · simp only [ExtensionUi.setPending, Function.update_self]
          exact (h.tracked event.process).record stripVTControlCharacters hpending hsession (htimely hcaptures)

theorem Attributed.replacePiSession (h : Attributed self) (proc : Nat) (replacement : Replacement) :
    Attributed (self.replacePiSession proc replacement) := by
  refine h.of_tracked proc h.isolated ?_ ?_
  · intro other hother
    exact ⟨Function.update_of_ne hother _ _, Function.update_of_ne hother _ _, Function.update_of_ne hother _ _⟩
  · rw [ExtensionUi.replacePiSession, ExtensionUi.setProcess, ExtensionUi.setRoute,
      ExtensionUi.beginPendingExtensionStatusCapture, ExtensionUi.setPending]
    simp only [Function.update_self]
    refine Tracked.replacePiSession (self.processes proc) fun event hevent created => ?_
    cases replacement with
    | acquire sessionPath => exact h.isolated.sources sessionPath event hevent
    | create => cases hevent
    | fork sessionPath => cases hevent

theorem Attributed.perform (h : Attributed self) (proc : Nat) (succeeds : Bool) (created : JsString) :
    Attributed (self.perform proc succeeds created) := by
  unfold ExtensionUi.perform
  simp only
  split
  · exact h
  · rename_i replacement requests hrequests
    split
    · exact h.setProcess ((h.tracked proc).refuse hrequests)
    · exact h.setProcess ((h.tracked proc).perform created hrequests)

theorem Attributed.attach (h : Attributed self) {proc : Nat} {sessionPath : JsString}
    (hstage : (self.processes proc).stage = .replaced sessionPath) : Attributed (self.attach proc sessionPath) := by
  have hothers : ∀ other ≠ proc,
      Function.update self.processes proc { self.processes proc with stage := .attached sessionPath } other =
          self.processes other ∧
        Function.update self.pendingExtensionStatuses proc none other = self.pendingExtensionStatuses other ∧
        self.extensionUiRoutes other = self.extensionUiRoutes other :=
    fun other hother => ⟨Function.update_of_ne hother _ _, Function.update_of_ne hother _ _, rfl⟩
  have htracked : Tracked
      (Function.update self.processes proc { self.processes proc with stage := .attached sessionPath } proc)
      (Function.update self.pendingExtensionStatuses proc none proc) (self.extensionUiRoutes proc) := by
    rw [Function.update_self, Function.update_self]
    exact (h.tracked proc).attach hstage
  unfold ExtensionUi.attach ExtensionUi.commitPendingExtensionStatuses
  simp only
  split
  · rename_i pending hpending
    exact h.of_tracked proc (h.isolated.setStatuses ((h.tracked proc).captured sessionPath hstage pending hpending)) hothers
      htracked
  · split
    · exact h.of_tracked proc h.isolated hothers htracked
    · exact h.of_tracked proc (h.isolated.setStatuses fun _ hevent => absurd hevent List.not_mem_nil) hothers htracked

theorem Attributed.giveBack (h : Attributed self) (proc : Nat) : Attributed (self.giveBack proc) := by
  refine h.of_tracked proc h.isolated ?_ ?_
  · intro other hother
    exact ⟨Function.update_of_ne hother _ _, Function.update_of_ne hother _ _, rfl⟩
  · simp only [ExtensionUi.giveBack, ExtensionUi.setProcess, ExtensionUi.setPending, Function.update_self]
    exact (h.tracked proc).giveBack

theorem Attributed.setRoute (h : Attributed self) {proc : Nat} {sessionPath : JsString}
    (hstage : (self.processes proc).stage = .attached sessionPath) {route : Option ExtensionUiRoute}
    (hroute : ∀ entry ∈ route, entry.sessionPath = sessionPath ∨
      ∃ old ∈ self.extensionUiRoutes proc, entry.sessionPath = old.sessionPath) :
    Attributed (self.setRoute proc route) := by
  refine h.of_tracked proc h.isolated ?_ ?_
  · intro other hother
    exact ⟨rfl, rfl, Function.update_of_ne hother _ _⟩
  · simp only [ExtensionUi.setRoute, Function.update_self]
    exact (h.tracked proc).setRoute hstage hroute

theorem Attributed.handleProcessExit (h : Attributed self) (proc : Nat) : Attributed (self.handleProcessExit proc) := by
  refine h.of_tracked proc h.isolated ?_ ?_
  · intro other hother
    exact ⟨Function.update_of_ne hother _ _, Function.update_of_ne hother _ _, Function.update_of_ne hother _ _⟩
  · rw [ExtensionUi.handleProcessExit, ExtensionUi.setProcess, ExtensionUi.setRoute, ExtensionUi.setPending]
    simp only [Function.update_self]
    exact (h.tracked proc).exit

theorem Attributed.dropPending (h : Attributed self) (proc : Nat) : Attributed (self.setPending proc none) := by
  refine h.of_tracked proc h.isolated ?_ ?_
  · intro other hother
    exact ⟨rfl, Function.update_of_ne hother _ _, rfl⟩
  · simp only [ExtensionUi.setPending, Function.update_self]
    exact (h.tracked proc).dropPending

theorem Attributed.discard (h : Attributed self) (sessionPath : JsString) : Attributed
    { self with extensionStatusesBySession := self.extensionStatusesBySession.erase sessionPath } where
  isolated other statuses hstatuses := h.isolated other statuses (OrderedMap.get?_of_erase hstatuses).2
  tracked := h.tracked

/-- A step at a moment that is not too early keeps the invariant. -/
theorem Attributed.step (h : Attributed self) (stripVTControlCharacters : JsString → JsString) (event : Event)
    (htimely : Timely self event) : Attributed (step stripVTControlCharacters self event) := by
  unfold extension_ui.step
  cases event with
  | setStatus proc statusKey statusText =>
    simp only
    split
    · exact h.handleProcessEvent stripVTControlCharacters rfl htimely
    · exact h
  | replacePiSession proc replacement =>
    simp only
    split
    · split
      · exact h.replacePiSession proc replacement
      · exact h
    · exact h
    · exact h
    · exact h
  | perform proc succeeds created => exact h.perform proc succeeds created
  | attach proc =>
    simp only
    split
    · rename_i sessionPath hstage
      exact h.attach hstage
    · exact h
    · exact h
    · exact h
  | abandon proc =>
    simp only
    split
    · exact h.giveBack proc
    · exact h.giveBack proc
    · exact h
    · exact h
  | route proc persistent =>
    simp only
    split
    · rename_i sessionPath hstage
      refine h.setRoute hstage fun entry hentry => .inl ?_
      cases hentry
      rfl
    · exact h
    · exact h
    · exact h
  | persist proc persistent =>
    simp only
    split
    · rename_i sessionPath hstage
      refine h.setRoute hstage fun entry hentry => .inr ?_
      obtain ⟨old, hold, rfl⟩ := Option.map_eq_some_iff.mp hentry
      exact ⟨old, hold, rfl⟩
    · exact h
    · exact h
    · exact h
  | release proc =>
    simp only
    split
    · exact h.giveBack proc
    · exact h
    · exact h
    · exact h
  | discard sessionPath => exact h.discard sessionPath
  | dropPending proc => exact h.dropPending proc
  | exit proc => exact h.handleProcessExit proc

end

/-- As long as no process emits a status between a request to change its session and the change itself, a status is
    recorded under the session of its process or nowhere, in every state of every run. -/
theorem extension_status_isolation (stripVTControlCharacters : JsString → JsString) (events : List Event)
    (htimely : EveryStep (step stripVTControlCharacters) .start Timely events) :
    Always (step stripVTControlCharacters) .start Isolated events := by
  have hattributed : Always (step stripVTControlCharacters) .start Attributed events :=
    always_of_everyStep attributed_start (fun self event h hok => h.step stripVTControlCharacters event hok) htimely
  exact fun before hbefore => (hattributed before hbefore).isolated

def sessionA : JsString := js "/sessions/a.jsonl"

def sessionB : JsString := js "/sessions/b.jsonl"

/-- The process of the first session is taken for the second one. -/
theorem extension_status_isolation_reusedProcess : Always (step id) .start Isolated
    [.replacePiSession 0 (.acquire sessionA), .perform 0 true [], .attach 0, .setStatus 0 (js "plan") (some (js "1/3")),
      .release 0, .replacePiSession 0 (.acquire sessionB), .perform 0 true [],
      .setStatus 0 (js "plan") (some (js "2/3")), .attach 0] := by
  refine extension_status_isolation id _ ?_
  refine everyStep_cons.mpr ⟨trivial, everyStep_cons.mpr ⟨trivial, everyStep_cons.mpr ⟨trivial,
    everyStep_cons.mpr ⟨fun _ _ hstage => ?_, everyStep_cons.mpr ⟨trivial, everyStep_cons.mpr ⟨trivial,
      everyStep_cons.mpr ⟨trivial, everyStep_cons.mpr ⟨fun _ _ hstage => ?_, everyStep_cons.mpr ⟨trivial,
        everyStep_nil⟩⟩⟩⟩⟩⟩⟩⟩⟩
  · cases hstage
  · cases hstage

/-- A status that a process emits in its old session, while its next one is requested, is recorded under the next. -/
theorem status_of_old_session_recorded : ¬ Always (step id) .start Isolated
    [.replacePiSession 0 (.acquire sessionA), .perform 0 true [], .attach 0, .release 0,
      .replacePiSession 0 (.acquire sessionB), .setStatus 0 (js "plan") (some (js "1/3")), .perform 0 true [],
      .attach 0] := by
  intro halways
  have hrecorded := halways.last sessionB
    { texts := OrderedMap.empty.set (js "plan") (js "1/3")
      sources := [{ process := 0, statusKey := js "plan", statusText := some (js "1/3"), session := some sessionA }] }
    (by rfl) _ List.mem_cons_self
  revert hrecorded
  decide

end pipane.ws_handler.extension_ui

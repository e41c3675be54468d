import Pipane.Server.ProcessPool.Leases

open javascript

namespace pipane.process_pool

/-- The request after its promise was offered an outcome. -/
def RpcRequest.settled (self : RpcRequest) (outcome : Except JsString PiRpcResponse) : RpcRequest :=
  { self with outcome := if self.outcome.isSome then self.outcome else some outcome }

theorem RpcRequest.isSome_settled (self : RpcRequest) (outcome : Except JsString PiRpcResponse) :
    (self.settled outcome).outcome.isSome = true := by
  simp only [settled]
  split
  · assumption
  · rfl

namespace ProcessPool

/-- The session that Pi has opened in a process. -/
def sessionOf (self : ProcessPool) (proc : Nat) : Option JsString :=
  self.processes[proc]?.bind RpcProcess.session

/-- All commands that change the session of a process, but perhaps one, are answered. -/
def OnlyOpen (self : ProcessPool) (proc : Nat) (request : Option Nat) : Prop :=
  ∀ (r : Nat) (q : RpcRequest), self.requests[r]? = some q → q.process = proc → q.command.changesSession = true →
    request ≠ some r → q.answered = true

/-- All commands that change the session of a process are answered. -/
def Answered (self : ProcessPool) (proc : Nat) : Prop :=
  self.OnlyOpen proc none

/-- Nobody waits for a command that changes the session of a process. -/
def Quiet (self : ProcessPool) (proc : Nat) : Prop :=
  ∀ (r : Nat) (q : RpcRequest), self.requests[r]? = some q → q.process = proc → q.command.changesSession = true →
    q.outcome.isSome = true

/-- The last session of a process that Pi was told to open is open, and no other one is on its way. -/
def Bound (self : ProcessPool) (proc : Nat) (sessionPath : JsString) : Prop :=
  self.Answered proc ∧ self.sessionOf proc = some sessionPath

/-- What the answer to a command says of the session that is open. -/
def Reports : PiRpcCommand → PiRpcData → Option JsString → Prop
  | .switch_session sessionPath, data, session => data.cancelled = false → session = some sessionPath
  | .get_state, data, session => data.sessionFile = session
  | _, _, _ => True

/-- A request that may change the session of its process, as no other one does; its answer, where it is there, is true. -/
def Awaiting (self : ProcessPool) (proc request : Nat) (command : PiRpcCommand) : Prop :=
  self.OnlyOpen proc (some request) ∧ ∃ q : RpcRequest, self.requests[request]? = some q ∧ q.process = proc ∧
    q.command = command ∧
    ∀ data, q.outcome = some (.ok (.success data)) → Reports q.command data (self.sessionOf proc)

/-- What the pool knows of a request. -/
structure RequestOk (pool : ProcessPool) (request : RpcRequest) : Prop where
  settled : request.answered = true → request.outcome.isSome = true
  received : ∀ response, request.outcome = some (.ok response) → request.answered = true
  withdrawn : request.answered = false → request.outcome.isSome = true → pool.Withdrawn request.process
  spawned : request.answered = false → request.process < pool.processes.length

def RequestsOk (pool : ProcessPool) : Prop :=
  ∀ request ∈ pool.requests, pool.RequestOk request

/-- What the holder of a process can rely on, whatever others do to the pool. -/
structure Undisturbed (before after : ProcessPool) (proc : Nat) : Prop where
  answered : before.Answered proc → after.Answered proc ∧ after.sessionOf proc = before.sessionOf proc
  quiet : before.Quiet proc → after.Quiet proc
  awaiting : ∀ request command, before.Awaiting proc request command → after.Awaiting proc request command

/-- A call that no process hears of. -/
structure Untouched (before after : ProcessPool) : Prop where
  requests : after.requests = before.requests
  session : ∀ proc, after.sessionOf proc = before.sessionOf proc
  finalized : ∀ proc, after.isFinalized proc = before.isFinalized proc
  length : before.processes.length ≤ after.processes.length

/-- A request that goes on. -/
structure Advances (before after : RpcRequest) : Prop where
  process : after.process = before.process
  command : after.command = before.command
  answered : before.answered = true → after.answered = true
  settled : before.outcome.isSome = true → after.outcome.isSome = true

/-- A request of which nothing is known but that it may have failed. -/
structure Settles (before after : RpcRequest) : Prop where
  process : after.process = before.process
  command : after.command = before.command
  answered : after.answered = before.answered
  outcome : after.outcome = before.outcome ∨ (before.outcome = none ∧ ∃ error, after.outcome = some (.error error))

theorem Settles.refl (request : RpcRequest) : Settles request request :=
  ⟨rfl, rfl, rfl, .inl rfl⟩

theorem Settles.advances {before after : RpcRequest} (h : Settles before after) : Advances before after := by
  refine ⟨h.process, h.command, h.answered.trans, fun hsettled => ?_⟩
  obtain hsame | ⟨hnone, -⟩ := h.outcome
  · rw [hsame, hsettled]
  · rw [hnone] at hsettled
    cases hsettled

theorem reports_sessionAfter {command : PiRpcCommand} {response : PiRpcResponse} {data : PiRpcData}
    {session : Option JsString} (opened : Option JsString) (h : reportSession command session response = .success data) :
    Reports command data (sessionAfter command (.success data) opened session) := by
  cases response with
  | failure error => cases h
  | success reported =>
    cases h
    cases command <;> simp +contextual [Reports, sessionAfter]

theorem RequestsOk.quiet_of_answered {pool : ProcessPool} (h : pool.RequestsOk) {proc : Nat} (hanswered : pool.Answered proc) :
    pool.Quiet proc :=
  fun r q hq hproc hchanges =>
    (h q (List.mem_of_getElem? hq)).settled (hanswered r q hq hproc hchanges fun hnone => by cases hnone)

/-- What is known once a request is settled that alone could change the session. -/
theorem RequestsOk.of_awaiting {pool : ProcessPool} (h : pool.RequestsOk) {proc request : Nat} {command : PiRpcCommand}
    (hawaiting : pool.Awaiting proc request command) {q : RpcRequest} (hq : pool.requests[request]? = some q)
    {outcome : Except JsString PiRpcResponse} (houtcome : q.outcome = some outcome) :
    pool.Quiet proc ∧ ∀ response, outcome = .ok response → pool.Answered proc ∧
      ∀ data, response = .success data → Reports command data (pool.sessionOf proc) := by
  obtain ⟨hopen, found, hfound, -, rfl, hdone⟩ := hawaiting
  cases hq.symm.trans hfound
  refine ⟨fun r other hother hproc hchanges => ?_, ?_⟩
  · by_cases hr : request = r
    · subst hr
      cases hq.symm.trans hother
      rw [houtcome]
      rfl
    · exact (h other (List.mem_of_getElem? hother)).settled
        (hopen r other hother hproc hchanges fun heq => hr (Option.some.inj heq))
  · rintro response rfl
    refine ⟨fun r other hother hproc hchanges _ => ?_, ?_⟩
    · by_cases hr : request = r
      · subst hr
        cases hq.symm.trans hother
        exact (h q (List.mem_of_getElem? hq)).received response houtcome
      · exact hopen r other hother hproc hchanges fun heq => hr (Option.some.inj heq)
    · rintro data rfl
      exact hdone data houtcome

theorem Undisturbed.refl (pool : ProcessPool) (proc : Nat) : pool.Undisturbed pool proc :=
  ⟨fun h => ⟨h, rfl⟩, id, fun _ _ => id⟩

theorem Undisturbed.trans {first second third : ProcessPool} {proc : Nat} (h : first.Undisturbed second proc)
    (hnext : second.Undisturbed third proc) : first.Undisturbed third proc where
  answered hanswered := by
    obtain ⟨hmiddle, hsession⟩ := h.answered hanswered
    obtain ⟨hlast, hsame⟩ := hnext.answered hmiddle
    exact ⟨hlast, hsame.trans hsession⟩
  quiet := hnext.quiet ∘ h.quiet
  awaiting request command := hnext.awaiting request command ∘ h.awaiting request command

theorem Undisturbed.bound {before after : ProcessPool} {proc : Nat} (h : before.Undisturbed after proc)
    {sessionPath : JsString} (hbound : before.Bound proc sessionPath) : after.Bound proc sessionPath := by
  obtain ⟨hanswered, hsession⟩ := h.answered hbound.1
  exact ⟨hanswered, hsession.trans hbound.2⟩

/-- Requests that go on, and new ones that do not change the session. -/
theorem Undisturbed.of_advances {before after : ProcessPool} {proc : Nat}
    (hback : ∀ (r : Nat) (q : RpcRequest), after.requests[r]? = some q →
      (∃ old : RpcRequest, before.requests[r]? = some old ∧ Advances old q) ∨
      (q.process = proc → q.command.changesSession = true → q.answered = true ∧ q.outcome.isSome = true))
    (hsession : before.Answered proc → after.sessionOf proc = before.sessionOf proc)
    (hawaited : ∀ (r : Nat) (q : RpcRequest), before.requests[r]? = some q → q.process = proc →
      before.OnlyOpen proc (some r) →
      (∀ data, q.outcome = some (.ok (.success data)) → Reports q.command data (before.sessionOf proc)) →
      ∃ later : RpcRequest, after.requests[r]? = some later ∧ Advances q later ∧
        ∀ data, later.outcome = some (.ok (.success data)) → Reports q.command data (after.sessionOf proc)) :
    before.Undisturbed after proc := by
  have hopen : ∀ request, before.OnlyOpen proc request → after.OnlyOpen proc request := by
    intro request h r q hq hproc hchanges hne
    obtain ⟨old, hold, hadvances⟩ | hnew := hback r q hq
    · exact hadvances.answered (h r old hold (hadvances.process ▸ hproc) (hadvances.command ▸ hchanges) hne)
    · exact (hnew hproc hchanges).1
  refine ⟨fun h => ⟨hopen none h, hsession h⟩, ?_, ?_⟩
  · intro h r q hq hproc hchanges
    obtain ⟨old, hold, hadvances⟩ | hnew := hback r q hq
    · exact hadvances.settled (h r old hold (hadvances.process ▸ hproc) (hadvances.command ▸ hchanges))
    · exact (hnew hproc hchanges).2
  · rintro request command ⟨honly, q, hq, hproc, rfl, hdone⟩
    obtain ⟨later, hlater, hadvances, hlast⟩ := hawaited request q hq hproc honly hdone
    exact ⟨hopen _ honly, later, hlater, hadvances.process.trans hproc, hadvances.command, hadvances.command ▸ hlast⟩

/-- Requests that fail, and new ones that do not change the session, disturb nobody. -/
theorem Undisturbed.of_settles {before after : ProcessPool} {proc : Nat}
    (hback : ∀ (r : Nat) (q : RpcRequest), after.requests[r]? = some q →
      (∃ old : RpcRequest, before.requests[r]? = some old ∧ Settles old q) ∨
      (before.requests.length ≤ r ∧
        (q.process = proc → q.command.changesSession = true → q.answered = true ∧ q.outcome.isSome = true)))
    (hlength : before.requests.length ≤ after.requests.length)
    (hsession : after.sessionOf proc = before.sessionOf proc) : before.Undisturbed after proc := by
  refine .of_advances (fun r q hq => (hback r q hq).imp (fun ⟨old, hold, h⟩ => ⟨old, hold, h.advances⟩) And.right)
    (fun _ => hsession) fun r q hq _ _ hdone => ?_
  obtain ⟨hlt, -⟩ := List.getElem?_eq_some_iff.mp hq
  have hlater := List.getElem?_eq_getElem (Nat.lt_of_lt_of_le hlt hlength)
  obtain ⟨old, hold, hsettles⟩ | ⟨hout, -⟩ := hback r _ hlater
  · cases hq.symm.trans hold
    refine ⟨_, hlater, hsettles.advances, fun data hdata => ?_⟩
    rw [hsession]
    obtain hsame | ⟨-, error, herror⟩ := hsettles.outcome
    · exact hdone data (hsame.symm.trans hdata)
    · cases herror.symm.trans hdata
  · exact absurd hlt (Nat.not_lt.mpr hout)

theorem Untouched.undisturbed {before after : ProcessPool} (h : before.Untouched after) (proc : Nat) :
    before.Undisturbed after proc := by
  refine .of_settles (fun r q hq => .inl ⟨q, ?_, .refl q⟩) ?_ (h.session proc)
  · rw [← h.requests, hq]
  · rw [h.requests]

theorem RequestsOk.of_grows {before after : ProcessPool} (h : before.RequestsOk) (hgrows : before.Grows after)
    (hlength : before.processes.length ≤ after.processes.length)
    (hrequests : ∀ q ∈ after.requests, q ∈ before.requests ∨ after.RequestOk q) : after.RequestsOk := by
  intro q hq
  obtain hold | hnew := hrequests q hq
  · obtain ⟨hsettled, hreceived, hwithdrawn, hspawned⟩ := h q hold
    exact ⟨hsettled, hreceived, fun hopen houtcome => hgrows.withdrawn _ (hwithdrawn hopen houtcome),
      fun hopen => Nat.lt_of_lt_of_le (hspawned hopen) hlength⟩
  · exact hnew

theorem Untouched.of_processes {before after : ProcessPool} (hrequests : after.requests = before.requests)
    (hprocesses : after.processes = before.processes) : before.Untouched after := by
  refine ⟨hrequests, fun _ => ?_, fun _ => ?_, Nat.le_of_eq (by rw [hprocesses])⟩
  · rw [sessionOf, hprocesses, sessionOf]
  · rw [isFinalized, hprocesses, isFinalized]

theorem Untouched.refl (pool : ProcessPool) : pool.Untouched pool :=
  .of_processes rfl rfl

theorem Untouched.trans {first second third : ProcessPool} (h : first.Untouched second) (hnext : second.Untouched third) :
    first.Untouched third :=
  ⟨hnext.requests.trans h.requests, fun proc => (hnext.session proc).trans (h.session proc),
    fun proc => (hnext.finalized proc).trans (h.finalized proc), Nat.le_trans h.length hnext.length⟩

theorem Untouched.answered {before after : ProcessPool} (h : before.Untouched after) {proc : Nat} :
    after.Answered proc ↔ before.Answered proc := by
  rw [Answered, OnlyOpen, h.requests, Answered, OnlyOpen]

theorem Untouched.quiet {before after : ProcessPool} (h : before.Untouched after) {proc : Nat} :
    after.Quiet proc ↔ before.Quiet proc := by
  rw [Quiet, h.requests, Quiet]

theorem Untouched.requestsOk {before after : ProcessPool} (h : before.Untouched after) (hok : before.RequestsOk)
    (hgrows : before.Grows after) : after.RequestsOk :=
  hok.of_grows hgrows h.length fun _ hq => .inl (h.requests ▸ hq)

section

variable (pool : ProcessPool)

theorem Untouched.updateProcess (proc : Nat) (update : RpcProcess → RpcProcess)
    (hsession : ∀ process, (update process).session = process.session)
    (hfinalized : ∀ process, (update process).finalized = process.finalized) :
    pool.Untouched (pool.updateProcess proc update) := by
  rw [ProcessPool.updateProcess]
  cases hprocess : pool.processes[proc]? with
  | none => exact .refl pool
  | some process =>
    refine ⟨rfl, fun other => ?_, fun other => ?_, Nat.le_of_eq (List.length_set).symm⟩
    · simp only [sessionOf]
      by_cases hother : other = proc
      · subst hother
        rw [List.getElem?_set_same hprocess, hprocess]
        exact hsession process
      · rw [List.getElem?_set_ne (Ne.symm hother)]
    · simp only [isFinalized]
      by_cases hother : other = proc
      · subst hother
        rw [List.getElem?_set_same hprocess, hprocess]
        exact hfinalized process
      · rw [List.getElem?_set_ne (Ne.symm hother)]

theorem Untouched.kill (proc : Nat) : pool.Untouched (pool.kill proc).2 := by
  rw [ProcessPool.kill]
  split
  · exact .refl pool
  · exact Untouched.updateProcess pool proc _ (fun _ => rfl) fun _ => rfl

theorem Untouched.mark (proc : Nat) : pool.Untouched { pool with decommissioning := pool.decommissioning.set proc () } :=
  .of_processes rfl rfl

theorem Untouched.decommission (proc : Nat) : pool.Untouched (pool.decommission proc).2 := by
  rw [ProcessPool.decommission]
  split
  · exact .refl pool
  · simp only
    split
    · exact .of_processes rfl rfl
    · exact (Untouched.mark pool proc).trans (Untouched.kill _ proc)

theorem Untouched.forceKill (proc : Nat) : pool.Untouched (pool.forceKill proc).2 := by
  rw [ProcessPool.forceKill]
  split
  · exact .refl pool
  · exact (Untouched.mark pool proc).trans (Untouched.kill _ proc)

theorem Untouched.markReleased (lease : Nat) : pool.Untouched (pool.markReleased lease) := by
  rw [ProcessPool.markReleased]
  split <;> exact .of_processes rfl rfl

theorem Untouched.releaseLease (lease : Nat) : pool.Untouched (pool.releaseLease lease) := by
  rw [ProcessPool.releaseLease]
  split
  · exact .refl pool
  · split
    · exact .refl pool
    · split
      · exact Untouched.markReleased pool lease
      · rename_i object _ _ _
        have herase : pool.Untouched { pool with leases := pool.leases.erase object.process } := .of_processes rfl rfl
        have hmarked := herase.trans (Untouched.markReleased { pool with leases := pool.leases.erase object.process } lease)
        simp only
        split
        · exact hmarked.trans (Untouched.kill _ _)
        · exact hmarked

theorem Untouched.spawn (cwd : JsString) : pool.Untouched (pool.spawn cwd).2 := by
  have hnew : ∀ (process : RpcProcess) (proc : Nat), (pool.processes ++ [process])[proc]? = pool.processes[proc]? ∨
      (pool.processes[proc]? = none ∧ (pool.processes ++ [process])[proc]? = some process) := by
    intro process proc
    by_cases hlt : proc < pool.processes.length
    · exact .inl (List.getElem?_append_left hlt)
    · obtain heq | hlarge := Nat.eq_or_lt_of_le (Nat.not_lt.mp hlt)
      · subst heq
        exact .inr ⟨List.getElem?_eq_none (Nat.le_refl _), List.getElem?_concat_last _ _⟩
      · refine .inl ?_
        rw [List.getElem?_eq_none (by rw [List.length_append, List.length_singleton]; omega),
          List.getElem?_eq_none (Nat.le_of_lt hlarge)]
  refine ⟨rfl, fun proc => ?_, fun proc => ?_, ?_⟩
  · simp only [sessionOf, ProcessPool.spawn]
    obtain hsame | ⟨hnone, hsome⟩ := hnew _ proc
    · rw [hsame]
    · rw [hnone, hsome]
      rfl
  · simp only [isFinalized, ProcessPool.spawn]
    obtain hsame | ⟨hnone, hsome⟩ := hnew _ proc
    · rw [hsame]
    · rw [hnone, hsome]
  · simp only [ProcessPool.spawn, List.length_append]
    omega

end

theorem Undisturbed.sendRpc (pool : ProcessPool) {proc other : Nat} (command : PiRpcCommand)
    (h : proc = other → command.changesSession = false) : pool.Undisturbed (pool.sendRpc proc command).2 other := by
  refine .of_settles (fun r q hq => ?_) (by simp [ProcessPool.sendRpc]) rfl
  obtain hold | ⟨rfl, rfl⟩ := List.getElem?_concat_cases hq
  · exact .inl ⟨q, hold, .refl q⟩
  · refine .inr ⟨Nat.le_refl _, fun hproc hchanges => ?_⟩
    split at hproc
    · rename_i halive
      rw [if_pos halive, h hproc] at hchanges
      cases hchanges
    · rename_i hdead
      rw [if_neg hdead]
      exact ⟨rfl, rfl⟩

theorem RequestsOk.sendRpc {pool : ProcessPool} (h : pool.RequestsOk) (proc : Nat) (command : PiRpcCommand) :
    (pool.sendRpc proc command).2.RequestsOk := by
  refine h.of_grows (Grows.frame rfl rfl rfl fun _ => id) (Nat.le_refl _) fun q hq => ?_
  obtain hold | hnew := List.mem_append.mp hq
  · exact .inl hold
  · rw [List.mem_singleton.mp hnew]
    refine .inr ?_
    split
    · rename_i halive
      refine ⟨fun h => (by cases h), fun _ h => (by cases h), fun _ h => (by cases h), fun _ => ?_⟩
      by_contra hout
      change ¬ proc < pool.processes.length at hout
      rw [hasNoExitCode, List.getElem?_eq_none (Nat.not_lt.mp hout)] at halive
      cases halive
    · exact ⟨fun _ => rfl, fun _ h => (by cases h), fun h => (by cases h), fun h => (by cases h)⟩

theorem settle_eq {pool : ProcessPool} {request : Nat} {pending : RpcRequest}
    (hpending : pool.requests[request]? = some pending) (outcome : Except JsString PiRpcResponse) :
    pool.settle request outcome = { pool with requests := pool.requests.set request (pending.settled outcome) } := by
  rw [ProcessPool.settle, hpending]
  simp only [RpcRequest.settled]
  split
  · obtain ⟨hlt, hsame⟩ := List.getElem?_eq_some_iff.mp hpending
    have hset : pool.requests.set request pending = pool.requests := by
      rw [← hsame]
      exact List.set_getElem_self hlt
    rw [hset]
  · rfl

/-- A response that counts: what the pool knows of its process and of its request from then on. -/
theorem onRpcResponse_cases (pool : ProcessPool) (request : Nat) (response : PiRpcResponse) (opened : Option JsString)
    (sameCommand : Bool) : pool.onRpcResponse request response opened sameCommand = pool ∨
      ∃ (pending : RpcRequest) (process : RpcProcess), pool.requests[request]? = some pending ∧ pending.answered = false ∧
        pool.processes[pending.process]? = some process ∧
        pool.onRpcResponse request response opened sameCommand = { pool with
          processes := pool.processes.set pending.process { process with
            session := sessionAfter pending.command (reportSession pending.command process.session response) opened
              process.session }
          requests := pool.requests.set request (RpcRequest.settled { pending with answered := true }
            (if sameCommand then .ok (reportSession pending.command process.session response)
              else .error (mismatchError pending.command))) } := by
  rw [onRpcResponse]
  cases hpending : pool.requests[request]? with
  | none => exact .inl rfl
  | some pending =>
    simp only
    cases hprocess : pool.processes[pending.process]? with
    | none => exact .inl rfl
    | some process =>
      simp only
      split
      · exact .inl rfl
      · rename_i hcounts
        rw [not_or, Bool.not_eq_true] at hcounts
        refine .inr ⟨pending, process, rfl, hcounts.1, hprocess, ?_⟩
        rw [settle_eq (List.getElem?_set_same hpending _)]
        simp only [List.set_set]

theorem sessionAfter_eq {command : PiRpcCommand} (h : command.changesSession = false) (response : PiRpcResponse)
    (opened session : Option JsString) : sessionAfter command response opened session = session := by
  cases command <;> first | rfl | cases h

theorem sessionOf_set {pool : ProcessPool} {proc : Nat} {process : RpcProcess} (hprocess : pool.processes[proc]? = some process)
    (session : Option JsString) (requests : List RpcRequest) (other : Nat) :
    ({ pool with processes := pool.processes.set proc { process with session }, requests } : ProcessPool).sessionOf other =
      if other = proc then session else pool.sessionOf other := by
  simp only [sessionOf]
  split
  · rename_i heq
    rw [heq, List.getElem?_set_same hprocess]
    rfl
  · rename_i hne
    rw [List.getElem?_set_ne (Ne.symm hne)]

theorem RequestOk.outcome_settled {pool : ProcessPool} {pending : RpcRequest} (h : pool.RequestOk pending)
    (hopen : pending.answered = false) {outcome : Except JsString PiRpcResponse} {response : PiRpcResponse}
    (hsettled : (RpcRequest.settled { pending with answered := true } outcome).outcome = some (.ok response)) :
    outcome = .ok response := by
  simp only [RpcRequest.settled] at hsettled
  split at hsettled
  · rw [h.received response hsettled] at hopen
    cases hopen
  · exact Option.some.inj hsettled

/-- Pi answers the one who asked. -/
theorem RequestsOk.undisturbed_onRpcResponse {pool : ProcessPool} (h : pool.RequestsOk) (request : Nat)
    (response : PiRpcResponse) (opened : Option JsString) (sameCommand : Bool) (proc : Nat) :
    pool.Undisturbed (pool.onRpcResponse request response opened sameCommand) proc := by
  obtain hsame | ⟨pending, process, hpending, hopen, hprocess, hafter⟩ :=
    onRpcResponse_cases pool request response opened sameCommand
  · rw [hsame]
    exact .refl pool proc
  · rw [hafter]
    have hkept : ∀ still, pool.OnlyOpen proc still → still ≠ some request → ∀ requests, ({ pool with
          processes := pool.processes.set pending.process { process with
            session := sessionAfter pending.command (reportSession pending.command process.session response) opened
              process.session }
          requests } : ProcessPool).sessionOf proc = pool.sessionOf proc := by
      intro still honly hne requests
      rw [sessionOf_set hprocess]
      split
      · rename_i heq
        have hplain : pending.command.changesSession = false := by
          by_contra hchanges
          rw [Bool.not_eq_false] at hchanges
          rw [honly request pending hpending heq.symm hchanges hne] at hopen
          cases hopen
        rw [sessionAfter_eq hplain, heq, sessionOf, hprocess]
        rfl
      · rfl
    refine .of_advances (fun r q hq => .inl ?_) (fun hall => hkept none hall (fun hnone => by cases hnone) _)
      fun r q hq hproc honly hdone => ?_
    · obtain ⟨rfl, rfl⟩ | ⟨-, hold⟩ := List.getElem?_set_cases hq
      · exact ⟨pending, hpending, rfl, rfl, fun _ => rfl, fun _ => RpcRequest.isSome_settled _ _⟩
      · exact ⟨q, hold, (Settles.refl q).advances⟩
    · by_cases hr : r = request
      · subst hr
        cases hpending.symm.trans hq
        refine ⟨_, List.getElem?_set_same hpending _, ⟨rfl, rfl, fun _ => rfl, fun _ => RpcRequest.isSome_settled _ _⟩,
          fun data hdata => ?_⟩
        have hresponse := (h pending (List.mem_of_getElem? hpending)).outcome_settled hopen hdata
        split at hresponse
        · have hreported := Except.ok.inj hresponse
          rw [sessionOf_set hprocess, if_pos hproc.symm, hreported]
          exact reports_sessionAfter opened hreported
        · cases hresponse
      · refine ⟨q, by rw [List.getElem?_set_ne (Ne.symm hr), hq], (Settles.refl q).advances, ?_⟩
        rw [hkept (some r) honly (fun heq => hr (Option.some.inj heq))]
        exact hdone

end ProcessPool

end pipane.process_pool

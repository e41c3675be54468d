import Pipane.Server.ProcessPool.Rpc

open javascript json transition

namespace pipane.process_pool

namespace ProcessPool

/-- A step that ends no process: those that there were are as they were, and new ones run. -/
def Steady (before after : ProcessPool) : Prop :=
  ∃ more, after.vitals = before.vitals ++ more ∧ ∀ vital ∈ more, vital.2.2 = false

theorem steady_of_vitals {before after : ProcessPool} (h : after.vitals = before.vitals) : before.Steady after :=
  ⟨[], by rw [h, List.append_nil], fun _ hmem => absurd hmem List.not_mem_nil⟩

theorem Steady.trans {first second third : ProcessPool} (h : first.Steady second) (hnext : second.Steady third) :
    first.Steady third := by
  obtain ⟨more, hmore, hrun⟩ := h
  obtain ⟨rest, hrest, hlater⟩ := hnext
  refine ⟨more ++ rest, by rw [hrest, hmore, List.append_assoc], fun vital hmem => ?_⟩
  obtain hmem | hmem := List.mem_append.mp hmem
  · exact hrun vital hmem
  · exact hlater vital hmem

theorem Steady.finalized {before after : ProcessPool} (h : before.Steady after) {proc : Nat}
    (hfinalized : after.isFinalized proc = true) :
    before.isFinalized proc = true ∧ after.hasNoExitCode proc = before.hasNoExitCode proc := by
  obtain ⟨more, hmore, hrun⟩ := h
  rw [isFinalized_eq, hmore] at hfinalized
  rw [isFinalized_eq, hasNoExitCode_eq, hasNoExitCode_eq, hmore]
  by_cases hold : proc < before.vitals.length
  · rw [List.getElem?_append_left hold] at hfinalized ⊢
    exact ⟨hfinalized, rfl⟩
  · rw [List.getElem?_append_right (Nat.not_lt.mp hold)] at hfinalized
    cases hvital : more[proc - before.vitals.length]? with
    | none =>
      rw [hvital] at hfinalized
      cases hfinalized
    | some vital =>
      rw [hvital] at hfinalized
      have hruns := hrun vital (List.mem_of_getElem? hvital)
      rw [Option.map_some, Option.getD_some, hruns] at hfinalized
      cases hfinalized

theorem vitals_kill (self : ProcessPool) (proc : Nat) : (self.kill proc).2.vitals = self.vitals := by
  unfold kill
  split
  · rfl
  · exact vitals_updateProcess self proc _ fun _ => rfl

theorem vitals_markReleased (self : ProcessPool) (lease : Nat) : (self.markReleased lease).vitals = self.vitals := by
  unfold markReleased
  split
  · rfl
  · rfl

theorem vitals_releaseLease (self : ProcessPool) (lease : Nat) : (self.releaseLease lease).vitals = self.vitals := by
  unfold releaseLease
  split
  · rfl
  · split
    · rfl
    · split
      · exact vitals_markReleased self lease
      · simp only
        split
        · rw [vitals_kill, vitals_markReleased]
          rfl
        · rw [vitals_markReleased]
          rfl

theorem vitals_decommission (self : ProcessPool) (proc : Nat) : (self.decommission proc).2.vitals = self.vitals := by
  unfold decommission
  split
  · rfl
  · simp only
    split
    · rfl
    · rw [vitals_kill]
      rfl

theorem vitals_forceKill (self : ProcessPool) (proc : Nat) : (self.forceKill proc).2.vitals = self.vitals := by
  unfold forceKill
  split
  · rfl
  · rw [vitals_kill]
    rfl

theorem vitals_decommissionAll (self : ProcessPool) : self.decommissionAll.vitals = self.vitals := by
  have hloop : ∀ (procs : List Nat) (current : ProcessPool),
      (procs.foldl (fun self proc => (self.decommission proc).2) current).vitals = current.vitals := by
    intro procs
    induction procs with
    | nil => exact fun _ => rfl
    | cons proc procs ih => exact fun current => (ih _).trans (vitals_decommission current proc)
  exact hloop _ self

theorem vitals_evictIdleDifferentCwd (self : ProcessPool) (targetCwd : JsString) :
    (self.evictIdleDifferentCwd targetCwd).2.vitals = self.vitals := by
  unfold evictIdleDifferentCwd
  split
  · exact vitals_decommission self _
  · rfl

theorem vitals_reserve (self : ProcessPool) (holder proc : Nat) : (self.reserve holder proc).2.vitals = self.vitals := by
  unfold reserve
  split
  · rfl
  · rfl

theorem steady_spawn (self : ProcessPool) (cwd : JsString) : self.Steady (self.spawn cwd).2 := by
  refine ⟨[(cwd, none, false)], List.map_append, fun vital hmem => ?_⟩
  rw [List.mem_singleton.mp hmem]

theorem steady_acquire (self : ProcessPool) (existsSync : JsString → Bool) (holder : Nat) (cwd : JsString) :
    self.Steady (self.acquire existsSync holder cwd).2 := by
  unfold acquire
  simp only
  split
  · exact steady_of_vitals (vitals_reserve self holder _)
  · split
    · exact steady_of_vitals rfl
    · split
      · exact steady_of_vitals rfl
      · exact (steady_spawn self cwd).trans (steady_of_vitals (vitals_reserve _ holder _))

theorem steady_acquireAny (self : ProcessPool) (holder : Nat) : self.Steady (self.acquireAny holder).2 := by
  unfold acquireAny
  split
  · exact steady_of_vitals (vitals_reserve self holder _)
  · exact steady_of_vitals rfl

theorem processes_finalizeProcess {self : ProcessPool} {proc : Nat} {process : RpcProcess}
    (hprocess : self.processes[proc]? = some process) (hrunning : process.finalized = false) (exitCode : Option Int) :
    (self.finalizeProcess proc exitCode).processes =
      self.processes.set proc { process with exitCode, finalized := true } := by
  have hreleased : ∀ (current : ProcessPool) (lease : Nat), (current.markReleased lease).processes = current.processes := by
    intro current lease
    unfold markReleased
    split
    · rfl
    · rfl
  unfold finalizeProcess
  simp only [hprocess, hrunning, Bool.false_eq_true, if_false]
  cases self.leases.get? proc with
  | none => rfl
  | some lease => exact hreleased _ lease

theorem withdrawn_decommission {self : ProcessPool} (h : self.Valid) {proc : Nat}
    (hproc : proc < self.processes.length) : (self.decommission proc).2.Withdrawn proc := by
  have hkeeps := h.decommission proc
  by_cases hwithdrawn : self.Withdrawn proc
  · exact hkeeps.2.withdrawn proc hwithdrawn
  · rw [Withdrawn, not_or, Bool.not_eq_true, Bool.not_eq_true] at hwithdrawn
    have halive := h.alive proc hwithdrawn.2 hproc
    unfold decommission
    rw [if_neg (by simp [halive, hwithdrawn.1])]
    have hmarked : ({ self with decommissioning := self.decommissioning.set proc () } : ProcessPool).Withdrawn proc := by
      refine .inl ?_
      rw [isDecommissioning, OrderedMap.contains, OrderedMap.get?_set_self]
      rfl
    simp only
    split
    · exact hmarked
    · exact ((h.mark proc).1.kill proc).2.withdrawn proc hmarked

end ProcessPool

namespace RpcPool

variable {self : RpcPool}

/-- What holds of the requests of a pool in every run. -/
structure RequestsOk (rpc : RpcPool) : Prop where
  valid : rpc.pool.Valid
  pending : ∀ {proc id request}, (rpc.pendingRequests proc).get? id = some request →
    ∃ call, rpc.calls[request]? = some call ∧ call.process = proc ∧ call.id = id ∧ call.settlements = []
  timer : ∀ call ∈ rpc.calls, call.timer = true → call.settlements = [] ∧ call.process < rpc.pool.processes.length
  once : ∀ call ∈ rpc.calls, call.settlements.length ≤ 1
  own : ∀ call ∈ rpc.calls, ∀ message, .ok message ∈ call.settlements →
    message.id = some call.id ∧ message.command = call.command
  timedOut : ∀ call ∈ rpc.calls, call.timedOut = true → rpc.pool.Withdrawn call.process

theorem requestsOk_start (maxProcesses prewarmCount : Nat) : (start maxProcesses prewarmCount).RequestsOk where
  valid := ProcessPool.valid_start maxProcesses prewarmCount
  pending h := nomatch h
  timer _ h := nomatch h
  once _ h := nomatch h
  own _ h := nomatch h
  timedOut _ h := nomatch h

theorem RequestsOk.withPool (h : self.RequestsOk) {pool : ProcessPool} (hkeeps : self.pool.Keeps pool)
    (hlength : self.pool.processes.length ≤ pool.processes.length) : (self.withPool pool).RequestsOk where
  valid := hkeeps.1
  pending := h.pending
  timer call hcall harmed := ⟨(h.timer call hcall harmed).1, Nat.lt_of_lt_of_le (h.timer call hcall harmed).2 hlength⟩
  once := h.once
  own := h.own
  timedOut call hcall htimedOut := hkeeps.2.withdrawn _ (h.timedOut call hcall htimedOut)

theorem length_le_of_steady {before after : ProcessPool} (h : before.Steady after) :
    before.processes.length ≤ after.processes.length := by
  obtain ⟨more, hmore, -⟩ := h
  rw [← ProcessPool.length_vitals, ← ProcessPool.length_vitals, hmore, List.length_append]
  exact Nat.le_add_right _ _

theorem RequestsOk.sendRpc (h : self.RequestsOk) (proc : Nat) (command : JsString) :
    (self.sendRpc proc command).RequestsOk := by
  unfold RpcPool.sendRpc
  split
  · refine ⟨h.valid, ?_, ?_, ?_, ?_, ?_⟩
    · intro other id request hget
      obtain ⟨call, hcall, hrest⟩ := h.pending hget
      exact ⟨call, List.getElem?_concat_of_some hcall _, hrest⟩
    all_goals
      intro call hcall
      obtain hold | hnew := List.mem_append.mp hcall
    · exact h.timer call hold
    · rw [List.mem_singleton.mp hnew]
      intro harmed
      cases harmed
    · exact h.once call hold
    · rw [List.mem_singleton.mp hnew]
      exact Nat.le_refl 1
    · exact h.own call hold
    · rw [List.mem_singleton.mp hnew]
      intro message hmessage
      cases List.mem_singleton.mp hmessage
    · exact h.timedOut call hold
    · rw [List.mem_singleton.mp hnew]
      intro htimedOut
      cases htimedOut
  · rename_i halive
    rw [not_not] at halive
    have hknown : proc < self.pool.processes.length := by
      by_contra hunknown
      rw [ProcessPool.hasNoExitCode, List.getElem?_eq_none (Nat.not_lt.mp hunknown)] at halive
      cases halive
    refine ⟨h.valid, ?_, ?_, ?_, ?_, ?_⟩
    · intro other id request hget
      have hold : (self.pendingRequests other).get? id = some request →
          ∃ call, (self.calls ++ [RpcCall.sent proc (js "req_" ++ decimal (self.requestIds proc + 1)) command])[request]? =
            some call ∧ call.process = other ∧ call.id = id ∧ call.settlements = [] := by
        intro hbefore
        obtain ⟨call, hcall, hrest⟩ := h.pending hbefore
        exact ⟨call, List.getElem?_concat_of_some hcall _, hrest⟩
      by_cases hproc : other = proc
      · subst hproc
        simp only [Function.update_self] at hget
        by_cases hid : id = js "req_" ++ decimal (self.requestIds other + 1)
        · subst hid
          rw [OrderedMap.get?_set_self] at hget
          cases hget
          exact ⟨_, List.getElem?_concat_last _ _, rfl, rfl, rfl⟩
        · rw [OrderedMap.get?_set_ne hid] at hget
          exact hold hget
      · simp only [Function.update_of_ne hproc] at hget
        exact hold hget
    all_goals
      intro call hcall
      obtain hold | hnew := List.mem_append.mp hcall
    · exact h.timer call hold
    · rw [List.mem_singleton.mp hnew]
      intro _
      exact ⟨rfl, hknown⟩
    · exact h.once call hold
    · rw [List.mem_singleton.mp hnew]
      exact Nat.zero_le 1
    · exact h.own call hold
    · rw [List.mem_singleton.mp hnew]
      intro message hmessage
      cases hmessage
    · exact h.timedOut call hold
    · rw [List.mem_singleton.mp hnew]
      intro htimedOut
      cases htimedOut

/-- A request that is settled for the first time and is pending no more. -/
theorem RequestsOk.settle (h : self.RequestsOk) {request : Nat} {call : RpcCall}
    (hcall : self.calls[request]? = some call) (hpending : call.settlements = [])
    {outcome : Except JsString PiRpcMessage} {timedOut : Bool}
    (hown : ∀ message, outcome = .ok message → message.id = some call.id ∧ message.command = call.command)
    {pool : ProcessPool} (hkeeps : self.pool.Keeps pool) (hlength : self.pool.processes.length ≤ pool.processes.length)
    (hwithdrawn : timedOut = true → pool.Withdrawn call.process)
    {pendingRequests : Nat → OrderedMap JsString Nat}
    (hrest : ∀ {proc id other}, (pendingRequests proc).get? id = some other →
      other ≠ request ∧ (self.pendingRequests proc).get? id = some other) :
    RequestsOk { self with
      pool, pendingRequests, calls := self.calls.set request { call.settle outcome with timedOut } } := by
  have hsettled : (call.settle outcome).settlements = [outcome] := by
    rw [RpcCall.settle, hpending]
    rfl
  refine ⟨hkeeps.1, ?_, ?_, ?_, ?_, ?_⟩
  · intro proc id other hget
    obtain ⟨hne, hbefore⟩ := hrest hget
    obtain ⟨pending, hother, hfacts⟩ := h.pending hbefore
    refine ⟨pending, ?_, hfacts⟩
    rw [List.getElem?_set_ne hne.symm]
    exact hother
  all_goals
    intro other hother
    obtain hold | hnew := List.mem_or_eq_of_mem_set hother
  · exact fun harmed => ⟨(h.timer other hold harmed).1, Nat.lt_of_lt_of_le (h.timer other hold harmed).2 hlength⟩
  · subst hnew
    intro harmed
    cases harmed
  · exact h.once other hold
  · subst hnew
    exact Nat.le_of_eq (congrArg List.length hsettled)
  · exact h.own other hold
  · subst hnew
    intro message hmessage
    change _ ∈ (call.settle outcome).settlements at hmessage
    rw [hsettled] at hmessage
    exact hown message (List.mem_singleton.mp hmessage).symm
  · exact fun htimedOut => hkeeps.2.withdrawn _ (h.timedOut other hold htimedOut)
  · subst hnew
    exact hwithdrawn

theorem RequestsOk.pending_erase (h : self.RequestsOk) {request : Nat} {call : RpcCall}
    (hcall : self.calls[request]? = some call) {proc other : Nat} {id : JsString}
    (hget : (Function.update self.pendingRequests call.process ((self.pendingRequests call.process).erase call.id)
      proc).get? id = some other) : other ≠ request ∧ (self.pendingRequests proc).get? id = some other := by
  have hbefore : (self.pendingRequests proc).get? id = some other ∧ ¬ (proc = call.process ∧ id = call.id) := by
    by_cases hproc : proc = call.process
    · subst hproc
      rw [Function.update_self] at hget
      obtain ⟨hid, hbefore⟩ := OrderedMap.get?_of_erase hget
      exact ⟨hbefore, fun hsame => hid hsame.2⟩
    · rw [Function.update_of_ne hproc] at hget
      exact ⟨hget, fun hsame => hproc hsame.1⟩
  refine ⟨?_, hbefore.1⟩
  rintro rfl
  obtain ⟨pending, hpending, hprocess, hid, -⟩ := h.pending hbefore.1
  rw [hcall] at hpending
  cases hpending
  exact hbefore.2 ⟨hprocess.symm, hid.symm⟩

theorem RequestsOk.onLine (h : self.RequestsOk) (proc : Nat) (message : PiRpcMessage) :
    (self.onLine proc message).RequestsOk := by
  unfold RpcPool.onLine
  split
  · exact h
  · split
    · exact h
    · rename_i request hrequest
      obtain ⟨id, hid, hget⟩ := Option.bind_eq_some_iff.mp hrequest
      obtain ⟨call, hcall, rfl, rfl, hpending⟩ := h.pending hget
      rw [hid, Option.getD_some]
      have hmodify : self.calls.modify request (fun call => call.settle (outcomeFor call message)) =
          self.calls.set request { call.settle (outcomeFor call message) with timedOut := call.timedOut } := by
        rw [List.modify_eq_set_get?, hcall]
        rfl
      rw [hmodify]
      refine h.settle hcall hpending ?_ h.valid.keeps_self (Nat.le_refl _)
        (h.timedOut call (List.mem_of_getElem? hcall)) (h.pending_erase hcall)
      intro received hreceived
      unfold outcomeFor at hreceived
      split at hreceived
      · cases hreceived
      · rename_i hcommand
        cases hreceived
        exact ⟨hid, not_not.mp hcommand⟩

theorem RequestsOk.onTimeout (h : self.RequestsOk) (request : Nat) : (self.onTimeout request).RequestsOk := by
  unfold RpcPool.onTimeout
  split
  · exact h
  · rename_i call hcall
    split
    · exact h
    · rename_i harmed
      rw [not_not] at harmed
      obtain ⟨hpending, hprocess⟩ := h.timer call (List.mem_of_getElem? hcall) harmed
      have hlength := length_le_of_steady (ProcessPool.steady_of_vitals
        (ProcessPool.vitals_decommission self.pool call.process))
      refine h.settle hcall hpending (fun message hmessage => ?_) (h.valid.decommission call.process) hlength
        (fun _ => ProcessPool.withdrawn_decommission h.valid hprocess) (h.pending_erase hcall)
      cases hmessage

theorem RequestsOk.finalizeProcess (h : self.RequestsOk) (proc : Nat) (exitCode : Option Int) (error : JsString) :
    (self.finalizeProcess proc exitCode error).RequestsOk := by
  unfold RpcPool.finalizeProcess
  split
  · exact h
  · rename_i hruns
    rw [not_or, Nat.not_le, Bool.not_eq_true] at hruns
    obtain ⟨hlt, hrunning⟩ := hruns
    have hkeeps := h.valid.finalizeProcess proc exitCode
    have hlength : (self.pool.finalizeProcess proc exitCode).processes.length = self.pool.processes.length := by
      have hprocess := List.getElem?_eq_getElem hlt
      rw [ProcessPool.isFinalized, hprocess] at hrunning
      rw [ProcessPool.processes_finalizeProcess hprocess hrunning, List.length_set]
    have hcases : ∀ (call : RpcCall), call ∈ (self.calls.mapIdx fun request call =>
        if request ∈ (self.pendingRequests proc).values then call.settle (.error error) else call) →
        call ∈ self.calls ∨ ∃ before ∈ self.calls, before.settlements = [] ∧ call = before.settle (.error error) := by
      intro call hcall
      obtain ⟨request, hlt, rfl⟩ := List.mem_mapIdx.mp hcall
      split
      · rename_i hmem
        obtain ⟨id, hget⟩ := OrderedMap.exists_of_mem_values hmem
        obtain ⟨before, hbefore, -, -, hpending⟩ := h.pending hget
        rw [List.getElem?_eq_getElem hlt] at hbefore
        cases hbefore
        exact .inr ⟨_, List.getElem_mem hlt, hpending, rfl⟩
      · exact .inl (List.getElem_mem hlt)
    refine ⟨hkeeps.1, ?_, ?_, ?_, ?_, ?_⟩
    · intro other id request hget
      by_cases hother : other = proc
      · subst hother
        simp only [Function.update_self, OrderedMap.get?_empty] at hget
        cases hget
      · simp only [Function.update_of_ne hother] at hget
        obtain ⟨call, hcall, hprocess, hfacts⟩ := h.pending hget
        refine ⟨call, ?_, hprocess, hfacts⟩
        simp only
        rw [List.getElem?_mapIdx, hcall, Option.map_some, if_neg]
        intro hmem
        obtain ⟨key, hkey⟩ := OrderedMap.exists_of_mem_values hmem
        obtain ⟨same, hsame, hprocess', -⟩ := h.pending hkey
        rw [hcall] at hsame
        cases hsame
        exact hother (hprocess.symm.trans hprocess')
    all_goals
      intro call hcall
      obtain hold | ⟨before, hbefore, hpending, rfl⟩ := hcases call hcall
    · intro harmed
      obtain ⟨hnone, hknown⟩ := h.timer call hold harmed
      exact ⟨hnone, Nat.lt_of_lt_of_eq hknown hlength.symm⟩
    · intro harmed
      cases harmed
    · exact h.once call hold
    · rw [RpcCall.settle, hpending]
      exact Nat.le_refl 1
    · exact h.own call hold
    · rw [RpcCall.settle, hpending]
      intro message hmessage
      cases List.mem_singleton.mp hmessage
    · exact fun htimedOut => hkeeps.2.withdrawn _ (h.timedOut call hold htimedOut)
    · exact fun htimedOut => hkeeps.2.withdrawn _ (h.timedOut before hbefore htimedOut)

theorem RequestsOk.pooled (h : self.RequestsOk) {pool : ProcessPool} (hkeeps : self.pool.Keeps pool)
    (hsteady : self.pool.Steady pool) : (self.withPool pool).RequestsOk :=
  h.withPool hkeeps (length_le_of_steady hsteady)

/-- Every step keeps the requests in order. -/
theorem RequestsOk.step (h : self.RequestsOk) (event : RpcEvent) : (self.step event).RequestsOk := by
  cases event with
  | acquire existsSync holder cwd =>
    exact h.pooled (h.valid.acquire existsSync holder cwd) (ProcessPool.steady_acquire _ _ _ _)
  | acquireAny holder => exact h.pooled (h.valid.acquireAny holder) (ProcessPool.steady_acquireAny _ _)
  | release lease =>
    exact h.pooled (h.valid.releaseLease lease) (ProcessPool.steady_of_vitals (ProcessPool.vitals_releaseLease _ _))
  | evictIdleDifferentCwd targetCwd =>
    exact h.pooled (h.valid.evictIdleDifferentCwd targetCwd)
      (ProcessPool.steady_of_vitals (ProcessPool.vitals_evictIdleDifferentCwd _ _))
  | forceKill proc =>
    exact h.pooled (h.valid.forceKill proc) (ProcessPool.steady_of_vitals (ProcessPool.vitals_forceKill _ _))
  | decommissionAll =>
    exact h.pooled h.valid.decommissionAll (ProcessPool.steady_of_vitals (ProcessPool.vitals_decommissionAll _))
  | spawn cwd =>
    rw [RpcPool.step]
    split
    · exact h
    · rename_i hroom
      rw [h.valid.totalProcesses_eq, Nat.not_le] at hroom
      exact h.pooled (h.valid.spawn cwd hroom).1 (ProcessPool.steady_spawn _ _)
  | sendRpc proc command => exact h.sendRpc proc command
  | line proc message => exact h.onLine proc message
  | timeout request => exact h.onTimeout request
  | exit proc exitCode => exact h.finalizeProcess proc exitCode _
  | error proc exitCode => exact h.finalizeProcess proc exitCode _

/-- Every step keeps the pool of processes valid and its leases growing. -/
theorem RequestsOk.keeps_step (h : self.RequestsOk) (event : RpcEvent) : self.pool.Keeps (self.step event).pool := by
  cases event with
  | acquire existsSync holder cwd => exact h.valid.acquire existsSync holder cwd
  | acquireAny holder => exact h.valid.acquireAny holder
  | release lease => exact h.valid.releaseLease lease
  | evictIdleDifferentCwd targetCwd => exact h.valid.evictIdleDifferentCwd targetCwd
  | forceKill proc => exact h.valid.forceKill proc
  | decommissionAll => exact h.valid.decommissionAll
  | spawn cwd =>
    rw [RpcPool.step]
    split
    · exact h.valid.keeps_self
    · rename_i hroom
      rw [h.valid.totalProcesses_eq, Nat.not_le] at hroom
      exact (h.valid.spawn cwd hroom).1
  | sendRpc proc command =>
    rw [RpcPool.step, RpcPool.sendRpc]
    split
    · exact h.valid.keeps_self
    · exact h.valid.keeps_self
  | line proc message =>
    rw [RpcPool.step, RpcPool.onLine]
    split
    · exact h.valid.keeps_self
    · split
      · exact h.valid.keeps_self
      · exact h.valid.keeps_self
  | timeout request =>
    rw [RpcPool.step, RpcPool.onTimeout]
    split
    · exact h.valid.keeps_self
    · split
      · exact h.valid.keeps_self
      · exact h.valid.decommission _
  | exit proc exitCode =>
    rw [RpcPool.step, RpcPool.finalizeProcess]
    split
    · exact h.valid.keeps_self
    · exact h.valid.finalizeProcess proc exitCode
  | error proc exitCode =>
    rw [RpcPool.step, RpcPool.finalizeProcess]
    split
    · exact h.valid.keeps_self
    · exact h.valid.finalizeProcess proc exitCode

theorem requestsOk_run (h : self.RequestsOk) (events : List RpcEvent) :
    (run RpcPool.step self events).RequestsOk ∧ self.pool.Keeps (run RpcPool.step self events).pool := by
  induction events using List.reverseRecOn with
  | nil => exact ⟨h, h.valid.keeps_self⟩
  | append_singleton events event ih =>
    rw [run_snoc]
    exact ⟨ih.1.step event, ih.2.trans fun _ => ih.1.keeps_step event⟩

/-- A request that was made settles at most once, and a resolution is the response to it. -/
def Correlated (self : RpcPool) : Prop :=
  ∀ call ∈ self.calls, call.settlements.length ≤ 1 ∧ ∀ message, .ok message ∈ call.settlements →
    message.id = some call.id ∧ message.command = call.command

/-- A process that has ended has no pending request, and every further one is rejected at once. -/
def Ended (self : RpcPool) : Prop :=
  ∀ proc, self.pool.isFinalized proc = true → (self.pendingRequests proc).size = 0 ∧
    ∀ command, ((self.sendRpc proc command).calls.getLast?).map RpcCall.settlements = some [.error ProcessPool.deadError]

/-- No lease is made on a process after one of its requests has timed out. -/
def NeverLeasedAgain (start : RpcPool) (events : List RpcEvent) : Prop :=
  ∀ before after, before ++ after = events → ∀ call ∈ (run RpcPool.step start before).calls, call.timedOut = true →
    ∀ (lease : Nat) (object : RpcProcessLease),
      (run RpcPool.step start events).pool.leaseObjects[lease]? = some object →
      (run RpcPool.step start before).pool.leaseObjects.length ≤ lease → object.process ≠ call.process

/-- A process that ends with the step has an exit code. -/
def LeavesExitCode (self : RpcPool) : RpcEvent → Prop
  | .exit proc none => self.pool.processes.length ≤ proc ∨ self.pool.isFinalized proc = true
  | .error proc none => self.pool.processes.length ≤ proc ∨ self.pool.isFinalized proc = true
  | _ => True

theorem settlements_sendRpc (self : RpcPool) (proc : Nat) (command : JsString) :
    ((self.sendRpc proc command).calls.getLast?).map RpcCall.settlements =
      some (if self.pool.hasNoExitCode proc then [] else [.error ProcessPool.deadError]) := by
  unfold RpcPool.sendRpc
  by_cases halive : self.pool.hasNoExitCode proc = true
  · rw [if_neg (not_not_intro halive), if_pos halive, List.getLast?_concat]
    rfl
  · rw [if_pos halive, if_neg halive, List.getLast?_concat]
    rfl

theorem ended_iff : self.Ended ↔ ∀ proc, self.pool.isFinalized proc = true →
    (self.pendingRequests proc).size = 0 ∧ self.pool.hasNoExitCode proc = false := by
  unfold Ended
  refine forall_congr' fun proc => forall_congr' fun _ => and_congr_right fun _ => ?_
  simp only [settlements_sendRpc]
  cases self.pool.hasNoExitCode proc with
  | false => exact iff_of_true (fun _ => rfl) rfl
  | true =>
    refine iff_of_false (fun hall => ?_) Bool.noConfusion
    cases hall []

theorem Ended.steady (h : self.Ended) {pool : ProcessPool} (hsteady : self.pool.Steady pool)
    {pendingRequests : Nat → OrderedMap JsString Nat}
    (hpending : ∀ proc, (self.pendingRequests proc).size = 0 → (pendingRequests proc).size = 0)
    {calls : List RpcCall} : Ended { self with pool, pendingRequests, calls } := by
  rw [ended_iff] at h ⊢
  intro proc hfinalized
  obtain ⟨hbefore, hsame⟩ := hsteady.finalized hfinalized
  obtain ⟨hnone, hdead⟩ := h proc hbefore
  exact ⟨hpending proc hnone, hsame.trans hdead⟩

theorem size_erase_zero {pending : OrderedMap JsString Nat} (h : pending.size = 0) (id : JsString) :
    (pending.erase id).size = 0 :=
  Nat.le_zero.mp ((List.length_filter_le _ _).trans (Nat.le_of_eq h))

theorem Ended.sendRpc (h : self.Ended) (proc : Nat) (command : JsString) : (self.sendRpc proc command).Ended := by
  have hbefore := ended_iff.mp h
  unfold RpcPool.sendRpc
  split
  · exact h.steady (ProcessPool.steady_of_vitals rfl) fun _ hnone => hnone
  · rename_i halive
    rw [not_not] at halive
    rw [ended_iff]
    intro other hfinalized
    obtain ⟨hnone, hdead⟩ := hbefore other hfinalized
    refine ⟨?_, hdead⟩
    have hne : other ≠ proc := by
      rintro rfl
      rw [halive] at hdead
      cases hdead
    simp only [Function.update_of_ne hne]
    exact hnone

theorem Ended.onLine (h : self.Ended) (proc : Nat) (message : PiRpcMessage) : (self.onLine proc message).Ended := by
  unfold RpcPool.onLine
  split
  · exact h
  · split
    · exact h
    · refine h.steady (ProcessPool.steady_of_vitals rfl) fun other hnone => ?_
      by_cases hsame : other = proc
      · subst hsame
        rw [Function.update_self]
        exact size_erase_zero hnone _
      · rw [Function.update_of_ne hsame]
        exact hnone

theorem Ended.onTimeout (h : self.Ended) (request : Nat) : (self.onTimeout request).Ended := by
  unfold RpcPool.onTimeout
  split
  · exact h
  · rename_i call _
    split
    · exact h
    · refine h.steady (ProcessPool.steady_of_vitals (ProcessPool.vitals_decommission _ _)) fun other hnone => ?_
      by_cases hsame : other = call.process
      · subst hsame
        rw [Function.update_self]
        exact size_erase_zero hnone _
      · rw [Function.update_of_ne hsame]
        exact hnone

/-- The end of a process keeps what holds of the ended ones exactly where it leaves an exit code. -/
theorem ended_finalizeProcess_iff (h : self.Ended) (proc : Nat) (exitCode : Option Int) (error : JsString) :
    (self.finalizeProcess proc exitCode error).Ended ↔
      (exitCode = none → self.pool.processes.length ≤ proc ∨ self.pool.isFinalized proc = true) := by
  unfold RpcPool.finalizeProcess
  split
  · rename_i hended
    exact iff_of_true h fun _ => hended
  · rename_i hruns
    have hbefore := ended_iff.mp h
    rw [not_or, Nat.not_le, Bool.not_eq_true] at hruns
    obtain ⟨hlt, hrunning⟩ := hruns
    have hprocess := List.getElem?_eq_getElem hlt
    have hfinalized : self.pool.processes[proc].finalized = false := by
      rw [ProcessPool.isFinalized, hprocess] at hrunning
      exact hrunning
    have hafter := ProcessPool.processes_finalizeProcess hprocess hfinalized exitCode
    have hself : (self.pool.finalizeProcess proc exitCode).isFinalized proc = true ∧
        (self.pool.finalizeProcess proc exitCode).hasNoExitCode proc = exitCode.isNone := by
      rw [ProcessPool.isFinalized, ProcessPool.hasNoExitCode, hafter, List.getElem?_set_self hlt]
      exact ⟨rfl, rfl⟩
    rw [ended_iff]
    constructor
    · rintro hended rfl
      have hdead := (hended proc hself.1).2
      rw [hself.2] at hdead
      cases hdead
    · intro hcode other hother
      by_cases hsame : other = proc
      · subst hsame
        refine ⟨?_, hself.2.trans ?_⟩
        · simp only [Function.update_self]
          rfl
        · cases exitCode with
          | some code => rfl
          | none =>
            obtain hunknown | hended := hcode rfl
            · omega
            · rw [hrunning] at hended
              cases hended
      · have hkept : (self.pool.finalizeProcess proc exitCode).processes[other]? = self.pool.processes[other]? := by
          rw [hafter, List.getElem?_set_ne (Ne.symm hsame)]
        have hended : self.pool.isFinalized other = true := by
          rw [ProcessPool.isFinalized, hkept] at hother
          exact hother
        obtain ⟨hnone, hdead⟩ := hbefore other hended
        refine ⟨?_, ?_⟩
        · simp only [Function.update_of_ne hsame]
          exact hnone
        · rw [ProcessPool.hasNoExitCode, hkept]
          exact hdead

/-- A step keeps what holds of the ended processes exactly where it leaves an exit code. -/
theorem ended_step_iff (h : self.Ended) (event : RpcEvent) :
    (self.step event).Ended ↔ self.LeavesExitCode event := by
  cases event with
  | acquire existsSync holder cwd =>
    exact iff_of_true (h.steady (ProcessPool.steady_acquire _ _ _ _) fun _ hnone => hnone) trivial
  | acquireAny holder =>
    exact iff_of_true (h.steady (ProcessPool.steady_acquireAny _ _) fun _ hnone => hnone) trivial
  | release lease =>
    have hsteady := ProcessPool.steady_of_vitals (ProcessPool.vitals_releaseLease self.pool lease)
    exact iff_of_true (h.steady hsteady fun _ hnone => hnone) trivial
  | evictIdleDifferentCwd targetCwd =>
    have hsteady := ProcessPool.steady_of_vitals (ProcessPool.vitals_evictIdleDifferentCwd self.pool targetCwd)
    exact iff_of_true (h.steady hsteady fun _ hnone => hnone) trivial
  | forceKill proc =>
    have hsteady := ProcessPool.steady_of_vitals (ProcessPool.vitals_forceKill self.pool proc)
    exact iff_of_true (h.steady hsteady fun _ hnone => hnone) trivial
  | decommissionAll =>
    have hsteady := ProcessPool.steady_of_vitals (ProcessPool.vitals_decommissionAll self.pool)
    exact iff_of_true (h.steady hsteady fun _ hnone => hnone) trivial
  | spawn cwd =>
    refine iff_of_true ?_ trivial
    rw [RpcPool.step]
    split
    · exact h
    · exact h.steady (ProcessPool.steady_spawn _ _) fun _ hnone => hnone
  | sendRpc proc command => exact iff_of_true (h.sendRpc proc command) trivial
  | line proc message => exact iff_of_true (h.onLine proc message) trivial
  | timeout request => exact iff_of_true (h.onTimeout request) trivial
  | exit proc exitCode =>
    rw [RpcPool.step, ended_finalizeProcess_iff h]
    cases exitCode with
    | none => exact forall_prop_of_true rfl
    | some code => exact iff_of_true (fun hnone => nomatch hnone) trivial
  | error proc exitCode =>
    rw [RpcPool.step, ended_finalizeProcess_iff h]
    cases exitCode with
    | none => exact forall_prop_of_true rfl
    | some code => exact iff_of_true (fun hnone => nomatch hnone) trivial

/-- In every run the requests are correlated and a process with a timed-out one is leased no more; the ended processes
    have none and refuse further ones exactly where every process ends with an exit code. -/
theorem rpc_correlation (maxProcesses prewarmCount : Nat) (events : List RpcEvent) :
    (Always RpcPool.step (start maxProcesses prewarmCount) (fun self => self.Correlated ∧ self.Ended) events ∧
      NeverLeasedAgain (start maxProcesses prewarmCount) events) ↔
    EveryStep RpcPool.step (start maxProcesses prewarmCount) LeavesExitCode events := by
  have hruns := requestsOk_run (requestsOk_start maxProcesses prewarmCount)
  have hnever : NeverLeasedAgain (start maxProcesses prewarmCount) events := by
    rintro before after rfl call hcall htimedOut lease object hobject hnew hprocess
    rw [run_append] at hobject
    obtain ⟨-, -, hgrows⟩ := requestsOk_run (hruns before).1 after
    refine hgrows.fresh lease object hobject hnew ?_
    rw [hprocess]
    exact (hruns before).1.timedOut call hcall htimedOut
  have hstart : (start maxProcesses prewarmCount).Ended := by
    rw [ended_iff]
    intro proc hfinalized
    cases hfinalized
  have hended := always_iff_everyStep hstart (fun _ event h => ended_step_iff h event) events
  constructor
  · rintro ⟨halways, -⟩
    exact hended.mp fun before hbefore => (halways before hbefore).2
  · intro hok
    refine ⟨fun before hbefore => ⟨fun call hcall => ?_, hended.mpr hok before hbefore⟩, hnever⟩
    exact ⟨(hruns before).1.once call hcall, (hruns before).1.own call hcall⟩

/-- A process is ended by a signal, and a further request to it is made. -/
def signalled : List RpcEvent :=
  [.acquire (fun _ => true) 0 (js "/project"), .exit 0 none, .sendRpc 0 (js "get_state")]

/-- The request to a process that a signal has ended stays pending. -/
theorem signalled_process_pends :
    ¬ (Always RpcPool.step (start 6 2) (fun self => self.Correlated ∧ self.Ended) signalled ∧
      NeverLeasedAgain (start 6 2) signalled) := by
  rintro ⟨halways, -⟩
  have hpending := (halways.last.2 0 (by decide)).1
  revert hpending
  decide +kernel

end RpcPool

end pipane.process_pool

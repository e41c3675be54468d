import Pipane.Server.ProcessPool.Requests

open javascript

namespace pipane.process_pool.ProcessPool

/-- A step that gives no lease and takes none back from a process that runs. -/
structure Neutral (before after : ProcessPool) : Prop where
  keeps : before.Keeps after
  requests : after.RequestsOk
  undisturbed : ∀ proc, before.Undisturbed after proc
  objects : ∀ (lease : Nat) (later : RpcProcessLease), after.leaseObjects[lease]? = some later →
    ∃ object : RpcProcessLease, before.leaseObjects[lease]? = some object ∧
      (later.released = true → object.released = true ∨ after.isFinalized object.process = true)
  finalized : ∀ proc, before.isFinalized proc = true → after.isFinalized proc = true

section

variable {pool : ProcessPool}

theorem Grows.length_le {after : ProcessPool} (h : pool.Grows after) :
    pool.leaseObjects.length ≤ after.leaseObjects.length := by
  by_contra hless
  obtain ⟨later, hlater, -⟩ := h.kept _ _ (List.getElem?_eq_getElem (Nat.not_le.mp hless))
  obtain ⟨hlt, -⟩ := List.getElem?_eq_some_iff.mp hlater
  omega

theorem Neutral.refl (hvalid : pool.Valid) (hok : pool.RequestsOk) : pool.Neutral pool :=
  ⟨hvalid.keeps_self, hok, Undisturbed.refl pool, fun _ later hlater => ⟨later, hlater, .inl⟩, fun _ => id⟩

theorem Neutral.trans {second third : ProcessPool} (h : pool.Neutral second) (hnext : second.Neutral third) :
    pool.Neutral third where
  keeps := h.keeps.trans fun _ => hnext.keeps
  requests := hnext.requests
  undisturbed proc := (h.undisturbed proc).trans (hnext.undisturbed proc)
  objects lease later hlater := by
    obtain ⟨middle, hmiddle, hlast⟩ := hnext.objects lease later hlater
    obtain ⟨object, hobject, hfirst⟩ := h.objects lease middle hmiddle
    obtain ⟨kept, hkept, hprocess, -, -⟩ := h.keeps.2.kept lease object hobject
    rw [hmiddle] at hkept
    cases hkept
    refine ⟨object, hobject, fun hreleased => ?_⟩
    obtain hreleased | hfinalized := hlast hreleased
    · exact (hfirst hreleased).imp_right (hnext.finalized _)
    · rw [hprocess] at hfinalized
      exact .inr hfinalized
  finalized proc hproc := hnext.finalized proc (h.finalized proc hproc)

theorem Untouched.neutral {after : ProcessPool} (h : pool.Untouched after) (hok : pool.RequestsOk)
    (hkeeps : pool.Keeps after) (hobjects : after.leaseObjects = pool.leaseObjects) : pool.Neutral after where
  keeps := hkeeps
  requests := h.requestsOk hok hkeeps.2
  undisturbed := h.undisturbed
  objects _ later hlater := ⟨later, by rw [← hobjects, hlater], .inl⟩
  finalized proc hproc := (h.finalized proc).trans hproc

theorem leaseObjects_decommission (pool : ProcessPool) (proc : Nat) :
    (pool.decommission proc).2.leaseObjects = pool.leaseObjects := by
  rw [ProcessPool.decommission]
  split
  · rfl
  · simp only
    split
    · rfl
    · rw [leaseObjects_kill]

theorem Neutral.kill (hvalid : pool.Valid) (hok : pool.RequestsOk) (proc : Nat) : pool.Neutral (pool.kill proc).2 :=
  (Untouched.kill pool proc).neutral hok (hvalid.kill proc) (leaseObjects_kill pool proc)

theorem Neutral.decommission (hvalid : pool.Valid) (hok : pool.RequestsOk) (proc : Nat) :
    pool.Neutral (pool.decommission proc).2 :=
  (Untouched.decommission pool proc).neutral hok (hvalid.decommission proc) (leaseObjects_decommission pool proc)

theorem Neutral.forceKill (hvalid : pool.Valid) (hok : pool.RequestsOk) (proc : Nat) :
    pool.Neutral (pool.forceKill proc).2 := by
  refine (Untouched.forceKill pool proc).neutral hok (hvalid.forceKill proc) ?_
  rw [ProcessPool.forceKill]
  split
  · rfl
  · rw [leaseObjects_kill]

theorem Neutral.evictIdleDifferentCwd (hvalid : pool.Valid) (hok : pool.RequestsOk) (targetCwd : JsString) :
    pool.Neutral (pool.evictIdleDifferentCwd targetCwd).2 := by
  rw [ProcessPool.evictIdleDifferentCwd]
  split
  · exact .decommission hvalid hok _
  · exact .refl hvalid hok

theorem Neutral.decommissionAll (hvalid : pool.Valid) (hok : pool.RequestsOk) : pool.Neutral pool.decommissionAll := by
  have hloop : ∀ (procs : List Nat) (current : ProcessPool), pool.Neutral current →
      pool.Neutral (procs.foldl (fun self proc => (self.decommission proc).2) current) := by
    intro procs
    induction procs with
    | nil => exact fun _ hcurrent => hcurrent
    | cons proc procs ih =>
      exact fun current hcurrent => ih _ (hcurrent.trans (.decommission hcurrent.keeps.1 hcurrent.requests proc))
  exact hloop _ pool (.refl hvalid hok)

theorem Neutral.sendRpc (hvalid : pool.Valid) (hok : pool.RequestsOk) (proc : Nat) {command : PiRpcCommand}
    (hcommand : command.changesSession = false) : pool.Neutral (pool.sendRpc proc command).2 where
  keeps := hvalid.sendRpc proc command
  requests := hok.sendRpc proc command
  undisturbed _ := Undisturbed.sendRpc pool command fun _ => hcommand
  objects _ later hlater := ⟨later, hlater, .inl⟩
  finalized _ := id

theorem RequestsOk.onRpcResponse (hok : pool.RequestsOk) (request : Nat) (response : PiRpcResponse)
    (opened : Option JsString) (sameCommand : Bool) (hgrows : pool.Grows (pool.onRpcResponse request response opened sameCommand)) :
    (pool.onRpcResponse request response opened sameCommand).RequestsOk := by
  obtain hsame | ⟨pending, process, hpending, hopen, hprocess, hafter⟩ :=
    onRpcResponse_cases pool request response opened sameCommand
  · rw [hsame]
    exact hok
  · rw [hafter] at hgrows ⊢
    refine hok.of_grows hgrows (by simp) fun q hq => ?_
    obtain hold | rfl := List.mem_or_eq_of_mem_set hq
    · exact .inl hold
    · exact .inr ⟨fun _ => RpcRequest.isSome_settled _ _, fun _ _ => rfl, fun h => (by cases h), fun h => (by cases h)⟩

theorem isFinalized_onRpcResponse (pool : ProcessPool) (request : Nat) (response : PiRpcResponse)
    (opened : Option JsString) (sameCommand : Bool) (proc : Nat) :
    (pool.onRpcResponse request response opened sameCommand).isFinalized proc = pool.isFinalized proc := by
  obtain hsame | ⟨pending, process, hpending, hopen, hprocess, hafter⟩ :=
    onRpcResponse_cases pool request response opened sameCommand
  · rw [hsame]
  · have hvitals : (pool.onRpcResponse request response opened sameCommand).vitals = pool.vitals := by
      rw [hafter]
      exact List.map_set_of_eq hprocess rfl
    rw [isFinalized_eq, isFinalized_eq, hvitals]

theorem Neutral.onRpcResponse (hvalid : pool.Valid) (hok : pool.RequestsOk) (request : Nat) (response : PiRpcResponse)
    (opened : Option JsString) (sameCommand : Bool) :
    pool.Neutral (pool.onRpcResponse request response opened sameCommand) where
  keeps := hvalid.onRpcResponse request response opened sameCommand
  requests := hok.onRpcResponse request response opened sameCommand (hvalid.onRpcResponse request response opened sameCommand).2
  undisturbed := hok.undisturbed_onRpcResponse request response opened sameCommand
  objects lease later hlater := by
    obtain hsame | ⟨pending, process, hpending, hopen, hprocess, hafter⟩ :=
      onRpcResponse_cases pool request response opened sameCommand
    · rw [hsame] at hlater
      exact ⟨later, hlater, .inl⟩
    · rw [hafter] at hlater
      exact ⟨later, hlater, .inl⟩
  finalized proc := (isFinalized_onRpcResponse pool request response opened sameCommand proc).trans

theorem Settles.settled {pending : RpcRequest} (error : JsString) : Settles pending (pending.settled (.error error)) := by
  refine ⟨rfl, rfl, rfl, ?_⟩
  simp only [RpcRequest.settled]
  cases houtcome : pending.outcome with
  | none => exact .inr ⟨rfl, error, rfl⟩
  | some outcome => exact .inl rfl

/-- A step in which requests fail, and with them only processes that are leased no more. -/
theorem Neutral.of_settles {after : ProcessPool} (hok : pool.RequestsOk) (hkeeps : pool.Keeps after)
    (hprocesses : pool.processes.length ≤ after.processes.length) (hlength : pool.requests.length ≤ after.requests.length)
    (hrequests : ∀ (r : Nat) (q : RpcRequest), after.requests[r]? = some q → ∃ old : RpcRequest,
      pool.requests[r]? = some old ∧ Settles old q ∧ (q = old ∨ (old.answered = false → after.Withdrawn old.process)))
    (hsession : ∀ proc, after.sessionOf proc = pool.sessionOf proc)
    (hobjects : ∀ (lease : Nat) (later : RpcProcessLease), after.leaseObjects[lease]? = some later →
      ∃ object : RpcProcessLease, pool.leaseObjects[lease]? = some object ∧
        (later.released = true → object.released = true ∨ after.isFinalized object.process = true))
    (hfinalized : ∀ proc, pool.isFinalized proc = true → after.isFinalized proc = true) : pool.Neutral after := by
  refine ⟨hkeeps, hok.of_grows hkeeps.2 hprocesses fun q hq => ?_, fun proc => .of_settles (fun r q hq => .inl ?_) hlength
    (hsession proc), hobjects, hfinalized⟩
  · obtain ⟨r, hr⟩ := List.getElem?_of_mem hq
    obtain ⟨old, hold, hsettles, rfl | hwithdrawn⟩ := hrequests r q hr
    · exact .inl (List.mem_of_getElem? hold)
    · obtain ⟨hsettled, hreceived, -, hspawned⟩ := hok old (List.mem_of_getElem? hold)
      refine .inr ⟨fun hanswered => ?_, fun response hresponse => ?_, fun hopen _ => ?_, fun hopen => ?_⟩
      · exact hsettles.advances.settled (hsettled (hsettles.answered ▸ hanswered))
      · rw [hsettles.answered]
        obtain hsame | ⟨-, error, herror⟩ := hsettles.outcome
        · exact hreceived response (hsame.symm.trans hresponse)
        · cases herror.symm.trans hresponse
      · rw [hsettles.process]
        exact hwithdrawn (hsettles.answered ▸ hopen)
      · rw [hsettles.process]
        exact Nat.lt_of_lt_of_le (hspawned (hsettles.answered ▸ hopen)) hprocesses
  · obtain ⟨old, hold, hsettles, -⟩ := hrequests r q hq
    exact ⟨old, hold, hsettles⟩

theorem onRpcTimeout_cases (pool : ProcessPool) (request : Nat) : pool.onRpcTimeout request = pool ∨
    ∃ pending : RpcRequest, pool.requests[request]? = some pending ∧ pool.onRpcTimeout request =
      (({ pool with requests := pool.requests.set request (pending.settled (.error (timeoutError pending.command)))
        } : ProcessPool).decommission pending.process).2 := by
  rw [onRpcTimeout]
  cases hpending : pool.requests[request]? with
  | none => exact .inl rfl
  | some pending =>
    simp only
    split
    · exact .inl rfl
    · exact .inr ⟨pending, rfl, by rw [settle_eq hpending]⟩

theorem Valid.withdrawn_decommission (hvalid : pool.Valid) {proc : Nat} (hproc : proc < pool.processes.length) :
    (pool.decommission proc).2.Withdrawn proc := by
  have hkeeps := (hvalid.decommission proc).2
  rw [ProcessPool.decommission] at hkeeps ⊢
  split
  · rename_i hignored
    obtain hdead | hmarked := hignored
    · by_cases hfinalized : pool.isFinalized proc = true
      · exact .inr hfinalized
      · rw [Bool.not_eq_true] at hfinalized
        exact absurd (hvalid.alive proc hfinalized hproc) hdead
    · exact .inl hmarked
  · have hmarked : ({ pool with decommissioning := pool.decommissioning.set proc () } : ProcessPool).Withdrawn proc := by
      refine .inl ?_
      rw [isDecommissioning, OrderedMap.contains, OrderedMap.get?_set, if_pos rfl]
      rfl
    simp only
    split
    · exact hmarked
    · exact ((hvalid.mark proc).1.kill proc).2.withdrawn proc hmarked

theorem Neutral.onRpcTimeout (hvalid : pool.Valid) (hok : pool.RequestsOk) (request : Nat) :
    pool.Neutral (pool.onRpcTimeout request) := by
  have hkeeps := hvalid.onRpcTimeout request
  obtain hsame | ⟨pending, hpending, hafter⟩ := onRpcTimeout_cases pool request
  · rw [hsame]
    exact .refl hvalid hok
  · rw [hafter] at hkeeps ⊢
    have huntouched := Untouched.decommission
      { pool with requests := pool.requests.set request (pending.settled (.error (timeoutError pending.command))) }
      pending.process
    refine .of_settles hok hkeeps huntouched.length ?_ (fun r q hq => ?_) huntouched.session (fun lease later hlater => ?_)
      fun proc => (huntouched.finalized proc).trans
    · rw [huntouched.requests, List.length_set]
    · rw [huntouched.requests] at hq
      obtain ⟨rfl, rfl⟩ | ⟨-, hold⟩ := List.getElem?_set_cases hq
      · have hsettled : ({ pool with
            requests := pool.requests.set r (pending.settled (.error (timeoutError pending.command)))
          } : ProcessPool).Valid := hvalid.frame rfl rfl rfl rfl rfl
        exact ⟨pending, hpending, .settled _, .inr fun hopen =>
          hsettled.withdrawn_decommission ((hok pending (List.mem_of_getElem? hpending)).spawned hopen)⟩
      · exact ⟨q, hold, .refl q, .inl rfl⟩
    · rw [leaseObjects_decommission] at hlater
      exact ⟨later, hlater, .inl⟩

/-- The lease objects after one lease was given back. -/
theorem leaseObjects_releaseLease (hvalid : pool.Valid) {lease id : Nat} {later : RpcProcessLease}
    (hlater : (pool.releaseLease lease).leaseObjects[id]? = some later) :
    ∃ object : RpcProcessLease, pool.leaseObjects[id]? = some object ∧ (id ≠ lease → later = object) ∧
      (id = lease → later.released = true) := by
  rw [ProcessPool.releaseLease] at hlater
  cases hobject : pool.leaseObjects[lease]? with
  | none =>
    simp only [hobject] at hlater
    refine ⟨later, hlater, fun _ => rfl, fun heq => ?_⟩
    rw [heq, hobject] at hlater
    cases hlater
  | some object =>
    simp only [hobject] at hlater
    split at hlater
    · rename_i hreleased
      refine ⟨later, hlater, fun _ => rfl, fun heq => ?_⟩
      rw [heq, hobject] at hlater
      cases hlater
      exact hreleased
    · rename_i hunreleased
      rw [Bool.not_eq_true] at hunreleased
      rw [if_neg (not_not_intro (hvalid.registered object.process lease ⟨object, hobject, rfl, hunreleased⟩))] at hlater
      have hmarked : (pool.leaseObjects.set lease { object with released := true })[id]? = some later := by
        simp only [markReleased, hobject] at hlater
        split at hlater
        · rw [leaseObjects_kill] at hlater
          exact hlater
        · exact hlater
      obtain ⟨rfl, rfl⟩ | ⟨hne, hold⟩ := List.getElem?_set_cases hmarked
      · exact ⟨object, hobject, fun hne => absurd rfl hne, fun _ => rfl⟩
      · exact ⟨later, hold, fun _ => rfl, fun heq => absurd heq hne⟩

theorem sessionOf_finalizeProcess (pool : ProcessPool) (proc : Nat) (exitCode : Option Int) (other : Nat) :
    (pool.finalizeProcess proc exitCode).sessionOf other = pool.sessionOf other := by
  rw [finalizeProcess]
  cases hprocess : pool.processes[proc]? with
  | none => rfl
  | some process =>
    simp only
    split
    · rfl
    · have hset : ((pool.processes.set proc { process with exitCode, finalized := true })[other]?).bind RpcProcess.session =
          pool.processes[other]?.bind RpcProcess.session := by
        by_cases hother : other = proc
        · subst hother
          rw [List.getElem?_set_same hprocess, hprocess]
          rfl
        · rw [List.getElem?_set_ne (Ne.symm hother)]
      cases pool.leases.get? proc with
      | none => exact hset
      | some lease =>
        simp only [markReleased]
        split <;> exact hset

/-- What is left of a process that has ended. -/
theorem finalizeProcess_cases (hvalid : pool.Valid) (proc : Nat) (exitCode : Option Int) :
    pool.finalizeProcess proc exitCode = pool ∨
      (pool.finalizeProcess proc exitCode).isFinalized proc = true ∧
      (pool.finalizeProcess proc exitCode).requests = (pool.requests.map fun request =>
        if request.process = proc ∧ request.outcome.isNone then
          { request with outcome := some (.error (exitError proc)) }
        else request) ∧
      (pool.finalizeProcess proc exitCode).processes.length = pool.processes.length ∧
      (∀ other, pool.isFinalized other = true → (pool.finalizeProcess proc exitCode).isFinalized other = true) ∧
      ∀ (lease : Nat) (later : RpcProcessLease), (pool.finalizeProcess proc exitCode).leaseObjects[lease]? = some later →
        ∃ object : RpcProcessLease, pool.leaseObjects[lease]? = some object ∧
          (later.released = true → object.released = true ∨ object.process = proc) := by
  rw [finalizeProcess]
  cases hprocess : pool.processes[proc]? with
  | none => exact .inl rfl
  | some process =>
    simp only
    split
    · exact .inl rfl
    · have hfinalized : ∀ (after : ProcessPool), after.processes = pool.processes.set proc { process with exitCode, finalized := true } →
          after.isFinalized proc = true ∧ ∀ other, pool.isFinalized other = true → after.isFinalized other = true := by
        intro after hafter
        have hproc : after.isFinalized proc = true := by
          rw [isFinalized, hafter, List.getElem?_set_same hprocess]
        refine ⟨hproc, fun other hother => ?_⟩
        by_cases heq : other = proc
        · rw [heq, hproc]
        · rw [isFinalized, hafter, List.getElem?_set_ne (Ne.symm heq)]
          exact hother
      refine .inr ?_
      cases hlease : pool.leases.get? proc with
      | none =>
        simp only
        refine ⟨(hfinalized _ rfl).1, trivial, List.length_set, (hfinalized _ rfl).2, ?_⟩
        exact fun lease later hlater => ⟨later, hlater, .inl⟩
      | some lease =>
        obtain ⟨object, hobject, hobjectProcess, -⟩ := hvalid.leased proc lease hlease
        simp only [markReleased, hobject]
        refine ⟨(hfinalized _ rfl).1, trivial, List.length_set, (hfinalized _ rfl).2, ?_⟩
        intro other later hlater
        obtain ⟨rfl, rfl⟩ | ⟨-, hold⟩ := List.getElem?_set_cases hlater
        · exact ⟨object, hobject, fun _ => .inr hobjectProcess⟩
        · exact ⟨later, hold, .inl⟩

theorem Neutral.finalizeProcess (hvalid : pool.Valid) (hok : pool.RequestsOk) (proc : Nat) (exitCode : Option Int) :
    pool.Neutral (pool.finalizeProcess proc exitCode) := by
  have hkeeps := hvalid.finalizeProcess proc exitCode
  obtain hsame | ⟨hfinalized, hrequests, hlength, hmono, hobjects⟩ := finalizeProcess_cases hvalid proc exitCode
  · rw [hsame]
    exact .refl hvalid hok
  · refine .of_settles hok hkeeps (Nat.le_of_eq hlength.symm) (by rw [hrequests, List.length_map]) (fun r q hq => ?_)
      (sessionOf_finalizeProcess pool proc exitCode) (fun lease later hlater => ?_) hmono
    · rw [hrequests, List.getElem?_map] at hq
      obtain ⟨old, hold, rfl⟩ := Option.map_eq_some_iff.mp hq
      refine ⟨old, hold, ?_⟩
      split
      · rename_i hpending
        refine ⟨⟨rfl, rfl, rfl, .inr ⟨Option.isNone_iff_eq_none.mp hpending.2, _, rfl⟩⟩, .inr fun _ => ?_⟩
        rw [hpending.1]
        exact .inr hfinalized
      · exact ⟨.refl old, .inl rfl⟩
    · obtain ⟨object, hobject, hreleased⟩ := hobjects lease later hlater
      refine ⟨object, hobject, fun hlast => (hreleased hlast).imp_right fun hproc => ?_⟩
      rw [hproc]
      exact hfinalized

theorem Neutral.spawn (hvalid : pool.Valid) (hok : pool.RequestsOk) (cwd : JsString)
    (hroom : pool.getAllProcesses.length < pool.maxProcesses) : pool.Neutral (pool.spawn cwd).2 :=
  (Untouched.spawn pool cwd).neutral hok (hvalid.spawn cwd hroom).1 rfl

theorem Neutral.prewarms (hvalid : pool.Valid) (hok : pool.RequestsOk) (prewarms : List Prewarm) :
    pool.Neutral { pool with prewarms } :=
  Untouched.neutral (.of_processes rfl rfl) hok
    ⟨hvalid.frame rfl rfl rfl rfl rfl, Grows.frame rfl rfl rfl fun _ => id⟩ rfl

theorem Neutral.continuePrewarm (hvalid : pool.Valid) (hok : pool.RequestsOk) (existsSync : JsString → Bool)
    (cwd : JsString) (needed next : Nat) : pool.Neutral (pool.continuePrewarm existsSync cwd needed next) := by
  rw [ProcessPool.continuePrewarm]
  split
  · exact .refl hvalid hok
  · rename_i hgoes
    rw [not_or, not_or, hvalid.totalProcesses_eq] at hgoes
    have hspawned := Neutral.spawn hvalid hok cwd (Nat.not_le.mp hgoes.2.1)
    simp only
    split
    · have hrequest := Neutral.sendRpc hspawned.keeps.1 hspawned.requests pool.processes.length
        (show PiRpcCommand.get_state.changesSession = false from rfl)
      have hsent := hspawned.trans hrequest
      exact hsent.trans (.prewarms hsent.keeps.1 hsent.requests _)
    · exact hspawned

theorem Neutral.resumePrewarm (hvalid : pool.Valid) (hok : pool.RequestsOk) (existsSync : JsString → Bool) (index : Nat) :
    pool.Neutral (pool.resumePrewarm existsSync index) := by
  rw [ProcessPool.resumePrewarm]
  split
  · exact .refl hvalid hok
  · rename_i waiting _
    split
    · exact .refl hvalid hok
    · split
      · exact .refl hvalid hok
      · have hdropped := Neutral.prewarms hvalid hok (pool.prewarms.eraseIdx index)
        exact hdropped.trans (.continuePrewarm hdropped.keeps.1 hdropped.requests existsSync waiting.cwd waiting.needed
          waiting.next)

end

/-- A step that gives a new lease on a process that was free. -/
structure Leases (before after : ProcessPool) (holder proc lease : Nat) : Prop where
  untouched : before.Untouched after
  fresh : lease = before.leaseObjects.length
  objects : after.leaseObjects = before.leaseObjects ++ [{ process := proc, released := false, acquiredBy := holder }]
  free : before.leases.get? proc = none

section

variable {pool : ProcessPool}

theorem reserve_cases (pool : ProcessPool) (holder proc : Nat) :
    (∃ error, pool.reserve holder proc = (.error error, pool)) ∨
      ((pool.reserve holder proc).1 = .ok pool.leaseObjects.length ∧
        pool.Leases (pool.reserve holder proc).2 holder proc pool.leaseObjects.length) := by
  rw [ProcessPool.reserve]
  split
  · exact .inl ⟨_, rfl⟩
  · rename_i havailable
    refine .inr ⟨rfl, .of_processes rfl rfl, rfl, rfl, ?_⟩
    obtain ⟨-, hleased, -⟩ := (isAvailable_iff pool proc).mp (not_not.mp havailable)
    rw [isLeased, OrderedMap.contains, Option.isSome_eq_false_iff, Option.isNone_iff_eq_none] at hleased
    exact hleased

theorem Leases.object {after : ProcessPool} {n proc id : Nat} (h : pool.Leases after n proc id) {other : Nat}
    {object : RpcProcessLease} (hobject : after.leaseObjects[other]? = some object) :
    pool.leaseObjects[other]? = some object ∨
      (other = id ∧ object = { process := proc, released := false, acquiredBy := n }) := by
  rw [h.objects] at hobject
  obtain hold | ⟨heq, hnew⟩ := List.getElem?_concat_cases hobject
  · exact .inl hold
  · exact .inr ⟨heq.trans h.fresh.symm, hnew⟩

theorem Leases.object_of_some {after : ProcessPool} {n proc id : Nat} (h : pool.Leases after n proc id) {other : Nat}
    {object : RpcProcessLease} (hobject : pool.leaseObjects[other]? = some object) :
    after.leaseObjects[other]? = some object := by
  rw [h.objects]
  exact List.getElem?_concat_of_some hobject _

theorem Leases.object_self {after : ProcessPool} {n proc id : Nat} (h : pool.Leases after n proc id) :
    after.leaseObjects[id]? = some { process := proc, released := false, acquiredBy := n } := by
  rw [h.objects, h.fresh]
  exact List.getElem?_concat_last _ _

/-- The outcome of a call that may give a lease. -/
def Reserves (before : ProcessPool) (holder : Nat) (result : Except JsString (Option Nat) × ProcessPool) : Prop :=
  (∃ lease proc, result.1 = .ok (some lease) ∧ before.Leases result.2 holder proc lease) ∨
    ((∀ lease, result.1 ≠ .ok (some lease)) ∧ before.Untouched result.2 ∧ result.2.leaseObjects = before.leaseObjects)

theorem reserves_reserve (pool : ProcessPool) (holder proc : Nat) :
    pool.Reserves holder ((pool.reserve holder proc).1.map some, (pool.reserve holder proc).2) := by
  obtain ⟨error, heq⟩ | ⟨heq, hleases⟩ := pool.reserve_cases holder proc
  · rw [heq]
    exact .inr ⟨fun lease h => (by cases h), .refl pool, rfl⟩
  · rw [heq]
    exact .inl ⟨_, proc, rfl, hleases⟩

theorem reserves_acquireAny (pool : ProcessPool) (holder : Nat) : pool.Reserves holder (pool.acquireAny holder) := by
  rw [ProcessPool.acquireAny]
  split
  · exact reserves_reserve pool holder _
  · exact .inr ⟨fun lease h => (by cases h), .refl pool, rfl⟩

theorem reserves_acquire (pool : ProcessPool) (existsSync : JsString → Bool) (holder : Nat) (cwd : JsString) :
    pool.Reserves holder (pool.acquire existsSync holder cwd) := by
  rw [ProcessPool.acquire]
  split
  · exact reserves_reserve pool holder _
  · split
    · exact .inr ⟨fun lease h => (by cases h), .refl pool, rfl⟩
    · split
      · exact .inr ⟨fun lease h => (by cases h), .refl pool, rfl⟩
      · have hspawned := Untouched.spawn pool cwd
        obtain ⟨lease, proc, hok, hleases⟩ | ⟨hnone, huntouched, hobjects⟩ :=
          (pool.spawn cwd).2.reserves_reserve holder pool.processes.length
        · exact .inl ⟨lease, proc, hok, hspawned.trans hleases.untouched, hleases.fresh, hleases.objects, hleases.free⟩
        · exact .inr ⟨hnone, hspawned.trans huntouched, hobjects⟩

theorem RequestsOk.answered_of_quiet (hok : pool.RequestsOk) {proc : Nat} (hquiet : pool.Quiet proc)
    (hfree : ¬ pool.Withdrawn proc) : pool.Answered proc := by
  intro r q hq hproc hchanges _
  by_contra hopen
  rw [Bool.not_eq_true] at hopen
  refine hfree ?_
  rw [← hproc]
  exact (hok q (List.mem_of_getElem? hq)).withdrawn hopen (hquiet r q hq hproc hchanges)

theorem Awaiting.sendRpc {proc : Nat} (hall : pool.Answered proc) (command : PiRpcCommand) :
    (pool.sendRpc proc command).2.Awaiting proc pool.requests.length command := by
  refine ⟨fun r q hq hproc hchanges hne => ?_, _, List.getElem?_concat_last _ _, ?_⟩
  · obtain hold | ⟨rfl, -⟩ := List.getElem?_concat_cases hq
    · exact hall r q hold hproc hchanges fun hnone => by cases hnone
    · exact absurd rfl hne
  · split <;> exact ⟨rfl, rfl, fun data hdata => by cases hdata⟩

end

end pipane.process_pool.ProcessPool

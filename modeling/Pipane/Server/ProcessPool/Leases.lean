import Pipane.Lib.ListLookup
import Pipane.Lib.Transition
import Pipane.Server.ProcessPool

open javascript transition

namespace pipane.process_pool

/-- What happens to a pool: the calls of its owners, and what Pi, the timers and the system do to its processes.
    Wherever a call looks a directory up, the event says which ones exist. -/
inductive Event
  | acquire (existsSync : JsString → Bool) (holder : Nat) (cwd : JsString)
  | acquireAny (holder : Nat)
  | release (lease : Nat)
  | evictIdleDifferentCwd (targetCwd : JsString)
  | forceKill (proc : Nat)
  | decommissionAll
  | prewarm (existsSync : JsString → Bool) (cwd : JsString)
  | resumePrewarm (existsSync : JsString → Bool) (index : Nat)
  | sendRpc (proc : Nat) (command : PiRpcCommand)
  | rpcResponse (request : Nat) (response : PiRpcResponse) (opened : Option JsString) (sameCommand : Bool)
  | rpcTimeout (request : Nat)
  | exit (proc : Nat) (exitCode : Option Int)

def step (self : ProcessPool) : Event → ProcessPool
  | .acquire existsSync holder cwd => (self.acquire existsSync holder cwd).2
  | .acquireAny holder => (self.acquireAny holder).2
  | .release lease => self.releaseLease lease
  | .evictIdleDifferentCwd targetCwd => (self.evictIdleDifferentCwd targetCwd).2
  | .forceKill proc => (self.forceKill proc).2
  | .decommissionAll => self.decommissionAll
  | .prewarm existsSync cwd => self.prewarm existsSync cwd
  | .resumePrewarm existsSync index => self.resumePrewarm existsSync index
  | .sendRpc proc command => (self.sendRpc proc command).2
  | .rpcResponse request response opened sameCommand => self.onRpcResponse request response opened sameCommand
  | .rpcTimeout request => self.onRpcTimeout request
  | .exit proc exitCode => self.finalizeProcess proc exitCode

namespace ProcessPool

def Unreleased (self : ProcessPool) (lease proc : Nat) : Prop :=
  ∃ object, self.leaseObjects[lease]? = some object ∧ object.process = proc ∧ object.released = false

/-- A process that is leased no more: marked for the end, or ended. -/
def Withdrawn (self : ProcessPool) (proc : Nat) : Prop :=
  self.isDecommissioning proc = true ∨ self.isFinalized proc = true

/-- The processes that have not ended. -/
def liveProcesses (self : ProcessPool) : List Nat :=
  (List.range self.processes.length).filter fun proc => !self.isFinalized proc

/-- The maps agree with the lease objects and with the processes. -/
structure Valid (pool : ProcessPool) : Prop where
  leased : ∀ proc lease, pool.leases.get? proc = some lease → pool.Unreleased lease proc
  registered : ∀ proc lease, pool.Unreleased lease proc → pool.leases.get? proc = some lease
  unfinalized : ∀ proc lease, pool.leases.get? proc = some lease → pool.isFinalized proc = false
  spawned : ∀ (lease : Nat) (object : RpcProcessLease), pool.leaseObjects[lease]? = some object → object.process < pool.processes.length
  pooled : ∀ proc, proc ∈ pool.getAllProcesses ↔ proc < pool.processes.length ∧ pool.isFinalized proc = false
  nodup : pool.getAllProcesses.Nodup
  ofCwd : ∀ cwd procs, pool.pools.get? cwd = some procs → ∀ proc ∈ procs,
    (pool.processes[proc]?).map RpcProcess.cwd = some cwd
  alive : ∀ proc, pool.isFinalized proc = false → proc < pool.processes.length → pool.hasNoExitCode proc = true
  capacity : pool.getAllProcesses.length ≤ pool.maxProcesses

/-- What a call does to the leases: it makes new ones on processes that are not withdrawn and releases others. -/
structure Grows (before after : ProcessPool) : Prop where
  kept : ∀ (lease : Nat) (object : RpcProcessLease), before.leaseObjects[lease]? = some object →
    ∃ later : RpcProcessLease, after.leaseObjects[lease]? = some later ∧ later.process = object.process ∧
      later.acquiredBy = object.acquiredBy ∧ (object.released = true → later.released = true)
  fresh : ∀ (lease : Nat) (object : RpcProcessLease), after.leaseObjects[lease]? = some object → before.leaseObjects.length ≤ lease →
    ¬ before.Withdrawn object.process
  withdrawn : ∀ proc, before.Withdrawn proc → after.Withdrawn proc
  capacity : after.maxProcesses = before.maxProcesses

theorem Grows.refl (pool : ProcessPool) : pool.Grows pool where
  kept _ object h := ⟨object, h, rfl, rfl, id⟩
  fresh lease object h hlength := by
    obtain ⟨hlt, -⟩ := List.getElem?_eq_some_iff.mp h
    omega
  withdrawn _ h := h
  capacity := rfl

theorem Grows.trans {first second third : ProcessPool} (h : first.Grows second) (hnext : second.Grows third) :
    first.Grows third where
  kept lease object hobject := by
    obtain ⟨later, hlater, hprocess, hholder, hreleased⟩ := h.kept lease object hobject
    obtain ⟨last, hlast, hprocess', hholder', hreleased'⟩ := hnext.kept lease later hlater
    exact ⟨last, hlast, hprocess'.trans hprocess, hholder'.trans hholder, hreleased' ∘ hreleased⟩
  fresh lease object hobject hlength := by
    by_cases hold : lease < second.leaseObjects.length
    · obtain ⟨middle, hmiddle⟩ : ∃ middle, second.leaseObjects[lease]? = some middle := ⟨_, List.getElem?_eq_getElem hold⟩
      obtain ⟨later, hlater, hprocess, -, -⟩ := hnext.kept lease middle hmiddle
      rw [hobject] at hlater
      cases hlater
      rw [hprocess]
      exact h.fresh lease middle hmiddle hlength
    · exact fun hwithdrawn => hnext.fresh lease object hobject (Nat.not_lt.mp hold) (h.withdrawn _ hwithdrawn)
  withdrawn proc hproc := hnext.withdrawn proc (h.withdrawn proc hproc)
  capacity := hnext.capacity.trans h.capacity

/-- What the pool knows of a process apart from signals and Pi's session. -/
def vitals (self : ProcessPool) : List (JsString × Option Int × Bool) :=
  self.processes.map fun process => (process.cwd, process.exitCode, process.finalized)

theorem isFinalized_eq (self : ProcessPool) (proc : Nat) :
    self.isFinalized proc = (self.vitals[proc]?.map fun vital => vital.2.2).getD false := by
  rw [isFinalized, vitals, List.getElem?_map]
  cases self.processes[proc]? <;> rfl

theorem hasNoExitCode_eq (self : ProcessPool) (proc : Nat) :
    self.hasNoExitCode proc = (self.vitals[proc]?.map fun vital => vital.2.1.isNone).getD false := by
  rw [hasNoExitCode, vitals, List.getElem?_map]
  cases self.processes[proc]? <;> rfl

theorem length_vitals (self : ProcessPool) : self.vitals.length = self.processes.length :=
  List.length_map _

theorem cwd_eq (self : ProcessPool) (proc : Nat) :
    (self.processes[proc]?).map RpcProcess.cwd = self.vitals[proc]?.map Prod.fst := by
  rw [vitals, List.getElem?_map, Option.map_map]
  rfl

theorem Valid.frame {pool after : ProcessPool} (h : pool.Valid) (hvitals : after.vitals = pool.vitals)
    (hobjects : after.leaseObjects = pool.leaseObjects) (hleases : after.leases = pool.leases)
    (hpools : after.pools = pool.pools) (hmax : after.maxProcesses = pool.maxProcesses) : after.Valid := by
  have hlength : after.processes.length = pool.processes.length := by
    rw [← length_vitals, hvitals, length_vitals]
  have hfinalized : ∀ proc, after.isFinalized proc = pool.isFinalized proc := fun proc => by
    rw [isFinalized_eq, hvitals, ← isFinalized_eq]
  have hall : after.getAllProcesses = pool.getAllProcesses := by rw [getAllProcesses, hpools, getAllProcesses]
  have hunreleased : ∀ lease proc, after.Unreleased lease proc ↔ pool.Unreleased lease proc := fun lease proc => by
    rw [Unreleased, hobjects, Unreleased]
  constructor
  · intro proc lease
    rw [hleases, hunreleased]
    exact h.leased proc lease
  · intro proc lease
    rw [hleases, hunreleased]
    exact h.registered proc lease
  · intro proc lease
    rw [hleases, hfinalized]
    exact h.unfinalized proc lease
  · intro lease object
    rw [hobjects, hlength]
    exact h.spawned lease object
  · intro proc
    rw [hall, hlength, hfinalized]
    exact h.pooled proc
  · rw [hall]
    exact h.nodup
  · intro cwd procs
    rw [hpools]
    intro hprocs proc hproc
    rw [cwd_eq, hvitals, ← cwd_eq]
    exact h.ofCwd cwd procs hprocs proc hproc
  · intro proc
    rw [hfinalized, hlength, hasNoExitCode_eq, hvitals, ← hasNoExitCode_eq]
    exact h.alive proc
  · rw [hall, hmax]
    exact h.capacity

theorem Grows.frame {pool after : ProcessPool} (hvitals : after.vitals = pool.vitals)
    (hobjects : after.leaseObjects = pool.leaseObjects) (hmax : after.maxProcesses = pool.maxProcesses)
    (hmarked : ∀ proc, pool.isDecommissioning proc = true → after.isDecommissioning proc = true) :
    pool.Grows after where
  kept lease object hobject := ⟨object, by rw [hobjects, hobject], rfl, rfl, id⟩
  fresh lease object hobject hlength := by
    rw [hobjects] at hobject
    obtain ⟨hlt, -⟩ := List.getElem?_eq_some_iff.mp hobject
    omega
  withdrawn proc hproc := by
    refine hproc.imp (hmarked proc) fun hfinalized => ?_
    rw [isFinalized_eq, hvitals, ← isFinalized_eq]
    exact hfinalized
  capacity := hmax

/-- A call that keeps the pool valid and only adds to it. -/
def Keeps (before after : ProcessPool) : Prop :=
  after.Valid ∧ before.Grows after

theorem Keeps.trans {first second third : ProcessPool} (h : first.Keeps second) (hnext : second.Valid → second.Keeps third) :
    first.Keeps third :=
  ⟨(hnext h.1).1, h.2.trans (hnext h.1).2⟩

theorem Valid.keeps_self {pool : ProcessPool} (h : pool.Valid) : pool.Keeps pool :=
  ⟨h, Grows.refl pool⟩

theorem vitals_updateProcess (self : ProcessPool) (proc : Nat) (update : RpcProcess → RpcProcess)
    (h : ∀ process, ((update process).cwd, (update process).exitCode, (update process).finalized) =
      (process.cwd, process.exitCode, process.finalized)) : (self.updateProcess proc update).vitals = self.vitals := by
  rw [updateProcess]
  cases hprocess : self.processes[proc]? with
  | none => rfl
  | some process => exact List.map_set_of_eq hprocess (h process)

theorem leaseObjects_kill (self : ProcessPool) (proc : Nat) : (self.kill proc).2.leaseObjects = self.leaseObjects := by
  rw [ProcessPool.kill]
  split
  · rfl
  · rw [updateProcess]
    cases self.processes[proc]? <;> rfl

theorem Valid.kill {pool : ProcessPool} (h : pool.Valid) (proc : Nat) : pool.Keeps (pool.kill proc).2 := by
  rw [ProcessPool.kill]
  split
  · exact h.keeps_self
  · have hvitals := vitals_updateProcess pool proc (fun process => { process with killed := true }) fun _ => rfl
    have hrest : ∀ update, (pool.updateProcess proc update).leaseObjects = pool.leaseObjects ∧
        (pool.updateProcess proc update).leases = pool.leases ∧ (pool.updateProcess proc update).pools = pool.pools ∧
        (pool.updateProcess proc update).maxProcesses = pool.maxProcesses ∧
        (pool.updateProcess proc update).decommissioning = pool.decommissioning := by
      intro update
      rw [updateProcess]
      cases pool.processes[proc]? <;> exact ⟨rfl, rfl, rfl, rfl, rfl⟩
    obtain ⟨hobjects, hleases, hpools, hmax, hmarked⟩ := hrest fun process => { process with killed := true }
    refine ⟨h.frame hvitals hobjects hleases hpools hmax, Grows.frame hvitals hobjects hmax fun other hother => ?_⟩
    rw [isDecommissioning, hmarked]
    exact hother

theorem Valid.mark {pool : ProcessPool} (h : pool.Valid) (proc : Nat) :
    pool.Keeps { pool with decommissioning := pool.decommissioning.set proc () } :=
  ⟨h.frame rfl rfl rfl rfl rfl, Grows.frame rfl rfl rfl fun _ => OrderedMap.contains_set⟩

theorem Valid.decommission {pool : ProcessPool} (h : pool.Valid) (proc : Nat) : pool.Keeps (pool.decommission proc).2 := by
  rw [ProcessPool.decommission]
  split
  · exact h.keeps_self
  · simp only
    split
    · exact h.mark proc
    · exact (h.mark proc).trans fun hmarked => hmarked.kill proc

theorem Valid.forceKill {pool : ProcessPool} (h : pool.Valid) (proc : Nat) : pool.Keeps (pool.forceKill proc).2 := by
  rw [ProcessPool.forceKill]
  split
  · exact h.keeps_self
  · exact (h.mark proc).trans fun hmarked => hmarked.kill proc

theorem Valid.decommissionAll {pool : ProcessPool} (h : pool.Valid) : pool.Keeps pool.decommissionAll := by
  have hloop : ∀ (procs : List Nat) (current : ProcessPool), pool.Keeps current →
      pool.Keeps (procs.foldl (fun self proc => (self.decommission proc).2) current) := by
    intro procs
    induction procs with
    | nil => exact fun _ hcurrent => hcurrent
    | cons proc procs ih => exact fun current hcurrent => ih _ (hcurrent.trans fun hvalid => hvalid.decommission proc)
  exact hloop _ pool h.keeps_self

theorem Valid.evictIdleDifferentCwd {pool : ProcessPool} (h : pool.Valid) (targetCwd : JsString) :
    pool.Keeps (pool.evictIdleDifferentCwd targetCwd).2 := by
  rw [ProcessPool.evictIdleDifferentCwd]
  split
  · exact h.decommission _
  · exact h.keeps_self

theorem Valid.sendRpc {pool : ProcessPool} (h : pool.Valid) (proc : Nat) (command : PiRpcCommand) :
    pool.Keeps (pool.sendRpc proc command).2 :=
  ⟨h.frame rfl rfl rfl rfl rfl, Grows.frame rfl rfl rfl fun _ hmarked => hmarked⟩

theorem Valid.settle {pool : ProcessPool} (h : pool.Valid) (request : Nat) (outcome : Except JsString PiRpcResponse) :
    pool.Keeps (pool.settle request outcome) := by
  rw [ProcessPool.settle]
  split
  · exact h.keeps_self
  · split
    · exact h.keeps_self
    · exact ⟨h.frame rfl rfl rfl rfl rfl, Grows.frame rfl rfl rfl fun _ hmarked => hmarked⟩

theorem Valid.onRpcTimeout {pool : ProcessPool} (h : pool.Valid) (request : Nat) :
    pool.Keeps (pool.onRpcTimeout request) := by
  rw [ProcessPool.onRpcTimeout]
  split
  · exact h.keeps_self
  · split
    · exact h.keeps_self
    · exact (h.settle _ _).trans fun hsettled => hsettled.decommission _

theorem Valid.onRpcResponse {pool : ProcessPool} (h : pool.Valid) (request : Nat) (response : PiRpcResponse)
    (opened : Option JsString) (sameCommand : Bool) :
    pool.Keeps (pool.onRpcResponse request response opened sameCommand) := by
  rw [ProcessPool.onRpcResponse]
  cases pool.requests[request]? with
  | none => exact h.keeps_self
  | some pending =>
    simp only
    cases hprocess : pool.processes[pending.process]? with
    | none => exact h.keeps_self
    | some process =>
      simp only
      split
      · exact h.keeps_self
      · refine Keeps.trans ?_ fun hvalid => hvalid.settle _ _
        refine ⟨h.frame ?_ rfl rfl rfl rfl, Grows.frame ?_ rfl rfl fun _ hmarked => hmarked⟩
        · exact List.map_set_of_eq hprocess rfl
        · exact List.map_set_of_eq hprocess rfl

theorem Valid.unique {pool : ProcessPool} (h : pool.Valid) {lease other proc : Nat}
    (hlease : pool.Unreleased lease proc) (hother : pool.Unreleased other proc) : lease = other := by
  have hsame := (h.registered proc lease hlease).symm.trans (h.registered proc other hother)
  exact Option.some.inj hsame

theorem isAvailable_iff (self : ProcessPool) (proc : Nat) : self.isAvailable proc = true ↔
    self.hasNoExitCode proc = true ∧ self.isLeased proc = false ∧ self.isDecommissioning proc = false := by
  rw [isAvailable, isLeased, isDecommissioning, Bool.and_eq_true, Bool.and_eq_true, Bool.not_eq_true', Bool.not_eq_true',
    and_assoc]

/-- A new lease on an available process of the pool. -/
theorem Valid.reserve {pool : ProcessPool} (h : pool.Valid) (holder : Nat) {proc : Nat} (hproc : proc ∈ pool.getAllProcesses) :
    pool.Keeps (pool.reserve holder proc).2 := by
  rw [ProcessPool.reserve]
  split
  · exact h.keeps_self
  · rename_i havailable
    obtain ⟨-, hleased, hmarked⟩ := (isAvailable_iff pool proc).mp (not_not.mp havailable)
    obtain ⟨hlt, hfinalized⟩ := (h.pooled proc).mp hproc
    have hnone : pool.leases.get? proc = none := by
      rw [ProcessPool.isLeased, OrderedMap.contains, Option.isSome_eq_false_iff, Option.isNone_iff_eq_none] at hleased
      exact hleased
    have hunreleased : ∀ (object : RpcProcessLease) (lease other : Nat), object.process = proc → object.released = false →
        ({ pool with
            leaseObjects := pool.leaseObjects ++ [object]
            leases := pool.leases.set proc pool.leaseObjects.length } : ProcessPool).Unreleased lease other →
        (lease = pool.leaseObjects.length ∧ other = proc) ∨ pool.Unreleased lease other := by
      rintro object lease other hprocess - ⟨found, hfound, hother, hreleased⟩
      obtain hold | ⟨hlast, rfl⟩ := List.getElem?_concat_cases hfound
      · exact .inr ⟨found, hold, hother, hreleased⟩
      · exact .inl ⟨hlast, hother.symm.trans hprocess⟩
    refine ⟨⟨?_, ?_, ?_, ?_, h.pooled, h.nodup, h.ofCwd, h.alive, h.capacity⟩, ⟨?_, ?_, fun _ hwithdrawn => hwithdrawn, rfl⟩⟩
    · intro other lease hlease
      by_cases hsame : other = proc
      · subst hsame
        rw [OrderedMap.get?_set_self] at hlease
        cases hlease
        exact ⟨_, List.getElem?_concat_last _ _, rfl, rfl⟩
      · rw [OrderedMap.get?_set_ne hsame] at hlease
        obtain ⟨object, hobject, hrest⟩ := h.leased other lease hlease
        exact ⟨object, List.getElem?_concat_of_some hobject _, hrest⟩
    · intro other lease hlease
      obtain ⟨rfl, rfl⟩ | hold := hunreleased _ lease other rfl rfl hlease
      · exact OrderedMap.get?_set_self _ _ _
      · have hother := h.registered other lease hold
        have hne : other ≠ proc := by
          rintro rfl
          rw [hnone] at hother
          cases hother
        rw [OrderedMap.get?_set_ne hne]
        exact hother
    · intro other lease hlease
      by_cases hsame : other = proc
      · rw [hsame]
        exact hfinalized
      · rw [OrderedMap.get?_set_ne hsame] at hlease
        exact h.unfinalized other lease hlease
    · intro lease object hobject
      obtain hold | ⟨-, rfl⟩ := List.getElem?_concat_cases hobject
      · exact h.spawned lease object hold
      · exact hlt
    · exact fun lease object hobject => ⟨object, List.getElem?_concat_of_some hobject _, rfl, rfl, id⟩
    · intro lease object hobject hlength
      obtain hold | ⟨-, rfl⟩ := List.getElem?_concat_cases hobject
      · obtain ⟨hbefore, -⟩ := List.getElem?_eq_some_iff.mp hold
        omega
      · rintro (hmarked' | hfinalized')
        · rw [hmarked] at hmarked'
          cases hmarked'
        · rw [hfinalized] at hfinalized'
          cases hfinalized'

theorem Valid.totalProcesses_eq {pool : ProcessPool} (h : pool.Valid) : pool.totalProcesses = pool.getAllProcesses.length := by
  rw [totalProcesses, List.filter_eq_self.mpr]
  intro proc hproc
  obtain ⟨hlt, hfinalized⟩ := (h.pooled proc).mp hproc
  exact h.alive proc hfinalized hlt

theorem flatten_set (pools : OrderedMap JsString (List Nat)) (cwd : JsString) (proc : Nat) :
    (pools.set cwd ((pools.get? cwd).getD [] ++ [proc])).values.flatten.Perm (proc :: pools.values.flatten) := by
  cases hprocs : pools.get? cwd with
  | none =>
    have hperm := (OrderedMap.values_set_of_none hprocs [proc]).flatten
    rw [List.flatten_cons, List.singleton_append] at hperm
    exact hperm
  | some procs =>
    obtain ⟨others, hbefore, hset, -⟩ := OrderedMap.values_of_get? hprocs
    refine (hset _).flatten.trans ?_
    rw [Option.getD_some, List.flatten_cons]
    have happend : (procs ++ [proc] ++ others.flatten).Perm (proc :: (procs ++ others.flatten)) := by
      rw [List.append_assoc]
      exact List.perm_middle
    refine happend.trans (List.Perm.cons _ ?_)
    have hsplit := hbefore.flatten
    rw [List.flatten_cons] at hsplit
    exact hsplit.symm

theorem Valid.spawn {pool : ProcessPool} (h : pool.Valid) (cwd : JsString)
    (hroom : pool.getAllProcesses.length < pool.maxProcesses) :
    pool.Keeps (pool.spawn cwd).2 ∧ (pool.spawn cwd).1 ∈ (pool.spawn cwd).2.getAllProcesses := by
  have hperm : (pool.spawn cwd).2.getAllProcesses.Perm (pool.processes.length :: pool.getAllProcesses) :=
    flatten_set pool.pools cwd pool.processes.length
  have hprocesses : (pool.spawn cwd).2.processes = pool.processes ++
      [{ cwd, exitCode := none, killed := false, finalized := false, session := none }] := rfl
  have hold : ∀ proc < pool.processes.length, (pool.spawn cwd).2.processes[proc]? = pool.processes[proc]? := by
    intro proc hlt
    rw [hprocesses, List.getElem?_append_left hlt]
  have hnew : (pool.spawn cwd).2.processes[pool.processes.length]? =
      some { cwd, exitCode := none, killed := false, finalized := false, session := none } := by
    rw [hprocesses, List.getElem?_concat_last]
  have hfinalized : ∀ proc < pool.processes.length, (pool.spawn cwd).2.isFinalized proc = pool.isFinalized proc := by
    intro proc hlt
    rw [isFinalized, hold proc hlt, isFinalized]
  have hfresh : (pool.spawn cwd).2.isFinalized pool.processes.length = false := by
    rw [isFinalized, hnew]
  have hcases : ∀ proc < (pool.spawn cwd).2.processes.length, proc < pool.processes.length ∨ proc = pool.processes.length := by
    intro proc hlt
    rw [hprocesses, List.length_append, List.length_singleton] at hlt
    omega
  have hlonger : (pool.spawn cwd).2.processes.length = pool.processes.length + 1 := by
    rw [hprocesses, List.length_append, List.length_singleton]
  refine ⟨⟨⟨h.leased, h.registered, ?_, ?_, ?_, ?_, ?_, ?_, ?_⟩, ⟨?_, ?_, ?_, rfl⟩⟩, ?_⟩
  · intro proc lease hlease
    obtain ⟨object, hobject, rfl, -⟩ := h.leased proc lease hlease
    rw [hfinalized _ (h.spawned lease object hobject)]
    exact h.unfinalized _ lease hlease
  · intro lease object hobject
    have hlt := h.spawned lease object hobject
    omega
  · intro proc
    rw [hperm.mem_iff, List.mem_cons, h.pooled]
    constructor
    · rintro (rfl | ⟨hlt, hrunning⟩)
      · exact ⟨by omega, hfresh⟩
      · exact ⟨by omega, by rw [hfinalized proc hlt, hrunning]⟩
    · rintro ⟨hlt, hrunning⟩
      obtain hlt | rfl := hcases proc hlt
      · exact .inr ⟨hlt, by rw [← hfinalized proc hlt, hrunning]⟩
      · exact .inl rfl
  · rw [hperm.nodup_iff, List.nodup_cons]
    refine ⟨fun hmem => ?_, h.nodup⟩
    have hlt := ((h.pooled _).mp hmem).1
    omega
  · intro other procs hprocs proc hproc
    have hprocs' : (pool.pools.set cwd (pool.poolForCwd cwd ++ [pool.processes.length])).get? other = some procs := hprocs
    by_cases hsame : other = cwd
    · subst hsame
      rw [OrderedMap.get?_set_self, Option.some.injEq] at hprocs'
      subst hprocs'
      obtain hmem | hlast := List.mem_append.mp hproc
      · cases hget : pool.pools.get? other with
        | none =>
          rw [poolForCwd, hget] at hmem
          cases hmem
        | some before =>
          rw [poolForCwd, hget] at hmem
          have hcwd := h.ofCwd other before hget proc hmem
          obtain ⟨process, hprocess, -⟩ := Option.map_eq_some_iff.mp hcwd
          obtain ⟨hlt, -⟩ := List.getElem?_eq_some_iff.mp hprocess
          rw [hold proc hlt, hcwd]
      · rw [List.mem_singleton.mp hlast, hnew]
        rfl
    · rw [OrderedMap.get?_set_ne hsame] at hprocs'
      have hcwd := h.ofCwd other procs hprocs' proc hproc
      obtain ⟨process, hprocess, -⟩ := Option.map_eq_some_iff.mp hcwd
      obtain ⟨hlt, -⟩ := List.getElem?_eq_some_iff.mp hprocess
      rw [hold proc hlt, hcwd]
  · intro proc hrunning hlt
    obtain hlt | rfl := hcases proc hlt
    · rw [hfinalized proc hlt] at hrunning
      rw [hasNoExitCode, hold proc hlt]
      exact h.alive proc hrunning hlt
    · rw [hasNoExitCode, hnew]
      rfl
  · rw [hperm.length_eq, List.length_cons]
    exact hroom
  · exact fun lease object hobject => ⟨object, hobject, rfl, rfl, id⟩
  · intro lease object hobject hlength
    obtain ⟨hlt, -⟩ := List.getElem?_eq_some_iff.mp hobject
    have hsame : (pool.spawn cwd).2.leaseObjects = pool.leaseObjects := rfl
    rw [hsame] at hlt
    omega
  · intro proc hwithdrawn
    refine hwithdrawn.imp_right fun hended => ?_
    have hlt : proc < pool.processes.length := by
      rw [isFinalized] at hended
      by_contra hout
      rw [List.getElem?_eq_none (Nat.not_lt.mp hout)] at hended
      cases hended
    rw [hfinalized proc hlt, hended]
  · rw [hperm.mem_iff]
    exact List.mem_cons_self

theorem Valid.acquire {pool : ProcessPool} (h : pool.Valid) (existsSync : JsString → Bool) (holder : Nat) (cwd : JsString) :
    pool.Keeps (pool.acquire existsSync holder cwd).2 := by
  rw [ProcessPool.acquire]
  split
  · rename_i idle hidle
    apply h.reserve
    have hmem := List.mem_of_find?_eq_some hidle
    rw [poolForCwd] at hmem
    cases hprocs : pool.pools.get? cwd with
    | none =>
      rw [hprocs] at hmem
      cases hmem
    | some procs =>
      rw [hprocs] at hmem
      exact List.mem_flatten.mpr ⟨procs, OrderedMap.mem_values_of_get? hprocs, hmem⟩
  · split
    · exact h.keeps_self
    · rename_i hroom
      split
      · exact h.keeps_self
      · rw [h.totalProcesses_eq] at hroom
        obtain ⟨hspawned, hmem⟩ := h.spawn cwd (Nat.not_le.mp hroom)
        exact hspawned.trans fun hvalid => hvalid.reserve holder hmem

theorem Valid.acquireAny {pool : ProcessPool} (h : pool.Valid) (holder : Nat) : pool.Keeps (pool.acquireAny holder).2 := by
  rw [ProcessPool.acquireAny]
  split
  · rename_i idle hidle
    exact h.reserve holder (List.mem_of_find?_eq_some hidle)
  · exact h.keeps_self

theorem Valid.continuePrewarm {pool : ProcessPool} (h : pool.Valid) (existsSync : JsString → Bool) (cwd : JsString)
    (needed next : Nat) : pool.Keeps (pool.continuePrewarm existsSync cwd needed next) := by
  rw [ProcessPool.continuePrewarm]
  split
  · exact h.keeps_self
  · rename_i hgoes
    rw [not_or, not_or, h.totalProcesses_eq] at hgoes
    obtain ⟨hspawned, -⟩ := h.spawn cwd (Nat.not_le.mp hgoes.2.1)
    simp only
    split
    · refine Keeps.trans (hspawned.trans fun hvalid => hvalid.sendRpc pool.processes.length .get_state) fun hvalid => ?_
      exact ⟨hvalid.frame rfl rfl rfl rfl rfl, Grows.frame rfl rfl rfl fun _ hmarked => hmarked⟩
    · exact hspawned

theorem Valid.resumePrewarm {pool : ProcessPool} (h : pool.Valid) (existsSync : JsString → Bool) (index : Nat) :
    pool.Keeps (pool.resumePrewarm existsSync index) := by
  rw [ProcessPool.resumePrewarm]
  split
  · exact h.keeps_self
  · rename_i waiting _
    split
    · exact h.keeps_self
    · split
      · exact h.keeps_self
      · refine Keeps.trans ?_ fun hvalid => hvalid.continuePrewarm existsSync waiting.cwd waiting.needed waiting.next
        exact ⟨h.frame rfl rfl rfl rfl rfl, Grows.frame rfl rfl rfl fun _ hmarked => hmarked⟩

/-- A pool that has taken a lease back. -/
def Drops (before after : ProcessPool) (proc lease : Nat) : Prop :=
  after.leases = before.leases.erase proc ∧
  ∃ object : RpcProcessLease, before.leaseObjects[lease]? = some object ∧ object.process = proc ∧
    after.leaseObjects = before.leaseObjects.set lease { object with released := true }

/-- The leases of a pool after one was taken back are those of other processes. -/
theorem Drops.unreleased {before after : ProcessPool} {proc lease : Nat} (hdrops : before.Drops after proc lease)
    (h : before.Valid) (hlease : before.leases.get? proc = some lease) (other otherProc : Nat) :
    after.Unreleased other otherProc ↔ before.Unreleased other otherProc ∧ otherProc ≠ proc := by
  obtain ⟨-, object, hobject, hprocess, hobjects⟩ := hdrops
  rw [Unreleased, hobjects]
  constructor
  · rintro ⟨found, hfound, hother, hreleased⟩
    obtain ⟨-, rfl⟩ | ⟨hne, hold⟩ := List.getElem?_set_cases hfound
    · cases hreleased
    · have hunreleased : before.Unreleased other otherProc := ⟨found, hold, hother, hreleased⟩
      refine ⟨hunreleased, ?_⟩
      rintro rfl
      have hregistered := h.registered otherProc other hunreleased
      rw [hlease] at hregistered
      exact hne (Option.some.inj hregistered).symm
  · rintro ⟨⟨found, hfound, hother, hreleased⟩, hne⟩
    have hdiffers : lease ≠ other := by
      rintro rfl
      rw [hobject] at hfound
      cases hfound
      exact hne (hother.symm.trans hprocess)
    exact ⟨found, by rw [List.getElem?_set_ne hdiffers, hfound], hother, hreleased⟩

theorem Drops.kept {before after : ProcessPool} {proc lease : Nat} (hdrops : before.Drops after proc lease)
    (other : Nat) (object : RpcProcessLease) (hobject : before.leaseObjects[other]? = some object) :
    ∃ later : RpcProcessLease, after.leaseObjects[other]? = some later ∧ later.process = object.process ∧
      later.acquiredBy = object.acquiredBy ∧ (object.released = true → later.released = true) := by
  obtain ⟨-, found, hfound, -, hobjects⟩ := hdrops
  rw [hobjects]
  by_cases hsame : other = lease
  · subst hsame
    rw [hobject] at hfound
    cases hfound
    exact ⟨_, List.getElem?_set_same hobject _, rfl, rfl, fun _ => rfl⟩
  · exact ⟨object, by rw [List.getElem?_set_ne (Ne.symm hsame), hobject], rfl, rfl, id⟩

theorem Drops.length {before after : ProcessPool} {proc lease : Nat} (hdrops : before.Drops after proc lease) :
    after.leaseObjects.length = before.leaseObjects.length := by
  obtain ⟨-, found, -, -, hobjects⟩ := hdrops
  rw [hobjects, List.length_set]

theorem Drops.fresh {before after : ProcessPool} {proc lease : Nat} (hdrops : before.Drops after proc lease)
    (other : Nat) (object : RpcProcessLease) (hobject : after.leaseObjects[other]? = some object)
    (hlength : before.leaseObjects.length ≤ other) : ¬ before.Withdrawn object.process := by
  obtain ⟨hlt, -⟩ := List.getElem?_eq_some_iff.mp hobject
  rw [hdrops.length] at hlt
  omega

theorem Drops.leases {before after : ProcessPool} {proc lease : Nat} (hdrops : before.Drops after proc lease)
    (h : before.Valid) (hlease : before.leases.get? proc = some lease) :
    (∀ other found, after.leases.get? other = some found → after.Unreleased found other) ∧
    (∀ other found, after.Unreleased found other → after.leases.get? other = some found) ∧
    (∀ other found, after.leases.get? other = some found → other ≠ proc ∧ before.leases.get? other = some found) := by
  have hget : ∀ other found, after.leases.get? other = some found ↔ other ≠ proc ∧ before.leases.get? other = some found := by
    intro other found
    rw [hdrops.1, OrderedMap.get?_erase]
    by_cases hsame : other = proc
    · simp [hsame]
    · simp [hsame]
  refine ⟨?_, ?_, fun other found => (hget other found).mp⟩
  · intro other found hfound
    obtain ⟨hne, hbefore⟩ := (hget other found).mp hfound
    exact (hdrops.unreleased h hlease found other).mpr ⟨h.leased other found hbefore, hne⟩
  · intro other found hfound
    obtain ⟨hbefore, hne⟩ := (hdrops.unreleased h hlease found other).mp hfound
    exact (hget other found).mpr ⟨hne, h.registered other found hbefore⟩

theorem Drops.spawned {before after : ProcessPool} {proc lease : Nat} (hdrops : before.Drops after proc lease)
    (h : before.Valid) (other : Nat) (object : RpcProcessLease) (hobject : after.leaseObjects[other]? = some object) :
    object.process < before.processes.length := by
  obtain ⟨-, found, hfound, -, hobjects⟩ := hdrops
  rw [hobjects] at hobject
  obtain ⟨-, rfl⟩ | ⟨-, hold⟩ := List.getElem?_set_cases hobject
  · exact h.spawned lease found hfound
  · exact h.spawned other object hold

theorem Drops.keeps {before after : ProcessPool} {proc lease : Nat} (hdrops : before.Drops after proc lease)
    (h : before.Valid) (hlease : before.leases.get? proc = some lease) (hprocesses : after.processes = before.processes)
    (hpools : after.pools = before.pools) (hmarked : after.decommissioning = before.decommissioning)
    (hmax : after.maxProcesses = before.maxProcesses) : before.Keeps after := by
  obtain ⟨hleased, hregistered, hget⟩ := hdrops.leases h hlease
  have hall : after.getAllProcesses = before.getAllProcesses := by rw [getAllProcesses, hpools, getAllProcesses]
  have hfinalized : ∀ other, after.isFinalized other = before.isFinalized other := fun other => by
    rw [isFinalized, hprocesses, isFinalized]
  refine ⟨⟨hleased, hregistered, ?_, ?_, ?_, ?_, ?_, ?_, ?_⟩, ⟨hdrops.kept, hdrops.fresh, ?_, hmax⟩⟩
  · intro other found hfound
    rw [hfinalized]
    exact h.unfinalized other found (hget other found hfound).2
  · rw [hprocesses]
    exact hdrops.spawned h
  · intro other
    rw [hall, hprocesses, hfinalized]
    exact h.pooled other
  · rw [hall]
    exact h.nodup
  · rw [hpools, hprocesses]
    exact h.ofCwd
  · intro other
    rw [hfinalized, hprocesses, hasNoExitCode, hprocesses, ← hasNoExitCode]
    exact h.alive other
  · rw [hall, hmax]
    exact h.capacity
  · intro other hwithdrawn
    rw [Withdrawn, isDecommissioning, hmarked, hfinalized]
    exact hwithdrawn

/-- A lease that is given back: nothing, or its own process is free. -/
theorem Valid.releaseLease_cases {pool : ProcessPool} (h : pool.Valid) (lease : Nat) :
    pool.releaseLease lease = pool ∨
    ∃ proc dropped, pool.leases.get? proc = some lease ∧ pool.Drops dropped proc lease ∧ pool.Keeps dropped ∧
      (pool.releaseLease lease = dropped ∨ pool.releaseLease lease = (dropped.kill proc).2) := by
  rw [ProcessPool.releaseLease]
  cases hobject : pool.leaseObjects[lease]? with
  | none => exact .inl rfl
  | some object =>
    simp only
    split
    · exact .inl rfl
    · rename_i hunreleased
      rw [Bool.not_eq_true] at hunreleased
      have hregistered := h.registered object.process lease ⟨object, hobject, rfl, hunreleased⟩
      rw [if_neg (not_not_intro hregistered)]
      have hdrops : pool.Drops (markReleased { pool with leases := pool.leases.erase object.process } lease)
          object.process lease := by
        rw [markReleased]
        simp only [hobject]
        exact ⟨rfl, object, hobject, rfl, rfl⟩
      have hkeeps : pool.Keeps (markReleased { pool with leases := pool.leases.erase object.process } lease) := by
        have hrest : ∀ current : ProcessPool, (current.markReleased lease).processes = current.processes ∧
            (current.markReleased lease).pools = current.pools ∧
            (current.markReleased lease).decommissioning = current.decommissioning ∧
            (current.markReleased lease).maxProcesses = current.maxProcesses := by
          intro current
          rw [markReleased]
          cases current.leaseObjects[lease]? <;> exact ⟨rfl, rfl, rfl, rfl⟩
        obtain ⟨hprocesses, hpools, hmarked, hmax⟩ := hrest { pool with leases := pool.leases.erase object.process }
        exact hdrops.keeps h hregistered hprocesses hpools hmarked hmax
      refine .inr ⟨object.process, _, hregistered, hdrops, hkeeps, ?_⟩
      split
      · exact .inr rfl
      · exact .inl rfl

theorem Valid.releaseLease {pool : ProcessPool} (h : pool.Valid) (lease : Nat) : pool.Keeps (pool.releaseLease lease) := by
  obtain hsame | ⟨proc, dropped, -, -, hkeeps, hreleased | hreleased⟩ := h.releaseLease_cases lease
  · rw [hsame]
    exact h.keeps_self
  · rw [hreleased]
    exact hkeeps
  · rw [hreleased]
    exact hkeeps.trans fun hvalid => hvalid.kill proc

theorem flatten_remove {pools : OrderedMap JsString (List Nat)} {cwd : JsString} {procs : List Nat} {proc : Nat}
    (hprocs : pools.get? cwd = some procs) (hproc : proc ∈ procs) :
    pools.values.flatten.Perm (proc ::
      (if procs.erase proc = [] then pools.erase cwd else pools.set cwd (procs.erase proc)).values.flatten) := by
  obtain ⟨others, hbefore, hset, herase⟩ := OrderedMap.values_of_get? hprocs
  have hsplit : pools.values.flatten.Perm (proc :: (procs.erase proc ++ others.flatten)) := by
    refine hbefore.flatten.trans ?_
    rw [List.flatten_cons, ← List.cons_append]
    exact (List.perm_cons_erase hproc).append_right _
  refine hsplit.trans (List.Perm.cons _ ?_)
  split
  · rename_i hempty
    rw [hempty, List.nil_append]
    exact herase.flatten.symm
  · have hafter := (hset (procs.erase proc)).flatten
    rw [List.flatten_cons] at hafter
    exact hafter.symm

/-- A process that ended leaves the pool, once it is leased no more. -/
theorem Valid.remove {pool : ProcessPool} (h : pool.Valid) {proc : Nat} {process : RpcProcess}
    (hprocess : pool.processes[proc]? = some process) (hrunning : process.finalized = false)
    (hunleased : pool.leases.get? proc = none) (exitCode : Option Int) (requests : List RpcRequest) :
    pool.Keeps { pool with
      processes := pool.processes.set proc { process with exitCode, finalized := true }
      pools :=
        if (pool.poolForCwd process.cwd).erase proc = [] then pool.pools.erase process.cwd
        else pool.pools.set process.cwd ((pool.poolForCwd process.cwd).erase proc)
      decommissioning := pool.decommissioning.erase proc
      requests } := by
  obtain ⟨hlt, -⟩ := List.getElem?_eq_some_iff.mp hprocess
  have hunfinalized : pool.isFinalized proc = false := by
    rw [isFinalized, hprocess]
    exact hrunning
  have hmem : proc ∈ pool.getAllProcesses := (h.pooled proc).mpr ⟨hlt, hunfinalized⟩
  obtain ⟨procs, hvalues, hproc⟩ := List.mem_flatten.mp hmem
  obtain ⟨cwd, hprocs⟩ := OrderedMap.exists_of_mem_values hvalues
  have hcwd := h.ofCwd cwd procs hprocs proc hproc
  rw [hprocess, Option.map_some, Option.some.injEq] at hcwd
  subst hcwd
  have hpool : pool.poolForCwd process.cwd = procs := by
    rw [poolForCwd, hprocs]
    rfl
  rw [hpool]
  have hperm := flatten_remove hprocs hproc
  have hsub : ∀ other found, (if procs.erase proc = [] then pool.pools.erase process.cwd
      else pool.pools.set process.cwd (procs.erase proc)).get? other = some found →
      ∃ before, pool.pools.get? other = some before ∧ ∀ entry ∈ found, entry ∈ before := by
    intro other found hfound
    by_cases hsame : other = process.cwd
    · subst hsame
      refine ⟨procs, hprocs, fun entry hentry => ?_⟩
      split at hfound
      · rw [OrderedMap.get?_erase_self] at hfound
        cases hfound
      · rw [OrderedMap.get?_set_self] at hfound
        cases hfound
        exact List.mem_of_mem_erase hentry
    · refine ⟨found, ?_, fun entry hentry => hentry⟩
      split at hfound
      · rwa [OrderedMap.get?_erase_ne hsame] at hfound
      · rwa [OrderedMap.get?_set_ne hsame] at hfound
  generalize (if procs.erase proc = [] then pool.pools.erase process.cwd
    else pool.pools.set process.cwd (procs.erase proc)) = pools at hperm hsub ⊢
  generalize hafter : ({ pool with
      processes := pool.processes.set proc { process with exitCode, finalized := true }
      pools
      decommissioning := pool.decommissioning.erase proc
      requests } : ProcessPool) = after
  have hprocesses : after.processes = pool.processes.set proc { process with exitCode, finalized := true } := by
    rw [← hafter]
  have hlength : after.processes.length = pool.processes.length := by rw [hprocesses, List.length_set]
  have hsame : ∀ other, other ≠ proc → after.processes[other]? = pool.processes[other]? := by
    intro other hne
    rw [hprocesses, List.getElem?_set_ne (Ne.symm hne)]
  have hended : after.isFinalized proc = true := by
    rw [isFinalized, hprocesses, List.getElem?_set_same hprocess]
  have hothers : ∀ other, other ≠ proc → after.isFinalized other = pool.isFinalized other := by
    intro other hne
    rw [isFinalized, hsame other hne, isFinalized]
  have hleases : after.leases = pool.leases := by rw [← hafter]
  have hobjects : after.leaseObjects = pool.leaseObjects := by rw [← hafter]
  have hpools : after.pools = pools := by rw [← hafter]
  have hall : pool.getAllProcesses.Perm (proc :: after.getAllProcesses) := by
    rw [getAllProcesses, getAllProcesses, hpools]
    exact hperm
  have hnodup := hall.nodup_iff.mp h.nodup
  rw [List.nodup_cons] at hnodup
  have hunreleased : ∀ lease other, after.Unreleased lease other ↔ pool.Unreleased lease other := by
    intro lease other
    rw [Unreleased, hobjects, Unreleased]
  have hmax : after.maxProcesses = pool.maxProcesses := by rw [← hafter]
  refine ⟨⟨?_, ?_, ?_, ?_, ?_, hnodup.2, ?_, ?_, ?_⟩, ⟨?_, ?_, ?_, hmax⟩⟩
  · intro other lease
    rw [hleases, hunreleased]
    exact h.leased other lease
  · intro other lease
    rw [hleases, hunreleased]
    exact h.registered other lease
  · intro other lease
    rw [hleases]
    intro hlease
    have hne : other ≠ proc := by
      rintro rfl
      rw [hunleased] at hlease
      cases hlease
    rw [hothers other hne]
    exact h.unfinalized other lease hlease
  · intro lease object
    rw [hobjects, hlength]
    exact h.spawned lease object
  · intro other
    have hbefore := h.pooled other
    rw [hall.mem_iff, List.mem_cons] at hbefore
    by_cases hne : other = proc
    · subst hne
      rw [hended]
      exact ⟨fun hin => absurd hin hnodup.1, fun hrun => absurd hrun.2 (by simp)⟩
    · rw [hlength, hothers other hne, ← hbefore]
      exact ⟨.inr, fun hin => hin.resolve_left hne⟩
  · intro other found hfound entry hentry
    rw [hpools] at hfound
    obtain ⟨before, hbefore, hin⟩ := hsub other found hfound
    have hentryCwd := h.ofCwd other before hbefore entry (hin entry hentry)
    by_cases hne : entry = proc
    · subst hne
      rw [hprocesses, List.getElem?_set_same hprocess]
      rw [hprocess] at hentryCwd
      exact hentryCwd
    · rw [hsame entry hne]
      exact hentryCwd
  · intro other hrun hin
    have hne : other ≠ proc := by
      rintro rfl
      rw [hended] at hrun
      cases hrun
    rw [hothers other hne] at hrun
    rw [hlength] at hin
    rw [hasNoExitCode, hsame other hne]
    exact h.alive other hrun hin
  · have hcapacity := h.capacity
    rw [hall.length_eq, List.length_cons] at hcapacity
    rw [hmax]
    omega
  · intro lease object hobject
    exact ⟨object, by rw [hobjects, hobject], rfl, rfl, id⟩
  · intro lease object hobject hnew
    rw [hobjects] at hobject
    obtain ⟨hold, -⟩ := List.getElem?_eq_some_iff.mp hobject
    omega
  · intro other hwithdrawn
    by_cases hne : other = proc
    · rw [hne]
      exact .inr hended
    · refine hwithdrawn.imp (fun hmarked => ?_) fun hdone => by rw [hothers other hne, hdone]
      rw [← hafter, isDecommissioning, OrderedMap.contains, OrderedMap.get?_erase_ne hne]
      exact hmarked

theorem Valid.finalizeProcess {pool : ProcessPool} (h : pool.Valid) (proc : Nat) (exitCode : Option Int) :
    pool.Keeps (pool.finalizeProcess proc exitCode) := by
  rw [ProcessPool.finalizeProcess]
  cases hprocess : pool.processes[proc]? with
  | none => exact h.keeps_self
  | some process =>
    simp only
    split
    · exact h.keeps_self
    · rename_i hrunning
      rw [Bool.not_eq_true] at hrunning
      cases hlease : pool.leases.get? proc with
      | none =>
        have hfree : pool.Keeps { pool with leases := pool.leases.erase proc } := by
          have hsame : ∀ other, (pool.leases.erase proc).get? other = pool.leases.get? other := by
            intro other
            rw [OrderedMap.get?_erase]
            split
            · rename_i heq
              rw [heq, hlease]
            · rfl
          refine ⟨⟨?_, ?_, ?_, h.spawned, h.pooled, h.nodup, h.ofCwd, h.alive, h.capacity⟩,
            Grows.frame rfl rfl rfl fun _ hmarked => hmarked⟩
          · exact fun other found hfound => h.leased other found (by rw [← hsame, hfound])
          · exact fun other found hfound => (hsame other).trans (h.registered other found hfound)
          · exact fun other found hfound => h.unfinalized other found (by rw [← hsame, hfound])
        exact hfree.trans fun hvalid => hvalid.remove hprocess hrunning (OrderedMap.get?_erase_self _ _) exitCode _
      | some lease =>
        obtain ⟨object, hobject, hobjectProcess, -⟩ := h.leased proc lease hlease
        have hdrops : pool.Drops { pool with
            leases := pool.leases.erase proc
            leaseObjects := pool.leaseObjects.set lease { object with released := true } } proc lease :=
          ⟨rfl, object, hobject, hobjectProcess, rfl⟩
        simp only [markReleased, hobject]
        exact (hdrops.keeps h hlease rfl rfl rfl rfl).trans fun hvalid =>
          hvalid.remove hprocess hrunning (OrderedMap.get?_erase_self _ _) exitCode _

theorem Valid.step {pool : ProcessPool} (h : pool.Valid) (event : Event) : pool.Keeps (process_pool.step pool event) := by
  cases event with
  | acquire existsSync holder cwd => exact h.acquire existsSync holder cwd
  | acquireAny holder => exact h.acquireAny holder
  | release lease => exact h.releaseLease lease
  | evictIdleDifferentCwd targetCwd => exact h.evictIdleDifferentCwd targetCwd
  | forceKill proc => exact h.forceKill proc
  | decommissionAll => exact h.decommissionAll
  | prewarm existsSync cwd => exact h.continuePrewarm existsSync cwd _ 0
  | resumePrewarm existsSync index => exact h.resumePrewarm existsSync index
  | sendRpc proc command => exact h.sendRpc proc command
  | rpcResponse request response opened sameCommand => exact h.onRpcResponse request response opened sameCommand
  | rpcTimeout request => exact h.onRpcTimeout request
  | exit proc exitCode => exact h.finalizeProcess proc exitCode

theorem valid_start (maxProcesses prewarmCount : Nat) : (start maxProcesses prewarmCount).Valid where
  leased _ _ h := nomatch h
  registered := by
    rintro proc lease ⟨object, hobject, -⟩
    cases hobject
  unfinalized _ _ h := nomatch h
  spawned _ _ h := nomatch h
  pooled proc := ⟨fun h => (nomatch h), fun h => (nomatch h.1)⟩
  nodup := List.nodup_nil
  ofCwd _ _ h := nomatch h
  alive _ _ h := nomatch h
  capacity := Nat.zero_le _

theorem Valid.run {pool : ProcessPool} (h : pool.Valid) (events : List Event) :
    pool.Keeps (run process_pool.step pool events) :=
  (always_of_step (P := pool.Keeps) h.keeps_self
    (fun _ event hkeeps => hkeeps.trans fun hvalid => hvalid.step event) events).last

theorem Valid.liveProcesses_perm {pool : ProcessPool} (h : pool.Valid) : pool.liveProcesses.Perm pool.getAllProcesses := by
  have hnodup : pool.liveProcesses.Nodup := List.nodup_range.filter _
  rw [List.perm_ext_iff_of_nodup hnodup h.nodup]
  intro proc
  rw [liveProcesses, List.mem_filter, List.mem_range, h.pooled, Bool.not_eq_true']

theorem Valid.releaseLease_others {pool : ProcessPool} (h : pool.Valid) {lease other proc : Nat} (hne : other ≠ lease)
    (hother : pool.Unreleased other proc) : (pool.releaseLease lease).Unreleased other proc := by
  obtain hsame | ⟨dropped, after, hlease, hdrops, -, hreleased⟩ := h.releaseLease_cases lease
  · rw [hsame]
    exact hother
  · have hdiffers : proc ≠ dropped := by
      rintro rfl
      have hregistered := h.registered proc other hother
      rw [hlease] at hregistered
      exact hne (Option.some.inj hregistered).symm
    have hafter := (hdrops.unreleased h hlease other proc).mpr ⟨hother, hdiffers⟩
    obtain hreleased | hreleased := hreleased
    · rw [hreleased]
      exact hafter
    · rw [hreleased, Unreleased, leaseObjects_kill]
      exact hafter

end ProcessPool

/-- Whatever happens to a pool, a process has at most one unreleased lease, giving a lease back never frees
    another one, no more than `maxProcesses` processes are alive, and a process that was marked for the end is
    leased no more. -/
theorem lease_invariant (maxProcesses prewarmCount : Nat) (before after : List Event) :
    let pool := run step (ProcessPool.start maxProcesses prewarmCount) before
    (∀ proc lease other, pool.Unreleased lease proc → pool.Unreleased other proc → lease = other) ∧
    (∀ lease other proc, other ≠ lease → pool.Unreleased other proc →
      (pool.releaseLease lease).Unreleased other proc ∧ (pool.releaseLease lease).leases.get? proc = some other) ∧
    pool.liveProcesses.length ≤ maxProcesses ∧
    ∀ proc, pool.isDecommissioning proc = true →
      ∀ (lease : Nat) (object : RpcProcessLease), (run step pool after).leaseObjects[lease]? = some object →
        object.process = proc → lease < pool.leaseObjects.length := by
  intro pool
  obtain ⟨hvalid, hgrows⟩ := (ProcessPool.valid_start maxProcesses prewarmCount).run before
  obtain ⟨-, hlater⟩ := hvalid.run after
  refine ⟨fun proc lease other => hvalid.unique, ?_, ?_, ?_⟩
  · intro lease other proc hne hother
    have hreleased := hvalid.releaseLease_others hne hother
    exact ⟨hreleased, (hvalid.releaseLease lease).1.registered proc other hreleased⟩
  · rw [hvalid.liveProcesses_perm.length_eq]
    exact hvalid.capacity.trans (Nat.le_of_eq hgrows.capacity)
  · intro proc hmarked lease object hobject hprocess
    by_contra hnew
    have hfresh := hlater.fresh lease object hobject (Nat.not_lt.mp hnew)
    rw [hprocess] at hfresh
    exact hfresh (.inl hmarked)

end pipane.process_pool

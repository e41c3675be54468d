import Pipane.Lib.Async.Rely
import Pipane.Server.ProcessPool.Neutral
import Pipane.Server.WsHandler.Commands

open async javascript pipane.process_pool pipane.session_actor pipane.session_jsonl pipane.session_registry

namespace pipane.ws_handler.runtime

/-- Who keeps a lease: a handler, or the actor that it was given to. -/
inductive Holder
  | command (self : Nat)
  | actor (actor : Nat)
deriving DecidableEq

namespace System

def heldBy (s : System) : Holder → Option HeldLease
  | .command self => (s.commands self).lease
  | .actor actor => (s.actors actor).lease

/-- Nothing that a handler or a listener sends has thrown, and no prompt for a new session has joined a turn. -/
def Calm (s : System) : Prop :=
  s.history.listenerThrew = false ∧ s.history.sendThrew = false ∧ s.history.joinedTurn = false

/-- No actor has a lease that a command has acquired. -/
def Gone (s : System) (self : Nat) : Prop :=
  ∀ (actor : Nat) (lease : HeldLease) (object : RpcProcessLease), (s.actors actor).lease = some lease →
    s.pool.leaseObjects[lease.id]? = some object → object.acquiredBy ≠ self

end System

/-- The leases that were not given back are those that a handler or an actor keeps, each of a process of its own. -/
structure LeasesOk (s : System) : Prop where
  valid : s.pool.Valid
  object : ∀ (holder : Holder) (lease : HeldLease), s.heldBy holder = some lease →
    ∃ object : RpcProcessLease, s.pool.leaseObjects[lease.id]? = some object ∧ object.process = lease.process ∧
      (object.released = true → s.pool.isFinalized lease.process = true)
  exclusive : ∀ (holder other : Holder) (lease taken : HeldLease), s.heldBy holder = some lease →
    s.heldBy other = some taken → lease.process = taken.process → holder = other
  kept : ∀ (id : Nat) (object : RpcProcessLease), s.pool.leaseObjects[id]? = some object →
    (id ∈ s.history.releases ∧ object.released = true) ∨ ∃ holder, s.heldBy holder = some ⟨id, object.process⟩
  acquirer : ∀ (self : Nat) (lease : HeldLease) (object : RpcProcessLease), (s.commands self).lease = some lease →
    s.pool.leaseObjects[lease.id]? = some object → object.acquiredBy = self
  unreleased : ∀ (holder : Holder) (lease : HeldLease), s.heldBy holder = some lease → lease.id ∉ s.history.releases
  once : s.history.releases.Nodup
  known : ∀ id ∈ s.history.releases, id < s.pool.leaseObjects.length

/-- What holds of an actor between the steps of the handlers; a listener that throws leaves it `releasing`. -/
structure ActorOk (listenerThrew : Bool) (owner : SessionActor) : Prop where
  session : owner.session.isSome = owner.lease.isSome
  phase : owner.phase = .detached ↔ owner.lease = none
  attaching : owner.phase ≠ .attaching
  empty : owner.phase = .detached ∨ owner.phase = .ready → owner.steeringQueue = []
  calm : listenerThrew = false → owner.phase ≠ .releasing ∧
    ∀ session, owner.session = some session → session.steeringQueue = owner.steeringQueue

/-- Events are forwarded to actors that were created. -/
def System.Observed (s : System) : Prop :=
  ∀ observer ∈ s.observers, observer.actor < s.actorCount

/-- The maps of the registry agree with the actors. -/
structure RegistryOk (s : System) : Prop where
  index : ∀ proc actor, s.registry.actorsByProcess.get? proc = some actor ↔ (s.actors actor).process = some proc
  paths : ∀ sessionPath actor, s.registry.actors.get? sessionPath = some actor →
    actor < s.actorCount ∧ (s.actors actor).sessionPath = sessionPath
  fresh : ∀ actor, s.actorCount ≤ actor → s.actors actor = SessionActor.create []
  observed : s.Observed

/-- The requests that are under way are those of who keeps their process. -/
structure RpcsOk (s : System) : Prop where
  requests : s.pool.RequestsOk
  quiet : ∀ proc, (∀ holder lease, s.heldBy holder = some lease → lease.process ≠ proc) → s.pool.Quiet proc
  bound : ∀ actor proc, (s.actors actor).process = some proc → s.pool.Bound proc (s.actors actor).sessionPath ∨
    ∃ self, (s.commands self).inside = some actor ∧ (s.commands self).forking = true
  sent : ∀ rpc ∈ s.history.rpcs, rpc.session = some rpc.sessionPath ∧ rpc.outstanding = false

/-- The command whose lease an actor has will release it: it runs in the queue of the actor, or the turn that it
    has begun is in progress. -/
structure AttachedOk (me : Command) (actor : Nat) (owner : SessionActor) (lease : HeldLease) : Prop where
  running : me.finished = false
  own : me.actor = some actor
  turn : (owner.phase = .ready ∧ me.inside = some actor) ∨
    (owner.isTurnActive = true ∧ me.generation = some owner.turnGeneration ∧ me.proc = some lease.process)

structure CalmOk (s : System) : Prop where
  slot : ∀ self, (s.commands self).lease ≠ none → (s.commands self).finished = false
  attached : ∀ (actor : Nat) (lease : HeldLease) (object : RpcProcessLease), (s.actors actor).lease = some lease →
    s.pool.leaseObjects[lease.id]? = some object →
    AttachedOk (s.commands object.acquiredBy) actor (s.actors actor) lease

/-- The invariant of the handlers. -/
structure Inv (s : System) : Prop where
  leases : LeasesOk s
  actors : ∀ actor, ActorOk s.history.listenerThrew (s.actors actor)
  registry : RegistryOk s
  inside : ∀ self actor, (s.commands self).inside = some actor → (s.actors actor).commandTail.head? = some self
  rpcs : RpcsOk s
  calm : s.Calm → CalmOk s
  legal : s.history.illegalTransition = false

/-- A process that a command may send requests to: that of its lease, or of the actor whose queue it has reached. -/
def Guards (self proc : Nat) (s : System) : Prop :=
  (∃ lease, (s.commands self).lease = some lease ∧ lease.process = proc) ∨
    ∃ actor, (s.commands self).inside = some actor ∧ (s.actors actor).process = some proc

/-- What a command that waits can rely on. -/
structure Rely (n : Nat) (s t : System) : Prop where
  command : t.commands n = s.commands n
  actor : ∀ actor, (s.commands n).inside = some actor →
    ∃ more, t.actors actor = { s.actors actor with commandTail := (s.actors actor).commandTail ++ more }
  process : ∀ proc, Guards n proc s → s.pool.Undisturbed t.pool proc
  gone : s.Gone n → t.Gone n

def Idle (self : Nat) (s : System) : Prop :=
  s.commands self = Command.none ∧ s.Gone self

theorem Guards.of_rely {self proc : Nat} {s t : System} (h : Rely self s t) (hguards : Guards self proc s) :
    Guards self proc t := by
  obtain ⟨lease, hlease, hproc⟩ | ⟨actor, hinside, hproc⟩ := hguards
  · exact .inl ⟨lease, by rw [h.command, hlease], hproc⟩
  · obtain ⟨more, hactor⟩ := h.actor actor hinside
    refine .inr ⟨actor, by rw [h.command, hinside], ?_⟩
    rw [hactor]
    exact hproc

theorem Rely.refl (self : Nat) (s : System) : Rely self s s where
  command := rfl
  actor _ _ := ⟨[], by rw [List.append_nil]⟩
  process proc _ := .refl s.pool proc
  gone := id

theorem Rely.trans {self : Nat} {s t u : System} (h : Rely self s t) (hnext : Rely self t u) : Rely self s u where
  command := hnext.command.trans h.command
  actor actor hinside := by
    obtain ⟨more, hmore⟩ := h.actor actor hinside
    obtain ⟨rest, hrest⟩ := hnext.actor actor (by rw [h.command, hinside])
    refine ⟨more ++ rest, ?_⟩
    rw [hrest, hmore, List.append_assoc]
  process proc hguards := (h.process proc hguards).trans (hnext.process proc (hguards.of_rely h))
  gone := hnext.gone ∘ h.gone

/-- What the commands of the server promise each other. -/
def discipline : Discipline System Wait where
  ready := ready
  Inv := Inv
  Rely := Rely
  Assume s := s.history.attachThrew = false
  Idle := Idle
  rely_refl := Rely.refl
  rely_trans := Rely.trans
  assume_of_evolves h hassume := by
    rw [← Bool.not_eq_true] at hassume ⊢
    exact fun hthrew => hassume (h.history.attachThrew hthrew)
  idle_of_rely h hidle := ⟨h.command.trans hidle.1, h.gone hidle.2⟩

/-- A change that the invariant does not see, but that something may have thrown. -/
structure Frame (s t : System) : Prop where
  pool : t.pool = s.pool
  actors : t.actors = s.actors
  actorCount : t.actorCount = s.actorCount
  paths : t.registry.actors = s.registry.actors
  index : t.registry.actorsByProcess = s.registry.actorsByProcess
  commands : t.commands = s.commands
  releases : t.history.releases = s.history.releases
  rpcs : t.history.rpcs = s.history.rpcs
  legal : t.history.illegalTransition = s.history.illegalTransition
  listenerThrew : s.history.listenerThrew = true → t.history.listenerThrew = true
  sendThrew : s.history.sendThrew = true → t.history.sendThrew = true
  joinedTurn : s.history.joinedTurn = true → t.history.joinedTurn = true
  observed : s.Observed → t.Observed

theorem Frame.refl (s : System) : Frame s s :=
  ⟨rfl, rfl, rfl, rfl, rfl, rfl, rfl, rfl, rfl, id, id, id, id⟩

theorem Frame.trans {s t u : System} (h : Frame s t) (hnext : Frame t u) : Frame s u :=
  ⟨hnext.pool.trans h.pool, hnext.actors.trans h.actors, hnext.actorCount.trans h.actorCount, hnext.paths.trans h.paths,
    hnext.index.trans h.index, hnext.commands.trans h.commands, hnext.releases.trans h.releases, hnext.rpcs.trans h.rpcs,
    hnext.legal.trans h.legal, hnext.listenerThrew ∘ h.listenerThrew, hnext.sendThrew ∘ h.sendThrew,
    hnext.joinedTurn ∘ h.joinedTurn, hnext.observed ∘ h.observed⟩

theorem false_of_grows {before after : Bool} (h : before = true → after = true) (hafter : after = false) :
    before = false := by
  cases before with
  | false => rfl
  | true =>
    rw [h rfl] at hafter
    cases hafter

theorem Frame.calm {s t : System} (h : Frame s t) (hcalm : t.Calm) : s.Calm :=
  ⟨false_of_grows h.listenerThrew hcalm.1, false_of_grows h.sendThrew hcalm.2.1, false_of_grows h.joinedTurn hcalm.2.2⟩

theorem Calm.of_adds {s t : System} (h : Adds s t) (hcalm : t.Calm) : s.Calm :=
  ⟨false_of_grows h.history.listenerThrew hcalm.1, false_of_grows h.history.sendThrew hcalm.2.1,
    false_of_grows h.history.joinedTurn hcalm.2.2⟩

theorem Frame.heldBy {s t : System} (h : Frame s t) (holder : Holder) : t.heldBy holder = s.heldBy holder := by
  cases holder with
  | command self => rw [System.heldBy, h.commands, System.heldBy]
  | actor actor => rw [System.heldBy, h.actors, System.heldBy]

theorem ActorOk.mono {before after : Bool} {owner : SessionActor} (h : ActorOk before owner)
    (hgrows : before = true → after = true) : ActorOk after owner :=
  ⟨h.session, h.phase, h.attaching, h.empty, fun hafter => h.calm (false_of_grows hgrows hafter)⟩

/-- The same leases are kept; the pool may note that processes of them are gone. -/
theorem LeasesOk.same {s t : System} (h : LeasesOk s) (hheld : ∀ holder, t.heldBy holder = s.heldBy holder)
    (hreleases : t.history.releases = s.history.releases) (hkeeps : s.pool.Keeps t.pool)
    (hobjects : ∀ (id : Nat) (later : RpcProcessLease), t.pool.leaseObjects[id]? = some later →
      ∃ object : RpcProcessLease, s.pool.leaseObjects[id]? = some object ∧
        (later.released = true → object.released = true ∨ t.pool.isFinalized object.process = true))
    (hfinalized : ∀ proc, s.pool.isFinalized proc = true → t.pool.isFinalized proc = true) : LeasesOk t := by
  have hback : ∀ (id : Nat) (later : RpcProcessLease), t.pool.leaseObjects[id]? = some later →
      ∃ object : RpcProcessLease, s.pool.leaseObjects[id]? = some object ∧ later.process = object.process ∧
        later.acquiredBy = object.acquiredBy ∧ (object.released = true → later.released = true) := by
    intro id later hlater
    obtain ⟨object, hobject, -⟩ := hobjects id later hlater
    obtain ⟨kept, hkept, hprocess, hacquired, hreleased⟩ := hkeeps.2.kept id object hobject
    rw [hlater] at hkept
    cases hkept
    exact ⟨object, hobject, hprocess, hacquired, hreleased⟩
  refine ⟨hkeeps.1, ?_, ?_, ?_, ?_, ?_, hreleases ▸ h.once, ?_⟩
  · intro holder lease hlease
    rw [hheld] at hlease
    obtain ⟨object, hobject, hprocess, hreleased⟩ := h.object holder lease hlease
    obtain ⟨later, hlater, hsame, -, -⟩ := hkeeps.2.kept lease.id object hobject
    obtain ⟨old, hold, hlast⟩ := hobjects lease.id later hlater
    rw [hobject] at hold
    cases hold
    refine ⟨later, hlater, hsame.trans hprocess, fun hlater => ?_⟩
    obtain hbefore | hgone := hlast hlater
    · exact hfinalized _ (hreleased hbefore)
    · rw [hprocess] at hgone
      exact hgone
  · intro holder other lease taken hlease htaken
    rw [hheld] at hlease htaken
    exact h.exclusive holder other lease taken hlease htaken
  · intro id later hlater
    obtain ⟨object, hobject, hprocess, -, hmono⟩ := hback id later hlater
    rw [hreleases, hprocess]
    exact (h.kept id object hobject).imp (fun ⟨hid, hreleased⟩ => ⟨hid, hmono hreleased⟩)
      fun ⟨holder, hholder⟩ => ⟨holder, (hheld holder).trans hholder⟩
  · intro self lease later hlease hlater
    obtain ⟨object, hobject, -, hacquired, -⟩ := hback lease.id later hlater
    rw [hacquired]
    exact h.acquirer self lease object ((hheld (.command self)).symm.trans hlease) hobject
  · intro holder lease hlease
    rw [hheld] at hlease
    rw [hreleases]
    exact h.unreleased holder lease hlease
  · intro id hid
    rw [hreleases] at hid
    exact Nat.lt_of_lt_of_le (h.known id hid) hkeeps.2.length_le

theorem LeasesOk.frame {s t : System} (h : LeasesOk s) (hheld : ∀ holder, t.heldBy holder = s.heldBy holder)
    (hpool : t.pool = s.pool) (hreleases : t.history.releases = s.history.releases) : LeasesOk t := by
  refine h.same hheld hreleases ?_ ?_ ?_ <;> rw [hpool]
  · exact ⟨h.valid, .refl s.pool⟩
  · exact fun id object hobject => ⟨object, hobject, .inl⟩
  · exact fun _ => id

theorem RegistryOk.same {s t : System} (h : RegistryOk s)
    (hpaths : t.registry.actors = s.registry.actors) (hindex : t.registry.actorsByProcess = s.registry.actorsByProcess)
    (hcount : t.actorCount = s.actorCount) (hobserved : s.Observed → t.Observed)
    (hlease : ∀ b, (t.actors b).lease = (s.actors b).lease)
    (hpath : ∀ b, (t.actors b).sessionPath = (s.actors b).sessionPath)
    (hfresh : ∀ b, s.actorCount ≤ b → t.actors b = s.actors b) : RegistryOk t := by
  refine ⟨fun proc b => ?_, fun sessionPath b hb => ?_, fun b hb => ?_, hobserved h.observed⟩
  · rw [hindex, SessionActor.process, hlease]
    exact h.index proc b
  · rw [hcount, hpath]
    exact h.paths sessionPath b (hpaths ▸ hb)
  · rw [hcount] at hb
    rw [hfresh b hb]
    exact h.fresh b hb

theorem RpcsOk.frame {s t : System} (h : RpcsOk s) (hheld : ∀ holder, t.heldBy holder = s.heldBy holder)
    (hpool : t.pool = s.pool) (hrpcs : t.history.rpcs = s.history.rpcs)
    (hpath : ∀ actor, (t.actors actor).sessionPath = (s.actors actor).sessionPath)
    (hforking : ∀ self actor, (s.commands self).inside = some actor ∧ (s.commands self).forking = true →
      (t.commands self).inside = some actor ∧ (t.commands self).forking = true) : RpcsOk t := by
  refine ⟨hpool ▸ h.requests, ?_, ?_, hrpcs ▸ h.sent⟩
  · intro proc hnone
    rw [hpool]
    refine h.quiet proc fun holder lease hlease => hnone holder lease ?_
    rw [hheld, hlease]
  · intro actor proc hproc
    have hbefore : (s.actors actor).process = some proc := by
      rw [← hproc, SessionActor.process, SessionActor.process]
      exact congrArg _ (hheld (.actor actor)).symm
    rw [hpool, hpath]
    exact (h.bound actor proc hbefore).imp_right fun ⟨self, hself⟩ => ⟨self, hforking self actor hself⟩

theorem Inv.frame {s t : System} (h : Inv s) (hframe : Frame s t) :
    Inv t := by
  refine ⟨h.leases.frame hframe.heldBy hframe.pool hframe.releases, ?_, ?_, ?_, ?_, ?_, hframe.legal.trans h.legal⟩
  · intro actor
    rw [hframe.actors]
    exact (h.actors actor).mono hframe.listenerThrew
  · exact h.registry.same hframe.paths hframe.index hframe.actorCount hframe.observed (fun b => by rw [hframe.actors])
      (fun b => by rw [hframe.actors]) fun b _ => by rw [hframe.actors]
  · rw [hframe.commands, hframe.actors]
    exact h.inside
  · refine h.rpcs.frame hframe.heldBy hframe.pool hframe.rpcs (fun actor => by rw [hframe.actors]) fun self actor => ?_
    rw [hframe.commands]
    exact id
  · intro hcalm
    obtain ⟨hslot, hattached⟩ := h.calm (hframe.calm hcalm)
    constructor
    · rw [hframe.commands]
      exact hslot
    · rw [hframe.actors, hframe.pool, hframe.commands]
      exact hattached

theorem Frame.gone {s t : System} (h : Frame s t) {self : Nat} : t.Gone self ↔ s.Gone self := by
  rw [System.Gone, h.actors, h.pool, System.Gone]

theorem Frame.rely {s t : System} (h : Frame s t) (self : Nat) : Rely self s t where
  command := by rw [h.commands]
  actor actor _ := ⟨[], by rw [h.actors, List.append_nil]⟩
  process proc _ := by rw [h.pool]; exact .refl s.pool proc
  gone := h.gone.mpr

end pipane.ws_handler.runtime

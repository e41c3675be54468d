import Pipane.Server.WsHandler.Commands.Steps

open async javascript pipane.process_pool pipane.session_actor pipane.session_jsonl pipane.session_registry

namespace pipane.ws_handler.runtime

variable {n m a proc key : Nat} {s t : System} {pool : ProcessPool} {lease : HeldLease}

theorem LeasesOk.free (h : LeasesOk s) (hleases : s.pool.Leases pool n proc key)
    (hkeeps : s.pool.Keeps pool) {holder : Holder} {taken : HeldLease} (htaken : s.heldBy holder = some taken) :
    taken.process ≠ proc := by
  intro hproc
  obtain ⟨object, hobject, hprocess, hreleased⟩ := h.object holder taken htaken
  have hfresh := hkeeps.2.fresh key _ hleases.object_self (Nat.le_of_eq hleases.fresh.symm)
  cases hobjectReleased : object.released with
  | true =>
    refine hfresh (.inr ?_)
    rw [← hproc]
    exact hreleased hobjectReleased
  | false =>
    have hregistered := h.valid.registered taken.process taken.id ⟨object, hobject, hprocess, hobjectReleased⟩
    rw [hproc, hleases.free] at hregistered
    cases hregistered

/-- The state after a command has acquired a lease. -/
def System.acquired (s : System) (pool : ProcessPool) (n : Nat) (lease : HeldLease) : System :=
  { s with pool }.setCommand n { s.commands n with lease := some lease }

theorem heldBy_acquired (s : System) (pool : ProcessPool) (n : Nat) (lease : HeldLease) (holder : Holder) :
    (s.acquired pool n lease).heldBy holder = if holder = .command n then some lease else s.heldBy holder :=
  heldBy_setCommand { s with pool } n _ holder

theorem LeasesOk.acquired (h : LeasesOk s) (hnone : (s.commands n).lease = none)
    (hleases : s.pool.Leases pool n proc key) (hkeeps : s.pool.Keeps pool) : LeasesOk (s.acquired pool n ⟨key, proc⟩) := by
  have hheld := heldBy_acquired s pool n ⟨key, proc⟩
  have hunknown : key ∉ s.history.releases := fun hmem => by
    have hlt := h.known key hmem
    rw [hleases.fresh] at hlt
    exact Nat.lt_irrefl _ hlt
  refine ⟨hkeeps.1, ?_, ?_, ?_, ?_, ?_, h.once, ?_⟩
  · intro holder lease hlease
    rw [hheld] at hlease
    split at hlease
    · cases hlease
      exact ⟨_, hleases.object_self, rfl, fun hreleased => by cases hreleased⟩
    · obtain ⟨object, hobject, hprocess, hreleased⟩ := h.object holder lease hlease
      refine ⟨object, hleases.object_of_some hobject, hprocess, fun hobjectReleased => ?_⟩
      rw [System.acquired]
      exact (hleases.untouched.finalized _).trans (hreleased hobjectReleased)
  · intro holder other lease taken hlease htaken hprocess
    rw [hheld] at hlease htaken
    split at hlease
    · cases hlease
      split at htaken
      · rename_i hholder hother
        rw [hholder, hother]
      · exact absurd hprocess.symm (h.free hleases hkeeps htaken)
    · split at htaken
      · cases htaken
        exact absurd hprocess (h.free hleases hkeeps hlease)
      · exact h.exclusive holder other lease taken hlease htaken hprocess
  · intro other object hobject
    obtain hold | ⟨rfl, rfl⟩ := hleases.object hobject
    · obtain hreleased | ⟨holder, hholder⟩ := h.kept other object hold
      · exact .inl hreleased
      · refine .inr ⟨holder, ?_⟩
        rw [hheld, if_neg]
        · exact hholder
        · rintro rfl
          rw [System.heldBy, hnone] at hholder
          cases hholder
    · exact .inr ⟨.command n, by rw [hheld, if_pos rfl]⟩
  · intro m lease object hlease hobject
    have hholder := (hheld (.command m)).symm.trans hlease
    split at hholder
    · rename_i heq
      cases hholder
      rw [show (s.acquired pool n ⟨key, proc⟩).pool = pool from rfl, hleases.object_self] at hobject
      cases hobject
      exact (Holder.command.inj heq).symm
    · obtain ⟨old, hold, -⟩ := h.object (.command m) lease hholder
      rw [show (s.acquired pool n ⟨key, proc⟩).pool = pool from rfl, hleases.object_of_some hold] at hobject
      cases hobject
      exact h.acquirer m lease object hholder hold
  · intro holder lease hlease
    rw [hheld] at hlease
    split at hlease
    · cases hlease
      exact hunknown
    · exact h.unreleased holder lease hlease
  · intro other hother
    exact Nat.lt_of_lt_of_le (h.known other hother) hkeeps.2.length_le

theorem Touches.attachedOk (htouches : Touches n a s t) {mine : Option HeldLease}
    (hself : t.commands n = { s.commands n with lease := mine }) {b : Nat} {owner : SessionActor}
    (h : AttachedOk (s.commands m) b owner lease) : AttachedOk (t.commands m) b owner lease := by
  obtain rfl | hne := eq_or_ne m n
  · rw [hself]
    exact ⟨h.running, h.own, h.turn⟩
  · rw [htouches.command m hne]
    exact h

theorem Touches.acquired (h : Inv s) (hleases : s.pool.Leases pool n proc key) (hkeeps : s.pool.Keeps pool) :
    Touches n 0 s (s.acquired pool n ⟨key, proc⟩) :=
  ⟨fun _ hm => setCommand_commands_of_ne _ hm _, fun _ _ => rfl, .inr rfl, hkeeps.2, hleases.untouched.undisturbed,
    hleases.untouched.requestsOk h.rpcs.requests hkeeps.2, id, rfl, h.rpcs.sent, rfl⟩

theorem Inv.acquired (h : Inv s) (hnone : (s.commands n).lease = none)
    (hrunning : (s.commands n).finished = false) (hleases : s.pool.Leases pool n proc key) (hkeeps : s.pool.Keeps pool) :
    Inv (s.acquired pool n ⟨key, proc⟩) := by
  have hself : (s.acquired pool n ⟨key, proc⟩).commands n = { s.commands n with lease := some ⟨key, proc⟩ } :=
    setCommand_commands_self _ n _
  refine h.touch (Touches.acquired h hleases hkeeps) (h.leases.acquired hnone hleases hkeeps)
    (h.registry.same rfl rfl rfl id (fun _ => rfl) (fun _ => rfl) fun _ _ => rfl) (h.actors 0) ?_ (fun m _ => h.inside m 0)
    (fun other hfree => hleases.untouched.quiet.mpr (h.rpcs.quiet other fun holder lease hlease => hfree holder lease ?_))
    (.inl fun _ => id) ?_ ?_
    fun _ _ _ _ hb _ _ hbefore => (Touches.acquired h hleases hkeeps).attachedOk hself (hbefore hb).2
  · rw [hself]
    exact h.inside n
  · rw [heldBy_acquired, if_neg]
    · exact hlease
    · rintro rfl
      rw [System.heldBy, hnone] at hlease
      cases hlease
  · rw [hself]
    exact fun _ hinside hfork => .inr ⟨hinside, hfork⟩
  · rw [hself]
    exact fun _ _ => hrunning

theorem Rely.acquired (h : Inv s) (hm : m ≠ n) (hleases : s.pool.Leases pool n proc key)
    (hkeeps : s.pool.Keeps pool) : Rely m s (s.acquired pool n ⟨key, proc⟩) :=
  (Touches.acquired h hleases hkeeps).rely (fun _ => rfl) ((Touches.acquired h hleases hkeeps).gone h (.inl rfl)) hm

theorem Inv.answered_acquired (h : Inv s) (hleases : s.pool.Leases pool n proc key) (hkeeps : s.pool.Keeps pool) :
    pool.Answered proc := by
  have hquiet := h.rpcs.quiet proc fun holder lease hlease => h.leases.free hleases hkeeps hlease
  have hfree := hkeeps.2.fresh key _ hleases.object_self (Nat.le_of_eq hleases.fresh.symm)
  exact hleases.untouched.answered.mpr (h.rpcs.requests.answered_of_quiet hquiet hfree)

/-- Who keeps a lease gives it back. -/
theorem LeasesOk.release (h : LeasesOk s) (holder : Holder) (hlease : s.heldBy holder = some lease)
    (hheld : ∀ other, t.heldBy other = if other = holder then none else s.heldBy other)
    (hpool : t.pool = s.pool.releaseLease lease.id) (hreleases : t.history.releases = s.history.releases ++ [lease.id]) :
    LeasesOk t := by
  have hkeeps := h.valid.releaseLease lease.id
  have huntouched := ProcessPool.Untouched.releaseLease s.pool lease.id
  have hother : ∀ (other : Holder) {taken : HeldLease}, t.heldBy other = some taken →
      other ≠ holder ∧ s.heldBy other = some taken ∧ taken.id ≠ lease.id := by
    intro other taken htaken
    rw [hheld] at htaken
    split at htaken
    · cases htaken
    · rename_i hne
      refine ⟨hne, htaken, fun hid => hne ?_⟩
      obtain ⟨object, hobject, hprocess, -⟩ := h.object holder lease hlease
      obtain ⟨found, hfound, hfoundProcess, -⟩ := h.object other taken htaken
      rw [hid, hobject] at hfound
      cases hfound
      exact h.exclusive other holder taken lease htaken hlease (hfoundProcess.symm.trans hprocess)
  rw [← hpool] at hkeeps huntouched
  have hback : ∀ (id : Nat) (later : RpcProcessLease), t.pool.leaseObjects[id]? = some later →
      ∃ object : RpcProcessLease, s.pool.leaseObjects[id]? = some object ∧ (id ≠ lease.id → later = object) ∧
        (id = lease.id → later.released = true) := by
    intro id later hlater
    rw [hpool] at hlater
    exact ProcessPool.leaseObjects_releaseLease h.valid hlater
  refine ⟨hkeeps.1, ?_, ?_, ?_, ?_, ?_, ?_, ?_⟩
  · intro other taken htaken
    obtain ⟨-, hbefore, hid⟩ := hother _ htaken
    obtain ⟨object, hobject, hprocess, hreleased⟩ := h.object other taken hbefore
    obtain ⟨later, hlater, -⟩ := hkeeps.2.kept taken.id object hobject
    obtain ⟨old, hold, hsame, -⟩ := hback taken.id later hlater
    rw [hobject] at hold
    cases hold
    rw [hsame hid] at hlater
    exact ⟨object, hlater, hprocess, fun hlast => (huntouched.finalized _).trans (hreleased hlast)⟩
  · intro other third taken found htaken hfound
    exact h.exclusive other third taken found (hother _ htaken).2.1 (hother _ hfound).2.1
  · intro id later hlater
    obtain ⟨object, hobject, hsame, hdone⟩ := hback id later hlater
    rw [hreleases]
    by_cases hid : id = lease.id
    · exact .inl ⟨List.mem_append_right _ (List.mem_singleton.mpr hid), hdone hid⟩
    · rw [hsame hid]
      obtain ⟨hmem, hreleased⟩ | ⟨other, htaken⟩ := h.kept id object hobject
      · exact .inl ⟨List.mem_append_left _ hmem, hreleased⟩
      · refine .inr ⟨other, ?_⟩
        rw [hheld, if_neg]
        · exact htaken
        · rintro rfl
          rw [hlease] at htaken
          cases htaken
          exact hid rfl
  · intro m taken later htaken hlater
    obtain ⟨-, hbefore, hid⟩ := hother (.command m) htaken
    obtain ⟨object, hobject, hsame, -⟩ := hback taken.id later hlater
    rw [hsame hid]
    exact h.acquirer m taken object hbefore hobject
  · intro other taken htaken hmem
    obtain ⟨-, hbefore, hid⟩ := hother _ htaken
    rw [hreleases] at hmem
    obtain hmem | hmem := List.mem_append.mp hmem
    · exact h.unreleased other taken hbefore hmem
    · exact hid (List.mem_singleton.mp hmem)
  · rw [hreleases, List.nodup_append]
    refine ⟨h.once, List.nodup_singleton _, ?_⟩
    rintro id hid other hlast rfl
    rw [List.mem_singleton.mp hlast] at hid
    exact h.unreleased holder lease hlease hid
  · intro id hid
    rw [hreleases] at hid
    refine Nat.lt_of_lt_of_le ?_ hkeeps.2.length_le
    obtain hid | hid := List.mem_append.mp hid
    · exact h.known id hid
    · rw [List.mem_singleton.mp hid]
      obtain ⟨object, hobject, -⟩ := h.object holder lease hlease
      exact (List.getElem?_eq_some_iff.mp hobject).1

theorem RpcsOk.quiet_of_release (h : RpcsOk s) (holder : Holder) (hlease : s.heldBy holder = some lease)
    (hheld : ∀ other, t.heldBy other = if other = holder then none else s.heldBy other)
    (hpool : t.pool = s.pool.releaseLease lease.id) (hquiet : s.pool.Quiet lease.process)
    (hnone : ∀ other taken, t.heldBy other = some taken → taken.process ≠ proc) : t.pool.Quiet proc := by
  rw [hpool, (ProcessPool.Untouched.releaseLease s.pool lease.id).quiet]
  by_cases hproc : lease.process = proc
  · rw [← hproc]
    exact hquiet
  · refine h.quiet proc fun other taken htaken => ?_
    by_cases hother : other = holder
    · subst hother
      rw [hlease] at htaken
      cases htaken
      exact hproc
    · exact hnone other taken (by rw [hheld, if_neg hother, htaken])

/-- The state after a handler has given its lease back. -/
def System.released (s : System) (n : Nat) (lease : HeldLease) : System :=
  { s with
    pool := s.pool.releaseLease lease.id
    history := { s.history with releases := s.history.releases ++ [lease.id] } }.setCommand n
      { s.commands n with lease := none }

theorem Touches.released (h : Inv s) (n : Nat) (lease : HeldLease) : Touches n 0 s (s.released n lease) :=
  have huntouched := ProcessPool.Untouched.releaseLease s.pool lease.id
  have hgrows := (h.leases.valid.releaseLease lease.id).2
  ⟨fun _ hm => setCommand_commands_of_ne _ hm _, fun _ _ => rfl, .inr rfl, hgrows, huntouched.undisturbed,
    huntouched.requestsOk h.rpcs.requests hgrows, id, rfl, h.rpcs.sent, rfl⟩

theorem Inv.released (h : Inv s) (hlease : (s.commands n).lease = some lease)
    (hquiet : s.pool.Quiet lease.process) : Inv (s.released n lease) := by
  have hself : (s.released n lease).commands n = { s.commands n with lease := none } := setCommand_commands_self _ n _
  have hheld : ∀ other, (s.released n lease).heldBy other = if other = .command n then none else s.heldBy other :=
    heldBy_setCommand _ n _
  refine h.touch (Touches.released h n lease) (h.leases.release (.command n) hlease hheld rfl rfl)
    (h.registry.same rfl rfl rfl id (fun _ => rfl) (fun _ => rfl) fun _ _ => rfl) (h.actors 0) ?_ (fun m _ => h.inside m 0)
    (fun proc hnone => h.rpcs.quiet_of_release (.command n) hlease hheld rfl hquiet hnone) (.inl fun _ => id) ?_ ?_
    fun _ _ _ _ hb _ _ hbefore => (Touches.released h n lease).attachedOk hself (hbefore hb).2
  · rw [hself]
    exact h.inside n
  · rw [hself]
    exact fun _ hinside hfork => .inr ⟨hinside, hfork⟩
  · rw [hself]
    exact fun _ hnone => absurd rfl hnone

theorem Rely.released (h : Inv s) (hm : m ≠ n) (lease : HeldLease) : Rely m s (s.released n lease) :=
  (Touches.released h n lease).rely (fun _ => rfl) ((Touches.released h n lease).gone h (.inl rfl)) hm

/-- A lease changes hands. -/
theorem LeasesOk.move (h : LeasesOk s) (hlease : (s.commands n).lease = some lease)
    (hnone : (s.actors a).lease = none)
    (hheld : ∀ other, t.heldBy other = if other = .command n then none else if other = .actor a then some lease
      else s.heldBy other) (hpool : t.pool = s.pool) (hreleases : t.history.releases = s.history.releases) : LeasesOk t := by
  have hback : ∀ (other : Holder) {taken : HeldLease}, t.heldBy other = some taken →
      (other = .actor a ∧ taken = lease) ∨ (other ≠ .actor a ∧ other ≠ .command n ∧ s.heldBy other = some taken) := by
    intro other taken htaken
    rw [hheld] at htaken
    split at htaken
    · cases htaken
    · rename_i hcommand
      split at htaken
      · rename_i hactor
        cases htaken
        exact .inl ⟨hactor, rfl⟩
      · rename_i hactor
        exact .inr ⟨hactor, hcommand, htaken⟩
  have hslot : s.heldBy (.command n) = some lease := hlease
  refine ⟨hpool ▸ h.valid, ?_, ?_, ?_, ?_, ?_, hreleases ▸ h.once, ?_⟩
  · intro other taken htaken
    rw [hpool]
    obtain ⟨-, rfl⟩ | ⟨-, -, hbefore⟩ := hback _ htaken
    · exact h.object (.command n) taken hslot
    · exact h.object other taken hbefore
  · intro other third taken found htaken hfound hprocess
    obtain ⟨rfl, rfl⟩ | ⟨hactor, hcommand, hbefore⟩ := hback _ htaken
    · obtain ⟨rfl, -⟩ | ⟨-, hcommand, hbefore⟩ := hback _ hfound
      · rfl
      · exact absurd (h.exclusive _ _ _ _ hslot hbefore hprocess) (Ne.symm hcommand)
    · obtain ⟨rfl, rfl⟩ | ⟨-, -, hlater⟩ := hback _ hfound
      · exact absurd (h.exclusive _ _ _ _ hbefore hslot hprocess) hcommand
      · exact h.exclusive _ _ _ _ hbefore hlater hprocess
  · intro id object hobject
    rw [hpool] at hobject
    rw [hreleases]
    refine (h.kept id object hobject).imp_right ?_
    rintro ⟨holder, hholder⟩
    by_cases hcommand : holder = .command n
    · subst hcommand
      rw [hslot] at hholder
      cases hholder
      exact ⟨.actor a, by rw [hheld, if_neg (fun heq => by cases heq), if_pos rfl]⟩
    · refine ⟨holder, ?_⟩
      rw [hheld, if_neg hcommand, if_neg]
      · exact hholder
      · rintro rfl
        rw [System.heldBy, hnone] at hholder
        cases hholder
  · intro m taken object htaken hobject
    rw [hpool] at hobject
    obtain ⟨hactor, -⟩ | ⟨-, -, hbefore⟩ := hback (.command m) htaken
    · cases hactor
    · exact h.acquirer m taken object hbefore hobject
  · intro other taken htaken
    rw [hreleases]
    obtain ⟨-, rfl⟩ | ⟨-, -, hbefore⟩ := hback _ htaken
    · exact h.unreleased (.command n) taken hslot
    · exact h.unreleased other taken hbefore
  · rw [hreleases, hpool]
    exact h.known

/-- The state after a handler has given its lease to the actor whose queue it has reached. -/
def System.attached (s : System) (n a : Nat) (lease : HeldLease) (session : LiveSession) : System :=
  ({ s with registry := { s.registry with
      actorsByProcess := s.registry.actorsByProcess.set lease.process a } }.setActor a
    { s.actors a with phase := .ready, lease := some lease, session := some session }).setCommand n
      { s.commands n with lease := none }

section

variable {session : LiveSession}

theorem attached_commands_self : (s.attached n a lease session).commands n =
    { s.commands n with lease := none } :=
  setCommand_commands_self _ n _

theorem attached_actors_self : (s.attached n a lease session).actors a =
    { s.actors a with phase := .ready, lease := some lease, session := some session } :=
  setActor_actors_self _ a _

theorem attached_actors_of_ne {b : Nat} (hb : b ≠ a) : (s.attached n a lease session).actors b = s.actors b :=
  setActor_actors_of_ne _ hb _

theorem Touches.attached (h : Inv s) : Touches n a s (s.attached n a lease session) :=
  ⟨fun _ hm => setCommand_commands_of_ne _ hm _, fun _ hb => attached_actors_of_ne hb,
    .inr (path_setActor { s with registry := _ } (by rfl) a), .refl s.pool, .refl s.pool, h.rpcs.requests, id, rfl, h.rpcs.sent,
    rfl⟩

theorem Inv.index_attached (h : Inv s) (hlease : (s.commands n).lease = some lease)
    (hnone : (s.actors a).lease = none) (proc b : Nat) :
    (s.attached n a lease session).registry.actorsByProcess.get? proc = some b ↔
      ((s.attached n a lease session).actors b).process = some proc := by
  have hactor : ((s.attached n a lease session).actors a).process = some lease.process := by
    rw [attached_actors_self]
    rfl
  rw [show (s.attached n a lease session).registry.actorsByProcess = s.registry.actorsByProcess.set lease.process a from rfl,
    OrderedMap.get?_set]
  obtain rfl | hb := eq_or_ne b a
  · rw [hactor]
    split
    · rename_i hproc
      simp [hproc]
    · rename_i hproc
      rw [h.registry.index, SessionActor.process, hnone]
      simp [Ne.symm hproc]
  · rw [attached_actors_of_ne hb, ← h.registry.index]
    split
    · rename_i hproc
      refine iff_of_false (fun hsame => hb (Option.some.inj hsame).symm) fun hindexed => ?_
      rw [h.registry.index] at hindexed
      obtain ⟨taken, htaken, hprocess⟩ := Option.map_eq_some_iff.mp hindexed
      have hsame := h.leases.exclusive (.actor b) (.command n) taken lease htaken hlease (hprocess.trans hproc)
      cases hsame
    · rfl

theorem Inv.attached (h : Inv s) (hlease : (s.commands n).lease = some lease) (hnone : (s.actors a).lease = none)
    (hin : (s.commands n).inside = some a) (hsession : session.steeringQueue = [])
    (hbound : s.pool.Bound lease.process (s.actors a).sessionPath)
    (hown : (s.commands n).actor = some a) : Inv (s.attached n a lease session) := by
  have hheld : ∀ holder, (s.attached n a lease session).heldBy holder =
      if holder = .command n then none else if holder = .actor a then some lease else s.heldBy holder := fun holder =>
    (heldBy_setCommand _ n _ holder).trans (if_congr Iff.rfl rfl (heldBy_setActor _ a _ holder))
  have hpath : ∀ b, ((s.attached n a lease session).actors b).sessionPath = (s.actors b).sessionPath :=
    path_setActor { s with registry := _ } (by rfl)
  have hempty := (h.actors a).empty (.inl ((h.actors a).phase.mpr hnone))
  refine h.touch (Touches.attached h) (h.leases.move hlease hnone hheld rfl rfl)
    ⟨h.index_attached hlease hnone, fun sessionPath b hb => ?_, fun b hb => ?_, h.registry.observed⟩
    ?_ (fun b hb => ?_) (fun m hm hinside => absurd (h.inside_unique hinside hin) hm) (fun proc hfree => ?_)
    (.inr fun proc hproc => ?_) (fun b hinside hfork => .inr ?_) (fun _ hlast => ?_)
    fun hc b taken object hb hobject _ hbefore => ?_
  · rw [hpath]
    exact h.registry.paths sessionPath b hb
  · rw [attached_actors_of_ne (Nat.ne_of_gt (Nat.lt_of_lt_of_le (h.created hin) hb))]
    exact h.registry.fresh b hb
  · rw [attached_actors_self]
    refine ⟨rfl, ⟨fun hdetached => (by cases hdetached), fun hno => (by cases hno)⟩, fun hattaching => (by cases hattaching),
      fun _ => hempty, fun _ => ⟨fun hreleasing => (by cases hreleasing), ?_⟩⟩
    rintro later hlater
    cases hlater
    rw [hsession, hempty]
  · rw [attached_commands_self] at hb
    cases hin.symm.trans hb
    rw [attached_actors_self]
    exact h.inside n a hin
  · refine h.rpcs.quiet proc fun holder taken htaken => ?_
    obtain rfl | hholder := eq_or_ne holder (.command n)
    · rw [System.heldBy, hlease] at htaken
      cases htaken
      exact hfree (.actor a) lease (by rw [hheld, if_neg (fun heq => by cases heq), if_pos rfl])
    · refine hfree holder taken ?_
      rw [hheld, if_neg hholder, if_neg]
      · exact htaken
      · rintro rfl
        rw [System.heldBy, hnone] at htaken
        cases htaken
  · rw [attached_actors_self] at hproc ⊢
    cases hproc
    exact hbound
  · rw [attached_commands_self]
    exact ⟨hinside, hfork⟩
  · rw [attached_commands_self] at hlast
    exact absurd rfl hlast
  · obtain rfl | hne := eq_or_ne b a
    · rw [attached_actors_self] at hb ⊢
      cases hb
      rw [h.leases.acquirer n lease object hlease hobject, attached_commands_self]
      exact ⟨(h.calm hc).slot n (by rw [hlease]; exact fun hno => (by cases hno)), hown, .inl ⟨rfl, hin⟩⟩
    · rw [attached_actors_of_ne hne] at hb ⊢
      exact (Touches.attached h).attachedOk attached_commands_self (hbefore hb).2

theorem Rely.attached (h : Inv s) (hlease : (s.commands n).lease = some lease)
    (hin : (s.commands n).inside = some a) (hm : m ≠ n) : Rely m s (s.attached n a lease session) := by
  refine (Touches.attached h).rely (fun hinside => absurd (h.inside_unique hinside hin) hm)
    (fun hgone actor taken object htaken hobject => ?_) hm
  obtain rfl | heq := eq_or_ne actor a
  · rw [attached_actors_self] at htaken
    cases htaken
    rw [h.leases.acquirer n lease object hlease hobject]
    exact Ne.symm hm
  · rw [attached_actors_of_ne heq] at htaken
    exact hgone actor taken object htaken hobject

/-- The state after an actor has given its lease back; `paths` are the actors that stay in the registry. -/
def System.detached (s : System) (a : Nat) (lease : HeldLease) (paths : OrderedMap JsString Nat) : System :=
  { s.setActor a { s.actors a with
      phase := .detached
      lease := none
      session := none
      steeringQueue := []
      turnEventCleanup := none } with
    pool := s.pool.releaseLease lease.id
    registry := { s.registry with
      actorsByProcess := s.registry.actorsByProcess.erase lease.process
      actors := paths }
    history := { s.history with releases := s.history.releases ++ [lease.id] } }

theorem detached_actors_self {paths : OrderedMap JsString Nat} : (s.detached a lease paths).actors a =
    { s.actors a with phase := .detached, lease := none, session := none, steeringQueue := [], turnEventCleanup := none } :=
  setActor_actors_self _ a _

theorem detached_actors_of_ne {paths : OrderedMap JsString Nat} {b : Nat} (hb : b ≠ a) :
    (s.detached a lease paths).actors b = s.actors b :=
  setActor_actors_of_ne _ hb _

theorem Touches.detached (h : Inv s) (n : Nat) (paths : OrderedMap JsString Nat) :
    Touches n a s (s.detached a lease paths) :=
  have huntouched := ProcessPool.Untouched.releaseLease s.pool lease.id
  have hgrows := (h.leases.valid.releaseLease lease.id).2
  ⟨fun _ _ => rfl, fun _ hb => detached_actors_of_ne hb, .inr (path_setActor s (by rfl) a), hgrows, huntouched.undisturbed,
    huntouched.requestsOk h.rpcs.requests hgrows, id, rfl, h.rpcs.sent, rfl⟩

theorem Inv.index_detached (h : Inv s) {paths : OrderedMap JsString Nat} (hlease : (s.actors a).lease = some lease)
    (proc b : Nat) : (s.detached a lease paths).registry.actorsByProcess.get? proc = some b ↔
      ((s.detached a lease paths).actors b).process = some proc := by
  have hindex : s.registry.actorsByProcess.get? lease.process = some a :=
    (h.registry.index lease.process a).mpr (by rw [SessionActor.process, hlease]; rfl)
  rw [show (s.detached a lease paths).registry.actorsByProcess = s.registry.actorsByProcess.erase lease.process from rfl,
    OrderedMap.get?_erase]
  obtain rfl | hb := eq_or_ne b a
  · rw [detached_actors_self]
    refine iff_of_false (fun hfound => ?_) fun hproc => by cases hproc
    split at hfound
    · cases hfound
    · rename_i hne
      rw [h.registry.index, SessionActor.process, hlease] at hfound
      exact hne (Option.some.inj hfound).symm
  · rw [detached_actors_of_ne hb, ← h.registry.index]
    split
    · rename_i heq
      rw [heq, hindex]
      simp [Ne.symm hb]
    · rfl

theorem Inv.detached (h : Inv s) {paths : OrderedMap JsString Nat} (hlease : (s.actors a).lease = some lease)
    (hcreated : a < s.actorCount)
    (hpaths : paths = s.registry.actors ∨ paths = s.registry.actors.erase (s.actors a).sessionPath)
    (hquiet : s.pool.Quiet lease.process) : Inv (s.detached a lease paths) := by
  have hpath : ∀ b, ((s.detached a lease paths).actors b).sessionPath = (s.actors b).sessionPath := path_setActor s (by rfl)
  have hheld : ∀ other, (s.detached a lease paths).heldBy other = if other = .actor a then none else s.heldBy other :=
    heldBy_setActor s a _
  have hinside : ∀ self b, (s.commands self).inside = some b →
      ((s.detached a lease paths).actors b).commandTail.head? = some self := by
    intro self b hself
    obtain rfl | hb := eq_or_ne b a
    · rw [detached_actors_self]
      exact h.inside self b hself
    · rw [detached_actors_of_ne hb]
      exact h.inside self b hself
  refine h.touch (n := 0) (Touches.detached h 0 paths) (h.leases.release (.actor a) hlease hheld rfl rfl)
    ⟨h.index_detached hlease, fun sessionPath b hb => ?_, fun b hb => ?_, h.registry.observed⟩
    ?_ (hinside 0) (fun m _ => hinside m a)
    (fun proc hfree => h.rpcs.quiet_of_release (.actor a) hlease hheld rfl hquiet hfree) (.inl fun proc hproc => ?_)
    (fun _ hself hfork => .inr ⟨hself, hfork⟩) (fun hc => (h.calm hc).slot 0) fun _ b taken object hb _ _ hbefore => ?_
  · rw [hpath]
    refine h.registry.paths sessionPath b ?_
    obtain rfl | rfl := hpaths
    · exact hb
    · change (s.registry.actors.erase (s.actors a).sessionPath).get? sessionPath = some b at hb
      rw [OrderedMap.get?_erase] at hb
      split at hb
      · cases hb
      · exact hb
  · rw [detached_actors_of_ne (Nat.ne_of_gt (Nat.lt_of_lt_of_le hcreated hb))]
    exact h.registry.fresh b hb
  · rw [detached_actors_self]
    exact ⟨rfl, ⟨fun _ => rfl, fun _ => rfl⟩, fun hattaching => (by cases hattaching), fun _ => rfl,
      fun _ => ⟨fun hreleasing => (by cases hreleasing), fun session hsession => (by cases hsession)⟩⟩
  · rw [detached_actors_self] at hproc
    cases hproc
  · obtain rfl | hne := eq_or_ne b a
    · rw [detached_actors_self] at hb
      cases hb
    · rw [detached_actors_of_ne hne] at hb ⊢
      exact (hbefore hb).2

theorem Inv.gone_detached (h : Inv s) {paths : OrderedMap JsString Nat} (hgone : s.Gone m) :
    (s.detached a lease paths).Gone m := by
  refine (Touches.detached h 0 paths).gone h (.inr ?_) hgone
  rw [detached_actors_self]

theorem Rely.detached (h : Inv s) {paths : OrderedMap JsString Nat} (hin : (s.commands n).inside = some a)
    (hm : m ≠ n) : Rely m s (s.detached a lease paths) :=
  (Touches.detached h n paths).rely (fun hinside => absurd (h.inside_unique hinside hin) hm) h.gone_detached hm

end

end pipane.ws_handler.runtime

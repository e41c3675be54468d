import Pipane.Server.WsHandler.Commands.Invariant

open async javascript pipane.process_pool pipane.session_actor pipane.session_jsonl pipane.session_registry

namespace pipane.ws_handler.runtime

variable {n m a : Nat} {s t : System}

theorem LeasesOk.gone (h : LeasesOk s) (hgrows : s.pool.Grows t.pool)
    (hleases : ∀ actor lease, (t.actors actor).lease = some lease → (s.actors actor).lease = some lease)
    (hgone : s.Gone n) : t.Gone n := by
  intro actor lease object hlease hobject
  have hbefore := hleases actor lease hlease
  obtain ⟨old, hold, -⟩ := h.object (.actor actor) lease hbefore
  obtain ⟨later, hlater, -, hacquired, -⟩ := hgrows.kept lease.id old hold
  rw [hobject] at hlater
  cases hlater
  rw [hacquired]
  exact hgone actor lease old hbefore hold

/-- What a step of a command changes: its own locals, one actor, and of the pool what concerns no other command. -/
structure Touches (n a : Nat) (s t : System) : Prop where
  command : ∀ m, m ≠ n → t.commands m = s.commands m
  actor : ∀ b, b ≠ a → t.actors b = s.actors b
  path : (s.actors a).lease = none ∨ (t.actors a).sessionPath = (s.actors a).sessionPath
  grows : s.pool.Grows t.pool
  undisturbed : ∀ proc, s.pool.Undisturbed t.pool proc
  requests : t.pool.RequestsOk
  calm : t.Calm → s.Calm
  threw : t.history.listenerThrew = s.history.listenerThrew
  sent : ∀ rpc ∈ t.history.rpcs, rpc.session = some rpc.sessionPath ∧ rpc.outstanding = false
  legal : t.history.illegalTransition = s.history.illegalTransition

/-- What of the invariant such a step has to see to itself. -/
theorem Inv.touch (h : Inv s) (htouches : Touches n a s t) (hleases : LeasesOk t)
    (hregistry : RegistryOk t) (hactor : ActorOk t.history.listenerThrew (t.actors a))
    (hself : ∀ b, (t.commands n).inside = some b → (t.actors b).commandTail.head? = some n)
    (htail : ∀ m, m ≠ n → (s.commands m).inside = some a → (t.actors a).commandTail.head? = some m)
    (hquiet : ∀ proc, (∀ holder lease, t.heldBy holder = some lease → lease.process ≠ proc) → t.pool.Quiet proc)
    (hbound : (∀ proc, (t.actors a).process = some proc → (s.actors a).process = some proc) ∨
      ∀ proc, (t.actors a).process = some proc → t.pool.Bound proc (t.actors a).sessionPath)
    (hforking : ∀ b, (s.commands n).inside = some b → (s.commands n).forking = true →
      (s.actors b).lease = none ∨ ((t.commands n).inside = some b ∧ (t.commands n).forking = true))
    (hslot : t.Calm → (t.commands n).lease ≠ none → (t.commands n).finished = false)
    (hattached : t.Calm → ∀ (b : Nat) (lease : HeldLease) (object : RpcProcessLease), (t.actors b).lease = some lease →
      t.pool.leaseObjects[lease.id]? = some object → b = a ∨ object.acquiredBy = n →
      ((s.actors b).lease = some lease → (object.acquiredBy = n → ¬ s.Gone n) ∧
        AttachedOk (s.commands object.acquiredBy) b (s.actors b) lease) →
      AttachedOk (t.commands object.acquiredBy) b (t.actors b) lease) : Inv t := by
  have hold : ∀ b proc, (s.actors b).process = some proc → t.pool.Bound proc (t.actors b).sessionPath ∨
      ∃ self, (t.commands self).inside = some b ∧ (t.commands self).forking = true := by
    intro b proc hproc
    have howned : (s.actors b).lease ≠ none := fun hnone => by
      rw [SessionActor.process, hnone] at hproc
      cases hproc
    have hpath : (t.actors b).sessionPath = (s.actors b).sessionPath := by
      obtain rfl | hb := eq_or_ne b a
      · exact htouches.path.resolve_left howned
      · rw [htouches.actor b hb]
    rw [hpath]
    obtain hbefore | ⟨self, hinside, hfork⟩ := h.rpcs.bound b proc hproc
    · exact .inl ((htouches.undisturbed proc).bound hbefore)
    · refine .inr ⟨self, ?_⟩
      obtain rfl | hne := eq_or_ne self n
      · exact (hforking b hinside hfork).resolve_left howned
      · rw [htouches.command self hne]
        exact ⟨hinside, hfork⟩
  refine ⟨hleases, fun b => ?_, hregistry, fun self b hinside => ?_,
    ⟨htouches.requests, hquiet, fun b proc hproc => ?_, htouches.sent⟩,
    fun hcalm => ⟨fun self hlease => ?_, fun b lease object hlease hobject => ?_⟩, htouches.legal.trans h.legal⟩
  · obtain rfl | hb := eq_or_ne b a
    · exact hactor
    · rw [htouches.actor b hb, htouches.threw]
      exact h.actors b
  · obtain rfl | hne := eq_or_ne self n
    · exact hself b hinside
    · rw [htouches.command self hne] at hinside
      obtain rfl | hb := eq_or_ne b a
      · exact htail self hne hinside
      · rw [htouches.actor b hb]
        exact h.inside self b hinside
  · obtain rfl | hb := eq_or_ne b a
    · exact hbound.elim (fun hsame => hold b proc (hsame proc hproc)) fun hnew => .inl (hnew proc hproc)
    · rw [htouches.actor b hb] at hproc
      exact hold b proc hproc
  · obtain rfl | hne := eq_or_ne self n
    · exact hslot hcalm hlease
    · rw [htouches.command self hne] at hlease ⊢
      exact (h.calm (htouches.calm hcalm)).slot self hlease
  · have hbefore : (s.actors b).lease = some lease → (object.acquiredBy = n → ¬ s.Gone n) ∧
        AttachedOk (s.commands object.acquiredBy) b (s.actors b) lease := by
      intro hlease
      obtain ⟨old, hold, -⟩ := h.leases.object (.actor b) lease hlease
      obtain ⟨later, hlater, -, hacquired, -⟩ := htouches.grows.kept lease.id old hold
      rw [hobject] at hlater
      cases hlater
      rw [hacquired]
      exact ⟨fun hself hgone => hgone b lease old hlease hold hself,
        (h.calm (htouches.calm hcalm)).attached b lease old hlease hold⟩
    by_cases hspecial : b = a ∨ object.acquiredBy = n
    · exact hattached hcalm b lease object hlease hobject hspecial hbefore
    · rw [not_or] at hspecial
      rw [htouches.actor b hspecial.1] at hlease ⊢
      rw [htouches.command _ hspecial.2]
      exact (hbefore hlease).2

theorem Inv.inside_unique (h : Inv s) (hn : (s.commands n).inside = some a)
    (hm : (s.commands m).inside = some a) : n = m :=
  Option.some.inj ((h.inside n a hn).symm.trans (h.inside m a hm))

theorem Touches.rely (htouches : Touches n a s t)
    (hactor : (s.commands m).inside = some a → t.actors a = s.actors a) (hgone : s.Gone m → t.Gone m) (hm : m ≠ n) :
    Rely m s t where
  command := htouches.command m hm
  actor b hinside := by
    refine ⟨[], ?_⟩
    rw [List.append_nil]
    obtain rfl | hb := eq_or_ne b a
    · exact hactor hinside
    · exact htouches.actor b hb
  process proc _ := htouches.undisturbed proc
  gone := hgone

theorem Touches.gone (htouches : Touches n a s t) (h : Inv s)
    (hlease : (t.actors a).lease = (s.actors a).lease ∨ (t.actors a).lease = none) (hgone : s.Gone m) : t.Gone m := by
  refine h.leases.gone htouches.grows (fun b lease hb => ?_) hgone
  obtain rfl | hne := eq_or_ne b a
  · obtain hsame | hnone := hlease
    · exact hsame.symm.trans hb
    · rw [hnone] at hb
      cases hb
  · rwa [htouches.actor b hne] at hb

theorem Inv.same (h : Inv s) (htouches : Touches 0 0 s t) (hcommands : t.commands = s.commands)
    (hactors : t.actors = s.actors) (hleases : LeasesOk t) (hregistry : RegistryOk t) : Inv t := by
  have hheld : ∀ holder, t.heldBy holder = s.heldBy holder := by
    intro holder
    cases holder with
    | command self => rw [System.heldBy, hcommands, System.heldBy]
    | actor actor => rw [System.heldBy, hactors, System.heldBy]
  refine h.touch htouches hleases hregistry ?_ ?_ ?_ (fun proc hnone => ?_) (.inl ?_) ?_ ?_ ?_
  · rw [hactors, htouches.threw]
    exact h.actors 0
  · rw [hcommands, hactors]
    exact h.inside 0
  · rw [hactors]
    exact fun m _ => h.inside m 0
  · exact (htouches.undisturbed proc).quiet (h.rpcs.quiet proc fun holder lease hlease =>
      hnone holder lease ((hheld holder).trans hlease))
  · rw [hactors]
    exact fun _ => id
  · rw [hcommands]
    exact fun _ hinside hfork => .inr ⟨hinside, hfork⟩
  · rw [hcommands]
    exact fun hcalm => (h.calm (htouches.calm hcalm)).slot 0
  · rw [hactors, hcommands]
    exact fun _ _ _ _ hlease _ _ hbefore => (hbefore hlease).2

theorem Touches.neutral (h : Inv s) {pool : ProcessPool} (hneutral : s.pool.Neutral pool) (n : Nat) :
    Touches n 0 s { s with pool } :=
  ⟨fun _ _ => rfl, fun _ _ => rfl, .inr rfl, hneutral.keeps.2, hneutral.undisturbed, hneutral.requests, id, rfl, h.rpcs.sent,
    rfl⟩

theorem Inv.neutral (h : Inv s) {pool : ProcessPool} (hneutral : s.pool.Neutral pool) :
    Inv { s with pool } :=
  h.same (Touches.neutral h hneutral 0) rfl rfl
    (h.leases.same (fun holder => by cases holder <;> rfl) rfl hneutral.keeps hneutral.objects hneutral.finalized)
    (h.registry.same rfl rfl rfl id (fun _ => rfl) (fun _ => rfl) fun _ _ => rfl)

theorem Rely.neutral (h : Inv s) {pool : ProcessPool} (hneutral : s.pool.Neutral pool) (n : Nat) :
    Rely n s { s with pool } :=
  have htouches := Touches.neutral h hneutral (n + 1)
  htouches.rely (fun _ => rfl) (htouches.gone h (.inl rfl)) (Nat.ne_of_lt (Nat.lt_succ_self n))

theorem Inv.created (h : Inv s) (hn : (s.commands n).inside = some a) : a < s.actorCount := by
  by_contra hout
  have hhead := h.inside n a hn
  rw [h.registry.fresh a (Nat.not_lt.mp hout)] at hhead
  cases hhead

@[simp] theorem setCommand_commands_self (s : System) (n : Nat) (me : Command) : (s.setCommand n me).commands n = me :=
  Function.update_self ..

theorem setCommand_commands_of_ne (s : System) (h : m ≠ n) (me : Command) :
    (s.setCommand n me).commands m = s.commands m :=
  Function.update_of_ne h _ _

@[simp] theorem setCommand_actors (s : System) (n : Nat) (me : Command) : (s.setCommand n me).actors = s.actors := rfl

@[simp] theorem setActor_actors_self (s : System) (a : Nat) (next : SessionActor) : (s.setActor a next).actors a = next :=
  Function.update_self ..

theorem setActor_actors_of_ne (s : System) {b : Nat} (h : b ≠ a) (next : SessionActor) :
    (s.setActor a next).actors b = s.actors b :=
  Function.update_of_ne h _ _

theorem heldBy_setCommand (s : System) (n : Nat) (me : Command) (holder : Holder) :
    (s.setCommand n me).heldBy holder = if holder = .command n then me.lease else s.heldBy holder := by
  cases holder with
  | command m =>
    obtain rfl | hm := eq_or_ne m n
    · rw [if_pos rfl, System.heldBy, setCommand_commands_self]
    · rw [if_neg (fun heq => hm (Holder.command.inj heq)), System.heldBy, setCommand_commands_of_ne s hm, System.heldBy]
  | actor b => rfl

theorem heldBy_setActor (s : System) (a : Nat) (next : SessionActor) (holder : Holder) :
    (s.setActor a next).heldBy holder = if holder = .actor a then next.lease else s.heldBy holder := by
  cases holder with
  | command m => rfl
  | actor b =>
    obtain rfl | hb := eq_or_ne b a
    · rw [if_pos rfl, System.heldBy, setActor_actors_self]
    · rw [if_neg (fun heq => hb (Holder.actor.inj heq)), System.heldBy, setActor_actors_of_ne s hb, System.heldBy]

theorem path_setActor (s : System) {next : SessionActor} (hpath : next.sessionPath = (s.actors a).sessionPath) (b : Nat) :
    ((s.setActor a next).actors b).sessionPath = (s.actors b).sessionPath := by
  obtain rfl | hb := eq_or_ne b a
  · rw [setActor_actors_self, hpath]
  · rw [setActor_actors_of_ne s hb]

theorem Touches.setCommand (h : Inv s) (n a : Nat) (me : Command) : Touches n a s (s.setCommand n me) :=
  ⟨fun _ hm => setCommand_commands_of_ne s hm me, fun _ _ => rfl, .inr rfl, .refl s.pool, .refl s.pool, h.rpcs.requests, id,
    rfl, h.rpcs.sent, rfl⟩

/-- A handler writes locals that say nothing of its leases. -/
theorem Inv.setCommand (h : Inv s) {me : Command} (hlease : me.lease = (s.commands n).lease)
    (hinside : ∀ b, me.inside = some b → (s.actors b).commandTail.head? = some n)
    (hforking : ∀ b, (s.commands n).inside = some b → (s.commands n).forking = true →
      (s.actors b).lease = none ∨ (me.inside = some b ∧ me.forking = true))
    (hslot : s.Calm → me.lease ≠ none → me.finished = false)
    (hattached : s.Calm → ¬ s.Gone n → ∀ (b : Nat) (lease : HeldLease), (s.actors b).lease = some lease →
      AttachedOk (s.commands n) b (s.actors b) lease → AttachedOk me b (s.actors b) lease) :
    Inv (s.setCommand n me) := by
  have hheld : ∀ holder, (s.setCommand n me).heldBy holder = s.heldBy holder := by
    intro holder
    rw [heldBy_setCommand, hlease]
    split
    · rename_i hholder
      rw [hholder, System.heldBy]
    · rfl
  refine h.touch (Touches.setCommand h n 0 me) (h.leases.frame hheld rfl rfl)
    (h.registry.same rfl rfl rfl id (fun _ => rfl) (fun _ => rfl) fun _ _ => rfl) (h.actors 0) ?_
    (fun m _ => h.inside m 0) (fun proc hnone => h.rpcs.quiet proc fun holder lease hlease =>
      hnone holder lease ((hheld holder).trans hlease)) (.inl fun _ => id) ?_ ?_ fun hcalm b lease object hb _ _ hbefore => ?_
  · rwa [setCommand_commands_self]
  · rwa [setCommand_commands_self]
  · rwa [setCommand_commands_self]
  · obtain ⟨hgone, hold⟩ := hbefore hb
    obtain hself | hne := eq_or_ne object.acquiredBy n
    · rw [hself] at hold ⊢
      rw [setCommand_commands_self]
      exact hattached hcalm (hgone hself) b lease hb hold
    · rw [setCommand_commands_of_ne s hne]
      exact hold

theorem Rely.setCommand (s : System) (hm : m ≠ n) (me : Command) : Rely m s (s.setCommand n me) where
  command := setCommand_commands_of_ne s hm me
  actor _ _ := ⟨[], by rw [List.append_nil]; rfl⟩
  process proc _ := .refl s.pool proc
  gone := id

theorem Touches.setActor (h : Inv s) (n : Nat) {next : SessionActor}
    (hpath : next.sessionPath = (s.actors a).sessionPath) : Touches n a s (s.setActor a next) :=
  ⟨fun _ _ => rfl, fun _ hb => setActor_actors_of_ne s hb next, .inr (path_setActor s hpath a), .refl s.pool, .refl s.pool,
    h.rpcs.requests, id, rfl, h.rpcs.sent, rfl⟩

/-- A handler changes an actor that keeps its lease. -/
theorem Inv.setActor (h : Inv s) {next : SessionActor} (ha : a < s.actorCount)
    (hlease : next.lease = (s.actors a).lease) (hpath : next.sessionPath = (s.actors a).sessionPath)
    (htail : ∀ m, (s.commands m).inside = some a → next.commandTail.head? = some m)
    (hok : ActorOk s.history.listenerThrew next)
    (hcalm : s.Calm → ∀ (self : Nat) (lease : HeldLease), (s.actors a).lease = some lease →
      AttachedOk (s.commands self) a (s.actors a) lease → AttachedOk (s.commands self) a next lease) :
    Inv (s.setActor a next) := by
  have hheld : ∀ holder, (s.setActor a next).heldBy holder = s.heldBy holder := by
    intro holder
    rw [heldBy_setActor, hlease]
    split
    · rename_i hholder
      rw [hholder, System.heldBy]
    · rfl
  have hkept : ∀ b, ((s.setActor a next).actors b).lease = (s.actors b).lease := fun b => hheld (.actor b)
  have hinside : ∀ self b, (s.commands self).inside = some b →
      ((s.setActor a next).actors b).commandTail.head? = some self := by
    intro self b hself
    obtain rfl | hb := eq_or_ne b a
    · rw [setActor_actors_self]
      exact htail self hself
    · rw [setActor_actors_of_ne s hb]
      exact h.inside self b hself
  refine h.touch (n := 0) (Touches.setActor h 0 hpath) (h.leases.frame hheld rfl rfl)
    (h.registry.same rfl rfl rfl id hkept (path_setActor s hpath) fun b hb => ?_) ?_ (hinside 0)
    (fun m _ => hinside m a) (fun proc hnone => h.rpcs.quiet proc fun holder lease hholder =>
      hnone holder lease ((hheld holder).trans hholder)) (.inl fun proc hproc => ?_)
    (fun _ hself hfork => .inr ⟨hself, hfork⟩) (fun hc => (h.calm hc).slot 0)
    fun hc b lease object hb _ _ hbefore => ?_
  · exact setActor_actors_of_ne s (Nat.ne_of_gt (Nat.lt_of_lt_of_le ha hb)) next
  · rwa [setActor_actors_self]
  · rw [SessionActor.process, hkept] at hproc
    exact hproc
  · have hlast := (hkept b).symm.trans hb
    have hold := (hbefore hlast).2
    obtain rfl | hne := eq_or_ne b a
    · rw [setActor_actors_self]
      exact hcalm hc _ lease hlast hold
    · rw [setActor_actors_of_ne s hne]
      exact hold

theorem Inv.gone_setActor (h : Inv s) {next : SessionActor} (hlease : next.lease = (s.actors a).lease)
    (hpath : next.sessionPath = (s.actors a).sessionPath) (hgone : s.Gone m) : (s.setActor a next).Gone m := by
  refine (Touches.setActor h 0 hpath).gone h (.inl ?_) hgone
  rw [setActor_actors_self, hlease]

theorem Rely.setActor (h : Inv s) {next : SessionActor} (hin : (s.commands n).inside = some a)
    (hm : m ≠ n) (hlease : next.lease = (s.actors a).lease) (hpath : next.sessionPath = (s.actors a).sessionPath) :
    Rely m s (s.setActor a next) :=
  (Touches.setActor h n hpath).rely (fun hinside => absurd (h.inside_unique hinside hin) hm) (h.gone_setActor hlease hpath) hm

theorem Inv.joinQueue (h : Inv s) (ha : a < s.actorCount) (n : Nat) :
    Inv (s.setActor a { s.actors a with commandTail := (s.actors a).commandTail ++ [n] }) := by
  obtain ⟨hsession, hphase, hattaching, hempty, hcalm⟩ := h.actors a
  refine h.setActor ha rfl rfl (fun m hm => ?_) ⟨hsession, hphase, hattaching, hempty, hcalm⟩
    fun _ _ _ _ ⟨hrunning, hown, hturn⟩ => ⟨hrunning, hown, hturn⟩
  rw [List.head?_append, h.inside m a hm]
  rfl

theorem Rely.joinQueue (h : Inv s) (m n a : Nat) :
    Rely m s (s.setActor a { s.actors a with commandTail := (s.actors a).commandTail ++ [n] }) where
  command := rfl
  actor b _ := by
    obtain rfl | hb := eq_or_ne b a
    · exact ⟨[n], by rw [setActor_actors_self]⟩
    · exact ⟨[], by rw [setActor_actors_of_ne s hb, List.append_nil]⟩
  process proc _ := .refl s.pool proc
  gone := h.gone_setActor rfl rfl

theorem Inv.enterQueue (h : Inv s) (hhead : (s.actors a).commandTail.head? = some n)
    (hinside : (s.commands n).inside = none) : Inv (s.setCommand n { s.commands n with inside := some a }) := by
  refine h.setCommand rfl (fun b hb => ?_) (fun b hb => ?_) (fun hcalm => (h.calm hcalm).slot n)
    fun _ _ b lease _ hold => ⟨hold.running, hold.own, hold.turn.imp_left fun hready => ?_⟩
  · cases hb
    exact hhead
  · rw [hinside] at hb
    cases hb
  · have hb := hready.2
    rw [hinside] at hb
    cases hb

/-- The state after a command has left the queue. -/
def System.leaveQueue (s : System) (n a : Nat) : System :=
  (s.setActor a { s.actors a with commandTail := (s.actors a).commandTail.tail }).setCommand n
    { s.commands n with inside := none, forking := false }

theorem Inv.leaveQueue (h : Inv s) (hin : (s.commands n).inside = some a)
    (hforking : (s.commands n).forking = true → (s.actors a).lease = none)
    (hready : s.Calm → (s.actors a).phase ≠ .ready) : Inv (s.leaveQueue n a) := by
  -- The command is let go first, so that nobody is inside while the head of the queue is taken off.
  have hlocals : Inv (s.setCommand n
      { s.commands n with inside := none, forking := false }) := by
    refine h.setCommand rfl (fun b hb => by cases hb) (fun b hb hfork => .inl ?_) (fun hcalm => (h.calm hcalm).slot n)
      fun hcalm _ b lease _ hold => ⟨hold.running, hold.own, .inr (hold.turn.resolve_left fun hphase => ?_)⟩
    · rw [hin] at hb
      cases hb
      exact hforking hfork
    · have hb := hphase.2
      rw [hin] at hb
      cases hb
      exact hready hcalm hphase.1
  obtain ⟨hsession, hphase, hattaching, hempty, hcalm⟩ := h.actors a
  refine hlocals.setActor (h.created hin) rfl rfl (fun m hm => ?_) ⟨hsession, hphase, hattaching, hempty, hcalm⟩
    fun _ _ _ _ ⟨hrunning, hown, hturn⟩ => ⟨hrunning, hown, hturn⟩
  obtain rfl | hne := eq_or_ne m n
  · rw [setCommand_commands_self] at hm
    cases hm
  · rw [setCommand_commands_of_ne s hne] at hm
    exact absurd (h.inside_unique hm hin) hne

theorem Rely.leaveQueue (h : Inv s) (hin : (s.commands n).inside = some a) (hm : m ≠ n) :
    Rely m s (s.leaveQueue n a) :=
  (Rely.setActor h hin hm (by rfl) (by rfl)).trans (Rely.setCommand _ hm _)

end pipane.ws_handler.runtime

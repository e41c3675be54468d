import Pipane.Server.WsHandler.Commands.Requests

open async javascript pipane.process_pool pipane.session_actor pipane.session_jsonl pipane.session_registry
open async.Atomic (Spec)
open async.Coroutine (Safe)

namespace pipane.ws_handler.runtime

variable {n a : Nat} {s t u : System}

/-- The locals of a handler that keeps no lease and has begun no turn. -/
structure Command.Plain (me : Command) : Prop where
  running : me.finished = false
  lease : me.lease = .none
  generation : me.generation = .none

/-- A command may end: in a calm run it keeps no lease, and no actor has one of its leases. -/
structure Done (n : Nat) (t : System) : Prop where
  inside : (t.commands n).inside = none
  running : (t.commands n).finished = false
  clear : t.Calm → (t.commands n).lease = none ∧ t.Gone n

theorem Inv.gone (h : Inv s) (hcalm : s.Calm)
    (hready : ∀ actor, (s.commands n).inside = some actor → (s.actors actor).phase ≠ .ready)
    (hturn : ∀ (actor : Nat) (lease : HeldLease), (s.commands n).actor = some actor → (s.actors actor).lease = some lease →
      (s.commands n).generation = some (s.actors actor).turnGeneration → (s.commands n).proc ≠ some lease.process) :
    s.Gone n := by
  rintro actor lease object hlease hobject rfl
  obtain ⟨-, hown, ⟨hphase, hinside⟩ | ⟨-, hgeneration, hproc⟩⟩ := (h.calm hcalm).attached actor lease object hlease hobject
  · exact hready actor hinside hphase
  · exact hturn actor lease hown hlease hgeneration hproc

theorem Command.Plain.done (hplain : (s.commands n).Plain) (h : Inv s)
    (hinside : (s.commands n).inside = .none) : Done n s := by
  refine ⟨hinside, hplain.running, fun hcalm => ⟨hplain.lease, h.gone hcalm (fun actor hactor => ?_) fun actor lease _ _ hturn => ?_⟩⟩
  · rw [hinside] at hactor
    cases hactor
  · rw [hplain.generation] at hturn
    cases hturn

theorem Rely.owner (h : Rely n s t) (hin : (s.commands n).inside = some a) :
    (t.actors a).lease = (s.actors a).lease ∧ (t.actors a).phase = (s.actors a).phase ∧
      (t.actors a).sessionPath = (s.actors a).sessionPath := by
  obtain ⟨more, hmore⟩ := h.actor a hin
  rw [hmore]
  exact ⟨rfl, rfl, rfl⟩

/-- What is known after a call that gets a lease. -/
def AcquiresLease (n : Nat) (s : System) : Except JsString HeldLease → System → Prop
  | .ok lease, t => Acquired n lease s t
  | .error _, t => Rely n s t

theorem AcquiresLease.of_rely {result : Except JsString HeldLease} (hrely : Rely n s t) (h : AcquiresLease n t result u) :
    AcquiresLease n s result u := by
  cases result with
  | ok lease => exact Acquired.of_rely hrely h
  | error error => exact hrely.trans h

theorem safe_after {α : Type} {task : Routine α} {R Q : Except JsString α → System → Prop} (h : Inv t)
    (htask : task.Safe discipline n R t) (hQ : ∀ result u, R result u → Q result u) :
    task.Safe discipline n Q t :=
  htask.mono (fun _ => h) fun result u _ _ _ hR => hQ result u hR

theorem safe_acquireProcessFrom (h : Inv s) (hnone : (s.commands n).lease = none)
    (hrunning : (s.commands n).finished = false) (cwd : JsString) (startedAt rounds : Nat) :
    (acquireProcessFrom n cwd startedAt rounds).Safe discipline n (AcquiresLease n s) s := by
  induction rounds generalizing s with
  | zero => exact Safe.wait fun t _ _ _ _ hready => by cases hready
  | succ rounds ih =>
    have hagain : ∀ t, Rely n s t → Inv t →
        (acquireProcessFrom n cwd startedAt rounds).Safe discipline n (AcquiresLease n s) t := by
      intro t hrely ht
      refine safe_after ht (ih ht ?_ ?_) fun _ _ => AcquiresLease.of_rely hrely
      · rw [hrely.command]
        exact hnone
      · rw [hrely.command]
        exact hrunning
    refine Safe.liftBind (spec_acquire h hnone hrunning cwd) h (fun acquired t ht _ _ hacquired => ?_)
      fun error t _ _ _ hrely => hrely
    cases acquired with
    | some lease => exact Safe.pure fun _ => hacquired
    | none =>
      refine Safe.liftBind (spec_evictIdleDifferentCwd ht cwd) ht (fun evicted v hv _ _ hrely => ?_)
        fun error v _ _ _ hrely => Rely.trans hacquired hrely
      have hwaited : Rely n s v := Rely.trans hacquired hrely
      refine Safe.read (run_readSystem v) hv ?_
      split
      · exact Safe.wait fun w _ hw hinv _ _ => hagain w (hwaited.trans hw) hinv
      · split
        · exact Safe.throw fun _ => hwaited
        · exact Safe.wait fun w _ hw hinv _ _ => hagain w (hwaited.trans hw) hinv

theorem safe_acquireProcess (h : Inv s) (hnone : (s.commands n).lease = none)
    (hrunning : (s.commands n).finished = false) (cwd : JsString) (rounds : Nat) :
    (acquireProcess n cwd rounds).Safe discipline n (AcquiresLease n s) s := by
  refine Safe.read (run_readSystem s) h ?_
  split
  · exact Safe.throw fun _ => Rely.refl n s
  · exact safe_acquireProcessFrom h hnone hrunning cwd s.clock rounds

theorem safe_acquireAnyProcess (h : Inv s) (hnone : (s.commands n).lease = none)
    (hrunning : (s.commands n).finished = false) (rounds : Nat) :
    (acquireAnyProcess n rounds).Safe discipline n (AcquiresLease n s) s := by
  refine Safe.liftBind (spec_acquireAny h hnone hrunning) h (fun existing t ht _ _ hacquired => ?_)
    fun error t _ _ _ hrely => hrely
  cases existing with
  | some lease => exact Safe.pure fun _ => hacquired
  | none =>
    have hrely : Rely n s t := hacquired
    refine Safe.read (run_readSystem t) ht ?_
    refine safe_after ht (safe_acquireProcess ht ?_ ?_ t.defaultCwd rounds) fun _ _ => AcquiresLease.of_rely hrely
    · rw [hrely.command]
      exact hnone
    · rw [hrely.command]
      exact hrunning

theorem safe_useLease {lease : HeldLease} {command : PiRpcCommand} (h : Inv s)
    (hlease : (s.commands n).lease = some lease) (hquiet : s.pool.Quiet lease.process)
    (hcommand : command.changesSession = false) :
    (useLease n lease.process command).Safe discipline n
      (fun _ t => t.commands n = { s.commands n with lease := none }) s := by
  have hguards : Guards n lease.process s := .inl ⟨lease, hlease, rfl⟩
  refine Safe.finallyDo (R := fun _ t => t.commands n = s.commands n ∧ t.pool.Quiet lease.process) ?_ (fun _ => h) ?_
  · refine Safe.bind (safe_sendRpcChecked h (Allowed.none s lease.process) hcommand) (fun _ => h)
      (fun _ t ht _ _ hrely => ?_) fun _ t _ _ _ hrely => ⟨hrely.command, (hrely.process _ hguards).quiet hquiet⟩
    refine Safe.lift ((spec_sendMessage ht).mono fun _ v _ _ _ hsends => ⟨?_, ?_⟩)
    · rw [hsends.1.commands]
      exact hrely.command
    · rw [hsends.1.pool]
      exact (hrely.process _ hguards).quiet hquiet
  · rintro result t ht - - ⟨hsame, hstill⟩
    refine Safe.lift ((spec_releaseHeld ht fun taken htaken => ?_).mono ?_)
    · rw [hsame, hlease] at htaken
      cases htaken
      exact hstill
    · rintro done u - - - ⟨rfl, hlast, -, -⟩
      change u.commands n = _
      rw [hlast, hsame]

/-- The locals of a running command in the queue of its actor. -/
structure Command.Placed (a : Nat) (me : Command) : Prop where
  inside : me.inside = some a
  running : me.finished = false
  own : me.actor = some a
  forking : me.forking = false

theorem Command.Placed.later {me next : Command} (h : me.Placed a) {lease : Option HeldLease}
    {proc generation : Option Nat} {promptAccepted sessionCreated : Bool}
    (hnext : next = { me with lease, proc, generation, promptAccepted, sessionCreated }) : next.Placed a := by
  rw [hnext]
  exact ⟨h.inside, h.running, h.own, h.forking⟩

/-- A command that has reached the queue of its actor and may get it a process. -/
structure Serving (n a : Nat) (s : System) : Prop where
  placed : (s.commands n).Placed a
  lease : (s.commands n).lease = none

/-- The lease that a command has acquired for an actor, before and after it was given to the actor. -/
structure Switched (n a : Nat) (lease : HeldLease) (me : Command) (result : Except JsString Unit) (t : System) : Prop where
  placed : (t.commands n).Placed a
  owned : (t.commands n = { me with lease := some lease } ∧ (t.actors a).lease = none ∧ t.pool.Quiet lease.process ∧
      ∃ error, result = .error error) ∨
    (t.commands n = { me with lease := none } ∧ (t.actors a).process = some lease.process ∧
      (t.actors a).phase = .ready)

/-- The session of a detached actor is opened in the process that was acquired, and the actor gets the lease. -/
theorem safe_switchAttach {lease : HeldLease} (hserving : Serving n a s)
    (hnone : (s.actors a).lease = none) (hacquired : Acquired n lease s t) (ht : Inv t) :
    (do
      replacePiSession lease.process (.switch_session (s.actors a).sessionPath)
      attachOwned n a lease
      sendMessage : Routine Unit).Safe discipline n (Switched n a lease (s.commands n)) t := by
  have hplaced : (t.commands n).Placed a := hserving.placed.later hacquired.command
  obtain ⟨more, hmore⟩ := hacquired.actor a hserving.placed.inside
  refine Safe.bind (safe_replacePiSession ht (by rw [hacquired.command]) hacquired.answered) (fun _ => ht) ?_ ?_
  · rintro opened v hv - - ⟨hreplaced, hopened⟩
    obtain ⟨hanswered, hsession⟩ := hopened rfl
    have hcommand := hreplaced.command.trans hacquired.command
    have hvPlaced : (v.commands n).Placed a := hserving.placed.later hcommand
    obtain ⟨rest, hrest⟩ := hreplaced.actor a hplaced.inside
    rw [hmore] at hrest
    have hspec := spec_attachOwned hv hvPlaced.inside (by rw [hcommand]) (by rw [hrest]; exact hnone)
      ⟨hanswered, by rw [hrest]; exact hsession _ rfl⟩ hvPlaced.own
    have hswitched : ∀ result w, Attaches n a lease v w → Switched n a lease (s.commands n) result w := by
      intro result w hattaches
      have hlast : w.commands n = { s.commands n with lease := none } := by
        rw [hattaches.command, hcommand]
      exact ⟨hserving.placed.later hlast, .inr ⟨hlast, hattaches.process, hattaches.phase⟩⟩
    refine Safe.liftBind hspec hv (fun _ w hw _ _ hattached => ?_) fun error w _ _ _ hattached =>
      hswitched _ w hattached.1
    refine Safe.lift ((spec_sendMessage hw).mono fun result x _ _ _ hsends => hswitched result x ?_)
    obtain ⟨hlast, hprocess, hphase, hpool⟩ := hattached.1
    rw [← hsends.1.commands] at hlast
    rw [← hsends.1.actors] at hprocess hphase
    exact ⟨hlast, hprocess, hphase, hsends.1.pool.trans hpool⟩
  · rintro error v - - - ⟨hreplaced, -⟩
    obtain ⟨rest, hrest⟩ := hreplaced.actor a hplaced.inside
    have hcommand := hreplaced.command.trans hacquired.command
    refine ⟨hserving.placed.later hcommand, .inl ⟨hcommand, ?_, hreplaced.quiet, ⟨error, rfl⟩⟩⟩
    rw [hrest, hmore]
    exact hnone

/-- What is left where a command could not get its actor a process. -/
structure Failed (n a : Nat) (s t : System) : Prop where
  command : t.commands n = s.commands n
  detached : (t.actors a).lease = none

theorem spec_abandonLease {lease : HeldLease} {result : Except JsString Unit} (h : Inv t)
    (hnone : (s.commands n).lease = none) (hswitched : Switched n a lease (s.commands n) result t) (error : JsString) :
    (abandonLease n a lease error).Spec discipline n
      (fun result u => (∃ error, result = (.error error : Except JsString Unit)) ∧ Failed n a s u) t := by
  have hplaced := hswitched.placed
  have hme : { s.commands n with lease := none } = s.commands n := by rw [← hnone]
  refine Spec.read (run_readActor t a) ?_
  obtain ⟨hcommand, hdetached, hquiet, -⟩ | ⟨hcommand, hproc, hphase⟩ := hswitched.owned
  · rw [if_neg (by simp [SessionActor.process, hdetached])]
    refine Spec.bind (spec_releaseHeld h fun taken htaken => ?_) ?_ ?_
    · rw [hcommand] at htaken
      cases htaken
      exact hquiet
    · rintro - u hu - - ⟨-, hlast, hactors, -⟩
      refine Spec.throw hu fun _ => ⟨⟨error, rfl⟩, ?_, by rw [hactors, hdetached]⟩
      rw [hlast, hcommand, hme]
    · rintro failure u - - - ⟨hok, -⟩
      cases hok
  · rw [if_pos hproc]
    rw [hme] at hcommand
    have hempty := (h.actors a).empty (.inr hphase)
    refine Spec.bind (spec_detach h hplaced.inside fun taken htaken =>
      h.quiet_inside hplaced.inside hplaced.forking htaken) ?_ ?_
    · rintro - u hu - - ⟨hreleased, hgone⟩
      exact Spec.throw hu fun _ => ⟨⟨error, rfl⟩, by rw [hreleased.commands, hcommand], hgone hempty⟩
    · rintro failure u - - - ⟨hreleased, hgone⟩
      exact ⟨⟨failure, rfl⟩, by rw [hreleased.commands, hcommand], hgone hempty⟩

/-- A command has a process for its actor: one that the actor had, or one that it has acquired for it. -/
structure Served (n a proc : Nat) (s t : System) : Prop where
  command : t.commands n = s.commands n
  process : (t.actors a).process = some proc
  phase : ((s.actors a).lease = none ∧ (t.actors a).phase = .ready) ∨ ((s.actors a).lease ≠ none ∧ t = s)

/-- How the switch to the session of the actor ends, with the process that was acquired for it. -/
def Rejoined (n a : Nat) (lease : HeldLease) (s : System) : Except JsString Unit → System → Prop
  | .ok _, t => Switched n a lease (s.commands n) (.ok ()) t
  | .error _, t => Failed n a s t

theorem safe_acquireForActor (h : Inv s) (hserving : Serving n a s) (rounds : Nat) :
    (acquireForActor n a rounds).Safe discipline n (fun result t => match result with
      | .ok proc => Served n a proc s t
      | .error _ => Failed n a s t) s := by
  refine Safe.read (run_readActor s a) h ?_
  cases hproc : (s.actors a).process with
  | some proc =>
    refine Safe.pure fun _ => ⟨rfl, hproc, .inr ⟨fun hnone => ?_, rfl⟩⟩
    rw [SessionActor.process, hnone] at hproc
    cases hproc
  | none =>
    have hnone : (s.actors a).lease = none := Option.map_eq_none_iff.mp hproc
    refine Safe.read (run_readSystem s) h ?_
    refine Safe.bind (safe_acquireProcess h hserving.lease hserving.placed.running _ rounds) (fun _ => h) ?_ ?_
    · intro lease t ht _ _ hacquired
      have hacquired : Acquired n lease s t := hacquired
      refine Safe.bind (R := Rejoined n a lease s) ?_ (fun _ => ht) ?_ fun _ _ _ _ _ hfailed => hfailed
      · refine Safe.tryCatch (safe_switchAttach hserving hnone hacquired ht) (fun _ => ht)
          (fun _ _ _ _ _ hswitched => hswitched) fun error u hu _ _ hswitched => ?_
        refine Safe.lift ((spec_abandonLease hu hserving.lease hswitched error).mono ?_)
        rintro result v - - - ⟨⟨failure, rfl⟩, hfailed⟩
        exact hfailed
      · rintro - u - - - ⟨-, ⟨-, -, -, error, herror⟩ | ⟨hcommand, hprocess, hphase⟩⟩
        · cases herror
        · exact Safe.pure fun _ => ⟨hcommand.trans (by rw [← hserving.lease]), hprocess, .inl ⟨hnone, hphase⟩⟩
    · intro error t _ _ _ hrely
      have hrely : Rely n s t := hrely
      exact ⟨hrely.command, (hrely.owner hserving.placed.inside).1.trans hnone⟩

end pipane.ws_handler.runtime

import Pipane.Server.WsHandler.Commands.Sessions

open async javascript pipane.process_pool pipane.session_actor pipane.session_jsonl pipane.session_registry
open async.Coroutine (Safe)

namespace pipane.ws_handler.runtime

variable {n a : Nat} {s t u : System}

theorem Done.of_frame (h : Done n s) (hframe : Frame s t) : Done n t := by
  refine ⟨?_, ?_, fun hcalm => ?_⟩ <;> rw [hframe.commands]
  · exact h.inside
  · exact h.running
  · obtain ⟨hlease, hgone⟩ := h.clear (hframe.calm hcalm)
    exact ⟨hlease, hframe.gone.mpr hgone⟩

theorem safe_sendMessage (h : Inv s) (hdone : Done n s) :
    (Coroutine.lift sendMessage : Routine Unit).Safe discipline n (fun _ t => Done n t) s :=
  Safe.lift ((spec_sendMessage h).mono fun _ _ _ _ _ hsends => hdone.of_frame hsends.1)

theorem assertAvailable_ok {owner : SessionActor} {operation : JsString} (h : owner.assertAvailable operation = .ok ()) :
    owner.phase = .detached ∨ owner.phase = .ready := by
  rw [SessionActor.assertAvailable] at h
  split at h
  · cases h
  · split at h
    · cases h
    · rename_i hphase
      by_contra hneither
      rw [not_or] at hneither
      exact hphase hneither

theorem run_ofExcept_ok {α : Type} (value : α) (s : System) : (ofExcept (.ok value)).run s = (.ok value, s) := rfl

theorem safe_check {α β : Type} {result : Except JsString α} {next : α → Routine β} {Q : Except JsString β → System → Prop}
    (h : Inv s) (hok : ∀ value, result = .ok value → (next value).Safe discipline n Q s)
    (herror : ∀ error, result = .error error → Q (.error error) s) :
    (Coroutine.lift (ofExcept result) >>= next).Safe discipline n Q s := by
  cases result with
  | ok value => exact Safe.read (run_ofExcept_ok value s) h (hok value rfl)
  | error error =>
    refine Safe.liftBind (R := fun outcome t => outcome = .error error ∧ t = s)
      (fun _ => ⟨h, fun m _ => .refl m s, rfl, rfl⟩) h ?_ ?_
    · rintro value t - - - ⟨hvalue, -⟩
      cases hvalue
    · rintro failure t - - - ⟨hfailure, rfl⟩
      cases hfailure
      exact herror error rfl

theorem safe_finish {α β : Type} {task : Routine α} {rest : α → Routine β} {Q : System → Prop} (h : Inv s)
    (htask : task.Safe discipline n (fun _ t => Q t) s)
    (hrest : ∀ value t, Inv t → Q t → (rest value).Safe discipline n (fun _ u => Q u) t) :
    (task >>= rest).Safe discipline n (fun _ u => Q u) s :=
  Safe.bind htask (fun _ => h) (fun value t ht _ _ hdone => hrest value t ht hdone) fun _ _ _ _ _ hdone => hdone

/-- A command in the queue of an actor that gets the actor no process. -/
structure Visiting (n a : Nat) (s : System) : Prop where
  plain : (s.commands n).Plain
  inside : (s.commands n).inside = some a
  forking : (s.commands n).forking = false
  notReady : s.Calm → (s.actors a).phase ≠ .ready

theorem Visiting.leaving (h : Visiting n a s) : (s.commands n).Plain ∧ Leaving n a s := by
  refine ⟨h.plain, h.inside, fun hforking => ?_, h.notReady⟩
  rw [h.forking] at hforking
  cases hforking

theorem Visiting.later (h : Visiting n a s) (hcommand : t.commands n = s.commands n)
    (hnotReady : t.Calm → (t.actors a).phase ≠ .ready) : Visiting n a t := by
  refine ⟨?_, ?_, ?_, hnotReady⟩ <;> rw [hcommand]
  · exact h.plain
  · exact h.inside
  · exact h.forking

theorem Visiting.of_kept (h : Visiting n a s) (hadds : Adds s t) (hkept : Kept n a s t) : Visiting n a t := by
  refine h.later (congrFun hkept.commands n) fun hcalm => ?_
  rw [hkept.phase]
  exact h.notReady (Calm.of_adds hadds hcalm)

theorem Visiting.of_rely (h : Visiting n a s) (hadds : Adds s t) (hrely : Rely n s t) : Visiting n a t := by
  refine h.later hrely.command fun hcalm => ?_
  rw [(hrely.owner h.inside).2.1]
  exact h.notReady (Calm.of_adds hadds hcalm)

theorem Failed.leaving (h : Failed n a s t) (hvisiting : Visiting n a s) (ht : Inv t) :
    (t.commands n).Plain ∧ Leaving n a t := by
  refine (hvisiting.later h.command fun _ hphase => ?_).leaving
  rw [(ht.actors a).phase.mpr h.detached] at hphase
  cases hphase

/-- An actor that a command uses for a request. -/
structure Usable (n a proc : Nat) (s : System) : Prop where
  inside : (s.commands n).inside = some a
  forking : (s.commands n).forking = false
  process : (s.actors a).process = some proc
  phase : (s.actors a).phase = .ready

/-- What a command leaves of the actor that it has used. -/
structure Used (n a : Nat) (s t : System) : Prop where
  command : ∃ forking, t.commands n = { s.commands n with forking }
  phase : (t.actors a).phase = .ready
  quiet : ∀ lease, (t.actors a).lease = some lease → t.pool.Quiet lease.process

theorem Used.safe_release (h : Inv t) (hused : Used n a s t) (hin : (s.commands n).inside = some a)
    (hplain : (s.commands n).Plain) : (Coroutine.lift (releaseActor a) : Routine Unit).Safe discipline n
      (fun _ u => (u.commands n).Plain ∧ Leaving n a u) t := by
  obtain ⟨⟨forking, hcommand⟩, hphase, hquiet⟩ := hused
  have hlater : (t.commands n).inside = some a := by
    rw [hcommand]
    exact hin
  refine Safe.lift ((spec_releaseActor h hlater hquiet).mono ?_)
  rintro - v - - - ⟨hreleased, hnone⟩
  refine ⟨?_, ?_, fun _ => hnone ((h.actors a).empty (.inr hphase)), fun _ => hreleased.notReady⟩
  · rw [hreleased.commands, hcommand]
    exact ⟨hplain.running, hplain.lease, hplain.generation⟩
  · rw [hreleased.commands]
    exact hlater

theorem safe_finally {α : Type} {body : Routine α} {cleanup : Routine Unit} {R Q : System → Prop} (h : Inv s)
    (hbody : body.Safe discipline n (fun _ t => R t) s)
    (hcleanup : ∀ t, Inv t → R t → cleanup.Safe discipline n (fun _ u => Q u) t) :
    (body.finallyDo cleanup).Safe discipline n (fun _ u => Q u) s :=
  Safe.finallyDo hbody (fun _ => h) fun _ t ht _ _ hR =>
    (hcleanup t ht hR).mono (fun _ => ht) fun done u _ _ _ hQ => by cases done <;> exact hQ

theorem safe_useActor {α : Type} {operation : JsString} {body : Nat → Routine α} (h : Inv s)
    (hserving : Serving n a s) (hvisiting : Visiting n a s) (rounds : Nat)
    (hbody : ∀ proc t, Inv t → Usable n a proc t →
      (body proc).Safe discipline n (fun _ u => Used n a t u) t) :
    (useActor n a operation rounds body).Safe discipline n
      (fun _ t => (t.commands n).Plain ∧ Leaving n a t) s := by
  refine Safe.read (run_readActor s a) h (safe_check h (fun _ havailable => ?_) fun _ _ => hvisiting.leaving)
  refine Safe.bind (safe_acquireForActor h hserving rounds) (fun _ => h) (fun proc t ht _ _ hserved => ?_)
    fun _ t ht _ _ hfailed => Failed.leaving hfailed hvisiting ht
  obtain ⟨hcommand, hproc, hphase⟩ : Served n a proc s t := hserved
  have hplaced : (t.commands n).Placed a := hserving.placed.later hcommand
  have hplain : (t.commands n).Plain := by
    rw [hcommand]
    exact hvisiting.plain
  have husable : Usable n a proc t := by
    refine ⟨hplaced.inside, hplaced.forking, hproc, ?_⟩
    obtain ⟨-, hphase⟩ | ⟨hattached, rfl⟩ := hphase
    · exact hphase
    · refine (assertAvailable_ok havailable).resolve_left fun hdetached => hattached ?_
      exact (h.actors a).phase.mp hdetached
  exact safe_finally ht (hbody proc t ht husable) fun u hu hused => hused.safe_release hu hplaced.inside hplain

theorem safe_sendRpc_inside {proc : Nat} {command : PiRpcCommand} (h : Inv s)
    (hin : (s.commands n).inside = some a) (hforking : (s.commands n).forking = false)
    (hproc : (s.actors a).process = some proc) (hcommand : command.changesSession = false) :
    (sendRpc (some a) proc command).Safe discipline n (fun _ t => Rely n s t) s := by
  refine safe_sendRpc h (fun actor hactor => ?_) hcommand
  cases hactor
  exact h.bound_inside hin hforking hproc

theorem safe_sendRpcChecked_inside {proc : Nat} {command : PiRpcCommand} (h : Inv s)
    (hin : (s.commands n).inside = some a) (hforking : (s.commands n).forking = false)
    (hproc : (s.actors a).process = some proc) (hcommand : command.changesSession = false) :
    (sendRpcChecked (some a) proc command).Safe discipline n (fun _ t => Rely n s t) s :=
  safe_checked (safe_sendRpc_inside h hin hforking hproc hcommand) h fun _ _ _ hrely => hrely

theorem Usable.used {proc : Nat} (h : Usable n a proc s) (hrely : Rely n s t) (ht : Inv t) : Used n a s t := by
  refine ⟨⟨(s.commands n).forking, hrely.command⟩, ?_, fun lease hlease => ht.quiet_inside (n := n) ?_ ?_ hlease⟩
  · rw [(hrely.owner h.inside).2.1]
    exact h.phase
  · rw [hrely.command]
    exact h.inside
  · rw [hrely.command]
    exact h.forking

/-- The `fork` of Pi on behalf of an actor, whose process is released after it. -/
theorem safe_forkSession {proc : Nat} (h : Inv s) (husable : Usable n a proc s) (entryId : JsString) :
    (forkSession n a proc entryId).Safe discipline n (fun _ u => Used n a s u) s := by
  obtain ⟨hin, hforking, hproc, hphase⟩ := husable
  have hbound := h.bound_inside hin hforking hproc
  have hmarked : Inv (s.setCommand n { s.commands n with forking := true }) :=
    h.setLocals rfl rfl (fun _ => rfl) rfl rfl (.inl rfl) (.inl rfl)
  refine Safe.seq (run_updateCommand s n _) hmarked (fun m hm => Rely.setCommand s hm _) ?_
  have hself : (s.setCommand n { s.commands n with forking := true }).commands n = { s.commands n with forking := true } :=
    setCommand_commands_self s n _
  have hinside : ((s.setCommand n { s.commands n with forking := true }).commands n).inside = some a := by
    rw [hself]
    exact hin
  have hforked : ∀ b, ((s.setCommand n { s.commands n with forking := true }).actors b).process = some proc →
      ((s.setCommand n { s.commands n with forking := true }).commands n).inside = some b ∧
        ((s.setCommand n { s.commands n with forking := true }).commands n).forking = true := by
    intro b hb
    have hsame := (h.registry.index proc b).mpr hb
    rw [(h.registry.index proc a).mpr hproc] at hsame
    rw [← Option.some.inj hsame, hself]
    exact ⟨hin, rfl⟩
  -- What the command finds again once Pi has answered the fork, and while it waits for the state of Pi.
  have hlast : ∀ t, Replaced n proc (s.setCommand n { s.commands n with forking := true }) t →
      (t.commands n).inside = some a ∧ (t.actors a).process = some proc ∧ ∀ u, Rely n t u → Used n a s u := by
    intro t hreplaced
    obtain ⟨more, hmore⟩ := hreplaced.actor a hinside
    have htProc : (t.actors a).process = some proc := by
      rw [hmore]
      exact hproc
    have htIn : (t.commands n).inside = some a := by
      rw [hreplaced.command]
      exact hinside
    refine ⟨htIn, htProc, fun u hrely => ⟨⟨true, hrely.command.trans (hreplaced.command.trans hself)⟩, ?_, fun lease hlease => ?_⟩⟩
    · rw [(hrely.owner htIn).2.1, hmore]
      exact hphase
    · rw [(hrely.owner htIn).1] at hlease
      rw [SessionActor.process, hlease] at htProc
      cases htProc
      exact (hrely.process _ (.inr ⟨a, htIn, by rw [SessionActor.process, hlease]; rfl⟩)).quiet hreplaced.quiet
  refine Safe.bind (safe_replace hmarked (fun actor hactor => by cases hactor; exact hbound)
    (.inr ⟨a, hinside, hproc⟩) hforked hbound.1) (fun _ => hmarked) ?_
    fun _ t _ _ _ hreplaced => (hlast t hreplaced.1).2.2 t (.refl n t)
  rintro - t ht - - ⟨hreplaced, -⟩
  obtain ⟨-, -, hkept⟩ := hlast t hreplaced
  refine Safe.bind (safe_sendRpcChecked ht (Allowed.none t proc) rfl) (fun _ => ht) (fun data u hu _ _ hrely => ?_)
    fun error u _ _ _ hrely => hkept u hrely
  refine Safe.read (run_readSystem u) hu ?_
  cases data.sessionFile with
  | none => exact Safe.pure fun _ => hkept u hrely
  | some returnedPath =>
    exact safe_check hu (fun _ _ => Safe.pure fun _ => hkept u hrely) fun _ _ => hkept u hrely

/-- A handler between its commands: it has begun no turn and looked up no actor. -/
structure Begun (n : Nat) (s : System) : Prop where
  plain : (s.commands n).Plain
  inside : (s.commands n).inside = none
  actor : (s.commands n).actor = none
  forking : (s.commands n).forking = false

theorem Begun.done (h : Begun n s) (hinv : Inv s) : Done n s :=
  h.plain.done hinv h.inside

theorem Begun.later (h : Begun n s) {sessionPath : JsString} {sessionCreated : Bool}
    (hcommand : t.commands n = { s.commands n with sessionPath, sessionCreated }) : Begun n t := by
  refine ⟨?_, ?_, ?_, ?_⟩ <;> rw [hcommand]
  · exact ⟨h.plain.running, h.plain.lease, h.plain.generation⟩
  · exact h.inside
  · exact h.actor
  · exact h.forking

theorem safe_enqueue_plain {α : Type} {operation : JsString} {body : Routine α} (h : Inv s)
    (ha : a < s.actorCount) (hinside : (s.commands n).inside = none)
    (hbody : ∀ t, Inv t → Entered n a s t →
      body.Safe discipline n (fun _ u => (u.commands n).Plain ∧ Leaving n a u) t) :
    (enqueue n a operation body).Safe discipline n (fun _ u => Done n u) s := by
  refine safe_enqueue h ha hinside (fun t _ ht hentered => hbody t ht hentered) (fun _ _ _ _ hresult => hresult.2) ?_
  intro _ t u _ hu _ _ hresult hleft
  have hplain : (u.commands n).Plain := by
    rw [hleft.command]
    exact ⟨hresult.1.running, hresult.1.lease, hresult.1.generation⟩
  refine hplain.done hu ?_
  rw [hleft.command]

theorem Begun.visiting (h : Begun n s) (hentered : Entered n a s t) : Visiting n a t := by
  refine ⟨?_, ?_, ?_, hentered.notReady⟩ <;> rw [hentered.command]
  · exact ⟨h.plain.running, h.plain.lease, h.plain.generation⟩
  · exact h.forking

/-- What a command that has steered a message into a turn keeps. -/
structure Steered (n a : Nat) (s t : System) : Prop where
  command : t.commands n = s.commands n
  notReady : t.Calm → (t.actors a).phase ≠ .ready
  quiet : ∀ lease, (s.commands n).lease = some lease → s.pool.Quiet lease.process → t.pool.Quiet lease.process

theorem Steered.of_kept (h : Steered n a s t) (hadds : Adds t u) (hkept : Kept n a t u) : Steered n a s u := by
  refine ⟨(congrFun hkept.commands n).trans h.command, fun hcalm => ?_, fun lease hlease hquiet => ?_⟩
  · rw [hkept.phase]
    exact h.notReady (Calm.of_adds hadds hcalm)
  · rw [hkept.pool]
    exact h.quiet lease hlease hquiet

theorem Steered.of_rely (h : Steered n a s t) (hin : (t.commands n).inside = some a) (hadds : Adds t u) (hrely : Rely n t u) :
    Steered n a s u := by
  refine ⟨hrely.command.trans h.command, fun hcalm => ?_, fun lease hlease hquiet => ?_⟩
  · rw [(hrely.owner hin).2.1]
    exact h.notReady (Calm.of_adds hadds hcalm)
  · rw [← h.command] at hlease
    exact (hrely.process lease.process (.inl ⟨lease, hlease, rfl⟩)).quiet (h.quiet lease (h.command ▸ hlease) hquiet)

/-- A message that is steered into the turn of an actor; it keeps the locals of the command. -/
theorem safe_sendSteering (h : Inv s) (hin : (s.commands n).inside = some a)
    (hforking : (s.commands n).forking = false) (hready : s.Calm → (s.actors a).phase ≠ .ready) (message : JsString) :
    (sendSteering a message).Safe discipline n (fun _ t => Steered n a s t) s := by
  have hstay : Steered n a s s := ⟨rfl, hready, fun _ _ => id⟩
  refine Safe.read (run_readActor s a) h ?_
  cases hproc : (s.actors a).process with
  | none => exact Safe.throw fun _ => hstay
  | some proc =>
    dsimp only
    split
    · rename_i hactive
      refine Safe.liftBind (spec_enqueueSteering h hin hactive message) h (fun _ t ht _ hadds hkept => ?_)
        fun error t _ _ hadds hkept => hstay.of_kept hadds hkept
      have hsteered := hstay.of_kept hadds hkept
      have htIn : (t.commands n).inside = some a := by
        rw [hkept.commands]
        exact hin
      have htForking : (t.commands n).forking = false := by
        rw [hkept.commands]
        exact hforking
      refine Safe.tryCatch (R := fun _ u => (u.commands n).inside = some a ∧ Steered n a s u) ?_ (fun _ => ht)
        (fun _ u _ _ _ hresult => hresult.2) ?_
      · refine safe_finish ht ((safe_sendRpc_inside ht htIn htForking (by rw [hkept.process]; exact hproc) rfl).mono
          (fun _ => ht) fun _ u _ _ hadds hrely => ⟨?_, hsteered.of_rely htIn hadds hrely⟩)
          fun _ _ _ hresult => Safe.pure fun _ => hresult
        rw [hrely.command]
        exact htIn
      · rintro error u hu - - ⟨huIn, hlast⟩
        refine Safe.liftBind (spec_dequeueSteering hu huIn message) hu (fun _ v _ _ hadds hkept => ?_)
          fun _ v _ _ hadds hkept => hlast.of_kept hadds hkept
        exact Safe.throw fun _ => hlast.of_kept hadds hkept
    · exact Safe.throw fun _ => hstay

end pipane.ws_handler.runtime

import Pipane.Server.WsHandler.Commands.Starting

open async javascript pipane.process_pool pipane.session_actor pipane.session_jsonl pipane.session_registry
open async.Atomic (Ends)
open async.Coroutine (Safe)

namespace pipane.ws_handler.runtime

variable {n a proc : Nat} {s t u : System} {lease : HeldLease}

/-- A command has a lease of a process that it has noted as that of its turn. -/
structure Leased (n : Nat) (lease : HeldLease) (s t : System) : Prop where
  command : t.commands n = { s.commands n with lease := some lease, proc := some lease.process }
  actor : ∀ a, (s.commands n).inside = some a →
    ∃ more, t.actors a = { s.actors a with commandTail := (s.actors a).commandTail ++ more }
  answered : t.pool.Answered lease.process

/-- A process is acquired for the turn of a command, and has started. -/
theorem safe_leaseProcess {α : Type} {rest : HeldLease → Routine α} {Q : Except JsString α → System → Prop}
    (h : Inv s) (hplain : (s.commands n).Plain) (cwd : JsString) (rounds : Nat)
    (hrest : ∀ lease t, Adds s t → Inv t → Leased n lease s t →
      (rest lease).Safe discipline n Q t)
    (hfailed : ∀ error t, Adds s t → Rely n s t → Q (.error error) t) :
    (do
      let lease ← acquireProcess n cwd rounds
      updateCommand n fun me => { me with proc := some lease.process }
      waitForReady lease.process
      rest lease : Routine α).Safe discipline n Q s := by
  refine Safe.bind (safe_acquireProcess h hplain.lease hplain.running cwd rounds) (fun _ => h) ?_
    fun error t _ _ hadds hrely => hfailed error t hadds hrely
  intro lease t ht _ hadds hacquires
  have hacquired : Acquired n lease s t := hacquires
  have hmid : Inv (t.setCommand n { t.commands n with proc := some lease.process }) := by
    refine ht.setLocals rfl rfl id rfl rfl (.inl rfl) (.inr ?_)
    rw [hacquired.command]
    exact hplain.generation
  refine Safe.seq (run_updateCommand t n _) hmid (fun m hm => Rely.setCommand t hm _) ?_
  have hself : (t.setCommand n { t.commands n with proc := some lease.process }).commands n =
      { s.commands n with lease := some lease, proc := some lease.process } := by
    rw [setCommand_commands_self, hacquired.command]
  have hnoted := Adds.setCommand t n { t.commands n with proc := some lease.process }
  refine Safe.bind (safe_waitForReady hmid lease.process) (fun _ => hmid) ?_ ?_
  · rintro - u hu - hwaited ⟨-, hrely⟩
    refine hrest lease u ((hadds.trans hnoted).trans hwaited) hu ⟨?_, fun actor hinside => ?_, ?_⟩
    · rw [hrely.command]
      exact hself
    · obtain ⟨more, hmore⟩ := hacquired.actor actor hinside
      obtain ⟨later, hlater⟩ := hrely.actor actor (by rw [hself]; exact hinside)
      refine ⟨more ++ later, ?_⟩
      rw [hlater, setCommand_actors, hmore, List.append_assoc]
    · refine ((hrely.process lease.process (.inl ⟨lease, ?_, rfl⟩)).answered hacquired.answered).1
      rw [hself]
  · rintro error u - - - ⟨hok, -⟩
    cases hok

/-- A command has created a session in the process that it has leased. -/
structure Created (n : Nat) (t : System) : Prop where
  failing : Failing n t
  actor : (t.commands n).actor = none
  generation : (t.commands n).generation = none
  bound : ∀ lease, (t.commands n).lease = some lease → t.pool.Bound lease.process (t.commands n).sessionPath

theorem Begun.failing (h : Begun n s) : Failing n s := by
  refine ⟨h.inside, h.plain.running, h.forking, fun lease hlease => ?_⟩
  rw [h.plain.lease] at hlease
  cases hlease

theorem Begun.created (h : Begun n s) : Created n s := by
  refine ⟨h.failing, h.actor, h.plain.generation, fun lease hlease => ?_⟩
  rw [h.plain.lease] at hlease
  cases hlease

theorem Begun.failing_of_leased (h : Begun n s) (hcommand : t.commands n =
    { s.commands n with lease := some lease, proc := some lease.process }) (hquiet : t.pool.Quiet lease.process) :
    Failing n t := by
  refine ⟨?_, ?_, ?_, ?_⟩ <;> rw [hcommand]
  · exact h.inside
  · exact h.plain.running
  · exact h.forking
  · intro taken htaken
    cases htaken
    exact hquiet

theorem resolvePending_ok {files : Files} {sessionPath resolved : JsString}
    (h : files.resolvePending sessionPath = .ok resolved) : resolved = sessionPath := by
  rw [Files.resolvePending] at h
  split at h
  · cases h
  · exact (Except.ok.inj h).symm

theorem safe_createSession (h : Inv s) (hbegun : Begun n s) (command : PromptCommand) (rounds : Nat) :
    (createSession n command rounds).Safe discipline n (fun result t => match result with
      | .ok _ => Created n t
      | .error _ => Failing n t) s := by
  refine Safe.read (run_readSystem s) h ?_
  refine safe_leaseProcess h hbegun.plain _ rounds (fun lease t _ ht hleased => ?_)
    fun error t _ hrely => hbegun.failing.of_rely hrely
  have hlease : (t.commands n).lease = some lease := by rw [hleased.command]
  refine Safe.bind (safe_replacePiSession ht hlease hleased.answered) (fun _ => ht) ?_ ?_
  · rintro _ u hu - - ⟨hreplaced, hopened⟩
    have hcommand := hreplaced.command.trans hleased.command
    have hguards : Guards n lease.process u := .inl ⟨lease, by rw [hcommand], rfl⟩
    refine Safe.bind (safe_getState hu hguards (hopened rfl).1) (fun _ => hu) ?_ ?_
    · rintro data v hv - - ⟨hrely, hdata⟩
      have hlater := hrely.command.trans hcommand
      have hfailing := hbegun.failing_of_leased hlater ((hrely.process lease.process hguards).quiet hreplaced.quiet)
      refine Safe.read (run_readSystem v) hv ?_
      cases hfile : data.sessionFile with
      | none => exact Safe.throw fun _ => hfailing
      | some createdPath =>
        obtain hbound | hnone := hdata data rfl
        · rw [hfile] at hbound
          refine safe_check hv (fun sessionPath hresolved => ?_) fun _ _ => hfailing
          cases resolvePending_ok hresolved
          have hmid : Inv (v.setCommand n { v.commands n with sessionPath := createdPath }) :=
            hv.setLocals rfl rfl id rfl rfl (.inl rfl) (.inl rfl)
          refine Safe.lift (Ends.spec (R := fun result w => result = .ok () ∧
            w = v.setCommand n { v.commands n with sessionPath := createdPath }) ⟨rfl, rfl⟩ ?_)
          rintro result w - - ⟨rfl, rfl⟩
          refine ⟨hmid, fun m hm => Rely.setCommand v hm _,
            hfailing.later (setCommand_commands_self v n _) hfailing.quiet, ?_, ?_, ?_⟩ <;> rw [setCommand_commands_self]
          · exact hlater ▸ hbegun.actor
          · exact hlater ▸ hbegun.plain.generation
          · intro taken htaken
            rw [hlater] at htaken
            cases htaken
            exact hbound
        · rw [hfile] at hnone
          cases hnone
    · rintro error v - - - ⟨hrely, -⟩
      exact hbegun.failing_of_leased (hrely.command.trans hcommand)
        ((hrely.process lease.process hguards).quiet hreplaced.quiet)
  · rintro error u - - - ⟨hreplaced, -⟩
    exact hbegun.failing_of_leased (hreplaced.command.trans hleased.command) hreplaced.quiet

/-- A command that will begin a turn of the actor whose queue it has reached. -/
structure Prompting (n a : Nat) (s : System) : Prop where
  placed : (s.commands n).Placed a
  generation : (s.commands n).generation = none
  notReady : s.Calm → (s.actors a).phase ≠ .ready
  bound : ∀ lease, (s.commands n).lease = some lease → s.pool.Bound lease.process (s.actors a).sessionPath

/-- What is known of a prompt that leaves the queue of its actor, whatever has become of it. -/
structure Parting (n a : Nat) (s : System) : Prop where
  placed : (s.commands n).Placed a
  notReady : s.Calm → (s.actors a).phase ≠ .ready
  quiet : ∀ lease, (s.commands n).lease = some lease → s.pool.Quiet lease.process

theorem Parting.of_none (hplaced : (s.commands n).Placed a) (hnotReady : s.Calm → (s.actors a).phase ≠ .ready)
    (hnone : (s.commands n).lease = none) : Parting n a s := by
  refine ⟨hplaced, hnotReady, fun lease hlease => ?_⟩
  rw [hnone] at hlease
  cases hlease

theorem InTurn.parting (h : InTurn n a proc s) : Parting n a s :=
  .of_none h.placed h.notReady h.lease

/-- An actor that a command may begin a turn of. -/
structure Ready (n a proc : Nat) (s : System) : Prop where
  placed : (s.commands n).Placed a
  lease : (s.commands n).lease = none
  process : (s.actors a).process = some proc
  phase : (s.actors a).phase = .ready

theorem Ready.parting (h : Ready n a proc s) (hloud : ¬ s.Calm) : Parting n a s :=
  .of_none h.placed (fun hcalm => absurd hcalm hloud) h.lease

theorem Ready.of_frame (h : Ready n a proc s) (hframe : Frame s t) : Ready n a proc t := by
  obtain ⟨hplaced, hlease, hprocess, hphase⟩ := h
  rw [← hframe.commands] at hplaced hlease
  rw [← hframe.actors] at hprocess hphase
  exact ⟨hplaced, hlease, hprocess, hphase⟩

theorem Attaches.ready (h : Attaches n a lease s t) (hplaced : (s.commands n).Placed a) : Ready n a lease.process t :=
  ⟨hplaced.later h.command, by rw [h.command], h.process, h.phase⟩

/-- What is known of the actor that a prompt has given its process to, or could not. -/
def Provides (n a : Nat) : Except JsString Nat → System → Prop
  | .ok proc, t => Ready n a proc t
  | .error _, t => Parting n a t

theorem Ready.safe_sent (h : Inv s) (hready : Ready n a proc s) {rest : Routine Nat}
    (hrest : ∀ t, Inv t → Ready n a proc t → rest.Safe discipline n (Provides n a) t) :
    (do
      sendMessage
      rest : Routine Nat).Safe discipline n (Provides n a) s :=
  Safe.liftBind (spec_sendMessage h) h (fun _ t ht _ _ hsends => hrest t ht (hready.of_frame hsends.1))
    fun error _ _ _ _ hsends => (hready.of_frame hsends.1).parting (hsends.2 error rfl)

theorem Prompting.parting (h : Prompting n a s) (hinv : Inv s) : Parting n a s :=
  ⟨h.placed, h.notReady, fun lease hlease => hinv.rpcs.requests.quiet_of_answered (h.bound lease hlease).1⟩

/-- The process of a turn is that of the prompt, or one that is acquired for its actor. -/
theorem safe_processForTurn (h : Inv s) (hprompting : Prompting n a s)
    (havailable : (s.actors a).phase = .detached ∨ (s.actors a).phase = .ready) (rounds : Nat) :
    (processForTurn n a rounds).Safe discipline n (Provides n a) s := by
  refine Safe.read (run_readCommand s n) h ?_
  cases hlease : (s.commands n).lease with
  | some lease =>
    refine Safe.liftBind (spec_attachUnowned h hprompting.placed.inside hlease (hprompting.bound lease hlease)
      hprompting.placed.own) h (fun _ t ht _ _ hattaches => ?_) ?_
    · exact (Attaches.ready hattaches hprompting.placed).safe_sent ht fun u _ hlater => Safe.pure fun _ => hlater
    · rintro error t - - - ⟨-, rfl⟩
      exact hprompting.parting h
  | none =>
    have hserving : Serving n a s := ⟨hprompting.placed, hlease⟩
    refine (safe_acquireForActor h hserving rounds).mono (fun _ => h) fun result t ht _ _ hresult => ?_
    cases result with
    | ok proc =>
      obtain ⟨hcommand, hproc, hphase⟩ : Served n a proc s t := hresult
      refine ⟨hprompting.placed.later hcommand, by rw [hcommand, hlease], hproc, ?_⟩
      obtain ⟨-, hphase⟩ | ⟨hattached, rfl⟩ := hphase
      · exact hphase
      · exact havailable.resolve_left fun hdetached => hattached ((h.actors a).phase.mp hdetached)
    | error error =>
      obtain ⟨hcommand, hdetached⟩ : Failed n a s t := hresult
      refine Parting.of_none (hprompting.placed.later hcommand) (fun _ hphase => ?_) (by rw [hcommand, hlease])
      rw [(ht.actors a).phase.mpr hdetached] at hphase
      cases hphase

/-- The process of a fork's turn has the copied session open. -/
theorem safe_processForFork (h : Inv s) (hprompting : Prompting n a s)
    (hnone : (s.commands n).lease = none) (cwd : JsString) (rounds : Nat) :
    (processForFork n a cwd rounds).Safe discipline n (Provides n a) s := by
  have hplaced := hprompting.placed
  have hplain : (s.commands n).Plain := ⟨hplaced.running, hnone, hprompting.generation⟩
  refine safe_leaseProcess h hplain cwd rounds (fun lease t hadds ht hleased => ?_) fun error t hadds hrely => ?_
  · refine Safe.read (run_readActor t a) ht ?_
    obtain ⟨more, hmore⟩ := hleased.actor a hplaced.inside
    have hin : (t.commands n).inside = some a := (hplaced.later hleased.command).inside
    -- What the handler keeps of its locals and of its actor while Pi opens the session.
    have hkept : ∀ u, Adds t u → Replaced n lease.process t u → Parting n a u := by
      intro u hlast hreplaced
      obtain ⟨rest, hrest⟩ := hreplaced.actor a hin
      have hcommand := hreplaced.command.trans hleased.command
      refine ⟨hplaced.later hcommand, fun hcalm => ?_, fun taken htaken => ?_⟩
      · rw [hrest, hmore]
        exact hprompting.notReady (Calm.of_adds (hadds.trans hlast) hcalm)
      · rw [hcommand] at htaken
        cases htaken
        exact hreplaced.quiet
    refine Safe.bind (safe_replacePiSession ht (by rw [hleased.command]) hleased.answered) (fun _ => ht) ?_ ?_
    · rintro _ u hu - hlast ⟨hreplaced, hopened⟩
      obtain ⟨hanswered, hsession⟩ := hopened rfl
      obtain ⟨rest, hrest⟩ := hreplaced.actor a hin
      have hcommand := hreplaced.command.trans hleased.command
      have huPlaced : (u.commands n).Placed a := hplaced.later hcommand
      have hpath : (u.actors a).sessionPath = (t.actors a).sessionPath := by rw [hrest]
      refine Safe.liftBind (spec_attachUnowned hu huPlaced.inside (by rw [hcommand])
        ⟨hanswered, by rw [hpath]; exact hsession _ rfl⟩ huPlaced.own) hu (fun _ v hv _ _ hattaches => ?_) ?_
      · refine (Attaches.ready hattaches huPlaced).safe_sent hv fun w hw hready => ?_
        exact hready.safe_sent hw fun x _ hlater => Safe.pure fun _ => hlater
      · rintro error v - - - ⟨-, rfl⟩
        exact hkept v hlast hreplaced
    · rintro error u - - hlast ⟨hreplaced, -⟩
      exact hkept u hlast hreplaced
  · refine Parting.of_none (hplaced.later hrely.command) (fun hcalm => ?_) (by rw [hrely.command, hnone])
    rw [(hrely.owner hplaced.inside).2.1]
    exact hprompting.notReady (Calm.of_adds hadds hcalm)

section

variable {α β : Type} {Q : Except JsString β → System → Prop}

theorem InTurn.next {task : Routine α} {rest : α → Routine β} (h : Inv s)
    (htask : task.Safe discipline n (fun _ t => InTurn n a proc t) s)
    (hfailed : ∀ error t, Parting n a t → Q (.error error) t)
    (hrest : ∀ value t, Inv t → InTurn n a proc t → (rest value).Safe discipline n Q t) :
    (task >>= rest).Safe discipline n Q s :=
  Safe.bind htask (fun _ => h) (fun value t ht _ _ hturn => hrest value t ht hturn)
    fun error t _ _ _ hturn => hfailed error t hturn.parting

theorem Ready.safe_begin {control : ControlCommand} {rest : Nat → Routine β} (h : Inv s) (hready : Ready n a proc s)
    (hfailed : ∀ error t, Parting n a t → Q (.error error) t)
    (hrest : ∀ observer t, Inv t → InTurn n a proc t → (rest observer).Safe discipline n Q t) :
    (do
      let observer ← startTurn n a proc
      applyRequestedControlState proc a control
      materializePromptImages control.images
      rest observer : Routine β).Safe discipline n Q s := by
  refine Safe.liftBind (spec_startTurn h hready.placed.inside hready.phase hready.process hready.placed.own) h ?_ ?_
  · rintro observer t ht - - ⟨-, hcommand, hphase, hlease, -⟩
    have hturn : InTurn n a proc t := by
      refine ⟨hready.placed.later hcommand, ?_, ?_, fun _ hnot => ?_⟩
      · rw [hcommand]
        exact hready.lease
      · rw [SessionActor.process, hlease]
        exact hready.process
      · rw [hphase] at hnot
        cases hnot
    refine InTurn.next ht (hturn.safe_applyRequestedControlState ht control) hfailed fun _ u hu hlater => ?_
    exact InTurn.next hu (hlater.safe_materializePromptImages control.images) hfailed fun _ v hv hnow => hrest observer v hv hnow
  · rintro error t - - - ⟨⟨observer, hok⟩, -⟩
    cases hok

end

theorem InTurn.safe_accepted {β : Type} {observer : β} (h : Inv s) (hturn : InTurn n a proc s) :
    (do
      updateCommand n fun me => { me with promptAccepted := true }
      reconcileEffectiveControlState proc a
      pure observer : Routine β).Safe discipline n
      (fun result t => InTurn n a proc t ∧ ∀ value, result = .ok value → value = observer) s := by
  have hmid : Inv (s.setCommand n { s.commands n with promptAccepted := true }) :=
    h.setLocals rfl rfl id rfl rfl (.inl rfl) (.inl rfl)
  have hadds := Adds.setCommand s n { s.commands n with promptAccepted := true }
  have hlater : InTurn n a proc (s.setCommand n { s.commands n with promptAccepted := true }) :=
    hturn.later hadds (setCommand_commands_self s n _) rfl rfl
  refine Safe.seq (run_updateCommand s n _) hmid (fun m hm => Rely.setCommand s hm _) ?_
  refine Safe.bind (hlater.safe_reconcile hmid) (fun _ => hmid) (fun _ t _ _ _ hnow => ?_) fun error t _ _ _ hnow => ?_
  · exact Safe.pure fun _ => ⟨hnow, fun value hvalue => (Except.ok.inj hvalue).symm⟩
  · exact ⟨hnow, fun value hvalue => by cases hvalue⟩

/-- What is known of a prompt that has joined a turn, has begun one or has failed. -/
def Prompted (n a : Nat) : Except JsString (Option (Nat × Bool)) → System → Prop
  | .ok none, t => Parting n a t ∧ (t.commands n).generation = none ∧ (t.Calm → (t.commands n).lease = none)
  | .ok (some _), t => Parting n a t ∧ (t.commands n).lease = none
  | .error _, t => Parting n a t

/-- A prompt that finds a turn in progress is steered into it. -/
theorem Prompting.safe_join (h : Inv s) (hprompting : Prompting n a s) (message : JsString) :
    (do
      joinTurn n
      sendSteering a message
      pure none : Routine (Option (Nat × Bool))).Safe discipline n (Prompted n a) s := by
  refine Safe.liftBind (spec_joinTurn h) h ?_ ?_
  · rintro _ t ht - hadds ⟨-, hframe, hjoined⟩
    have hcommand := congrFun hframe.commands n
    have hplaced : (t.commands n).Placed a := hprompting.placed.later hcommand
    have hnotReady : t.Calm → (t.actors a).phase ≠ .ready := by
      rw [hframe.actors]
      exact fun hcalm => hprompting.notReady (Calm.of_adds hadds hcalm)
    have hparting : ∀ u, Steered n a t u → Parting n a u := by
      intro u hsteered
      refine ⟨hplaced.later hsteered.command, hsteered.notReady, fun lease hlease => ?_⟩
      rw [hsteered.command] at hlease
      refine hsteered.quiet lease hlease ?_
      rw [hcommand] at hlease
      rw [hframe.pool]
      exact h.rpcs.requests.quiet_of_answered (hprompting.bound lease hlease).1
    refine Safe.bind (safe_sendSteering ht hplaced.inside hplaced.forking hnotReady message) (fun _ => ht) ?_
      fun error u _ _ _ hsteered => hparting u hsteered
    refine fun _ u _ _ hlast hsteered => Safe.pure fun _ => ⟨hparting u hsteered, ?_, fun hcalm => ?_⟩
    · rw [hsteered.command, hcommand]
      exact hprompting.generation
    · rw [hsteered.command, hcommand]
      exact hjoined (Calm.of_adds hlast hcalm)
  · rintro error t - - - ⟨hok, -⟩
    cases hok

theorem safe_startPrompt (h : Inv s) (hprompting : Prompting n a s) (command : PromptCommand)
    (rounds : Nat) : (startPrompt n a command rounds).Safe discipline n (Prompted n a) s := by
  have hfailed : ∀ error t, Parting n a t → Prompted n a (.error error) t := fun _ _ hparting => hparting
  refine Safe.read (run_readActor s a) h ?_
  split
  · exact hprompting.safe_join h command.control.message
  · refine safe_check h (fun _ havailable => ?_) fun _ _ => hprompting.parting h
    refine Safe.bind (safe_processForTurn h hprompting (assertAvailable_ok havailable) rounds) (fun _ => h) ?_
      fun error t _ _ _ hparting => hparting
    intro proc t ht _ _ hready
    refine Ready.safe_begin ht hready hfailed fun observer u hu hturn => ?_
    have hprompt : (sendRpc (some a) proc (.prompt command.control.message)).Safe discipline n
        (fun _ v => Rely n u v) u :=
      safe_sendRpc_inside hu hturn.placed.inside hturn.placed.forking hturn.process rfl
    refine InTurn.next hu (hprompt.mono (fun _ => hu) fun _ v _ _ hadds hrely => hturn.of_rely hadds hrely) hfailed
      fun response v hv hlater => ?_
    cases response with
    | failure error => exact Safe.throw fun _ => hlater.parting
    | success data =>
      refine InTurn.next hv ((safe_didPromptStart hv proc observer).mono (fun _ => hv)
        fun _ w _ _ hadds hrely => hlater.of_rely hadds hrely) hfailed fun promptStarted w hw hnow => ?_
      have hend : ∀ x, Inv x → InTurn n a proc x → (do
          updateCommand n fun me => { me with promptAccepted := true }
          reconcileEffectiveControlState proc a
          pure (some (observer, promptStarted)) : Routine (Option (Nat × Bool))).Safe discipline n
          (Prompted n a) x := by
        intro x hx hinside
        refine (hinside.safe_accepted hx).mono (fun _ => hx) ?_
        rintro (error | value) y - - - ⟨hlast, hvalue⟩
        · exact hlast.parting
        · cases hvalue value rfl
          exact ⟨hlast.parting, hlast.lease⟩
      dsimp only
      split
      · refine InTurn.next hw (Safe.lift ((spec_publishCreated hw promptStarted).mono ?_)) hfailed
          fun _ x hx hinside => hend x hx hinside
        rintro - x - - hadds ⟨sessionCreated, hnoted⟩
        exact hnow.later hadds hnoted.command (by rw [hnoted.actors]) (by rw [hnoted.actors])
      · exact hend w hw hnow

/-- What is known of the prompt of a fork. -/
def Started (n a : Nat) : Except JsString Nat → System → Prop
  | .ok _, t => Parting n a t ∧ (t.commands n).lease = none
  | .error _, t => Parting n a t

theorem safe_startForkPrompt (h : Inv s) (hprompting : Prompting n a s)
    (hnone : (s.commands n).lease = none) (cwd : JsString) (command : ForkPromptCommand) (rounds : Nat) :
    (startForkPrompt n a cwd command rounds).Safe discipline n (Started n a) s := by
  have hfailed : ∀ error t, Parting n a t → Started n a (.error error) t := fun _ _ hparting => hparting
  refine Safe.read (run_readActor s a) h (safe_check h (fun _ _ => ?_) fun _ _ => hprompting.parting h)
  refine Safe.bind (safe_processForFork h hprompting hnone cwd rounds) (fun _ => h) ?_
    fun error t _ _ _ hparting => hparting
  intro proc t ht _ _ hready
  refine Ready.safe_begin ht hready hfailed fun observer u hu hturn => ?_
  refine InTurn.next hu (hturn.safe_request hu (.inr rfl) rfl) hfailed fun _ v hv hlater => ?_
  refine (hlater.safe_accepted hv).mono (fun _ => hv) ?_
  rintro (error | value) w - - - ⟨hlast, -⟩
  · exact hlast.parting
  · exact ⟨hlast.parting, hlast.lease⟩

end pipane.ws_handler.runtime

import Pipane.Server.WsHandler.Commands.Specs

open async javascript pipane.process_pool pipane.session_actor pipane.session_jsonl pipane.session_registry
open async.Atomic (Spec Ends)

namespace pipane.ws_handler.runtime

variable {n a : Nat} {s t u : System}

/-- A command has changed nothing that decides who owns the actor whose queue it has reached. -/
structure Kept (n a : Nat) (s t : System) : Prop where
  commands : t.commands = s.commands
  lease : (t.actors a).lease = (s.actors a).lease
  phase : (t.actors a).phase = (s.actors a).phase
  pool : t.pool = s.pool
  gone : s.Gone n → t.Gone n

theorem Kept.refl (n a : Nat) (s : System) : Kept n a s s :=
  ⟨rfl, rfl, rfl, rfl, id⟩

theorem Kept.of_frame {v : System} (h : Kept n a s v) (hframe : Frame v t) : Kept n a s t where
  commands := hframe.commands.trans h.commands
  lease := by
    rw [hframe.actors]
    exact h.lease
  phase := by
    rw [hframe.actors]
    exact h.phase
  pool := hframe.pool.trans h.pool
  gone := hframe.gone.mpr ∘ h.gone

theorem Kept.process (h : Kept n a s t) : (t.actors a).process = (s.actors a).process := by
  rw [SessionActor.process, h.lease, SessionActor.process]

theorem Frame.kept (h : Frame s t) (n a : Nat) : Kept n a s t :=
  (Kept.refl n a s).of_frame h

theorem Kept.settled (h : Kept n a s t) (hready : t.Calm → (s.actors a).phase ≠ .ready) : Settled n a s t where
  commands := h.commands
  gone := h.gone
  notReady hcalm := by
    rw [h.phase]
    exact hready hcalm

theorem AttachedOk.inTurn {me : Command} {owner next : SessionActor} {lease : HeldLease} (h : AttachedOk me a owner lease)
    (hactive : owner.isTurnActive = true) (hnext : next.isTurnActive = true)
    (hgeneration : next.turnGeneration = owner.turnGeneration) : AttachedOk me a next lease := by
  refine ⟨h.running, h.own, .inr ?_⟩
  obtain ⟨hready, -⟩ | ⟨-, hsame, hproc⟩ := h.turn
  · simp [SessionActor.isTurnActive, hready] at hactive
  · exact ⟨hnext, by rw [hgeneration]; exact hsame, hproc⟩

theorem isTurnActive_iff (owner : SessionActor) : owner.isTurnActive = true ↔
    owner.phase = .starting ∨ owner.phase = .running ∨ owner.phase = .settling := by
  simp [SessionActor.isTurnActive]

theorem Inv.inTurn (h : Inv s) (hin : (s.commands n).inside = some a) {phase : SessionPhase}
    (hactive : (s.actors a).isTurnActive = true)
    (hphase : phase = .starting ∨ phase = .running ∨ phase = .settling) :
    Inv (s.setActor a { s.actors a with phase }) := by
  have hok := h.actors a
  have hattached : (s.actors a).lease ≠ none := by
    intro hnone
    rw [isTurnActive_iff, hok.phase.mpr hnone] at hactive
    simp at hactive
  have hother : phase ≠ .detached ∧ phase ≠ .attaching ∧ phase ≠ .ready ∧ phase ≠ .releasing := by
    obtain rfl | rfl | rfl := hphase <;> simp
  have hnext : ActorOk s.history.listenerThrew { s.actors a with phase } := by
    refine ⟨hok.session, ⟨fun hdetached => ?_, fun hnone => absurd hnone hattached⟩, hother.2.1, fun hidle => ?_,
      fun hquiet => ⟨hother.2.2.2, (hok.calm hquiet).2⟩⟩
    · exact absurd hdetached hother.1
    · exact absurd hidle (not_or.mpr ⟨hother.1, hother.2.2.1⟩)
  exact h.setActor (h.created hin) rfl rfl (fun m hm => h.inside m a hm) hnext fun _ _ _ _ hold =>
    hold.inTurn hactive ((isTurnActive_iff _).mpr hphase) rfl

theorem Inv.setQueue (h : Inv s) (hin : (s.commands n).inside = some a) {next : SessionActor}
    (hlease : next.lease = (s.actors a).lease) (hpath : next.sessionPath = (s.actors a).sessionPath)
    (htail : next.commandTail = (s.actors a).commandTail) (hphase : next.phase = (s.actors a).phase)
    (hgeneration : next.turnGeneration = (s.actors a).turnGeneration)
    (hsession : next.session.isSome = (s.actors a).session.isSome)
    (hidle : next.phase = .detached ∨ next.phase = .ready → next.steeringQueue = [])
    (hqueue : s.history.listenerThrew = false → ∀ session, next.session = some session →
      session.steeringQueue = next.steeringQueue) : Inv (s.setActor a next) := by
  have hok := h.actors a
  have hnext : ActorOk s.history.listenerThrew next := by
    refine ⟨by rw [hsession, hlease]; exact hok.session, by rw [hphase, hlease]; exact hok.phase, ?_, hidle, fun hquiet => ?_⟩
    · rw [hphase]
      exact hok.attaching
    · refine ⟨?_, hqueue hquiet⟩
      rw [hphase]
      exact (hok.calm hquiet).1
  refine h.setActor (h.created hin) hlease hpath (fun m hm => htail ▸ h.inside m a hm) hnext
    fun _ _ _ _ ⟨hrunning, hown, hturn⟩ => ⟨hrunning, hown, ?_⟩
  rw [SessionActor.isTurnActive, hphase, hgeneration]
  exact hturn

theorem Kept.of_setActor (h : Inv s) {next : SessionActor} (hframe : Frame (s.setActor a next) t)
    (hlease : next.lease = (s.actors a).lease) (hpath : next.sessionPath = (s.actors a).sessionPath)
    (hphase : next.phase = (s.actors a).phase) : Kept n a s t := by
  refine Kept.of_frame (v := s.setActor a next) ⟨rfl, ?_, ?_, rfl, h.gone_setActor hlease hpath⟩ hframe
  · rw [setActor_actors_self, hlease]
  · rw [setActor_actors_self, hphase]

theorem spec_setSteeringQueue (h : Inv s) (hin : (s.commands n).inside = some a) {queue : List JsString}
    (hidle : (s.actors a).phase = .detached ∨ (s.actors a).phase = .ready → queue = []) :
    (setSteeringQueue a queue).Spec discipline n (fun _ t => Kept n a s t) s := by
  have hmid : Inv (s.setActor a { s.actors a with
      steeringQueue := queue
      session := (s.actors a).session.map fun session => { session with steeringQueue := queue } }) := by
    refine h.setQueue hin rfl rfl rfl rfl rfl (by simp) hidle fun _ session hsession => ?_
    obtain ⟨before, -, rfl⟩ := Option.map_eq_some_iff.mp hsession
    rfl
  refine spec_via hmid (fun m hm => Rely.setActor h hin hm rfl rfl)
    (Ends.seq (run_updateActor s a _ _) (ends_emitSteeringQueueUpdate _ a)) fun _ t hsends => ⟨hsends.1, fun _ => ?_⟩
  exact Kept.of_setActor h hsends.1 rfl rfl rfl

theorem spec_enqueueSteering (h : Inv s) (hin : (s.commands n).inside = some a)
    (hactive : (s.actors a).isTurnActive = true) (message : JsString) :
    (enqueueSteering a message).Spec discipline n (fun _ t => Kept n a s t) s := by
  refine Spec.read (run_readActor s a) (spec_setSteeringQueue h hin fun hidle => ?_)
  rw [isTurnActive_iff] at hactive
  obtain hidle | hidle := hidle <;> simp [hidle] at hactive

theorem Inv.idle_queue (h : Inv s) {queue : List JsString}
    (hsub : queue.length ≤ (s.actors a).steeringQueue.length) :
    (s.actors a).phase = .detached ∨ (s.actors a).phase = .ready → queue = [] := by
  intro hidle
  rw [(h.actors a).empty hidle] at hsub
  exact List.eq_nil_of_length_eq_zero (Nat.le_zero.mp hsub)

theorem spec_removeSteeringByIndex (h : Inv s) (hin : (s.commands n).inside = some a) (index : Int) :
    (removeSteeringByIndex a index).Spec discipline n (fun _ t => Kept n a s t) s := by
  refine Spec.read (run_readActor s a) ?_
  split
  · exact Spec.pure h fun _ => .refl n a s
  · refine spec_setSteeringQueue h hin (h.idle_queue ?_)
    exact List.length_eraseIdx_le _ _

theorem spec_dequeueSteering (h : Inv s) (hin : (s.commands n).inside = some a) (text : JsString) :
    (dequeueSteering a text).Spec discipline n (fun _ t => Kept n a s t) s := by
  refine Spec.read (run_readActor s a) ?_
  split
  · exact spec_setSteeringQueue h hin (h.idle_queue List.length_erase_le)
  · exact Spec.pure h fun _ => .refl n a s

theorem spec_clearSteering (h : Inv s) (hin : (s.commands n).inside = some a) :
    (clearSteering a).Spec discipline n (fun _ t => Kept n a s t) s := by
  refine Spec.read (run_readActor s a) ?_
  split
  · exact Spec.pure h fun _ => .refl n a s
  · exact spec_setSteeringQueue h hin fun _ => rfl

theorem spec_publishEffectiveControlState (h : Inv s) (hin : (s.commands n).inside = some a) (data : PiRpcData) :
    (publishEffectiveControlState a data).Spec discipline n (fun _ t => Kept n a s t) s := by
  refine Spec.read (run_readActor s a) ?_
  split
  · rename_i session model hsession _
    split
    · exact Spec.pure h fun _ => .refl n a s
    · have hok := h.actors a
      have hmid : Inv (s.setActor a { s.actors a with
          session := (s.actors a).session.map fun session => { session with
            model := some model
            thinkingLevel := data.thinkingLevel } }) := by
        refine h.setQueue hin rfl rfl rfl rfl rfl (by simp) hok.empty fun hquiet later hlater => ?_
        obtain ⟨before, hbefore, rfl⟩ := Option.map_eq_some_iff.mp hlater
        exact (hok.calm hquiet).2 before hbefore
      refine spec_via hmid (fun m hm => Rely.setActor h hin hm rfl rfl)
        (Ends.seq (run_updateActor s a _ _) (ends_sendMessage _)) fun _ t hsends => ⟨hsends.1, fun _ => ?_⟩
      exact Kept.of_setActor h hsends.1 rfl rfl rfl
  · exact Spec.pure h fun _ => .refl n a s

theorem spec_nextPhase {α : Type} {next : SessionPhase} {rest : Unit → Block α} (h : Inv s)
    (hin : (s.commands n).inside = some a) (hactive : (s.actors a).isTurnActive = true)
    (hnext : next = .starting ∨ next = .running ∨ next = .settling) (hlegal : next ∈ LEGAL_TRANSITIONS (s.actors a).phase)
    (hrest : ∀ t, Inv t → (t.commands n).inside = some a → (t.Calm → (t.actors a).phase ≠ .ready) →
      (rest ()).Spec discipline n (fun _ u => Settled n a t u) t) :
    (transition a next >>= rest).Spec discipline n (fun _ u => Settled n a s u) s := by
  refine Spec.seq (run_transition (.inr hlegal)) (fun m hm => Rely.setActor h hin hm rfl rfl) ?_
  refine (hrest _ (h.inTurn hin hactive hnext) hin fun _ hphase => ?_).mono fun _ u _ _ _ hsettled =>
    ⟨hsettled.commands, fun hgone => hsettled.gone ?_, hsettled.notReady⟩
  · rw [setActor_actors_self] at hphase
    rw [show next = .ready from hphase] at hnext
    simp at hnext
  · exact h.gone_setActor (by rfl) (by rfl) hgone

/-- What an event of Pi does to the turn of an actor. -/
theorem spec_applyProcessEvent (h : Inv s) (hin : (s.commands n).inside = some a)
    (hready : s.Calm → (s.actors a).phase ≠ .ready) (proc generation : Nat) (event : PiEvent) :
    (applyProcessEvent a proc generation event).Spec discipline n (fun _ t => Settled n a s t) s := by
  have hsettling : (s.actors a).phase = .starting ∨ (s.actors a).phase = .running →
      (s.actors a).isTurnActive = true ∧ .settling ∈ LEGAL_TRANSITIONS (s.actors a).phase := by
    rintro (hphase | hphase) <;> simp [isTurnActive_iff, hphase, LEGAL_TRANSITIONS]
  have hclear : ∀ t, Inv t → (t.commands n).inside = some a → (t.Calm → (t.actors a).phase ≠ .ready) →
      (do
        clearSteering a
        pure { accepted := true, started := false, ended := true, settled := false } : Block AppliedProcessEvent).Spec
        discipline n (fun _ u => Settled n a t u) t := by
    intro t ht hinside hidle
    refine Spec.bind (spec_clearSteering ht hinside) (fun _ u hu _ hevolves hkept => ?_) fun _ u _ _ hevolves hkept => ?_
    · exact Spec.pure hu fun _ => hkept.settled fun hcalm => hidle (Calm.of_adds hevolves hcalm)
    · exact hkept.settled fun hcalm => hidle (Calm.of_adds hevolves hcalm)
  refine Spec.read (run_readActor s a) ?_
  split
  · exact Spec.pure h fun _ => .refl hready
  · cases event with
    | agent_start =>
      dsimp only
      split
      · rename_i hphase
        refine spec_nextPhase h hin (by simp [isTurnActive_iff, hphase]) (.inr (.inl rfl))
          (by simp [hphase, LEGAL_TRANSITIONS]) fun t ht _ hidle => ?_
        exact Spec.pure ht fun _ => Settled.refl hidle
      · exact Spec.pure h fun _ => Settled.refl hready
    | agent_end =>
      dsimp only
      split
      · rename_i hphase
        obtain ⟨hactive, hlegal⟩ := hsettling hphase
        exact spec_nextPhase h hin hactive (.inr (.inr rfl)) hlegal hclear
      · exact hclear s h hin hready
    | agent_settled =>
      dsimp only
      split
      · rename_i hphase
        obtain ⟨hactive, hlegal⟩ := hsettling hphase
        refine spec_nextPhase h hin hactive (.inr (.inr rfl)) hlegal fun t ht _ hidle => ?_
        exact Spec.pure ht fun _ => Settled.refl hidle
      · exact Spec.pure h fun _ => Settled.refl hready
    | user_message_end text =>
      refine Spec.bind (spec_dequeueSteering h hin text) (fun _ t ht _ hevolves hkept => ?_) fun _ t _ _ hevolves hkept => ?_
      · exact Spec.pure ht fun _ => hkept.settled fun hcalm => hready (Calm.of_adds hevolves hcalm)
      · exact hkept.settled fun hcalm => hready (Calm.of_adds hevolves hcalm)
    | other => exact Spec.pure h fun _ => .refl hready

/-- The state after a command has begun a turn of the actor that it runs for. -/
def System.turned (s : System) (n a proc : Nat) (observer : Option Nat) : System :=
  (s.setActor a { s.actors a with
    phase := .starting
    turnGeneration := (s.actors a).turnGeneration + 1
    turnEventCleanup := observer }).setCommand n { s.commands n with
      proc := some proc
      generation := some ((s.actors a).turnGeneration + 1) }

theorem Inv.turned (h : Inv s) (hin : (s.commands n).inside = some a) (hready : (s.actors a).phase = .ready)
    {lease : HeldLease} (hlease : (s.actors a).lease = some lease) (hown : (s.commands n).actor = some a)
    (observer : Option Nat) : Inv (s.turned n a lease.process observer) := by
  have hok := h.actors a
  -- First the locals of the command: its actor is ready, so that they decide nothing yet.
  have hlocals : Inv (s.setCommand n { s.commands n with
      proc := some lease.process
      generation := some ((s.actors a).turnGeneration + 1) }) := by
    refine h.setCommand rfl (h.inside n) (fun _ hinside hfork => .inr ⟨hinside, hfork⟩) (fun hcalm => (h.calm hcalm).slot n)
      fun _ _ actor taken _ ⟨hrunning, hactor, _⟩ => ?_
    cases hown.symm.trans hactor
    exact ⟨hrunning, hown, .inl ⟨hready, hin⟩⟩
  have hnext : ActorOk s.history.listenerThrew { s.actors a with
      phase := .starting
      turnGeneration := (s.actors a).turnGeneration + 1
      turnEventCleanup := observer } := by
    refine ⟨hok.session, ⟨fun hphase => (by cases hphase), fun hnone => ?_⟩, fun hphase => (by cases hphase), fun hidle => ?_,
      fun hquiet => ⟨fun hphase => (by cases hphase), (hok.calm hquiet).2⟩⟩
    · rw [hlease] at hnone
      cases hnone
    · obtain hidle | hidle := hidle <;> cases hidle
  have hinside : ((s.setCommand n { s.commands n with
      proc := some lease.process
      generation := some ((s.actors a).turnGeneration + 1) }).commands n).inside = some a := by
    rw [setCommand_commands_self]
    exact hin
  refine hlocals.setActor (hlocals.created hinside) rfl rfl (fun m hm => hlocals.inside m a hm) hnext
    fun _ self taken htaken ⟨hrunning, hactor, hturn⟩ => ?_
  cases hlease.symm.trans htaken
  obtain ⟨-, hother⟩ | ⟨hactive, -⟩ := hturn
  · cases hlocals.inside_unique hinside hother
    refine ⟨hrunning, hactor, .inr ⟨rfl, ?_⟩⟩
    rw [setCommand_commands_self]
    exact ⟨rfl, rfl⟩
  · rw [isTurnActive_iff, setCommand_actors, hready] at hactive
    simp at hactive

theorem Rely.turned (h : Inv s) (hin : (s.commands n).inside = some a) (proc : Nat) (observer : Option Nat)
    {m : Nat} (hm : m ≠ n) : Rely m s (s.turned n a proc observer) :=
  (Rely.setActor h hin hm (by rfl) (by rfl)).trans (Rely.setCommand _ hm _)

theorem run_beginTurn {lease : HeldLease} {session : LiveSession} (hready : (s.actors a).phase = .ready)
    (hlease : (s.actors a).lease = some lease) (hsession : (s.actors a).session = some session) :
    (beginTurn a).run s = (.ok ((s.actors a).turnGeneration + 1), s.setActor a { s.actors a with
      phase := .starting
      turnGeneration := (s.actors a).turnGeneration + 1 }) := by
  simp only [beginTurn, Atomic.run_bind, run_readActor, hready, hlease, hsession, ne_eq, not_true_eq_false, reduceCtorEq,
    or_self, if_false, run_updateActor]
  rw [run_transition (.inr (by simp [LEGAL_TRANSITIONS]))]
  simp

theorem ends_setTurnEventCleanup {generation : Nat} (hgeneration : generation = (s.actors a).turnGeneration)
    (hactive : (s.actors a).isTurnActive = true) (observer : Nat) : (setTurnEventCleanup a generation observer).Ends
      (fun result t => result = .ok () ∧ Frame (s.setActor a { s.actors a with turnEventCleanup := some observer }) t) s := by
  refine Ends.seq (run_readActor s a) ?_
  rw [if_neg (by simp [hgeneration, hactive])]
  cases (s.actors a).turnEventCleanup with
  | none => exact ⟨rfl, Frame.refl _⟩
  | some before =>
    refine Ends.seq (run_updateObserver s before _) ⟨rfl, ?_⟩
    exact Frame.observer _ before fun _ => rfl

theorem ends_startTurn {lease : HeldLease} {session : LiveSession} (ha : a < s.actorCount) (hready : (s.actors a).phase = .ready)
    (hlease : (s.actors a).lease = some lease) (hsession : (s.actors a).session = some session) :
    (startTurn n a lease.process).Ends (fun result t => (∃ observer, result = .ok observer) ∧
      ∃ observer, Frame (s.turned n a lease.process observer) t) s := by
  refine Ends.seq (run_updateCommand s n _) (Ends.seq (run_beginTurn hready hlease hsession) ?_)
  refine Ends.seq (run_updateCommand _ n _) (Ends.seq (run_readSystem _) ?_)
  rw [if_neg (by simp [System.setActor, System.setCommand, hsession, SessionActor.owns, SessionActor.process, hlease])]
  refine Ends.seq rfl (Ends.bind (ends_setTurnEventCleanup ?_ ?_ _) ?_ ?_)
  · simp [System.setActor, System.setCommand]
  · simp [System.setActor, System.setCommand, isTurnActive_iff]
  · rintro - v ⟨-, hframe⟩
    refine ⟨⟨_, rfl⟩, some s.observers.length, .trans ?_ hframe⟩
    refine ⟨rfl, by simp [System.turned, System.setActor, System.setCommand], rfl, rfl, rfl,
      by simp [System.turned, System.setActor, System.setCommand], rfl, rfl, rfl, id, id, id, fun hobserved => ?_⟩
    intro forwarding hforwarding
    obtain hold | hnew := List.mem_append.mp hforwarding
    · exact hobserved forwarding hold
    · obtain rfl := List.mem_singleton.mp hnew
      exact ha
  · rintro error v ⟨herror, -⟩
    cases herror

/-- What is known of a turn that a command has begun, while it runs in the queue of the actor. -/
theorem spec_startTurn (h : Inv s) (hin : (s.commands n).inside = some a) (hready : (s.actors a).phase = .ready)
    {proc : Nat} (hproc : (s.actors a).process = some proc) (hown : (s.commands n).actor = some a) :
    (startTurn n a proc).Spec discipline n (fun result t => (∃ observer, result = .ok observer) ∧
      t.commands n = { s.commands n with
        proc := some proc
        generation := some ((s.actors a).turnGeneration + 1) } ∧
      (t.actors a).phase = .starting ∧ (t.actors a).lease = (s.actors a).lease ∧
      (t.actors a).sessionPath = (s.actors a).sessionPath ∧
      t.pool = s.pool) s := by
  obtain ⟨lease, hlease, rfl⟩ := Option.map_eq_some_iff.mp hproc
  obtain ⟨session, hsession⟩ := h.session hlease
  refine (ends_startTurn (h.created hin) hready hlease hsession).spec fun result t _ _ ⟨hok, observer, hframe⟩ => ?_
  have hmid := h.turned hin hready hlease hown observer
  refine ⟨hmid.frame hframe, fun m hm => (Rely.turned h hin _ _ hm).trans (hframe.rely m), hok, ?_, ?_, ?_, ?_, hframe.pool⟩
  · rw [hframe.commands, System.turned, setCommand_commands_self]
  · rw [hframe.actors, System.turned, setCommand_actors, setActor_actors_self]
  · rw [hframe.actors, System.turned, setCommand_actors, setActor_actors_self]
  · rw [hframe.actors, System.turned, setCommand_actors, setActor_actors_self]

end pipane.ws_handler.runtime

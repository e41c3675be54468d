import Pipane.Server.WsHandler.Commands.Runs

open async javascript transition pipane.process_pool pipane.session_actor pipane.session_jsonl pipane.session_registry

namespace pipane.ws_handler.runtime

variable {s : System}

/-- A server that was just started has no actors and no leases. -/
theorem Inv.start (maxProcesses prewarmCount : Nat) (defaultCwd : JsString) (files : Files) :
    Inv (System.start maxProcesses prewarmCount defaultCwd files) := by
  have hfree : ∀ holder, (System.start maxProcesses prewarmCount defaultCwd files).heldBy holder = none := by
    intro holder
    cases holder <;> rfl
  have hnone : ∀ {holder : Holder} {lease : HeldLease},
      (System.start maxProcesses prewarmCount defaultCwd files).heldBy holder ≠ some lease := by
    intro holder lease hlease
    rw [hfree] at hlease
    cases hlease
  refine ⟨⟨ProcessPool.valid_start maxProcesses prewarmCount, ?_, ?_, ?_, ?_, ?_, List.nodup_nil, ?_⟩, ?_, ⟨?_, ?_, ?_, ?_⟩,
    ?_, ⟨fun q hq => (by cases hq), ?_, ?_, ?_⟩, fun _ => ⟨?_, ?_⟩, rfl⟩
  · exact fun holder lease hlease => absurd hlease hnone
  · exact fun holder other lease taken hlease => absurd hlease hnone
  · exact fun id object hobject => by cases hobject
  · exact fun self lease object hlease => by cases hlease
  · exact fun holder lease hlease => absurd hlease hnone
  · exact fun id hid => by cases hid
  · exact fun actor => ⟨rfl, ⟨fun _ => rfl, fun _ => rfl⟩, fun hphase => (by cases hphase), fun _ => rfl,
      fun _ => ⟨fun hphase => (by cases hphase), fun session hsession => (by cases hsession)⟩⟩
  · refine fun proc actor => ⟨fun hproc => ?_, fun hproc => by cases hproc⟩
    cases hproc
  · exact fun sessionPath actor hactor => by cases hactor
  · exact fun actor _ => rfl
  · exact fun observer hobserver => by cases hobserver
  · exact fun self actor hinside => by cases hinside
  · exact fun proc _ r q hq => by cases hq
  · exact fun actor proc hproc => by cases hproc
  · exact fun rpc hrpc => by cases hrpc
  · exact fun self hlease => absurd rfl hlease
  · exact fun actor lease object hlease => by cases hlease

theorem Idle.start (maxProcesses prewarmCount : Nat) (defaultCwd : JsString) (files : Files) (n : Nat) :
    Idle n (System.start maxProcesses prewarmCount defaultCwd files) :=
  ⟨rfl, fun actor lease object hlease => by cases hlease⟩

theorem Inv.accounted (h : Inv s) (hcalm : s.Calm) {actor : Nat} {lease : HeldLease}
    (hlease : (s.actors actor).lease = some lease) :
    ∃ self, AttachedOk (s.commands self) actor (s.actors actor) lease := by
  obtain ⟨object, hobject, -⟩ := h.leases.object (.actor actor) lease hlease
  exact ⟨object.acquiredBy, (h.calm hcalm).attached actor lease object hlease hobject⟩

/-- A server after what clients, Pi, the host and the system have done in some order. -/
def serve (maxProcesses prewarmCount : Nat) (defaultCwd : JsString) (files : Files) (events : List (Event Input Change)) :
    System :=
  (run (Scheduler.step program) (Scheduler.start (System.start maxProcesses prewarmCount defaultCwd files)) events).state

/-- A state that some server reaches, where no listener has thrown while a handler that keeps its lease attached an
    actor. -/
def Reached (s : System) : Prop :=
  ∃ maxProcesses prewarmCount defaultCwd files events, s = serve maxProcesses prewarmCount defaultCwd files events ∧
    s.history.attachThrew = false

def sampleFiles : Files where
  existsSync := fun _ => true
  isConfined := fun _ => true
  getSessionCwd := fun _ => none
  readSessionFromDisk := fun _ => (none, [])

def sampleModel : ModelRef :=
  ⟨js "provider", js "model"⟩

/-- Pi answers a request. -/
def sampleAnswer (opened : Option JsString) (request : Nat) : Event Input Change :=
  .environment (.rpcResponse request (.success {
    cancelled := false
    sessionFile := some (js "s.jsonl")
    model := some sampleModel
    thinkingLevel := []
    isStreaming := true }) opened true)

/-- A prompt, up to the request that passes it to Pi. -/
def sampleAsked : List (Event Input Change) :=
  [.start (.prompt {
      sessionPath := some (js "s.jsonl")
      cwd := none
      control := { message := js "Hello", model := some sampleModel, thinkingLevel := none, images := false } } 1),
    .resume 0, sampleAnswer (some (js "s.jsonl")) 0, .resume 0, sampleAnswer none 1, .resume 0, sampleAnswer none 2, .resume 0]

/-- The prompt, with its turn in progress. -/
def samplePrompt : List (Event Input Change) :=
  sampleAsked ++ [sampleAnswer none 3, .resume 0, sampleAnswer none 4, .resume 0, sampleAnswer none 5, .resume 0, .resume 0,
    .start (.process_event 0 .agent_start), .resume 1, .resume 1]

/-- The end of the turn. -/
def sampleSettled : List (Event Input Change) :=
  [.start (.process_event 0 .agent_settled), .resume 2, .resume 2, .resume 0, .resume 0, sampleAnswer none 6, .resume 0, .resume 0]

/-- Pi does not answer the prompt in time, and its process is signalled. -/
def sampleTimeout : List (Event Input Change) :=
  [.environment (.rpcTimeout 3), .resume 0, .resume 0, .resume 0, .resume 0]

def sampleRun (events : List (Event Input Change)) : System :=
  serve 1 0 [] sampleFiles events

theorem reached_sampleRun (events : List (Event Input Change)) (h : (sampleRun events).history.attachThrew = false) :
    Reached (sampleRun events) :=
  ⟨1, 0, [], sampleFiles, events, rfl, h⟩

theorem Reached.inv (h : Reached s) : Inv s := by
  obtain ⟨maxProcesses, prewarmCount, defaultCwd, files, events, rfl, hattach⟩ := h
  exact inv_of_keeps program_keeps (Inv.start maxProcesses prewarmCount defaultCwd files)
    (Idle.start maxProcesses prewarmCount defaultCwd files) hattach

/-- In every run the process index of the registry is the inverse of what the actors own, and an actor has a lease
    and a session exactly while it is not detached. -/
theorem process_index_inverse (h : Reached s) :
    (∀ proc actor, s.registry.getActorForProcess proc = some actor ↔ (s.actors actor).process = some proc) ∧
      ∀ actor, ((s.actors actor).phase = .detached ↔ (s.actors actor).lease = none) ∧
        (s.actors actor).session.isSome = (s.actors actor).lease.isSome ∧ (s.actors actor).phase ≠ .attaching :=
  ⟨h.inv.registry.index, fun actor =>
    ⟨(h.inv.actors actor).phase, (h.inv.actors actor).session, (h.inv.actors actor).attaching⟩⟩

theorem process_index_inverse_prompt :
    (sampleRun samplePrompt).registry.getActorForProcess 0 = some 0 :=
  ((process_index_inverse (reached_sampleRun samplePrompt rfl)).1 0 0).mpr rfl

/-- No handler ever asks for a transition that the table does not allow. While no listener throws, no actor is left
    halfway through its release, and an attached session shows the steering queue of its actor. -/
theorem transitions_legal (h : Reached s) : s.history.illegalTransition = false ∧
      (∀ actor, (s.actors actor).phase = .detached ∨ (s.actors actor).phase = .ready → (s.actors actor).steeringQueue = []) ∧
      (s.history.listenerThrew = false → ∀ actor, (s.actors actor).phase ≠ .releasing ∧
        ∀ session, (s.actors actor).session = some session → session.steeringQueue = (s.actors actor).steeringQueue) :=
  ⟨h.inv.legal, fun actor => (h.inv.actors actor).empty, fun hquiet actor => (h.inv.actors actor).calm hquiet⟩

theorem transitions_legal_prompt : (sampleRun (samplePrompt ++ sampleSettled)).history.illegalTransition = false :=
  (transitions_legal (reached_sampleRun (samplePrompt ++ sampleSettled) rfl)).1

/-- Every lease that the pool has made was released exactly once, or it was not released and exactly one holder, a
    command or an actor, has it; nobody else holds a lease of that process. -/
theorem leases_accounted (h : Reached s) :
    ∀ (id : Nat) (object : RpcProcessLease), s.pool.leaseObjects[id]? = some object →
      (s.history.releases.count id = 1 ∧ object.released = true ∧
          ∀ holder lease, s.heldBy holder = some lease → lease.id ≠ id) ∨
        (s.history.releases.count id = 0 ∧ ∃ holder, s.heldBy holder = some ⟨id, object.process⟩ ∧
          ∀ other lease, s.heldBy other = some lease → lease.process = object.process → other = holder) := by
  intro id object hobject
  have hleases := h.inv.leases
  obtain ⟨hid, hreleased⟩ | ⟨holder, hholder⟩ := hleases.kept id object hobject
  · refine .inl ⟨List.count_eq_one_of_mem hleases.once hid, hreleased, ?_⟩
    rintro holder lease hlease rfl
    exact hleases.unreleased holder lease hlease hid
  · refine .inr ⟨List.count_eq_zero.mpr (hleases.unreleased holder ⟨id, object.process⟩ hholder), holder, hholder, ?_⟩
    exact fun other lease hlease hproc => hleases.exclusive other holder lease ⟨id, object.process⟩ hlease hholder hproc

theorem leases_accounted_prompt : (sampleRun samplePrompt).history.releases.count 0 = 0 ∧
    (sampleRun samplePrompt).heldBy (.actor 0) = some ⟨0, 0⟩ := by
  obtain ⟨hcount, -⟩ | ⟨hcount, -⟩ := leases_accounted (reached_sampleRun samplePrompt rfl) 0
    { process := 0, acquiredBy := 0, released := false } rfl
  · cases hcount
  · exact ⟨hcount, rfl⟩

/-- At most one command is at work in the queue of an actor: the one at its head. -/
theorem queues_serialized (h : Reached s) :
    ∀ self actor, (s.commands self).inside = some actor →
      (s.actors actor).commandTail.head? = some self ∧ ∀ other, (s.commands other).inside = some actor → other = self := by
  intro self actor hinside
  exact ⟨h.inv.inside self actor hinside, fun other hother => h.inv.inside_unique hother hinside⟩

theorem queues_serialized_prompt : ((sampleRun sampleAsked).actors 0).commandTail.head? = some 0 :=
  (queues_serialized (reached_sampleRun sampleAsked rfl) 0 0 rfl).1

/-- While nothing throws, and no prompt for a new session meets a turn, an attached actor is in the hands of a running
    command that has looked it up: it is at work in the actor's queue, or it waits for the end of the turn that it
    has begun there. -/
theorem attached_accounted (h : Reached s) (hcalm : s.Calm) :
    ∀ actor lease, (s.actors actor).lease = some lease → ∃ self, (s.commands self).finished = false ∧
      (s.commands self).actor = some actor ∧
      (((s.actors actor).phase = .ready ∧ (s.commands self).inside = some actor) ∨
        ((s.actors actor).isTurnActive = true ∧ (s.commands self).generation = some (s.actors actor).turnGeneration ∧
          (s.commands self).proc = some lease.process)) := by
  intro actor lease hlease
  obtain ⟨self, hrunning, hown, hturn⟩ := h.inv.accounted hcalm hlease
  exact ⟨self, hrunning, hown, hturn⟩

theorem attached_accounted_prompt : ∃ self, ((sampleRun samplePrompt).commands self).finished = false :=
  have ⟨self, hrunning, _⟩ := attached_accounted (reached_sampleRun samplePrompt rfl) ⟨rfl, rfl, rfl⟩ 0 ⟨0, 0⟩ rfl
  ⟨self, hrunning⟩

/-- Where nothing has thrown, and no prompt for a new session has met a turn, every lease was given back once every
    command has finished: no process is leased, no actor is attached and the process index is empty. -/
theorem leases_given_back (h : Reached s) (hcalm : s.Calm)
    (hfinished : ∀ self, (s.commands self).finished = true) :
    (∀ proc, s.pool.leases.get? proc = none) ∧ (∀ id < s.pool.leaseObjects.length, s.history.releases.count id = 1) ∧
      (∀ actor, (s.actors actor).phase = .detached) ∧ ∀ proc, s.registry.getActorForProcess proc = none := by
  have hinv := h.inv
  have hbusy : ∀ self, (s.commands self).finished ≠ false := fun self hrunning => by
    rw [hfinished self] at hrunning
    cases hrunning
  have hfree : ∀ actor, (s.actors actor).lease = none := by
    intro actor
    by_contra hattached
    obtain ⟨lease, hlease⟩ := Option.ne_none_iff_exists'.mp hattached
    obtain ⟨self, haccounted⟩ := hinv.accounted hcalm hlease
    exact hbusy self haccounted.running
  have hnone : ∀ holder lease, s.heldBy holder ≠ some lease := by
    intro holder lease hlease
    cases holder with
    | command self => exact hbusy self ((hinv.calm hcalm).slot self fun hempty => by
        rw [System.heldBy, hempty] at hlease
        cases hlease)
    | actor actor =>
      rw [System.heldBy, hfree] at hlease
      cases hlease
  have hreleased : ∀ (id : Nat) (object : RpcProcessLease), s.pool.leaseObjects[id]? = some object →
      id ∈ s.history.releases ∧ object.released = true := by
    intro id object hobject
    refine (hinv.leases.kept id object hobject).resolve_right ?_
    rintro ⟨holder, hholder⟩
    exact hnone holder _ hholder
  refine ⟨fun proc => ?_, fun id hid => ?_, fun actor => (hinv.actors actor).phase.mpr (hfree actor), fun proc => ?_⟩
  · by_contra hleased
    obtain ⟨id, hid⟩ := Option.ne_none_iff_exists'.mp hleased
    obtain ⟨object, hobject, -, hkept⟩ := hinv.leases.valid.leased proc id hid
    rw [(hreleased id object hobject).2] at hkept
    cases hkept
  · exact List.count_eq_one_of_mem hinv.leases.once (hreleased id _ (List.getElem?_eq_getElem hid)).1
  · by_contra hindexed
    obtain ⟨actor, hactor⟩ := Option.ne_none_iff_exists'.mp hindexed
    have hproc := (hinv.registry.index proc actor).mp hactor
    rw [SessionActor.process, hfree] at hproc
    cases hproc

theorem leases_given_back_prompt :
    (sampleRun (samplePrompt ++ sampleSettled)).history.releases.count 0 = 1 :=
  (leases_given_back (reached_sampleRun (samplePrompt ++ sampleSettled) rfl) ⟨rfl, rfl, rfl⟩ fun self => by
    match self with
    | 0 | 1 | 2 => rfl
    | _ + 3 => rfl).2.1 0 (by decide)

section

variable (maxProcesses prewarmCount : Nat) (defaultCwd : JsString) (files : Files) (events : List (Event Input Change))

theorem adds_serve (later : List (Event Input Change)) :
    Adds (serve maxProcesses prewarmCount defaultCwd files events)
      (serve maxProcesses prewarmCount defaultCwd files (events ++ later)) := by
  rw [serve, serve, run_append]
  exact Scheduler.evolves_run (run (Scheduler.step program)
    (Scheduler.start (System.start maxProcesses prewarmCount defaultCwd files)) events) later

/-- Once a new turn of an actor has begun, an event of an earlier one changes nothing, however late it arrives. -/
theorem stale_event_ignored (later : List (Event Input Change)) (actor generation : Nat)
    (hactor : actor < (serve maxProcesses prewarmCount defaultCwd files events).actorCount)
    (hstale : generation < ((serve maxProcesses prewarmCount defaultCwd files events).actors actor).turnGeneration)
    (proc : Nat) (event : PiEvent) :
    (applyProcessEvent actor proc generation event).run
        (serve maxProcesses prewarmCount defaultCwd files (events ++ later)) =
      (.ok { accepted := false, started := false, ended := false, settled := false },
        serve maxProcesses prewarmCount defaultCwd files (events ++ later)) := by
  have hgrows := (adds_serve maxProcesses prewarmCount defaultCwd files events later).generation actor hactor
  have hother : ((serve maxProcesses prewarmCount defaultCwd files (events ++ later)).actors actor).owns proc generation =
      false := by
    simp only [SessionActor.owns, Bool.decide_and, Bool.and_eq_false_iff, decide_eq_false_iff_not]
    omega
  simp only [applyProcessEvent, Atomic.run_bind, run_readActor, hother, Bool.false_eq_true, not_false_eq_true, true_or,
    if_true, Atomic.run_pure]

theorem stale_event_ignored_prompt : ((applyProcessEvent 0 0 0 .agent_settled).run
    (sampleRun (samplePrompt ++ sampleSettled))).2 = sampleRun (samplePrompt ++ sampleSettled) := by
  have hrun := stale_event_ignored 1 0 [] sampleFiles samplePrompt sampleSettled 0 0
    (by decide) (by decide) 0 .agent_settled
  rw [sampleRun, hrun]

/-- A process that an error path has signalled, where the pool had withdrawn it and no other command had it, is never
    leased to another command again. -/
theorem signalled_never_leased (kill : Kill)
    (hkill : kill ∈ (serve maxProcesses prewarmCount defaultCwd files events).history.kills)
    (hwithdrawn : kill.withdrawn = true) (hcontested : kill.contested = false) :
    (serve maxProcesses prewarmCount defaultCwd files events).pool.Withdrawn kill.process ∧
      ∀ (lease : Nat) (object : RpcProcessLease),
        (serve maxProcesses prewarmCount defaultCwd files events).pool.leaseObjects[lease]? = some object →
        object.process = kill.process → object.released = false → object.acquiredBy = kill.command := by
  have hadds := adds_serve maxProcesses prewarmCount defaultCwd files [] events
  obtain hstart | hsafe := hadds.kills (ProcessPool.valid_start maxProcesses prewarmCount) kill hkill
  · cases hstart
  · exact hsafe ⟨hwithdrawn, hcontested⟩

theorem signalled_never_leased_timeout : (sampleRun (sampleAsked ++ sampleTimeout)).pool.Withdrawn 0 := by
  have hkills : (sampleRun (sampleAsked ++ sampleTimeout)).history.kills =
      [{ process := 0, command := 0, withdrawn := true, contested := false }] := rfl
  refine (signalled_never_leased 1 0 [] sampleFiles (sampleAsked ++ sampleTimeout)
    { process := 0, command := 0, withdrawn := true, contested := false } ?_ rfl rfl).1
  rw [← sampleRun, hkills]
  exact List.mem_singleton_self _

end

end pipane.ws_handler.runtime

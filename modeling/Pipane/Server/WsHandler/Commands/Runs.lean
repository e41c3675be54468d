import Pipane.Server.WsHandler.Commands.Settlement

open async javascript transition pipane.process_pool pipane.session_actor pipane.session_jsonl pipane.session_registry
open async.Atomic (Spec)
open async.Coroutine (Safe)

namespace pipane.ws_handler.runtime

variable {n a : Nat} {s t u : System}

/-- A handler from its start to its end. -/
theorem safe_runCommand {handler : Routine Unit} (h : Inv s) (hidle : Idle n s)
    (hhandler : ∀ t, Inv t → Begun n t → handler.Safe discipline n (fun _ u => Done n u) t) :
    (runCommand n handler).Safe discipline n (fun _ _ => True) s := by
  obtain ⟨hnone, hgone⟩ := hidle
  have hbegun : Inv (s.setCommand n { Command.none with finished := false }) := by
    refine h.setCommand (by rw [hnone]) (fun b hb => by cases hb) (fun b hb => ?_) (fun _ hlease => absurd rfl hlease)
      fun _ hlast => absurd hgone hlast
    rw [hnone] at hb
    cases hb
  refine Safe.seq (run_updateCommand s n _) hbegun (fun m hm => Rely.setCommand s hm _) ?_
  have hstart : Begun n (s.setCommand n { Command.none with finished := false }) := by
    refine ⟨?_, ?_, ?_, ?_⟩ <;> rw [setCommand_commands_self]
    · exact ⟨rfl, rfl, rfl⟩
    · rfl
    · rfl
    · rfl
  refine Safe.bind (R := fun _ t => Done n t) (Safe.attempt (hhandler _ hbegun hstart) fun _ => hbegun)
    (fun _ => hbegun) (fun result t ht _ _ hdone => ?_) fun _ _ _ _ _ _ => trivial
  have hended : Inv (t.setCommand n { t.commands n with finished := true }) := by
    refine ht.setCommand rfl (ht.inside n) (fun _ hinside hfork => .inr ⟨hinside, hfork⟩) (fun hcalm hkept => ?_)
      fun hcalm hlast => absurd (hdone.clear hcalm).2 hlast
    exact absurd (hdone.clear hcalm).1 hkept
  refine Safe.seq (run_updateCommand t n _) hended (fun m hm => Rely.setCommand t hm _) (Safe.lift ?_)
  cases result with
  | ok value => exact Spec.pure hended fun _ => trivial
  | error error => exact Spec.throw hended fun _ => trivial

/-- Something that Pi or the system reports is handled in the queue of an actor. -/
theorem safe_report {α : Type} {operation : JsString} {body : Block α} (h : Inv s) (hidle : Idle n s)
    (ha : a < s.actorCount) (hbody : ∀ t, Inv t → (t.commands n).inside = some a →
      (t.commands n).forking = false → (t.Calm → (t.actors a).phase ≠ .ready) →
      body.Spec discipline n (fun _ u => Settled n a t u) t) :
    (enqueue n a operation (Coroutine.lift body)).Safe discipline n (fun _ _ => True) s := by
  obtain ⟨hnone, -⟩ := hidle
  refine safe_enqueue (R := fun _ t => (t.commands n).inside = some a ∧ (t.commands n).forking = false ∧
    (t.Calm → (t.actors a).phase ≠ .ready)) h ha (by rw [hnone]; rfl) (fun t _ ht hentered => ?_) ?_
    fun _ _ _ _ _ _ _ _ _ => trivial
  · have hcommand := hentered.command
    rw [hnone] at hcommand
    have hinside : (t.commands n).inside = some a := by rw [hcommand]
    have hforking : (t.commands n).forking = false := by
      rw [hcommand]
      rfl
    refine Safe.lift ((hbody t ht hinside hforking hentered.notReady).mono fun _ u _ _ _ hsettled => ?_)
    rw [hsettled.commands]
    exact ⟨hinside, hforking, hsettled.notReady⟩
  · rintro - t - - ⟨hinside, hforking, hnotReady⟩
    refine ⟨hinside, fun hfork => ?_, hnotReady⟩
    rw [hforking] at hfork
    cases hfork

theorem safe_onProcessExit (h : Inv s) (hidle : Idle n s) (proc : Nat) (exitCode : Option Int) (exits : Bool) :
    (onProcessExit n proc exitCode exits).Safe discipline n (fun _ _ => True) s := by
  refine Safe.read (run_readSystem s) h ?_
  split
  · exact Safe.pure fun _ => trivial
  · refine Safe.liftBind (spec_finalizeProcess h proc exitCode exits) h (fun _ t ht _ _ hrely => ?_)
      fun _ _ _ _ _ _ => trivial
    have hlater : Idle n t := discipline.idle_of_rely hrely hidle
    refine Safe.read (run_readSystem t) ht ?_
    cases hindex : t.registry.getActorForProcess proc with
    | none => exact Safe.pure fun _ => trivial
    | some actor =>
      refine safe_report ht hlater (ht.created_of_process ((ht.registry.index proc actor).mp hindex)) ?_
      exact fun u hu hinside hforking hready => spec_exitTurn hu hinside hforking hready proc

theorem spec_onApplied (h : Inv s) (observer : Nat) (result : AppliedProcessEvent) :
    (onApplied observer result).Spec discipline n (fun _ _ => True) s := by
  have hlast : ∀ t, Inv t →
      (if result.settled then signal (.settled observer) else pure () : Block Unit).Spec discipline n
        (fun _ _ => True) t := by
    intro t ht
    split
    · exact (spec_signal ht _).mono fun _ _ _ _ _ _ => trivial
    · exact Spec.pure ht fun _ => trivial
  rw [onApplied]
  split
  · have hframe : Frame s { s with
        observers := s.observers.modify observer fun observer => { observer with started := true } } :=
      Frame.observer s observer fun _ => rfl
    exact Spec.seq (run_updateObserver s observer _) (fun m _ => hframe.rely m) (hlast _ (h.frame hframe))
  · exact hlast s h

theorem safe_onProcessEvent (h : Inv s) (hidle : Idle n s) (observer : Nat) (event : PiEvent) :
    (onProcessEvent n observer event).Safe discipline n (fun _ _ => True) s := by
  refine Safe.read (run_readSystem s) h ?_
  cases hobserver : s.observers[observer]? with
  | none => exact Safe.pure fun _ => trivial
  | some forwarding =>
    dsimp only
    split
    · refine safe_finish h (safe_report h hidle (h.registry.observed forwarding (List.mem_of_getElem? hobserver)) ?_) ?_
      · exact fun t ht hinside _ hready => spec_applyProcessEvent ht hinside hready _ _ event
      · exact fun result t ht _ => Safe.lift (spec_onApplied ht observer result)
    · exact Safe.pure fun _ => trivial

/-- Every handler keeps the promises. -/
theorem safe_handle (h : Inv s) (hidle : Idle n s) (input : Input) :
    (handle input n).Safe discipline n (fun _ _ => True) s := by
  cases input with
  | prompt command rounds => exact safe_runCommand h hidle fun t ht hbegun => safe_handlePrompt ht hbegun command rounds
  | steer sessionPath message => exact safe_runCommand h hidle fun t ht hbegun => safe_handleSteer ht hbegun sessionPath message
  | remove_steering sessionPath index =>
    exact safe_runCommand h hidle fun t ht hbegun => safe_handleRemoveSteering ht hbegun sessionPath index
  | abort sessionPath => exact safe_runCommand h hidle fun t ht hbegun => safe_handleAbort ht hbegun sessionPath
  | hard_kill sessionPath => exact safe_runCommand h hidle fun t ht hbegun => safe_handleHardKill ht hbegun sessionPath
  | compact sessionPath rounds => exact safe_runCommand h hidle fun t ht hbegun => safe_handleCompact ht hbegun sessionPath rounds
  | get_available_models rounds => exact safe_runCommand h hidle fun t _ hbegun => safe_handleGetAvailableModels hbegun rounds
  | get_default_model rounds => exact safe_runCommand h hidle fun t ht hbegun => safe_handleGetDefaultModel ht hbegun rounds
  | get_commands cwd sessionPath rounds =>
    exact safe_runCommand h hidle fun t ht hbegun => safe_handleGetCommands ht hbegun cwd sessionPath rounds
  | reload_processes => exact safe_runCommand h hidle fun t ht hbegun => safe_handleReloadProcesses ht hbegun
  | get_session_stats sessionPath rounds =>
    exact safe_runCommand h hidle fun t ht hbegun => safe_handleGetSessionStats ht hbegun sessionPath rounds
  | fork sessionPath entryId rounds =>
    exact safe_runCommand h hidle fun t ht hbegun => safe_handleFork ht hbegun sessionPath entryId rounds
  | fork_current sessionPath newSessionPath =>
    exact safe_runCommand h hidle fun t ht hbegun => safe_handleForkCurrent ht hbegun sessionPath newSessionPath
  | fork_prompt command rounds => exact safe_runCommand h hidle fun t ht hbegun => safe_handleForkPrompt ht hbegun command rounds
  | set_session_name sessionPath name rounds =>
    exact safe_runCommand h hidle fun t ht hbegun => safe_handleSetSessionName ht hbegun sessionPath name rounds
  | session_mutation sessionPath operation =>
    exact safe_runCommand h hidle fun t ht hbegun => safe_runSessionMutation ht hbegun sessionPath operation
  | process_event observer event => exact safe_onProcessEvent h hidle observer event
  | process_exit proc exitCode exits => exact safe_onProcessExit h hidle proc exitCode exits

/-- What Pi, the timers, the host and the clients do keeps the promises too. -/
theorem Inv.applyChange (h : Inv s) (change : Change) :
    Inv (applyChange s change) ∧ ∀ m, Rely m s (applyChange s change) := by
  have hvalid := h.leases.valid
  have hok := h.rpcs.requests
  have hpool : ∀ {pool : ProcessPool}, s.pool.Neutral pool →
      Inv { s with pool } ∧ ∀ m, Rely m s { s with pool } :=
    fun hneutral => ⟨h.neutral hneutral, Rely.neutral h hneutral⟩
  have hframe : ∀ {t : System}, Frame s t → Inv t ∧ ∀ m, Rely m s t :=
    fun hframe => ⟨h.frame hframe, hframe.rely⟩
  cases change with
  | rpcResponse request response opened sameCommand => exact hpool (.onRpcResponse hvalid hok request response opened sameCommand)
  | rpcTimeout request => exact hpool (.onRpcTimeout hvalid hok request)
  | prewarm cwd => exact hpool (.continuePrewarm hvalid hok s.files.existsSync cwd _ 0)
  | resumePrewarm index => exact hpool (.resumePrewarm hvalid hok s.files.existsSync index)
  | decommissionAll => exact hpool (.decommissionAll hvalid hok)
  | files files => exact hframe ⟨rfl, rfl, rfl, rfl, rfl, rfl, rfl, rfl, rfl, id, id, id, id⟩
  | clock now => exact hframe ⟨rfl, rfl, rfl, rfl, rfl, rfl, rfl, rfl, rfl, id, id, id, id⟩
  | piAvailable available => exact hframe ⟨rfl, rfl, rfl, rfl, rfl, rfl, rfl, rfl, rfl, id, id, id, id⟩
  | sendFails fails => exact hframe ⟨rfl, rfl, rfl, rfl, rfl, rfl, rfl, rfl, rfl, id, id, id, id⟩
  | hostFails fails => exact hframe ⟨rfl, rfl, rfl, rfl, rfl, rfl, rfl, rfl, rfl, id, id, id, id⟩

theorem program_keeps : Keeps program discipline where
  ready := rfl
  body input _ _ h _ hidle := safe_handle h hidle input
  environment _ change h _ := h.applyChange change

end pipane.ws_handler.runtime

import Pipane.Server.WsHandler.Commands.Handlers

open async javascript pipane.process_pool pipane.session_actor pipane.session_jsonl pipane.session_registry
open async.Atomic (Spec)
open async.Coroutine (Safe)

namespace pipane.ws_handler.runtime

variable {n a : Nat} {s t u : System}

theorem safe_existing {rest : Routine Unit} {actor : Nat} {sessionPath operation : JsString} {body : Routine Unit}
    (h : Inv s) (hbegun : Begun n s) (hfind : s.registry.find sessionPath = some actor)
    (hbody : ∀ t, Inv t → Visiting n actor t →
      body.Safe discipline n (fun _ u => (u.commands n).Plain ∧ Leaving n actor u) t)
    (hrest : ∀ t, Inv t → Done n t → rest.Safe discipline n (fun _ u => Done n u) t) :
    (do
      enqueue n actor operation body
      rest : Routine Unit).Safe discipline n (fun _ t => Done n t) s :=
  safe_finish h (safe_enqueue_plain h (h.registry.paths sessionPath actor hfind).1 hbegun.inside
    fun t ht hentered => hbody t ht (hbegun.visiting hentered)) fun _ t ht hdone => hrest t ht hdone

theorem safe_present {task : Routine Unit} {sessionPath : JsString} (h : Inv s) (hbegun : Begun n s)
    (htask : task.Safe discipline n (fun _ t => Done n t) s) :
    (if sessionPath = [] then throw missingPath else task : Routine Unit).Safe discipline n (fun _ t => Done n t) s := by
  split
  · exact Safe.throw fun _ => hbegun.done h
  · exact htask

theorem safe_handleSteer (h : Inv s) (hbegun : Begun n s) (sessionPath message : JsString) :
    (handleSteer n sessionPath message).Safe discipline n (fun _ t => Done n t) s := by
  refine safe_present h hbegun (Safe.read (run_readSystem s) h ?_)
  cases hfind : s.registry.find sessionPath with
  | none => exact Safe.throw fun _ => hbegun.done h
  | some actor =>
    refine safe_enqueue_plain h (h.registry.paths sessionPath actor hfind).1 hbegun.inside fun t ht hentered => ?_
    have hvisiting := hbegun.visiting hentered
    refine safe_after ht (safe_sendSteering ht hvisiting.inside hvisiting.forking hvisiting.notReady message) ?_
    exact fun _ u hsteered => (hvisiting.later hsteered.command hsteered.notReady).leaving

theorem safe_handleRemoveSteering (h : Inv s) (hbegun : Begun n s) (sessionPath : JsString) (index : Int) :
    (handleRemoveSteering n sessionPath index).Safe discipline n (fun _ t => Done n t) s := by
  refine safe_present h hbegun (Safe.read (run_readSystem s) h ?_)
  cases hfind : s.registry.find sessionPath with
  | none => exact safe_sendMessage h (hbegun.done h)
  | some actor =>
    refine safe_existing h hbegun hfind (fun t ht hvisiting => ?_) fun _ hu hdone => safe_sendMessage hu hdone
    exact Safe.lift ((spec_removeSteeringByIndex ht hvisiting.inside index).mono
      fun _ u _ _ hadds hkept => (hvisiting.of_kept hadds hkept).leaving)

theorem safe_abortTurn (h : Inv s) (hvisiting : Visiting n a s) :
    (abortTurn a).Safe discipline n (fun _ u => (u.commands n).Plain ∧ Leaving n a u) s := by
  refine Safe.read (run_readActor s a) h ?_
  cases hproc : (s.actors a).process with
  | none => exact Safe.pure fun _ => hvisiting.leaving
  | some proc =>
    dsimp only
    split
    · refine safe_finish h ((safe_sendRpc_inside h hvisiting.inside hvisiting.forking hproc rfl).mono (fun _ => h)
        fun _ t _ _ hadds hrely => (hvisiting.of_rely hadds hrely).leaving) fun _ _ _ hleaving => ?_
      exact Safe.pure fun _ => hleaving
    · exact Safe.pure fun _ => hvisiting.leaving

theorem safe_handleAbort (h : Inv s) (hbegun : Begun n s) (sessionPath : JsString) :
    (handleAbort n sessionPath).Safe discipline n (fun _ t => Done n t) s := by
  refine Safe.read (run_readSystem s) h ?_
  cases hpresent : if sessionPath = [] then none else s.registry.find sessionPath with
  | none => exact safe_sendMessage h (hbegun.done h)
  | some actor =>
    have hfind : s.registry.find sessionPath = some actor := by
      split at hpresent
      · cases hpresent
      · exact hpresent
    exact safe_existing h hbegun hfind (fun t ht hvisiting => safe_abortTurn ht hvisiting)
      fun _ hu hdone => safe_sendMessage hu hdone

theorem safe_handleHardKill (h : Inv s) (hbegun : Begun n s) (sessionPath : JsString) :
    (handleHardKill n sessionPath).Safe discipline n (fun _ t => Done n t) s := by
  refine safe_present h hbegun (Safe.read (run_readSystem s) h ?_)
  cases hfind : s.registry.find sessionPath with
  | none => exact safe_sendMessage h (hbegun.done h)
  | some actor =>
    refine safe_existing h hbegun hfind (fun t ht hvisiting => ?_) fun _ hu hdone => safe_sendMessage hu hdone
    exact Safe.lift ((spec_hardKill ht hvisiting.inside hvisiting.forking hvisiting.notReady).mono
      fun _ u _ _ _ hsettled => (hvisiting.later (congrFun hsettled.commands n) hsettled.notReady).leaving)

theorem spec_resolveExisting (h : Inv s) (hbegun : Begun n s) (sessionPath : JsString) :
    (resolveExisting n sessionPath).Spec discipline n (fun _ t => Begun n t) s := by
  refine Spec.read (run_readSystem s) ?_
  cases s.files.resolveExisting sessionPath with
  | error error => exact fun _ => ⟨h, fun m _ => .refl m s, hbegun⟩
  | ok resolved =>
    have hmid : Inv (s.setCommand n { s.commands n with sessionPath := resolved }) :=
      h.setLocals rfl rfl id rfl rfl (.inl rfl) (.inl rfl)
    refine Spec.read (run_ofExcept_ok resolved s) ?_
    refine Spec.seq (run_updateCommand s n _) (fun m hm => Rely.setCommand s hm _) ?_
    exact Spec.pure hmid fun _ => hbegun.later (setCommand_commands_self s n _)

theorem LookedUp.plain {sessionPath : JsString} (h : LookedUp n sessionPath a s t) (hbegun : Begun n s) :
    (t.commands n).Plain ∧ (t.commands n).inside = none := by
  rw [h.command]
  exact ⟨⟨hbegun.plain.running, hbegun.plain.lease, hbegun.plain.generation⟩, hbegun.inside⟩

theorem LookedUp.serving {sessionPath : JsString} (h : LookedUp n sessionPath a s t) (hbegun : Begun n s)
    (hentered : Entered n a t u) : Serving n a u ∧ Visiting n a u := by
  have hcommand := hentered.command
  rw [h.command] at hcommand
  refine ⟨⟨⟨?_, ?_, ?_, ?_⟩, ?_⟩, ?_, ?_, ?_, hentered.notReady⟩ <;> rw [hcommand]
  · exact hbegun.plain.running
  · exact hbegun.forking
  · exact hbegun.plain.lease
  · exact ⟨hbegun.plain.running, hbegun.plain.lease, hbegun.plain.generation⟩
  · exact hbegun.forking

/-- A handler that runs one command for a session that exists, in the queue of its actor. -/
theorem safe_session {α : Type} {operation : JsString} {body : Nat → Routine α} {rest : α → Routine Unit}
    (h : Inv s) (hbegun : Begun n s) (sessionPath : JsString)
    (hbody : ∀ actor t, Inv t → Serving n actor t → Visiting n actor t →
      (body actor).Safe discipline n (fun _ u => (u.commands n).Plain ∧ Leaving n actor u) t)
    (hrest : ∀ value t, Inv t → Done n t → (rest value).Safe discipline n (fun _ u => Done n u) t) :
    (do
      let actor ← lookUpActor n sessionPath false
      let value ← enqueue n actor operation (body actor)
      rest value : Routine Unit).Safe discipline n (fun _ u => Done n u) s := by
  refine Safe.liftBind (spec_lookUpActor h hbegun.actor sessionPath false) h ?_ ?_
  · rintro actor t ht - - ⟨found, hfound, hlooked⟩
    cases hfound
    refine safe_finish ht (safe_enqueue_plain ht hlooked.created (hlooked.plain hbegun).2 fun u hu hentered => ?_) hrest
    obtain ⟨hserving, hvisiting⟩ := hlooked.serving hbegun hentered
    exact hbody actor u hu hserving hvisiting
  · rintro error t - - - ⟨found, herror, -⟩
    cases herror

theorem safe_resolved {rest : JsString → Routine Unit} (h : Inv s) (hbegun : Begun n s) (sessionPath : JsString)
    (hrest : ∀ resolved t, Inv t → Begun n t →
      (rest resolved).Safe discipline n (fun _ u => Done n u) t) :
    (do
      let resolved ← resolveExisting n sessionPath
      rest resolved : Routine Unit).Safe discipline n (fun _ u => Done n u) s :=
  Safe.liftBind (spec_resolveExisting h hbegun sessionPath) h
    (fun resolved t ht _ _ hlater => hrest resolved t ht hlater) fun _ _ ht _ _ hlater => hlater.done ht

theorem safe_checkedMessage {α : Type} {result : Except JsString α} (h : Inv s) (hdone : Done n s) :
    (do
      let _ ← ofExcept result
      sendMessage : Routine Unit).Safe discipline n (fun _ u => Done n u) s :=
  safe_check h (fun _ _ => safe_sendMessage h hdone) fun _ _ => hdone

theorem safe_request {operation label : JsString} {command : PiRpcCommand} (h : Inv s) (hbegun : Begun n s)
    (sessionPath : JsString) (rounds : Nat) (hcommand : command.changesSession = false) :
    (do
      let actor ← lookUpActor n sessionPath false
      let response ← enqueue n actor operation (useActor n actor label rounds fun proc => sendRpc (some actor) proc command)
      ofExcept (checkSucceeded response)
      sendMessage : Routine Unit).Safe discipline n (fun _ t => Done n t) s := by
  refine safe_session h hbegun sessionPath (fun _ _ hu hserving hvisiting => ?_)
    fun _ _ hu hdone => safe_checkedMessage hu hdone
  refine safe_useActor hu hserving hvisiting rounds fun _ _ hv husable => ?_
  exact (safe_sendRpc_inside hv husable.inside husable.forking husable.process hcommand).mono (fun _ => hv)
    fun _ w hw _ _ hrely => husable.used hrely hw

theorem safe_handleCompact (h : Inv s) (hbegun : Begun n s) (sessionPath : JsString) (rounds : Nat) :
    (handleCompact n sessionPath rounds).Safe discipline n (fun _ t => Done n t) s :=
  safe_resolved h hbegun sessionPath fun resolved _ ht hlater => safe_request ht hlater resolved rounds rfl

theorem safe_handleSetSessionName (h : Inv s) (hbegun : Begun n s) (sessionPath name : JsString) (rounds : Nat) :
    (handleSetSessionName n sessionPath name rounds).Safe discipline n (fun _ t => Done n t) s :=
  safe_resolved h hbegun sessionPath fun resolved _ ht hlater => safe_request ht hlater resolved rounds rfl

theorem safe_handleFork (h : Inv s) (hbegun : Begun n s) (sessionPath entryId : JsString) (rounds : Nat) :
    (handleFork n sessionPath entryId rounds).Safe discipline n (fun _ t => Done n t) s := by
  refine safe_resolved h hbegun sessionPath fun resolved t ht hlater => ?_
  split
  · exact Safe.throw fun _ => hlater.done ht
  · refine safe_session ht hlater resolved (fun _ _ hu hserving hvisiting => ?_)
      fun _ _ hu hdone => safe_sendMessage hu hdone
    exact safe_useActor hu hserving hvisiting rounds fun _ _ hv husable => safe_forkSession hv husable entryId

/-- The statistics of a session; a process that was acquired for them is released. -/
theorem safe_inspectSession (h : Inv s) (hserving : Serving n a s) (hvisiting : Visiting n a s) (rounds : Nat) :
    (inspectSession n a rounds).Safe discipline n (fun _ t => (t.commands n).Plain ∧ Leaving n a t) s := by
  refine Safe.read (run_readActor s a) h ?_
  refine Safe.bind (safe_acquireForActor h hserving rounds) (fun _ => h) (fun proc t ht _ _ hserved => ?_)
    fun _ t ht _ _ hfailed => Failed.leaving hfailed hvisiting ht
  obtain ⟨hcommand, hproc, hphase⟩ : Served n a proc s t := hserved
  have hplaced : (t.commands n).Placed a := hserving.placed.later hcommand
  have hplain : (t.commands n).Plain := by
    rw [hcommand]
    exact hvisiting.plain
  have hsend : (do
      let _ ← sendRpcChecked (some a) proc .get_session_stats
      pure () : Routine Unit).Safe discipline n (fun _ u => Adds t u ∧ Rely n t u) t :=
    safe_finish ht ((safe_sendRpcChecked_inside ht hplaced.inside hplaced.forking hproc rfl).mono (fun _ => ht)
      fun _ u _ _ hadds hrely => ⟨hadds, hrely⟩) fun _ u _ hresult => Safe.pure fun _ => hresult
  refine safe_finally ht hsend fun u hu ⟨hadds, hrely⟩ => ?_
  obtain ⟨hnone, hnow⟩ | ⟨hattached, rfl⟩ := hphase
  · rw [if_pos (by rw [SessionActor.process, hnone]; rfl)]
    have husable : Usable n a proc t := ⟨hplaced.inside, hplaced.forking, hproc, hnow⟩
    exact (husable.used hrely hu).safe_release hu hplaced.inside hplain
  · have howned : (t.actors a).process ≠ none := fun hnone => hattached (Option.map_eq_none_iff.mp hnone)
    rw [if_neg howned]
    exact Safe.pure fun _ => (hvisiting.of_rely hadds hrely).leaving

theorem safe_handleGetSessionStats (h : Inv s) (hbegun : Begun n s) (sessionPath : JsString) (rounds : Nat) :
    (handleGetSessionStats n sessionPath rounds).Safe discipline n (fun _ t => Done n t) s :=
  safe_resolved h hbegun sessionPath fun resolved _ ht hlater => safe_session ht hlater resolved
    (fun _ _ hu hserving hvisiting => safe_inspectSession hu hserving hvisiting rounds)
    fun _ _ hu hdone => safe_sendMessage hu hdone

theorem safe_acquireUse {task : Routine HeldLease} {command : PiRpcCommand} (h : Inv s) (hbegun : Begun n s)
    (htask : task.Safe discipline n (AcquiresLease n s) s) (hcommand : command.changesSession = false) :
    (do
      let lease ← task
      useLease n lease.process command : Routine Unit).Safe discipline n (fun _ t => Done n t) s := by
  refine Safe.bind htask (fun _ => h) (fun lease t ht _ _ hacquires => ?_) fun error t ht _ _ hrely => ?_
  · have hacquired : Acquired n lease s t := hacquires
    refine (safe_useLease ht (by rw [hacquired.command]) (ht.rpcs.requests.quiet_of_answered hacquired.answered)
      hcommand).mono (fun _ => ht) fun _ u hu _ _ hlast => (Begun.later hbegun (?_ : u.commands n = s.commands n)).done hu
    rw [hlast, hacquired.command, ← hbegun.plain.lease]
  · have hsame : Rely n s t := hrely
    exact (hbegun.later hsame.command).done ht

theorem safe_handleGetAvailableModels (hbegun : Begun n s) (rounds : Nat) :
    (handleGetAvailableModels n rounds).Safe discipline n (fun _ t => Done n t) s := by
  refine Safe.wait fun t _ hrely ht _ _ => ?_
  have hlater := hbegun.later hrely.command
  refine Safe.liftBind (spec_hostCall ht) ht (fun _ u hu _ _ hframe => ?_) fun _ u hu _ _ hframe =>
    (hlater.later (congrFun hframe.commands n)).done hu
  have hlast := hlater.later (congrFun hframe.commands n)
  exact safe_acquireUse hu hlast (safe_acquireAnyProcess hu hlast.plain.lease hlast.plain.running rounds) rfl

theorem safe_handleGetDefaultModel (h : Inv s) (hbegun : Begun n s) (rounds : Nat) :
    (handleGetDefaultModel n rounds).Safe discipline n (fun _ t => Done n t) s :=
  safe_acquireUse h hbegun (safe_acquireAnyProcess h hbegun.plain.lease hbegun.plain.running rounds) rfl

theorem safe_handleGetCommands (h : Inv s) (hbegun : Begun n s) (cwd sessionPath : Option JsString)
    (rounds : Nat) : (handleGetCommands n cwd sessionPath rounds).Safe discipline n (fun _ t => Done n t) s := by
  refine Safe.read (run_readSystem s) h (safe_check h (fun cwd _ => ?_) fun _ _ => hbegun.done h)
  exact safe_acquireUse h hbegun (safe_acquireProcess h hbegun.plain.lease hbegun.plain.running cwd rounds) rfl

theorem safe_handleReloadProcesses (h : Inv s) (hbegun : Begun n s) :
    handleReloadProcesses.Safe discipline n (fun _ t => Done n t) s := by
  refine Safe.liftBind (spec_decommissionAll h) h (fun _ t ht _ _ hrely => ?_) fun _ t ht _ _ hrely =>
    (hbegun.later hrely.command).done ht
  exact safe_sendMessage ht ((hbegun.later hrely.command).done ht)

theorem safe_hostWait {rest : Routine Unit} (hvisiting : Visiting n a s)
    (hrest : ∀ t, Inv t → Visiting n a t → rest.Safe discipline n
      (fun _ u => u.commands n = t.commands n ∧ Visiting n a u) t) :
    (do
      Coroutine.suspend .tick
      hostCall
      rest : Routine Unit).Safe discipline n (fun _ u => u.commands n = s.commands n ∧ Visiting n a u) s := by
  refine Safe.wait fun t hadds hrely ht _ _ => ?_
  have hlater := hvisiting.of_rely hadds hrely
  refine Safe.liftBind (spec_hostCall ht) ht (fun _ u hu _ huAdds hframe => ?_) fun _ u hu _ huAdds hframe => ?_
  · refine safe_after hu (hrest u hu (hlater.of_kept huAdds (hframe.kept n a))) fun _ v hresult => ⟨?_, hresult.2⟩
    rw [hresult.1, hframe.commands, hrely.command]
  · exact ⟨by rw [hframe.commands, hrely.command], hlater.of_kept huAdds (hframe.kept n a)⟩

theorem safe_mutateSession (h : Inv s) (hvisiting : Visiting n a s) (operation : JsString) :
    (mutateSession a operation).Safe discipline n (fun _ u => (u.commands n).Plain ∧ Leaving n a u) s := by
  refine Safe.read (run_readActor s a) h (safe_check h (fun _ _ => ?_) fun _ _ => hvisiting.leaving)
  refine Safe.wait fun t hadds hrely ht _ _ => ?_
  have hlater := hvisiting.of_rely hadds hrely
  refine Safe.lift ((spec_hostCall ht).mono fun _ u _ _ huAdds hframe => ?_)
  exact (hlater.of_kept huAdds (hframe.kept n a)).leaving

theorem safe_runSessionMutation (h : Inv s) (hbegun : Begun n s) (sessionPath operation : JsString) :
    (runSessionMutation n sessionPath operation).Safe discipline n (fun _ t => Done n t) s := by
  refine Safe.liftBind (spec_getOrCreate h sessionPath) h ?_ ?_
  · rintro actor t ht - - ⟨found, hresult, hfound, hrely⟩
    cases hresult
    have hlater := hbegun.later hrely.command
    exact safe_enqueue_plain ht hfound.created hlater.inside fun u hu hentered =>
      safe_mutateSession hu (hlater.visiting hentered) operation
  · rintro error t - - - ⟨found, herror, -⟩
    cases herror

theorem safe_cloneSource (h : Inv s) (hvisiting : Visiting n a s) (operation newSessionPath : JsString) :
    (cloneSource a operation newSessionPath).Safe discipline n
      (fun _ u => u.commands n = s.commands n ∧ Visiting n a u) s := by
  refine Safe.read (run_readActor s a) h (safe_check h (fun _ _ => ?_) fun _ _ => ⟨rfl, hvisiting⟩)
  refine safe_hostWait hvisiting fun t ht hlater => Safe.read (run_readSystem t) ht ?_
  exact safe_check ht (fun _ _ => Safe.pure fun _ => ⟨rfl, hlater⟩) fun _ _ => ⟨rfl, hlater⟩

theorem safe_enqueueClone (h : Inv s) (hbegun : Begun n s) (ha : a < s.actorCount)
    (operation label newSessionPath : JsString) :
    (enqueue n a operation (cloneSource a label newSessionPath)).Safe discipline n (fun _ t => Begun n t) s := by
  refine safe_enqueue (R := fun _ t => t.commands n = { s.commands n with inside := some a } ∧ Visiting n a t) h ha
    hbegun.inside (fun t _ ht hentered => ?_) (fun _ t _ _ hresult => hresult.2.leaving.2) ?_
  · exact safe_after ht (safe_cloneSource ht (hbegun.visiting hentered) label newSessionPath) fun _ u hresult =>
      ⟨hresult.1.trans hentered.command, hresult.2⟩
  · rintro - t u - - - - ⟨hcommand, -⟩ hleft
    have hlocals : u.commands n = s.commands n := by
      have hinside := hbegun.inside
      have hforking := hbegun.forking
      rw [hleft.command, hcommand]
      cases hme : s.commands n
      simp_all
    exact hbegun.later hlocals

theorem safe_handleForkCurrent (h : Inv s) (hbegun : Begun n s) (sessionPath newSessionPath : JsString) :
    (handleForkCurrent n sessionPath newSessionPath).Safe discipline n (fun _ t => Done n t) s := by
  refine safe_resolved h hbegun sessionPath fun resolved t ht hlater => ?_
  refine Safe.liftBind (spec_getOrCreate ht resolved) ht ?_ ?_
  · rintro source u hu - - ⟨found, hresult, hfound, hrely⟩
    cases hresult
    exact (safe_enqueueClone hu (hlater.later hrely.command) hfound.created _ _ newSessionPath).mono (fun _ => hu)
      fun _ v hv _ _ hlast => hlast.done hv
  · rintro error u - - - ⟨found, herror, -⟩
    cases herror

end pipane.ws_handler.runtime

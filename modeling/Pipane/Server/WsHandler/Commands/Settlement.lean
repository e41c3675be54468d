import Pipane.Server.WsHandler.Commands.Prompts

open async javascript pipane.process_pool pipane.session_actor pipane.session_jsonl pipane.session_registry
open async.Atomic (Ends)
open async.Coroutine (Safe)

namespace pipane.ws_handler.runtime

variable {n a : Nat} {s t u : System}

theorem Parting.left (h : Parting n a t) (hleft : Left n t u) : Failing n u := by
  refine ⟨?_, ?_, ?_, ?_⟩ <;> rw [hleft.command]
  · exact h.placed.running
  · exact fun lease hlease => (hleft.process lease hlease).quiet (h.quiet lease hlease)

theorem Parting.leaving (h : Parting n a t) : Leaving n a t := by
  refine ⟨h.placed.inside, fun hforking => ?_, h.notReady⟩
  rw [h.placed.forking] at hforking
  cases hforking

/-- What is known of a turn whose prompt waits for its end in the queue of the actor. -/
structure Settling (n a : Nat) (s : System) : Prop where
  parting : Parting n a s
  lease : (s.commands n).lease = none

theorem Settling.gone (h : Settling n a s) (hinv : Inv s) (hcalm : s.Calm)
    (hlost : ∀ lease, (s.actors a).lease = some lease → (s.commands n).generation = some (s.actors a).turnGeneration →
      (s.commands n).proc ≠ some lease.process) : s.Gone n := by
  refine hinv.gone hcalm (fun actor hinside => ?_) fun actor lease hown htaken hgeneration => ?_
  · rw [h.parting.placed.inside] at hinside
    cases hinside
    exact h.parting.notReady hcalm
  · rw [h.parting.placed.own] at hown
    cases hown
    exact hlost lease htaken hgeneration

theorem safe_settlePrompt (h : Inv s) (hsettling : Settling n a s) :
    (settlePrompt n a).Safe discipline n
      (fun result t => Settling n a t ∧ (result = .ok () → t.Calm → t.Gone n)) s := by
  refine Safe.read (run_readSystem s) h ?_
  cases hproc : (s.commands n).proc with
  | none =>
    refine Safe.pure fun _ => ⟨hsettling, fun _ hcalm => hsettling.gone h hcalm fun lease _ _ hsame => ?_⟩
    rw [hproc] at hsame
    cases hsame
  | some proc =>
    cases hgeneration : (s.commands n).generation with
    | none =>
      refine Safe.pure fun _ => ⟨hsettling, fun _ hcalm => hsettling.gone h hcalm fun lease _ hsame => ?_⟩
      rw [hgeneration] at hsame
      cases hsame
    | some generation =>
      dsimp only
      split
      · rename_i hother
        refine Safe.pure fun _ => ⟨hsettling, fun _ hcalm => hsettling.gone h hcalm fun lease htaken hturn hsame => ?_⟩
        rw [hgeneration] at hturn
        rw [hproc] at hsame
        refine hother ?_
        simp only [SessionActor.owns, SessionActor.process, htaken, Option.map_some, Bool.decide_and, Bool.and_eq_true,
          decide_eq_true_eq]
        exact ⟨hsame.symm, Option.some.inj hturn⟩
      · rename_i howned
        simp only [SessionActor.owns, Bool.decide_and, Bool.and_eq_true, decide_eq_true_eq, not_not] at howned
        have hparting := hsettling.parting
        have hturn : InTurn n a proc s := ⟨hparting.placed, hsettling.lease, howned.1, hparting.notReady⟩
        refine Safe.bind (hturn.safe_reconcile h) (fun _ => h) ?_ ?_
        · intro _ t ht _ _ hlater
          refine Safe.lift ((spec_releaseActor ht hlater.placed.inside fun lease hlease =>
            ht.quiet_inside hlater.placed.inside hlater.placed.forking hlease).mono ?_)
          rintro result v hv - - ⟨hreleased, -⟩
          have hcommand := congrFun hreleased.commands n
          have hlease : (v.commands n).lease = none := hcommand ▸ hlater.lease
          have hlast : Settling n a v :=
            ⟨.of_none (hlater.placed.later hcommand) (fun _ => hreleased.notReady) hlease, hlease⟩
          refine ⟨hlast, fun _ hcalm => hlast.gone hv hcalm fun lease htaken => ?_⟩
          rw [hreleased.lease hcalm] at htaken
          cases htaken
        · intro error t _ _ _ hlater
          exact ⟨⟨hlater.parting, hlater.lease⟩, fun hok => by cases hok⟩

/-- What is known of a prompt after its turn, and where it has failed. -/
def Awaited (n : Nat) : Except JsString Unit → System → Prop
  | .ok _, t => Done n t
  | .error _, t => Failing n t

/-- A prompt awaits the end of its turn and releases the actor. -/
theorem safe_awaitTurn (h : Inv s) (hfailing : Failing n s) (hnone : (s.commands n).lease = none)
    (hown : (s.commands n).actor = some a) (ha : a < s.actorCount) (observer : Nat) (operation : JsString)
    (promptStarted : Option Bool) :
    (awaitTurn n a observer operation promptStarted).Safe discipline n (Awaited n) s := by
  refine Safe.read (run_readCommand s n) h ?_
  cases hproc : (s.commands n).proc with
  | none =>
    refine Safe.pure fun _ => hfailing.done h hnone fun _ _ _ _ _ _ hsame => ?_
    rw [hproc] at hsame
    cases hsame
  | some proc =>
    refine Safe.bind (safe_waitForPromptSettlement h proc observer promptStarted) (fun _ => h) ?_
      fun error t _ _ _ hrely => hfailing.of_rely hrely
    intro _ t ht _ hadds hrely
    have hlater := hfailing.of_rely hrely
    refine safe_enqueue (R := fun result u => Settling n a u ∧ (result = .ok () → u.Calm → u.Gone n)) ht
      (Nat.lt_of_lt_of_le ha hadds.created) hlater.inside ?_ (fun _ _ _ _ hresult => hresult.1.parting.leaving) ?_
    · intro u _ hu hentered
      have hcommand := hentered.command
      rw [hrely.command] at hcommand
      have hlease : (u.commands n).lease = none := by
        rw [hcommand]
        exact hnone
      have hplaced : (u.commands n).Placed a := by
        rw [hcommand]
        exact ⟨rfl, hfailing.running, hown, hfailing.forking⟩
      exact safe_after hu (safe_settlePrompt hu ⟨.of_none hplaced hentered.notReady hlease, hlease⟩) fun _ _ hresult => hresult
    · rintro result u v hu - - hleftAdds ⟨hsettling, hgone⟩ hleft
      have hlast := hsettling.parting.left hleft
      cases result with
      | error error => exact hlast
      | ok value =>
        refine ⟨hlast.inside, hlast.running, fun hcalm => ⟨?_, hleft.gone (hgone rfl (Calm.of_adds hleftAdds hcalm))⟩⟩
        rw [hleft.command]
        exact hsettling.lease

theorem LookedUp.prompting {sessionPath : JsString} (h : LookedUp n sessionPath a s t) (hfailing : Failing n s)
    (hgeneration : (s.commands n).generation = none)
    (hbound : ∀ lease, (s.commands n).lease = some lease → s.pool.Bound lease.process sessionPath)
    (hadds : Adds t u) (hentered : Entered n a t u) : Prompting n a u := by
  have hcommand := hentered.command
  rw [h.command] at hcommand
  have hsame : (u.actors a).sessionPath = sessionPath := (hadds.paths a h.created).trans h.path
  refine ⟨?_, ?_, hentered.notReady, fun lease hlease => ?_⟩ <;> rw [hcommand] at *
  · exact ⟨rfl, hfailing.running, rfl, hfailing.forking⟩
  · exact hgeneration
  · have hopen := hbound lease hlease
    rw [← h.pool] at hopen
    rw [hsame]
    refine (hentered.process lease.process (.inl ⟨lease, ?_, rfl⟩)).bound hopen
    rw [h.command]
    exact hlease

/-- A prompt that has left the queue of its actor. -/
def Prompts (n a : Nat) : Except JsString (Option (Nat × Bool)) → System → Prop
  | .ok none, t => Failing n t ∧ (t.commands n).generation = none ∧ (t.Calm → (t.commands n).lease = none)
  | .ok (some _), t => Failing n t ∧ (t.commands n).lease = none ∧ (t.commands n).actor = some a ∧ a < t.actorCount
  | .error _, t => Failing n t

theorem Prompted.parting {result : Except JsString (Option (Nat × Bool))} (h : Prompted n a result t) : Parting n a t := by
  obtain _ | _ | _ := result
  · exact h
  · exact h.1
  · exact h.1

theorem Prompted.left {operation : JsString} {result : Except JsString (Option (Nat × Bool))} (h : Prompted n a result t)
    (ht : Inv t) (hadds : Adds t u) (hleft : Left n t u) : Prompts n a (named operation result) u := by
  have hfailing := h.parting.left hleft
  obtain error | _ | value := result
  · exact hfailing
  · refine ⟨hfailing, ?_, fun hcalm => ?_⟩
    · rw [hleft.command]
      exact h.2.1
    · rw [hleft.command]
      exact h.2.2 (Calm.of_adds hadds hcalm)
  · refine ⟨hfailing, ?_, ?_, Nat.lt_of_lt_of_le (ht.created h.parting.placed.inside) hadds.created⟩
    · rw [hleft.command]
      exact h.2
    · rw [hleft.command]
      exact h.parting.placed.own

theorem safe_joined (h : Inv s) (hprompts : Prompts n a (.ok none) s) :
    (Coroutine.lift (updateCommand n fun me => { me with promptAccepted := true }) : Routine Unit).Safe
      discipline n (Awaited n) s := by
  obtain ⟨hfailing, hgeneration, hlease⟩ := hprompts
  have hmid : Inv (s.setCommand n { s.commands n with promptAccepted := true }) :=
    h.setLocals rfl rfl id rfl rfl (.inl rfl) (.inl rfl)
  refine Safe.lift (Ends.spec (R := fun result t => result = .ok () ∧
    t = s.setCommand n { s.commands n with promptAccepted := true }) ⟨rfl, rfl⟩ ?_)
  rintro result t - - ⟨rfl, rfl⟩
  refine ⟨hmid, fun m hm => Rely.setCommand s hm _, ?_, ?_, fun hcalm => ⟨?_, hmid.gone hcalm ?_ ?_⟩⟩
  · rw [setCommand_commands_self]
    exact hfailing.inside
  · rw [setCommand_commands_self]
    exact hfailing.running
  · rw [setCommand_commands_self]
    exact hlease hcalm
  · intro actor hinside
    rw [setCommand_commands_self, hfailing.inside] at hinside
    cases hinside
  · intro actor lease _ _ hturn
    rw [setCommand_commands_self, hgeneration] at hturn
    cases hturn

/-- The part of `runPrompt` after the session was created. -/
theorem safe_promptCreated (h : Inv s) (hcreated : Created n s) (command : PromptCommand) (rounds : Nat) :
    (do
      let me ← readCommand n
      let actor ← lookUpActor n me.sessionPath (command.sessionPath = none)
      let start ← enqueue n actor (js "prompt start") (startPrompt n actor command rounds)
      match start with
      | none => updateCommand n fun me => { me with promptAccepted := true }
      | some (observer, promptStarted) =>
        awaitTurn n actor observer (js "prompt settlement") (some promptStarted) : Routine Unit).Safe discipline n
      (Awaited n) s := by
  refine Safe.read (run_readCommand s n) h ?_
  refine Safe.liftBind (spec_lookUpActor h hcreated.actor _ _) h ?_ ?_
  · rintro actor t ht - - ⟨found, hfound, hlooked⟩
    cases hfound
    have hinside : (t.commands n).inside = none := by
      rw [hlooked.command]
      exact hcreated.failing.inside
    refine Safe.bind (R := Prompts n actor) (safe_enqueue (R := Prompted n actor) ht hlooked.created hinside ?_
      (fun _ _ _ _ hprompted => hprompted.parting.leaving) ?_) (fun _ => ht) ?_ fun error u _ _ _ hfailing => hfailing
    · exact fun u hadds hu hentered => safe_startPrompt hu
        (hlooked.prompting hcreated.failing hcreated.generation hcreated.bound hadds hentered) command rounds
    · exact fun result u v hu _ _ hleftAdds hprompted hleft => hprompted.left hu hleftAdds hleft
    · intro start u hu _ _ hprompts
      cases start with
      | none => exact safe_joined hu hprompts
      | some started =>
        obtain ⟨hfailing, hnone, hown, ha⟩ := hprompts
        exact safe_awaitTurn hu hfailing hnone hown ha _ _ _
  · rintro error t - - - ⟨found, herror, -⟩
    cases herror

/-- A prompt, from its session to the end of its turn. -/
theorem safe_runPrompt (h : Inv s) (hbegun : Begun n s) (command : PromptCommand) (rounds : Nat) :
    (runPrompt n command rounds).Safe discipline n (Awaited n) s := by
  rw [runPrompt]
  split
  · refine Safe.bind (safe_createSession h hbegun command rounds) (fun _ => h) ?_ fun _ _ _ _ _ hfailing => hfailing
    exact fun _ t ht _ _ hcreated => safe_promptCreated ht hcreated command rounds
  · exact safe_promptCreated h hbegun.created command rounds

theorem safe_orFailed {task : Routine Unit} (h : Inv s)
    (htask : task.Safe discipline n (Awaited n) s) (operation : JsString) (isNewSession : Bool) :
    (tryCatch task (turnFailed n operation isNewSession)).Safe discipline n (fun _ t => Done n t) s :=
  Safe.tryCatch htask (fun _ => h) (fun _ _ _ _ _ hdone => hdone)
    fun error _ ht _ _ hfailing => safe_turnFailed ht hfailing operation isNewSession error

theorem safe_handlePrompt (h : Inv s) (hbegun : Begun n s) (command : PromptCommand) (rounds : Nat) :
    (handlePrompt n command rounds).Safe discipline n (fun _ t => Done n t) s := by
  rw [handlePrompt]
  cases command.sessionPath with
  | none => exact safe_orFailed h (safe_runPrompt h hbegun command rounds) _ _
  | some requestedPath =>
    dsimp only
    split
    · exact Safe.throw fun _ => hbegun.done h
    · refine safe_resolved h hbegun requestedPath fun resolved t ht hlater => ?_
      have hmid : Inv (t.setCommand n { t.commands n with sessionCreated := true }) :=
        ht.setLocals rfl rfl id rfl rfl (.inl rfl) (.inl rfl)
      refine Safe.seq (run_updateCommand t n _) hmid (fun m hm => Rely.setCommand t hm _) ?_
      exact safe_orFailed hmid (safe_runPrompt hmid (hlater.later (setCommand_commands_self t n _)) command rounds) _ _

/-- The prompt of a fork, from the queue of its actor to the end of its turn. -/
theorem safe_runForkPrompt {sessionPath : JsString} (h : Inv t) (hbegun : Begun n s)
    (hlooked : LookedUp n sessionPath a s t) (cwd : JsString) (command : ForkPromptCommand) (rounds : Nat) :
    (runForkPrompt n a cwd command rounds).Safe discipline n (Awaited n) t := by
  refine Safe.bind (R := fun result u => Failing n u ∧ (∀ value, result = .ok value →
      (u.commands n).lease = none ∧ (u.commands n).actor = some a ∧ a < u.actorCount))
    (safe_enqueue (R := Started n a) h hlooked.created (hlooked.plain hbegun).2 ?_ ?_ ?_) (fun _ => h) ?_
    fun error u _ _ _ hfailing => hfailing.1
  · intro u hadds hu hentered
    have hprompting := hlooked.prompting hbegun.failing hbegun.plain.generation (fun lease hlease => ?_) hadds hentered
    · refine safe_startForkPrompt hu hprompting ?_ cwd command rounds
      rw [hentered.command, hlooked.command]
      exact hbegun.plain.lease
    · rw [hbegun.plain.lease] at hlease
      cases hlease
  · intro result u _ _ hstarted
    cases result with
    | ok observer => exact hstarted.1.leaving
    | error error => exact Parting.leaving hstarted
  · intro result u v hu _ _ hadds hstarted hleft
    cases result with
    | ok observer =>
      refine ⟨hstarted.1.left hleft, fun _ _ => ⟨?_, ?_, Nat.lt_of_lt_of_le (hu.created hstarted.1.placed.inside) hadds.created⟩⟩
      · rw [hleft.command]
        exact hstarted.2
      · rw [hleft.command]
        exact hstarted.1.placed.own
    | error error => exact ⟨Parting.left hstarted hleft, fun value hvalue => by cases hvalue⟩
  · rintro observer u hu - - ⟨hfailing, hstarted⟩
    obtain ⟨hnone, hown, ha⟩ := hstarted observer rfl
    exact safe_awaitTurn hu hfailing hnone hown ha observer _ none

theorem safe_handleForkPrompt (h : Inv s) (hbegun : Begun n s) (command : ForkPromptCommand) (rounds : Nat) :
    (handleForkPrompt n command rounds).Safe discipline n (fun _ t => Done n t) s := by
  refine safe_resolved h hbegun command.sessionPath fun resolved t ht hlater => ?_
  split
  · exact Safe.throw fun _ => hlater.done ht
  · refine Safe.liftBind (spec_getOrCreate ht resolved) ht ?_ ?_
    · rintro source u hu - - ⟨found, hresult, hfound, hrely⟩
      cases hresult
      refine Safe.bind (safe_enqueueClone hu (hlater.later hrely.command) hfound.created _ _ _) (fun _ => hu) ?_
        fun error v hv _ _ hlast => hlast.done hv
      intro _ v hv _ _ hlast
      refine Safe.read (run_readSystem v) hv (Safe.liftBind (spec_lookUpActor hv hlast.actor _ _) hv ?_ ?_)
      · rintro actor w hw - - ⟨found, hfound, hlooked⟩
        cases hfound
        exact safe_orFailed hw (safe_runForkPrompt hw hlast hlooked _ command rounds) _ _
      · rintro error w - - - ⟨found, herror, -⟩
        cases herror
    · rintro error u - - - ⟨found, herror, -⟩
      cases herror

end pipane.ws_handler.runtime

import Pipane.Server.WsHandler.Commands.Failures

open async javascript pipane.process_pool pipane.session_actor pipane.session_jsonl pipane.session_registry
open async.Atomic (Spec)
open async.Coroutine (Safe)

namespace pipane.ws_handler.runtime

variable {n a proc : Nat} {s t u : System}

/-- A command in the queue of the actor whose turn it has begun. -/
structure InTurn (n a proc : Nat) (s : System) : Prop where
  placed : (s.commands n).Placed a
  lease : (s.commands n).lease = none
  process : (s.actors a).process = some proc
  notReady : s.Calm → (s.actors a).phase ≠ .ready

theorem InTurn.later (h : InTurn n a proc s) (hadds : Adds s t) {promptAccepted sessionCreated : Bool}
    (hcommand : t.commands n = { s.commands n with promptAccepted, sessionCreated })
    (hlease : (t.actors a).lease = (s.actors a).lease) (hphase : (t.actors a).phase = (s.actors a).phase) :
    InTurn n a proc t := by
  refine ⟨h.placed.later hcommand, ?_, ?_, fun hcalm => ?_⟩
  · rw [hcommand]
    exact h.lease
  · rw [SessionActor.process, hlease]
    exact h.process
  · rw [hphase]
    exact h.notReady (Calm.of_adds hadds hcalm)

theorem InTurn.of_kept (h : InTurn n a proc s) (hadds : Adds s t) (hkept : Kept n a s t) : InTurn n a proc t :=
  h.later hadds (congrFun hkept.commands n) hkept.lease hkept.phase

theorem InTurn.of_rely (h : InTurn n a proc s) (hadds : Adds s t) (hrely : Rely n s t) : InTurn n a proc t :=
  h.later hadds hrely.command (hrely.owner h.placed.inside).1 (hrely.owner h.placed.inside).2.1

theorem InTurn.safe_request (h : Inv s) (hturn : InTurn n a proc s) {onBehalfOf : Option Nat}
    (hactor : onBehalfOf = none ∨ onBehalfOf = some a) {command : PiRpcCommand} (hcommand : command.changesSession = false) :
    (sendRpcChecked onBehalfOf proc command).Safe discipline n (fun _ t => InTurn n a proc t) s := by
  have hsend : (sendRpcChecked onBehalfOf proc command).Safe discipline n (fun _ t => Rely n s t) s := by
    obtain rfl | rfl := hactor
    · exact safe_sendRpcChecked h (Allowed.none s proc) hcommand
    · exact safe_sendRpcChecked_inside h hturn.placed.inside hturn.placed.forking hturn.process hcommand
  exact hsend.mono (fun _ => h) fun _ t _ _ hadds hrely => hturn.of_rely hadds hrely

theorem InTurn.safe_publish (h : Inv s) (hturn : InTurn n a proc s) (data : PiRpcData) :
    (Coroutine.lift (publishEffectiveControlState a data) : Routine Unit).Safe discipline n
      (fun _ t => InTurn n a proc t) s :=
  Safe.lift ((spec_publishEffectiveControlState h hturn.placed.inside data).mono
    fun _ _ _ _ hadds hkept => hturn.of_kept hadds hkept)

theorem InTurn.safe_sendMessage (h : Inv s) (hturn : InTurn n a proc s) :
    (Coroutine.lift sendMessage : Routine Unit).Safe discipline n (fun _ t => InTurn n a proc t) s :=
  Safe.lift ((spec_sendMessage h).mono fun _ _ _ _ hadds hsends => hturn.of_kept hadds (hsends.1.kept n a))

theorem InTurn.safe_reconcile (h : Inv s) (hturn : InTurn n a proc s) :
    (reconcileEffectiveControlState proc a).Safe discipline n (fun _ t => InTurn n a proc t) s :=
  safe_finish h (hturn.safe_request h (.inl rfl) rfl) fun data _ ht hlater => hlater.safe_publish ht data

/-- One attempt to switch the model, with what is tried when the model was not found. -/
theorem InTurn.safe_attemptModel (model : ModelRef) {retry : JsString → Routine Unit} (h : Inv s)
    (hturn : InTurn n a proc s) (hretry : ∀ message t, Inv t → InTurn n a proc t →
      (retry message).Safe discipline n (fun _ u => InTurn n a proc u) t) :
    (do
      let result ← (sendRpcChecked (some a) proc (.set_model model)).attempt
      match result with
      | .ok _ => pure ()
      | .error message =>
        if message ≠ modelNotFound model then throw message else retry message : Routine Unit).Safe discipline n
      (fun _ t => InTurn n a proc t) s := by
  refine safe_finish h (Safe.attempt ((hturn.safe_request h (.inr rfl) rfl).mono (fun _ => h)
    fun _ _ _ _ _ hlast => hlast) fun _ => h) fun result t ht hlast => ?_
  cases result with
  | ok data => exact Safe.pure fun _ => hlast
  | error message =>
    dsimp only
    split
    · exact Safe.throw fun _ => hlast
    · exact hretry message t ht hlast

theorem InTurn.safe_setRequestedModelAfter (model : ModelRef) (delays : List Nat) (h : Inv s)
    (hturn : InTurn n a proc s) (lastError : JsString) :
    (setRequestedModelAfter a proc model delays lastError).Safe discipline n (fun _ t => InTurn n a proc t) s := by
  induction delays generalizing s lastError with
  | nil => exact Safe.throw fun _ => hturn
  | cons delayMs delays ih =>
    rw [setRequestedModelAfter]
    split
    · exact Safe.wait fun t hadds hrely ht _ _ =>
        InTurn.safe_attemptModel model ht (hturn.of_rely hadds hrely) fun message u hu hlater => ih hu hlater message
    · exact hturn.safe_attemptModel model h fun message t ht hlater => ih ht hlater message

/-- The requested thinking level is set, where there is one, before the rest. -/
theorem InTurn.safe_setThinkingLevel (thinkingLevel : Option JsString) {rest : Routine Unit} (h : Inv s)
    (hturn : InTurn n a proc s) (hrest : ∀ t, Inv t → InTurn n a proc t →
      rest.Safe discipline n (fun _ u => InTurn n a proc u) t) :
    (do
      match thinkingLevel with
      | some level => do
        let _ ← sendRpcChecked (some a) proc (.set_thinking_level level)
        pure ()
      | none => pure ()
      rest : Routine Unit).Safe discipline n (fun _ t => InTurn n a proc t) s := by
  cases thinkingLevel with
  | none => exact hrest s h hturn
  | some level => exact safe_finish h (hturn.safe_request h (.inr rfl) rfl) fun _ t ht hlater => hrest t ht hlater

theorem InTurn.safe_applyRequestedControlState (h : Inv s) (hturn : InTurn n a proc s) (command : ControlCommand) :
    (applyRequestedControlState proc a command).Safe discipline n (fun _ t => InTurn n a proc t) s := by
  rw [applyRequestedControlState]
  cases command.model with
  | none => exact Safe.throw fun _ => hturn
  | some model =>
    have hlast : ∀ t, Inv t → InTurn n a proc t → (do
        let after ← sendRpcChecked none proc .get_state
        if after.model ≠ some model then
          throw (js "Failed to switch model to " ++ model.provider ++ js "/" ++ model.modelId)
        else do
          publishEffectiveControlState a after
          sendMessage : Routine Unit).Safe discipline n (fun _ u => InTurn n a proc u) t := by
      intro t ht hlater
      refine safe_finish ht (hlater.safe_request ht (.inl rfl) rfl) fun after u hu hnow => ?_
      split
      · exact Safe.throw fun _ => hnow
      · exact safe_finish hu (hnow.safe_publish hu after) fun _ v hv hend => hend.safe_sendMessage hv
    refine safe_finish h (hturn.safe_request h (.inl rfl) rfl) fun before t ht hlater => ?_
    dsimp only
    by_cases hmodel : before.model = some model
    · rw [if_neg (not_not.mpr hmodel)]
      exact hlater.safe_setThinkingLevel command.thinkingLevel ht hlast
    · rw [if_pos hmodel]
      exact safe_finish ht (InTurn.safe_setRequestedModelAfter model _ ht hlater []) fun _ u hu hnow =>
        hnow.safe_setThinkingLevel command.thinkingLevel hu hlast

theorem InTurn.safe_materializePromptImages (hturn : InTurn n a proc s) (images : Bool) :
    (materializePromptImages images).Safe discipline n (fun _ t => InTurn n a proc t) s := by
  rw [materializePromptImages]
  split
  · refine Safe.wait fun t hadds hrely ht _ _ => ?_
    exact Safe.lift ((spec_hostCall ht).mono fun _ _ _ _ hlast hframe =>
      (hturn.of_rely hadds hrely).of_kept hlast (hframe.kept n a))
  · exact Safe.pure fun _ => hturn

theorem safe_didPromptStart (h : Inv s) (proc observer : Nat) :
    (didPromptStart proc observer).Safe discipline n (fun _ t => Rely n s t) s := by
  refine Safe.read (run_readSystem s) h ?_
  split
  · exact Safe.pure fun _ => Rely.refl n s
  · refine Safe.tryCatch (R := fun _ t => Rely n s t) ?_ (fun _ => h) (fun _ _ _ _ _ hrely => hrely)
      fun _ _ _ _ _ hrely => Safe.pure fun _ => hrely
    refine safe_finish h (safe_sendRpcChecked h (Allowed.none s proc) rfl) fun data t ht hrely => ?_
    exact Safe.read (run_readSystem t) ht (Safe.pure fun _ => hrely)

/-- Nothing but waiting is done for the end of a turn. -/
theorem safe_waitForPromptSettlement (h : Inv s) (proc observer : Nat) (promptStarted : Option Bool) :
    (waitForPromptSettlement proc observer promptStarted).Safe discipline n (fun _ t => Rely n s t) s := by
  have hsettle : ∀ (t : System) (signal : Option Signal), Rely n s t → Inv t →
      (Coroutine.lift (settle signal proc) : Routine Unit).Safe discipline n (fun _ u => Rely n s u) t := by
    intro t signal hrely ht
    have hexited : (Coroutine.lift (throw (exitedError proc)) : Routine Unit).Safe discipline n
        (fun _ u => Rely n s u) t := Safe.lift (Spec.throw ht fun _ => hrely)
    cases signal with
    | none => exact hexited
    | some signal =>
      cases signal with
      | settled => exact Safe.lift (Spec.pure ht fun _ => hrely)
      | exited => exact hexited
  have hrest : ∀ (didStart : Bool) (t : System), Inv t → Rely n s t → (do
      if ¬ didStart then pure ()
      else do
        let s ← readSystem
        if s.pool.hasNoExitCode proc then do
          Coroutine.suspend (.settlement observer proc s.signals.length)
          let later ← readSystem
          settle (firstSignal later.signals observer proc s.signals.length) proc
        else settle (firstSignal s.signals observer proc s.signals.length) proc : Routine Unit).Safe discipline n
      (fun _ u => Rely n s u) t := by
    intro didStart t ht hrely
    split
    · exact Safe.pure fun _ => hrely
    · refine Safe.read (run_readSystem t) ht ?_
      split
      · refine Safe.wait fun u _ hwaited hu _ _ => ?_
        exact Safe.read (run_readSystem u) hu (hsettle u _ (hrely.trans hwaited) hu)
      · exact hsettle t _ hrely ht
  cases promptStarted with
  | some promptStarted => exact hrest promptStarted s h (Rely.refl n s)
  | none => exact safe_finish h (safe_didPromptStart h proc observer) fun didStart t ht hrely => hrest didStart t ht hrely

end pipane.ws_handler.runtime

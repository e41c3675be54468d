import Pipane.Server.WsHandler.Commands.Plain

open async javascript pipane.process_pool pipane.session_actor pipane.session_jsonl pipane.session_registry
open async.Atomic (Spec)
open async.Coroutine (Safe)

namespace pipane.ws_handler.runtime

variable {n a : Nat} {s t u : System}

/-- A prompt that has failed outside the queues; the lease that it may keep is in use by nobody. -/
structure Failing (n : Nat) (s : System) : Prop where
  inside : (s.commands n).inside = none
  running : (s.commands n).finished = false
  forking : (s.commands n).forking = false
  quiet : ∀ lease, (s.commands n).lease = some lease → s.pool.Quiet lease.process

theorem Failing.later (h : Failing n s) {lease : Option HeldLease} {sessionPath : JsString}
    (hcommand : t.commands n = { s.commands n with lease, sessionPath })
    (hquiet : ∀ held, lease = some held → t.pool.Quiet held.process) : Failing n t := by
  refine ⟨?_, ?_, ?_, ?_⟩ <;> rw [hcommand]
  · exact h.inside
  · exact h.running
  · exact h.forking
  · exact hquiet

theorem Failing.of_rely (h : Failing n s) (hrely : Rely n s t) : Failing n t :=
  h.later hrely.command fun held hheld =>
    (hrely.process held.process (.inl ⟨held, hheld, rfl⟩)).quiet (h.quiet held hheld)

theorem Done.of_rely (h : Done n s) (hadds : Adds s t) (hrely : Rely n s t) : Done n t := by
  refine ⟨?_, ?_, fun hcalm => ?_⟩ <;> rw [hrely.command]
  · exact h.inside
  · exact h.running
  · obtain ⟨hlease, hgone⟩ := h.clear (Calm.of_adds hadds hcalm)
    exact ⟨hlease, hrely.gone hgone⟩

theorem spec_abandonProcess (h : Inv s) (hdone : Done n s) (error : JsString) :
    (abandonProcess n error).Spec discipline n (fun _ t => Done n t) s := by
  have hend : ∀ t, Inv t → Done n t → ∀ accepted : Bool,
      (if accepted then pure () else throw error : Block Unit).Spec discipline n (fun _ u => Done n u) t := by
    intro t ht htDone accepted
    cases accepted with
    | true => exact Spec.pure ht fun _ => htDone
    | false => exact Spec.throw ht fun _ => htDone
  refine Spec.read (run_readSystem s) ?_
  cases (s.commands n).proc with
  | none => exact hend s h hdone _
  | some proc =>
    dsimp only
    split
    · refine Spec.bind (spec_killProcess h proc) (fun _ t ht _ hadds hrely => ?_) fun _ t _ _ hadds hrely => ?_
      · exact hend t ht (hdone.of_rely hadds hrely) _
      · exact hdone.of_rely hadds hrely
    · exact hend s h hdone _

theorem Failing.done (h : Failing n s) (hinv : Inv s) (hlease : (s.commands n).lease = none)
    (hlost : s.Calm → ∀ (actor : Nat) (lease : HeldLease), (s.commands n).actor = some actor →
      (s.actors actor).lease = some lease → (s.commands n).generation = some (s.actors actor).turnGeneration →
      (s.commands n).proc ≠ some lease.process) : Done n s := by
  refine ⟨h.inside, h.running, fun hcalm => ⟨hlease, hinv.gone hcalm (fun actor hactor => ?_) (hlost hcalm)⟩⟩
  rw [h.inside] at hactor
  cases hactor

/-- A turn that has failed is ended in the queue of its actor. -/
theorem safe_failTurn {operation : JsString} {proc : Nat} (h : Inv s) (hfailing : Failing n s)
    (hlease : (s.commands n).lease = none) (hactor : (s.commands n).actor = some a)
    (hproc : (s.commands n).proc = some proc) (ha : a < s.actorCount) :
    (enqueue n a operation (Coroutine.lift (failTurn a proc))).Safe discipline n (fun _ t => Done n t) s := by
  refine safe_enqueue (R := fun _ t => t.commands n = { s.commands n with inside := some a } ∧
    (t.Calm → (t.actors a).phase ≠ .ready) ∧ (t.Calm → (t.actors a).process ≠ some proc)) h ha hfailing.inside ?_ ?_ ?_
  · intro t _ ht hentered
    have hforking : (t.commands n).forking = false := by
      rw [hentered.command]
      exact hfailing.forking
    have hin : (t.commands n).inside = some a := by rw [hentered.command]
    refine Safe.lift ((spec_failTurn ht hin hforking hentered.notReady proc).mono ?_)
    rintro - u - - - ⟨hsettled, hlost⟩
    refine ⟨?_, hsettled.notReady, hlost⟩
    rw [hsettled.commands]
    exact hentered.command
  · rintro - t - - ⟨hcommand, hnotReady, -⟩
    refine ⟨by rw [hcommand], fun hforking => ?_, hnotReady⟩
    rw [hcommand] at hforking
    exact absurd hforking (by simp [hfailing.forking])
  · rintro - t u ht - - hadds ⟨hcommand, hnotReady, hlost⟩ hleft
    have hlocals : u.commands n = { s.commands n with inside := none, forking := false } := by
      rw [hleft.command, hcommand]
    refine ⟨by rw [hlocals], by rw [hlocals]; exact hfailing.running, fun hcalm => ⟨by rw [hlocals]; exact hlease, ?_⟩⟩
    have hbefore := Calm.of_adds hadds hcalm
    refine hleft.gone (ht.gone hbefore (fun actor hinside => ?_) fun actor lease hown htaken _ hsame => ?_)
    · rw [hcommand] at hinside
      cases hinside
      exact hnotReady hbefore
    · rw [hcommand] at hown hsame
      have hown : some a = some actor := hactor.symm.trans hown
      cases hown
      refine hlost hbefore ?_
      rw [SessionActor.process, htaken]
      exact hsame.symm.trans hproc ▸ rfl

theorem Inv.created_of_process (h : Inv s) {proc : Nat} (hproc : (s.actors a).process = some proc) :
    a < s.actorCount := by
  by_contra hout
  rw [h.registry.fresh a (Nat.not_lt.mp hout)] at hproc
  cases hproc

/-- The end of the error path of a prompt, where the actor of its turn is known. -/
theorem safe_abandonTurn {operation error : JsString} (h : Inv s) (hfailing : Failing n s)
    (hlease : (s.commands n).lease = none) (hactor : (s.commands n).actor = some a) :
    (do
      let s' ← readSystem
      match (s.commands n).proc with
      | none => abandonProcess n error
      | some proc =>
        if (s'.actors a).process = some proc then do
          enqueue n a operation (Coroutine.lift (failTurn a proc))
          let s' ← readSystem
          if timedOut error ∧ s'.pool.hasNoExitCode proc then killProcess n proc else pure ()
          if (s'.commands n).promptAccepted then pure () else throw (buildPromptFailureMessage error)
        else abandonProcess n error : Routine Unit).Safe discipline n (fun _ t => Done n t) s := by
  refine Safe.read (run_readSystem s) h ?_
  cases hproc : (s.commands n).proc with
  | none =>
    refine Safe.lift (spec_abandonProcess h (hfailing.done h hlease fun _ _ _ _ _ _ hsame => ?_) error)
    rw [hproc] at hsame
    cases hsame
  | some proc =>
    dsimp only
    split
    · rename_i howned
      refine safe_finish h (safe_failTurn h hfailing hlease hactor hproc (h.created_of_process howned)) fun _ t ht hdone => ?_
      refine Safe.read (run_readSystem t) ht ?_
      have hend : ∀ u, Inv u → Done n u →
          (if (t.commands n).promptAccepted then pure () else throw (buildPromptFailureMessage error) : Routine Unit).Safe
            discipline n (fun _ v => Done n v) u := by
        intro u _ hlater
        split
        · exact Safe.pure fun _ => hlater
        · exact Safe.throw fun _ => hlater
      split
      · exact Safe.liftBind (spec_killProcess ht proc) ht
          (fun _ u hu _ hadds hrely => hend u hu (hdone.of_rely hadds hrely)) fun _ u _ _ hadds hrely => hdone.of_rely hadds hrely
      · exact hend t ht hdone
    · rename_i hother
      refine Safe.lift (spec_abandonProcess h (hfailing.done h hlease fun _ b lease hown htaken _ hsame => ?_) error)
      rw [hactor] at hown
      cases hown
      rw [hproc] at hsame
      refine hother ?_
      rw [SessionActor.process, htaken]
      exact hsame.symm

/-- The error path of a prompt leaves nothing behind. -/
theorem safe_turnFailed (h : Inv s) (hfailing : Failing n s) (operation : JsString) (isNewSession : Bool)
    (error : JsString) :
    (turnFailed n operation isNewSession error).Safe discipline n (fun _ t => Done n t) s := by
  refine Safe.liftBind (spec_releaseHeld h hfailing.quiet) h ?_ ?_
  · rintro - t ht - - ⟨-, hcommand, -, -⟩
    have hlater : Failing n t := hfailing.later hcommand fun held hheld => by cases hheld
    have hlease : (t.commands n).lease = none := by rw [hcommand]
    refine Safe.read (run_readSystem t) ht ?_
    dsimp only
    cases hactor : (t.commands n).actor with
    | none =>
      refine Safe.lift (spec_abandonProcess ht (hlater.done ht hlease fun _ _ _ hown => ?_) error)
      rw [hactor] at hown
      cases hown
    | some actor =>
      dsimp only
      split
      · rename_i hnew
        have hdone : Done n t := hlater.done ht hlease fun _ b lease hown htaken => by
          rw [hactor] at hown
          cases hown
          exact absurd (by rw [SessionActor.isAttached, htaken]; rfl) hnew.2
        refine Safe.liftBind (spec_discardPending ht _) ht ?_ fun _ u _ _ hadds hresult => hdone.of_rely hadds hresult.1
        rintro - u hu - - ⟨hrely, -⟩
        have hsame := hrely.command
        rw [← hsame]
        refine safe_abandonTurn hu (hlater.of_rely hrely) ?_ ?_
        · rw [hsame]
          exact hlease
        · rw [hsame]
          exact hactor
      · exact safe_abandonTurn ht hlater hlease hactor
  · rintro failure t - - - ⟨hok, -⟩
    cases hok

end pipane.ws_handler.runtime

import Pipane.Server.WsHandler.Commands.Leasing

open async javascript pipane.process_pool pipane.session_actor pipane.session_jsonl pipane.session_registry
open async.Atomic (Spec Ends)

namespace pipane.ws_handler.runtime

variable {n a : Nat} {s t u : System}

/-- The state after an actor was created on demand. -/
def System.withActor (s : System) (sessionPath : JsString) : System :=
  { s.setActor s.actorCount (SessionActor.create sessionPath) with
    actorCount := s.actorCount + 1
    registry := { s.registry with actors := s.registry.actors.set sessionPath s.actorCount } }

theorem withActor_actors_self (s : System) (sessionPath : JsString) :
    (s.withActor sessionPath).actors s.actorCount = SessionActor.create sessionPath :=
  setActor_actors_self s s.actorCount _

theorem withActor_actors_of_ne (s : System) (sessionPath : JsString) (h : a ≠ s.actorCount) :
    (s.withActor sessionPath).actors a = s.actors a :=
  setActor_actors_of_ne s h _

theorem Inv.lease_fresh (h : Inv s) : (s.actors s.actorCount).lease = none := by
  rw [h.registry.fresh _ (Nat.le_refl _)]
  rfl

theorem Touches.withActor (h : Inv s) (n : Nat) (sessionPath : JsString) :
    Touches n s.actorCount s (s.withActor sessionPath) :=
  ⟨fun _ _ => rfl, fun _ hb => withActor_actors_of_ne s sessionPath hb, .inl h.lease_fresh, .refl s.pool, .refl s.pool,
    h.rpcs.requests, id, rfl, h.rpcs.sent, rfl⟩

theorem Inv.created_of_lease (h : Inv s) (hlease : (s.actors a).lease.isSome = true) : a < s.actorCount := by
  by_contra hout
  rw [h.registry.fresh a (Nat.not_lt.mp hout)] at hlease
  cases hlease

theorem Inv.withActor (h : Inv s) (sessionPath : JsString) : Inv (s.withActor sessionPath) := by
  have hheld : ∀ holder, (s.withActor sessionPath).heldBy holder = s.heldBy holder := by
    intro holder
    refine (heldBy_setActor s s.actorCount _ holder).trans ?_
    split
    · rename_i hholder
      rw [hholder, System.heldBy, h.lease_fresh]
      rfl
    · rfl
  have hlease : ∀ b, ((s.withActor sessionPath).actors b).lease = (s.actors b).lease := fun b => hheld (.actor b)
  have hold : ∀ {b : Nat}, b < s.actorCount → (s.withActor sessionPath).actors b = s.actors b := fun hb =>
    withActor_actors_of_ne s sessionPath (Nat.ne_of_lt hb)
  have hinside : ∀ m b, (s.commands m).inside = some b →
      ((s.withActor sessionPath).actors b).commandTail.head? = some m := by
    intro m b hm
    rw [hold (h.created hm)]
    exact h.inside m b hm
  refine h.touch (n := 0) (Touches.withActor h 0 sessionPath) (h.leases.frame hheld rfl rfl)
    ⟨fun proc b => ?_, fun other b hb => ?_, fun b hb => ?_, fun observer hobserver => Nat.lt_succ_of_lt (h.registry.observed observer hobserver)⟩
    ?_ (hinside 0) (fun m _ => hinside m s.actorCount)
    (fun proc hnone => h.rpcs.quiet proc fun holder lease hlease => hnone holder lease ((hheld holder).trans hlease))
    (.inl fun proc hproc => ?_) (fun _ hself hfork => .inr ⟨hself, hfork⟩) (fun hc => (h.calm hc).slot 0)
    fun _ b lease object hb _ _ hbefore => ?_
  · rw [SessionActor.process, hlease]
    exact h.registry.index proc b
  · change (s.registry.actors.set sessionPath s.actorCount).get? other = some b at hb
    rw [OrderedMap.get?_set] at hb
    split at hb
    · rename_i heq
      cases hb
      exact ⟨Nat.lt_succ_self _, by rw [withActor_actors_self, heq]; rfl⟩
    · obtain ⟨hlt, hpath⟩ := h.registry.paths other b hb
      exact ⟨Nat.lt_succ_of_lt hlt, by rw [hold hlt, hpath]⟩
  · change s.actorCount + 1 ≤ b at hb
    rw [withActor_actors_of_ne s sessionPath (by omega)]
    exact h.registry.fresh b (by omega)
  · rw [withActor_actors_self]
    exact ⟨rfl, ⟨fun _ => rfl, fun _ => rfl⟩, fun hphase => (by cases hphase), fun _ => rfl,
      fun _ => ⟨fun hphase => (by cases hphase), fun session hsession => (by cases hsession)⟩⟩
  · rw [SessionActor.process, hlease] at hproc
    exact hproc
  · rw [hlease] at hb
    rw [hold (h.created_of_lease (by rw [hb]; rfl))]
    exact (hbefore hb).2

theorem Rely.withActor (h : Inv s) (sessionPath : JsString) (m : Nat) : Rely m s (s.withActor sessionPath) := by
  have htouches := Touches.withActor h (m + 1) sessionPath
  refine htouches.rely (fun hinside => absurd (h.created hinside) (Nat.lt_irrefl _)) (htouches.gone h (.inr ?_))
    (Nat.ne_of_lt (Nat.lt_succ_self m))
  rw [withActor_actors_self]
  rfl

/-- The actor of a session. -/
structure Found (sessionPath : JsString) (actor : Nat) (s t : System) : Prop where
  created : actor < t.actorCount
  path : (t.actors actor).sessionPath = sessionPath
  commands : t.commands = s.commands
  pool : t.pool = s.pool

theorem Inv.found (h : Inv s) {sessionPath : JsString} {actor : Nat}
    (hfind : s.registry.find sessionPath = some actor) : Found sessionPath actor s s :=
  ⟨(h.registry.paths sessionPath actor hfind).1, (h.registry.paths sessionPath actor hfind).2, rfl, rfl⟩

theorem spec_getOrCreate (h : Inv s) (sessionPath : JsString) :
    (getOrCreate sessionPath).Spec discipline n
      (fun result t => ∃ actor, result = .ok actor ∧ Found sessionPath actor s t ∧ Rely n s t) s := by
  refine Spec.read (run_readSystem s) ?_
  cases hfind : s.registry.find sessionPath with
  | some actor => exact Spec.pure h fun _ => ⟨actor, rfl, h.found hfind, .refl n s⟩
  | none =>
    refine Ends.spec (R := fun result t => result = .ok s.actorCount ∧ t = s.withActor sessionPath) ⟨rfl, rfl⟩ ?_
    rintro result t - - ⟨rfl, rfl⟩
    refine ⟨h.withActor sessionPath, fun m _ => Rely.withActor h sessionPath m, s.actorCount, rfl, ⟨Nat.lt_succ_self _, ?_, rfl, rfl⟩,
      Rely.withActor h sessionPath n⟩
    rw [withActor_actors_self]
    rfl

theorem spec_getPending (h : Inv s) (sessionPath : JsString) :
    (getPending sessionPath).Spec discipline n
      (fun result t => ∃ actor, result = .ok actor ∧ Found sessionPath actor s t ∧ Rely n s t) s := by
  refine Spec.read (run_readSystem s) ?_
  cases hfind : s.registry.find sessionPath with
  | some actor => exact Spec.pure h fun _ => ⟨actor, rfl, h.found hfind, .refl n s⟩
  | none =>
    have hframe := Frame.statuses s s.registry.statuses (s.registry.pendingActors.set sessionPath ())
    refine Spec.seq (run_updateRegistry s _) (fun m _ => hframe.rely m) ?_
    refine (spec_getOrCreate (h.frame hframe) sessionPath).mono ?_
    rintro result t - - - ⟨actor, hresult, hfound, hrely⟩
    exact ⟨actor, hresult, ⟨hfound.created, hfound.path, hfound.commands, hfound.pool⟩, (hframe.rely n).trans hrely⟩

theorem Inv.setLocals (h : Inv s) {me : Command} (hlease : me.lease = (s.commands n).lease)
    (hinside : me.inside = (s.commands n).inside) (hforking : (s.commands n).forking = true → me.forking = true)
    (hfinished : me.finished = (s.commands n).finished) (hgeneration : me.generation = (s.commands n).generation)
    (hactor : me.actor = (s.commands n).actor ∨ (s.commands n).actor = none)
    (hproc : me.proc = (s.commands n).proc ∨ (s.commands n).generation = none) : Inv (s.setCommand n me) := by
  refine h.setCommand hlease (hinside ▸ h.inside n)
    (fun b hself hfork => .inr ⟨hinside.trans hself, hforking hfork⟩) (fun hcalm => ?_)
    fun _ _ b lease _ ⟨hrunning, hown, hturn⟩ => ⟨hfinished.trans hrunning, ?_, ?_⟩
  · rw [hlease, hfinished]
    exact (h.calm hcalm).slot n
  · refine hactor.elim (·.trans hown) fun hnone => ?_
    rw [hnone] at hown
    cases hown
  · rw [hinside, hgeneration]
    refine hturn.imp_right fun ⟨hactive, hsame, hprocess⟩ => ⟨hactive, hsame, hproc.elim (·.trans hprocess) fun hnone => ?_⟩
    rw [hnone] at hsame
    cases hsame

/-- A handler has looked the actor up that it will attach. -/
structure LookedUp (n : Nat) (sessionPath : JsString) (actor : Nat) (s t : System) : Prop where
  command : t.commands n = { s.commands n with actor := some actor }
  created : actor < t.actorCount
  path : (t.actors actor).sessionPath = sessionPath
  pool : t.pool = s.pool
  gone : s.Gone n → t.Gone n

theorem spec_lookUpActor (h : Inv s) (hactor : (s.commands n).actor = none) (sessionPath : JsString)
    (isNewSession : Bool) : (lookUpActor n sessionPath isNewSession).Spec discipline n
      (fun result t => ∃ actor, result = .ok actor ∧ LookedUp n sessionPath actor s t) s := by
  have hlook : ∀ {task : Block Nat}, task.Spec discipline n
      (fun result t => ∃ actor, result = .ok actor ∧ Found sessionPath actor s t ∧ Rely n s t) s → (do
        let actor ← task
        updateCommand n fun me => { me with actor := some actor }
        pure actor : Block Nat).Spec discipline n
        (fun result t => ∃ actor, result = .ok actor ∧ LookedUp n sessionPath actor s t) s := by
    intro task htask
    refine Spec.bind htask ?_ ?_
    · rintro value t ht - - ⟨actor, hvalue, hfound, hrely⟩
      cases hvalue
      have hcommand := congrFun hfound.commands n
      have hmid : Inv (t.setCommand n { t.commands n with actor := some value }) :=
        ht.setLocals rfl rfl id rfl rfl (.inr (by rw [hcommand]; exact hactor)) (.inl rfl)
      refine Spec.seq (run_updateCommand t n _) (fun m hm => Rely.setCommand t hm _) ?_
      refine Spec.pure hmid fun _ => ⟨value, rfl, ?_, hfound.created, hfound.path, hfound.pool, hrely.gone⟩
      rw [setCommand_commands_self, hcommand]
    · rintro error t - - - ⟨actor, herror, -⟩
      cases herror
  rw [lookUpActor]
  split
  · exact hlook (spec_getPending h sessionPath)
  · exact hlook (spec_getOrCreate h sessionPath)

/-- The state after the actor of a session was dropped. -/
def System.discarded (s : System) (sessionPath : JsString) : System :=
  { s with registry := { s.registry with
      pendingActors := s.registry.pendingActors.erase sessionPath
      actors := s.registry.actors.erase sessionPath } }

theorem Inv.discarded (h : Inv s) (sessionPath : JsString) : Inv (s.discarded sessionPath) := by
  refine h.same ⟨fun _ _ => rfl, fun _ _ => rfl, .inr rfl, .refl s.pool, .refl s.pool, h.rpcs.requests, id, rfl, h.rpcs.sent,
    rfl⟩ rfl rfl (h.leases.frame (fun holder => by cases holder <;> rfl) rfl rfl)
    ⟨h.registry.index, fun other actor hget => ?_, h.registry.fresh, h.registry.observed⟩
  change (s.registry.actors.erase sessionPath).get? other = some actor at hget
  rw [OrderedMap.get?_erase] at hget
  split at hget
  · cases hget
  · exact h.registry.paths other actor hget

theorem spec_discardPending (h : Inv s) (sessionPath : JsString) :
    (discardPending sessionPath).Spec discipline n (fun _ t => Rely n s t ∧ t.actors = s.actors) s := by
  refine Spec.read (run_readSystem s) ?_
  split
  · split
    · exact Spec.throw h fun _ => ⟨.refl n s, rfl⟩
    · have hrely : ∀ m, Rely m s (s.discarded sessionPath) := fun m =>
        ⟨rfl, fun actor _ => ⟨[], by rw [List.append_nil]; rfl⟩, fun proc _ => .refl s.pool proc, id⟩
      exact fun _ => ⟨h.discarded sessionPath, fun m _ => hrely m, hrely n, rfl⟩
  · exact Spec.pure h fun _ => ⟨.refl n s, rfl⟩

theorem ends_promotePending (s : System) (sessionPath : JsString) : (promotePending sessionPath).Ends (Notifies s) s := by
  refine Ends.seq (run_readSystem s) ?_
  split
  · refine Ends.seq (run_updateRegistry s _) ?_
    have hframe := Frame.statuses s s.registry.statuses (s.registry.pendingActors.erase sessionPath)
    split
    · split
      · exact (ends_publishAttached _ _).mono fun _ _ h => h.of_frame hframe
      · exact ⟨hframe, fun error herror => by cases herror⟩
    · exact ⟨hframe, fun error herror => by cases herror⟩
  · exact Notifies.pure s ()

/-- What is known where a handler has only written locals that decide nothing, and sent frames. -/
structure Noted (n : Nat) (me : Command) (s t : System) : Prop where
  command : t.commands n = me
  actors : t.actors = s.actors
  pool : t.pool = s.pool
  gone : s.Gone n → t.Gone n

theorem spec_publishCreated (h : Inv s) (promptStarted : Bool) :
    (publishCreated n promptStarted).Spec discipline n
      (fun _ t => ∃ sessionCreated, Noted n { s.commands n with sessionCreated } s t) s := by
  refine Spec.read (run_readSystem s) ?_
  dsimp only
  split
  · have hmid : Inv (s.setCommand n { s.commands n with sessionCreated := true }) :=
      h.setLocals rfl rfl id rfl rfl (.inl rfl) (.inl rfl)
    refine Spec.seq (run_updateCommand s n _) (fun m hm => Rely.setCommand s hm _) ?_
    have hends : (do
        promotePending (s.commands n).sessionPath
        sendMessage : Block Unit).Ends
        (fun _ t => Frame (s.setCommand n { s.commands n with sessionCreated := true }) t)
        (s.setCommand n { s.commands n with sessionCreated := true }) := by
      refine Ends.bind (ends_promotePending _ _) (fun _ t hnotifies => ?_) fun _ _ hnotifies => hnotifies.1
      exact (ends_sendMessage t).mono fun _ u hsends => hnotifies.1.trans hsends.1
    refine spec_frame hmid hends fun _ t hframe => ⟨hframe, fun _ => ⟨true, ?_, hframe.actors, hframe.pool, hframe.gone.mpr⟩⟩
    rw [hframe.commands, setCommand_commands_self]
  · exact Spec.pure h fun _ => ⟨(s.commands n).sessionCreated, rfl, rfl, rfl, id⟩

theorem spec_killProcess (h : Inv s) (proc : Nat) :
    (killProcess n proc).Spec discipline n (fun _ t => Rely n s t) s := by
  have hneutral := ProcessPool.Neutral.kill h.leases.valid h.rpcs.requests proc
  have hmid := h.neutral hneutral
  refine Ends.spec (R := fun _ t => Frame { s with pool := (s.pool.kill proc).2 } t)
    ⟨rfl, rfl, rfl, rfl, rfl, rfl, rfl, rfl, rfl, id, id, id, id⟩ fun _ t _ _ hframe => ?_
  exact ⟨hmid.frame hframe, fun m _ => (Rely.neutral h hneutral m).trans (hframe.rely m),
    (Rely.neutral h hneutral n).trans (hframe.rely n)⟩

theorem spec_finalizeProcess (h : Inv s) (proc : Nat) (exitCode : Option Int) (exits : Bool) :
    (finalizeProcess proc exitCode exits).Spec discipline n (fun _ t => Rely n s t) s := by
  have hneutral := ProcessPool.Neutral.finalizeProcess h.leases.valid h.rpcs.requests proc exitCode
  have hmid := h.neutral hneutral
  refine Spec.seq rfl (fun m _ => Rely.neutral h hneutral m) ?_
  split
  · refine (spec_signal hmid (.exited proc)).mono fun _ t _ _ _ hframe => ?_
    exact (Rely.neutral h hneutral n).trans (hframe.rely n)
  · exact Spec.pure hmid fun _ => Rely.neutral h hneutral n

theorem spec_joinTurn (h : Inv s) : (joinTurn n).Spec discipline n
    (fun result t => result = .ok () ∧ Frame s t ∧ (t.Calm → (s.commands n).lease = none)) s := by
  refine Spec.read (run_readCommand s n) ?_
  cases hlease : (s.commands n).lease with
  | none => exact Spec.pure h fun _ => ⟨rfl, .refl s, fun _ => rfl⟩
  | some lease =>
    refine spec_frame h (R := fun result t => result = .ok () ∧ Frame s t ∧ t.history.joinedTurn = true) ?_ ?_
    · exact ⟨rfl, ⟨rfl, rfl, rfl, rfl, rfl, rfl, rfl, rfl, rfl, id, id, fun _ => rfl, id⟩, rfl⟩
    · rintro result t ⟨hok, hframe, hjoined⟩
      refine ⟨hframe, fun _ => ⟨hok, hframe, fun hcalm => ?_⟩⟩
      have hquiet := hcalm.2.2
      rw [hjoined] at hquiet
      cases hquiet

end pipane.ws_handler.runtime

import Pipane.Server.WsHandler.Commands.Turns

open async javascript pipane.process_pool pipane.session_actor pipane.session_jsonl pipane.session_registry
open async.Atomic (Spec Ends)

namespace pipane.ws_handler.runtime

variable {n a : Nat} {s t u : System} {lease : HeldLease}

/-- A command has got a lease; nothing else that it relies on has changed. -/
structure Acquired (n : Nat) (lease : HeldLease) (s t : System) : Prop where
  command : t.commands n = { s.commands n with lease := some lease }
  actor : ∀ a, (s.commands n).inside = some a →
    ∃ more, t.actors a = { s.actors a with commandTail := (s.actors a).commandTail ++ more }
  answered : t.pool.Answered lease.process
  gone : s.Gone n → t.Gone n

theorem Acquired.of_rely (hrely : Rely n s t) (h : Acquired n lease t u) : Acquired n lease s u where
  command := by rw [h.command, hrely.command]
  actor a hinside := by
    obtain ⟨more, hmore⟩ := hrely.actor a hinside
    obtain ⟨rest, hrest⟩ := h.actor a (by rw [hrely.command, hinside])
    exact ⟨more ++ rest, by rw [hrest, hmore, List.append_assoc]⟩
  answered := h.answered
  gone := h.gone ∘ hrely.gone

/-- What a command gets from the pool, and what it keeps where it gets nothing. -/
def Acquires (n : Nat) (s : System) : Except JsString (Option HeldLease) → System → Prop
  | .ok (some lease), t => Acquired n lease s t
  | _, t => Rely n s t

/-- A call of the pool that may give a lease to the command. -/
theorem spec_keepLease {call : ProcessPool → Except JsString (Option Nat) × ProcessPool}
    {hcall : ∀ pool : ProcessPool, pool.Valid → pool.Keeps (call pool).2} (h : Inv s)
    (hreserves : s.pool.Reserves n (call s.pool)) (hnone : (s.commands n).lease = none)
    (hrunning : (s.commands n).finished = false) :
    (onPool call hcall >>= keepLease n).Spec discipline n (Acquires n s) s := by
  have hkeeps := hcall s.pool h.leases.valid
  obtain ⟨id, proc, hresult, hleases⟩ | ⟨hresult, huntouched, hobjects⟩ := hreserves
  · have hends : (onPool call hcall >>= keepLease n).Ends (fun result t => result = .ok (some ⟨id, proc⟩) ∧
        t = s.acquired (call s.pool).2 n ⟨id, proc⟩) s := by
      refine Ends.seq rfl ?_
      rw [hresult]
      refine Ends.seq (run_readSystem _) (Ends.seq (run_updateCommand _ n _) ⟨?_, ?_⟩)
      · simp [hleases.object_self]
      · simp [System.acquired, hleases.object_self]
    refine hends.spec ?_
    rintro - - - - ⟨rfl, rfl⟩
    refine ⟨h.acquired hnone hrunning hleases hkeeps, fun m hm => Rely.acquired h hm hleases hkeeps, ?_, fun b _ => ⟨[], ?_⟩,
      h.answered_acquired hleases hkeeps, ?_⟩
    · rw [System.acquired, setCommand_commands_self]
    · rw [List.append_nil]
      rfl
    · exact h.leases.gone (t := s.acquired (call s.pool).2 n ⟨id, proc⟩) hkeeps.2 fun _ _ hlease => hlease
  · have hneutral := huntouched.neutral h.rpcs.requests hkeeps hobjects
    have hends : (onPool call hcall >>= keepLease n).Ends (fun result t => (∀ lease, result ≠ .ok (some lease)) ∧
        t = { s with pool := (call s.pool).2 }) s := by
      refine Ends.seq rfl ?_
      cases hcase : (call s.pool).1 with
      | error error => exact ⟨fun lease herror => (by cases herror), rfl⟩
      | ok found =>
        cases found with
        | none => exact ⟨fun lease herror => (by cases herror), rfl⟩
        | some id => exact absurd hcase (hresult id)
    refine hends.spec ?_
    rintro result - - - ⟨hother, rfl⟩
    refine ⟨h.neutral hneutral, fun m _ => Rely.neutral h hneutral m, ?_⟩
    cases result with
    | error error => exact Rely.neutral h hneutral n
    | ok found =>
      cases found with
      | none => exact Rely.neutral h hneutral n
      | some lease => exact absurd rfl (hother lease)

theorem spec_acquire (h : Inv s) (hnone : (s.commands n).lease = none)
    (hrunning : (s.commands n).finished = false) (cwd : JsString) :
    (acquire n cwd).Spec discipline n (Acquires n s) s :=
  Spec.read (run_readSystem s)
    (spec_keepLease h (ProcessPool.reserves_acquire s.pool s.files.existsSync n cwd) hnone hrunning)

theorem spec_acquireAny (h : Inv s) (hnone : (s.commands n).lease = none)
    (hrunning : (s.commands n).finished = false) :
    (acquireAny n).Spec discipline n (Acquires n s) s :=
  spec_keepLease h (ProcessPool.reserves_acquireAny s.pool n) hnone hrunning

theorem spec_onPool {α : Type} {call : ProcessPool → α × ProcessPool}
    {hcall : ∀ pool : ProcessPool, pool.Valid → pool.Keeps (call pool).2} (h : Inv s)
    (hneutral : s.pool.Neutral (call s.pool).2) :
    (onPool call hcall).Spec discipline n (fun _ t => Rely n s t) s :=
  fun _ => ⟨h.neutral hneutral, fun m _ => Rely.neutral h hneutral m, Rely.neutral h hneutral n⟩

theorem spec_evictIdleDifferentCwd (h : Inv s) (cwd : JsString) :
    (evictIdleDifferentCwd cwd).Spec discipline n (fun _ t => Rely n s t) s :=
  spec_onPool h (ProcessPool.Neutral.evictIdleDifferentCwd h.leases.valid h.rpcs.requests cwd)

theorem spec_decommissionAll (h : Inv s) :
    decommissionAll.Spec discipline n (fun _ t => Rely n s t) s :=
  spec_onPool h (ProcessPool.Neutral.decommissionAll h.leases.valid h.rpcs.requests)

theorem spec_releaseHeld (h : Inv s)
    (hquiet : ∀ lease, (s.commands n).lease = some lease → s.pool.Quiet lease.process) :
    (releaseHeld n).Spec discipline n (fun result t => result = .ok () ∧
      t.commands n = { s.commands n with lease := none } ∧ t.actors = s.actors ∧ (s.Gone n → t.Gone n)) s := by
  refine Spec.read (run_readCommand s n) ?_
  cases hlease : (s.commands n).lease with
  | none =>
    refine Spec.pure h fun _ => ⟨rfl, ?_, rfl, id⟩
    rw [← hlease]
  | some lease =>
    have hmid := h.released hlease (hquiet lease hlease)
    refine Ends.spec (R := fun result t => result = .ok () ∧ t = s.released n lease) ⟨rfl, rfl⟩ ?_
    rintro result t - - ⟨rfl, rfl⟩
    refine ⟨hmid, fun m hm => Rely.released h hm lease, rfl, ?_, rfl, ?_⟩
    · rw [System.released, setCommand_commands_self]
    · exact h.leases.gone (t := s.released n lease) (h.leases.valid.releaseLease lease.id).2 fun _ _ htaken => htaken

/-- What is known of the actor and of the locals of a command that has given its lease to it. -/
structure Attaches (n a : Nat) (lease : HeldLease) (s t : System) : Prop where
  command : t.commands n = { s.commands n with lease := none }
  process : (t.actors a).process = some lease.process
  phase : (t.actors a).phase = .ready
  pool : t.pool = s.pool

theorem Attaches.of_frame {session : LiveSession} (hframe : Frame (s.attached n a lease session) t) :
    Attaches n a lease s t where
  command := by rw [hframe.commands, attached_commands_self]
  process := by
    rw [hframe.actors, attached_actors_self]
    rfl
  phase := by rw [hframe.actors, attached_actors_self]
  pool := hframe.pool

/-- The actor is attached and the handler still has the lease in its locals. -/
def System.taken (s : System) (a : Nat) (lease : HeldLease) (session : LiveSession) : System :=
  (s.indexed a lease.process).setActor a
    { s.actors a with phase := .ready, lease := some lease, session := some session }

theorem Frame.dropLease {session : LiveSession} (h : Frame (s.taken a lease session) t) :
    Frame (s.attached n a lease session)
      (t.setCommand n { t.commands n with lease := none }) := by
  have hcommand : t.commands n = s.commands n := congrFun h.commands n
  rw [hcommand]
  exact h.setCommand n { s.commands n with lease := none }

theorem Frame.process_taken {session : LiveSession} (h : Frame (s.taken a lease session) t) :
    (t.actors a).process = some lease.process := by
  rw [h.actors, System.taken, setActor_actors_self]
  rfl

theorem run_createSessionState (s : System) (a : Nat) : (createSessionState a).run s = (.ok {
    steeringQueue := []
    model := (s.files.readSessionFromDisk (s.actors a).sessionPath).1
    thinkingLevel := (s.files.readSessionFromDisk (s.actors a).sessionPath).2 }, s) := rfl

theorem run_dropLease (s : System) (n : Nat) : (dropLease n).run s =
    (.ok (), s.setCommand n { s.commands n with lease := none }) := rfl

/-- A handler gives its lease to a detached actor, even where a listener throws. -/
theorem ends_attachOwned (hphase : (s.actors a).phase = .detached) (hnone : (s.actors a).lease = none) :
    (attachOwned n a lease).Ends (fun result t => ∃ session : LiveSession, session.steeringQueue = [] ∧
      Frame (s.attached n a lease session) t ∧ ∀ error, result = .error error → ¬ t.Calm) s := by
  refine Ends.seq (run_createSessionState s a) ?_
  generalize hsession : LiveSession.mk [] _ _ = session
  have hqueue : session.steeringQueue = [] := by rw [← hsession]
  have hattach : (attach a lease session).Ends (Notifies (s.taken a lease session)) s := ends_attach hphase hnone
  refine Ends.bind (R := fun result t => match result with
    | .ok _ => Frame (s.taken a lease session) t
    | .error _ => Frame (s.attached n a lease session) t ∧ ¬ t.Calm) ?_ ?_ ?_
  · refine Ends.tryCatch hattach (fun _ t hnotifies => hnotifies.1) fun error t hnotifies => ?_
    refine Ends.seq (run_readActor t a) ?_
    rw [if_pos hnotifies.1.process_taken]
    refine Ends.seq (run_dropLease t n) ⟨hnotifies.1.dropLease, fun hcalm => ?_⟩
    exact hnotifies.sends.2 error rfl hcalm
  · intro _ t hframe
    exact ⟨session, hqueue, hframe.dropLease, fun error herror => by cases herror⟩
  · rintro error t ⟨hframe, hloud⟩
    exact ⟨session, hqueue, hframe, fun _ _ => hloud⟩

theorem spec_attachOwned (h : Inv s) (hin : (s.commands n).inside = some a)
    (hlease : (s.commands n).lease = some lease) (hnone : (s.actors a).lease = none)
    (hbound : s.pool.Bound lease.process (s.actors a).sessionPath)
    (hown : (s.commands n).actor = some a) :
    (attachOwned n a lease).Spec discipline n
      (fun result t => Attaches n a lease s t ∧ ∀ error, result = .error error → ¬ t.Calm) s := by
  refine (ends_attachOwned ((h.actors a).phase.mpr hnone) hnone).spec fun result t _ _ ⟨session, hqueue, hframe, hloud⟩ => ?_
  have hmid := h.attached hlease hnone hin hqueue hbound hown
  exact ⟨hmid.frame hframe, fun m hm => (Rely.attached h hlease hin hm).trans (hframe.rely m), .of_frame hframe, hloud⟩

/-- A handler gives its lease away in the next statement; where a listener throws before that, the run is noted. -/
theorem ends_attachUnowned (hphase : (s.actors a).phase = .detached) (hnone : (s.actors a).lease = none) :
    (attachUnowned n a lease).Ends (fun result t => t.history.attachThrew = true ∨ (result = .ok () ∧
      ∃ session : LiveSession, session.steeringQueue = [] ∧ Frame (s.attached n a lease session) t)) s := by
  refine Ends.seq (run_createSessionState s a) ?_
  generalize hsession : LiveSession.mk [] _ _ = session
  have hqueue : session.steeringQueue = [] := by rw [← hsession]
  have hattach : (attach a lease session).Ends (Notifies (s.taken a lease session)) s := ends_attach hphase hnone
  refine Ends.bind (R := fun result t => match result with
    | .ok _ => Frame (s.taken a lease session) t
    | .error _ => t.history.attachThrew = true) ?_ ?_ ?_
  · refine Ends.tryCatch hattach (fun _ t hnotifies => hnotifies.1) fun error t hnotifies => ?_
    refine Ends.seq (run_readActor t a) ?_
    rw [if_pos hnotifies.1.process_taken]
    exact Ends.seq rfl rfl
  · intro _ t hframe
    exact .inr ⟨rfl, session, hqueue, hframe.dropLease⟩
  · exact fun _ _ hthrew => .inl hthrew

theorem ends_attachUnowned_owned (howned : (s.actors a).phase ≠ .detached ∨ (s.actors a).isAttached = true)
    (hother : (s.actors a).process ≠ some lease.process) :
    (attachUnowned n a lease).Ends (fun result t => (∃ error, result = .error error) ∧ t = s) s := by
  refine Ends.seq (run_createSessionState s a) ?_
  refine Ends.bind (R := fun result t => (∃ error, result = .error error) ∧ t = s) ?_ ?_ ?_
  · refine Ends.tryCatch (ends_attach_owned howned) (fun _ t hresult => hresult) ?_
    rintro error t ⟨-, rfl⟩
    refine Ends.seq (run_readActor t a) ?_
    rw [if_neg hother]
    exact ⟨⟨error, rfl⟩, rfl⟩
  · rintro value t ⟨⟨error, herror⟩, -⟩
    cases herror
  · rintro error t ⟨-, rfl⟩
    exact ⟨⟨error, rfl⟩, rfl⟩

theorem LeasesOk.process_ne (h : LeasesOk s) (hlease : (s.commands n).lease = some lease) (b : Nat) :
    (s.actors b).process ≠ some lease.process := by
  intro hproc
  obtain ⟨taken, htaken, hprocess⟩ := Option.map_eq_some_iff.mp hproc
  have hsame := h.exclusive (.actor b) (.command n) taken lease htaken hlease hprocess
  cases hsame

theorem spec_attachUnowned (h : Inv s) (hin : (s.commands n).inside = some a)
    (hlease : (s.commands n).lease = some lease)
    (hbound : s.pool.Bound lease.process (s.actors a).sessionPath)
    (hown : (s.commands n).actor = some a) :
    (attachUnowned n a lease).Spec discipline n (fun result t => match result with
      | .ok _ => Attaches n a lease s t
      | .error _ => Rely n s t ∧ t = s) s := by
  by_cases howned : (s.actors a).phase ≠ .detached ∨ (s.actors a).isAttached = true
  · refine spec_frame h (ends_attachUnowned_owned howned (h.leases.process_ne hlease a)) ?_
    rintro result t ⟨⟨error, rfl⟩, rfl⟩
    exact ⟨.refl t, fun _ => ⟨.refl n t, rfl⟩⟩
  · rw [not_or, not_not] at howned
    have hnone : (s.actors a).lease = none := (h.actors a).phase.mp howned.1
    refine (ends_attachUnowned howned.1 hnone).spec fun result t hassume _ hresult => ?_
    obtain hthrew | ⟨rfl, session, hqueue, hframe⟩ := hresult
    · rw [show t.history.attachThrew = false from hassume] at hthrew
      cases hthrew
    · have hmid := h.attached hlease hnone hin hqueue hbound hown
      exact ⟨hmid.frame hframe, fun m hm => (Rely.attached h hlease hin hm).trans (hframe.rely m), .of_frame hframe⟩

end pipane.ws_handler.runtime

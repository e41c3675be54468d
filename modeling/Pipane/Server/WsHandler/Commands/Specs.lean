import Pipane.Server.WsHandler.Commands.Blocks

open async javascript pipane.process_pool pipane.session_actor pipane.session_jsonl pipane.session_registry
open async.Atomic (Spec Ends)

namespace pipane.ws_handler.runtime

variable {n a : Nat} {s t u : System}

section

variable {α : Type} {block : Block α} {R Q : Except JsString α → System → Prop}

theorem spec_via {mid : System} (hmid : Inv mid) (hrely : ∀ m, m ≠ n → Rely m s mid) (hends : block.Ends R s)
    (hR : ∀ result t, R result t → Frame mid t ∧ (Inv t → Q result t)) :
    block.Spec discipline n Q s := by
  refine hends.spec fun result t _ _ hresult => ?_
  obtain ⟨hframe, hQ⟩ := hR result t hresult
  have hinv := hmid.frame hframe
  exact ⟨hinv, fun m hm => (hrely m hm).trans (hframe.rely m), hQ hinv⟩

theorem spec_frame (h : Inv s) (hends : block.Ends R s)
    (hR : ∀ result t, R result t → Frame s t ∧ (Inv t → Q result t)) :
    block.Spec discipline n Q s :=
  spec_via h (fun m _ => Rely.refl m s) hends hR

end

theorem spec_sendMessage (h : Inv s) : sendMessage.Spec discipline n (Sends s) s :=
  spec_frame h (ends_sendMessage s) fun _ _ hsends => ⟨hsends.1, fun _ => hsends⟩

theorem spec_hostCall (h : Inv s) : hostCall.Spec discipline n (fun _ t => Frame s t) s :=
  spec_frame h (ends_hostCall s) fun _ _ hframe => ⟨hframe, fun _ => hframe⟩

theorem spec_signal (h : Inv s) (event : Signal) :
    (signal event).Spec discipline n (fun _ t => Frame s t) s := by
  refine spec_frame h (R := fun _ t => Frame s t) ?_ fun _ _ hframe => ⟨hframe, fun _ => hframe⟩
  exact Frame.signals s _

theorem Inv.session (h : Inv s) {lease : HeldLease} (hlease : (s.actors a).lease = some lease) :
    ∃ session, (s.actors a).session = some session := by
  have hsame := (h.actors a).session
  rw [hlease] at hsame
  exact Option.isSome_iff_exists.mp hsame

theorem Inv.attached_phase (h : Inv s) {lease : HeldLease} (hlease : (s.actors a).lease = some lease) :
    (s.actors a).phase ≠ .detached := by
  intro hphase
  rw [(h.actors a).phase.mp hphase] at hlease
  cases hlease

theorem Inv.indexed (h : Inv s) {lease : HeldLease} (hlease : (s.actors a).lease = some lease) :
    s.registry.actorsByProcess.get? lease.process = some a :=
  (h.registry.index lease.process a).mpr (by rw [SessionActor.process, hlease]; rfl)

/-- What is left of an actor's ownership after an attempt to release it. -/
structure Released (n a : Nat) (s t : System) : Prop where
  commands : t.commands = s.commands
  gone : s.Gone n → t.Gone n
  quiet : ∀ proc, s.pool.Quiet proc → t.pool.Quiet proc
  lease : t.Calm → (t.actors a).lease = none
  notReady : (t.actors a).phase ≠ .ready

theorem Released.of_frame {v : System} (h : Released n a s v) (hframe : Frame v t) : Released n a s t where
  commands := hframe.commands.trans h.commands
  gone := hframe.gone.mpr ∘ h.gone
  quiet proc hproc := by
    rw [hframe.pool]
    exact h.quiet proc hproc
  lease hcalm := by
    rw [hframe.actors]
    exact h.lease (hframe.calm hcalm)
  notReady := by
    rw [hframe.actors]
    exact h.notReady

theorem Released.detached (h : Inv s) (lease : HeldLease) (paths : OrderedMap JsString Nat) :
    Released n a s (s.detached a lease paths) where
  commands := rfl
  gone := h.gone_detached
  quiet proc := (ProcessPool.Untouched.releaseLease s.pool lease.id).quiet.mpr
  lease _ := by rw [detached_actors_self]
  notReady := by
    rw [detached_actors_self]
    exact fun hphase => by cases hphase

/-- A change of an actor, after which something has thrown, so that nothing is promised of calm runs. -/
theorem Inv.loud (h : Inv s) (hin : (s.commands n).inside = some a) (next : SessionActor)
    (hlease : next.lease = (s.actors a).lease) (hpath : next.sessionPath = (s.actors a).sessionPath)
    (htail : next.commandTail = (s.actors a).commandTail) (hok : ActorOk t.history.listenerThrew next)
    (hframe : Frame (s.setActor a next) t) (hloud : ¬ t.Calm) :
    Inv t ∧ (∀ m, m ≠ n → Rely m s t) ∧ (s.Gone n → t.Gone n) := by
  -- What was thrown is noted first, so that the actor need not be as calm runs have it.
  let noted : System := { s with history := t.history }
  have hnoted : Frame s noted := ⟨rfl, rfl, rfl, rfl, rfl, rfl, hframe.releases, hframe.rpcs, hframe.legal,
    hframe.listenerThrew, hframe.sendThrew, hframe.joinedTurn, id⟩
  have hlast : Frame (noted.setActor a next) t := ⟨hframe.pool, hframe.actors, hframe.actorCount, hframe.paths,
    hframe.index, hframe.commands, rfl, rfl, rfl, id, id, id, hframe.observed⟩
  have hbefore := h.frame hnoted
  have hmid : Inv (noted.setActor a next) :=
    hbefore.setActor (hbefore.created hin) hlease hpath (fun m hm => htail ▸ h.inside m a hm) hok
      fun hcalm => absurd hcalm hloud
  have hrely : ∀ m, m ≠ n → Rely m s (noted.setActor a next) := fun m hm =>
    (hnoted.rely m).trans (Rely.setActor hbefore hin hm hlease hpath)
  exact ⟨hmid.frame hlast, fun m hm => (hrely m hm).trans (hlast.rely m),
    fun hgone => hlast.gone.mpr (hbefore.gone_setActor hlease hpath (hnoted.gone.mpr hgone))⟩

theorem not_calm_of_threw (h : t.history.listenerThrew = true) : ¬ t.Calm := by
  intro hcalm
  have hquiet := hcalm.1
  rw [h] at hquiet
  cases hquiet

theorem Inv.stuck (h : Inv s) (hin : (s.commands n).inside = some a) {lease : HeldLease}
    (hlease : (s.actors a).lease = some lease) (hframe : Frame (s.stuck a) t) (hthrew : t.history.listenerThrew = true) :
    Inv t ∧ (∀ m, m ≠ n → Rely m s t) ∧ Released n a s t := by
  have hloud := not_calm_of_threw hthrew
  have hactor : t.actors a = (s.stuck a).actors a := congrFun hframe.actors a
  rw [System.stuck, setActor_actors_self] at hactor
  have hnext : ActorOk t.history.listenerThrew
      { s.actors a with phase := .releasing, turnEventCleanup := none, steeringQueue := [] } := by
    refine ⟨(h.actors a).session, ⟨fun hphase => ?_, fun hnone => ?_⟩, fun hphase => ?_, fun _ => rfl, fun hcalm => ?_⟩
    · cases hphase
    · rw [hlease] at hnone
      cases hnone
    · cases hphase
    · rw [hthrew] at hcalm
      cases hcalm
  obtain ⟨hinv, hrely, hgone⟩ :=
    h.loud hin { s.actors a with phase := .releasing, turnEventCleanup := none, steeringQueue := [] } rfl rfl rfl hnext hframe
      hloud
  refine ⟨hinv, hrely, hframe.commands, hgone, fun proc hproc => ?_, fun hcalm => absurd hcalm hloud, ?_⟩
  · rw [hframe.pool]
    exact hproc
  · rw [hactor]
    exact fun hphase => by cases hphase

theorem Inv.release (h : Inv s) (hin : (s.commands n).inside = some a) {lease : HeldLease}
    (hlease : (s.actors a).lease = some lease) (hquiet : s.pool.Quiet lease.process) (hleaves : Leaves s a lease t) :
    Inv t ∧ (∀ m, m ≠ n → Rely m s t) ∧ Released n a s t ∧
      ((s.actors a).steeringQueue = [] → (t.actors a).lease = none) := by
  obtain ⟨paths, hpaths, hframe⟩ | ⟨hqueue, hframe, hthrew⟩ := hleaves
  · have hmid := h.detached hlease (h.created hin) hpaths hquiet
    refine ⟨hmid.frame hframe, fun m hm => (Rely.detached h hin hm).trans (hframe.rely m),
      (Released.detached h lease paths).of_frame hframe, fun _ => ?_⟩
    rw [hframe.actors, detached_actors_self]
  · obtain ⟨hinv, hrely, hreleased⟩ := h.stuck hin hlease hframe hthrew
    exact ⟨hinv, hrely, hreleased, fun hempty => absurd hempty hqueue⟩

theorem ends_detach_none (hlease : (s.actors a).lease = none) : (detach a).Ends (fun result t => result = .ok () ∧ t = s) s := by
  refine Ends.seq (run_readActor s a) ?_
  rw [hlease]
  exact ⟨rfl, rfl⟩

theorem Released.of_none (h : Inv s) (hlease : (s.actors a).lease = none) : Released n a s s where
  commands := rfl
  gone := id
  quiet _ := id
  lease _ := hlease
  notReady hphase := by
    rw [(h.actors a).phase.mpr hlease] at hphase
    cases hphase

theorem spec_detach (h : Inv s) (hin : (s.commands n).inside = some a)
    (hquiet : ∀ lease, (s.actors a).lease = some lease → s.pool.Quiet lease.process) :
    (detach a).Spec discipline n
      (fun _ t => Released n a s t ∧ ((s.actors a).steeringQueue = [] → (t.actors a).lease = none)) s := by
  cases hlease : (s.actors a).lease with
  | none =>
    refine spec_frame h (ends_detach_none hlease) ?_
    rintro result t ⟨-, rfl⟩
    exact ⟨.refl t, fun _ => ⟨.of_none h hlease, fun _ => hlease⟩⟩
  | some lease =>
    obtain ⟨session, hsession⟩ := h.session hlease
    refine (ends_detach hlease hsession (h.attached_phase hlease) (h.indexed hlease)).spec fun result t _ _ hresult => ?_
    exact h.release hin hlease (hquiet lease hlease) hresult

theorem spec_releaseActor (h : Inv s) (hin : (s.commands n).inside = some a)
    (hquiet : ∀ lease, (s.actors a).lease = some lease → s.pool.Quiet lease.process) :
    (releaseActor a).Spec discipline n
      (fun _ t => Released n a s t ∧ ((s.actors a).steeringQueue = [] → (t.actors a).lease = none)) s := by
  refine (spec_detach h hin hquiet).bind ?_ fun _ _ _ _ _ hreleased => hreleased
  intro _ t ht _ _ ⟨hreleased, hnone⟩
  refine (spec_sendMessage ht).mono fun result u _ _ _ hsends => ⟨hreleased.of_frame hsends.1, fun hempty => ?_⟩
  rw [hsends.1.actors]
  exact hnone hempty

theorem run_markFailed (s : System) (a : Nat) : ∃ phase,
    (markFailed a).run s = (.ok (), s.setActor a { s.actors a with phase }) ∧
      (phase = .detached ↔ (s.actors a).phase = .detached) ∧ phase ≠ .ready ∧
      (phase = .attaching → (s.actors a).phase = .attaching) ∧
      (phase = .releasing → (s.actors a).phase = .releasing) := by
  simp only [markFailed, Atomic.run_bind, run_readActor]
  by_cases hphase : (s.actors a).phase = .detached ∨ (s.actors a).phase = .releasing ∨ (s.actors a).phase = .failed
  · rw [if_pos hphase]
    refine ⟨(s.actors a).phase, ?_, Iff.rfl, ?_, id, id⟩
    · rw [setActor_self]
      rfl
    · rintro hready
      rw [hready] at hphase
      simp at hphase
  · rw [if_neg hphase]
    rw [not_or, not_or] at hphase
    refine ⟨.failed, run_transition (.inr ?_), ⟨fun h => (by cases h), fun h => absurd h hphase.1⟩, fun h => (by cases h),
      fun h => (by cases h), fun h => (by cases h)⟩
    cases hcase : (s.actors a).phase with
    | detached => exact absurd hcase hphase.1
    | releasing => exact absurd hcase hphase.2.1
    | failed => exact absurd hcase hphase.2.2
    | _ => simp [LEGAL_TRANSITIONS]

/-- What is left of an actor by a command that gives it up if it has to. -/
structure Settled (n a : Nat) (s t : System) : Prop where
  commands : t.commands = s.commands
  gone : s.Gone n → t.Gone n
  notReady : t.Calm → (t.actors a).phase ≠ .ready

theorem Released.settled (h : Released n a s t) : Settled n a s t :=
  ⟨h.commands, h.gone, fun _ => h.notReady⟩

theorem Settled.refl (h : s.Calm → (s.actors a).phase ≠ .ready) : Settled n a s s :=
  ⟨rfl, id, h⟩

theorem Inv.failed (h : Inv s) (hin : (s.commands n).inside = some a) {lease : HeldLease}
    (hlease : (s.actors a).lease = some lease) {phase : SessionPhase}
    (hdetached : phase = .detached ↔ (s.actors a).phase = .detached) (hready : phase ≠ .ready)
    (hattaching : phase = .attaching → (s.actors a).phase = .attaching)
    (hreleasing : phase = .releasing → (s.actors a).phase = .releasing)
    (hframe : Frame (s.setActor a { s.actors a with phase }) t) (hloud : ¬ t.Calm) :
    Inv t ∧ (∀ m, m ≠ n → Rely m s t) ∧ Settled n a s t := by
  have hok := h.actors a
  have hattached := h.attached_phase hlease
  have hnext : ActorOk t.history.listenerThrew { s.actors a with phase } := by
    refine ⟨hok.session, hdetached.trans hok.phase, fun h => hok.attaching (hattaching h), fun hphase => ?_, fun hcalm => ?_⟩
    · obtain hphase | hphase := hphase
      · exact absurd (hdetached.mp hphase) hattached
      · exact absurd hphase hready
    · obtain ⟨hnot, hsame⟩ := (hok.mono hframe.listenerThrew).calm hcalm
      exact ⟨fun h => hnot (hreleasing h), hsame⟩
  obtain ⟨hinv, hrely, hgone⟩ := h.loud hin { s.actors a with phase } rfl rfl rfl hnext hframe hloud
  exact ⟨hinv, hrely, hframe.commands, hgone, fun hcalm => absurd hcalm hloud⟩

/-- An actor is marked as failed, something is sent, and it is released. -/
theorem spec_failed (notify : Block Unit) {lease : HeldLease} (h : Inv s) (hin : (s.commands n).inside = some a)
    (hlease : (s.actors a).lease = some lease) (hquiet : s.pool.Quiet lease.process)
    (hnotify : ∀ u, notify.Ends (Sends u) u) :
    (do
      markFailed a
      notify
      releaseActor a : Block Unit).Spec discipline n
      (fun _ t => Settled n a s t ∧ (t.Calm → (t.actors a).lease = none)) s := by
  obtain ⟨session, hsession⟩ := h.session hlease
  have hattached := h.attached_phase hlease
  obtain ⟨phase, hrun, hdetached, hready, hattaching, hreleasing⟩ := run_markFailed s a
  have hends : (do
      markFailed a
      notify
      releaseActor a : Block Unit).Ends (fun _ t => Leaves s a lease t ∨
        (Frame (s.setActor a { s.actors a with phase }) t ∧ ¬ t.Calm)) s := by
    refine Ends.seq hrun (Ends.bind (hnotify _) (fun _ v hsends => ?_) fun error v hsends => ?_)
    · have hactor : v.actors a = { s.actors a with phase } := by
        rw [hsends.1.actors, setActor_actors_self]
      have hends : (releaseActor a).Ends (fun _ t => Leaves v a lease t) v := by
        refine ends_releaseActor (by rw [hactor]; exact hlease) (by rw [hactor]; exact hsession) ?_ ?_
        · rw [hactor]
          exact fun hphase => hattached (hdetached.mp hphase)
        · rw [hsends.1.index]
          exact h.indexed hlease
      exact hends.mono fun _ t hleaves => .inl (hleaves.of_phase hsends.1)
    · exact .inr ⟨hsends.1, hsends.2 error rfl⟩
  refine hends.spec fun _ t _ _ hresult => ?_
  obtain hleaves | ⟨hframe, hloud⟩ := hresult
  · obtain ⟨hinv, hrely, hreleased, -⟩ := h.release hin hlease hquiet hleaves
    exact ⟨hinv, hrely, hreleased.settled, hreleased.lease⟩
  · obtain ⟨hinv, hrely, hsettled⟩ := h.failed hin hlease hdetached hready hattaching hreleasing hframe hloud
    exact ⟨hinv, hrely, hsettled, fun hcalm => absurd hcalm hloud⟩

theorem Inv.bound_inside (h : Inv s) (hin : (s.commands n).inside = some a)
    (hforking : (s.commands n).forking = false) {proc : Nat} (hproc : (s.actors a).process = some proc) :
    s.pool.Bound proc (s.actors a).sessionPath := by
  obtain hbound | ⟨m, hinside, hfork⟩ := h.rpcs.bound a proc hproc
  · exact hbound
  · rw [h.inside_unique hinside hin, hforking] at hfork
    cases hfork

theorem Inv.quiet_inside (h : Inv s) (hin : (s.commands n).inside = some a)
    (hforking : (s.commands n).forking = false) {lease : HeldLease} (hlease : (s.actors a).lease = some lease) :
    s.pool.Quiet lease.process :=
  h.rpcs.requests.quiet_of_answered (h.bound_inside hin hforking (by rw [SessionActor.process, hlease]; rfl)).1

theorem ends_injectSessionError (s : System) (a : Nat) : (injectSessionError a).Ends (Sends s) s := by
  refine Ends.seq (run_readActor s a) ?_
  split
  · exact ends_sendMessage s
  · exact ⟨.refl s, fun error herror => by cases herror⟩

theorem spec_failTurn (h : Inv s) (hin : (s.commands n).inside = some a)
    (hforking : (s.commands n).forking = false) (hready : s.Calm → (s.actors a).phase ≠ .ready) (proc : Nat) :
    (failTurn a proc).Spec discipline n
      (fun _ t => Settled n a s t ∧ (t.Calm → (t.actors a).process ≠ some proc)) s := by
  refine Spec.read (run_readActor s a) ?_
  split
  · rename_i hother
    exact Spec.pure h fun _ => ⟨.refl hready, fun _ => hother⟩
  · rename_i hsame
    obtain ⟨lease, hlease, -⟩ := Option.map_eq_some_iff.mp (not_not.mp hsame)
    refine (spec_failed (injectSessionError a) h hin hlease (h.quiet_inside hin hforking hlease) fun u => ends_injectSessionError u a).mono ?_
    rintro - u - - - ⟨hsettled, hnone⟩
    refine ⟨hsettled, fun hcalm hproc => ?_⟩
    rw [SessionActor.process, hnone hcalm] at hproc
    cases hproc

theorem spec_exitTurn (h : Inv s) (hin : (s.commands n).inside = some a)
    (hforking : (s.commands n).forking = false) (hready : s.Calm → (s.actors a).phase ≠ .ready) (proc : Nat) :
    (exitTurn a proc).Spec discipline n (fun _ t => Settled n a s t) s := by
  refine Spec.read (run_readActor s a) ?_
  split
  · exact Spec.pure h fun _ => .refl hready
  · rename_i hsame
    obtain ⟨lease, hlease, -⟩ := Option.map_eq_some_iff.mp (not_not.mp hsame)
    have hspec := spec_failed (Pure.pure ()) h hin hlease (h.quiet_inside hin hforking hlease)
      fun u => ⟨.refl u, fun error herror => by cases herror⟩
    exact hspec.mono fun _ _ _ _ _ hresult => hresult.1

theorem spec_hardKill (h : Inv s) (hin : (s.commands n).inside = some a)
    (hforking : (s.commands n).forking = false) (hready : s.Calm → (s.actors a).phase ≠ .ready) :
    (hardKill a).Spec discipline n (fun _ t => Settled n a s t) s := by
  refine Spec.read (run_readActor s a) ?_
  cases hproc : (s.actors a).process with
  | none => exact Spec.pure h fun _ => .refl hready
  | some proc =>
    have hneutral := ProcessPool.Neutral.forceKill h.leases.valid h.rpcs.requests proc
    refine Spec.seq rfl (fun m _ => Rely.neutral h hneutral m) ?_
    have hkilled := h.neutral hneutral
    obtain ⟨lease, hlease, -⟩ := Option.map_eq_some_iff.mp hproc
    have hspec := spec_failed (Pure.pure ()) hkilled hin hlease (hkilled.quiet_inside hin hforking hlease)
      fun v => ⟨.refl v, fun error herror => by cases herror⟩
    refine hspec.mono fun _ v _ _ _ hresult => ⟨hresult.1.commands, fun hgone => hresult.1.gone ?_, hresult.1.notReady⟩
    exact (Rely.neutral h hneutral n).gone hgone

end pipane.ws_handler.runtime

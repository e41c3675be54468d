import Pipane.Lib.Async.Ends
import Pipane.Server.WsHandler.Commands.Ownership

open async javascript pipane.process_pool pipane.session_actor pipane.session_jsonl pipane.session_registry
open async.Atomic (Ends)

namespace pipane.ws_handler.runtime

variable {n a : Nat} {s t u : System}

@[simp] theorem setActor_setActor (s : System) (a : Nat) (first next : SessionActor) :
    (s.setActor a first).setActor a next = s.setActor a next := by
  simp [System.setActor]

theorem setActor_self (s : System) (a : Nat) : s.setActor a (s.actors a) = s := by
  simp [System.setActor]

theorem run_readActor (s : System) (a : Nat) : (readActor a).run s = (.ok (s.actors a), s) := rfl

theorem run_readCommand (s : System) (n : Nat) : (readCommand n).run s = (.ok (s.commands n), s) := rfl

theorem run_readSystem (s : System) : readSystem.run s = (.ok s, s) := rfl

theorem run_updateActor (s : System) (a : Nat) (update : SessionActor → SessionActor)
    (h : ∀ self, (update self).sessionPath = self.sessionPath ∧ self.turnGeneration ≤ (update self).turnGeneration) :
    (updateActor a update h).run s = (.ok (), s.setActor a (update (s.actors a))) := rfl

theorem run_updateCommand (s : System) (n : Nat) (update : Command → Command) :
    (updateCommand n update).run s = (.ok (), s.setCommand n (update (s.commands n))) := rfl

theorem run_updateRegistry (s : System) (update : SessionRegistry → SessionRegistry) :
    (updateRegistry update).run s = (.ok (), { s with registry := update s.registry }) := rfl

theorem run_transition {s : System} {a : Nat} {next : SessionPhase}
    (h : next = (s.actors a).phase ∨ next ∈ LEGAL_TRANSITIONS (s.actors a).phase) :
    (transition a next).run s = (.ok (), s.setActor a { s.actors a with phase := next }) := by
  simp only [transition, Atomic.run_bind, run_readActor]
  by_cases hsame : next = (s.actors a).phase
  · rw [if_pos hsame, hsame, setActor_self]
    rfl
  · rw [if_neg hsame, if_pos (h.resolve_left hsame)]
    rfl

theorem Frame.setActor (h : Frame s t) (a : Nat) (next : SessionActor) : Frame (s.setActor a next) (t.setActor a next) :=
  ⟨h.pool, by simp only [System.setActor, h.actors], h.actorCount, h.paths, h.index, h.commands, h.releases, h.rpcs, h.legal,
    h.listenerThrew, h.sendThrew, h.joinedTurn, h.observed⟩

theorem Frame.setCommand (h : Frame s t) (n : Nat) (me : Command) : Frame (s.setCommand n me) (t.setCommand n me) :=
  ⟨h.pool, h.actors, h.actorCount, h.paths, h.index, by simp only [System.setCommand, h.commands], h.releases, h.rpcs,
    h.legal, h.listenerThrew, h.sendThrew, h.joinedTurn, h.observed⟩

/-- What a part of a handler does that only tells the listener of the registry something. -/
def Notifies (s : System) {α : Type} (result : Except JsString α) (t : System) : Prop :=
  Frame s t ∧ ∀ error, result = .error error → t.history.listenerThrew = true

/-- What a part of a handler does that only sends frames to clients. -/
def Sends (s : System) {α : Type} (result : Except JsString α) (t : System) : Prop :=
  Frame s t ∧ ∀ error, result = .error error → ¬ t.Calm

theorem Notifies.sends {α : Type} {result : Except JsString α} (h : Notifies s result t) : Sends s result t := by
  refine ⟨h.1, fun error herror hcalm => ?_⟩
  have hthrew := h.2 error herror
  rw [hcalm.1] at hthrew
  cases hthrew

theorem ends_notifyListener (s : System) : notifyListener.Ends (Notifies s) s := by
  refine ⟨⟨rfl, rfl, rfl, rfl, rfl, rfl, rfl, rfl, rfl, fun h => ?_, id, id, id⟩, fun error herror => ?_⟩
  · simp [notifyListener, sendFrames, h]
  · simp only [notifyListener, sendFrames] at herror ⊢
    split at herror
    · rename_i hfails
      simp [hfails]
    · cases herror

theorem ends_sendMessage (s : System) : sendMessage.Ends (Sends s) s := by
  refine ⟨⟨rfl, rfl, rfl, rfl, rfl, rfl, rfl, rfl, rfl, id, fun h => ?_, id, id⟩, fun error herror hcalm => ?_⟩
  · simp [sendMessage, sendFrames, h]
  · have hfailed := hcalm.2.1
    simp only [sendMessage, sendFrames] at hfailed herror
    split at herror
    · rename_i hfails
      simp [hfails] at hfailed
    · cases herror

theorem Notifies.pure {α : Type} (s : System) (value : α) : Notifies s (.ok value : Except JsString α) s :=
  ⟨.refl s, fun error herror => by cases herror⟩

theorem ends_hostCall (s : System) : hostCall.Ends (fun _ t => Frame s t) s :=
  ⟨rfl, rfl, rfl, rfl, rfl, rfl, rfl, rfl, rfl, id, id, id, id⟩

theorem Frame.statuses (s : System) (statuses : OrderedMap JsString SessionRuntimeStatus)
    (pendingActors : OrderedMap JsString Unit) : Frame s { s with registry := { s.registry with statuses, pendingActors } } :=
  ⟨rfl, rfl, rfl, rfl, rfl, rfl, rfl, rfl, rfl, id, id, id, id⟩

theorem Frame.signals (s : System) (signals : List Signal) : Frame s { s with signals } :=
  ⟨rfl, rfl, rfl, rfl, rfl, rfl, rfl, rfl, rfl, id, id, id, id⟩

theorem System.Observed.modify (h : s.Observed) (observer : Nat) {update : TurnEventObserver → TurnEventObserver}
    (hupdate : ∀ forwarding, (update forwarding).actor = forwarding.actor) :
    ∀ forwarding ∈ s.observers.modify observer update, forwarding.actor < s.actorCount := by
  intro forwarding hforwarding
  obtain ⟨i, hi⟩ := List.getElem?_of_mem hforwarding
  rw [List.getElem?_modify] at hi
  obtain ⟨before, hbefore, rfl⟩ := Option.map_eq_some_iff.mp hi
  have hlt := h before (List.mem_of_getElem? hbefore)
  split
  · rw [hupdate]
    exact hlt
  · exact hlt

theorem Frame.observer (s : System) (observer : Nat) {update : TurnEventObserver → TurnEventObserver}
    (hupdate : ∀ forwarding, (update forwarding).actor = forwarding.actor) :
    Frame s { s with observers := s.observers.modify observer update } :=
  ⟨rfl, rfl, rfl, rfl, rfl, rfl, rfl, rfl, rfl, id, id, id, fun h => h.modify observer hupdate⟩

theorem Notifies.of_frame {α : Type} {result : Except JsString α} (hframe : Frame s t) (h : Notifies t result u) :
    Notifies s result u :=
  ⟨hframe.trans h.1, h.2⟩

theorem ends_emitSteeringQueueUpdate (s : System) (a : Nat) : (emitSteeringQueueUpdate a).Ends (Notifies s) s := by
  refine Ends.seq (run_readSystem s) ?_
  split
  · exact ends_notifyListener s
  · exact Notifies.pure s ()

theorem ends_publishAttached (s : System) (a : Nat) : (publishAttached a).Ends (Notifies s) s := by
  refine Ends.seq (run_readActor s a) (Ends.seq (run_updateRegistry s _) ?_)
  exact (ends_notifyListener _).mono fun _ _ h => h.of_frame (Frame.statuses s _ _)

/-- The process index after an actor was attached. -/
def System.indexed (s : System) (a proc : Nat) : System :=
  { s with registry := { s.registry with actorsByProcess := s.registry.actorsByProcess.set proc a } }

theorem ends_emitAttached (s : System) (a proc : Nat) : (emitAttached a proc).Ends (Notifies (s.indexed a proc)) s := by
  refine Ends.seq (run_updateRegistry s _) (Ends.seq (run_readSystem _) ?_)
  split
  · exact Notifies.pure _ ()
  · exact ends_publishAttached _ a

theorem ends_attach {lease : HeldLease} {session : LiveSession} (hphase : (s.actors a).phase = .detached)
    (hlease : (s.actors a).lease = none) : (attach a lease session).Ends
      (Notifies ((s.indexed a lease.process).setActor a
        { s.actors a with phase := .ready, lease := some lease, session := some session })) s := by
  refine Ends.seq (run_readActor s a) ?_
  rw [if_neg (by simp [hphase, SessionActor.isAttached, hlease])]
  refine Ends.seq (run_transition (.inr (by simp [hphase, LEGAL_TRANSITIONS]))) ?_
  refine Ends.seq (run_updateActor _ a _ _) ?_
  refine Ends.seq (run_transition (.inr (by simp [LEGAL_TRANSITIONS]))) ?_
  refine (ends_emitAttached _ a lease.process).mono fun result t h => ?_
  simpa [System.indexed, System.setActor] using h

theorem ends_attach_owned {lease : HeldLease} {session : LiveSession}
    (h : (s.actors a).phase ≠ .detached ∨ (s.actors a).isAttached = true) :
    (attach a lease session).Ends (fun result t => (∃ error, result = .error error) ∧ t = s) s := by
  refine Ends.seq (run_readActor s a) ?_
  rw [if_pos h]
  exact ⟨⟨_, rfl⟩, rfl⟩

/-- The actors that stay in the registry when one of them is detached. -/
def System.staying (s : System) (a : Nat) : OrderedMap JsString Nat :=
  if s.registry.pendingActors.contains (s.actors a).sessionPath then s.registry.actors.erase (s.actors a).sessionPath
  else s.registry.actors

theorem ends_emitDetached {proc : Nat} (hindexed : s.registry.actorsByProcess.get? proc = some a) : (emitDetached a proc).Ends
    (Notifies { s with registry := { s.registry with
      actors := s.staying a
      actorsByProcess := s.registry.actorsByProcess.erase proc } }) s := by
  refine Ends.seq (run_readActor s a) (Ends.seq (run_updateRegistry s _)
    (Ends.seq (run_readSystem _) ?_))
  rw [if_pos hindexed, System.staying]
  by_cases hpending : s.registry.pendingActors.contains (s.actors a).sessionPath
  · rw [if_pos hpending, if_pos hpending]
    exact ⟨Frame.statuses _ _ _, fun error herror => by cases herror⟩
  · rw [if_neg hpending, if_neg hpending]
    refine Ends.seq (run_updateRegistry _ _) ?_
    exact (ends_notifyListener _).mono fun _ _ h => h.of_frame (Frame.statuses _ _ _)

theorem run_releaseLease (s : System) (lease : HeldLease) : (releaseLease lease).run s = (.ok (), { s with
    pool := s.pool.releaseLease lease.id
    history := { s.history with releases := s.history.releases ++ [lease.id] } }) := rfl

theorem releasing_legal {phase : SessionPhase} (h : phase ≠ .detached) :
    .releasing = phase ∨ .releasing ∈ LEGAL_TRANSITIONS phase := by
  cases phase with
  | detached => exact absurd rfl h
  | releasing => exact .inl rfl
  | _ => exact .inr (by simp [LEGAL_TRANSITIONS])

theorem run_updateObserver (s : System) (observer : Nat) (update : TurnEventObserver → TurnEventObserver) :
    (updateObserver observer update).run s = (.ok (), { s with observers := s.observers.modify observer update }) := rfl

/-- The state in which a listener that throws leaves an actor that was to be released. -/
def System.stuck (s : System) (a : Nat) : System :=
  s.setActor a { s.actors a with phase := .releasing, turnEventCleanup := none, steeringQueue := [] }

/-- An actor has given its lease back; it stays in the registry or it does not. -/
def Detaches (s : System) (a : Nat) (lease : HeldLease) (t : System) : Prop :=
  ∃ paths, (paths = s.registry.actors ∨ paths = s.registry.actors.erase (s.actors a).sessionPath) ∧
    Frame (s.detached a lease paths) t

/-- What `detach` makes of an attached actor. -/
def Leaves (s : System) (a : Nat) (lease : HeldLease) (t : System) : Prop :=
  Detaches s a lease t ∨
    ((s.actors a).steeringQueue ≠ [] ∧ Frame (s.stuck a) t ∧ t.history.listenerThrew = true)

theorem Leaves.of_frame {lease : HeldLease} (h : Leaves s a lease t) (hframe : Frame t u) : Leaves s a lease u := by
  obtain ⟨paths, hpaths, hbefore⟩ | ⟨hqueue, hbefore, hthrew⟩ := h
  · exact .inl ⟨paths, hpaths, hbefore.trans hframe⟩
  · exact .inr ⟨hqueue, hbefore.trans hframe, hframe.listenerThrew hthrew⟩

theorem Frame.detached (h : Frame s t) (a : Nat) (lease : HeldLease) (paths : OrderedMap JsString Nat) :
    Frame (s.detached a lease paths) (t.detached a lease paths) := by
  refine ⟨?_, ?_, h.actorCount, rfl, ?_, h.commands, ?_, h.rpcs, h.legal, h.listenerThrew, h.sendThrew, h.joinedTurn,
    h.observed⟩
  · simp only [System.detached, h.pool]
  · simp only [System.detached, System.setActor, h.actors]
  · simp only [System.detached, h.index]
  · simp only [System.detached, h.releases]

theorem grows_emptied (self : SessionActor) :
    ({ self with lease := none, session := none } : SessionActor).sessionPath = self.sessionPath ∧
      self.turnGeneration ≤ ({ self with lease := none, session := none } : SessionActor).turnGeneration :=
  ⟨rfl, Nat.le_refl _⟩

/-- The end of `detach`, after the queue of the actor was cleared. -/
def giveUp (a : Nat) (lease : HeldLease) : Block Unit := do
  updateActor a (fun self => { self with lease := none, session := none }) grows_emptied
  releaseLease lease
  transition a .detached
  emitDetached a lease.process

theorem ends_giveUp {lease : HeldLease} (hphase : (s.actors a).phase = .releasing)
    (hqueue : (s.actors a).steeringQueue = []) (hcleanup : (s.actors a).turnEventCleanup = none)
    (hindex : s.registry.actorsByProcess.get? lease.process = some a) :
    (giveUp a lease).Ends (fun _ t => Detaches s a lease t) s := by
  refine Ends.seq (run_updateActor s a _ _) (Ends.seq (run_releaseLease _ lease) ?_)
  refine Ends.seq (run_transition (.inr (by simp [System.setActor, hphase, LEGAL_TRANSITIONS]))) ?_
  refine (ends_emitDetached (by exact hindex)).mono fun result t h => ⟨s.staying a, ?_, ?_⟩
  · rw [System.staying]
    split
    · exact .inr rfl
    · exact .inl rfl
  · have hframe := h.1
    simpa [System.detached, System.staying, System.setActor, hqueue, hcleanup] using hframe

theorem Detaches.of_stuck {lease : HeldLease} {v : System} (hframe : Frame (s.stuck a) v) (h : Detaches v a lease t) :
    Detaches s a lease t := by
  obtain ⟨paths, hpaths, hlast⟩ := h
  have hpath : (v.actors a).sessionPath = (s.actors a).sessionPath := by
    rw [hframe.actors, System.stuck, setActor_actors_self]
  refine ⟨paths, ?_, .trans ?_ hlast⟩
  · rw [hframe.paths, hpath] at hpaths
    exact hpaths
  · have hsame : (s.stuck a).detached a lease paths = s.detached a lease paths := by
      simp [System.detached, System.stuck, System.setActor]
    rw [← hsame]
    exact hframe.detached a lease paths

theorem Leaves.of_phase {lease : HeldLease} {phase : SessionPhase} {v : System}
    (hframe : Frame (s.setActor a { s.actors a with phase }) v) (h : Leaves v a lease t) : Leaves s a lease t := by
  have hactor : v.actors a = { s.actors a with phase } := by
    rw [hframe.actors, setActor_actors_self]
  have hstuck : Frame (s.stuck a) (v.stuck a) := by
    have hsame := hframe.setActor a { v.actors a with phase := .releasing, turnEventCleanup := none, steeringQueue := [] }
    rw [setActor_setActor, hactor] at hsame
    rw [System.stuck, System.stuck, hactor]
    exact hsame
  obtain ⟨paths, hpaths, hlast⟩ | ⟨hqueue, hlast, hthrew⟩ := h
  · refine .inl ⟨paths, ?_, .trans ?_ hlast⟩
    · rw [hframe.paths, hactor] at hpaths
      exact hpaths
    · have hsame : (s.setActor a { s.actors a with phase }).detached a lease paths = s.detached a lease paths := by
        simp [System.detached, System.setActor]
      rw [← hsame]
      exact hframe.detached a lease paths
  · rw [hactor] at hqueue
    exact .inr ⟨hqueue, hstuck.trans hlast, hthrew⟩

theorem ends_detach {lease : HeldLease} {session : LiveSession} (hlease : (s.actors a).lease = some lease)
    (hsession : (s.actors a).session = some session) (hphase : (s.actors a).phase ≠ .detached)
    (hindex : s.registry.actorsByProcess.get? lease.process = some a) :
    (detach a).Ends (fun _ t => Leaves s a lease t) s := by
  refine Ends.seq (run_readActor s a) ?_
  rw [hlease, hsession]
  refine Ends.seq (run_transition (releasing_legal hphase)) ?_
  have hgive : ∀ v, Frame (s.stuck a) v → (giveUp a lease).Ends (fun _ t => Detaches s a lease t) v := by
    intro v hframe
    have hactor : v.actors a = (s.stuck a).actors a := congrFun hframe.actors a
    rw [System.stuck, setActor_actors_self] at hactor
    refine (ends_giveUp ?_ ?_ ?_ (hframe.index ▸ hindex)).mono fun result t h => h.of_stuck hframe <;> rw [hactor]
  have hrest : ∀ observers, (s.Observed → ∀ observer ∈ observers, observer.actor < s.actorCount) → (do
      updateActor a fun self => { self with turnEventCleanup := none }
      if (s.actors a).steeringQueue = [] then giveUp a lease
      else do
        updateActor a fun self => { self with steeringQueue := [] }
        emitSteeringQueueUpdate a
        giveUp a lease : Block Unit).Ends
      (fun _ t => Leaves s a lease t) { s.setActor a { s.actors a with phase := .releasing } with observers } := by
    intro observers hobserved
    refine Ends.seq (run_updateActor _ a _ _) ?_
    by_cases hqueue : (s.actors a).steeringQueue = []
    · rw [if_pos hqueue]
      refine (hgive _ ?_).mono fun result t => .inl
      exact ⟨rfl, by simp [System.stuck, System.setActor, hqueue], rfl, rfl, rfl, rfl, rfl, rfl, rfl, id, id, id, hobserved⟩
    · rw [if_neg hqueue]
      refine Ends.seq (run_updateActor _ a _ _) (Ends.bind (ends_emitSteeringQueueUpdate _ a) ?_ ?_)
      · rintro - v ⟨hframe, -⟩
        refine (hgive v (.trans ?_ hframe)).mono fun result t => .inl
        exact ⟨rfl, by simp [System.stuck, System.setActor], rfl, rfl, rfl, rfl, rfl, rfl, rfl, id, id, id, hobserved⟩
      · rintro error v ⟨hframe, hthrew⟩
        refine .inr ⟨hqueue, .trans ?_ hframe, hthrew error rfl⟩
        exact ⟨rfl, by simp [System.stuck, System.setActor], rfl, rfl, rfl, rfl, rfl, rfl, rfl, id, id, id, hobserved⟩
  cases hcleanup : (s.actors a).turnEventCleanup with
  | none => exact hrest s.observers id
  | some observer => exact Ends.seq (run_updateObserver _ observer _) (hrest _ fun h => h.modify observer fun _ => rfl)

theorem ends_releaseActor {lease : HeldLease} {session : LiveSession} (hlease : (s.actors a).lease = some lease)
    (hsession : (s.actors a).session = some session) (hphase : (s.actors a).phase ≠ .detached)
    (hindex : s.registry.actorsByProcess.get? lease.process = some a) :
    (releaseActor a).Ends (fun _ t => Leaves s a lease t) s := by
  refine Ends.bind (ends_detach hlease hsession hphase hindex) (fun _ t hleaves => ?_) fun _ _ hleaves => hleaves
  exact (ends_sendMessage t).mono fun _ u hsends => hleaves.of_frame hsends.1

end pipane.ws_handler.runtime

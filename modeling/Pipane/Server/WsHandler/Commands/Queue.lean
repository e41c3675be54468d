import Pipane.Server.WsHandler.Commands.Registry

open async javascript pipane.process_pool pipane.session_actor pipane.session_jsonl pipane.session_registry
open async.Coroutine (Safe)

namespace pipane.ws_handler.runtime

variable {n a : Nat} {s t u : System}

/-- What a command knows when it reaches the head of the queue of an actor. -/
structure Entered (n a : Nat) (s t : System) : Prop where
  command : t.commands n = { s.commands n with inside := some a }
  process : ∀ proc, Guards n proc s → s.pool.Undisturbed t.pool proc
  gone : s.Gone n → t.Gone n
  notReady : t.Calm → (t.actors a).phase ≠ .ready

/-- What a command has to see to before it leaves the queue of an actor. -/
structure Leaving (n a : Nat) (t : System) : Prop where
  inside : (t.commands n).inside = some a
  forking : (t.commands n).forking = true → (t.actors a).lease = none
  notReady : t.Calm → (t.actors a).phase ≠ .ready

/-- What a command knows after it has left the queue. -/
structure Left (n : Nat) (t u : System) : Prop where
  command : u.commands n = { t.commands n with inside := none, forking := false }
  process : ∀ lease, (t.commands n).lease = some lease → t.pool.Undisturbed u.pool lease.process
  gone : t.Gone n → u.Gone n

theorem Inv.notReady_head (h : Inv s) (hhead : (s.actors a).commandTail.head? = some n)
    (hinside : (s.commands n).inside = none) (hcalm : s.Calm) : (s.actors a).phase ≠ .ready := by
  intro hready
  have hattached : (s.actors a).lease ≠ none := by
    intro hnone
    rw [(h.actors a).phase.mpr hnone] at hready
    cases hready
  obtain ⟨lease, hlease⟩ := Option.ne_none_iff_exists'.mp hattached
  obtain ⟨object, hobject, -⟩ := h.leases.object (.actor a) lease hlease
  obtain ⟨-, -, ⟨-, hother⟩ | ⟨hactive, -⟩⟩ := (h.calm hcalm).attached a lease object hlease hobject
  · have hsame := (h.inside _ a hother).symm.trans hhead
    rw [Option.some.inj hsame, hinside] at hother
    cases hother
  · rw [isTurnActive_iff, hready] at hactive
    simp at hactive

theorem Adds.setActor (s : System) (a : Nat) (next : SessionActor) (hpath : next.sessionPath = (s.actors a).sessionPath)
    (hgeneration : next.turnGeneration = (s.actors a).turnGeneration) : Adds s (s.setActor a next) := by
  refine Adds.frame rfl rfl (Nat.le_refl _) fun b _ => ⟨path_setActor s hpath b, ?_⟩
  obtain rfl | hb := eq_or_ne b a
  · rw [setActor_actors_self, hgeneration]
  · rw [setActor_actors_of_ne s hb]

theorem Adds.setCommand (s : System) (n : Nat) (me : Command) : Adds s (s.setCommand n me) :=
  Adds.frame rfl rfl (Nat.le_refl _) fun _ _ => ⟨rfl, Nat.le_refl _⟩

/-- What a command does in its turn in the queue of an actor. -/
theorem safe_enqueue {α : Type} {operation : JsString} {body : Routine α} {R Q : Except JsString α → System → Prop}
    (h : Inv s) (ha : a < s.actorCount) (hinside : (s.commands n).inside = none)
    (hbody : ∀ t, Adds s t → Inv t → Entered n a s t → body.Safe discipline n R t)
    (hleave : ∀ result t, Inv t → Adds s t → R result t → Leaving n a t)
    (hQ : ∀ result t u, Inv t → Inv u → Adds s t → Adds t u → R result t → Left n t u →
      Q (named operation result) u) :
    (enqueue n a operation body).Safe discipline n Q s := by
  have hjoined := h.joinQueue ha n
  refine Safe.seq (t := s.setActor a { s.actors a with commandTail := (s.actors a).commandTail ++ [n] }) rfl hjoined
    (fun m _ => Rely.joinQueue h m n a) ?_
  refine Safe.wait fun v hadds hrely hv _ hready => ?_
  have hhead : (v.actors a).commandTail.head? = some n := of_decide_eq_true hready
  have hvInside : (v.commands n).inside = none := by
    rw [hrely.command]
    exact hinside
  have hentered := hv.enterQueue hhead hvInside
  refine Safe.seq (t := v.setCommand n { v.commands n with inside := some a }) rfl hentered
    (fun m hm => Rely.setCommand v hm _) ?_
  have hadds : Adds s (v.setCommand n { v.commands n with inside := some a }) :=
    Adds.trans (Adds.setActor s a _ (by rfl) (by rfl)) (Adds.trans hadds (Adds.setCommand v n _))
  have hknown : Entered n a s (v.setCommand n { v.commands n with inside := some a }) := by
    refine ⟨?_, fun proc hguards => ?_, fun hgone => ?_, hv.notReady_head hhead hvInside⟩
    · rw [setCommand_commands_self, hrely.command]
      rfl
    · refine hrely.process proc (hguards.of_rely (Rely.joinQueue h n n a))
    · exact hrely.gone ((Rely.joinQueue h n n a).gone hgone)
  refine Safe.bind (R := fun result t => match result with
    | .ok result => R result t
    | .error _ => False) (Safe.attempt (hbody _ hadds hentered hknown) fun _ => hentered) (fun _ => hentered) ?_
    fun _ _ _ _ _ himpossible => himpossible.elim
  intro result t ht hassume hbodyAdds hresult
  have htAdds : Adds s t := hadds.trans hbodyAdds
  obtain ⟨hin, hforking, hnotReady⟩ := hleave result t ht htAdds hresult
  have hleft := ht.leaveQueue hin hforking hnotReady
  refine Safe.seq (t := t.leaveQueue n a) rfl hleft (fun m hm => Rely.leaveQueue ht hin hm) ?_
  have hleftAdds : Adds t (t.leaveQueue n a) := Adds.trans (Adds.setActor t a _ (by rfl) (by rfl)) (Adds.setCommand _ n _)
  refine Safe.wait fun w hwAdds hwRely hw _ _ => Safe.ofExcept fun _ => ?_
  have hcommand : (t.leaveQueue n a).commands n =
      { t.commands n with inside := none, forking := false } := setCommand_commands_self _ n _
  refine hQ result t w ht hw htAdds (hleftAdds.trans hwAdds) hresult ⟨?_, fun lease hlease => ?_, fun hgone => hwRely.gone ?_⟩
  · rw [hwRely.command, hcommand]
  · refine hwRely.process lease.process (.inl ⟨lease, ?_, rfl⟩)
    rw [hcommand]
    exact hlease
  · exact ht.gone_setActor (by rfl) (by rfl) hgone

end pipane.ws_handler.runtime

import Pipane.Client.WsAgentAdapter.Steering

open javascript transition pipane.session_actor

namespace pipane.ws_agent_adapter.steering

/-- The steers among commands. -/
def pendingSteers (outgoing : List Command) : List Entry :=
  outgoing.filterMap fun command =>
    match command with
    | .steer entry => some entry
    | .remove_steering _ _ => none

theorem pendingSteers_append (outgoing : List Command) (command : Command) :
    pendingSteers (outgoing ++ [command]) = pendingSteers outgoing ++ pendingSteers [command] := by
  rw [pendingSteers, List.filterMap_append]
  rfl

/-- A client shows what it applied last and what it sent since, and each entry sent since is on its way to the server,
    was refused there, or has a snapshot to come. -/
structure Client.Accounts (refused : List Entry) (client : Client) : Prop where
  shown : client.steeringQueue = client.applied.getD [] ++ client.unconfirmed
  unconfirmed : ∀ entry ∈ client.unconfirmed, entry ∈ pendingSteers client.outgoing ∨ entry ∈ refused ∨
    client.changed = true ∨ ∃ steeringQueue, .session_sync steeringQueue ∈ client.incoming

namespace Client

variable {refused : List Entry} {client : Client}

theorem Accounts.enqueueSteering (h : client.Accounts refused) (entry : Entry) :
    (client.enqueueSteering entry).Accounts refused := by
  refine ⟨?_, ?_⟩
  · change client.steeringQueue ++ [entry] = client.applied.getD [] ++ (client.unconfirmed ++ [entry])
    rw [h.shown, List.append_assoc]
  · intro other hother
    have hsteers : pendingSteers (client.enqueueSteering entry).outgoing = pendingSteers client.outgoing ++ [entry] :=
      pendingSteers_append _ _
    rw [hsteers, List.mem_append]
    rcases List.mem_append.mp hother with hold | hnew
    · exact (h.unconfirmed other hold).imp_left .inl
    · exact .inl (.inr hnew)

theorem Accounts.removeSteering (h : client.Accounts refused) (index : Nat) :
    (client.removeSteering index).Accounts refused := by
  rw [Client.removeSteering]
  split
  · exact h
  · refine ⟨h.shown, fun entry hentry => ?_⟩
    rw [pendingSteers_append]
    exact (h.unconfirmed entry hentry).imp_left (List.mem_append_left _)

theorem Accounts.deliver (h : client.Accounts refused) : client.deliver.Accounts refused := by
  rw [Client.deliver]
  split
  · exact h
  · exact ⟨(List.append_nil _).symm, fun entry hentry => absurd hentry List.not_mem_nil⟩
  · rename_i steer success incoming hincoming
    refine ⟨h.shown, fun entry hentry => ?_⟩
    obtain hpending | hrefused | hchanged | ⟨steeringQueue, hsync⟩ := h.unconfirmed entry hentry
    · exact .inl hpending
    · exact .inr (.inl hrefused)
    · exact .inr (.inr (.inl hchanged))
    · rw [hincoming] at hsync
      rcases List.mem_cons.mp hsync with hresponse | hrest
      · cases hresponse
      · exact .inr (.inr (.inr ⟨steeringQueue, hrest⟩))

theorem Accounts.append (h : client.Accounts refused) (frames : List Frame) :
    Accounts refused { client with incoming := client.incoming ++ frames } := by
  refine ⟨h.shown, fun entry hentry => ?_⟩
  obtain hpending | hrefused | hchanged | ⟨steeringQueue, hsync⟩ := h.unconfirmed entry hentry
  · exact .inl hpending
  · exact .inr (.inl hrefused)
  · exact .inr (.inr (.inl hchanged))
  · exact .inr (.inr (.inr ⟨steeringQueue, List.mem_append_left _ hsync⟩))

theorem Accounts.change (h : client.Accounts refused) : Accounts refused { client with changed := true } :=
  ⟨h.shown, fun _ _ => .inr (.inr (.inl rfl))⟩

theorem Accounts.push (h : client.Accounts refused) (queue : List Entry) :
    Accounts refused { client with incoming := client.incoming ++ [.session_sync queue], changed := false } :=
  ⟨h.shown, fun _ _ => .inr (.inr (.inr ⟨queue, List.mem_append_right _ (List.mem_singleton.mpr rfl)⟩))⟩

theorem Accounts.refuse (h : client.Accounts refused) (entry : Entry) : client.Accounts (refused ++ [entry]) :=
  ⟨h.shown, fun other hother => (h.unconfirmed other hother).imp_right (Or.imp_left (List.mem_append_left _))⟩

end Client

namespace System

variable {s : System}

def Accounts (s : System) : Prop :=
  ∀ client, (s.clients client).Accounts s.refused

theorem Accounts.updateClient (h : s.Accounts) (client : Nat) (change : Client → Client)
    (hchange : (change (s.clients client)).Accounts s.refused) : (s.updateClient client change).Accounts := by
  intro other
  change (Function.update s.clients client (change (s.clients client)) other).Accounts s.refused
  by_cases hsame : other = client
  · subst hsame
    rw [Function.update_self]
    exact hchange
  · rw [Function.update_of_ne hsame]
    exact h other

theorem Accounts.replaceQueue (h : s.Accounts) (actor : SessionActor) (queue : List Entry) :
    (s.replaceQueue actor queue).Accounts := by
  intro client
  change (ite (queue = s.queue) s.clients _ client).Accounts s.refused
  split
  · exact h client
  · exact (h client).change

theorem changed_replaceQueue (actor : SessionActor) {queue : List Entry} (hne : queue ≠ s.queue) (client : Nat) :
    ((s.replaceQueue actor queue).clients client) = { s.clients client with changed := true } := by
  change (ite (queue = s.queue) s.clients _ client) = _
  rw [if_neg hne]

theorem Accounts.receiveSteer {client : Nat} {entry : Entry} {outgoing : List Command} (h : s.Accounts)
    (houtgoing : (s.clients client).outgoing = .steer entry :: outgoing) :
    ((s.updateClient client fun sender => { sender with outgoing }).receiveSteer client entry).Accounts := by
  rw [System.receiveSteer]
  split
  · intro other
    have hother := (h other).refuse entry
    by_cases hsame : other = client
    · subst hsame
      simp only [System.updateClient, Function.update_self]
      refine ⟨hother.shown, fun sent hsent => ?_⟩
      obtain hpending | hrefused | hchanged | ⟨steeringQueue, hsync⟩ := hother.unconfirmed sent hsent
      · rw [houtgoing] at hpending
        rcases List.mem_cons.mp hpending with rfl | hrest
        · exact .inr (.inl (List.mem_append_right _ (List.mem_singleton.mpr rfl)))
        · exact .inl hrest
      · exact .inr (.inl hrefused)
      · exact .inr (.inr (.inl hchanged))
      · exact .inr (.inr (.inr ⟨steeringQueue, List.mem_append_left _ hsync⟩))
    · simp only [System.updateClient, Function.update_of_ne hsame]
      exact hother
  · intro other
    rw [changed_replaceQueue]
    · refine ⟨?_, fun _ _ => .inr (.inr (.inl rfl))⟩
      by_cases hsame : other = client
      · subst hsame
        simp only [System.updateClient, Function.update_self]
        exact (h other).shown
      · simp only [System.updateClient, Function.update_of_ne hsame]
        exact (h other).shown
    · simp

theorem Accounts.react (h : s.Accounts) (event : Event) : (s.react event).Accounts := by
  cases event with
  | steered client text =>
    exact h.updateClient client (·.enqueueSteering _) ((h client).enqueueSteering _)
  | removed client index =>
    exact h.updateClient client (·.removeSteering index) ((h client).removeSteering index)
  | delivered client => exact h.updateClient client _ (h client).deliver
  | timedOut client steer =>
    exact h.updateClient client (·.timeOut steer) ⟨(h client).shown, (h client).unconfirmed⟩
  | pushed client =>
    exact h.updateClient client _ ((h client).push s.queue)
  | acted event =>
    rw [System.react, System.act]
    split
    · exact h
    · exact h.replaceQueue _ _
  | received client =>
    rw [System.react, System.receive]
    split
    · exact h
    · exact h
    · rename_i command outgoing _ houtgoing
      cases command with
      | steer entry => exact h.receiveSteer houtgoing
      | remove_steering index shown =>
        refine Accounts.replaceQueue (h.updateClient client _ ⟨(h client).shown, fun entry hentry => ?_⟩) _ _
        have hunconfirmed := (h client).unconfirmed entry hentry
        rw [houtgoing] at hunconfirmed
        exact hunconfirmed
  | answered success =>
    rw [System.react, System.answer]
    split
    · exact h
    · rename_i client entry _
      have hended : ({ s with request := none } : System).Accounts := h
      cases success with
      | true => exact hended.updateClient client _ ((hended client).append _)
      | false =>
        have htaken := hended.replaceQueue (s.actor.dequeueSteering entry.text) (dequeue entry.text s.queue)
        exact htaken.updateClient client _ ((htaken client).append _)

end System

/-- A running session. -/
def startTurn : List Event :=
  [.acted (.attach { id := 0, process := 7 } { steeringQueue := [], model := none, thinkingLevel := js "off" }),
    .acted .begin_turn]

end pipane.ws_agent_adapter.steering

import Mathlib.Data.List.Nodup
import Pipane.Client.WsAgentAdapter.Steering.Display

open javascript transition pipane.session_actor

namespace pipane.ws_agent_adapter.steering

/-! Where an element stands in two parts of one list without repetition. -/

section

variable {α : Type} [DecidableEq α] {all queue shown ahead : List α} {seen other : α}

theorem pairwise_idxOf (h : all.Nodup) : all.Pairwise fun a b => all.idxOf a < all.idxOf b := by
  rw [List.pairwise_iff_getElem]
  intro i j hi hj hlt
  rw [h.idxOf_getElem, h.idxOf_getElem]
  exact hlt

theorem eq_takeWhile_append (h : seen ∈ queue) :
    ∃ rest, queue = (queue.takeWhile fun a => a ≠ seen) ++ seen :: rest := by
  induction queue with
  | nil => cases h
  | cons first queue ih =>
    by_cases hfirst : first = seen
    · exact ⟨queue, by simp [hfirst]⟩
    · obtain ⟨rest, hrest⟩ := ih ((List.mem_cons.mp h).resolve_left (Ne.symm hfirst))
      refine ⟨rest, ?_⟩
      rw [List.takeWhile_cons_of_pos (by simpa using hfirst), List.cons_append, ← hrest]

theorem mem_takeWhile_of_ahead (hall : all.Nodup) (hqueue : queue.Sublist all)
    (hahead : (ahead ++ [seen]).Sublist all) (hseen : seen ∈ queue) (hother : other ∈ ahead) (hmem : other ∈ queue) :
    other ∈ queue.takeWhile fun a => a ≠ seen := by
  have horder := (pairwise_idxOf hall).sublist hqueue
  have hbefore : all.idxOf other < all.idxOf seen :=
    (List.pairwise_append.mp ((pairwise_idxOf hall).sublist hahead)).2.2 other hother seen (List.mem_singleton.mpr rfl)
  obtain ⟨rest, hrest⟩ := eq_takeWhile_append hseen
  generalize (queue.takeWhile fun a => decide (a ≠ seen)) = front at hrest ⊢
  rw [hrest] at horder hmem
  rcases List.mem_append.mp hmem with hfront | hback
  · exact hfront
  rcases List.mem_cons.mp hback with rfl | hback
  · omega
  · have hafter := (List.pairwise_cons.mp (List.pairwise_append.mp horder).2.1).1 other hback
    omega

/-- The place of an element is the number of those shown ahead of it, less those gone, and with those that came in. -/
theorem length_takeWhile_add (hall : all.Nodup) (hqueue : queue.Sublist all)
    (hahead : (ahead ++ [seen]).Sublist all) (hseen : seen ∈ queue) :
    (queue.takeWhile fun a => a ≠ seen).length + (ahead.filter fun a => a ∉ queue).length =
      ahead.length + ((queue.takeWhile fun a => a ≠ seen).filter fun a => a ∉ ahead).length := by
  have hfront := List.takeWhile_sublist (fun a => decide (a ≠ seen)) (l := queue)
  have hperm : ((queue.takeWhile fun a => decide (a ≠ seen)).filter fun a => decide (a ∈ ahead)).Perm
      (ahead.filter fun a => decide (a ∈ queue)) := by
    have hfrontNodup := (hall.sublist hqueue).sublist hfront
    have haheadNodup := (List.nodup_append.mp (hall.sublist hahead)).1
    rw [List.perm_ext_iff_of_nodup (hfrontNodup.filter _) (haheadNodup.filter _)]
    intro a
    simp only [List.mem_filter, decide_eq_true_eq]
    constructor
    · rintro ⟨hmem, hshown⟩
      exact ⟨hshown, hfront.subset hmem⟩
    · rintro ⟨hshown, hmem⟩
      exact ⟨mem_takeWhile_of_ahead hall hqueue hahead hseen hshown hmem, hshown⟩
  have hqueueSplit := List.length_eq_length_filter_add (l := queue.takeWhile fun a => decide (a ≠ seen))
    fun a => decide (a ∈ ahead)
  have haheadSplit := List.length_eq_length_filter_add (l := ahead) fun a => decide (a ∈ queue)
  have hsame := hperm.length_eq
  simp only [← decide_not] at hqueueSplit haheadSplit
  omega

theorem place_of_mem (h : seen ∈ queue) : queue[(queue.takeWhile fun a => a ≠ seen).length]? = some seen := by
  obtain ⟨rest, hrest⟩ := eq_takeWhile_append h
  generalize (queue.takeWhile fun a => decide (a ≠ seen)) = front at hrest ⊢
  rw [hrest, List.getElem?_append_right (Nat.le_refl _), Nat.sub_self]
  rfl

/-- An element that was shown at a place is at that place of the queue where it is still queued and as many of those
    shown ahead of it have gone as others have come in ahead of it. -/
theorem getElem?_eq_some_iff_counts (hall : all.Nodup) (hqueue : queue.Sublist all) (hshown : shown.Sublist all)
    {index : Nat} (hseen : shown[index]? = some seen) :
    queue[index]? = some seen ↔ seen ∈ queue ∧
      ((shown.take index).filter fun a => a ∉ queue).length =
        ((queue.takeWhile fun a => a ≠ seen).filter fun a => a ∉ shown.take index).length := by
  have htake : shown.take (index + 1) = shown.take index ++ [seen] := by
    rw [List.take_add_one, hseen]
    rfl
  have hahead : (shown.take index ++ [seen]).Sublist all := htake ▸ (List.take_sublist _ _).trans hshown
  have hindex : (shown.take index).length = index := by
    have hlt := (List.getElem?_eq_some_iff.mp hseen).1
    rw [List.length_take]
    omega
  constructor
  · intro hplace
    have hmem := List.mem_of_getElem? hplace
    refine ⟨hmem, ?_⟩
    have hcounts := length_takeWhile_add hall hqueue hahead hmem
    have hfront := place_of_mem hmem
    have hsame := (List.getElem?_inj (List.getElem?_eq_some_iff.mp hplace).1 (hall.sublist hqueue)).mp
      (hplace.trans hfront.symm)
    omega
  · rintro ⟨hmem, hbalance⟩
    have hcounts := length_takeWhile_add hall hqueue hahead hmem
    have hfront := place_of_mem hmem
    have hsame : (queue.takeWhile fun a => decide (a ≠ seen)).length = index := by omega
    rwa [hsame] at hfront

end

/-! What the server has read, and what is on its way, in one order. -/

/-- Each removal on its way names a place that was shown, in a queue that is part of the steers read by then. -/
def RemovalsSeen : List Entry → List Command → Prop
  | _, [] => True
  | handled, .steer entry :: commands => RemovalsSeen (handled ++ [entry]) commands
  | handled, .remove_steering index shown :: commands =>
    (index < shown.length ∧ shown.Sublist handled) ∧ RemovalsSeen handled commands

theorem RemovalsSeen.mono {handled more : List Entry} {commands : List Command} (h : RemovalsSeen handled commands)
    (hmore : handled.Sublist more) : RemovalsSeen more commands := by
  induction commands generalizing handled more with
  | nil => trivial
  | cons command commands ih =>
    cases command with
    | steer entry => exact ih h (hmore.append_right [entry])
    | remove_steering index shown => exact ⟨⟨h.1.1, h.1.2.trans hmore⟩, ih h.2 hmore⟩

theorem removalsSeen_append {handled : List Entry} {commands : List Command} {command : Command} :
    RemovalsSeen handled (commands ++ [command]) ↔
      RemovalsSeen handled commands ∧ RemovalsSeen (handled ++ pendingSteers commands) [command] := by
  induction commands generalizing handled with
  | nil =>
    rw [show pendingSteers [] = [] from rfl, List.append_nil]
    exact ⟨fun h => ⟨trivial, h⟩, And.right⟩
  | cons first commands ih =>
    cases first with
    | steer entry =>
      have hsteers : handled ++ pendingSteers (.steer entry :: commands) = handled ++ [entry] ++ pendingSteers commands :=
        (List.append_assoc handled [entry] (pendingSteers commands)).symm
      rw [hsteers]
      exact ih
    | remove_steering index shown =>
      change _ ∧ RemovalsSeen handled (commands ++ [command]) ↔ (_ ∧ RemovalsSeen handled commands) ∧
        RemovalsSeen (handled ++ pendingSteers commands) [command]
      rw [ih]
      exact and_assoc.symm

/-- A client by what the server has read. -/
structure Client.Seen (handled : List Entry) (steers : Nat) (client : Client) : Prop where
  fresh : ∀ entry ∈ handled ++ pendingSteers client.outgoing, entry.steer < steers
  nodup : (handled ++ pendingSteers client.outgoing).Nodup
  view : client.steeringQueue.Sublist (handled ++ pendingSteers client.outgoing)
  snapshots : ∀ steeringQueue, .session_sync steeringQueue ∈ client.incoming → steeringQueue.Sublist handled
  removals : RemovalsSeen handled client.outgoing

namespace Client

variable {handled : List Entry} {steers : Nat} {client : Client} {entry : Entry}

theorem Seen.enqueueSteering (h : client.Seen handled steers) (text : JsString) :
    (client.enqueueSteering { steer := steers, text }).Seen handled (steers + 1) := by
  have hsteers : handled ++ pendingSteers (client.enqueueSteering { steer := steers, text }).outgoing =
      handled ++ pendingSteers client.outgoing ++ [{ steer := steers, text }] := by
    rw [List.append_assoc]
    exact congrArg _ (pendingSteers_append _ _)
  refine ⟨?_, ?_, ?_, h.snapshots, ?_⟩
  · rw [hsteers]
    intro entry hentry
    rcases List.mem_append.mp hentry with hold | hnew
    · exact Nat.lt_succ_of_lt (h.fresh entry hold)
    · rw [List.mem_singleton.mp hnew]
      exact Nat.lt_succ_self steers
  · rw [hsteers]
    refine (List.perm_append_singleton _ _).nodup_iff.mpr (List.nodup_cons.mpr ⟨fun hmem => ?_, h.nodup⟩)
    exact Nat.lt_irrefl _ (h.fresh _ hmem)
  · rw [hsteers]
    exact h.view.append_right _
  · exact removalsSeen_append.mpr ⟨h.removals, trivial⟩

theorem Seen.removeSteering (h : client.Seen handled steers) (index : Nat) :
    (client.removeSteering index).Seen handled steers := by
  rw [Client.removeSteering]
  split
  · exact h
  · rename_i hindex
    have hsteers : pendingSteers (client.outgoing ++ [.remove_steering index client.steeringQueue]) =
        pendingSteers client.outgoing := by
      rw [pendingSteers_append]
      exact List.append_nil _
    refine ⟨?_, ?_, ?_, h.snapshots, removalsSeen_append.mpr ⟨h.removals, ⟨Nat.lt_of_not_le hindex, h.view⟩, trivial⟩⟩
    · rw [hsteers]
      exact h.fresh
    · rw [hsteers]
      exact h.nodup
    · rw [hsteers]
      exact h.view

theorem Seen.deliver (h : client.Seen handled steers) : client.deliver.Seen handled steers := by
  rw [Client.deliver]
  split
  · exact h
  · rename_i steeringQueue incoming hincoming
    refine ⟨h.fresh, h.nodup, ?_, fun other hother => h.snapshots other ?_, h.removals⟩
    · have hsnapshot := h.snapshots steeringQueue (hincoming ▸ List.mem_cons_self)
      exact hsnapshot.trans (List.sublist_append_left _ _)
    · rw [hincoming]
      exact List.mem_cons_of_mem _ hother
  · rename_i steer success incoming hincoming
    refine ⟨h.fresh, h.nodup, h.view, fun other hother => h.snapshots other ?_, h.removals⟩
    rw [hincoming]
    exact List.mem_cons_of_mem _ hother

theorem Seen.push (h : client.Seen handled steers) {queue : List Entry} (hqueue : queue.Sublist handled) :
    Seen handled steers { client with incoming := client.incoming ++ [.session_sync queue], changed := false } := by
  refine ⟨h.fresh, h.nodup, h.view, fun other hother => ?_, h.removals⟩
  rcases List.mem_append.mp hother with hold | hnew
  · exact h.snapshots other hold
  · cases List.mem_singleton.mp hnew
    exact hqueue

theorem Seen.respond (h : client.Seen handled steers) (steer : Nat) (success : Bool) :
    Seen handled steers { client with incoming := client.incoming ++ [.response steer success] } := by
  refine ⟨h.fresh, h.nodup, h.view, fun other hother => ?_, h.removals⟩
  rcases List.mem_append.mp hother with hold | hnew
  · exact h.snapshots other hold
  · cases List.mem_singleton.mp hnew

theorem Seen.read (h : client.Seen handled steers) {outgoing : List Command}
    (houtgoing : client.outgoing = .steer entry :: outgoing) :
    Seen (handled ++ [entry]) steers { client with outgoing } := by
  have hsteers : handled ++ [entry] ++ pendingSteers outgoing = handled ++ pendingSteers client.outgoing := by
    rw [houtgoing, List.append_assoc]
    rfl
  refine ⟨?_, ?_, ?_, fun other hother => (h.snapshots other hother).trans (List.sublist_append_left _ _), ?_⟩
  · rw [hsteers]
    exact h.fresh
  · rw [hsteers]
    exact h.nodup
  · rw [hsteers]
    exact h.view
  · have hremovals := h.removals
    rw [houtgoing] at hremovals
    exact hremovals

theorem Seen.overhear (h : client.Seen handled steers) (hentry : entry.steer < steers) (hhandled : entry ∉ handled)
    (hpending : entry ∉ pendingSteers client.outgoing) : client.Seen (handled ++ [entry]) steers := by
  have hperm : (handled ++ [entry] ++ pendingSteers client.outgoing).Perm
      (entry :: (handled ++ pendingSteers client.outgoing)) := by
    rw [List.append_assoc]
    exact List.perm_middle
  refine ⟨?_, ?_, ?_, fun other hother => (h.snapshots other hother).trans (List.sublist_append_left _ _),
    h.removals.mono (List.sublist_append_left _ _)⟩
  · intro other hother
    rcases List.mem_cons.mp (hperm.subset hother) with rfl | hold
    · exact hentry
    · exact h.fresh other hold
  · rw [hperm.nodup_iff]
    exact List.nodup_cons.mpr ⟨fun hmem => (List.mem_append.mp hmem).elim hhandled hpending, h.nodup⟩
  · exact h.view.trans ((List.sublist_append_left _ _).append_right _)

theorem Seen.skip (h : client.Seen handled steers) {index : Nat} {shown : List Entry} {outgoing : List Command}
    (houtgoing : client.outgoing = .remove_steering index shown :: outgoing) :
    Seen handled steers { client with outgoing } := by
  have hsteers : pendingSteers outgoing = pendingSteers client.outgoing := by
    rw [houtgoing]
    rfl
  have hremovals := h.removals
  rw [houtgoing] at hremovals
  refine ⟨?_, ?_, ?_, h.snapshots, hremovals.2⟩
  · rw [hsteers]
    exact h.fresh
  · rw [hsteers]
    exact h.nodup
  · rw [hsteers]
    exact h.view

theorem Seen.change (h : client.Seen handled steers) : Seen handled steers { client with changed := true } :=
  ⟨h.fresh, h.nodup, h.view, h.snapshots, h.removals⟩

end Client

/-- No steer is in two places, and the queue is part of what the server has read. -/
structure System.Seen (s : System) : Prop where
  clients : ∀ client, (s.clients client).Seen s.handled s.steers
  apart : ∀ client other, client ≠ other → ∀ entry ∈ pendingSteers (s.clients client).outgoing,
    entry ∉ pendingSteers (s.clients other).outgoing
  queue : s.queue.Sublist s.handled

namespace System

variable {s : System}

theorem Seen.updateClient (h : s.Seen) (client : Nat) (change : Client → Client)
    (hchange : (change (s.clients client)).Seen s.handled s.steers)
    (houtgoing : ∀ entry ∈ pendingSteers (change (s.clients client)).outgoing,
      entry ∈ pendingSteers (s.clients client).outgoing) : (s.updateClient client change).Seen := by
  have hclients : ∀ other, ((s.updateClient client change).clients other).Seen s.handled s.steers ∧
      ∀ entry ∈ pendingSteers ((s.updateClient client change).clients other).outgoing,
        entry ∈ pendingSteers (s.clients other).outgoing := by
    intro other
    rw [System.updateClient]
    by_cases hsame : other = client
    · subst hsame
      simp only [Function.update_self]
      exact ⟨hchange, houtgoing⟩
    · simp only [Function.update_of_ne hsame]
      exact ⟨h.clients other, fun _ hentry => hentry⟩
  exact ⟨fun other => (hclients other).1,
    fun one other hne entry hentry hother =>
      h.apart one other hne entry ((hclients one).2 entry hentry) ((hclients other).2 entry hother), h.queue⟩

theorem Seen.replaceQueue (h : s.Seen) (actor : SessionActor) {queue : List Entry} (hqueue : queue.Sublist s.handled) :
    (s.replaceQueue actor queue).Seen := by
  have hclients : ∀ client, ((s.replaceQueue actor queue).clients client).outgoing = (s.clients client).outgoing ∧
      ((s.replaceQueue actor queue).clients client).Seen s.handled s.steers := by
    intro client
    simp only [System.replaceQueue]
    split
    · exact ⟨rfl, h.clients client⟩
    · exact ⟨rfl, (h.clients client).change⟩
  refine ⟨fun client => (hclients client).2, ?_, hqueue⟩
  intro client other hne
  rw [(hclients client).1, (hclients other).1]
  exact h.apart client other hne

theorem Seen.steer (h : s.Seen) (client : Nat) (text : JsString) : (s.react (.steered client text)).Seen := by
  have hnew : ∀ other entry, entry ∈ pendingSteers ((s.react (.steered client text)).clients other).outgoing →
      entry ∈ pendingSteers (s.clients other).outgoing ∨ (other = client ∧ entry = { steer := s.steers, text }) := by
    intro other entry hentry
    by_cases hsame : other = client
    · subst hsame
      simp only [System.react, System.updateClient, Function.update_self, Client.enqueueSteering, pendingSteers_append,
        List.mem_append] at hentry
      exact hentry.imp_right fun hlast => ⟨rfl, List.mem_singleton.mp hlast⟩
    · simp only [System.react, System.updateClient, Function.update_of_ne hsame] at hentry
      exact .inl hentry
  refine ⟨fun other => ?_, fun one other hne entry hone hother => ?_, h.queue⟩
  · by_cases hsame : other = client
    · subst hsame
      simp only [System.react, System.updateClient, Function.update_self]
      exact (h.clients other).enqueueSteering text
    · simp only [System.react, System.updateClient, Function.update_of_ne hsame]
      have hother := h.clients other
      exact ⟨fun entry hentry => Nat.lt_succ_of_lt (hother.fresh entry hentry), hother.nodup, hother.view,
        hother.snapshots, hother.removals⟩
  · have hfresh : ∀ place, ({ steer := s.steers, text } : Entry) ∉ pendingSteers (s.clients place).outgoing :=
      fun place hmem => Nat.lt_irrefl _ ((h.clients place).fresh _ (List.mem_append_right _ hmem))
    rcases hnew one entry hone with hold | ⟨rfl, rfl⟩
    · rcases hnew other entry hother with hold' | ⟨rfl, rfl⟩
      · exact h.apart one other hne entry hold hold'
      · exact hfresh one hold
    · rcases hnew other _ hother with hold' | ⟨hsame, -⟩
      · exact hfresh other hold'
      · exact hne hsame.symm

theorem Seen.receiveSteer {client : Nat} {entry : Entry} {outgoing : List Command} (h : s.Seen)
    (houtgoing : (s.clients client).outgoing = .steer entry :: outgoing) :
    ((s.updateClient client fun sender => { sender with outgoing }).receiveSteer client entry).Seen := by
  have hsender := h.clients client
  have hpending : entry ∈ pendingSteers (s.clients client).outgoing := by
    rw [houtgoing]
    exact List.mem_cons_self
  have hhandled : entry ∉ s.handled := by
    intro hmem
    exact (List.nodup_append.mp hsender.nodup).2.2 entry hmem entry hpending rfl
  have hrest : ∀ other ∈ pendingSteers outgoing, other ∈ pendingSteers (s.clients client).outgoing := by
    intro other hother
    rw [houtgoing]
    exact List.mem_cons_of_mem _ hother
  have hread : ({ s.updateClient client fun sender => { sender with outgoing } with
      handled := s.handled ++ [entry] } : System).Seen := by
    have hclients : ∀ other, ((s.updateClient client fun sender => { sender with outgoing }).clients other).Seen
        (s.handled ++ [entry]) s.steers ∧
        ∀ sent ∈ pendingSteers ((s.updateClient client fun sender => { sender with outgoing }).clients other).outgoing,
          sent ∈ pendingSteers (s.clients other).outgoing := by
      intro other
      by_cases hsame : other = client
      · subst hsame
        simp only [System.updateClient, Function.update_self]
        exact ⟨hsender.read houtgoing, hrest⟩
      · simp only [System.updateClient, Function.update_of_ne hsame]
        exact ⟨(h.clients other).overhear (hsender.fresh entry (List.mem_append_right _ hpending)) hhandled
          (h.apart client other (Ne.symm hsame) entry hpending), fun _ hsent => hsent⟩
    exact ⟨fun other => (hclients other).1,
      fun one other hne sent hone hother =>
        h.apart one other hne sent ((hclients one).2 sent hone) ((hclients other).2 sent hother),
      h.queue.trans (List.sublist_append_left _ _)⟩
  rw [System.receiveSteer]
  split
  · exact Seen.updateClient (s := { s.updateClient client fun sender => { sender with outgoing } with
      handled := s.handled ++ [entry], refused := s.refused ++ [entry] }) ⟨hread.clients, hread.apart, hread.queue⟩ client _
      ((hread.clients client).respond entry.steer false) fun _ hsent => hsent
  · exact Seen.replaceQueue (s := { s.updateClient client fun sender => { sender with outgoing } with
      handled := s.handled ++ [entry], request := some (client, entry) })
      ⟨hread.clients, hread.apart, hread.queue⟩ _ (h.queue.append_right [entry])

theorem sublist_leave (actor : SessionActor) (queue : List Entry) (event : ActorEvent) :
    (event.leave actor queue).Sublist queue := by
  cases event with
  | process_event proc generation event =>
    rw [ActorEvent.leave.eq_def]
    dsimp only
    split
    · cases event with
      | agent_end => exact List.nil_sublist _
      | user_message_end text => exact List.eraseP_sublist
      | agent_start | agent_settled | other => exact List.Sublist.refl _
    · exact List.Sublist.refl _
  | detach =>
    rw [ActorEvent.leave]
    split
    · exact List.Sublist.refl _
    · exact List.nil_sublist _
  | attach | begin_turn | mark_failed => exact List.Sublist.refl _

theorem Seen.react (h : s.Seen) (event : Event) : (s.react event).Seen := by
  cases event with
  | steered client text => exact h.steer client text
  | removed client index =>
    refine h.updateClient client (·.removeSteering index) ((h.clients client).removeSteering index) fun entry hentry => ?_
    rw [Client.removeSteering] at hentry
    split at hentry
    · exact hentry
    · rw [pendingSteers_append] at hentry
      exact (List.mem_append.mp hentry).resolve_right List.not_mem_nil
  | delivered client =>
    refine h.updateClient client _ (h.clients client).deliver fun entry hentry => ?_
    rw [Client.deliver] at hentry
    split at hentry <;> exact hentry
  | timedOut client steer =>
    have hclient := h.clients client
    exact h.updateClient client (·.timeOut steer) ⟨hclient.fresh, hclient.nodup, hclient.view, hclient.snapshots, hclient.removals⟩
      fun _ hentry => hentry
  | pushed client =>
    have hpushed := (h.clients client).push h.queue
    exact h.updateClient client (fun viewer => { viewer with incoming := _, changed := false }) hpushed
      fun _ hentry => hentry
  | acted event =>
    rw [System.react, System.act]
    split
    · exact h
    · exact h.replaceQueue _ ((sublist_leave _ _ _).trans h.queue)
  | received client =>
    rw [System.react, System.receive]
    split
    · exact h
    · exact h
    · rename_i command outgoing _ houtgoing
      cases command with
      | steer entry => exact h.receiveSteer houtgoing
      | remove_steering index shown =>
        have hsent : (s.updateClient client fun sender => { sender with outgoing }).Seen := by
          refine h.updateClient client _ ((h.clients client).skip houtgoing) fun entry hentry => ?_
          rw [houtgoing]
          exact hentry
        exact hsent.replaceQueue _ ((List.eraseIdx_sublist _ _).trans h.queue)
  | answered success =>
    rw [System.react, System.answer]
    split
    · exact h
    · rename_i client entry _
      have hended : ({ s with request := none } : System).Seen :=
        ⟨h.clients, h.apart, h.queue⟩
      cases success with
      | true =>
        exact hended.updateClient client _ ((hended.clients client).respond _ _) fun _ hsent => hsent
      | false =>
        have htaken := hended.replaceQueue (s.actor.dequeueSteering entry.text)
          ((List.eraseP_sublist (p := fun other => decide (other.text = entry.text))).trans h.queue)
        exact htaken.updateClient client _ ((htaken.clients client).respond _ _) fun _ hsent => hsent

/-- The removal that an event brings to the server: its place, and the queue that its user saw. -/
def removal (s : System) : Event → Option (Nat × List Entry)
  | .received client =>
    match s.request, (s.clients client).outgoing with
    | none, .remove_steering index shown :: _ => some (index, shown)
    | _, _ => none
  | _ => none

/-- A removal that the server reads removes what its user saw, or nothing. -/
def RemovesSeen (s : System) (event : Event) : Prop :=
  ∀ index shown, s.removal event = some (index, shown) →
    (s.react event).queue = s.queue ∨ ∃ seen, shown[index]? = some seen ∧ s.queue[index]? = some seen

/-- A removal that the server reads is past the end of its queue; or the entry that was shown there is still queued,
    and as many of those shown ahead of it have gone as others have come in ahead of it. -/
def PlaceKept (s : System) (event : Event) : Prop :=
  ∀ index shown, s.removal event = some (index, shown) →
    s.queue.length ≤ index ∨ ∃ seen, shown[index]? = some seen ∧ seen ∈ s.queue ∧
      ((shown.take index).filter fun entry => entry ∉ s.queue).length =
        ((s.queue.takeWhile fun entry => entry ≠ seen).filter fun entry => entry ∉ shown.take index).length

theorem removal_eq_some {event : Event} {index : Nat} {shown : List Entry} (h : s.removal event = some (index, shown)) :
    ∃ client outgoing, event = .received client ∧
      (s.clients client).outgoing = .remove_steering index shown :: outgoing ∧
      (s.react event).queue = s.queue.eraseIdx index := by
  cases event with
  | received client =>
    rw [removal] at h
    split at h
    · rename_i place seen outgoing hrequest houtgoing
      cases h
      refine ⟨client, outgoing, rfl, houtgoing, ?_⟩
      rw [System.react, System.receive, hrequest, houtgoing]
      rfl
    · cases h
  | _ => cases h

theorem Seen.removesSeen_iff (h : s.Seen) (event : Event) : s.RemovesSeen event ↔ s.PlaceKept event := by
  refine forall_congr' fun index => forall_congr' fun shown => forall_congr' fun hremoval => ?_
  obtain ⟨client, outgoing, rfl, houtgoing, hqueue⟩ := removal_eq_some hremoval
  have hremovals := (h.clients client).removals
  rw [houtgoing] at hremovals
  obtain ⟨⟨-, hshown⟩, -⟩ := hremovals
  have hhandled := (List.nodup_append.mp (h.clients client).nodup).1
  have hunchanged : (s.react (.received client)).queue = s.queue ↔ s.queue.length ≤ index := by
    rw [hqueue]
    constructor
    · intro hsame
      by_contra hlt
      have hlength := congrArg List.length hsame
      rw [List.length_eraseIdx_of_lt (by omega)] at hlength
      omega
    · exact List.eraseIdx_of_length_le
  rw [hunchanged]
  refine or_congr_right (exists_congr fun seen => and_congr_right fun hseen => ?_)
  exact getElem?_eq_some_iff_counts hhandled h.queue hshown hseen

end System

theorem seen_reached (sessionPath : JsString) (events : List Event) : (reached sessionPath events).Seen := by
  induction events using List.reverseRecOn with
  | nil =>
    refine ⟨fun client => ⟨?_, List.nodup_nil, List.Sublist.refl _, ?_, trivial⟩, ?_, List.Sublist.refl _⟩
    · exact fun entry hentry => absurd hentry List.not_mem_nil
    · exact fun steeringQueue hsync => absurd hsync List.not_mem_nil
    · exact fun client other _ entry hentry => absurd hentry List.not_mem_nil
  | append_singleton events event ih =>
    rw [reached, run_snoc]
    exact ih.react event

/-- In any run, each removal that the server reads removes the entry that its user saw, or nothing, if and only if each
    finds its place kept. -/
theorem steering_removal_iff (sessionPath : JsString) (events : List Event) :
    EveryStep System.react (System.fresh sessionPath) System.RemovesSeen events ↔
      EveryStep System.react (System.fresh sessionPath) System.PlaceKept events :=
  forall_congr' fun before => forall_congr' fun event => forall_congr' fun _ =>
    (seen_reached sessionPath before).removesSeen_iff event

/-- Pi takes the first of two steers before the snapshot without it arrives; the removal of the first then removes the
    second. -/
theorem removal_of_consumed_steer :
    ¬ EveryStep System.react (System.fresh (js "/s.jsonl")) System.RemovesSeen
      (startTurn ++ [.steered 0 (js "one"), .steered 0 (js "two"), .received 0, .answered true,
        .received 0, .answered true, .pushed 0, .delivered 0, .delivered 0, .delivered 0,
        .acted (.process_event 7 1 (.user_message_end (js "one"))), .removed 0 0, .received 0]) := by
  intro h
  obtain hsame | ⟨seen, hshown, hremoved⟩ := h (startTurn ++ [.steered 0 (js "one"), .steered 0 (js "two"), .received 0,
    .answered true, .received 0, .answered true, .pushed 0, .delivered 0, .delivered 0, .delivered 0, .acted (.process_event 7 1 (.user_message_end (js "one"))), .removed 0 0])
    (.received 0) ⟨[], rfl⟩ 0 [{ steer := 0, text := js "one" }, { steer := 1, text := js "two" }] rfl
  · exact absurd (congrArg List.length hsame) (by decide)
  · have hseen := hshown.trans hremoved.symm
    exact absurd hseen (by decide)

end pipane.ws_agent_adapter.steering

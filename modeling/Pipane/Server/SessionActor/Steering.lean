import Pipane.Server.SessionActor.Mailbox

open javascript transition

namespace pipane.session_actor

/-- Pi took the steer. -/
def Outcome.Accepted : Outcome → Prop
  | .success => True
  | .failure _ => False
  | .rejected _ _ => False

/-- From its first occurrence on the queue has no other text than `message`. -/
def OnlyAtEnd (message : JsString) (queue : List JsString) : Prop :=
  ∀ text ∈ queue.dropWhile (· ≠ message), text = message

theorem all_eq_of_concat_eq_cons {message : JsString} {queue : List JsString}
    (h : queue ++ [message] = message :: queue) : ∀ text ∈ queue, text = message := by
  induction queue with
  | nil =>
    intro text htext
    cases htext
  | cons first queue ih =>
    rw [List.cons_append, List.cons.injEq] at h
    obtain ⟨hfirst, hrest⟩ := h
    subst hfirst
    intro text htext
    obtain hhead | htail := List.mem_cons.mp htext
    · exact hhead
    · exact ih hrest text htail

/-- Removing the first occurrence takes back what was appended only where no other text stands behind it. -/
theorem erase_concat_eq_iff {message : JsString} {queue : List JsString} :
    (queue ++ [message]).erase message = queue ↔ OnlyAtEnd message queue := by
  unfold OnlyAtEnd
  induction queue with
  | nil =>
    refine iff_of_true ?_ ?_
    · rw [List.nil_append, List.erase_cons_head]
    · intro text htext
      cases htext
  | cons first queue ih =>
    by_cases hfirst : first = message
    · subst hfirst
      have hstays : (first :: queue).dropWhile (· ≠ first) = first :: queue := by
        rw [List.dropWhile_cons_of_neg]
        simp
      rw [List.cons_append, List.erase_cons_head, hstays]
      constructor
      · intro hshift text htext
        obtain hhead | htail := List.mem_cons.mp htext
        · exact hhead
        · exact all_eq_of_concat_eq_cons hshift text htail
      · intro hall
        have hrepeated : queue = List.replicate queue.length first :=
          List.eq_replicate_iff.mpr ⟨rfl, fun text htext => hall text (List.mem_cons_of_mem _ htext)⟩
        rw [hrepeated, ← List.replicate_succ', List.replicate_succ]
    · rw [List.cons_append, List.erase_cons_tail (by simpa using hfirst), List.cons.injEq]
      rw [List.dropWhile_cons_of_pos (by simpa using hfirst)]
      simpa using ih

namespace Mailbox

variable {self : Mailbox}

theorem step_of_steering {message : JsString} (h : self.steering = some message) {event : Event}
    (hevent : ∀ outcome listenerThrows, event ≠ .answered outcome listenerThrows) :
    ∃ waiting, self.step event = { self with waiting } := by
  cases event with
  | enqueue operation => exact ⟨_, rfl⟩
  | run listenerThrows =>
    refine ⟨self.waiting, ?_⟩
    simp only [step, h]
    rw [← h]
  | answered outcome listenerThrows => exact absurd rfl (hevent outcome listenerThrows)

theorem run_of_steering {message : JsString} (h : self.steering = some message) {between : List Event}
    (hbetween : ∀ outcome listenerThrows, Event.answered outcome listenerThrows ∉ between) :
    ∃ waiting, run step self between = { self with waiting } := by
  induction between using List.reverseRecOn with
  | nil => exact ⟨self.waiting, rfl⟩
  | append_singleton between event ih =>
    obtain ⟨waiting, hrun⟩ := ih fun outcome throws hmem => hbetween outcome throws (List.mem_append_left _ hmem)
    rw [run_snoc, hrun]
    have hwaits : Mailbox.steering { self with waiting } = some message := h
    refine step_of_steering hwaits fun outcome throws heq => hbetween outcome throws ?_
    rw [heq]
    exact List.mem_append_right _ (List.mem_singleton_self _)

/-- The mailbox after a steer, from its turn on to the end of its request. -/
def afterSteer (self : Mailbox) (between : List Event) (outcome : Outcome) (listenerThrows : Bool) : Mailbox :=
  run step self ([.run false] ++ between ++ [.answered outcome listenerThrows])

/-- The steer leaves the queue with the message at its end and is answered with success, or leaves the queue as it was
    and is answered with an error. -/
def SteerAtomic (self : Mailbox) (message : JsString) (between : List Event) (outcome : Outcome)
    (listenerThrows : Bool) : Prop :=
  (outcome.Accepted → (self.afterSteer between outcome listenerThrows).answers = self.answers ++ [.ok ()] ∧
    (self.afterSteer between outcome listenerThrows).actor.steeringQueue = self.actor.steeringQueue ++ [message]) ∧
  (¬ outcome.Accepted →
    (∃ error, (self.afterSteer between outcome listenerThrows).answers = self.answers ++ [.error error]) ∧
    (self.afterSteer between outcome listenerThrows).actor.steeringQueue = self.actor.steeringQueue)

/-- The steer is the next operation, and the request for it is sent. -/
structure Steers (mailbox : Mailbox) (message : JsString) : Prop where
  idle : mailbox.steering = none
  next : mailbox.waiting.head? = some (.steer message)
  active : mailbox.actor.isTurnActive = true
  attached : mailbox.actor.process ≠ none

theorem afterSteer_eq {message : JsString} (h : self.Steers message) {between : List Event}
    (hbetween : ∀ outcome listenerThrows, Event.answered outcome listenerThrows ∉ between) (outcome : Outcome)
    (listenerThrows : Bool) : ∃ waiting, self.afterSteer between outcome listenerThrows =
      { self with waiting, actor := self.actor.enqueueSteering message,
                  steering := some message }.finishSteering message listenerThrows outcome := by
  obtain ⟨rest, hwaiting⟩ := List.head?_eq_some_iff.mp h.next
  have hsent : self.step (.run false) =
      { self with waiting := rest, actor := self.actor.enqueueSteering message, steering := some message } := by
    simp only [step, h.idle, hwaiting, execute]
    rw [sendSteering, if_neg (by simp [h.active, h.attached]), if_neg (by decide)]
  have hsteering : (self.step (.run false)).steering = some message := by rw [hsent]
  obtain ⟨waiting, hrun⟩ := run_of_steering hsteering hbetween
  refine ⟨waiting, ?_⟩
  rw [afterSteer, run_snoc, run_append]
  change step (run step (self.step (.run false)) between) _ = _
  rw [hrun, hsent]
  rfl

/-- A steer is atomic, whatever is enqueued meanwhile, exactly where its request does not end in a response that Pi
    failed, and where no other text stands behind an equal one when the request is rejected. -/
theorem steerAtomic_iff (self : Mailbox) (message : JsString) (between : List Event) (outcome : Outcome)
    (listenerThrows : Bool) (hsteers : self.Steers message)
    (hbetween : ∀ outcome listenerThrows, Event.answered outcome listenerThrows ∉ between) :
    self.SteerAtomic message between outcome listenerThrows ↔
      (∀ error, outcome ≠ .failure error) ∧ (outcome.Accepted ∨ OnlyAtEnd message self.actor.steeringQueue) := by
  obtain ⟨waiting, hafter⟩ := afterSteer_eq hsteers hbetween outcome listenerThrows
  rw [SteerAtomic, hafter]
  cases outcome with
  | success =>
    refine iff_of_true ⟨fun _ => ⟨rfl, rfl⟩, fun hrefused => ?_⟩ ⟨fun _ => Outcome.noConfusion, .inl trivial⟩
    exact absurd trivial hrefused
  | failure error =>
    refine iff_of_false ?_ fun hcondition => hcondition.1 error rfl
    rintro ⟨-, hrefused⟩
    obtain ⟨⟨reported, hanswers⟩, -⟩ := hrefused id
    have hlast := List.append_cancel_left hanswers
    cases hlast
  | rejected error taken =>
    have hrestored : (self.actor.enqueueSteering message |>.dequeueSteering message).steeringQueue =
        (self.actor.steeringQueue ++ [message]).erase message :=
      SessionActor.steeringQueue_dequeueSteering _ _
    constructor
    · rintro ⟨-, hrefused⟩
      obtain ⟨-, hqueue⟩ := hrefused id
      exact ⟨fun _ => Outcome.noConfusion, .inr (erase_concat_eq_iff.mp (hrestored.symm.trans hqueue))⟩
    · rintro ⟨-, hnever | honly⟩
      · exact hnever.elim
      · exact ⟨False.elim, fun _ => ⟨⟨_, rfl⟩, hrestored.trans (erase_concat_eq_iff.mpr honly)⟩⟩

/-- A turn in progress, with what happens in it. -/
def turn (events : List Event) : Mailbox :=
  run step (start (js "/sessions/a.jsonl"))
    ([.enqueue (.attach ⟨0, 0⟩ ⟨[], none, js "off"⟩), .run false, .enqueue .begin_turn, .run false] ++ events)

theorem steerAtomic_iff_timeout :
    (turn [.enqueue (.steer (js "go"))]).SteerAtomic (js "go") [] (.rejected (js "Timeout") false) false ↔
      (∀ error, Outcome.rejected (js "Timeout") false ≠ .failure error) ∧
        ((Outcome.rejected (js "Timeout") false).Accepted ∨
          OnlyAtEnd (js "go") (turn [.enqueue (.steer (js "go"))]).actor.steeringQueue) :=
  steerAtomic_iff _ _ [] _ _ ⟨rfl, rfl, rfl, by decide⟩ fun _ _ => List.not_mem_nil

/-- A steer that Pi refuses is answered with success and stays in the queue. -/
theorem refused_steer_stays : (turn [.enqueue (.steer (js "go"))]).Steers (js "go") ∧
    ¬ (turn [.enqueue (.steer (js "go"))]).SteerAtomic (js "go") [] (.failure (js "busy")) false := by
  refine ⟨⟨rfl, rfl, rfl, by decide⟩, ?_⟩
  rintro ⟨-, hrefused⟩
  exact absurd (hrefused id).2 (by decide)

/-- In a turn from which the user has removed nothing, the queue has what Pi has accepted and not delivered back, with
    the steer whose request is under way behind it. -/
def Accurate (self : Mailbox) : Prop :=
  self.actor.isTurnActive = true → self.removed = false →
    self.actor.steeringQueue = self.undelivered ++ self.steering.toList

/-- Pi delivers the steers that it accepts once each, in their order and with their texts. -/
def Delivers (self : Mailbox) : Event → Prop
  | .run _ =>
    match self.steering, self.waiting with
    | none, .process_event proc generation event true :: _ =>
      self.actor.owns proc generation = true → self.actor.session ≠ none →
        ∃ text, event = .user_message_end text ∧ self.undelivered.head? = some text
    | _, _ => True
  | _ => True

/-- The operation takes no entry from the queue that it did not add, and no listener throws when it adds one. -/
def Sparing (self : Mailbox) (listenerThrows : Bool) : Operation → Prop
  | .steer _ => self.actor.isTurnActive = true → self.actor.process ≠ none → listenerThrows = false
  | .process_event proc generation (.user_message_end text) false =>
    self.actor.owns proc generation = true → self.actor.session ≠ none → text ∉ self.actor.steeringQueue
  | .process_event proc generation .agent_end _ =>
    self.actor.owns proc generation = true → self.actor.session ≠ none → self.actor.steeringQueue = []
  | _ => True

/-- The step keeps the queue accurate: its operation is sparing, and a request for a steer ends with success, or with
    a rejection by a Pi that has not taken the steer, where no other text stands behind an equal one. -/
def KeepsSteers (self : Mailbox) : Event → Prop
  | .enqueue _ => True
  | .run listenerThrows =>
    match self.steering, self.waiting with
    | none, operation :: _ => self.Sparing listenerThrows operation
    | _, _ => True
  | .answered outcome _ =>
    match self.steering, outcome with
    | none, _ => True
    | some _, .success => True
    | some _, .failure _ => False
    | some message, .rejected _ taken => taken = false ∧ OnlyAtEnd message self.actor.steeringQueue.dropLast

/-- The invariant behind `Accurate`, in any phase. -/
def Counted (self : Mailbox) : Prop :=
  self.removed = false → self.actor.steeringQueue = self.undelivered ++ self.steering.toList

theorem counted_finishSteering {message : JsString} (h : self.Counted) (hsteering : self.steering = some message)
    {outcome : Outcome} {listenerThrows : Bool} (hkeeps : self.KeepsSteers (.answered outcome listenerThrows)) :
    (self.finishSteering message listenerThrows outcome).Counted := by
  unfold Counted at h
  rw [hsteering, Option.toList_some] at h
  cases outcome with
  | success =>
    intro hremoved
    rw [finishSteering, Option.toList_none, List.append_nil]
    exact h hremoved
  | failure error =>
    simp only [KeepsSteers, hsteering] at hkeeps
  | rejected error taken =>
    simp only [KeepsSteers, hsteering] at hkeeps
    obtain ⟨rfl, honly⟩ := hkeeps
    intro hremoved
    have hqueue := h hremoved
    rw [hqueue, List.dropLast_concat, ← erase_concat_eq_iff, ← hqueue] at honly
    simp only [finishSteering, SessionActor.steeringQueue_dequeueSteering, Option.toList_none, List.append_nil,
      Bool.false_eq_true, if_false]
    exact honly

theorem counted_sendSteering {message : JsString} (h : self.Counted) (hsteering : self.steering = none)
    {listenerThrows : Bool} (hsparing : self.Sparing listenerThrows (.steer message)) :
    (self.sendSteering message listenerThrows).Counted := by
  unfold Counted at h
  rw [hsteering, Option.toList_none, List.append_nil] at h
  unfold sendSteering
  split
  · intro hremoved
    rw [hsteering, Option.toList_none, List.append_nil]
    exact h hremoved
  · rename_i hsends
    rw [not_or, not_not] at hsends
    rw [if_neg (by simp [hsparing hsends.1 hsends.2])]
    intro hremoved
    rw [SessionActor.steeringQueue_enqueueSteering, h hremoved, Option.toList_some]

theorem counted_applyProcessEvent {proc generation : Nat} {event : PiEvent} {delivery : Bool} (h : self.Counted)
    (hsteering : self.steering = none) {rest : List Operation}
    (hwaiting : self.waiting = .process_event proc generation event delivery :: rest) {listenerThrows : Bool}
    (hdelivers : self.Delivers (.run listenerThrows))
    (hsparing : self.Sparing listenerThrows (.process_event proc generation event delivery)) :
    (self.applyProcessEvent proc generation event delivery).Counted := by
  unfold Counted at h
  rw [hsteering, Option.toList_none, List.append_nil] at h
  intro hremoved
  have hqueue := h hremoved
  simp only [applyProcessEvent, hsteering, Option.toList_none, List.append_nil]
  by_cases happlied : self.actor.owns proc generation = true ∧ self.actor.session ≠ none
  · obtain ⟨howns, hsession⟩ := happlied
    rw [SessionActor.steeringQueue_applyProcessEvent ⟨howns, hsession⟩]
    cases delivery with
    | true =>
      simp only [Delivers, hsteering, hwaiting] at hdelivers
      obtain ⟨text, rfl, hhead⟩ := hdelivers howns hsession
      obtain ⟨later, hlater⟩ := List.head?_eq_some_iff.mp hhead
      rw [if_pos ⟨rfl, howns, hsession⟩, hqueue, hlater]
      exact List.erase_cons_head text later
    | false =>
      rw [if_neg (by simp)]
      cases event with
      | agent_end =>
        have hempty := hsparing howns hsession
        rw [← hqueue, hempty]
      | user_message_end text => exact (List.erase_of_not_mem (hsparing howns hsession)).trans hqueue
      | agent_start => exact hqueue
      | agent_settled => exact hqueue
      | other => exact hqueue
  · rw [SessionActor.steeringQueue_applyProcessEvent_of_not happlied, if_neg (fun hall => happlied hall.2)]
    exact hqueue

theorem counted_removeSteering {index : Int} (h : self.Counted) :
    (self.removeSteering index).Counted := by
  intro hremoved
  simp only [removeSteering, Bool.or_eq_false_iff, decide_eq_false_iff_not, not_and_or, not_le, not_lt] at hremoved ⊢
  rw [SessionActor.removeSteeringByIndex, if_pos hremoved.2]
  exact h hremoved.1

theorem counted_detach {listenerThrows : Bool} (h : self.Counted) (hsteering : self.steering = none) :
    (self.detach listenerThrows).Counted := by
  unfold detach
  split
  · exact h
  · rename_i hattached
    intro _
    change (self.actor.detach listenerThrows).steeringQueue = [] ++ self.steering.toList
    rw [SessionActor.steeringQueue_detach, if_neg hattached, hsteering]
    rfl

/-- Every step that keeps the steers keeps the count. -/
theorem counted_step (h : self.Counted) {event : Event} (hdelivers : self.Delivers event)
    (hkeeps : self.KeepsSteers event) : (self.step event).Counted := by
  cases event with
  | enqueue operation => exact h
  | answered outcome listenerThrows =>
    cases hsteering : self.steering with
    | none =>
      rw [step, hsteering]
      exact h
    | some message =>
      rw [step, hsteering]
      exact counted_finishSteering h hsteering hkeeps
  | run listenerThrows =>
    cases hsteering : self.steering with
    | some message =>
      simp only [step, hsteering]
      exact h
    | none =>
      cases hwaiting : self.waiting with
      | nil =>
        simp only [step, hsteering, hwaiting]
        exact h
      | cons operation rest =>
        have hsparing : self.Sparing listenerThrows operation := by
          simpa only [KeepsSteers, hsteering, hwaiting] using hkeeps
        have hrest : Counted { self with waiting := rest } := h
        simp only [step, hsteering, hwaiting]
        rw [← hsteering]
        cases operation with
        | attach lease session =>
          intro hremoved
          exact (SessionActor.steeringQueue_attach _ _ _).trans (h hremoved)
        | begin_turn =>
          intro hremoved
          exact (SessionActor.steeringQueue_beginTurn _).trans (h hremoved)
        | steer message => exact counted_sendSteering hrest hsteering hsparing
        | process_event proc generation event delivery =>
          have happlied : (self.applyProcessEvent proc generation event delivery).Counted :=
            counted_applyProcessEvent h hsteering hwaiting hdelivers hsparing
          exact happlied
        | remove_steering index => exact counted_removeSteering hrest
        | mark_failed =>
          intro hremoved
          exact (SessionActor.steeringQueue_markFailed _).trans (h hremoved)
        | detach => exact counted_detach hrest hsteering

/-- While every step keeps the steers, the queue is accurate in every state of a run. -/
theorem steering_queue_accurate (sessionPath : JsString) (events : List Event)
    (hdelivers : EveryStep step (start sessionPath) Delivers events)
    (hkeeps : EveryStep step (start sessionPath) KeepsSteers events) :
    Always step (start sessionPath) Accurate events := by
  have hok : EveryStep step (start sessionPath) (fun self event => self.Delivers event ∧ self.KeepsSteers event)
      events := fun before event hextends => ⟨hdelivers before event hextends, hkeeps before event hextends⟩
  have hcounted : Always step (start sessionPath) Counted events :=
    always_of_everyStep (fun _ => rfl) (fun _ _ h hstep => counted_step h hstep.1 hstep.2) hok
  exact fun before hbefore _ => hcounted before hbefore

/-- A turn whose prompt is delivered after a steer was accepted, and the steer after it. -/
def delivered (prompt steer : JsString) : List Event :=
  [.enqueue (.attach ⟨0, 0⟩ ⟨[], none, js "off"⟩), .run false, .enqueue .begin_turn, .run false,
    .enqueue (.steer steer), .run false, .answered .success false,
    .enqueue (.process_event 0 1 (.user_message_end prompt) false), .run false]

theorem delivers_delivered (prompt steer : JsString) :
    EveryStep step (start (js "/sessions/a.jsonl")) Delivers (delivered prompt steer) := by
  simp only [delivered, everyStep_cons]
  exact ⟨trivial, trivial, trivial, trivial, trivial, trivial, trivial, trivial, trivial, everyStep_nil⟩

theorem steering_queue_accurate_delivered :
    Always step (start (js "/sessions/a.jsonl")) Accurate (delivered (js "fix it") (js "go")) := by
  refine steering_queue_accurate (js "/sessions/a.jsonl") (delivered (js "fix it") (js "go"))
    (delivers_delivered _ _) ?_
  simp only [delivered, everyStep_cons]
  refine ⟨trivial, trivial, trivial, trivial, trivial, fun _ _ => rfl, trivial, trivial, fun _ _ => ?_, everyStep_nil⟩
  decide

/-- A prompt with the text of a steer takes it from the queue, although Pi has not delivered it. -/
theorem prompt_takes_steer :
    ∃ sessionPath events, EveryStep step (start sessionPath) Delivers events ∧
      ¬ Always step (start sessionPath) Accurate events := by
  refine ⟨js "/sessions/a.jsonl", delivered (js "go") (js "go"), ?_, fun halways => ?_⟩
  · exact delivers_delivered _ _
  · exact absurd (halways.last (by decide) (by decide)) (by decide)

end Mailbox

end pipane.session_actor

import Mathlib.Data.List.Nodup
import Pipane.Client.WsAgentAdapter.Prompt.Backend

open javascript transition pipane.ws_handler

namespace pipane.ws_agent_adapter.prompts

/-- No input is passed to the Pi process twice. -/
def DispatchedAtMostOnce (self : System) : Prop :=
  (self.backend.dispatched.map fun frame => frame.command.message.id).Nodup

/-- A command that the server takes up is not a replay whose receipt is gone, nor a queued prompt that is sent
    again after an earlier request for it has been taken up. -/
def NotTakenUpAgain (self : System) : Event → Prop
  | .serverReceives =>
    ∀ frame outgoing, self.client.outgoing = frame :: outgoing →
      match frame.command.operationId with
      | some operationId =>
        operationId ∈ self.backend.taken → self.backend.controlOperations.get? operationId ≠ none
      | none =>
        (∀ execution ∈ self.backend.executions,
          execution.frame.command.message.id ≠ frame.command.message.id) ∧
        ∀ other ∈ self.backend.dispatched, other.command.message.id ≠ frame.command.message.id
  | _ => True

/-- A prompt that waits for the end of a compaction, or was flushed after one. -/
def IsQueued (adapter : WsAgentAdapter) (submission : Submission) : Prop :=
  (∃ sessionPath prompts, adapter.compactionQueues.get? sessionPath = some prompts ∧ submission ∈ prompts) ∨
  ∃ batch ∈ adapter.batches, ∃ item ∈ batch.items, item.prompt = submission

/-- An input that has been neither sent nor queued. -/
def IsFree (adapter : WsAgentAdapter) (submission : Submission) : Prop :=
  submission.id < adapter.submissions ∧
  (∀ frame ∈ adapter.sent, frame.command.message.id ≠ submission.id) ∧
  ∀ queued, IsQueued adapter queued → queued.id ≠ submission.id

/-- The same for an input that no suspended `prompt` holds. -/
def IsUnused (adapter : WsAgentAdapter) (submission : Submission) : Prop :=
  IsFree adapter submission ∧ ∀ call ∈ adapter.calls, call.submission.id ≠ submission.id

/-- Each input is sent under one operation id, or queued and sent without any. -/
structure Submits (before : List Frame) (adapter : WsAgentAdapter) : Prop where
  grown : before ⊆ adapter.sent
  callsNodup : (adapter.calls.map fun call => call.submission.id).Nodup
  calls : ∀ call ∈ adapter.calls, IsFree adapter call.submission
  sent_lt : ∀ frame ∈ adapter.sent, frame.command.message.id < adapter.submissions
  queued_lt : ∀ submission, IsQueued adapter submission → submission.id < adapter.submissions
  once : ∀ frame ∈ adapter.sent, frame.command.operationId ≠ none → ∀ other ∈ adapter.sent,
    other.command.message.id = frame.command.message.id → other = frame
  queued : ∀ submission, IsQueued adapter submission → ∀ frame ∈ adapter.sent,
    frame.command.message.id = submission.id → frame.command.operationId = none
  outgoing : adapter.outgoing ⊆ adapter.sent
  requests : ∀ request ∈ adapter.pendingRequests, ∀ frame, request.frame = some frame → frame ∈ adapter.sent

namespace Submits

section

variable {self : WsAgentAdapter} {before : List Frame}

theorem start : Submits [] .start where
  grown := List.nil_subset _
  callsNodup := List.nodup_nil
  calls _ hmem := absurd hmem List.not_mem_nil
  sent_lt _ hmem := absurd hmem List.not_mem_nil
  queued_lt := by
    rintro _ (⟨_, _, hsome, -⟩ | ⟨_, hmem, -⟩)
    · cases hsome
    · cases hmem
  once _ hmem := absurd hmem List.not_mem_nil
  queued := by
    rintro _ - _ hmem
    cases hmem
  outgoing := List.nil_subset _
  requests _ hmem := absurd hmem List.not_mem_nil

theorem requeued (h : Submits before self) (compactionQueues : OrderedMap JsString (List Submission))
    (batches : List FlushBatch)
    (hqueued : ∀ submission, IsQueued { self with compactionQueues, batches } submission →
      IsQueued self submission) :
    Submits before { self with compactionQueues, batches } :=
  { h with
    calls := fun call hmem =>
      ⟨(h.calls call hmem).1, (h.calls call hmem).2.1, fun queued hq => (h.calls call hmem).2.2 queued (hqueued _ hq)⟩
    queued_lt := fun submission hq => h.queued_lt submission (hqueued _ hq)
    queued := fun submission hq => h.queued submission (hqueued _ hq) }

/-- A frame is handed to the carrier. -/
theorem sendFrame (h : Submits before self) {frame : Frame} {continuation : Continuation} {requestId : Nat}
    (hlt : frame.command.message.id < self.submissions)
    (hcalls : ∀ call ∈ self.calls, call.submission.id ≠ frame.command.message.id)
    (hold : ∀ other ∈ self.sent, other.command.message.id = frame.command.message.id →
      other.command.operationId = none ∧ frame.command.operationId = none)
    (hqueued : ∀ queued, IsQueued self queued → queued.id = frame.command.message.id →
      frame.command.operationId = none) :
    Submits before { self with
      requestId
      pendingRequests := self.pendingRequests ++ [{ id := frame.id, frame := some frame, continuation }]
      outgoing := self.outgoing ++ [frame]
      sent := self.sent ++ [frame] } where
  grown := List.Subset.trans h.grown (List.subset_append_left _ _)
  callsNodup := h.callsNodup
  calls call hmem := by
    obtain ⟨hcallLt, hunsent, hunqueued⟩ := h.calls call hmem
    refine ⟨hcallLt, fun other hother => ?_, hunqueued⟩
    obtain hother | hother := List.mem_append.mp hother
    · exact hunsent other hother
    · rw [List.mem_singleton.mp hother]
      exact (hcalls call hmem).symm
  sent_lt other hother := by
    obtain hother | hother := List.mem_append.mp hother
    · exact h.sent_lt other hother
    · rw [List.mem_singleton.mp hother]
      exact hlt
  queued_lt := h.queued_lt
  once first hfirst hoperation second hsecond hsame := by
    obtain hfirst | hfirst := List.mem_append.mp hfirst
    · obtain hsecond | hsecond := List.mem_append.mp hsecond
      · exact h.once first hfirst hoperation second hsecond hsame
      · rw [List.mem_singleton.mp hsecond] at hsame
        exact absurd (hold first hfirst hsame.symm).1 hoperation
    · rw [List.mem_singleton.mp hfirst] at hoperation hsame ⊢
      obtain hsecond | hsecond := List.mem_append.mp hsecond
      · exact absurd (hold second hsecond hsame).2 hoperation
      · exact List.mem_singleton.mp hsecond
  queued submission hq other hother hsame := by
    obtain hother | hother := List.mem_append.mp hother
    · exact h.queued submission hq other hother hsame
    · rw [List.mem_singleton.mp hother] at hsame ⊢
      exact hqueued submission hq hsame.symm
  outgoing := List.append_subset.mpr
    ⟨List.Subset.trans h.outgoing (List.subset_append_left _ _), List.subset_append_right _ _⟩
  requests request hmem other hother := by
    obtain hmem | hmem := List.mem_append.mp hmem
    · exact List.mem_append_left _ (h.requests request hmem other hother)
    · rw [List.mem_singleton.mp hmem] at hother
      rw [← Option.some.inj hother]
      exact List.mem_concat_self

theorem sendOperation (h : Submits before self) {type : CommandType} {sessionPath : Target}
    {message : Submission} {continuation : Continuation} (hunused : IsUnused self message) :
    Submits before (self.sendOperation type sessionPath message continuation) := by
  obtain ⟨⟨hlt, hunsent, hunqueued⟩, hcalls⟩ := hunused
  have hcounted : Submits before { self with randomUUIDs := self.randomUUIDs + 1 } := { h with }
  unfold WsAgentAdapter.sendOperation WsAgentAdapter.send
  split
  · exact { h with }
  · extract_lets frame
    refine hcounted.sendFrame hlt hcalls (fun other hother hsame => ?_) fun queued hq hsame => ?_
    · exact absurd hsame (hunsent other hother)
    · exact absurd hsame (hunqueued queued hq)

theorem sendQueued (h : Submits before self) {command : ClientCommand} {continuation : Continuation}
    (hqueued : IsQueued self command.message) (hoperation : command.operationId = none) :
    Submits before (self.send command continuation) := by
  unfold WsAgentAdapter.send
  split
  · exact { h with }
  · refine h.sendFrame (h.queued_lt _ hqueued) (fun call hmem => ?_) (fun other hother hsame => ?_)
      fun _ _ _ => hoperation
    · exact ((h.calls call hmem).2.2 _ hqueued).symm
    · exact ⟨h.queued _ hqueued other hother hsame, hoperation⟩

theorem resolveStarting (h : Submits before self) (key : StartKey) (sessionPath : JsString) :
    Submits before (self.resolveStarting key sessionPath) := by
  rw [WsAgentAdapter.resolveStarting]
  split
  · exact h
  · exact { h with }

theorem setGlobalSessionStatus (h : Submits before self) (sessionPath : JsString)
    (status : SessionStatus) : Submits before (self.setGlobalSessionStatus sessionPath status) := by
  unfold WsAgentAdapter.setGlobalSessionStatus
  extract_lets next
  have hnext : Submits before next := { h with }
  split
  · exact hnext.resolveStarting _ _
  · exact hnext

theorem onSessionAttached (h : Submits before self) (sessionPath : JsString) :
    Submits before (self.onSessionAttached sessionPath) := by
  unfold WsAgentAdapter.onSessionAttached
  extract_lets next
  have hnext : Submits before next := h.setGlobalSessionStatus _ _
  split
  · split
    · apply resolveStarting
      exact { hnext with }
    · exact hnext
  · exact hnext

theorem enqueueCompactionPrompt (h : Submits before self) (sessionPath : JsString) {prompt : Submission}
    (hunused : IsUnused self prompt) : Submits before (self.enqueueCompactionPrompt sessionPath prompt) := by
  rw [WsAgentAdapter.enqueueCompactionPrompt]
  split
  · exact h
  · obtain ⟨⟨hlt, hunsent, -⟩, hcalls⟩ := hunused
    have hqueued (submission : Submission)
        (hq : IsQueued { self with
          compactionQueues := self.compactionQueues.set sessionPath
            ((self.compactionQueues.get? sessionPath).getD [] ++ [prompt]) } submission) :
        submission = prompt ∨ IsQueued self submission := by
      obtain ⟨path, prompts, hget, hmem⟩ | hbatch := hq
      · simp only [OrderedMap.get?_set] at hget
        split at hget
        · rw [← Option.some.inj hget] at hmem
          obtain hmem | hmem := List.mem_append.mp hmem
          · cases hqueue : self.compactionQueues.get? sessionPath with
            | none =>
              rw [hqueue] at hmem
              cases hmem
            | some queue =>
              rw [hqueue] at hmem
              exact .inr (.inl ⟨sessionPath, queue, hqueue, hmem⟩)
          · exact .inl (List.mem_singleton.mp hmem)
        · exact .inr (.inl ⟨path, prompts, hget, hmem⟩)
      · exact .inr (.inr hbatch)
    exact { h with
      calls := by
        intro call hmem
        refine ⟨(h.calls call hmem).1, (h.calls call hmem).2.1, fun queued hq => ?_⟩
        obtain rfl | hq := hqueued queued hq
        · exact (hcalls call hmem).symm
        · exact (h.calls call hmem).2.2 queued hq
      queued_lt := by
        intro submission hq
        obtain rfl | hq := hqueued submission hq
        · exact hlt
        · exact h.queued_lt submission hq
      queued := by
        intro submission hq frame hmem hsame
        obtain rfl | hq := hqueued submission hq
        · exact absurd hsame (hunsent frame hmem)
        · exact h.queued submission hq frame hmem hsame }

theorem sendFlushed (h : Submits before self) (sessionPath : JsString) (batch index : Nat)
    {prompts : List Submission} (hqueued : ∀ prompt ∈ prompts, IsQueued self prompt) :
    Submits before (self.sendFlushed sessionPath batch index prompts) := by
  induction prompts generalizing self index with
  | nil => exact h
  | cons prompt prompts ih =>
    apply ih
    · exact h.sendQueued (hqueued prompt List.mem_cons_self) rfl
    · intro other hmem
      have hother := hqueued other (List.mem_cons_of_mem _ hmem)
      unfold WsAgentAdapter.send
      split
      · exact hother
      · exact hother

theorem flushCompactionQueue (h : Submits before self) (sessionPath : JsString) :
    Submits before (self.flushCompactionQueue sessionPath) := by
  unfold WsAgentAdapter.flushCompactionQueue
  split
  · exact h
  · rename_i queue hqueue
    split
    · exact h
    · extract_lets batch flushed
      have hflushed : Submits before flushed := by
        apply h.requeued
        rintro submission (⟨path, prompts, hget, hmem⟩ | ⟨batch, hmem, item, hitem, rfl⟩)
        · simp only [OrderedMap.get?_erase] at hget
          split at hget
          · cases hget
          · exact .inl ⟨path, prompts, hget, hmem⟩
        · obtain hmem | hmem := List.mem_append.mp hmem
          · exact .inr ⟨batch, hmem, item, hitem, rfl⟩
          · rw [List.mem_singleton.mp hmem] at hitem
            obtain ⟨prompt, hprompt, rfl⟩ := List.mem_map.mp hitem
            exact .inl ⟨sessionPath, queue, hqueue, hprompt⟩
      apply hflushed.sendFlushed
      intro prompt hmem
      refine .inr ⟨FlushBatch.ofQueue sessionPath queue, List.mem_concat_self, ?_⟩
      exact ⟨_, List.mem_map_of_mem hmem, rfl⟩

theorem requeue (h : Submits before self) (index : Nat) : Submits before (self.requeue index) := by
  unfold WsAgentAdapter.requeue
  split
  · exact h
  · rename_i batch hbatch
    split
    · exact h
    · extract_lets next failed
      have hbatches {submission : Submission}
          (hq : ∃ other ∈ next.batches, ∃ item ∈ other.items, item.prompt = submission) :
          IsQueued self submission := by
        obtain ⟨other, hmem, item, hitem, rfl⟩ := hq
        obtain hmem | rfl := List.mem_or_eq_of_mem_set hmem
        · exact .inr ⟨other, hmem, item, hitem, rfl⟩
        · cases hitem
      split
      · apply h.requeued self.compactionQueues
        rintro submission (hq | hq)
        · exact .inl hq
        · exact hbatches hq
      · apply h.requeued
        rintro submission (⟨path, prompts, hget, hmem⟩ | hq)
        · simp only [OrderedMap.get?_set] at hget
          split at hget
          · rw [← Option.some.inj hget] at hmem
            obtain hmem | hmem := List.mem_append.mp hmem
            · obtain ⟨item, hitem, rfl⟩ := List.mem_map.mp hmem
              exact .inr ⟨batch, List.mem_of_getElem? hbatch, item, List.mem_of_mem_filter hitem, rfl⟩
            · cases hqueue : self.compactionQueues.get? batch.sessionPath with
              | none =>
                simp only [next, hqueue] at hmem
                cases hmem
              | some queue =>
                simp only [next, hqueue] at hmem
                exact .inl ⟨batch.sessionPath, queue, hqueue, hmem⟩
          · exact .inl ⟨path, prompts, hget, hmem⟩
        · exact hbatches hq

theorem removeQueued (h : Submits before self) (sessionPath : JsString) (index : Nat) :
    Submits before (self.removeQueued sessionPath index) := by
  unfold WsAgentAdapter.removeQueued
  extract_lets queue next
  split
  · exact h
  · apply h.requeued _ self.batches
    rintro submission (⟨path, prompts, hget, hmem⟩ | hq)
    · simp only at hget
      split at hget
      · rw [OrderedMap.get?_erase] at hget
        split at hget
        · cases hget
        · exact .inl ⟨path, prompts, hget, hmem⟩
      · rw [OrderedMap.get?_set] at hget
        split at hget
        · rw [← Option.some.inj hget] at hmem
          have hmem : submission ∈ queue := List.mem_of_mem_eraseIdx hmem
          cases hqueue : self.compactionQueues.get? sessionPath with
          | none =>
            simp only [queue, hqueue, Option.getD_none] at hmem
            cases hmem
          | some prompts =>
            simp only [queue, hqueue, Option.getD_some] at hmem
            exact .inl ⟨sessionPath, prompts, hqueue, hmem⟩
        · exact .inl ⟨path, prompts, hget, hmem⟩
    · exact .inr hq

theorem suspend (h : Submits before self) {call : PromptCall} (hunused : IsUnused self call.submission) :
    Submits before { self with calls := self.calls ++ [call] } :=
  { h with
    callsNodup := by
      rw [List.map_append, List.nodup_append']
      refine ⟨h.callsNodup, List.nodup_singleton _, fun id hold hnew => ?_⟩
      obtain ⟨other, hmem, rfl⟩ := List.mem_map.mp hold
      exact hunused.2 other hmem (List.mem_singleton.mp hnew)
    calls := by
      intro other hmem
      obtain hmem | hmem := List.mem_append.mp hmem
      · exact h.calls other hmem
      · rw [List.mem_singleton.mp hmem]
        exact hunused.1 }

theorem prompt (h : Submits before self) {submission : Submission} (hunused : IsUnused self submission) :
    Submits before (self.prompt submission) := by
  rw [WsAgentAdapter.prompt]
  split
  · rename_i handled hhandled
    unfold WsAgentAdapter.handleSlashCommand at hhandled
    split at hhandled
    · cases hhandled
    · cases hhandled
      exact { h with }
    · cases hhandled
      exact h
    · split at hhandled
      · cases hhandled
        exact h
      · extract_lets compacting at hhandled
        split at hhandled
        · cases hhandled
          exact { h with }
        · cases hhandled
          exact { h with
            requests := by
              intro request hmem frame hframe
              obtain hmem | hmem := List.mem_append.mp hmem
              · exact h.requests request hmem frame hframe
              · rw [List.mem_singleton.mp hmem] at hframe
                cases hframe }
  · exact h.suspend hunused

theorem count (h : Submits before self) (text : JsString) :
    Submits before self.countSubmission ∧ IsUnused self.countSubmission (self.submission text) := by
  refine ⟨{ h with
    calls := fun call hmem => ⟨Nat.lt_succ_of_lt (h.calls call hmem).1, (h.calls call hmem).2⟩
    sent_lt := fun frame hmem => Nat.lt_succ_of_lt (h.sent_lt frame hmem)
    queued_lt := fun submission hq => Nat.lt_succ_of_lt (h.queued_lt submission hq) },
    ⟨Nat.lt_succ_self _, fun frame hmem => ?_, fun queued hq => ?_⟩, fun call hmem => ?_⟩
  · exact Nat.ne_of_lt (h.sent_lt frame hmem)
  · exact Nat.ne_of_lt (h.queued_lt queued hq)
  · exact Nat.ne_of_lt (h.calls call hmem).1

theorem callPrompt (h : Submits before self) (text : JsString) : Submits before (self.callPrompt text) :=
  (h.count text).1.prompt (h.count text).2

theorem steer (h : Submits before self) (text : JsString) : Submits before (self.steer text) := by
  unfold WsAgentAdapter.steer
  split
  · exact h
  · split
    · exact h
    · extract_lets steering counted
      obtain ⟨hcounted, hunused⟩ := h.count text
      split
      · exact hcounted.enqueueCompactionPrompt _ hunused
      · split
        · exact hcounted.sendOperation hunused
        · exact hcounted

theorem forkAndPrompt (h : Submits before self) (text : JsString) :
    Submits before (self.forkAndPrompt text) := by
  rw [WsAgentAdapter.forkAndPrompt]
  split
  · exact h.callPrompt text
  · split
    · exact h.callPrompt text
    · split
      · exact h
      · exact (h.count text).1.sendOperation (h.count text).2

theorem startPrompt (h : Submits before self) {submission : Submission}
    (hunused : IsUnused self submission) : Submits before (self.startPrompt submission) := by
  unfold WsAgentAdapter.startPrompt
  extract_lets key entry starting
  have hstarting : Submits before starting := { h with }
  split
  · exact h
  · split
    · have hpending : Submits before { starting with pendingNewPrompt := true } := { hstarting with }
      exact hpending.sendOperation hunused
    · split
      · exact hstarting
      · exact hstarting.sendOperation hunused

theorem afterSlashCommand (h : Submits before self) {submission : Submission}
    (hunused : IsUnused self submission) : Submits before (self.afterSlashCommand submission) := by
  unfold WsAgentAdapter.afterSlashCommand
  extract_lets sessionPath
  split
  · exact h.enqueueCompactionPrompt _ hunused
  · split
    · exact h.suspend hunused
    · split
      · exact h.sendOperation hunused
      · exact h.startPrompt hunused

theorem takeCall (h : Submits before self) {index : Nat} {call : PromptCall}
    (hcall : self.calls[index]? = some call) :
    Submits before { self with calls := self.calls.eraseIdx index } ∧
      IsUnused { self with calls := self.calls.eraseIdx index } call.submission := by
  refine ⟨{ h with
    callsNodup := h.callsNodup.sublist ((List.eraseIdx_sublist _ _).map _)
    calls := fun other hmem => h.calls other (List.mem_of_mem_eraseIdx hmem) },
    h.calls call (List.mem_of_getElem? hcall), fun other hmem hsame => ?_⟩
  obtain ⟨i, hne, hother⟩ := List.mem_eraseIdx_iff_getElem?.mp hmem
  have hi : i < (self.calls.map fun call => call.submission.id).length := by
    rw [List.length_map]
    exact (List.getElem?_eq_some_iff.mp hother).1
  apply hne
  apply (List.getElem?_inj hi h.callsNodup).mp
  rw [List.getElem?_map, List.getElem?_map, hother, hcall, Option.map_some, Option.map_some, hsame]

theorem resumeCall (h : Submits before self) (index : Nat) : Submits before (self.resumeCall index) := by
  unfold WsAgentAdapter.resumeCall
  split
  · exact h
  · rename_i call hcall
    extract_lets resumed
    obtain ⟨hresumed, hunused⟩ := h.takeCall hcall
    split
    · exact hresumed.afterSlashCommand hunused
    · split
      · exact h
      · rw [WsAgentAdapter.afterReady]
        split
        · exact hresumed.sendOperation hunused
        · exact hresumed.suspend hunused
    · split
      · rw [WsAgentAdapter.afterFinished]
        split
        · exact hresumed
        · exact hresumed.prompt hunused
      · exact h

theorem onPromptNewSettled (h : Submits before self) (sessionNonce : Nat) (key : StartKey) (entry : Nat)
    (result : Option ResponseData) : Submits before (self.onPromptNewSettled sessionNonce key entry result) := by
  unfold WsAgentAdapter.onPromptNewSettled
  extract_lets adopted settled
  have hadopted : Submits before adopted := by
    simp only [adopted]
    split
    · exact h
    · split
      · exact h
      · split
        · exact h
        · split
          · exact { h with }
          · exact h
  exact { hadopted with }

theorem onForkPromptSettled (h : Submits before self) (sessionNonce : Nat)
    (result : Option ResponseData) : Submits before (self.onForkPromptSettled sessionNonce result) := by
  unfold WsAgentAdapter.onForkPromptSettled
  split
  · exact h
  · split
    · exact h
    · split
      · exact h
      · exact { h with }

theorem onFlushSettled (h : Submits before self) (batch index : Nat) (result : Option ResponseData) :
    Submits before (self.onFlushSettled batch index result) := by
  apply h.requeued self.compactionQueues
  rintro submission (hq | ⟨changed, hmem, item, hitem, rfl⟩)
  · exact .inl hq
  · obtain ⟨i, hi⟩ := List.mem_iff_getElem?.mp hmem
    rw [List.getElem?_modify, Option.map_eq_map, Option.map_eq_some_iff] at hi
    obtain ⟨old, hold, rfl⟩ := hi
    by_cases hsettled : batch = i
    · simp only [if_pos hsettled] at hitem
      obtain ⟨j, hj⟩ := List.mem_iff_getElem?.mp hitem
      rw [List.getElem?_modify, Option.map_eq_map, Option.map_eq_some_iff] at hj
      obtain ⟨oldItem, holdItem, rfl⟩ := hj
      refine .inr ⟨old, List.mem_of_getElem? hold, oldItem, List.mem_of_getElem? holdItem, ?_⟩
      split
      · rfl
      · rfl
    · simp only [if_neg hsettled] at hitem
      exact .inr ⟨old, List.mem_of_getElem? hold, item, hitem, rfl⟩

theorem resume (h : Submits before self) (index : Nat) : Submits before (self.resume index) := by
  unfold WsAgentAdapter.resume
  split
  · exact h
  · rename_i settlement _
    extract_lets next
    have hnext : Submits before next := { h with }
    cases settlement.continuation with
    | promptNew sessionNonce view key entry => exact hnext.onPromptNewSettled sessionNonce key entry _
    | promptSession key entry sessionPath => exact { hnext with }
    | steer => exact hnext
    | forkPrompt sessionNonce => exact hnext.onForkPromptSettled sessionNonce _
    | flush batch item => exact hnext.onFlushSettled batch item _
    | compact sessionPath =>
      apply flushCompactionQueue
      exact { hnext with }

theorem settle (h : Submits before self) (id : Nat) (result : Option ResponseData) :
    Submits before (self.settle id result) := by
  rw [WsAgentAdapter.settle]
  split
  · exact h
  · exact { h with requests := fun request hmem => h.requests request (List.mem_of_mem_filter hmem) }

theorem onSendRefused (h : Submits before self) (replayed : Bool) :
    Submits before (self.onSendRefused replayed) := by
  unfold WsAgentAdapter.onSendRefused
  split
  · exact h
  · extract_lets next
    have hnext : Submits before next :=
      { h with outgoing := List.Subset.trans (List.dropLast_subset _) h.outgoing }
    split
    · exact hnext
    · exact hnext.settle _ _

theorem onConnected (h : Submits before self) : Submits before self.onConnected := by
  rw [WsAgentAdapter.onConnected]
  split
  · exact h
  · split
    · exact { h with
        outgoing := by
          intro frame hmem
          obtain ⟨request, hrequest, hframe⟩ := List.mem_filterMap.mp hmem
          exact h.requests request (List.mem_of_mem_filter hrequest) frame hframe }
    · exact { h with }

end

end Submits

/-- What the server has taken up and passed on was sent, and nothing twice. -/
structure TakenUpOnce (sent : List Frame) (backend : Backend) : Prop where
  executions : ∀ execution ∈ backend.executions, execution.frame ∈ sent ∧
    ∀ operationId, execution.frame.command.operationId = some operationId → operationId ∈ backend.taken
  dispatched : ∀ frame ∈ backend.dispatched, frame ∈ sent ∧
    ∀ operationId, frame.command.operationId = some operationId → operationId ∈ backend.taken
  executionsNodup : (backend.executions.map fun execution => execution.frame.command.message.id).Nodup
  dispatchedNodup : (backend.dispatched.map fun frame => frame.command.message.id).Nodup
  undispatched : ∀ execution ∈ backend.executions, execution.dispatched = false →
    ∀ frame ∈ backend.dispatched, frame.command.message.id ≠ execution.frame.command.message.id

namespace TakenUpOnce

section

variable {backend : Backend} {sent : List Frame}

theorem start : TakenUpOnce [] .start where
  executions _ hmem := absurd hmem List.not_mem_nil
  dispatched _ hmem := absurd hmem List.not_mem_nil
  executionsNodup := List.nodup_nil
  dispatchedNodup := List.nodup_nil
  undispatched _ hmem := absurd hmem List.not_mem_nil

theorem mono (h : TakenUpOnce sent backend) {more : List Frame} (hmore : sent ⊆ more) :
    TakenUpOnce more backend :=
  { h with
    executions := fun execution hmem => ⟨hmore (h.executions execution hmem).1, (h.executions execution hmem).2⟩
    dispatched := fun frame hmem => ⟨hmore (h.dispatched frame hmem).1, (h.dispatched frame hmem).2⟩ }

/-- A frame is taken up whose input no handler has and Pi has not got. -/
theorem takeUp (h : TakenUpOnce sent backend) {frame : Frame} (hsent : frame ∈ sent)
    (hexecutions : ∀ execution ∈ backend.executions,
      execution.frame.command.message.id ≠ frame.command.message.id)
    (hdispatched : ∀ other ∈ backend.dispatched, other.command.message.id ≠ frame.command.message.id)
    (controlOperations : ControlOperations Nat ClientCommand) :
    TakenUpOnce sent { backend with
      controlOperations
      executions := backend.executions ++ [{ frame, dispatched := false }]
      taken := backend.taken ++ frame.command.operationId.toList } where
  executions execution hmem := by
    obtain hmem | hmem := List.mem_append.mp hmem
    · obtain ⟨hold, htaken⟩ := h.executions execution hmem
      exact ⟨hold, fun operationId heq => List.mem_append_left _ (htaken operationId heq)⟩
    · rw [List.mem_singleton.mp hmem]
      refine ⟨hsent, fun operationId heq => List.mem_append_right _ ?_⟩
      rw [heq]
      exact List.mem_singleton_self _
  dispatched other hmem := by
    obtain ⟨hold, htaken⟩ := h.dispatched other hmem
    exact ⟨hold, fun operationId heq => List.mem_append_left _ (htaken operationId heq)⟩
  executionsNodup := by
    rw [List.map_append, List.nodup_append']
    refine ⟨h.executionsNodup, List.nodup_singleton _, fun id hold hnew => ?_⟩
    obtain ⟨execution, hmem, rfl⟩ := List.mem_map.mp hold
    exact hexecutions execution hmem (List.mem_singleton.mp hnew)
  dispatchedNodup := h.dispatchedNodup
  undispatched execution hmem hwaits other hother := by
    obtain hmem | hmem := List.mem_append.mp hmem
    · exact h.undispatched execution hmem hwaits other hother
    · rw [List.mem_singleton.mp hmem]
      exact hdispatched other hother

theorem receive (h : TakenUpOnce sent backend) {frame : Frame} (hsent : frame ∈ sent)
    (hfresh : (backend.controlOperations.runIdempotentControl frame.command.operationId frame.command).1 =
        .executed →
      (∀ execution ∈ backend.executions, execution.frame.command.message.id ≠ frame.command.message.id) ∧
      ∀ other ∈ backend.dispatched, other.command.message.id ≠ frame.command.message.id) :
    TakenUpOnce sent (backend.receive frame) := by
  unfold Backend.receive
  extract_lets admitted next
  split
  · rename_i hexecuted
    obtain ⟨hexecutions, hdispatched⟩ := hfresh hexecuted
    exact h.takeUp hsent hexecutions hdispatched admitted.2
  · exact { h with }

theorem create (h : TakenUpOnce sent backend) (index : Nat) (sessionPath : JsString) :
    TakenUpOnce sent (backend.create index sessionPath) := by
  rw [Backend.create]
  split
  · exact h
  · split
    · exact h
    · exact { h with }

theorem settle (h : TakenUpOnce sent backend) (index : Nat) : TakenUpOnce sent (backend.settle index) := by
  rw [Backend.settle]
  split
  · exact h
  · exact { h with
      executions := fun execution hmem => h.executions execution (List.mem_of_mem_eraseIdx hmem)
      executionsNodup := h.executionsNodup.sublist ((List.eraseIdx_sublist _ _).map _)
      undispatched := fun execution hmem => h.undispatched execution (List.mem_of_mem_eraseIdx hmem) }

theorem dispatch (h : TakenUpOnce sent backend) (index : Nat) :
    TakenUpOnce sent (backend.dispatch index) := by
  rw [Backend.dispatch]
  split
  · exact h
  · rename_i execution hexecution
    split
    · exact h
    · rename_i hwaits
      have hmem := List.mem_of_getElem? hexecution
      have hwaits : execution.dispatched = false := Bool.not_eq_true _ ▸ hwaits
      have hnew := h.undispatched execution hmem hwaits
      exact {
        executions := by
          intro other hother
          obtain hother | rfl := List.mem_or_eq_of_mem_set hother
          · exact h.executions other hother
          · exact h.executions execution hmem
        dispatched := by
          intro frame hframe
          obtain hframe | hframe := List.mem_append.mp hframe
          · exact h.dispatched frame hframe
          · rw [List.mem_singleton.mp hframe]
            exact h.executions execution hmem
        executionsNodup := by
          have hsame : (backend.executions.set index { execution with dispatched := true }).map
              (fun execution => execution.frame.command.message.id) =
              backend.executions.map fun execution => execution.frame.command.message.id := by
            apply List.ext_getElem?
            intro i
            rw [List.map_set, List.getElem?_set]
            split
            · rename_i hsame
              have hindex := (List.getElem?_eq_some_iff.mp hexecution).1
              rw [if_pos (by rwa [List.length_map]), ← hsame, List.getElem?_map, hexecution]
              rfl
            · rfl
          rw [hsame]
          exact h.executionsNodup
        dispatchedNodup := by
          rw [List.map_append, List.nodup_append']
          refine ⟨h.dispatchedNodup, List.nodup_singleton _, fun id hold hlast => ?_⟩
          obtain ⟨frame, hframe, rfl⟩ := List.mem_map.mp hold
          exact hnew frame hframe (List.mem_singleton.mp hlast)
        undispatched := by
          intro other hother hotherWaits frame hframe
          obtain ⟨i, hi⟩ := List.mem_iff_getElem?.mp hother
          rw [List.getElem?_set] at hi
          by_cases hsame : index = i
          · rw [if_pos hsame] at hi
            split at hi
            · cases hi
              cases hotherWaits
            · cases hi
          · rw [if_neg hsame] at hi
            obtain hframe | hframe := List.mem_append.mp hframe
            · exact h.undispatched other (List.mem_of_getElem? hi) hotherWaits frame hframe
            · rw [List.mem_singleton.mp hframe]
              intro hid
              have hindex : index < (backend.executions.map
                  fun execution => execution.frame.command.message.id).length := by
                rw [List.length_map]
                exact (List.getElem?_eq_some_iff.mp hexecution).1
              apply hsame
              apply (List.getElem?_inj hindex h.executionsNodup).mp
              rw [List.getElem?_map, List.getElem?_map, hi, hexecution, Option.map_some, Option.map_some, hid] }

end

end TakenUpOnce

/-- The client sends each input once, the server takes it up once. -/
structure SubmitsOnce (system : System) : Prop where
  client : Submits [] system.client
  backend : TakenUpOnce system.client.sent system.backend

namespace SubmitsOnce

/-- A frame that arrives and is not taken up again has an input that the server does not know. -/
theorem fresh {self : System} (h : SubmitsOnce self) {frame : Frame} {outgoing : List Frame}
    (houtgoing : self.client.outgoing = frame :: outgoing) (hok : NotTakenUpAgain self .serverReceives)
    (hexecuted : (self.backend.controlOperations.runIdempotentControl frame.command.operationId
      frame.command).1 = .executed) :
    (∀ execution ∈ self.backend.executions,
      execution.frame.command.message.id ≠ frame.command.message.id) ∧
    ∀ other ∈ self.backend.dispatched, other.command.message.id ≠ frame.command.message.id := by
  have hfresh := hok frame outgoing houtgoing
  have hsent : frame ∈ self.client.sent := h.client.outgoing (houtgoing ▸ List.mem_cons_self)
  cases hoperation : frame.command.operationId with
  | none =>
    rw [hoperation] at hfresh
    exact hfresh
  | some operationId =>
    rw [hoperation] at hfresh hexecuted
    have hnone : self.backend.controlOperations.get? operationId = none := by
      obtain hnone | ⟨id, heq, hnone⟩ := ControlOperations.runIdempotentControl_executed hexecuted
      · cases hnone
      · rw [Option.some.inj heq]
        exact hnone
    have hnew : operationId ∉ self.backend.taken := fun htaken => hfresh htaken hnone
    have hne : frame.command.operationId ≠ none := by
      rw [hoperation]
      exact Option.some_ne_none _
    refine ⟨fun execution hmem hsame => ?_, fun other hmem hsame => ?_⟩
    · obtain ⟨hold, htaken⟩ := h.backend.executions execution hmem
      rw [h.client.once frame hsent hne execution.frame hold hsame] at htaken
      exact hnew (htaken operationId hoperation)
    · obtain ⟨hold, htaken⟩ := h.backend.dispatched other hmem
      rw [h.client.once frame hsent hne other hold hsame] at htaken
      exact hnew (htaken operationId hoperation)

theorem ofClient {self : System} (h : SubmitsOnce self) {client : WsAgentAdapter}
    (hclient : ∀ before, Submits before self.client → Submits before client) :
    SubmitsOnce { self with client } where
  client := hclient [] h.client
  backend := h.backend.mono (hclient self.client.sent { h.client with grown := List.Subset.refl _ }).grown

/-- One step that takes nothing up again. -/
theorem step {self : System} {event : Event} (h : SubmitsOnce self) (hok : NotTakenUpAgain self event) :
    SubmitsOnce (self.step event) := by
  cases event with
  | callPrompt text => exact h.ofClient fun _ hclient => hclient.callPrompt text
  | steer text => exact h.ofClient fun _ hclient => hclient.steer text
  | forkAndPrompt text => exact h.ofClient fun _ hclient => hclient.forkAndPrompt text
  | removeQueued sessionPath index => exact h.ofClient fun _ hclient => hclient.removeQueued sessionPath index
  | newSession => exact h.ofClient fun _ hclient => { hclient with }
  | switchSession sessionPath => exact h.ofClient fun _ hclient => { hclient with }
  | restoreCachedSessionPreview sessionPath => exact h.ofClient fun _ hclient => { hclient with }
  | setSessionSubscriptionActive active =>
    apply h.ofClient
    intro _ hclient
    rw [WsAgentAdapter.setSessionSubscriptionActive]
    split
    · exact hclient
    · exact { hclient with }
  | modelChanged hasModel => exact h.ofClient fun _ hclient => { hclient with }
  | resumeCall index => exact h.ofClient fun _ hclient => hclient.resumeCall index
  | resume index => exact h.ofClient fun _ hclient => hclient.resume index
  | requeue index => exact h.ofClient fun _ hclient => hclient.requeue index
  | sessionStatusChange sessionPath status =>
    exact h.ofClient fun _ hclient => hclient.setGlobalSessionStatus sessionPath status
  | allSessionStatuses statuses => exact h.ofClient fun _ hclient => { hclient with }
  | sessionAttached sessionPath =>
    rw [System.step]
    split
    · exact h.ofClient fun _ hclient => hclient.onSessionAttached sessionPath
    · exact h
  | responseArrives id result =>
    rw [System.step, System.respond]
    split
    · exact h
    · split
      · exact h
      · exact h.ofClient fun _ hclient => hclient.settle id result
  | timedOut id =>
    rw [System.step]
    split
    · exact h.ofClient fun _ hclient => hclient.settle id none
    · exact h
  | sendRefused replayed => exact h.ofClient fun _ hclient => hclient.onSendRefused replayed
  | connected => exact h.ofClient fun _ hclient => hclient.onConnected
  | disconnected =>
    exact h.ofClient fun _ hclient => { hclient with
      outgoing := List.nil_subset _
      requests := fun request hmem => hclient.requests request (List.mem_of_mem_filter hmem) }
  | closed =>
    exact h.ofClient fun _ hclient => { hclient with
      outgoing := List.nil_subset _
      requests := fun _ hmem => absurd hmem List.not_mem_nil }
  | serverReceives =>
    rw [System.step]
    split
    · exact h
    · rename_i frame outgoing houtgoing
      have hsent : frame ∈ self.client.sent := h.client.outgoing (houtgoing ▸ List.mem_cons_self)
      refine ⟨{ h.client with outgoing := fun other hmem => h.client.outgoing ?_ },
        h.backend.receive hsent (h.fresh houtgoing hok)⟩
      rw [houtgoing]
      exact List.mem_cons_of_mem _ hmem
  | serverCreates index sessionPath => exact ⟨h.client, h.backend.create index sessionPath⟩
  | serverDispatches index => exact ⟨h.client, h.backend.dispatch index⟩
  | serverSettles index => exact ⟨h.client, h.backend.settle index⟩

end SubmitsOnce

/-- In a run in which the server takes up no input again, each is passed to the Pi process at most once. -/
theorem dispatched_at_most_once (events : List Event)
    (honce : EveryStep System.step .start NotTakenUpAgain events) :
    Always System.step .start DispatchedAtMostOnce events := by
  have hsubmits := always_of_everyStep ⟨Submits.start, TakenUpOnce.start⟩
    (fun _ _ h hok => SubmitsOnce.step h hok) honce
  exact fun before hbefore => (hsubmits before hbefore).backend.dispatchedNodup

/-- A prompt is queued during a compaction and flushed; its request is passed to Pi and rejected, so that the
    next compaction flushes it again. -/
def flushedTwice : List Event :=
  [.connected, .modelChanged true, .switchSession (js "a.jsonl"), .callPrompt (js "/compact"),
    .callPrompt (js "one"), .resumeCall 0, .responseArrives 1 none, .resume 0, .serverReceives,
    .serverDispatches 0, .serverSettles 0, .responseArrives 2 none, .resume 0, .requeue 0,
    .callPrompt (js "/compact"), .responseArrives 3 none, .resume 0, .serverReceives, .serverDispatches 0]

theorem not_always_dispatchedAtMostOnce_flushedTwice :
    ¬ ∀ events, Always System.step .start DispatchedAtMostOnce events := by
  intro h
  have htwice : (run System.step .start flushedTwice).backend.dispatched.map
      (fun frame => frame.command.message.id) = [1, 1] := by decide +kernel
  have honce := (h flushedTwice).last
  rw [DispatchedAtMostOnce, htwice] at honce
  exact absurd honce (by decide)

/-- A prompt that is replayed after a lost response. -/
def replayedPrompt : List Event :=
  [.connected, .modelChanged true, .callPrompt (js "one"), .resumeCall 0, .serverReceives, .serverDispatches 0,
    .disconnected, .connected, .serverReceives]

theorem dispatched_at_most_once_replayedPrompt :
    (run System.step .start replayedPrompt).backend.dispatched.length = 1 ∧
      Always System.step .start DispatchedAtMostOnce replayedPrompt := by
  refine ⟨by decide +kernel, dispatched_at_most_once replayedPrompt ?_⟩
  have hfirst : (run System.step .start (replayedPrompt.take 4)).client.outgoing.map
      (fun frame => frame.command.operationId) = [some 0] := by decide +kernel
  have hreplayed : (run System.step .start (replayedPrompt.take 8)).client.outgoing.map
      (fun frame => frame.command.operationId) = [some 0] := by decide +kernel
  have hreceipt : ((run System.step .start (replayedPrompt.take 8)).backend.controlOperations.get? 0).isSome =
      true := by decide +kernel
  rw [show replayedPrompt = ((((((((([] ++ [_]) ++ [_]) ++ [_]) ++ [_]) ++ [_]) ++ [_]) ++ [_]) ++ [_]) ++ [_])
    from rfl]
  simp only [everyStep_snoc]
  refine ⟨⟨⟨⟨⟨⟨⟨⟨⟨everyStep_nil, trivial⟩, trivial⟩, trivial⟩, trivial⟩, ?_⟩, trivial⟩, trivial⟩, trivial⟩, ?_⟩
  · intro frame outgoing houtgoing
    change (run System.step .start (replayedPrompt.take 4)).client.outgoing = frame :: outgoing at houtgoing
    rw [houtgoing, List.map_cons, List.cons.injEq] at hfirst
    rw [hfirst.1]
    exact fun htaken => absurd htaken List.not_mem_nil
  · intro frame outgoing houtgoing
    change (run System.step .start (replayedPrompt.take 8)).client.outgoing = frame :: outgoing at houtgoing
    rw [houtgoing, List.map_cons, List.cons.injEq] at hreplayed
    rw [hreplayed.1]
    exact fun _ => Option.isSome_iff_ne_none.mp hreceipt

end pipane.ws_agent_adapter.prompts

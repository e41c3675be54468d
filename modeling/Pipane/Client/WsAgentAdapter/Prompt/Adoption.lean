import Pipane.Client.WsAgentAdapter.Prompt.Backend

open javascript transition pipane.ws_handler

namespace pipane.ws_agent_adapter.prompts

/-- Every session that a virtual view has adopted was created for that view's own prompt, and for nothing
    else. -/
def AdoptsOwnSessions (self : System) : Prop :=
  ∀ adoption ∈ self.client.adoptions,
    CreatedBy self.backend.created adoption.view adoption.sessionPath ∧
    ∀ session ∈ self.backend.created, session.sessionPath = adoption.sessionPath →
      session.frame.command.sessionPath = .new ∧ session.frame.command.view = adoption.view

/-- No `session_attached` for another command arrives while a virtual view has a new-session prompt open. -/
def NoForeignAttachment (self : System) : Event → Prop
  | .sessionAttached sessionPath =>
    ∀ session ∈ self.backend.created, session.sessionPath = sessionPath → self.client.isVirtual = true →
      self.client.sessionPath = some sessionPath ∨ self.client.pendingNewPrompt = true →
      session.frame.command.sessionPath = .new ∧ session.frame.command.view = self.client.view
  | _ => True

/-- A new-session prompt that was sent under a nonce and in a view. -/
def Opened (adapter : WsAgentAdapter) (sessionNonce view : Nat) : Prop :=
  sessionNonce ≤ adapter.sessionNonce ∧ (sessionNonce = adapter.sessionNonce → view = adapter.view)

/-- Requests and settled promises of new-session prompts belong to the views that made them. -/
structure Correlated (adapter : WsAgentAdapter) (created : List CreatedSession) : Prop where
  pending : ∀ request ∈ adapter.pendingRequests, ∀ sessionNonce view key entry,
    request.continuation = .promptNew sessionNonce view key entry → Opened adapter sessionNonce view ∧
      ∃ frame, request.frame = some frame ∧ frame.command.sessionPath = .new ∧ frame.command.view = view
  settled : ∀ settlement ∈ adapter.settled, ∀ sessionNonce view key entry,
    settlement.continuation = .promptNew sessionNonce view key entry → Opened adapter sessionNonce view ∧
      ∀ data sessionPath, settlement.result = some data → data.newSessionPath = some sessionPath →
        CreatedBy created view sessionPath
  unique : (created.map CreatedSession.sessionPath).Nodup
  adopted : ∀ adoption ∈ adapter.adoptions, CreatedBy created adoption.view adoption.sessionPath

theorem truthy_eq_some {sessionPath : Option JsString} {path : JsString} :
    truthy sessionPath = some path ↔ sessionPath = some path ∧ path ≠ [] := by
  rw [truthy, Option.filter_eq_some_iff]
  simp only [decide_eq_true_eq]

theorem created_unique {created : List CreatedSession} (hunique : (created.map CreatedSession.sessionPath).Nodup)
    {first second : CreatedSession} (hfirst : first ∈ created) (hsecond : second ∈ created)
    (hsame : first.sessionPath = second.sessionPath) : first = second :=
  List.inj_on_of_nodup_map hunique hfirst hsecond hsame

theorem CreatedBy.append {created : List CreatedSession} {view : Nat} {sessionPath : JsString}
    (h : CreatedBy created view sessionPath) (more : List CreatedSession) :
    CreatedBy (created ++ more) view sessionPath := by
  obtain ⟨session, hmem, hsession⟩ := h
  exact ⟨session, List.mem_append_left _ hmem, hsession⟩

theorem setGlobalSessionStatus_kept (self : WsAgentAdapter) (sessionPath : JsString) (status : SessionStatus) :
    (self.setGlobalSessionStatus sessionPath status).sessionPath = self.sessionPath ∧
    (self.setGlobalSessionStatus sessionPath status).view = self.view ∧
    (self.setGlobalSessionStatus sessionPath status).isVirtual = self.isVirtual ∧
    (self.setGlobalSessionStatus sessionPath status).pendingNewPrompt = self.pendingNewPrompt := by
  unfold WsAgentAdapter.setGlobalSessionStatus
  extract_lets next
  split
  · rw [WsAgentAdapter.resolveStarting]
    split
    · exact ⟨rfl, rfl, rfl, rfl⟩
    · exact ⟨rfl, rfl, rfl, rfl⟩
  · exact ⟨rfl, rfl, rfl, rfl⟩

namespace Correlated

section

variable {self : WsAgentAdapter} {created : List CreatedSession}

theorem start : Correlated .start [] where
  pending _ hmem := absurd hmem List.not_mem_nil
  settled _ hmem := absurd hmem List.not_mem_nil
  unique := List.nodup_nil
  adopted _ hmem := absurd hmem List.not_mem_nil

theorem navigate (h : Correlated self created) {next : WsAgentAdapter}
    (hnonce : next.sessionNonce = self.sessionNonce + 1) (hpending : next.pendingRequests = self.pendingRequests)
    (hsettled : next.settled = self.settled) (hadoptions : next.adoptions = self.adoptions) :
    Correlated next created := by
  have hopened {sessionNonce view : Nat} (hold : Opened self sessionNonce view) : Opened next sessionNonce view := by
    have hle := hold.1
    exact ⟨by omega, fun heq => by omega⟩
  refine ⟨?_, ?_, h.unique, hadoptions ▸ h.adopted⟩
  · rw [hpending]
    intro request hmem sessionNonce view key entry hcontinuation
    obtain ⟨hold, hframe⟩ := h.pending request hmem sessionNonce view key entry hcontinuation
    exact ⟨hopened hold, hframe⟩
  · rw [hsettled]
    intro settlement hmem sessionNonce view key entry hcontinuation
    obtain ⟨hold, hresult⟩ := h.settled settlement hmem sessionNonce view key entry hcontinuation
    exact ⟨hopened hold, hresult⟩

theorem reject (h : Correlated self created) {continuation : Continuation}
    (hopened : ∀ sessionNonce view key entry, continuation = .promptNew sessionNonce view key entry →
      Opened self sessionNonce view) :
    Correlated { self with settled := self.settled ++ [{ continuation, result := none }] } created := by
  refine ⟨h.pending, fun settlement hmem sessionNonce view key entry hcontinuation => ?_, h.unique, h.adopted⟩
  obtain hmem | hmem := List.mem_append.mp hmem
  · exact h.settled settlement hmem sessionNonce view key entry hcontinuation
  · rw [List.mem_singleton.mp hmem] at hcontinuation ⊢
    exact ⟨hopened _ _ _ _ hcontinuation, fun _ _ hsome => (by cases hsome)⟩

theorem send (h : Correlated self created) {command : ClientCommand} {continuation : Continuation}
    (hopened : ∀ sessionNonce view key entry, continuation = .promptNew sessionNonce view key entry →
      Opened self sessionNonce view ∧ command.sessionPath = .new ∧ command.view = view) :
    Correlated (self.send command continuation) created := by
  unfold WsAgentAdapter.send
  split
  · exact h.reject fun sessionNonce view key entry heq => (hopened sessionNonce view key entry heq).1
  · extract_lets frame
    refine ⟨fun request hmem sessionNonce view key entry hcontinuation => ?_, h.settled, h.unique, h.adopted⟩
    obtain hmem | hmem := List.mem_append.mp hmem
    · exact h.pending request hmem sessionNonce view key entry hcontinuation
    · rw [List.mem_singleton.mp hmem] at hcontinuation ⊢
      obtain ⟨hopen, hnew, hview⟩ := hopened _ _ _ _ hcontinuation
      exact ⟨hopen, frame, rfl, hnew, hview⟩

theorem sendOperation (h : Correlated self created) {type : CommandType} {sessionPath : Target}
    {message : Submission} {continuation : Continuation}
    (hopened : ∀ sessionNonce view key entry, continuation = .promptNew sessionNonce view key entry →
      Opened self sessionNonce view ∧ sessionPath = .new ∧ self.view = view) :
    Correlated (self.sendOperation type sessionPath message continuation) created := by
  apply send
  · exact ⟨h.pending, h.settled, h.unique, h.adopted⟩
  · intro sessionNonce view key entry hcontinuation
    obtain ⟨hopen, hnew, hview⟩ := hopened sessionNonce view key entry hcontinuation
    exact ⟨hopen, hnew, hview⟩

theorem resolveStarting (h : Correlated self created) (key : StartKey) (sessionPath : JsString) :
    Correlated (self.resolveStarting key sessionPath) created := by
  rw [WsAgentAdapter.resolveStarting]
  split
  · exact h
  · exact ⟨h.pending, h.settled, h.unique, h.adopted⟩

theorem setGlobalSessionStatus (h : Correlated self created) (sessionPath : JsString)
    (status : SessionStatus) : Correlated (self.setGlobalSessionStatus sessionPath status) created := by
  unfold WsAgentAdapter.setGlobalSessionStatus
  extract_lets next
  have hnext : Correlated next created := ⟨h.pending, h.settled, h.unique, h.adopted⟩
  split
  · exact hnext.resolveStarting _ _
  · exact hnext

theorem setSessionSubscriptionActive (h : Correlated self created) (active : Bool) :
    Correlated (self.setSessionSubscriptionActive active) created := by
  rw [WsAgentAdapter.setSessionSubscriptionActive]
  split
  · exact h
  · exact h.navigate rfl rfl rfl rfl

theorem enqueueCompactionPrompt (h : Correlated self created) (sessionPath : JsString)
    (prompt : Submission) : Correlated (self.enqueueCompactionPrompt sessionPath prompt) created := by
  rw [WsAgentAdapter.enqueueCompactionPrompt]
  split
  · exact h
  · exact ⟨h.pending, h.settled, h.unique, h.adopted⟩

theorem sendFlushed (h : Correlated self created) (sessionPath : JsString) (batch index : Nat)
    (prompts : List Submission) : Correlated (self.sendFlushed sessionPath batch index prompts) created := by
  induction prompts generalizing self index with
  | nil => exact h
  | cons prompt prompts ih =>
    apply ih
    exact h.send fun _ _ _ _ heq => by cases heq

theorem flushCompactionQueue (h : Correlated self created) (sessionPath : JsString) :
    Correlated (self.flushCompactionQueue sessionPath) created := by
  unfold WsAgentAdapter.flushCompactionQueue
  split
  · exact h
  · split
    · exact h
    · apply sendFlushed
      exact ⟨h.pending, h.settled, h.unique, h.adopted⟩

theorem requeue (h : Correlated self created) (index : Nat) : Correlated (self.requeue index) created := by
  unfold WsAgentAdapter.requeue
  split
  · exact h
  · split
    · exact h
    · extract_lets next failed
      split
      · exact ⟨h.pending, h.settled, h.unique, h.adopted⟩
      · exact ⟨h.pending, h.settled, h.unique, h.adopted⟩

theorem removeQueued (h : Correlated self created) (sessionPath : JsString) (index : Nat) :
    Correlated (self.removeQueued sessionPath index) created := by
  unfold WsAgentAdapter.removeQueued
  extract_lets queue next
  split
  · exact h
  · exact ⟨h.pending, h.settled, h.unique, h.adopted⟩

theorem prompt (h : Correlated self created) (submission : Submission) :
    Correlated (self.prompt submission) created := by
  rw [WsAgentAdapter.prompt]
  split
  · rename_i handled hhandled
    unfold WsAgentAdapter.handleSlashCommand at hhandled
    split at hhandled
    · cases hhandled
    · cases hhandled
      exact h.navigate rfl rfl rfl rfl
    · cases hhandled
      exact h
    · split at hhandled
      · cases hhandled
        exact h
      · rename_i sessionPath _
        extract_lets compacting at hhandled
        have hcompacting : Correlated compacting created := ⟨h.pending, h.settled, h.unique, h.adopted⟩
        split at hhandled
        · cases hhandled
          exact hcompacting.reject fun _ _ _ _ heq => by cases heq
        · cases hhandled
          refine ⟨fun request hmem sessionNonce view key entry hcontinuation => ?_, h.settled, h.unique, h.adopted⟩
          obtain hmem | hmem := List.mem_append.mp hmem
          · exact h.pending request hmem sessionNonce view key entry hcontinuation
          · rw [List.mem_singleton.mp hmem] at hcontinuation
            cases hcontinuation
  · exact ⟨h.pending, h.settled, h.unique, h.adopted⟩

theorem callPrompt (h : Correlated self created) (text : JsString) :
    Correlated (self.callPrompt text) created := by
  apply prompt
  exact ⟨h.pending, h.settled, h.unique, h.adopted⟩

theorem steer (h : Correlated self created) (text : JsString) : Correlated (self.steer text) created := by
  unfold WsAgentAdapter.steer
  split
  · exact h
  · split
    · exact h
    · extract_lets steering counted
      have hcounted : Correlated counted created := ⟨h.pending, h.settled, h.unique, h.adopted⟩
      split
      · exact hcounted.enqueueCompactionPrompt _ _
      · split
        · exact hcounted.sendOperation fun _ _ _ _ heq => by cases heq
        · exact hcounted

theorem forkAndPrompt (h : Correlated self created) (text : JsString) :
    Correlated (self.forkAndPrompt text) created := by
  rw [WsAgentAdapter.forkAndPrompt]
  split
  · exact h.callPrompt text
  · split
    · exact h.callPrompt text
    · split
      · exact h
      · apply sendOperation
        · exact ⟨h.pending, h.settled, h.unique, h.adopted⟩
        · exact fun _ _ _ _ heq => by cases heq

theorem startPrompt (h : Correlated self created) (submission : Submission) :
    Correlated (self.startPrompt submission) created := by
  unfold WsAgentAdapter.startPrompt
  extract_lets key entry starting
  have hstarting : Correlated starting created := ⟨h.pending, h.settled, h.unique, h.adopted⟩
  split
  · exact h
  · split
    · apply sendOperation
      · exact ⟨h.pending, h.settled, h.unique, h.adopted⟩
      · intro sessionNonce view key entry hcontinuation
        cases hcontinuation
        exact ⟨⟨Nat.le_refl _, fun _ => rfl⟩, rfl, rfl⟩
    · split
      · exact hstarting
      · exact hstarting.sendOperation fun _ _ _ _ heq => by cases heq

theorem afterSlashCommand (h : Correlated self created) (submission : Submission) :
    Correlated (self.afterSlashCommand submission) created := by
  unfold WsAgentAdapter.afterSlashCommand
  extract_lets sessionPath
  split
  · exact h.enqueueCompactionPrompt _ _
  · split
    · exact ⟨h.pending, h.settled, h.unique, h.adopted⟩
    · split
      · exact h.sendOperation fun _ _ _ _ heq => by cases heq
      · exact h.startPrompt submission

theorem resumeCall (h : Correlated self created) (index : Nat) :
    Correlated (self.resumeCall index) created := by
  unfold WsAgentAdapter.resumeCall
  split
  · exact h
  · rename_i call _
    extract_lets resumed
    have hresumed : Correlated resumed created := ⟨h.pending, h.settled, h.unique, h.adopted⟩
    split
    · exact hresumed.afterSlashCommand _
    · split
      · exact h
      · rw [WsAgentAdapter.afterReady]
        split
        · exact hresumed.sendOperation fun _ _ _ _ heq => by cases heq
        · exact ⟨h.pending, h.settled, h.unique, h.adopted⟩
    · split
      · rw [WsAgentAdapter.afterFinished]
        split
        · exact hresumed
        · exact hresumed.prompt _
      · exact h

theorem adopt (h : Correlated self created) {sessionPath : JsString}
    (hcreated : CreatedBy created self.view sessionPath) : Correlated (self.adopt sessionPath) created := by
  refine ⟨h.pending, h.settled, h.unique, fun adoption hmem => ?_⟩
  obtain hmem | hmem := List.mem_append.mp hmem
  · exact h.adopted adoption hmem
  · rw [List.mem_singleton.mp hmem]
    exact hcreated

theorem onSessionAttached (h : Correlated self created) {sessionPath : JsString}
    (hcreated : self.isVirtual = true → self.sessionPath = some sessionPath ∨ self.pendingNewPrompt = true →
      CreatedBy created self.view sessionPath) :
    Correlated (self.onSessionAttached sessionPath) created := by
  have hstatus : Correlated (self.setGlobalSessionStatus sessionPath .running) created :=
    h.setGlobalSessionStatus sessionPath .running
  obtain ⟨hpath, hview, hvirtual, hprompt⟩ := setGlobalSessionStatus_kept self sessionPath .running
  unfold WsAgentAdapter.onSessionAttached
  extract_lets next
  split
  · rename_i hnextVirtual
    split
    · rename_i hadopt
      apply resolveStarting
      apply hstatus.adopt
      rw [hview]
      exact hcreated (hvirtual ▸ hnextVirtual) (hpath ▸ hprompt ▸ hadopt)
    · exact hstatus
  · exact hstatus

theorem finishStartingPrompt (h : Correlated self created) (key : StartKey) (entry : Nat)
    (attachedPath : Option JsString) : Correlated (self.finishStartingPrompt key entry attachedPath) created :=
  ⟨h.pending, h.settled, h.unique, h.adopted⟩

theorem onPromptNewSettled (h : Correlated self created) {sessionNonce view : Nat} (key : StartKey)
    (entry : Nat) {result : Option ResponseData} (hopened : Opened self sessionNonce view)
    (hresult : ∀ data sessionPath, result = some data → data.newSessionPath = some sessionPath →
      CreatedBy created view sessionPath) :
    Correlated (self.onPromptNewSettled sessionNonce key entry result) created := by
  unfold WsAgentAdapter.onPromptNewSettled
  extract_lets adopted settled
  apply finishStartingPrompt
  have hadopted : Correlated adopted created := by
    simp only [adopted]
    split
    · exact h
    · rename_i res
      split
      · exact h
      · rename_i hnonce
        split
        · exact h
        · rename_i newSessionPath hpath
          split
          · apply h.adopt
            rw [← hopened.2 (not_not.mp hnonce).symm]
            exact hresult res newSessionPath rfl (truthy_eq_some.mp hpath).1
          · exact h
  exact ⟨hadopted.pending, hadopted.settled, hadopted.unique, hadopted.adopted⟩

theorem onForkPromptSettled (h : Correlated self created) (sessionNonce : Nat)
    (result : Option ResponseData) : Correlated (self.onForkPromptSettled sessionNonce result) created := by
  unfold WsAgentAdapter.onForkPromptSettled
  split
  · exact h
  · split
    · exact h
    · split
      · exact h
      · exact h.navigate rfl rfl rfl rfl

theorem onCompacted (h : Correlated self created) (sessionPath : JsString) :
    Correlated (self.onCompacted sessionPath) created := by
  apply flushCompactionQueue
  exact ⟨h.pending, h.settled, h.unique, h.adopted⟩

theorem resume (h : Correlated self created) (index : Nat) : Correlated (self.resume index) created := by
  unfold WsAgentAdapter.resume
  split
  · exact h
  · rename_i settlement hsettlement
    extract_lets next
    have hmem : settlement ∈ self.settled := List.mem_of_getElem? hsettlement
    have hnext : Correlated next created :=
      ⟨h.pending, fun other hother => h.settled other (List.mem_of_mem_eraseIdx hother), h.unique, h.adopted⟩
    cases hcontinuation : settlement.continuation with
    | promptNew sessionNonce view key entry =>
      obtain ⟨hopened, hresult⟩ := h.settled settlement hmem sessionNonce view key entry hcontinuation
      exact hnext.onPromptNewSettled key entry hopened hresult
    | promptSession key entry sessionPath => exact hnext.finishStartingPrompt key entry _
    | steer => exact hnext
    | forkPrompt sessionNonce => exact hnext.onForkPromptSettled sessionNonce _
    | flush batch index => exact ⟨hnext.pending, hnext.settled, hnext.unique, hnext.adopted⟩
    | compact sessionPath => exact hnext.onCompacted sessionPath

theorem settle (h : Correlated self created) (id : Nat) {result : Option ResponseData}
    (hmay : ∀ pending, self.pendingRequests.find? (fun pending => pending.id = id) = some pending →
      ∀ data ∈ result, MayAnswer created pending data) :
    Correlated (self.settle id result) created := by
  rw [WsAgentAdapter.settle]
  split
  · exact h
  · rename_i pending hpending
    refine ⟨fun request hmem => h.pending request (List.mem_of_mem_filter hmem),
      fun settlement hmem sessionNonce view key entry hcontinuation => ?_, h.unique, h.adopted⟩
    obtain hmem | hmem := List.mem_append.mp hmem
    · exact h.settled settlement hmem sessionNonce view key entry hcontinuation
    · rw [List.mem_singleton.mp hmem] at hcontinuation ⊢
      obtain ⟨hopened, frame, hframe, hnew, hview⟩ :=
        h.pending pending (List.mem_of_find?_eq_some hpending) sessionNonce view key entry hcontinuation
      refine ⟨hopened, fun data sessionPath hresult hpath => ?_⟩
      have hcreated := hmay pending hpending data hresult frame hframe hnew sessionPath hpath
      exact ⟨_, hcreated, rfl, hnew, hview⟩

theorem settle_none (h : Correlated self created) (id : Nat) : Correlated (self.settle id none) created :=
  h.settle id fun _ _ _ hmem => by cases hmem

theorem onSendRefused (h : Correlated self created) (replayed : Bool) :
    Correlated (self.onSendRefused replayed) created := by
  unfold WsAgentAdapter.onSendRefused
  split
  · exact h
  · extract_lets next
    have hnext : Correlated next created := ⟨h.pending, h.settled, h.unique, h.adopted⟩
    split
    · exact hnext
    · exact hnext.settle_none _

/-- Requests are rejected, and some are kept. -/
theorem rejectRequests (h : Correlated self created) {next : WsAgentAdapter}
    {rejected kept : List PendingRequest} (hrejected : rejected ⊆ self.pendingRequests)
    (hkept : kept ⊆ self.pendingRequests) (hpending : next.pendingRequests = kept)
    (hsettled : next.settled =
      self.settled ++ rejected.map fun pending => { continuation := pending.continuation, result := none })
    (hnonce : next.sessionNonce = self.sessionNonce) (hview : next.view = self.view)
    (hadoptions : next.adoptions = self.adoptions) : Correlated next created := by
  have hopened {sessionNonce view : Nat} (hold : Opened self sessionNonce view) : Opened next sessionNonce view := by
    rw [Opened, hnonce, hview]
    exact hold
  refine ⟨?_, ?_, h.unique, hadoptions ▸ h.adopted⟩
  · rw [hpending]
    intro request hmem sessionNonce view key entry hcontinuation
    obtain ⟨hold, hframe⟩ := h.pending request (hkept hmem) sessionNonce view key entry hcontinuation
    exact ⟨hopened hold, hframe⟩
  · rw [hsettled]
    intro settlement hmem sessionNonce view key entry hcontinuation
    obtain hmem | hmem := List.mem_append.mp hmem
    · obtain ⟨hold, hresult⟩ := h.settled settlement hmem sessionNonce view key entry hcontinuation
      exact ⟨hopened hold, hresult⟩
    · obtain ⟨request, hrequest, rfl⟩ := List.mem_map.mp hmem
      obtain ⟨hold, -⟩ := h.pending request (hrejected hrequest) sessionNonce view key entry hcontinuation
      exact ⟨hopened hold, fun _ _ hsome => (by cases hsome)⟩

theorem handleTransportDisconnected (h : Correlated self created) :
    Correlated self.handleTransportDisconnected created :=
  h.rejectRequests (fun _ => List.mem_of_mem_filter) (fun _ => List.mem_of_mem_filter) rfl rfl rfl rfl rfl

theorem disconnect (h : Correlated self created) : Correlated self.disconnect created :=
  h.rejectRequests (List.Subset.refl _) (List.nil_subset _) rfl rfl rfl rfl rfl

theorem onConnected (h : Correlated self created) : Correlated self.onConnected created := by
  rw [WsAgentAdapter.onConnected]
  split
  · exact h
  · split
    · exact ⟨h.pending, h.settled, h.unique, h.adopted⟩
    · exact ⟨h.pending, h.settled, h.unique, h.adopted⟩

theorem create {backend : Backend} (h : Correlated self backend.created) (index : Nat)
    (sessionPath : JsString) : Correlated self (backend.create index sessionPath).created := by
  rw [Backend.create]
  split
  · exact h
  · split
    · exact h
    · rename_i hfresh
      rw [not_or] at hfresh
      refine ⟨h.pending, fun settlement hmem sessionNonce view key entry hcontinuation => ?_, ?_,
        fun adoption hmem => (h.adopted adoption hmem).append _⟩
      · obtain ⟨hopened, hresult⟩ := h.settled settlement hmem sessionNonce view key entry hcontinuation
        exact ⟨hopened, fun data path hdata hpath => (hresult data path hdata hpath).append _⟩
      · rw [List.map_append, List.nodup_append']
        refine ⟨h.unique, List.nodup_singleton _, fun path hold hnew => hfresh.1 ?_⟩
        have hsame : path = sessionPath := List.mem_singleton.mp hnew
        rw [← hsame]
        exact hold

theorem respond {system : System} (h : Correlated system.client system.backend.created) (id : Nat)
    (result : Option ResponseData) :
    Correlated (system.respond id result).client (system.respond id result).backend.created := by
  rw [System.respond]
  split
  · exact h
  · rename_i pending hpending
    split
    · exact h
    · rename_i hmay
      apply h.settle
      intro other hother data hdata
      rw [hpending] at hother
      cases hother
      by_contra hforeign
      exact hmay ⟨data, hdata, hforeign⟩

/-- One step without a foreign attachment. -/
theorem step {system : System} {event : Event} (h : Correlated system.client system.backend.created)
    (hok : NoForeignAttachment system event) :
    Correlated (system.step event).client (system.step event).backend.created := by
  cases event with
  | callPrompt text => exact h.callPrompt text
  | steer text => exact h.steer text
  | forkAndPrompt text => exact h.forkAndPrompt text
  | removeQueued sessionPath index => exact h.removeQueued sessionPath index
  | newSession => exact h.navigate rfl rfl rfl rfl
  | switchSession sessionPath => exact h.navigate rfl rfl rfl rfl
  | restoreCachedSessionPreview sessionPath => exact h.navigate rfl rfl rfl rfl
  | setSessionSubscriptionActive active => exact h.setSessionSubscriptionActive active
  | modelChanged hasModel => exact ⟨h.pending, h.settled, h.unique, h.adopted⟩
  | resumeCall index => exact h.resumeCall index
  | resume index => exact h.resume index
  | requeue index => exact h.requeue index
  | sessionStatusChange sessionPath status => exact h.setGlobalSessionStatus sessionPath status
  | allSessionStatuses statuses => exact ⟨h.pending, h.settled, h.unique, h.adopted⟩
  | sessionAttached sessionPath =>
    rw [System.step]
    split
    · rename_i hsent
      obtain ⟨session, hmem, hpath⟩ := List.mem_map.mp hsent
      apply h.onSessionAttached
      intro hvirtual hadopt
      exact ⟨session, hmem, hpath, hok session hmem hpath hvirtual hadopt⟩
    · exact h
  | responseArrives id result => exact h.respond id result
  | timedOut id =>
    rw [System.step]
    split
    · exact h.settle_none id
    · exact h
  | sendRefused replayed => exact h.onSendRefused replayed
  | connected => exact h.onConnected
  | disconnected => exact h.handleTransportDisconnected
  | closed => exact h.disconnect
  | serverReceives =>
    rw [System.step]
    split
    · exact h
    · rw [Backend.receive_created]
      exact ⟨h.pending, h.settled, h.unique, h.adopted⟩
  | serverCreates index sessionPath => exact h.create index sessionPath
  | serverDispatches index =>
    rw [System.step, Backend.dispatch_created]
    exact h
  | serverSettles index =>
    rw [System.step, Backend.settle_created]
    exact h

theorem adoptsOwnSessions {system : System} (h : Correlated system.client system.backend.created) :
    AdoptsOwnSessions system := by
  intro adoption hmem
  have hcreated := h.adopted adoption hmem
  refine ⟨hcreated, fun session hsession hpath => ?_⟩
  obtain ⟨own, hown, hownPath, hnew, hview⟩ := hcreated
  rw [created_unique h.unique hsession hown (hpath.trans hownPath.symm)]
  exact ⟨hnew, hview⟩

end

end Correlated

theorem resolveStarting_adoptions (self : WsAgentAdapter) (key : StartKey) (sessionPath : JsString) :
    (self.resolveStarting key sessionPath).adoptions = self.adoptions := by
  rw [WsAgentAdapter.resolveStarting]
  split
  · rfl
  · rfl

theorem onSessionAttached_adoptions {self : WsAgentAdapter} {sessionPath : JsString}
    (hvirtual : self.isVirtual = true)
    (hadopt : self.sessionPath = some sessionPath ∨ self.pendingNewPrompt = true) :
    { view := self.view, sessionPath } ∈ (self.onSessionAttached sessionPath).adoptions := by
  obtain ⟨hpath, hview, hnextVirtual, hprompt⟩ := setGlobalSessionStatus_kept self sessionPath .running
  unfold WsAgentAdapter.onSessionAttached
  extract_lets next
  rw [if_pos (hnextVirtual.trans hvirtual), if_pos (by rw [hpath, hprompt]; exact hadopt),
    resolveStarting_adoptions, WsAgentAdapter.adopt, hview]
  exact List.mem_concat_self

/-- A virtual view adopts only sessions of its own prompts if and only if no foreign `session_attached` meets
    an open new-session prompt. -/
theorem adopts_own_sessions_iff (events : List Event) :
    Always System.step .start AdoptsOwnSessions events ↔
      EveryStep System.step .start NoForeignAttachment events := by
  apply always_iff_everyStep_of_invariant
    (I := fun system : System => Correlated system.client system.backend.created)
  · exact .start
  · exact fun _ _ h hok => h.step hok
  · exact fun _ h => h.adoptsOwnSessions
  · intro system event h hadopts
    cases event with
    | sessionAttached sessionPath =>
      intro session hmem hpath hvirtual hadopt
      rw [System.step, if_pos (List.mem_map.mpr ⟨session, hmem, hpath⟩)] at hadopts
      exact (hadopts _ (onSessionAttached_adoptions hvirtual hadopt)).2 session hmem hpath
    | _ => trivial

/-- Two virtual views prompt one after the other; the session of the first is attached while the second is
    displayed. -/
def twoNewPrompts : List Event :=
  [.connected, .modelChanged true, .callPrompt (js "one"), .resumeCall 0, .serverReceives, .newSession,
    .callPrompt (js "two"), .resumeCall 0, .serverCreates 0 (js "first.jsonl"), .sessionAttached (js "first.jsonl")]

theorem not_always_adoptsOwnSessions_twoNewPrompts :
    ¬ ∀ events, Always System.step .start AdoptsOwnSessions events := by
  intro h
  have hadopted : { view := 1, sessionPath := js "first.jsonl" } ∈
      (run System.step .start twoNewPrompts).client.adoptions := by decide +kernel
  have hcreated : (run System.step .start twoNewPrompts).backend.created.map
      (fun session => session.frame.command.view) = [0] := by decide +kernel
  obtain ⟨⟨session, hmem, -, -, hview⟩, -⟩ := (h twoNewPrompts).last _ hadopted
  have hzero := List.mem_map_of_mem (f := fun session : CreatedSession => session.frame.command.view) hmem
  rw [hcreated, List.mem_singleton, hview] at hzero
  cases hzero

end pipane.ws_agent_adapter.prompts

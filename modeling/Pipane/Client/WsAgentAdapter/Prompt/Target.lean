import Pipane.Client.WsAgentAdapter.Prompt.Adoption

open javascript transition pipane.ws_handler

namespace pipane.ws_agent_adapter.prompts

/-- A session that an input may be sent to: the one displayed when it was made, or one that its virtual view
    has created. -/
def Origin.Reaches (created : List CreatedSession) : Origin → JsString → Prop
  | .session sessionPath, target => target = sessionPath
  | .view n, target => CreatedBy created n target

/-- A target for an input that is sent from a view. -/
def Target.IsFor (created : List CreatedSession) (origin : Origin) (view : Nat) : Target → Prop
  | .session sessionPath => origin.Reaches created sessionPath
  | .new => origin = .view view

/-- A frame goes to the session that was displayed when its input was made, or to a session of that view. -/
def SentToOrigin (created : List CreatedSession) (frame : Frame) : Prop :=
  frame.command.sessionPath.IsFor created frame.command.message.origin frame.command.view

def InputsReachOrigin (self : System) : Prop :=
  ∀ frame ∈ self.client.sent, SentToOrigin self.backend.created frame

/-- What was displayed is displayed, or the session that its virtual view has created. -/
def Displays (created : List CreatedSession) (adapter : WsAgentAdapter) : Origin → Prop
  | .session sessionPath => adapter.isVirtual = false ∧ adapter.sessionPath = some sessionPath
  | .view view =>
    adapter.isVirtual = true ∧ adapter.view = view ∨
    adapter.isVirtual = false ∧ ∃ sessionPath, adapter.sessionPath = some sessionPath ∧
      CreatedBy created view sessionPath

/-- Whenever a `prompt` goes on to choose its target, what it was called on is still displayed; and no virtual
    view adopts a foreign session. -/
def StaysDisplayed (self : System) (event : Event) : Prop :=
  NoForeignAttachment self event ∧
  match event with
  | .resumeCall index =>
    ∀ call, self.client.calls[index]? = some call → call.phase = .slashCommand →
      Displays self.backend.created self.client call.submission.origin
  | _ => True

/-- Where a starting prompt will lead. -/
def StartingPrompt.origin (starting : StartingPrompt) : Origin :=
  match starting.key with
  | .virtual _ => .view starting.view
  | .session sessionPath => .session sessionPath

/-- An input may follow a starting prompt. -/
def Origin.Follows (created : List CreatedSession) (origin : Origin) : Origin → Prop
  | .session sessionPath => origin.Reaches created sessionPath
  | .view n => origin = .view n

/-- A suspended function whose starting prompt leads to where it was sent. -/
def Continuation.OnTarget (adapter : WsAgentAdapter) (created : List CreatedSession) : Continuation → Prop
  | .promptNew sessionNonce view _ entry =>
    entry < adapter.entryCount ∧ (adapter.entries entry).origin = .view view ∧
    (sessionNonce = adapter.sessionNonce → ∀ sessionPath, truthy adapter.sessionPath = some sessionPath →
      CreatedBy created view sessionPath)
  | .promptSession _ entry sessionPath =>
    entry < adapter.entryCount ∧ (adapter.entries entry).origin = .session sessionPath
  | _ => True

/-- What is sent, queued or suspended is on its way to where it belongs. -/
structure OnTarget (adapter : WsAgentAdapter) (created : List CreatedSession) : Prop
    extends Correlated adapter created where
  sent : ∀ frame ∈ adapter.sent, SentToOrigin created frame
  virtualPath : adapter.isVirtual = true → truthy adapter.sessionPath = none
  starting : ∀ key entry, adapter.startingPrompts.get? key = some entry → entry < adapter.entryCount ∧
    (adapter.entries entry).key = key ∧
    ∀ sessionNonce, key = .virtual sessionNonce → Opened adapter sessionNonce (adapter.entries entry).view
  ready : ∀ entry sessionPath, (adapter.entries entry).ready = some (some sessionPath) → sessionPath ≠ [] →
    (adapter.entries entry).origin.Reaches created sessionPath
  calls : ∀ call ∈ adapter.calls, ∀ entry, call.phase = .ready entry → entry < adapter.entryCount ∧
    call.submission.origin.Follows created (adapter.entries entry).origin
  requests : ∀ request ∈ adapter.pendingRequests, request.continuation.OnTarget adapter created
  settlements : ∀ settlement ∈ adapter.settled, settlement.continuation.OnTarget adapter created
  queues : ∀ sessionPath prompts, adapter.compactionQueues.get? sessionPath = some prompts →
    ∀ prompt ∈ prompts, prompt.origin.Reaches created sessionPath
  batches : ∀ batch ∈ adapter.batches, ∀ item ∈ batch.items, item.prompt.origin.Reaches created batch.sessionPath

theorem Origin.Reaches.append {created : List CreatedSession} {origin : Origin} {sessionPath : JsString}
    (h : origin.Reaches created sessionPath) (more : List CreatedSession) :
    origin.Reaches (created ++ more) sessionPath := by
  cases origin with
  | session => exact h
  | view => exact CreatedBy.append h more

theorem Origin.Follows.reaches {created : List CreatedSession} {origin starting : Origin} {sessionPath : JsString}
    (h : origin.Follows created starting) (hstarting : starting.Reaches created sessionPath) :
    origin.Reaches created sessionPath := by
  cases starting with
  | session path =>
    rw [show sessionPath = path from hstarting]
    exact h
  | view view =>
    rw [show origin = .view view from h]
    exact hstarting

namespace OnTarget

section

variable {self : WsAgentAdapter} {created : List CreatedSession}

theorem start : OnTarget .start [] where
  toCorrelated := .start
  sent _ hmem := absurd hmem List.not_mem_nil
  virtualPath _ := rfl
  starting _ _ hsome := by cases hsome
  ready _ _ hsome := by cases hsome
  calls _ hmem := absurd hmem List.not_mem_nil
  requests _ hmem := absurd hmem List.not_mem_nil
  settlements _ hmem := absurd hmem List.not_mem_nil
  queues _ _ hsome := by cases hsome
  batches _ hmem := absurd hmem List.not_mem_nil

theorem reject (h : OnTarget self created) {continuation : Continuation}
    (hopened : ∀ sessionNonce view key entry, continuation = .promptNew sessionNonce view key entry →
      Opened self sessionNonce view)
    (hcontinuation : continuation.OnTarget self created) :
    OnTarget { self with settled := self.settled ++ [{ continuation, result := none }] } created :=
  { h with
    toCorrelated := h.toCorrelated.reject hopened
    settlements := by
      intro settlement hmem
      obtain hmem | hmem := List.mem_append.mp hmem
      · exact h.settlements settlement hmem
      · rw [List.mem_singleton.mp hmem]
        exact hcontinuation }

theorem send (h : OnTarget self created) {command : ClientCommand} {continuation : Continuation}
    (hopened : ∀ sessionNonce view key entry, continuation = .promptNew sessionNonce view key entry →
      Opened self sessionNonce view ∧ command.sessionPath = .new ∧ command.view = view)
    (htarget : ∀ id, SentToOrigin created { id, command }) (hcontinuation : continuation.OnTarget self created) :
    OnTarget (self.send command continuation) created := by
  have hcorrelated := h.toCorrelated.send hopened
  unfold WsAgentAdapter.send at hcorrelated ⊢
  split at hcorrelated
  · rename_i hdisconnected
    rw [if_pos hdisconnected]
    exact h.reject (fun n view key entry heq => (hopened n view key entry heq).1) hcontinuation
  · rename_i hconnected
    rw [if_neg hconnected]
    exact { h with
      toCorrelated := hcorrelated
      sent := by
        intro frame hmem
        obtain hmem | hmem := List.mem_append.mp hmem
        · exact h.sent frame hmem
        · rw [List.mem_singleton.mp hmem]
          exact htarget _
      requests := by
        intro request hmem
        obtain hmem | hmem := List.mem_append.mp hmem
        · exact h.requests request hmem
        · rw [List.mem_singleton.mp hmem]
          exact hcontinuation }

theorem sendOperation (h : OnTarget self created) {type : CommandType} {sessionPath : Target}
    {message : Submission} {continuation : Continuation}
    (hopened : ∀ sessionNonce view key entry, continuation = .promptNew sessionNonce view key entry →
      Opened self sessionNonce view ∧ sessionPath = .new ∧ self.view = view)
    (htarget : sessionPath.IsFor created message.origin self.view)
    (hcontinuation : continuation.OnTarget self created) :
    OnTarget (self.sendOperation type sessionPath message continuation) created := by
  have hcounted : OnTarget { self with randomUUIDs := self.randomUUIDs + 1 } created :=
    { h with toCorrelated := ⟨h.pending, h.settled, h.unique, h.adopted⟩ }
  refine hcounted.send (fun n view key entry heq => ?_) (fun _ => htarget) ?_
  · exact hopened n view key entry heq
  · cases continuation <;> exact hcontinuation

/-- Where starting prompts lead does not change when they become ready or finish. -/
theorem updateEntries (h : OnTarget self created) (entries : Nat → StartingPrompt)
    (startingPrompts : OrderedMap StartKey Nat)
    (hkey : ∀ entry, (entries entry).key = (self.entries entry).key)
    (hview : ∀ entry, (entries entry).view = (self.entries entry).view)
    (hready : ∀ entry sessionPath, (entries entry).ready = some (some sessionPath) → sessionPath ≠ [] →
      (self.entries entry).origin.Reaches created sessionPath)
    (hstarting : ∀ key entry, startingPrompts.get? key = some entry → self.startingPrompts.get? key = some entry) :
    OnTarget { self with entries, startingPrompts } created := by
  have horigin (entry : Nat) : (entries entry).origin = (self.entries entry).origin := by
    rw [StartingPrompt.origin, StartingPrompt.origin, hkey, hview]
  have hcontinuation (continuation : Continuation) (hold : continuation.OnTarget self created) :
      continuation.OnTarget { self with entries, startingPrompts } created := by
    cases continuation with
    | promptNew sessionNonce view key entry => exact ⟨hold.1, (horigin entry).trans hold.2.1, hold.2.2⟩
    | promptSession key entry sessionPath => exact ⟨hold.1, (horigin entry).trans hold.2⟩
    | _ => trivial
  exact { h with
    toCorrelated := ⟨h.pending, h.settled, h.unique, h.adopted⟩
    starting := by
      intro key entry hget
      obtain ⟨hcount, hold, hopened⟩ := h.starting key entry (hstarting key entry hget)
      exact ⟨hcount, (hkey entry).trans hold, fun n heq => (hview entry).symm ▸ hopened n heq⟩
    ready := by
      intro entry sessionPath hsome hne
      change (entries entry).origin.Reaches created sessionPath
      rw [horigin]
      exact hready entry sessionPath hsome hne
    calls := by
      intro call hmem entry hphase
      obtain ⟨hcount, hfollows⟩ := h.calls call hmem entry hphase
      refine ⟨hcount, ?_⟩
      change call.submission.origin.Follows created (entries entry).origin
      rw [horigin]
      exact hfollows
    requests := fun request hmem => hcontinuation _ (h.requests request hmem)
    settlements := fun settlement hmem => hcontinuation _ (h.settlements settlement hmem) }

theorem resolveReady (h : OnTarget self created) (entry : Nat) {sessionPath : Option JsString}
    (hreaches : ∀ path, sessionPath = some path → path ≠ [] → (self.entries entry).origin.Reaches created path) :
    OnTarget (self.resolveReady entry sessionPath) created := by
  unfold WsAgentAdapter.resolveReady
  extract_lets starting
  refine h.updateEntries _ self.startingPrompts ?_ ?_ ?_ fun _ _ hget => hget
  · intro other
    by_cases heq : other = entry
    · rw [heq, Function.update_self]
    · rw [Function.update_of_ne heq]
  · intro other
    by_cases heq : other = entry
    · rw [heq, Function.update_self]
    · rw [Function.update_of_ne heq]
  · intro other path hsome hne
    by_cases heq : other = entry
    · rw [heq] at hsome ⊢
      rw [Function.update_self] at hsome
      cases hready : (self.entries entry).ready with
      | none =>
        simp only [starting, hready, Option.getD_none, Option.some.injEq] at hsome
        exact hreaches path hsome hne
      | some resolved =>
        simp only [starting, hready, Option.getD_some, Option.some.injEq] at hsome
        exact h.ready entry path (by rw [hready, hsome]) hne
    · rw [Function.update_of_ne heq] at hsome
      exact h.ready other path hsome hne

theorem finishStartingPrompt (h : OnTarget self created) (key : StartKey) (entry : Nat)
    {attachedPath : Option JsString}
    (hreaches : ∀ path, attachedPath = some path → path ≠ [] →
      (self.entries entry).origin.Reaches created path) :
    OnTarget (self.finishStartingPrompt key entry attachedPath) created := by
  unfold WsAgentAdapter.finishStartingPrompt
  extract_lets resolved
  have hresolved : OnTarget resolved created := h.resolveReady entry hreaches
  refine hresolved.updateEntries _ _ ?_ ?_ ?_ ?_
  · intro other
    by_cases heq : other = entry
    · rw [heq, Function.update_self]
    · rw [Function.update_of_ne heq]
  · intro other
    by_cases heq : other = entry
    · rw [heq, Function.update_self]
    · rw [Function.update_of_ne heq]
  · intro other path hsome hne
    by_cases heq : other = entry
    · rw [heq] at hsome ⊢
      rw [Function.update_self] at hsome
      exact hresolved.ready entry path hsome hne
    · rw [Function.update_of_ne heq] at hsome
      exact hresolved.ready other path hsome hne
  · intro other index hget
    split at hget
    · rw [OrderedMap.get?_erase] at hget
      split at hget
      · cases hget
      · exact hget
    · exact hget

theorem resolveStarting (h : OnTarget self created) {key : StartKey} {sessionPath : JsString}
    (hreaches : ∀ entry, self.startingPrompts.get? key = some entry →
      (self.entries entry).origin.Reaches created sessionPath) :
    OnTarget (self.resolveStarting key sessionPath) created := by
  rw [WsAgentAdapter.resolveStarting]
  split
  · exact h
  · rename_i entry hentry
    apply h.resolveReady
    intro path hpath _
    rw [← Option.some.inj hpath]
    exact hreaches entry hentry

theorem setGlobalSessionStatus (h : OnTarget self created) (sessionPath : JsString)
    (status : SessionStatus) : OnTarget (self.setGlobalSessionStatus sessionPath status) created := by
  unfold WsAgentAdapter.setGlobalSessionStatus
  extract_lets next
  have hnext : OnTarget next created := { h with toCorrelated := ⟨h.pending, h.settled, h.unique, h.adopted⟩ }
  split
  · apply hnext.resolveStarting
    intro entry hentry
    obtain ⟨-, hkey, -⟩ := hnext.starting _ entry hentry
    rw [StartingPrompt.origin, hkey]
    exact rfl
  · exact hnext

/-- A navigation leaves what is open behind. -/
theorem navigate (h : OnTarget self created) {next : WsAgentAdapter}
    (hcorrelated : Correlated next created) (hnonce : next.sessionNonce = self.sessionNonce + 1)
    (hvirtual : next.isVirtual = true → truthy next.sessionPath = none)
    (hkept : next.sent = self.sent ∧ next.startingPrompts = self.startingPrompts ∧ next.entries = self.entries ∧
      next.entryCount = self.entryCount ∧ next.calls = self.calls ∧ next.compactionQueues = self.compactionQueues ∧
      next.batches = self.batches ∧ next.pendingRequests = self.pendingRequests ∧ next.settled = self.settled) :
    OnTarget next created := by
  obtain ⟨hsent, hstarting, hentries, hcount, hcalls, hqueues, hbatches, hrequests, hsettled⟩ := hkept
  have hopened {n view : Nat} (hold : Opened self n view) : Opened next n view := by
    have hle := hold.1
    exact ⟨by omega, fun heq => by omega⟩
  have hcontinuation (continuation : Continuation) (hold : continuation.OnTarget self created)
      (hpast : ∀ n view key entry, continuation = .promptNew n view key entry → Opened self n view) :
      continuation.OnTarget next created := by
    cases continuation with
    | promptNew n view key entry =>
      have hle := (hpast n view key entry rfl).1
      rw [Continuation.OnTarget, hentries, hcount]
      exact ⟨hold.1, hold.2.1, fun heq => by omega⟩
    | promptSession key entry sessionPath =>
      rw [Continuation.OnTarget, hentries, hcount]
      exact hold
    | _ => trivial
  refine ⟨hcorrelated, hsent ▸ h.sent, hvirtual, ?_, hentries ▸ h.ready, ?_, ?_, ?_, hqueues ▸ h.queues,
    hbatches ▸ h.batches⟩
  · rw [hstarting, hentries, hcount]
    intro key entry hget
    obtain ⟨hlt, hkey, hold⟩ := h.starting key entry hget
    exact ⟨hlt, hkey, fun n heq => hopened (hold n heq)⟩
  · rw [hcalls, hentries, hcount]
    exact h.calls
  · rw [hrequests]
    intro request hmem
    refine hcontinuation _ (h.requests request hmem) fun n view key entry heq => ?_
    exact (h.pending request hmem n view key entry heq).1
  · rw [hsettled]
    intro settlement hmem
    refine hcontinuation _ (h.settlements settlement hmem) fun n view key entry heq => ?_
    exact (h.settled settlement hmem n view key entry heq).1

theorem newSession (h : OnTarget self created) : OnTarget self.newSession created :=
  h.navigate (h.toCorrelated.navigate rfl rfl rfl rfl) rfl (fun _ => rfl)
    ⟨rfl, rfl, rfl, rfl, rfl, rfl, rfl, rfl, rfl⟩

theorem selectSession (h : OnTarget self created) (sessionPath : JsString) :
    OnTarget (self.selectSession sessionPath) created :=
  h.navigate (h.toCorrelated.navigate rfl rfl rfl rfl) rfl (fun hvirtual => by cases hvirtual)
    ⟨rfl, rfl, rfl, rfl, rfl, rfl, rfl, rfl, rfl⟩

theorem switchSession (h : OnTarget self created) (sessionPath : JsString) :
    OnTarget (self.switchSession sessionPath) created :=
  h.navigate (h.toCorrelated.navigate rfl rfl rfl rfl) rfl (fun hvirtual => by cases hvirtual)
    ⟨rfl, rfl, rfl, rfl, rfl, rfl, rfl, rfl, rfl⟩

theorem setSessionSubscriptionActive (h : OnTarget self created) (active : Bool) :
    OnTarget (self.setSessionSubscriptionActive active) created := by
  rw [WsAgentAdapter.setSessionSubscriptionActive]
  split
  · exact h
  · exact h.navigate (h.toCorrelated.navigate rfl rfl rfl rfl) rfl h.virtualPath
      ⟨rfl, rfl, rfl, rfl, rfl, rfl, rfl, rfl, rfl⟩

theorem enqueueCompactionPrompt (h : OnTarget self created) {sessionPath : JsString}
    {prompt : Submission} (hreaches : prompt.origin.Reaches created sessionPath) :
    OnTarget (self.enqueueCompactionPrompt sessionPath prompt) created := by
  have hcorrelated := h.toCorrelated.enqueueCompactionPrompt sessionPath prompt
  unfold WsAgentAdapter.enqueueCompactionPrompt at hcorrelated ⊢
  split at hcorrelated
  · rename_i hmodel
    rw [if_pos hmodel]
    exact h
  · rename_i hmodel
    rw [if_neg hmodel]
    exact { h with
      toCorrelated := hcorrelated
      queues := by
        intro path prompts hget other hmem
        rw [OrderedMap.get?_set] at hget
        split at hget
        · rename_i hpath
          rw [hpath]
          rw [← Option.some.inj hget] at hmem
          obtain hmem | hmem := List.mem_append.mp hmem
          · cases hqueue : self.compactionQueues.get? sessionPath with
            | none =>
              rw [hqueue] at hmem
              cases hmem
            | some queue =>
              rw [hqueue] at hmem
              exact h.queues sessionPath queue hqueue other hmem
          · rw [List.mem_singleton.mp hmem]
            exact hreaches
        · exact h.queues path prompts hget other hmem }

theorem sendFlushed (h : OnTarget self created) {sessionPath : JsString} (batch index : Nat)
    {prompts : List Submission} (hreaches : ∀ prompt ∈ prompts, prompt.origin.Reaches created sessionPath) :
    OnTarget (self.sendFlushed sessionPath batch index prompts) created := by
  induction prompts generalizing self index with
  | nil => exact h
  | cons prompt prompts ih =>
    apply ih
    · exact h.send (fun _ _ _ _ heq => by cases heq) (fun _ => hreaches prompt List.mem_cons_self) trivial
    · exact fun other hmem => hreaches other (List.mem_cons_of_mem _ hmem)

theorem flushCompactionQueue (h : OnTarget self created) (sessionPath : JsString) :
    OnTarget (self.flushCompactionQueue sessionPath) created := by
  unfold WsAgentAdapter.flushCompactionQueue
  split
  · exact h
  · rename_i queue hqueue
    split
    · exact h
    · have hreaches := h.queues sessionPath queue hqueue
      extract_lets batch flushed
      have hflushed : OnTarget flushed created :=
        { h with
          toCorrelated := ⟨h.pending, h.settled, h.unique, h.adopted⟩
          queues := by
            intro path prompts hget
            rw [OrderedMap.get?_erase] at hget
            split at hget
            · cases hget
            · exact h.queues path prompts hget
          batches := by
            intro batch hmem item hitem
            obtain hmem | hmem := List.mem_append.mp hmem
            · exact h.batches batch hmem item hitem
            · rw [List.mem_singleton.mp hmem] at hitem ⊢
              obtain ⟨prompt, hprompt, rfl⟩ := List.mem_map.mp hitem
              exact hreaches prompt hprompt }
      exact hflushed.sendFlushed _ _ hreaches

theorem requeue (h : OnTarget self created) (index : Nat) : OnTarget (self.requeue index) created := by
  unfold WsAgentAdapter.requeue
  split
  · exact h
  · rename_i batch hbatch
    split
    · exact h
    · extract_lets next failed
      have hreaches := h.batches batch (List.mem_of_getElem? hbatch)
      have hnext : OnTarget next created :=
        { h with
          toCorrelated := ⟨h.pending, h.settled, h.unique, h.adopted⟩
          batches := by
            intro other hmem item hitem
            obtain hmem | rfl := List.mem_or_eq_of_mem_set hmem
            · exact h.batches other hmem item hitem
            · cases hitem }
      split
      · exact hnext
      · exact { hnext with
          toCorrelated := ⟨h.pending, h.settled, h.unique, h.adopted⟩
          queues := by
            intro path prompts hget prompt hmem
            rw [OrderedMap.get?_set] at hget
            split at hget
            · rename_i hpath
              rw [hpath]
              rw [← Option.some.inj hget] at hmem
              obtain hmem | hmem := List.mem_append.mp hmem
              · obtain ⟨item, hitem, rfl⟩ := List.mem_map.mp hmem
                exact hreaches item (List.mem_of_mem_filter hitem)
              · cases hqueue : next.compactionQueues.get? batch.sessionPath with
                | none =>
                  rw [hqueue] at hmem
                  cases hmem
                | some queue =>
                  rw [hqueue] at hmem
                  exact h.queues batch.sessionPath queue hqueue prompt hmem
            · exact h.queues path prompts hget prompt hmem }

theorem removeQueued (h : OnTarget self created) (sessionPath : JsString) (index : Nat) :
    OnTarget (self.removeQueued sessionPath index) created := by
  unfold WsAgentAdapter.removeQueued
  extract_lets queue next
  split
  · exact h
  · exact { h with
      toCorrelated := ⟨h.pending, h.settled, h.unique, h.adopted⟩
      queues := by
        intro path prompts hget prompt hmem
        split at hget
        · rw [OrderedMap.get?_erase] at hget
          split at hget
          · cases hget
          · exact h.queues path prompts hget prompt hmem
        · rw [OrderedMap.get?_set] at hget
          split at hget
          · rename_i hpath
            rw [hpath]
            rw [← Option.some.inj hget] at hmem
            have hmem : prompt ∈ queue := List.mem_of_mem_eraseIdx hmem
            cases hqueue : self.compactionQueues.get? sessionPath with
            | none =>
              simp only [queue, hqueue, Option.getD_none] at hmem
              cases hmem
            | some prompts =>
              simp only [queue, hqueue, Option.getD_some] at hmem
              exact h.queues sessionPath prompts hqueue prompt hmem
          · exact h.queues path prompts hget prompt hmem }

theorem suspend (h : OnTarget self created) {call : PromptCall}
    (hfollows : ∀ entry, call.phase = .ready entry → entry < self.entryCount ∧
      call.submission.origin.Follows created (self.entries entry).origin) :
    OnTarget { self with calls := self.calls ++ [call] } created :=
  { h with
    toCorrelated := ⟨h.pending, h.settled, h.unique, h.adopted⟩
    calls := by
      intro other hmem
      obtain hmem | hmem := List.mem_append.mp hmem
      · exact h.calls other hmem
      · rw [List.mem_singleton.mp hmem]
        exact hfollows }

theorem prompt (h : OnTarget self created) (submission : Submission) :
    OnTarget (self.prompt submission) created := by
  rw [WsAgentAdapter.prompt]
  split
  · rename_i handled hhandled
    unfold WsAgentAdapter.handleSlashCommand at hhandled
    split at hhandled
    · cases hhandled
    · cases hhandled
      exact h.newSession
    · cases hhandled
      exact h
    · split at hhandled
      · cases hhandled
        exact h
      · rename_i sessionPath _
        extract_lets compacting at hhandled
        have hcompacting : OnTarget compacting created :=
          { h with toCorrelated := ⟨h.pending, h.settled, h.unique, h.adopted⟩ }
        split at hhandled
        · cases hhandled
          exact hcompacting.reject (fun _ _ _ _ heq => by cases heq) trivial
        · cases hhandled
          exact { hcompacting with
            toCorrelated := by
              refine ⟨fun request hmem => ?_, h.settled, h.unique, h.adopted⟩
              obtain hmem | hmem := List.mem_append.mp hmem
              · exact h.pending request hmem
              · rw [List.mem_singleton.mp hmem]
                exact fun _ _ _ _ heq => by cases heq
            requests := by
              intro request hmem
              obtain hmem | hmem := List.mem_append.mp hmem
              · exact h.requests request hmem
              · rw [List.mem_singleton.mp hmem]
                trivial }
  · exact h.suspend fun _ heq => by cases heq

theorem callPrompt (h : OnTarget self created) (text : JsString) :
    OnTarget (self.callPrompt text) created := by
  apply prompt
  exact { h with toCorrelated := ⟨h.pending, h.settled, h.unique, h.adopted⟩ }

theorem origin_reaches (h : OnTarget self created) {sessionPath : JsString}
    (hpath : truthy self.sessionPath = some sessionPath) : self.origin.Reaches created sessionPath := by
  rw [WsAgentAdapter.origin]
  split
  · rename_i hvirtual
    rw [h.virtualPath hvirtual] at hpath
    cases hpath
  · rw [(truthy_eq_some.mp hpath).1]
    exact rfl

theorem steer (h : OnTarget self created) (text : JsString) : OnTarget (self.steer text) created := by
  unfold WsAgentAdapter.steer
  split
  · exact h
  · rename_i sessionPath hpath
    split
    · exact h
    · extract_lets steering counted
      have hreaches : steering.origin.Reaches created sessionPath := h.origin_reaches hpath
      have hcounted : OnTarget counted created :=
        { h with toCorrelated := ⟨h.pending, h.settled, h.unique, h.adopted⟩ }
      split
      · exact hcounted.enqueueCompactionPrompt hreaches
      · split
        · exact hcounted.sendOperation (fun _ _ _ _ heq => by cases heq) hreaches trivial
        · exact hcounted

theorem forkAndPrompt (h : OnTarget self created) (text : JsString) :
    OnTarget (self.forkAndPrompt text) created := by
  rw [WsAgentAdapter.forkAndPrompt]
  split
  · exact h.callPrompt text
  · rename_i sessionPath hpath
    split
    · exact h.callPrompt text
    · split
      · exact h
      · have hcounted : OnTarget self.countSubmission created :=
          { h with toCorrelated := ⟨h.pending, h.settled, h.unique, h.adopted⟩ }
        exact hcounted.sendOperation (fun _ _ _ _ heq => by cases heq) (h.origin_reaches hpath) trivial

theorem displays_reaches (h : OnTarget self created) {origin : Origin}
    (hdisplays : Displays created self origin) {sessionPath : JsString}
    (hpath : truthy self.sessionPath = some sessionPath) : origin.Reaches created sessionPath := by
  cases origin with
  | session path =>
    have hsame := (truthy_eq_some.mp hpath).1.symm.trans hdisplays.2
    exact Option.some.inj hsame
  | view n =>
    obtain ⟨hvirtual, -⟩ | ⟨-, path, hdisplayed, hcreated⟩ := hdisplays
    · rw [h.virtualPath hvirtual] at hpath
      cases hpath
    · have hsame := hdisplayed.symm.trans (truthy_eq_some.mp hpath).1
      rw [← Option.some.inj hsame]
      exact hcreated

theorem displays_virtual {origin : Origin} (hdisplays : Displays created self origin)
    (hvirtual : self.isVirtual = true) : origin = .view self.view := by
  cases origin with
  | session path =>
    rw [hdisplays.1] at hvirtual
    cases hvirtual
  | view n =>
    obtain ⟨-, hview⟩ | ⟨hreal, -⟩ := hdisplays
    · rw [hview]
    · rw [hreal] at hvirtual
      cases hvirtual

theorem createStartingPrompt (h : OnTarget self created) {key : StartKey}
    (hkey : ∀ n, key = .virtual n → n = self.sessionNonce) : OnTarget (self.createStartingPrompt key) created := by
  have hold {entry : Nat} (hlt : entry < self.entryCount) :
      (self.createStartingPrompt key).entries entry = self.entries entry :=
    Function.update_of_ne (Nat.ne_of_lt hlt) _ _
  have hnew : (self.createStartingPrompt key).entries self.entryCount =
      { key, view := self.view, ready := none, finished := false } :=
    Function.update_self _ _ _
  have hcontinuation (continuation : Continuation) (hon : continuation.OnTarget self created) :
      continuation.OnTarget (self.createStartingPrompt key) created := by
    cases continuation with
    | promptNew n view key entry =>
      refine ⟨Nat.lt_succ_of_lt hon.1, ?_, hon.2.2⟩
      rw [hold hon.1]
      exact hon.2.1
    | promptSession key entry sessionPath =>
      refine ⟨Nat.lt_succ_of_lt hon.1, ?_⟩
      rw [hold hon.1]
      exact hon.2
    | _ => trivial
  exact { h with
    toCorrelated := ⟨h.pending, h.settled, h.unique, h.adopted⟩
    starting := by
      intro other entry hget
      rw [WsAgentAdapter.createStartingPrompt, OrderedMap.get?_set] at hget
      split at hget
      · rename_i hsame
        cases hget
        rw [hnew, hsame]
        exact ⟨Nat.lt_succ_self _, rfl, fun n heq => ⟨Nat.le_of_eq (hkey n heq), fun _ => rfl⟩⟩
      · obtain ⟨hlt, hother, hopened⟩ := h.starting other entry hget
        rw [hold hlt]
        exact ⟨Nat.lt_succ_of_lt hlt, hother, hopened⟩
    ready := by
      intro entry sessionPath hready hne
      by_cases heq : entry = self.entryCount
      · rw [heq, hnew] at hready
        cases hready
      · have hentry : (self.createStartingPrompt key).entries entry = self.entries entry :=
          Function.update_of_ne heq _ _
        rw [hentry] at hready ⊢
        exact h.ready entry sessionPath hready hne
    calls := by
      intro call hmem entry hphase
      obtain ⟨hlt, hfollows⟩ := h.calls call hmem entry hphase
      rw [hold hlt]
      exact ⟨Nat.lt_succ_of_lt hlt, hfollows⟩
    requests := fun request hmem => hcontinuation _ (h.requests request hmem)
    settlements := fun settlement hmem => hcontinuation _ (h.settlements settlement hmem) }

theorem startPrompt (h : OnTarget self created) {submission : Submission}
    (hdisplays : Displays created self submission.origin) : OnTarget (self.startPrompt submission) created := by
  unfold WsAgentAdapter.startPrompt
  extract_lets key entry starting
  split
  · exact h
  · have hentry : starting.entries entry = { key, view := self.view, ready := none, finished := false } :=
      Function.update_self _ _ _
    by_cases hvirtual : self.isVirtual = true
    · have hkey : key = .virtual self.sessionNonce := by
        simp only [key, WsAgentAdapter.promptStartKey, hvirtual, if_true, Option.getD_some]
      have hstarting : OnTarget starting created := by
        apply h.createStartingPrompt
        intro n heq
        rw [hkey] at heq
        cases heq
        rfl
      have hpending : OnTarget { starting with pendingNewPrompt := true } created :=
        { hstarting with
          toCorrelated := ⟨hstarting.pending, hstarting.settled, hstarting.unique, hstarting.adopted⟩ }
      rw [if_pos (show starting.isVirtual = true from hvirtual)]
      refine hpending.sendOperation (fun n view other index heq => ?_) (displays_virtual hdisplays hvirtual) ?_
      · cases heq
        exact ⟨⟨Nat.le_refl _, fun _ => rfl⟩, rfl, rfl⟩
      · refine ⟨Nat.lt_succ_self _, ?_, fun _ sessionPath hpath => ?_⟩
        · change (starting.entries entry).origin = _
          rw [hentry, StartingPrompt.origin, hkey]
          rfl
        · have hnone := h.virtualPath hvirtual
          rw [show truthy self.sessionPath = some sessionPath from hpath] at hnone
          cases hnone
    · have hkey : ∀ sessionPath, truthy self.sessionPath = some sessionPath → key = .session sessionPath := by
        intro sessionPath hpath
        simp only [key, WsAgentAdapter.promptStartKey, if_neg hvirtual, (truthy_eq_some.mp hpath).1,
          Option.map_some, Option.getD_some]
      have hstarting : OnTarget starting created := by
        apply h.createStartingPrompt
        intro n heq
        simp only [key, WsAgentAdapter.promptStartKey, if_neg hvirtual] at heq
        cases hpath : self.sessionPath with
        | none =>
          simp only [hpath, Option.map_none, Option.getD_none, StartKey.virtual.injEq] at heq
          exact heq.symm
        | some sessionPath =>
          simp only [hpath, Option.map_some, Option.getD_some] at heq
          cases heq
      rw [if_neg (show ¬ starting.isVirtual = true from hvirtual)]
      split
      · exact hstarting
      · rename_i sessionPath hpath
        refine hstarting.sendOperation (fun _ _ _ _ heq => by cases heq) (h.displays_reaches hdisplays hpath) ?_
        refine ⟨Nat.lt_succ_self _, ?_⟩
        rw [hentry, StartingPrompt.origin, hkey sessionPath hpath]

theorem existingStart_follows (h : OnTarget self created) {origin : Origin}
    (hdisplays : Displays created self origin) {entry : Nat} (hentry : self.existingStart = some entry) :
    entry < self.entryCount ∧ origin.Follows created (self.entries entry).origin := by
  rw [WsAgentAdapter.existingStart, Option.bind_eq_some_iff] at hentry
  obtain ⟨key, hkey, hget⟩ := hentry
  rw [Option.filter_eq_some_iff, WsAgentAdapter.promptStartKey] at hkey
  obtain ⟨hlt, hentryKey, hopened⟩ := h.starting key entry hget
  refine ⟨hlt, ?_⟩
  rw [StartingPrompt.origin, hentryKey]
  by_cases hvirtual : self.isVirtual = true
  · rw [if_pos hvirtual, Option.some.injEq] at hkey
    obtain ⟨rfl, -⟩ := hkey
    rw [(hopened _ rfl).2 rfl]
    exact displays_virtual hdisplays hvirtual
  · rw [if_neg hvirtual, Option.map_eq_some_iff] at hkey
    obtain ⟨⟨sessionPath, hpath, rfl⟩, hne⟩ := hkey
    apply h.displays_reaches hdisplays
    refine truthy_eq_some.mpr ⟨hpath, ?_⟩
    rintro rfl
    simp at hne

theorem afterSlashCommand (h : OnTarget self created) {submission : Submission}
    (hdisplays : Displays created self submission.origin) :
    OnTarget (self.afterSlashCommand submission) created := by
  unfold WsAgentAdapter.afterSlashCommand
  extract_lets sessionPath
  split
  · rename_i path hpath
    exact h.enqueueCompactionPrompt (h.displays_reaches hdisplays (Option.filter_eq_some_iff.mp hpath).1)
  · split
    · rename_i entry hentry
      apply h.suspend
      intro other hphase
      cases hphase
      exact h.existingStart_follows hdisplays hentry
    · split
      · rename_i path hpath
        have hreaches := h.displays_reaches hdisplays (Option.filter_eq_some_iff.mp hpath).1
        exact h.sendOperation (fun _ _ _ _ heq => by cases heq) hreaches trivial
      · exact h.startPrompt hdisplays

theorem resumeCall (h : OnTarget self created) {index : Nat}
    (hdisplays : ∀ call, self.calls[index]? = some call → call.phase = .slashCommand →
      Displays created self call.submission.origin) :
    OnTarget (self.resumeCall index) created := by
  unfold WsAgentAdapter.resumeCall
  split
  · exact h
  · rename_i call hcall
    extract_lets resumed
    have hresumed : OnTarget resumed created :=
      { h with
        toCorrelated := ⟨h.pending, h.settled, h.unique, h.adopted⟩
        calls := fun other hmem => h.calls other (List.mem_of_mem_eraseIdx hmem) }
    split
    · rename_i hphase
      apply hresumed.afterSlashCommand
      have hsame := hdisplays call hcall hphase
      cases horigin : call.submission.origin with
      | session path => rwa [horigin] at hsame
      | view n => rwa [horigin] at hsame
    · rename_i entry hphase
      split
      · exact h
      · rename_i attachedPath hready
        obtain ⟨-, hfollows⟩ := h.calls call (List.mem_of_getElem? hcall) entry hphase
        rw [WsAgentAdapter.afterReady]
        split
        · rename_i path hpath
          obtain ⟨hattached, hne⟩ := truthy_eq_some.mp (Option.filter_eq_some_iff.mp hpath).1
          rw [hattached] at hready
          have hreaches := hfollows.reaches (h.ready entry path hready hne)
          exact hresumed.sendOperation (fun _ _ _ _ heq => by cases heq) hreaches trivial
        · exact hresumed.suspend fun _ heq => by cases heq
    · split
      · rw [WsAgentAdapter.afterFinished]
        split
        · exact hresumed
        · exact hresumed.prompt _
      · exact h

theorem adopt (h : OnTarget self created) {sessionPath : JsString}
    (hcreated : CreatedBy created self.view sessionPath) : OnTarget (self.adopt sessionPath) created := by
  have hcontinuation (continuation : Continuation) (hold : continuation.OnTarget self created)
      (hpast : ∀ n view key entry, continuation = .promptNew n view key entry → Opened self n view) :
      continuation.OnTarget (self.adopt sessionPath) created := by
    cases continuation with
    | promptNew n view key entry =>
      refine ⟨hold.1, hold.2.1, fun heq path hpath => ?_⟩
      rw [(hpast n view key entry rfl).2 heq]
      have hsame : sessionPath = path := Option.some.inj (truthy_eq_some.mp hpath).1
      rw [← hsame]
      exact hcreated
    | promptSession key entry path => exact hold
    | _ => trivial
  exact { h with
    toCorrelated := h.toCorrelated.adopt hcreated
    virtualPath := fun hvirtual => by cases hvirtual
    requests := fun request hmem => hcontinuation _ (h.requests request hmem) fun n view key entry heq =>
      (h.pending request hmem n view key entry heq).1
    settlements := fun settlement hmem => hcontinuation _ (h.settlements settlement hmem)
      fun n view key entry heq => (h.settled settlement hmem n view key entry heq).1 }

theorem onSessionAttached (h : OnTarget self created) {sessionPath : JsString}
    (hcreated : self.isVirtual = true → self.sessionPath = some sessionPath ∨ self.pendingNewPrompt = true →
      CreatedBy created self.view sessionPath) :
    OnTarget (self.onSessionAttached sessionPath) created := by
  have hstatus : OnTarget (self.setGlobalSessionStatus sessionPath .running) created :=
    h.setGlobalSessionStatus sessionPath .running
  obtain ⟨hpath, hview, hvirtual, hprompt⟩ := setGlobalSessionStatus_kept self sessionPath .running
  unfold WsAgentAdapter.onSessionAttached
  extract_lets next
  split
  · rename_i hnextVirtual
    split
    · rename_i hadopt
      have hown : CreatedBy created next.view sessionPath := by
        rw [hview]
        exact hcreated (hvirtual ▸ hnextVirtual) (hpath ▸ hprompt ▸ hadopt)
      have hadopted := hstatus.adopt hown
      apply hadopted.resolveStarting
      intro entry hentry
      obtain ⟨-, hkey, hopened⟩ := hadopted.starting _ entry hentry
      rw [StartingPrompt.origin, hkey]
      change CreatedBy created ((next.adopt sessionPath).entries entry).view sessionPath
      rw [(hopened _ rfl).2 rfl]
      exact hown
    · exact hstatus
  · exact hstatus

theorem onPromptNewSettled (h : OnTarget self created) {sessionNonce view : Nat} {key : StartKey}
    {entry : Nat} {result : Option ResponseData} (hopened : Opened self sessionNonce view)
    (hresult : ∀ data sessionPath, result = some data → data.newSessionPath = some sessionPath →
      CreatedBy created view sessionPath)
    (hcontinuation : (Continuation.promptNew sessionNonce view key entry).OnTarget self created) :
    OnTarget (self.onPromptNewSettled sessionNonce key entry result) created := by
  obtain ⟨-, horigin, hown⟩ := hcontinuation
  unfold WsAgentAdapter.onPromptNewSettled
  extract_lets adopted settled
  have hadopted : OnTarget adopted created ∧ (adopted.entries entry).origin = .view view ∧
      adopted.sessionNonce = self.sessionNonce ∧
      (sessionNonce = self.sessionNonce → ∀ sessionPath, truthy adopted.sessionPath = some sessionPath →
        CreatedBy created view sessionPath) := by
    simp only [adopted]
    split
    · exact ⟨h, horigin, rfl, hown⟩
    · rename_i res
      split
      · exact ⟨h, horigin, rfl, hown⟩
      · rename_i hnonce
        split
        · exact ⟨h, horigin, rfl, hown⟩
        · rename_i newSessionPath hpath
          split
          · have hcreated := hresult res newSessionPath rfl (truthy_eq_some.mp hpath).1
            refine ⟨h.adopt ?_, horigin, rfl, fun _ sessionPath hadoptedPath => ?_⟩
            · rw [← hopened.2 (not_not.mp hnonce).symm]
              exact hcreated
            · have hsame : newSessionPath = sessionPath :=
                Option.some.inj (truthy_eq_some.mp hadoptedPath).1
              rw [← hsame]
              exact hcreated
          · exact ⟨h, horigin, rfl, hown⟩
  obtain ⟨hon, hentry, hnonce, hpath⟩ := hadopted
  have hsettled : OnTarget settled created :=
    { hon with toCorrelated := ⟨hon.pending, hon.settled, hon.unique, hon.adopted⟩ }
  apply hsettled.finishStartingPrompt
  intro path hattached hne
  split at hattached
  · rename_i hsame
    change (adopted.entries entry).origin.Reaches created path
    rw [hentry]
    exact hpath (hsame.symm.trans hnonce) path (truthy_eq_some.mpr ⟨hattached, hne⟩)
  · cases hattached

theorem onForkPromptSettled (h : OnTarget self created) (sessionNonce : Nat)
    (result : Option ResponseData) : OnTarget (self.onForkPromptSettled sessionNonce result) created := by
  unfold WsAgentAdapter.onForkPromptSettled
  split
  · exact h
  · split
    · exact h
    · split
      · exact h
      · exact h.switchSession _

theorem onCompacted (h : OnTarget self created) (sessionPath : JsString) :
    OnTarget (self.onCompacted sessionPath) created := by
  apply flushCompactionQueue
  exact { h with toCorrelated := ⟨h.pending, h.settled, h.unique, h.adopted⟩ }

theorem onFlushSettled (h : OnTarget self created) (batch index : Nat) (result : Option ResponseData) :
    OnTarget (self.onFlushSettled batch index result) created :=
  { h with
    toCorrelated := ⟨h.pending, h.settled, h.unique, h.adopted⟩
    batches := by
      intro changed hmem item hitem
      obtain ⟨i, hi⟩ := List.mem_iff_getElem?.mp hmem
      rw [WsAgentAdapter.onFlushSettled, List.getElem?_modify, Option.map_eq_map, Option.map_eq_some_iff] at hi
      obtain ⟨old, hold, rfl⟩ := hi
      have hbatch := h.batches old (List.mem_of_getElem? hold)
      by_cases hsettled : batch = i
      · simp only [if_pos hsettled] at hitem ⊢
        obtain ⟨j, hj⟩ := List.mem_iff_getElem?.mp hitem
        rw [List.getElem?_modify, Option.map_eq_map, Option.map_eq_some_iff] at hj
        obtain ⟨oldItem, holdItem, rfl⟩ := hj
        have hreaches := hbatch oldItem (List.mem_of_getElem? holdItem)
        split
        · exact hreaches
        · exact hreaches
      · simp only [if_neg hsettled] at hitem ⊢
        exact hbatch item hitem }

theorem resume (h : OnTarget self created) (index : Nat) : OnTarget (self.resume index) created := by
  unfold WsAgentAdapter.resume
  split
  · exact h
  · rename_i settlement hsettlement
    extract_lets next
    have hmem : settlement ∈ self.settled := List.mem_of_getElem? hsettlement
    have hnext : OnTarget next created :=
      { h with
        toCorrelated := ⟨h.pending, fun other hother => h.settled other (List.mem_of_mem_eraseIdx hother),
          h.unique, h.adopted⟩
        settlements := fun other hother => h.settlements other (List.mem_of_mem_eraseIdx hother) }
    have hon := h.settlements settlement hmem
    cases hcontinuation : settlement.continuation with
    | promptNew sessionNonce view key entry =>
      obtain ⟨hopened, hresult⟩ := h.settled settlement hmem sessionNonce view key entry hcontinuation
      rw [hcontinuation] at hon
      exact hnext.onPromptNewSettled hopened hresult hon
    | promptSession key entry sessionPath =>
      rw [hcontinuation] at hon
      apply hnext.finishStartingPrompt
      intro path hpath _
      rw [show (next.entries entry).origin = _ from hon.2]
      exact (Option.some.inj hpath).symm
    | steer => exact hnext
    | forkPrompt sessionNonce => exact hnext.onForkPromptSettled sessionNonce _
    | flush batch item => exact hnext.onFlushSettled batch item _
    | compact sessionPath => exact hnext.onCompacted sessionPath

theorem settle (h : OnTarget self created) (id : Nat) {result : Option ResponseData}
    (hmay : ∀ pending, self.pendingRequests.find? (fun pending => pending.id = id) = some pending →
      ∀ data ∈ result, MayAnswer created pending data) :
    OnTarget (self.settle id result) created := by
  have hcorrelated := h.toCorrelated.settle id hmay
  unfold WsAgentAdapter.settle at hcorrelated ⊢
  cases hpending : self.pendingRequests.find? fun pending => pending.id = id with
  | none => exact h
  | some pending =>
    simp only [hpending] at hcorrelated
    exact { h with
      toCorrelated := hcorrelated
      requests := fun request hmem => h.requests request (List.mem_of_mem_filter hmem)
      settlements := by
        intro settlement hmem
        obtain hmem | hmem := List.mem_append.mp hmem
        · exact h.settlements settlement hmem
        · rw [List.mem_singleton.mp hmem]
          exact h.requests pending (List.mem_of_find?_eq_some hpending) }

theorem settle_none (h : OnTarget self created) (id : Nat) : OnTarget (self.settle id none) created :=
  h.settle id fun _ _ _ hmem => by cases hmem

theorem onSendRefused (h : OnTarget self created) (replayed : Bool) :
    OnTarget (self.onSendRefused replayed) created := by
  unfold WsAgentAdapter.onSendRefused
  split
  · exact h
  · extract_lets next
    have hnext : OnTarget next created := { h with toCorrelated := ⟨h.pending, h.settled, h.unique, h.adopted⟩ }
    split
    · exact hnext
    · exact hnext.settle_none _

theorem settlements_rejected (h : OnTarget self created) {rejected : List PendingRequest}
    (hrejected : rejected ⊆ self.pendingRequests) :
    ∀ settlement ∈ self.settled ++ rejected.map fun pending =>
        ({ continuation := pending.continuation, result := none } : Settlement),
      settlement.continuation.OnTarget self created := by
  intro settlement hmem
  obtain hmem | hmem := List.mem_append.mp hmem
  · exact h.settlements settlement hmem
  · obtain ⟨request, hrequest, rfl⟩ := List.mem_map.mp hmem
    exact h.requests request (hrejected hrequest)

theorem handleTransportDisconnected (h : OnTarget self created) :
    OnTarget self.handleTransportDisconnected created :=
  { h with
    toCorrelated := h.toCorrelated.handleTransportDisconnected
    requests := fun request hmem => h.requests request (List.mem_of_mem_filter hmem)
    settlements := h.settlements_rejected fun _ => List.mem_of_mem_filter }

theorem disconnect (h : OnTarget self created) : OnTarget self.disconnect created :=
  { h with
    toCorrelated := h.toCorrelated.disconnect
    requests := fun _ hmem => absurd hmem List.not_mem_nil
    settlements := h.settlements_rejected (List.Subset.refl _) }

theorem onConnected (h : OnTarget self created) : OnTarget self.onConnected created := by
  rw [WsAgentAdapter.onConnected]
  split
  · exact h
  · split
    · exact { h with toCorrelated := ⟨h.pending, h.settled, h.unique, h.adopted⟩ }
    · exact { h with
        toCorrelated := ⟨h.pending, h.settled, h.unique, h.adopted⟩
        virtualPath := by
          intro hvirtual
          obtain hvirtual | hnone := Bool.or_eq_true_iff.mp hvirtual
          · exact h.virtualPath hvirtual
          · exact of_decide_eq_true hnone }

/-- More sessions are created. -/
theorem created_append (h : OnTarget self created) {more : List CreatedSession}
    (hcorrelated : Correlated self (created ++ more)) : OnTarget self (created ++ more) := by
  have hfollows {origin starting : Origin} (hold : origin.Follows created starting) :
      origin.Follows (created ++ more) starting := by
    cases starting with
    | session => exact hold.append more
    | view => exact hold
  have hcontinuation (continuation : Continuation) (hold : continuation.OnTarget self created) :
      continuation.OnTarget self (created ++ more) := by
    cases continuation with
    | promptNew => exact ⟨hold.1, hold.2.1, fun heq path hpath => (hold.2.2 heq path hpath).append more⟩
    | promptSession => exact hold
    | _ => trivial
  exact { h with
    toCorrelated := hcorrelated
    sent := by
      intro frame hmem
      have hold := h.sent frame hmem
      rw [SentToOrigin] at hold ⊢
      cases htarget : frame.command.sessionPath with
      | new => rwa [htarget] at hold
      | session path =>
        rw [htarget] at hold
        exact hold.append more
    ready := fun entry path hready hne => (h.ready entry path hready hne).append more
    calls := fun call hmem entry hphase =>
      ⟨(h.calls call hmem entry hphase).1, hfollows (h.calls call hmem entry hphase).2⟩
    requests := fun request hmem => hcontinuation _ (h.requests request hmem)
    settlements := fun settlement hmem => hcontinuation _ (h.settlements settlement hmem)
    queues := fun path prompts hget prompt hmem => (h.queues path prompts hget prompt hmem).append more
    batches := fun batch hmem item hitem => (h.batches batch hmem item hitem).append more }

theorem create {backend : Backend} (h : OnTarget self backend.created) (index : Nat)
    (sessionPath : JsString) : OnTarget self (backend.create index sessionPath).created := by
  have hcorrelated := h.toCorrelated.create index sessionPath
  rw [Backend.create] at hcorrelated ⊢
  split at hcorrelated
  · exact h
  · split at hcorrelated
    · rename_i hskipped
      rw [if_pos hskipped]
      exact h
    · rename_i hfresh
      rw [if_neg hfresh]
      exact h.created_append hcorrelated

theorem respond {system : System} (h : OnTarget system.client system.backend.created) (id : Nat)
    (result : Option ResponseData) :
    OnTarget (system.respond id result).client (system.respond id result).backend.created := by
  rw [System.respond]
  split
  · exact h
  · rename_i pending hpending
    split
    · exact h
    · rename_i hmay
      apply h.settle
      intro other hother data hdata
      rw [hpending] at hother
      cases hother
      by_contra hforeign
      exact hmay ⟨data, hdata, hforeign⟩

/-- One step on which every prompt that goes on is still displayed for. -/
theorem step {system : System} {event : Event} (h : OnTarget system.client system.backend.created)
    (hok : StaysDisplayed system event) :
    OnTarget (system.step event).client (system.step event).backend.created := by
  cases event with
  | callPrompt text => exact h.callPrompt text
  | steer text => exact h.steer text
  | forkAndPrompt text => exact h.forkAndPrompt text
  | removeQueued sessionPath index => exact h.removeQueued sessionPath index
  | newSession => exact h.newSession
  | switchSession sessionPath => exact h.switchSession sessionPath
  | restoreCachedSessionPreview sessionPath => exact h.selectSession sessionPath
  | setSessionSubscriptionActive active => exact h.setSessionSubscriptionActive active
  | modelChanged hasModel => exact { h with toCorrelated := ⟨h.pending, h.settled, h.unique, h.adopted⟩ }
  | resumeCall index => exact h.resumeCall hok.2
  | resume index => exact h.resume index
  | requeue index => exact h.requeue index
  | sessionStatusChange sessionPath status => exact h.setGlobalSessionStatus sessionPath status
  | allSessionStatuses statuses => exact { h with toCorrelated := ⟨h.pending, h.settled, h.unique, h.adopted⟩ }
  | sessionAttached sessionPath =>
    rw [System.step]
    split
    · rename_i hsent
      obtain ⟨session, hmem, hpath⟩ := List.mem_map.mp hsent
      apply h.onSessionAttached
      intro hvirtual hadopt
      exact ⟨session, hmem, hpath, hok.1 session hmem hpath hvirtual hadopt⟩
    · exact h
  | responseArrives id result => exact h.respond id result
  | timedOut id =>
    rw [System.step]
    split
    · exact h.settle_none id
    · exact h
  | sendRefused replayed => exact h.onSendRefused replayed
  | connected => exact h.onConnected
  | disconnected => exact h.handleTransportDisconnected
  | closed => exact h.disconnect
  | serverReceives =>
    rw [System.step]
    split
    · exact h
    · rw [Backend.receive_created]
      exact { h with toCorrelated := ⟨h.pending, h.settled, h.unique, h.adopted⟩ }
  | serverCreates index sessionPath => exact h.create index sessionPath
  | serverDispatches index =>
    rw [System.step, Backend.dispatch_created]
    exact h
  | serverSettles index =>
    rw [System.step, Backend.settle_created]
    exact h

end

end OnTarget

/-- In a run on which every `prompt` chooses its target while what it was called on is displayed, every input
    reaches the session it was made for. -/
theorem inputs_reach_origin (events : List Event)
    (hdisplayed : EveryStep System.step .start StaysDisplayed events) :
    Always System.step .start InputsReachOrigin events := by
  have hon := always_of_everyStep
    (P := fun system : System => OnTarget system.client system.backend.created)
    OnTarget.start (fun _ _ h hok => h.step hok) hdisplayed
  exact fun before hbefore => (hon before hbefore).sent

/-- A prompt from the first virtual view. -/
def firstPrompt : List Event :=
  [.connected, .modelChanged true, .callPrompt (js "one"), .resumeCall 0]

theorem inputs_reach_origin_firstPrompt :
    (run System.step .start firstPrompt).client.sent.map (fun frame => frame.command.sessionPath) = [.new] ∧
      Always System.step .start InputsReachOrigin firstPrompt := by
  refine ⟨by decide +kernel, inputs_reach_origin firstPrompt ?_⟩
  have hcalls : (run System.step .start (firstPrompt.take 3)).client.calls =
      [⟨⟨0, js "one", .view 0⟩, .slashCommand⟩] := by decide +kernel
  rw [show firstPrompt = ((([] ++ [_]) ++ [_]) ++ [_]) ++ [_] from rfl]
  simp only [everyStep_snoc]
  refine ⟨⟨⟨⟨everyStep_nil, trivial, trivial⟩, trivial, trivial⟩, trivial, trivial⟩, trivial, ?_⟩
  intro call hcall _
  change (run System.step .start (firstPrompt.take 3)).client.calls[0]? = some call at hcall
  rw [hcalls] at hcall
  cases hcall
  exact .inl ⟨rfl, rfl⟩

/-- A second prompt waits for the first one of its session; the user opens another session before that one
    settles. -/
def switchedWhileStarting : List Event :=
  [.connected, .modelChanged true, .switchSession (js "a.jsonl"), .callPrompt (js "one"), .resumeCall 0,
    .callPrompt (js "two"), .resumeCall 0, .switchSession (js "b.jsonl"), .responseArrives 1 none, .resume 0,
    .resumeCall 0, .resumeCall 0, .resumeCall 0]

theorem not_always_inputsReachOrigin_switchedWhileStarting :
    ¬ ∀ events, Always System.step .start InputsReachOrigin events := by
  intro h
  have hsent : (Origin.session (js "a.jsonl"), Target.session (js "b.jsonl")) ∈
      (run System.step .start switchedWhileStarting).client.sent.map
        (fun frame => (frame.command.message.origin, frame.command.sessionPath)) := by decide +kernel
  obtain ⟨frame, hmem, hframe⟩ := List.mem_map.mp hsent
  obtain ⟨horigin, htarget⟩ := Prod.mk.inj hframe
  have hreached := (h switchedWhileStarting).last frame hmem
  rw [SentToOrigin, horigin, htarget] at hreached
  exact absurd hreached (by decide +kernel : js "b.jsonl" ≠ js "a.jsonl")

end pipane.ws_agent_adapter.prompts

import Pipane.Server.WsHandler.Commands.Queue

open async javascript pipane.process_pool pipane.session_actor pipane.session_jsonl pipane.session_registry
open async.Atomic (Spec)
open async.Coroutine (Safe)

namespace pipane.ws_handler.runtime

variable {n a : Nat} {s t u : System} {proc : Nat} {command : PiRpcCommand}

/-- The state after a request was noted. -/
def System.noted (s : System) (rpcs : List ActorRpc) : System :=
  { s with history := { s.history with rpcs := s.history.rpcs ++ rpcs } }

theorem Inv.noted (h : Inv s) {rpcs : List ActorRpc}
    (hsent : ∀ rpc ∈ rpcs, rpc.session = some rpc.sessionPath ∧ rpc.outstanding = false) :
    Inv (s.noted rpcs) := by
  refine h.same ⟨fun _ _ => rfl, fun _ _ => rfl, .inr rfl, .refl s.pool, .refl s.pool, h.rpcs.requests, id, rfl,
    fun rpc hrpc => ?_, rfl⟩ rfl rfl (h.leases.frame (fun holder => by cases holder <;> rfl) rfl rfl)
    (h.registry.same rfl rfl rfl id (fun _ => rfl) (fun _ => rfl) fun _ _ => rfl)
  exact (List.mem_append.mp hrpc).elim (h.rpcs.sent rpc) (hsent rpc)

theorem Rely.noted (m : Nat) (s : System) (rpcs : List ActorRpc) : Rely m s (s.noted rpcs) :=
  ⟨rfl, fun b _ => ⟨[], by rw [List.append_nil]; rfl⟩, fun other _ => .refl s.pool other, id⟩

theorem actorRpc_bound (hbound : s.pool.Bound proc (s.actors a).sessionPath) {rpc : ActorRpc}
    (hrpc : rpc ∈ actorRpc s a proc command) : rpc.session = some rpc.sessionPath ∧ rpc.outstanding = false := by
  rw [actorRpc] at hrpc
  split at hrpc
  · obtain rfl := List.mem_singleton.mp hrpc
    refine ⟨hbound.2, ?_⟩
    rw [List.any_eq_false]
    intro q hq
    obtain ⟨r, hr⟩ := List.getElem?_of_mem hq
    by_cases hopen : q.process = proc ∧ q.command.changesSession = true
    · simp [hbound.1 r q hr hopen.1 hopen.2 fun hnone => by cases hnone]
    · simp only [Bool.and_eq_true, decide_eq_true_eq, not_and]
      exact fun hboth => absurd hboth hopen
  · cases hrpc

/-- The state after a command has sent a request. -/
def System.requested (s : System) (onBehalfOf : Option Nat) (proc : Nat) (command : PiRpcCommand) : System :=
  { s.noted (onBehalfOf.elim [] fun actor => actorRpc s actor proc command) with pool := (s.pool.sendRpc proc command).2 }

theorem run_startRpc (s : System) (onBehalfOf : Option Nat) (proc : Nat) (command : PiRpcCommand) :
    (startRpc onBehalfOf proc command).run s = (.ok s.pool.requests.length, s.requested onBehalfOf proc command) := by
  cases onBehalfOf with
  | none => simp [startRpc, onPool, System.requested, System.noted, ProcessPool.sendRpc]
  | some actor => rfl

/-- Requests are sent on behalf of actors whose process has their session open. -/
def Allowed (s : System) (onBehalfOf : Option Nat) (proc : Nat) : Prop :=
  ∀ actor, onBehalfOf = some actor → s.pool.Bound proc (s.actors actor).sessionPath

theorem Allowed.none (s : System) (proc : Nat) : Allowed s none proc :=
  fun _ hactor => by cases hactor

theorem Allowed.noted {onBehalfOf : Option Nat} (hallowed : Allowed s onBehalfOf proc) (h : Inv s)
    (command : PiRpcCommand) :
    Inv (s.noted (onBehalfOf.elim [] fun actor => actorRpc s actor proc command)) := by
  refine h.noted fun rpc hrpc => ?_
  cases onBehalfOf with
  | none => cases hrpc
  | some actor => exact actorRpc_bound (hallowed actor rfl) hrpc

theorem Inv.requested (h : Inv s) {onBehalfOf : Option Nat} (hallowed : Allowed s onBehalfOf proc)
    (hcommand : command.changesSession = false) : Inv (s.requested onBehalfOf proc command) :=
  (hallowed.noted h command).neutral (ProcessPool.Neutral.sendRpc h.leases.valid h.rpcs.requests proc hcommand)

theorem Rely.requested (h : Inv s) {onBehalfOf : Option Nat} (hallowed : Allowed s onBehalfOf proc)
    (hcommand : command.changesSession = false) (m : Nat) : Rely m s (s.requested onBehalfOf proc command) :=
  (Rely.noted m s _).trans (Rely.neutral (hallowed.noted h command)
    (ProcessPool.Neutral.sendRpc h.leases.valid h.rpcs.requests proc hcommand) m)

theorem safe_readRpc {request : Nat} {Q : Except JsString PiRpcResponse → System → Prop} (h : Inv s)
    (hready : (rpcOutcome s request).isSome = true)
    (hQ : ∀ outcome, rpcOutcome s request = some outcome → Q outcome s) :
    (Coroutine.lift (readRpc request) : Routine PiRpcResponse).Safe discipline n Q s := by
  obtain ⟨outcome, houtcome⟩ := Option.isSome_iff_exists.mp hready
  refine Safe.lift (Spec.read (run_readSystem s) ?_)
  rw [houtcome]
  cases outcome with
  | ok response => exact Spec.pure h fun _ => hQ _ houtcome
  | error error => exact Spec.throw h fun _ => hQ _ houtcome

theorem safe_sendRpc (h : Inv s) {onBehalfOf : Option Nat} (hallowed : Allowed s onBehalfOf proc)
    (hcommand : command.changesSession = false) :
    (sendRpc onBehalfOf proc command).Safe discipline n (fun _ t => Rely n s t) s := by
  refine Safe.seq (run_startRpc s onBehalfOf proc command) (h.requested hallowed hcommand)
    (fun m _ => Rely.requested h hallowed hcommand m) ?_
  refine Safe.wait fun t _ hrely ht _ hready => ?_
  exact safe_readRpc ht hready fun _ _ => (Rely.requested h hallowed hcommand n).trans hrely

theorem success_of_checked {result : Except JsString PiRpcResponse} {data : PiRpcData}
    (h : result.bind (fun response => checkResponse command response) = .ok data) : result = .ok (.success data) := by
  cases result with
  | error error => cases h
  | ok response =>
    cases response with
    | failure error =>
      simp only [Except.bind, checkResponse] at h
      cases h
    | success found => exact congrArg _ (congrArg _ (Except.ok.inj h))

theorem safe_checked {onBehalfOf : Option Nat} {R : Except JsString PiRpcResponse → System → Prop}
    {Q : Except JsString PiRpcData → System → Prop}
    (hsend : (sendRpc onBehalfOf proc command).Safe discipline n R s) (h : Inv s)
    (hQ : ∀ result t, Inv t → R result t →
      Q (result.bind fun response => checkResponse command response) t) :
    (sendRpcChecked onBehalfOf proc command).Safe discipline n Q s := by
  refine Safe.bind hsend (fun _ => h) (fun response t ht _ _ hR => ?_) fun error t ht _ _ hR => hQ (.error error) t ht hR
  refine Safe.lift fun _ => ?_
  have hlast := hQ (.ok response) t ht hR
  rw [Except.bind] at hlast
  cases hcheck : checkResponse command response with
  | ok data =>
    rw [hcheck] at hlast
    exact ⟨ht, fun m _ => .refl m t, hlast⟩
  | error error =>
    rw [hcheck] at hlast
    exact ⟨ht, fun m _ => .refl m t, hlast⟩

theorem safe_sendRpcChecked (h : Inv s) {onBehalfOf : Option Nat} (hallowed : Allowed s onBehalfOf proc)
    (hcommand : command.changesSession = false) :
    (sendRpcChecked onBehalfOf proc command).Safe discipline n (fun _ t => Rely n s t) s :=
  safe_checked (safe_sendRpc h hallowed hcommand) h fun _ _ _ hrely => hrely

theorem Inv.guards_unique (h : Inv s) {m : Nat} (hn : Guards n proc s) (hm : Guards m proc s) : n = m := by
  have hholder : ∀ {m : Nat}, Guards m proc s → ∃ holder lease, s.heldBy holder = some lease ∧ lease.process = proc ∧
      (holder = .command m ∨ ∃ b, holder = .actor b ∧ (s.commands m).inside = some b) := by
    rintro m (⟨lease, hlease, hproc⟩ | ⟨b, hinside, hproc⟩)
    · exact ⟨.command m, lease, hlease, hproc, .inl rfl⟩
    · obtain ⟨lease, hlease, hprocess⟩ := Option.map_eq_some_iff.mp hproc
      exact ⟨.actor b, lease, hlease, hprocess, .inr ⟨b, rfl, hinside⟩⟩
  obtain ⟨first, lease, hlease, hproc, hfirst⟩ := hholder hn
  obtain ⟨other, taken, htaken, hprocess, hother⟩ := hholder hm
  have hsame := h.leases.exclusive first other lease taken hlease htaken (hproc.trans hprocess.symm)
  obtain rfl | ⟨b, rfl, hinside⟩ := hfirst
  · obtain rfl | ⟨c, rfl, -⟩ := hother
    · exact Holder.command.inj hsame
    · cases hsame
  · obtain rfl | ⟨c, rfl, hlater⟩ := hother
    · cases hsame
    · rw [← Holder.actor.inj hsame] at hlater
      exact h.inside_unique hinside hlater

/-- A request that changes the session of the process that the command uses. -/
theorem Inv.replaced (h : Inv s) {onBehalfOf : Option Nat} (hallowed : Allowed s onBehalfOf proc)
    (hguards : Guards n proc s) (hforking : ∀ b, (s.actors b).process = some proc →
      (s.commands n).inside = some b ∧ (s.commands n).forking = true) (command : PiRpcCommand) :
    Inv (s.requested onBehalfOf proc command) := by
  have hnoted := hallowed.noted h command
  have hheld : ∃ holder lease, s.heldBy holder = some lease ∧ lease.process = proc := by
    obtain ⟨lease, hlease, hproc⟩ | ⟨b, -, hproc⟩ := hguards
    · exact ⟨.command n, lease, hlease, hproc⟩
    · obtain ⟨lease, hlease, hprocess⟩ := Option.map_eq_some_iff.mp hproc
      exact ⟨.actor b, lease, hlease, hprocess⟩
  have hundisturbed : ∀ other, other ≠ proc → s.pool.Undisturbed (s.pool.sendRpc proc command).2 other := fun other hne =>
    ProcessPool.Undisturbed.sendRpc s.pool command fun heq => absurd heq.symm hne
  have hleases := hnoted.leases
  refine ⟨⟨(hleases.valid.sendRpc proc command).1, hleases.object, hleases.exclusive, hleases.kept, hleases.acquirer,
      hleases.unreleased, hleases.once, hleases.known⟩, h.actors,
    ⟨h.registry.index, h.registry.paths, h.registry.fresh, h.registry.observed⟩, h.inside,
    ⟨h.rpcs.requests.sendRpc proc command, fun other hfree => ?_, fun b other hproc => ?_, hnoted.rpcs.sent⟩,
    fun hcalm => ⟨(h.calm hcalm).slot, (h.calm hcalm).attached⟩, h.legal⟩
  · obtain ⟨holder, lease, hlease, hproc⟩ := hheld
    have hne : other ≠ proc := by
      rintro rfl
      exact hfree holder lease (by cases holder <;> exact hlease) hproc
    exact (hundisturbed other hne).quiet (h.rpcs.quiet other fun holder lease hlease =>
      hfree holder lease (by cases holder <;> exact hlease))
  · by_cases hother : other = proc
    · subst hother
      exact .inr ⟨n, hforking b hproc⟩
    · exact (h.rpcs.bound b other hproc).imp_left (hundisturbed other hother).bound

theorem Rely.replaced (h : Inv s) (hguards : Guards n proc s) (onBehalfOf : Option Nat) (command : PiRpcCommand)
    {m : Nat} (hm : m ≠ n) : Rely m s (s.requested onBehalfOf proc command) where
  command := rfl
  actor b _ := ⟨[], by rw [List.append_nil]; rfl⟩
  process other hother := by
    have hne : other ≠ proc := by
      rintro rfl
      exact hm (h.guards_unique hother hguards)
    exact ProcessPool.Undisturbed.sendRpc s.pool command fun heq => absurd heq.symm hne
  gone := id

/-- What a command knows after it has waited for a request that changes the session of its process. -/
structure Replaced (n proc : Nat) (s t : System) : Prop where
  command : t.commands n = s.commands n
  actor : ∀ a, (s.commands n).inside = some a →
    ∃ more, t.actors a = { s.actors a with commandTail := (s.actors a).commandTail ++ more }
  gone : s.Gone n → t.Gone n
  quiet : t.pool.Quiet proc

theorem rpcOutcome_eq_some {request : Nat} {outcome : Except JsString PiRpcResponse} (h : rpcOutcome s request = some outcome) :
    ∃ q : RpcRequest, s.pool.requests[request]? = some q ∧ q.outcome = some outcome :=
  Option.bind_eq_some_iff.mp h

/-- What the answer to a request says of the session of its process. -/
def Answers (proc : Nat) (command : PiRpcCommand) (result : Except JsString PiRpcResponse) (t : System) : Prop :=
  t.pool.Quiet proc ∧ ∀ response, result = .ok response → t.pool.Answered proc ∧
    ∀ data, response = .success data → ProcessPool.Reports command data (t.pool.sessionOf proc)

theorem safe_awaitRpc {onBehalfOf : Option Nat} (hinv : Inv (s.requested onBehalfOf proc command))
    (hrely : ∀ m, m ≠ n → Rely m s (s.requested onBehalfOf proc command)) (hguards : Guards n proc s)
    (hanswered : s.pool.Answered proc) :
    (sendRpc onBehalfOf proc command).Safe discipline n (fun result t =>
      Rely n (s.requested onBehalfOf proc command) t ∧ Answers proc command result t) s := by
  refine Safe.seq (run_startRpc s onBehalfOf proc command) hinv hrely ?_
  refine Safe.wait fun t _ hwaited ht _ hready => safe_readRpc ht hready fun outcome houtcome => ⟨hwaited, ?_⟩
  obtain ⟨q, hq, hsettled⟩ := rpcOutcome_eq_some houtcome
  have hguardsLater : Guards n proc (s.requested onBehalfOf proc command) := hguards
  exact ht.rpcs.requests.of_awaiting
    ((hwaited.process proc hguardsLater).awaiting _ command (ProcessPool.Awaiting.sendRpc hanswered command)) hq hsettled

theorem Answers.checked {result : Except JsString PiRpcResponse} (h : Answers proc command result t) {data : PiRpcData}
    (hdata : result.bind (fun response => checkResponse command response) = .ok data) :
    t.pool.Answered proc ∧ ProcessPool.Reports command data (t.pool.sessionOf proc) := by
  obtain ⟨hall, hreports⟩ := h.2 _ (success_of_checked hdata)
  exact ⟨hall, hreports data rfl⟩

theorem safe_replace (h : Inv s) {onBehalfOf : Option Nat} (hallowed : Allowed s onBehalfOf proc)
    (hguards : Guards n proc s) (hforking : ∀ b, (s.actors b).process = some proc →
      (s.commands n).inside = some b ∧ (s.commands n).forking = true) (hanswered : s.pool.Answered proc) :
    (sendRpcChecked onBehalfOf proc command).Safe discipline n (fun result t => Replaced n proc s t ∧
      ∀ data, result = .ok data → t.pool.Answered proc ∧
        ProcessPool.Reports command data (t.pool.sessionOf proc)) s := by
  refine safe_checked (safe_awaitRpc (h.replaced hallowed hguards hforking command)
    (fun m hm => Rely.replaced h hguards onBehalfOf command hm) hguards hanswered) h fun result t _ ⟨hrely, hanswers⟩ => ?_
  exact ⟨⟨hrely.command, hrely.actor, hrely.gone, hanswers.1⟩, fun data => hanswers.checked⟩

/-- Pi opens the session in the process that the command has leased, or another one. -/
theorem safe_replacePiSession {lease : HeldLease} (h : Inv s) (hlease : (s.commands n).lease = some lease)
    (hanswered : s.pool.Answered lease.process) :
    (replacePiSession lease.process command).Safe discipline n (fun result t =>
      Replaced n lease.process s t ∧ (result = .ok () → t.pool.Answered lease.process ∧
        ∀ sessionPath, command = .switch_session sessionPath → t.pool.sessionOf lease.process = some sessionPath)) s := by
  have hguards : Guards n lease.process s := .inl ⟨lease, hlease, rfl⟩
  refine Safe.bind (safe_replace h (Allowed.none s lease.process) hguards
    (fun b hproc => absurd hproc (h.leases.process_ne hlease b)) hanswered) (fun _ => h) ?_ ?_
  · rintro data t ht - - ⟨hreplaced, hdata⟩
    obtain ⟨hall, hopened⟩ := hdata data rfl
    split
    · exact Safe.throw fun _ => ⟨hreplaced, fun hok => by cases hok⟩
    · rename_i hcancelled
      refine Safe.pure fun _ => ⟨hreplaced, fun _ => ⟨hall, ?_⟩⟩
      rintro sessionPath rfl
      exact hopened (by simpa using hcancelled)
  · rintro error t - - - ⟨hreplaced, -⟩
    exact ⟨hreplaced, fun hok => by cases hok⟩

theorem safe_getState (h : Inv s) (hguards : Guards n proc s) (hanswered : s.pool.Answered proc) :
    (sendRpcChecked none proc .get_state).Safe discipline n (fun result t => Rely n s t ∧
      ∀ data, result = .ok data → t.pool.Bound proc (data.sessionFile.getD []) ∨ data.sessionFile = none) s := by
  have hrequested := Rely.requested h (Allowed.none s proc) (show PiRpcCommand.get_state.changesSession = false from rfl)
  refine safe_checked (safe_awaitRpc (h.requested (Allowed.none s proc) rfl) (fun m _ => hrequested m) hguards hanswered) h
    fun result t _ ⟨hrely, hanswers⟩ => ⟨(hrequested n).trans hrely, fun data hdata => ?_⟩
  obtain ⟨hall, hsession⟩ := hanswers.checked hdata
  have hsession : data.sessionFile = t.pool.sessionOf proc := hsession
  cases hfile : data.sessionFile with
  | none => exact .inr rfl
  | some sessionPath => exact .inl ⟨hall, by rw [← hsession, hfile]; rfl⟩

theorem safe_waitForReady (h : Inv s) (proc : Nat) :
    (waitForReady proc).Safe discipline n (fun result t => result = .ok () ∧ Rely n s t) s := by
  refine Safe.tryCatch (R := fun _ t => Rely n s t) ?_ (fun _ => h) (fun _ _ _ _ _ hrely => ⟨rfl, hrely⟩)
    fun _ _ _ _ _ hrely => Safe.pure fun _ => ⟨rfl, hrely⟩
  exact Safe.bind (safe_sendRpc h (Allowed.none s proc) rfl) (fun _ => h)
    (fun _ _ _ _ _ hrely => Safe.pure fun _ => hrely) fun _ _ _ _ _ hrely => hrely

end pipane.ws_handler.runtime

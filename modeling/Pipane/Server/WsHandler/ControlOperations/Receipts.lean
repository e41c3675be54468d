import Mathlib.Data.List.Dedup
import Pipane.Lib.ListLookup
import Pipane.Lib.Transition
import Pipane.Server.WsHandler.ControlOperations

open transition

namespace pipane.ws_handler

/-- How far a handler is; it is `completed` between its last statement and its `finally`. -/
inductive HandlerPhase
  | running
  | completed
  | settled
deriving DecidableEq

/-- A handler that was started for a command, with the promise of its response. -/
structure Execution (OperationId Operation Data : Type) where
  operationId : Option OperationId
  type : String
  operation : Operation
  response : Option (Except String Data)
  phase : HandlerPhase

/-- What a request is sent. `execution` is the handler it answers for, `none` for a command that was refused. -/
structure Answer (Request Data : Type) where
  request : Request
  execution : Option Nat
  response : Except String Data

/-- The control commands of a server since its start. `responses` says of which handler each receipt holds the
    promise, `waiting` which requests await a promise. -/
structure ControlCommands (Request OperationId Operation Data : Type) where
  controlOperations : ControlOperations OperationId Operation
  responses : OrderedMap OperationId Nat
  executions : List (Execution OperationId Operation Data)
  waiting : List (Request × Nat)
  answers : List (Answer Request Data)

/-- A command arrives, a handler accepts its operation, ends, or has its `finally` run. -/
inductive ControlEvent (Request OperationId Operation Data : Type)
  | command (request : Request) (operationId : Option OperationId) (type : String) (operation : Operation)
  | accept (execution : Nat) (data : Data)
  | complete (execution : Nat) (error : Option String)
  | settle (execution : Nat)

namespace ControlCommands

section

variable {Request OperationId Operation Data : Type}

def start : ControlCommands Request OperationId Operation Data where
  controlOperations := ∅
  responses := ∅
  executions := []
  waiting := []
  answers := []

/-- `await` of a response that may be known already. -/
def awaitResponse (self : ControlCommands Request OperationId Operation Data) (request : Request)
    (execution : Nat) : ControlCommands Request OperationId Operation Data :=
  match self.executions[execution]?.bind Execution.response with
  | some response =>
    { self with answers := self.answers ++ [{ request, execution := some execution, response }] }
  | none => { self with waiting := self.waiting ++ [(request, execution)] }

/-- Settle the promise of a handler: all that await it are answered. -/
def settleResponse (self : ControlCommands Request OperationId Operation Data) (execution : Nat)
    (handler : Execution OperationId Operation Data) (response : Except String Data) :
    ControlCommands Request OperationId Operation Data :=
  { self with
    executions := self.executions.set execution { handler with response := some response }
    waiting := self.waiting.filter fun waiter => waiter.2 ≠ execution
    answers := self.answers ++ (self.waiting.filter fun waiter => waiter.2 = execution).map fun waiter =>
      { request := waiter.1, execution := some execution, response } }

/-- Only the first `accept` of a handler counts. -/
def accept (self : ControlCommands Request OperationId Operation Data) (execution : Nat) (data : Data) :
    ControlCommands Request OperationId Operation Data :=
  match self.executions[execution]? with
  | none => self
  | some handler =>
    if handler.phase ≠ .running ∨ handler.response.isSome then self
    else self.settleResponse execution handler (.ok data)

/-- The handler returns or throws; a response that it did not accept is rejected. -/
def complete (self : ControlCommands Request OperationId Operation Data) (execution : Nat) (error : Option String) :
    ControlCommands Request OperationId Operation Data :=
  match self.executions[execution]? with
  | none => self
  | some handler =>
    if handler.phase ≠ .running then self
    else
      let handler := { handler with phase := .completed }
      if handler.response.isSome then { self with executions := self.executions.set execution handler }
      else
        self.settleResponse execution handler
          (.error (error.getD s!"{handler.type} finished without accepting the operation"))

variable [DecidableEq OperationId]

/-- The `finally` of a handler. -/
def settle (self : ControlCommands Request OperationId Operation Data) (execution : Nat) :
    ControlCommands Request OperationId Operation Data :=
  match self.executions[execution]? with
  | none => self
  | some handler =>
    if handler.phase ≠ .completed then self
    else
      { self with
        controlOperations := self.controlOperations.onSettled handler.operationId
        executions := self.executions.set execution { handler with phase := .settled } }

variable [DecidableEq Operation]

def command (self : ControlCommands Request OperationId Operation Data) (request : Request)
    (operationId : Option OperationId) (type : String) (operation : Operation) :
    ControlCommands Request OperationId Operation Data :=
  match self.controlOperations.runIdempotentControl operationId operation with
  | (.rejected error, _) =>
    { self with answers := self.answers ++ [{ request, execution := none, response := .error error }] }
  | (.replayed, _) => self.awaitResponse request ((operationId.bind self.responses.get?).getD self.executions.length)
  | (.executed, controlOperations) =>
    let execution := self.executions.length
    { self with
      controlOperations
      responses := match operationId with
        | some id => self.responses.set id execution
        | none => self.responses
      executions := self.executions ++ [{ operationId, type, operation, response := none, phase := .running }]
      waiting := self.waiting ++ [(request, execution)] }

def step (self : ControlCommands Request OperationId Operation Data) :
    ControlEvent Request OperationId Operation Data → ControlCommands Request OperationId Operation Data
  | .command request operationId type operation => self.command request operationId type operation
  | .accept execution data => self.accept execution data
  | .complete execution error => self.complete execution error
  | .settle execution => self.settle execution

end

end ControlCommands

/-- A command whose handler was started, as far as its receipt is concerned: without one it is `settled`. -/
structure StartedCommand (OperationId Operation : Type) where
  operationId : Option OperationId
  operation : Operation
  settled : Bool

def Execution.command {OperationId Operation Data : Type} (handler : Execution OperationId Operation Data) :
    StartedCommand OperationId Operation where
  operationId := handler.operationId
  operation := handler.operation
  settled := handler.operationId.isNone || handler.phase = .settled

/-- A handler that counts towards the bound on active operations. -/
def StartedCommand.isActive {OperationId Operation : Type} (command : StartedCommand OperationId Operation) : Bool :=
  command.operationId.isSome && !command.settled

section

variable {Request OperationId Operation Data : Type} [DecidableEq OperationId]

/-- The operation ids other than `id` at the places after `i` and before `j`, each once. -/
def newerIds (ids : List (Option OperationId)) (id : OperationId) (i j : Nat) : List OperationId :=
  ((((ids.take j).drop (i + 1)).filterMap fun other => other).filter fun other => other ≠ id).dedup

/-- What receipts are for: an operation does not run again before 385 newer ones were started, an operation
    that runs is remembered, and one promise answers all its requests. -/
structure Remembers (server : ControlCommands Request OperationId Operation Data) : Prop where
  executed_again : ∀ (i j : Nat) first second id, i < j → server.executions[i]? = some first →
    server.executions[j]? = some second → first.operationId = some id → second.operationId = some id →
    385 ≤ (newerIds (server.executions.map Execution.operationId) id i j).length
  unsettled_kept : ∀ (n : Nat) handler id, server.executions[n]? = some handler → handler.operationId = some id →
    handler.phase ≠ .settled → ∃ receipt, server.controlOperations.get? id = some receipt ∧ receipt.settled = false
  active_le : (server.executions.countP fun handler => handler.operationId.isSome && handler.phase ≠ .settled) ≤ 128
  size_le : server.controlOperations.size ≤ 640
  same_answer : ∀ a ∈ server.answers, ∀ b ∈ server.answers, a.execution.isSome → a.execution = b.execution →
    a.response = b.response
  answered : ∀ waiter ∈ server.waiting, ∃ handler, server.executions[waiter.2]? = some handler ∧ handler.response = none

/-- A command whose operation id is remembered starts no handler. It is refused if it is another command;
    otherwise the last handler that was started for the operation answers it, now or when its promise is
    settled. -/
def AnswersReplays [DecidableEq Operation] (server : ControlCommands Request OperationId Operation Data) : Prop :=
  ∀ request id type operation receipt, server.controlOperations.get? id = some receipt →
    let next := server.command request (some id) type operation
    next.executions = server.executions ∧
    (receipt.fingerprint ≠ operation → next.waiting = server.waiting ∧ next.answers = server.answers ++
      [{ request, execution := none, response := .error "Operation id was reused with a different command" }]) ∧
    (receipt.fingerprint = operation → ∃ (n : Nat) (handler : Execution OperationId Operation Data),
      server.executions[n]? = some handler ∧ handler.operationId = some id ∧ handler.operation = operation ∧
      (∀ (later : Nat) other, n < later → server.executions[later]? = some other → other.operationId ≠ some id) ∧
      match handler.response with
      | some response =>
        next.waiting = server.waiting ∧
          next.answers = server.answers ++ [{ request, execution := some n, response }]
      | none => next.waiting = server.waiting ++ [(request, n)] ∧ next.answers = server.answers)

def unsettled (entry : OperationId × OperationReceipt Operation) : Bool :=
  !entry.2.settled

/-- The receipts of a store, the handlers whose promises they hold, and the commands started so far. All but the
    bound on the size of the store, which `pruneControlOperations` restores. -/
structure ReceiptInvariant (store : ControlOperations OperationId Operation) (responses : OrderedMap OperationId Nat)
    (started : List (StartedCommand OperationId Operation)) : Prop where
  promised : ∀ id receipt, store.get? id = some receipt → ∃ n : Nat, responses.get? id = some n ∧
    started[n]? = some ⟨some id, receipt.fingerprint, receipt.settled⟩
  /-- The promise of an operation id is that of the last handler started for it. -/
  latest : ∀ (n : Nat) command id, started[n]? = some command → command.operationId = some id →
    ∃ last, responses.get? id = some last ∧ n ≤ last
  known : ∀ id (n : Nat), responses.get? id = some n →
    ∃ command, started[n]? = some command ∧ command.operationId = some id
  kept : ∀ (n : Nat) command id, started[n]? = some command → command.operationId = some id →
    command.settled = false → responses.get? id = some n ∧ store.contains id = true
  /-- Receipts stand in the order in which their handlers were started. -/
  ordered : store.keys.Pairwise fun a b =>
    ∃ m n, responses.get? a = some m ∧ responses.get? b = some n ∧ m < n
  crowd : store.entries.dropLast.countP unsettled ≤ 127
  active : started.countP StartedCommand.isActive = store.entries.countP unsettled
  active_le : store.entries.countP unsettled ≤ 128
  executed_again : ∀ (i j : Nat) first second id, i < j → started[i]? = some first → started[j]? = some second →
    first.operationId = some id → second.operationId = some id →
    385 ≤ (newerIds (started.map StartedCommand.operationId) id i j).length
  /-- An operation that is forgotten was followed by 385 others. -/
  window : ∀ id n, responses.get? id = some n → store.contains id = true ∨
    385 ≤ (newerIds (started.map StartedCommand.operationId) id n started.length).length

/-- No settled receipt is kept beyond the bound. -/
def Pruned (store : ControlOperations OperationId Operation) : Prop :=
  store.size ≤ 512 + store.entries.countP unsettled

end

section

variable {OperationId Operation : Type} [DecidableEq OperationId]

theorem newerIds_append {ids more : List (Option OperationId)} {id : OperationId} {i j : Nat}
    (hj : j ≤ ids.length) : newerIds (ids ++ more) id i j = newerIds ids id i j := by
  rw [newerIds, newerIds, List.take_append_of_le_length hj]

theorem mem_newerIds {ids : List (Option OperationId)} {id other : OperationId} {i j : Nat} :
    other ∈ newerIds ids id i j ↔ other ≠ id ∧ ∃ n : Nat, i < n ∧ n < j ∧ ids[n]? = some (some other) := by
  rw [newerIds, List.mem_dedup, List.mem_filter, List.mem_filterMap]
  constructor
  · rintro ⟨⟨_, hmem, rfl⟩, hne⟩
    obtain ⟨k, hk⟩ := List.mem_iff_getElem?.mp hmem
    rw [List.getElem?_drop, List.getElem?_take] at hk
    by_cases hlt : i + 1 + k < j
    · rw [if_pos hlt] at hk
      exact ⟨of_decide_eq_true hne, i + 1 + k, by omega, hlt, hk⟩
    · rw [if_neg hlt] at hk
      cases hk
  · rintro ⟨hne, n, hi, hj, hget⟩
    refine ⟨⟨some other, ?_, rfl⟩, decide_eq_true hne⟩
    rw [List.mem_iff_getElem?]
    refine ⟨n - (i + 1), ?_⟩
    rw [List.getElem?_drop, List.getElem?_take, show i + 1 + (n - (i + 1)) = n by omega, if_pos hj]
    exact hget

theorem length_le_newerIds {ids : List (Option OperationId)} {id : OperationId} {i j : Nat}
    {others : List OperationId} (hnodup : others.Nodup) (hnewer : ∀ other ∈ others, other ∈ newerIds ids id i j) :
    others.length ≤ (newerIds ids id i j).length :=
  (List.subperm_of_subset hnodup hnewer).length_le

theorem newerIds_mono (ids : List (Option OperationId)) (id : OperationId) {i i' j j' : Nat} (hi : i' ≤ i)
    (hj : j ≤ j') : (newerIds ids id i j).length ≤ (newerIds ids id i' j').length := by
  apply length_le_newerIds (List.nodup_dedup _)
  intro other hother
  obtain ⟨hne, n, hin, hnj, hget⟩ := mem_newerIds.mp hother
  exact mem_newerIds.mpr ⟨hne, n, by omega, by omega, hget⟩

theorem newerIds_append_mono {ids : List (Option OperationId)} (more : List (Option OperationId))
    (id : OperationId) (i : Nat) {j k : Nat} (hj : j ≤ ids.length) (hk : j ≤ k) :
    (newerIds ids id i j).length ≤ (newerIds (ids ++ more) id i k).length := by
  have happend : newerIds (ids ++ more) id i j = newerIds ids id i j := newerIds_append hj
  rw [← happend]
  exact newerIds_mono _ id (Nat.le_refl i) hk

omit [DecidableEq OperationId] in
theorem length_eq_settled_add_unsettled (entries : List (OperationId × OperationReceipt Operation)) :
    entries.length = entries.countP (fun entry => entry.2.settled) + entries.countP unsettled := by
  rw [List.length_eq_countP_add_countP (fun entry : OperationId × OperationReceipt Operation => entry.2.settled)]
  congr 2
  funext entry
  rw [unsettled]
  cases entry.2.settled <;> rfl

omit [DecidableEq OperationId] in
theorem dropped_receipt {store : ControlOperations OperationId Operation}
    {entry : OperationId × OperationReceipt Operation} (hcrowd : store.entries.dropLast.countP unsettled ≤ 127)
    (hmem : entry ∈ store.entries) (hdropped : entry ∉ store.pruneControlOperations.entries) :
    ∃ before after, store.entries = before ++ entry :: after ∧ 385 ≤ after.length := by
  rw [ControlOperations.entries_pruneControlOperations] at hdropped
  obtain ⟨hsettled, before, after, hsplit, hcount⟩ := pruneEntries_dropped hmem hdropped
  refine ⟨before, after, hsplit, ?_⟩
  have hbefore : before.countP unsettled ≤ 127 := by
    refine Nat.le_trans (List.Sublist.countP_le ?_) hcrowd
    rw [hsplit, List.dropLast_append_of_ne_nil (List.cons_ne_nil _ _)]
    exact List.sublist_append_left _ _
  have hlength := length_eq_settled_add_unsettled before
  have hsize : store.size = before.length + (after.length + 1) := by
    rw [OrderedMap.size, hsplit, List.length_append, List.length_cons]
  rw [MAX_COMPLETED_CONTROL_OPERATIONS] at hcount
  omega

theorem get?_of_sublist {store pruned : ControlOperations OperationId Operation}
    (hsub : pruned.entries.Sublist store.entries) {id : OperationId} {receipt : OperationReceipt Operation}
    (hget : pruned.get? id = some receipt) : store.get? id = some receipt :=
  OrderedMap.mem_entries_iff.mp (hsub.subset (OrderedMap.mem_entries_iff.mpr hget))

theorem ReceiptInvariant.prune {store : ControlOperations OperationId Operation}
    {responses : OrderedMap OperationId Nat} {started : List (StartedCommand OperationId Operation)}
    (hinv : ReceiptInvariant store responses started) :
    ReceiptInvariant store.pruneControlOperations responses started := by
  have hentries := store.entries_pruneControlOperations
  have hsub : store.pruneControlOperations.entries.Sublist store.entries := by
    rw [hentries]
    exact pruneEntries_sublist _ _
  have hcount : store.pruneControlOperations.entries.countP unsettled = store.entries.countP unsettled := by
    rw [hentries]
    exact countP_unsettled_pruneEntries _ _
  refine { hinv with
    promised := fun id receipt hget => hinv.promised id receipt (get?_of_sublist hsub hget)
    kept := ?_
    ordered := hinv.ordered.sublist (hsub.map Prod.fst)
    crowd := ?_
    active := hinv.active.trans hcount.symm
    active_le := hcount.le.trans hinv.active_le
    window := ?_ }
  · intro n command id hget hid hsettled
    obtain ⟨hresponse, hcontains⟩ := hinv.kept n command id hget hid hsettled
    obtain ⟨receipt, hreceipt⟩ := Option.isSome_iff_exists.mp hcontains
    refine ⟨hresponse, ?_⟩
    obtain ⟨m, hm, hcommand⟩ := hinv.promised id receipt hreceipt
    rw [hresponse] at hm
    cases hm
    rw [hget, Option.some.injEq] at hcommand
    subst hcommand
    refine Option.isSome_iff_exists.mpr ⟨receipt, OrderedMap.mem_entries_iff.mp ?_⟩
    rw [hentries]
    exact mem_pruneEntries_of_unsettled (OrderedMap.mem_entries_iff.mpr hreceipt) hsettled
  · have hdropLast := hsub.reverse.tail.reverse
    rw [List.tail_reverse, List.tail_reverse, List.reverse_reverse, List.reverse_reverse] at hdropLast
    exact Nat.le_trans hdropLast.countP_le hinv.crowd
  · intro id n hresponse
    rcases hinv.window id n hresponse with hcontains | hforgotten
    · obtain ⟨receipt, hreceipt⟩ := Option.isSome_iff_exists.mp hcontains
      have hmem := OrderedMap.mem_entries_iff.mpr hreceipt
      by_cases hstays : (id, receipt) ∈ store.pruneControlOperations.entries
      · exact .inl (Option.isSome_iff_exists.mpr ⟨receipt, OrderedMap.mem_entries_iff.mp hstays⟩)
      · obtain ⟨before, after, hsplit, hlength⟩ := dropped_receipt hinv.crowd hmem hstays
        refine .inr (Nat.le_trans (hlength.trans (List.length_map Prod.fst).ge) ?_)
        have hkeys : store.keys = before.map Prod.fst ++ id :: after.map Prod.fst := by
          rw [OrderedMap.keys, hsplit, List.map_append, List.map_cons]
        have hnodup : store.keys.Nodup := store.nodup
        have hordered := hinv.ordered
        rw [hkeys, List.nodup_append, List.nodup_cons] at hnodup
        rw [hkeys, List.pairwise_append, List.pairwise_cons] at hordered
        apply length_le_newerIds hnodup.2.1.2
        intro other hother
        obtain ⟨m, k, hm, hk, hlt⟩ := hordered.2.1.1 other hother
        rw [hresponse] at hm
        cases hm
        obtain ⟨command, hcommand, hid⟩ := hinv.known other k hk
        obtain ⟨hbound, -⟩ := List.getElem?_eq_some_iff.mp hcommand
        refine mem_newerIds.mpr ⟨?_, k, hlt, hbound, ?_⟩
        · rintro rfl
          exact hnodup.2.1.1 hother
        · rw [List.getElem?_map, hcommand, Option.map_some, hid]
    · exact .inr hforgotten

omit [DecidableEq OperationId] in
theorem pruned_pruneControlOperations (store : ControlOperations OperationId Operation) :
    Pruned store.pruneControlOperations := by
  rw [Pruned, OrderedMap.size, ControlOperations.entries_pruneControlOperations]
  have hlength := length_pruneEntries (store.size - MAX_COMPLETED_CONTROL_OPERATIONS) store.entries
  have hcount : (pruneEntries (store.size - MAX_COMPLETED_CONTROL_OPERATIONS) store.entries).countP unsettled =
      store.entries.countP unsettled := countP_unsettled_pruneEntries _ _
  have hsplit := length_eq_settled_add_unsettled store.entries
  rw [OrderedMap.size, MAX_COMPLETED_CONTROL_OPERATIONS] at *
  omega

omit [DecidableEq OperationId] in
theorem countP_isActive_settled {started : List (StartedCommand OperationId Operation)} {n : Nat}
    {command : StartedCommand OperationId Operation} (hget : started[n]? = some command) :
    (started.set n { command with settled := true }).countP StartedCommand.isActive +
      (if command.isActive then 1 else 0) = started.countP StartedCommand.isActive := by
  have hnext : StartedCommand.isActive { command with settled := true } = false := by simp [StartedCommand.isActive]
  have hcount := List.countP_set_add StartedCommand.isActive hget { command with settled := true }
  simp only [hnext, Bool.false_eq_true, if_false, Nat.add_zero] at hcount
  exact hcount

theorem countP_unsettled_set {store : ControlOperations OperationId Operation} {id : OperationId}
    {receipt : OperationReceipt Operation} (hget : store.get? id = some receipt) (hsettled : receipt.settled = false) :
    (store.set id { receipt with settled := true }).entries.countP unsettled + 1 = store.entries.countP unsettled := by
  obtain ⟨others, hperm⟩ := OrderedMap.perm_of_get? hget
  rw [(OrderedMap.perm_set_mem hperm _).countP_eq, hperm.countP_eq, List.countP_cons_of_neg (by simp [unsettled]),
    List.countP_cons_of_pos (by simp [unsettled, hsettled])]

/-- The `finally` of a handler before the pruning. -/
theorem ReceiptInvariant.markSettled {store : ControlOperations OperationId Operation}
    {responses : OrderedMap OperationId Nat} {started : List (StartedCommand OperationId Operation)}
    (hinv : ReceiptInvariant store responses started) {n : Nat} {id : OperationId}
    {command : StartedCommand OperationId Operation} {receipt : OperationReceipt Operation}
    (hcommand : started[n]? = some command) (hid : command.operationId = some id) (hrunning : command.settled = false)
    (hreceipt : store.get? id = some receipt) :
    ReceiptInvariant (store.set id { receipt with settled := true }) responses
      (started.set n { command with settled := true }) := by
  have hids : (started.set n { command with settled := true }).map StartedCommand.operationId =
      started.map StartedCommand.operationId := List.map_set_of_eq hcommand rfl
  obtain ⟨hresponse, -⟩ := hinv.kept n command id hcommand hid hrunning
  have hpromised : command = ⟨some id, receipt.fingerprint, receipt.settled⟩ := by
    obtain ⟨m, hm, hstarted⟩ := hinv.promised id receipt hreceipt
    rw [hresponse] at hm
    cases hm
    rw [hcommand] at hstarted
    exact Option.some.inj hstarted
  have hunsettled : receipt.settled = false := by
    rw [hpromised] at hrunning
    exact hrunning
  have hset : ∀ (k : Nat) other, (started.set n { command with settled := true })[k]? = some other →
      ∃ before, started[k]? = some before ∧ before.operationId = other.operationId ∧
        (other.settled = false → before = other ∧ k ≠ n) := by
    intro k other hother
    obtain ⟨rfl, rfl⟩ | ⟨hne, hbefore⟩ := List.getElem?_set_cases hother
    · exact ⟨command, hcommand, rfl, fun hfalse => nomatch hfalse⟩
    · exact ⟨other, hbefore, rfl, fun _ => ⟨rfl, hne⟩⟩
  have hcount := countP_unsettled_set hreceipt hunsettled
  constructor
  · intro other found hfound
    rw [OrderedMap.get?_set] at hfound
    by_cases hother : other = id
    · subst hother
      rw [if_pos rfl] at hfound
      cases hfound
      refine ⟨n, hresponse, ?_⟩
      obtain ⟨hlt, -⟩ := List.getElem?_eq_some_iff.mp hcommand
      rw [List.getElem?_set, if_pos rfl, if_pos hlt, hpromised]
    · rw [if_neg hother] at hfound
      obtain ⟨m, hm, hstarted⟩ := hinv.promised other found hfound
      refine ⟨m, hm, ?_⟩
      rw [List.getElem?_set_ne]
      · exact hstarted
      · rintro rfl
        rw [hcommand, hpromised] at hstarted
        simp only [Option.some.injEq, StartedCommand.mk.injEq] at hstarted
        exact hother hstarted.1.symm
  · intro k other otherId hother hotherId
    obtain ⟨before, hbefore, hsame, -⟩ := hset k other hother
    exact hinv.latest k before otherId hbefore (hsame.trans hotherId)
  · intro otherId k hk
    obtain ⟨before, hbefore, hbeforeId⟩ := hinv.known otherId k hk
    by_cases hkn : n = k
    · subst hkn
      obtain ⟨hlt, -⟩ := List.getElem?_eq_some_iff.mp hcommand
      rw [hcommand] at hbefore
      cases hbefore
      exact ⟨{ command with settled := true }, by rw [List.getElem?_set, if_pos rfl, if_pos hlt], hbeforeId⟩
    · exact ⟨before, by rw [List.getElem?_set_ne hkn, hbefore], hbeforeId⟩
  · intro k other otherId hother hotherId hrunningOther
    obtain ⟨before, hbefore, -, hsame⟩ := hset k other hother
    obtain ⟨rfl, -⟩ := hsame hrunningOther
    obtain ⟨hk, hcontains⟩ := hinv.kept k before otherId hbefore hotherId hrunningOther
    exact ⟨hk, OrderedMap.contains_set hcontains⟩
  · rw [OrderedMap.keys_set_of_get? hreceipt]
    exact hinv.ordered
  · rw [OrderedMap.entries_set_of_get? hreceipt, OrderedMap.overwrite, ← List.map_dropLast, List.countP_map]
    refine Nat.le_trans (List.countP_mono_left ?_) hinv.crowd
    intro entry _ hentry
    rw [Function.comp_apply] at hentry
    split at hentry
    · cases hentry
    · exact hentry
  · have hactive := countP_isActive_settled hcommand
    have hcounts : command.isActive = true := by rw [StartedCommand.isActive, hid, hrunning]; rfl
    rw [if_pos hcounts, hinv.active] at hactive
    omega
  · exact Nat.le_trans (by omega) hinv.active_le
  · intro i j first second otherId hlt hfirst hsecond hfirstId hsecondId
    obtain ⟨before, hbefore, hsame, -⟩ := hset i first hfirst
    obtain ⟨later, hlater, hsameLater, -⟩ := hset j second hsecond
    rw [hids]
    exact hinv.executed_again i j before later otherId hlt hbefore hlater (hsame.trans hfirstId)
      (hsameLater.trans hsecondId)
  · intro otherId k hk
    rw [hids, List.length_set]
    exact (hinv.window otherId k hk).imp_left OrderedMap.contains_set

theorem ReceiptInvariant.onSettled {store : ControlOperations OperationId Operation}
    {responses : OrderedMap OperationId Nat} {started : List (StartedCommand OperationId Operation)}
    (hinv : ReceiptInvariant store responses started) {n : Nat} {id : OperationId}
    {command : StartedCommand OperationId Operation} (hcommand : started[n]? = some command)
    (hid : command.operationId = some id) (hrunning : command.settled = false) :
    ReceiptInvariant (store.onSettled (some id)) responses (started.set n { command with settled := true }) ∧
      Pruned (store.onSettled (some id)) := by
  obtain ⟨-, hcontains⟩ := hinv.kept n command id hcommand hid hrunning
  obtain ⟨receipt, hreceipt⟩ := Option.isSome_iff_exists.mp hcontains
  rw [ControlOperations.onSettled, hreceipt]
  exact ⟨(hinv.markSettled hcommand hid hrunning hreceipt).prune, pruned_pruneControlOperations _⟩

/-- A new handler without a receipt. -/
theorem ReceiptInvariant.append {store : ControlOperations OperationId Operation}
    {responses : OrderedMap OperationId Nat} {started : List (StartedCommand OperationId Operation)}
    (hinv : ReceiptInvariant store responses started) (operation : Operation) :
    ReceiptInvariant store responses (started ++ [⟨none, operation, true⟩]) := by
  have hsplit : ∀ (k : Nat) other id, (started ++ [⟨none, operation, true⟩])[k]? = some other →
      other.operationId = some id → started[k]? = some other := by
    intro k other id hother hid
    rw [List.getElem?_append] at hother
    split at hother
    · exact hother
    · obtain rfl := List.mem_singleton.mp (List.mem_of_getElem? hother)
      cases hid
  have hkept : ∀ (k : Nat) other, started[k]? = some other →
      (started ++ [⟨none, operation, true⟩])[k]? = some other := by
    intro k other hother
    obtain ⟨hlt, -⟩ := List.getElem?_eq_some_iff.mp hother
    rw [List.getElem?_append_left hlt, hother]
  constructor
  · intro id receipt hreceipt
    obtain ⟨n, hn, hstarted⟩ := hinv.promised id receipt hreceipt
    exact ⟨n, hn, hkept n _ hstarted⟩
  · exact fun n command id hcommand hid => hinv.latest n command id (hsplit n command id hcommand hid) hid
  · intro id n hn
    obtain ⟨command, hcommand, hid⟩ := hinv.known id n hn
    exact ⟨command, hkept n command hcommand, hid⟩
  · exact fun n command id hcommand hid => hinv.kept n command id (hsplit n command id hcommand hid) hid
  · exact hinv.ordered
  · exact hinv.crowd
  · rw [List.countP_append, hinv.active]
    rfl
  · exact hinv.active_le
  · intro i j first second id hlt hfirst hsecond hfirstId hsecondId
    have hlater := hsplit j second id hsecond hsecondId
    obtain ⟨hbound, -⟩ := List.getElem?_eq_some_iff.mp hlater
    rw [List.map_append, newerIds_append (by rw [List.length_map]; omega)]
    exact hinv.executed_again i j first second id hlt (hsplit i first id hfirst hfirstId) hlater hfirstId hsecondId
  · intro id n hn
    refine (hinv.window id n hn).imp_right fun hforgotten => hforgotten.trans ?_
    rw [List.map_append]
    exact newerIds_append_mono _ id n (by rw [List.length_map]) (by rw [List.length_append]; omega)

/-- A new handler with a receipt. -/
theorem ReceiptInvariant.register {store : ControlOperations OperationId Operation}
    {responses : OrderedMap OperationId Nat} {started : List (StartedCommand OperationId Operation)}
    (hinv : ReceiptInvariant store responses started) {id : OperationId} (operation : Operation)
    (hnone : store.get? id = none) (hactive : store.entries.countP unsettled < 128) :
    ReceiptInvariant (store.set id ⟨operation, false⟩) (responses.set id started.length)
      (started ++ [⟨some id, operation, false⟩]) := by
  have hlast : ∀ (k : Nat) other, (started ++ [⟨some id, operation, false⟩])[k]? = some other →
      started[k]? = some other ∨ (k = started.length ∧ other = ⟨some id, operation, false⟩) := by
    intro k other hother
    rw [List.getElem?_append] at hother
    split at hother
    · exact .inl hother
    · obtain rfl := List.mem_singleton.mp (List.mem_of_getElem? hother)
      obtain ⟨hlt, -⟩ := List.getElem?_eq_some_iff.mp hother
      rw [List.length_singleton] at hlt
      exact .inr ⟨by omega, rfl⟩
  have hkept : ∀ (k : Nat) other, started[k]? = some other →
      (started ++ [⟨some id, operation, false⟩])[k]? = some other := by
    intro k other hother
    obtain ⟨hlt, -⟩ := List.getElem?_eq_some_iff.mp hother
    rw [List.getElem?_append_left hlt, hother]
  have hnew : (started ++ [⟨some id, operation, false⟩])[started.length]? = some ⟨some id, operation, false⟩ := by
    rw [List.getElem?_append_right (Nat.le_refl _), Nat.sub_self]
    rfl
  -- An earlier receipt of this id was dropped.
  have hforgotten : ∀ (i : Nat) first, started[i]? = some first → first.operationId = some id →
      385 ≤ (newerIds (started.map StartedCommand.operationId) id i started.length).length := by
    intro i first hfirst hfirstId
    obtain ⟨last, hresponse, hle⟩ := hinv.latest i first id hfirst hfirstId
    rcases hinv.window id last hresponse with hcontains | hwindow
    · rw [OrderedMap.contains, hnone] at hcontains
      cases hcontains
    · exact hwindow.trans (newerIds_mono _ id hle (Nat.le_refl _))
  have hother : ∀ otherId receipt, store.get? otherId = some receipt → otherId ≠ id := by
    rintro otherId receipt hreceipt rfl
    rw [hnone] at hreceipt
    cases hreceipt
  constructor
  · intro otherId receipt hreceipt
    rw [OrderedMap.get?_set] at hreceipt
    by_cases hsame : otherId = id
    · rw [if_pos hsame] at hreceipt
      cases hreceipt
      subst hsame
      exact ⟨started.length, OrderedMap.get?_set_self _ _ _, hnew⟩
    · rw [if_neg hsame] at hreceipt
      obtain ⟨n, hn, hstarted⟩ := hinv.promised otherId receipt hreceipt
      exact ⟨n, by rw [OrderedMap.get?_set_ne hsame, hn], hkept n _ hstarted⟩
  · intro n command otherId hcommand hcommandId
    rw [OrderedMap.get?_set]
    obtain hbefore | ⟨rfl, rfl⟩ := hlast n command hcommand
    · by_cases hsame : otherId = id
      · obtain ⟨hlt, -⟩ := List.getElem?_eq_some_iff.mp hbefore
        exact ⟨started.length, if_pos hsame, by omega⟩
      · rw [if_neg hsame]
        exact hinv.latest n command otherId hbefore hcommandId
    · exact ⟨started.length, if_pos (Option.some.inj hcommandId).symm, Nat.le_refl _⟩
  · intro otherId n hn
    rw [OrderedMap.get?_set] at hn
    by_cases hsame : otherId = id
    · rw [if_pos hsame] at hn
      cases hn
      exact ⟨_, hnew, by rw [hsame]⟩
    · rw [if_neg hsame] at hn
      obtain ⟨command, hcommand, hcommandId⟩ := hinv.known otherId n hn
      exact ⟨command, hkept n command hcommand, hcommandId⟩
  · intro n command otherId hcommand hcommandId hrunning
    obtain hbefore | ⟨rfl, rfl⟩ := hlast n command hcommand
    · obtain ⟨hresponse, hcontains⟩ := hinv.kept n command otherId hbefore hcommandId hrunning
      obtain ⟨receipt, hreceipt⟩ := Option.isSome_iff_exists.mp hcontains
      exact ⟨by rw [OrderedMap.get?_set_ne (hother otherId receipt hreceipt), hresponse],
        OrderedMap.contains_set hcontains⟩
    · obtain rfl := Option.some.inj hcommandId
      exact ⟨OrderedMap.get?_set_self _ _ _, by rw [OrderedMap.contains, OrderedMap.get?_set_self]; rfl⟩
  · rw [OrderedMap.keys, OrderedMap.entries_set_of_none hnone, List.map_append, List.pairwise_append]
    have hkeys : ∀ otherId ∈ store.keys, otherId ≠ id ∧ ∃ n, responses.get? otherId = some n ∧ n < started.length := by
      intro otherId hmem
      obtain ⟨receipt, hreceipt⟩ := OrderedMap.mem_keys_iff.mp hmem
      obtain ⟨n, hn, hstarted⟩ := hinv.promised otherId receipt hreceipt
      obtain ⟨hlt, -⟩ := List.getElem?_eq_some_iff.mp hstarted
      exact ⟨hother otherId receipt hreceipt, n, hn, hlt⟩
    refine ⟨hinv.ordered.imp_of_mem ?_, List.pairwise_singleton _ _, ?_⟩
    · intro a b ha hb hab
      rwa [OrderedMap.get?_set_ne (hkeys a ha).1, OrderedMap.get?_set_ne (hkeys b hb).1]
    · intro a ha b hb
      obtain rfl := List.mem_singleton.mp hb
      obtain ⟨hne, n, hn, hlt⟩ := hkeys a ha
      exact ⟨n, started.length, by rw [OrderedMap.get?_set_ne hne, hn], OrderedMap.get?_set_self _ _ _, hlt⟩
  · rw [OrderedMap.entries_set_of_none hnone, List.dropLast_concat]
    omega
  · rw [OrderedMap.entries_set_of_none hnone, List.countP_append, List.countP_append, hinv.active]
    rfl
  · rw [OrderedMap.entries_set_of_none hnone, List.countP_append]
    exact Nat.succ_le_of_lt hactive
  · intro i j first second otherId hlt hfirst hsecond hfirstId hsecondId
    obtain ⟨hbound, -⟩ := List.getElem?_eq_some_iff.mp hsecond
    rw [List.length_append, List.length_singleton] at hbound
    rw [List.map_append, newerIds_append (by rw [List.length_map]; omega)]
    have hfirst' : started[i]? = some first := by
      obtain hbefore | ⟨rfl, -⟩ := hlast i first hfirst
      · exact hbefore
      · omega
    obtain hlater | ⟨rfl, rfl⟩ := hlast j second hsecond
    · exact hinv.executed_again i j first second otherId hlt hfirst' hlater hfirstId hsecondId
    · obtain rfl := Option.some.inj hsecondId
      exact hforgotten i first hfirst' hfirstId
  · intro otherId n hn
    rw [OrderedMap.get?_set] at hn
    by_cases hsame : otherId = id
    · exact .inl (by rw [OrderedMap.contains, OrderedMap.get?_set, if_pos hsame]; rfl)
    · rw [if_neg hsame] at hn
      refine (hinv.window otherId n hn).imp OrderedMap.contains_set fun hwindow => hwindow.trans ?_
      rw [List.map_append]
      exact newerIds_append_mono _ otherId n (by rw [List.length_map]) (by rw [List.length_append]; omega)

end

section

variable {Request OperationId Operation Data : Type} [DecidableEq OperationId]

/-- The store of a server and what its requests were answered. -/
structure ControlInvariant (server : ControlCommands Request OperationId Operation Data) : Prop where
  receipts : ReceiptInvariant server.controlOperations server.responses (server.executions.map Execution.command)
  pruned : Pruned server.controlOperations
  waiting_known : ∀ waiter ∈ server.waiting, ∃ handler,
    server.executions[waiter.2]? = some handler ∧ handler.response = none
  answer_known : ∀ answer ∈ server.answers, ∀ n : Nat, answer.execution = some n → ∃ handler,
    server.executions[n]? = some handler ∧ handler.response = some answer.response

/-- A handler that moves on without a change to its promise. -/
theorem ControlInvariant.advance {self : ControlCommands Request OperationId Operation Data}
    (hinv : ControlInvariant self) {n : Nat} {handler : Execution OperationId Operation Data}
    (hget : self.executions[n]? = some handler) (phase : HandlerPhase)
    {store : ControlOperations OperationId Operation} (hpruned : Pruned store)
    (hreceipts : ReceiptInvariant store self.responses
      ((self.executions.set n { handler with phase }).map Execution.command)) :
    ControlInvariant
      { self with controlOperations := store, executions := self.executions.set n { handler with phase } } := by
  have hkeeps : ∀ (k : Nat) found, self.executions[k]? = some found →
      ∃ other, (self.executions.set n { handler with phase })[k]? = some other ∧
        other.response = found.response := by
    intro k found hfound
    by_cases hk : n = k
    · subst hk
      obtain ⟨hlt, -⟩ := List.getElem?_eq_some_iff.mp hget
      rw [hget] at hfound
      cases hfound
      exact ⟨{ handler with phase }, by rw [List.getElem?_set, if_pos rfl, if_pos hlt], rfl⟩
    · exact ⟨found, by rw [List.getElem?_set_ne hk, hfound], rfl⟩
  refine ⟨hreceipts, hpruned, ?_, ?_⟩
  · intro waiter hwaiter
    obtain ⟨found, hfound, hpending⟩ := hinv.waiting_known waiter hwaiter
    obtain ⟨other, hother, hsame⟩ := hkeeps _ found hfound
    exact ⟨other, hother, hsame.trans hpending⟩
  · intro answer hanswer k hk
    obtain ⟨found, hfound, hknown⟩ := hinv.answer_known answer hanswer k hk
    obtain ⟨other, hother, hsame⟩ := hkeeps k found hfound
    exact ⟨other, hother, hsame.trans hknown⟩

/-- A promise that is settled answers all that await it. -/
theorem ControlInvariant.settleResponse {self : ControlCommands Request OperationId Operation Data}
    (hinv : ControlInvariant self) {n : Nat} {handler next : Execution OperationId Operation Data}
    (hget : self.executions[n]? = some handler) (hsame : next.command = handler.command)
    (hpending : handler.response = none) (response : Except String Data) :
    ControlInvariant (self.settleResponse n next response) := by
  rw [ControlCommands.settleResponse]
  have hcommand : ({ next with response := some response } : Execution _ _ _).command = handler.command := hsame
  refine ⟨by rw [List.map_set_of_eq hget hcommand]; exact hinv.receipts, hinv.pruned, ?_, ?_⟩
  · intro waiter hwaiter
    rw [List.mem_filter] at hwaiter
    obtain ⟨found, hfound, hwaits⟩ := hinv.waiting_known waiter hwaiter.1
    exact ⟨found, by rw [List.getElem?_set_ne (Ne.symm (of_decide_eq_true hwaiter.2)), hfound], hwaits⟩
  · intro answer hanswer k hk
    obtain ⟨hlt, -⟩ := List.getElem?_eq_some_iff.mp hget
    rcases List.mem_append.mp hanswer with hbefore | hnew
    · obtain ⟨found, hfound, hknown⟩ := hinv.answer_known answer hbefore k hk
      refine ⟨found, ?_, hknown⟩
      rw [List.getElem?_set_ne, hfound]
      rintro rfl
      rw [hget] at hfound
      cases hfound
      rw [hpending] at hknown
      cases hknown
    · obtain ⟨waiter, -, rfl⟩ := List.mem_map.mp hnew
      cases hk
      exact ⟨_, by rw [List.getElem?_set, if_pos rfl, if_pos hlt], rfl⟩

/-- A handler that is started awaits its own promise. -/
theorem ControlInvariant.execute {self : ControlCommands Request OperationId Operation Data}
    (hinv : ControlInvariant self) (request : Request) {handler : Execution OperationId Operation Data}
    (hpending : handler.response = none) {store : ControlOperations OperationId Operation}
    {responses : OrderedMap OperationId Nat} (hpruned : Pruned store)
    (hreceipts : ReceiptInvariant store responses (self.executions.map Execution.command ++ [handler.command])) :
    ControlInvariant { self with
      controlOperations := store
      responses
      executions := self.executions ++ [handler]
      waiting := self.waiting ++ [(request, self.executions.length)] } := by
  have hkept : ∀ (k : Nat) found, self.executions[k]? = some found →
      (self.executions ++ [handler])[k]? = some found := by
    intro k found hfound
    obtain ⟨hlt, -⟩ := List.getElem?_eq_some_iff.mp hfound
    rw [List.getElem?_append_left hlt, hfound]
  refine ⟨by rw [List.map_append]; exact hreceipts, hpruned, ?_, ?_⟩
  · intro waiter hwaiter
    rcases List.mem_append.mp hwaiter with hbefore | hnew
    · obtain ⟨found, hfound, hwaits⟩ := hinv.waiting_known waiter hbefore
      exact ⟨found, hkept _ found hfound, hwaits⟩
    · obtain rfl := List.mem_singleton.mp hnew
      refine ⟨handler, ?_, hpending⟩
      rw [List.getElem?_append_right (Nat.le_refl _), Nat.sub_self]
      rfl
  · intro answer hanswer k hk
    obtain ⟨found, hfound, hknown⟩ := hinv.answer_known answer hanswer k hk
    exact ⟨found, hkept k found hfound, hknown⟩

variable [DecidableEq Operation]

omit [DecidableEq Operation] in
theorem ControlInvariant.remembers {self : ControlCommands Request OperationId Operation Data}
    (hinv : ControlInvariant self) : Remembers self := by
  have hstarted : ∀ (n : Nat) handler, self.executions[n]? = some handler →
      (self.executions.map Execution.command)[n]? = some handler.command := by
    intro n handler hget
    rw [List.getElem?_map, hget, Option.map_some]
  have hsize : self.controlOperations.size ≤ 512 + self.controlOperations.entries.countP unsettled := hinv.pruned
  have hactive := hinv.receipts.active_le
  constructor
  · intro i j first second id hlt hfirst hsecond hfirstId hsecondId
    have hids := hinv.receipts.executed_again i j _ _ id hlt (hstarted i first hfirst) (hstarted j second hsecond)
      hfirstId hsecondId
    rw [List.map_map] at hids
    exact hids
  · intro n handler id hget hid hrunning
    have hcommand : handler.command.settled = false := by simp [Execution.command, hid, hrunning]
    obtain ⟨hresponse, hcontains⟩ := hinv.receipts.kept n _ id (hstarted n handler hget) hid hcommand
    obtain ⟨receipt, hreceipt⟩ := Option.isSome_iff_exists.mp hcontains
    refine ⟨receipt, hreceipt, ?_⟩
    obtain ⟨m, hm, hpromised⟩ := hinv.receipts.promised id receipt hreceipt
    rw [hresponse] at hm
    cases hm
    rw [hstarted n handler hget, Option.some.injEq] at hpromised
    rw [hpromised] at hcommand
    exact hcommand
  · have hcount := hinv.receipts.active
    rw [List.countP_map] at hcount
    refine Nat.le_trans (List.countP_mono_left ?_) (hcount.le.trans hactive)
    intro handler _ hruns
    simp only [Bool.and_eq_true, decide_eq_true_eq, ne_eq] at hruns
    simp [StartedCommand.isActive, Execution.command, hruns.1, hruns.2]
  · omega
  · intro a ha b hb hsome hsame
    obtain ⟨n, hn⟩ := Option.isSome_iff_exists.mp hsome
    obtain ⟨handler, hhandler, hresponse⟩ := hinv.answer_known a ha n hn
    obtain ⟨other, hother, hotherResponse⟩ := hinv.answer_known b hb n (hsame ▸ hn)
    rw [hhandler] at hother
    cases hother
    rw [hresponse] at hotherResponse
    exact Option.some.inj hotherResponse
  · exact hinv.waiting_known

theorem ControlInvariant.answersReplays {self : ControlCommands Request OperationId Operation Data}
    (hinv : ControlInvariant self) : AnswersReplays self := by
  intro request id type operation receipt hreceipt
  obtain ⟨n, hn, hstarted⟩ := hinv.receipts.promised id receipt hreceipt
  rw [List.getElem?_map, Option.map_eq_some_iff] at hstarted
  obtain ⟨handler, hhandler, hcommand⟩ := hstarted
  have hid : handler.operationId = some id := congrArg StartedCommand.operationId hcommand
  have hoperation : handler.operation = receipt.fingerprint := congrArg StartedCommand.operation hcommand
  intro next
  by_cases hsame : receipt.fingerprint = operation
  · have hrun : self.controlOperations.runIdempotentControl (some id) operation = (.replayed, self.controlOperations) := by
      rw [ControlOperations.runIdempotentControl, hreceipt]
      simp only [hsame, ne_eq, not_true_eq_false, if_false]
    have hnext : next = self.awaitResponse request n := by
      simp only [next, ControlCommands.command, hrun, Option.bind_some, hn, Option.getD_some]
    have hlast : ∀ (later : Nat) other, n < later → self.executions[later]? = some other →
        other.operationId ≠ some id := by
      intro later other hlt hother hotherId
      have hlater : (self.executions.map Execution.command)[later]? = some other.command := by
        rw [List.getElem?_map, hother, Option.map_some]
      obtain ⟨last, hresponse, hle⟩ := hinv.receipts.latest later _ id hlater hotherId
      rw [hn] at hresponse
      cases hresponse
      omega
    rw [hnext, ControlCommands.awaitResponse, hhandler, Option.bind_some]
    cases hresponse : handler.response with
    | some response =>
      refine ⟨rfl, fun hne => absurd hsame hne, fun _ => ⟨n, handler, hhandler, hid, hoperation.trans hsame, hlast, ?_⟩⟩
      rw [hresponse]
      exact ⟨rfl, rfl⟩
    | none =>
      refine ⟨rfl, fun hne => absurd hsame hne, fun _ => ⟨n, handler, hhandler, hid, hoperation.trans hsame, hlast, ?_⟩⟩
      rw [hresponse]
      exact ⟨rfl, rfl⟩
  · have hrun : self.controlOperations.runIdempotentControl (some id) operation =
        (.rejected "Operation id was reused with a different command", self.controlOperations) := by
      rw [ControlOperations.runIdempotentControl, hreceipt]
      simp only [hsame, ne_eq, not_false_eq_true, if_true]
    have hnext : next = { self with answers := self.answers ++ [{
        request, execution := none
        response := .error "Operation id was reused with a different command" }] } := by
      simp only [next, ControlCommands.command, hrun]
    rw [hnext]
    exact ⟨rfl, fun _ => ⟨rfl, rfl⟩, fun heq => absurd heq hsame⟩

end

end pipane.ws_handler

import Pipane.Lib.OrderedMap

namespace pipane.ws_handler

def MAX_COMPLETED_CONTROL_OPERATIONS : Nat := 512

def MAX_ACTIVE_CONTROL_OPERATIONS : Nat := 128

/-- What the server remembers of an operation; its fingerprint determines the command without its request id. -/
structure OperationReceipt (Operation : Type) where
  fingerprint : Operation
  settled : Bool

/-- What becomes of a command: the response of its receipt is sent again, it is refused, or its handler runs. -/
inductive Admission
  | replayed
  | rejected (error : String)
  | executed
deriving DecidableEq

/-- `controlOperations`, by operation id in the order of arrival. -/
abbrev ControlOperations (OperationId Operation : Type) := OrderedMap OperationId (OperationReceipt Operation)

/-- The loop of `pruneControlOperations` while the map is too large by `excess` entries. -/
def pruneEntries {OperationId Operation : Type} :
    Nat → List (OperationId × OperationReceipt Operation) → List (OperationId × OperationReceipt Operation)
  | 0, entries => entries
  | _, [] => []
  | excess + 1, entry :: entries =>
    if entry.2.settled then pruneEntries excess entries else entry :: pruneEntries (excess + 1) entries

section

variable {OperationId Operation : Type}

theorem pruneEntries_sublist (excess : Nat) (entries : List (OperationId × OperationReceipt Operation)) :
    (pruneEntries excess entries).Sublist entries := by
  induction entries generalizing excess with
  | nil =>
    cases excess with
    | zero => exact List.Sublist.refl _
    | succ excess => exact List.Sublist.refl _
  | cons entry entries ih =>
    cases excess with
    | zero => exact List.Sublist.refl _
    | succ excess =>
      rw [pruneEntries]
      split
      · exact (ih excess).cons _
      · exact (ih (excess + 1)).cons_cons _

/-- A receipt that is dropped is settled, and fewer settled receipts than `excess` stand before it. -/
theorem pruneEntries_dropped {excess : Nat} {entries : List (OperationId × OperationReceipt Operation)}
    {entry : OperationId × OperationReceipt Operation} (hmem : entry ∈ entries)
    (hdropped : entry ∉ pruneEntries excess entries) :
    entry.2.settled = true ∧ ∃ before after, entries = before ++ entry :: after ∧
      before.countP (fun other => other.2.settled) < excess := by
  induction entries generalizing excess with
  | nil => cases hmem
  | cons head entries ih =>
    cases excess with
    | zero => exact absurd hmem hdropped
    | succ excess =>
      rw [pruneEntries] at hdropped
      by_cases hsettled : head.2.settled = true
      · rw [if_pos hsettled] at hdropped
        rcases List.mem_cons.mp hmem with rfl | hrest
        · exact ⟨hsettled, [], entries, rfl, Nat.succ_pos _⟩
        · obtain ⟨hentry, before, after, rfl, hcount⟩ := ih hrest hdropped
          refine ⟨hentry, head :: before, after, rfl, ?_⟩
          simp only [List.countP_cons, hsettled, if_true]
          omega
      · rw [if_neg hsettled, List.mem_cons, not_or] at hdropped
        obtain ⟨hentry, before, after, rfl, hcount⟩ := ih ((List.mem_cons.mp hmem).resolve_left hdropped.1) hdropped.2
        refine ⟨hentry, head :: before, after, rfl, ?_⟩
        simp only [List.countP_cons, hsettled]
        exact hcount

theorem mem_pruneEntries_of_unsettled {excess : Nat} {entries : List (OperationId × OperationReceipt Operation)}
    {entry : OperationId × OperationReceipt Operation} (hmem : entry ∈ entries) (hunsettled : entry.2.settled = false) :
    entry ∈ pruneEntries excess entries := by
  by_contra hdropped
  have hsettled := (pruneEntries_dropped hmem hdropped).1
  rw [hunsettled] at hsettled
  cases hsettled

theorem length_pruneEntries (excess : Nat) (entries : List (OperationId × OperationReceipt Operation)) :
    (pruneEntries excess entries).length + min excess (entries.countP fun entry => entry.2.settled) =
      entries.length := by
  induction entries generalizing excess with
  | nil => cases excess <;> rfl
  | cons head entries ih =>
    cases excess with
    | zero => simp [pruneEntries]
    | succ excess =>
      rw [pruneEntries, List.length_cons]
      by_cases hsettled : head.2.settled = true
      · have hrest := ih excess
        simp only [List.countP_cons, hsettled, if_true]
        omega
      · have hrest := ih (excess + 1)
        simp only [if_neg hsettled, List.countP_cons, List.length_cons]
        omega

theorem countP_unsettled_pruneEntries (excess : Nat) (entries : List (OperationId × OperationReceipt Operation)) :
    (pruneEntries excess entries).countP (fun entry => !entry.2.settled) =
      entries.countP fun entry => !entry.2.settled := by
  induction entries generalizing excess with
  | nil => cases excess <;> rfl
  | cons head entries ih =>
    cases excess with
    | zero => rfl
    | succ excess =>
      rw [pruneEntries]
      by_cases hsettled : head.2.settled = true
      · rw [if_pos hsettled, List.countP_cons_of_neg (by simp [hsettled]), ih]
      · rw [if_neg hsettled, List.countP_cons_of_pos (by simp [hsettled]),
          List.countP_cons_of_pos (by simp [hsettled]), ih]

namespace ControlOperations

/-- Drop the oldest settled receipts until the map is small enough. -/
def pruneControlOperations (self : ControlOperations OperationId Operation) :
    ControlOperations OperationId Operation :=
  ⟨pruneEntries (self.size - MAX_COMPLETED_CONTROL_OPERATIONS) self.entries,
    self.nodup.sublist ((pruneEntries_sublist _ _).map _)⟩

theorem entries_pruneControlOperations (self : ControlOperations OperationId Operation) :
    self.pruneControlOperations.entries =
      pruneEntries (self.size - MAX_COMPLETED_CONTROL_OPERATIONS) self.entries := by
  rw [pruneControlOperations]

variable [DecidableEq OperationId] [DecidableEq Operation]

/-- `runIdempotentControl` up to the handler. -/
def runIdempotentControl (self : ControlOperations OperationId Operation) (operationId : Option OperationId)
    (operation : Operation) : Admission × ControlOperations OperationId Operation :=
  match operationId with
  | none => (.executed, self)
  | some operationId =>
    match self.get? operationId with
    | some existing =>
      if existing.fingerprint ≠ operation then
        (.rejected "Operation id was reused with a different command", self)
      else (.replayed, self)
    | none =>
      let active := self.values.countP fun receipt => !receipt.settled
      if MAX_ACTIVE_CONTROL_OPERATIONS ≤ active then (.rejected "Too many control operations are active", self)
      else (.executed, self.set operationId { fingerprint := operation, settled := false })

/-- The `finally` of the handler. -/
def onSettled (self : ControlOperations OperationId Operation) (operationId : Option OperationId) :
    ControlOperations OperationId Operation :=
  match operationId with
  | none => self.pruneControlOperations
  | some operationId =>
    match self.get? operationId with
    | none => self.pruneControlOperations
    | some receipt => pruneControlOperations (self.set operationId { receipt with settled := true })

theorem runIdempotentControl_executed {self : ControlOperations OperationId Operation}
    {operationId : Option OperationId} {operation : Operation}
    (h : (self.runIdempotentControl operationId operation).1 = .executed) :
    operationId = none ∨ ∃ id, operationId = some id ∧ self.get? id = none := by
  cases operationId with
  | none => exact .inl rfl
  | some id =>
    refine .inr ⟨id, rfl, ?_⟩
    cases hexisting : self.get? id with
    | none => rfl
    | some existing =>
      rw [runIdempotentControl, hexisting] at h
      simp only at h
      split at h
      · cases h
      · cases h

end ControlOperations

end

end pipane.ws_handler

import Pipane.Shared.JsonlSync

namespace pipane.jsonl_sync

/-- The verified pair of a state. -/
def SyncResult.of (computeHash : JsString → JsString) (data : JsString) : SyncResult where
  data := data
  hash := computeHash data

/-- What the server sends while the state goes through a chain of texts. -/
def computeSyncOps (computeHash : JsString → JsString) : JsString → List JsString → List SyncOp
  | _, [] => []
  | oldStr, newStr :: states =>
    computeSyncOp oldStr newStr (computeHash oldStr) (computeHash newStr) :: computeSyncOps computeHash newStr states

/-- The operations one by one. -/
def applyEach (computeHash : JsString → JsString) (current : SyncResult) (ops : List SyncOp) : Option SyncResult :=
  ops.foldlM (fun (state : SyncResult) op => applySyncOp computeHash state.data state.hash op) current

/-- The operations batch by batch. -/
def applyBatches (computeHash : JsString → JsString) (current : SyncResult) (batches : List (List SyncOp)) :
    Option SyncResult :=
  batches.foldlM (fun (state : SyncResult) ops => applySyncOps computeHash state.data state.hash ops) current

variable {computeHash : JsString → JsString}

theorem applySyncOps_of_applyEach {current result : SyncResult} {ops : List SyncOp}
    (h : applyEach computeHash current ops = some result) :
    applySyncOps computeHash current.data current.hash ops = some result := by
  by_cases hne : ops = []
  · subst hne
    exact h
  · exact applySyncOps_of_applySyncOp hne h

theorem applyBatches_of_applyEach {current result : SyncResult} {batches : List (List SyncOp)}
    (h : applyEach computeHash current batches.flatten = some result) :
    applyBatches computeHash current batches = some result := by
  induction batches generalizing current with
  | nil => exact h
  | cons ops batches ih =>
    rw [List.flatten_cons, applyEach, List.foldlM_append, Option.bind_eq_bind, Option.bind_eq_some_iff] at h
    obtain ⟨next, hops, hrest⟩ := h
    rw [applyBatches, List.foldlM_cons, applySyncOps_of_applyEach hops]
    exact ih hrest

theorem applyEach_computeSyncOps (start : JsString) (states : List JsString) :
    applyEach computeHash (.of computeHash start) (computeSyncOps computeHash start states) =
      some (.of computeHash (states.getLastD start)) := by
  induction states generalizing start with
  | nil => rfl
  | cons newStr states ih =>
    have hop : applySyncOp computeHash start (computeHash start)
        (computeSyncOp start newStr (computeHash start) (computeHash newStr)) = some (.of computeHash newStr) :=
      applySyncOp_computeSyncOp start newStr (computeHash start)
    rw [computeSyncOps, applyEach, List.foldlM_cons]
    simp only [SyncResult.of] at hop ⊢
    rw [hop, List.getLastD_cons]
    exact ih newStr

theorem hash_of_chainSyncOps {current result : SyncResult} {ops : List SyncOp} {op : SyncOp}
    (h : chainSyncOps current (ops ++ [op]) = some result) : result.hash = op.hash := by
  induction ops generalizing current with
  | nil =>
    cases op with
    | full data hash =>
      cases h
      rfl
    | delta patches hash baseHash =>
      rw [List.nil_append, chainSyncOps] at h
      split at h
      · cases h
      · cases h
        rfl
  | cons first ops ih =>
    cases first with
    | full data hash => exact ih h
    | delta patches hash baseHash =>
      rw [List.cons_append, chainSyncOps] at h
      split at h
      · cases h
      · exact ih h

theorem computeHash_of_applySyncOps {current result : SyncResult} {ops : List SyncOp} {op : SyncOp}
    (h : applySyncOps computeHash current.data current.hash (ops ++ [op]) = some result) :
    result.hash = op.hash ∧ computeHash result.data = op.hash := by
  have hverified := (applySyncOps_hash (by simp) h).1
  rw [applySyncOps, if_neg (by simp)] at h
  split at h
  · cases h
  · rename_i chained hchain
    split at h
    · cases h
    · cases h
      have hlast := hash_of_chainSyncOps hchain
      exact ⟨hlast, hverified ▸ hlast⟩

/-- A chain of states arrives in every grouping of its operations; a batch accepts what its operations one by one
    accept; and what a batch accepts has the hash that its last operation advertises. -/
theorem batches_agree (computeHash : JsString → JsString) (start : JsString) (states : List JsString)
    (batches : List (List SyncOp)) (current result : SyncResult) (ops : List SyncOp) (op : SyncOp) :
    (batches.flatten = computeSyncOps computeHash start states →
      applyBatches computeHash (.of computeHash start) batches = some (.of computeHash (states.getLastD start))) ∧
    applyEach computeHash (.of computeHash start) (computeSyncOps computeHash start states) =
      some (.of computeHash (states.getLastD start)) ∧
    (applyEach computeHash current ops = some result →
      applySyncOps computeHash current.data current.hash ops = some result) ∧
    (applySyncOps computeHash current.data current.hash (ops ++ [op]) = some result →
      result.hash = op.hash ∧ computeHash result.data = op.hash) := by
  refine ⟨fun hbatches => ?_, applyEach_computeSyncOps start states, applySyncOps_of_applyEach,
    computeHash_of_applySyncOps⟩
  refine applyBatches_of_applyEach ?_
  rw [hbatches]
  exact applyEach_computeSyncOps start states

theorem batches_agree_pair :
    applyBatches List.reverse (.of List.reverse [65]) [computeSyncOps List.reverse [65] [[65, 66], [66]]] =
      some (.of List.reverse [66]) :=
  (batches_agree List.reverse [65] [[65, 66], [66]] [computeSyncOps List.reverse [65] [[65, 66], [66]]]
    (.of List.reverse [65]) (.of List.reverse [65]) [] (.full [] [])).1 rfl

end pipane.jsonl_sync

import Pipane.Lib.JsString
import Mathlib.Logic.Basic
import Mathlib.Algebra.BigOperators.Group.List.Basic

namespace pipane.jsonl_sync

structure Patch where
  /-- Offset in the current (already-patched) string where this op applies. -/
  offset : Nat
  deleteCount : Nat
  insert : JsString
deriving DecidableEq

inductive SyncOp
  | full (data hash : JsString)
  | delta (patches : List Patch) (hash baseHash : JsString)
deriving DecidableEq

/-- The hash of the state that an operation leads to. -/
def SyncOp.hash : SyncOp → JsString
  | .full _ hash => hash
  | .delta _ hash _ => hash

structure SyncResult where
  data : JsString
  hash : JsString
deriving DecidableEq

/-- The number of units before the first difference. -/
def commonPrefixLength : JsString → JsString → Nat
  | u :: s, v :: t => if u = v then commonPrefixLength s t + 1 else 0
  | _, _ => 0

/-- `s.slice(start, stop)` for indices that are not negative. -/
def slice (s : JsString) (start stop : Nat) : JsString :=
  (s.take stop).drop start

/-- The patches that transform `oldStr` into `newStr`: at most one, between the common prefix and the
    common suffix. -/
def computePatches (oldStr newStr : JsString) : List Patch :=
  if oldStr = newStr then []
  else
    let minLen := min oldStr.length newStr.length
    let prefixLen := commonPrefixLength oldStr newStr
    let maxSuffix := minLen - prefixLen
    let suffixLen := commonPrefixLength (oldStr.reverse.take maxSuffix) (newStr.reverse.take maxSuffix)
    let deleteCount := oldStr.length - prefixLen - suffixLen
    let insert := slice newStr prefixLen (newStr.length - suffixLen)
    if deleteCount = 0 ∧ insert.length = 0 then [] else [{ offset := prefixLen, deleteCount, insert }]

def applyPatch (result : JsString) (patch : Patch) : JsString :=
  result.take patch.offset ++ patch.insert ++ result.drop (patch.offset + patch.deleteCount)

/-- Patches are applied sequentially, each to the result of the previous. -/
def applyPatches (str : JsString) (patches : List Patch) : JsString :=
  patches.foldl applyPatch str

def deltaSize (patches : List Patch) : Nat :=
  (patches.map fun patch => patch.insert.length + 20).sum

/-- Server-side: the operation to send to a client that holds `oldStr`. A delta over 80% of the full
    string is not worth it. -/
def computeSyncOp (oldStr newStr oldHash newHash : JsString) : SyncOp :=
  if oldHash = [] ∨ oldStr.length = 0 then .full newStr newHash
  else
    let patches := computePatches oldStr newStr
    if newStr.length * 8 < deltaSize patches * 10 then .full newStr newHash
    else .delta patches newHash oldHash

/-- Client-side: the state after an operation, `none` when it cannot be verified. `computeHash` is a
    parameter of all that follows. -/
def applySyncOp (computeHash : JsString → JsString) (currentStr currentHash : JsString) : SyncOp → Option SyncResult
  | .full data hash => if computeHash data ≠ hash then none else some { data, hash }
  | .delta patches hash baseHash =>
    if baseHash ≠ currentHash then none
    else
      let newStr := applyPatches currentStr patches
      if computeHash newStr ≠ hash then none else some { data := newStr, hash }

/-- The data and hash that a batch advertises, `none` at the first base hash that does not match. -/
def chainSyncOps (current : SyncResult) : List SyncOp → Option SyncResult
  | [] => some current
  | .full data hash :: ops => chainSyncOps { data, hash } ops
  | .delta patches hash baseHash :: ops =>
    if baseHash ≠ current.hash then none
    else chainSyncOps { data := applyPatches current.data patches, hash } ops

/-- Client-side: the state after an ordered batch. Only the final data is hashed. -/
def applySyncOps (computeHash : JsString → JsString) (currentStr currentHash : JsString) (ops : List SyncOp) :
    Option SyncResult :=
  if ops = [] then some { data := currentStr, hash := currentHash }
  else
    match chainSyncOps { data := currentStr, hash := currentHash } ops with
    | none => none
    | some result => if computeHash result.data ≠ result.hash then none else some result

/-- A pair that is empty or whose hash is the hash of its data. -/
def Verified (computeHash : JsString → JsString) (data hash : JsString) : Prop :=
  (data = [] ∧ hash = []) ∨ hash = computeHash data

theorem commonPrefixLength_le (s t : JsString) :
    commonPrefixLength s t ≤ s.length ∧ commonPrefixLength s t ≤ t.length := by
  induction s, t using commonPrefixLength.induct with
  | case1 s v t ih =>
    rw [commonPrefixLength, if_pos rfl]
    simp only [List.length_cons]
    omega
  | case2 u s v t hne =>
    rw [commonPrefixLength, if_neg hne]
    exact ⟨Nat.zero_le _, Nat.zero_le _⟩
  | case3 s t hne =>
    rw [commonPrefixLength]
    · exact ⟨Nat.zero_le _, Nat.zero_le _⟩
    · exact hne

theorem take_commonPrefixLength (s t : JsString) :
    s.take (commonPrefixLength s t) = t.take (commonPrefixLength s t) := by
  induction s, t using commonPrefixLength.induct with
  | case1 s v t ih => simp [commonPrefixLength, ih]
  | case2 u s v t hne => simp [commonPrefixLength, hne]
  | case3 s t hne =>
    rw [commonPrefixLength]
    · simp
    · exact hne

theorem drop_eq_of_reverse_take {s t : JsString} {n : Nat}
    (h : s.reverse.take n = t.reverse.take n) : s.drop (s.length - n) = t.drop (t.length - n) := by
  have hsame := congrArg List.reverse h
  rw [List.reverse_take, List.reverse_take, List.reverse_reverse, List.reverse_reverse, List.length_reverse,
    List.length_reverse] at hsame
  exact hsame

theorem slice_append {s : JsString} {front back : Nat} (h : front + back ≤ s.length) :
    s.take front ++ slice s front (s.length - back) ++ s.drop (s.length - back) = s := by
  have hfront : s.take front = (s.take (s.length - back)).take front := by
    rw [List.take_take, Nat.min_eq_left (by omega)]
  rw [slice, hfront, List.take_append_drop, List.take_append_drop]

/-- Applying the computed patches to the old string gives the new one. -/
theorem applyPatches_computePatches (oldStr newStr : JsString) :
    applyPatches oldStr (computePatches oldStr newStr) = newStr := by
  rw [computePatches]
  by_cases hsame : oldStr = newStr
  · rw [if_pos hsame, hsame]
    rfl
  · rw [if_neg hsame]
    obtain ⟨hold, hnew⟩ := commonPrefixLength_le oldStr newStr
    have hfront := take_commonPrefixLength oldStr newStr
    simp only
    generalize commonPrefixLength oldStr newStr = front at hold hnew hfront ⊢
    have hback := take_commonPrefixLength (oldStr.reverse.take (min oldStr.length newStr.length - front))
      (newStr.reverse.take (min oldStr.length newStr.length - front))
    have hbound := (commonPrefixLength_le (oldStr.reverse.take (min oldStr.length newStr.length - front))
      (newStr.reverse.take (min oldStr.length newStr.length - front))).1
    generalize commonPrefixLength (oldStr.reverse.take (min oldStr.length newStr.length - front))
      (newStr.reverse.take (min oldStr.length newStr.length - front)) = back at hback hbound ⊢
    rw [List.length_take] at hbound
    rw [List.take_take, List.take_take, Nat.min_eq_left (by omega)] at hback
    have hends := drop_eq_of_reverse_take hback
    have hdelete : front + (oldStr.length - front - back) = oldStr.length - back := by omega
    have hpatched : oldStr.take front ++ slice newStr front (newStr.length - back) ++
        oldStr.drop (front + (oldStr.length - front - back)) = newStr := by
      rw [hdelete, hfront, hends]
      exact slice_append (by omega)
    split
    · rename_i hempty
      rw [List.length_eq_zero_iff.mp hempty.2, hempty.1, Nat.add_zero, List.append_nil,
        List.take_append_drop] at hpatched
      exact absurd hpatched hsame
    · exact hpatched

theorem applySyncOp_computeSyncOp {computeHash : JsString → JsString} (oldStr newStr oldHash : JsString) :
    applySyncOp computeHash oldStr oldHash (computeSyncOp oldStr newStr oldHash (computeHash newStr)) =
      some { data := newStr, hash := computeHash newStr } := by
  rw [computeSyncOp]
  split
  · simp [applySyncOp]
  · simp only
    split
    · simp [applySyncOp]
    · simp [applySyncOp, applyPatches_computePatches]

theorem applySyncOp_hash {computeHash : JsString → JsString} {currentStr currentHash : JsString} {op : SyncOp}
    {result : SyncResult} (h : applySyncOp computeHash currentStr currentHash op = some result) :
    result.hash = computeHash result.data := by
  cases op with
  | full data hash =>
    rw [applySyncOp] at h
    split at h
    · cases h
    · rename_i heq
      cases h
      exact (not_not.mp heq).symm
  | delta patches hash baseHash =>
    simp only [applySyncOp] at h
    split at h
    · cases h
    · split at h
      · cases h
      · rename_i heq
        cases h
        exact (not_not.mp heq).symm

theorem chainSyncOps_cons {current result : SyncResult} {op : SyncOp} {ops : List SyncOp}
    (h : chainSyncOps current (op :: ops) = some result) :
    ∃ next, chainSyncOps next ops = some result ∧ next.hash = op.hash := by
  cases op with
  | full data hash => exact ⟨⟨data, hash⟩, h, rfl⟩
  | delta patches hash baseHash =>
    rw [chainSyncOps] at h
    split at h
    · cases h
    · exact ⟨_, h, rfl⟩

theorem chainSyncOps_hash {current result : SyncResult} {ops : List SyncOp} (hne : ops ≠ [])
    (h : chainSyncOps current ops = some result) : ∃ op ∈ ops, op.hash = result.hash := by
  induction ops generalizing current with
  | nil => exact absurd rfl hne
  | cons op ops ih =>
    obtain ⟨next, hrest, hhash⟩ := chainSyncOps_cons h
    by_cases hops : ops = []
    · subst hops
      cases hrest
      exact ⟨op, List.mem_cons_self, hhash.symm⟩
    · obtain ⟨other, hother, hsame⟩ := ih hops hrest
      exact ⟨other, List.mem_cons_of_mem _ hother, hsame⟩

theorem applySyncOps_hash {computeHash : JsString → JsString} {currentStr currentHash : JsString} {ops : List SyncOp}
    {result : SyncResult} (hne : ops ≠ []) (h : applySyncOps computeHash currentStr currentHash ops = some result) :
    result.hash = computeHash result.data ∧ ∃ op ∈ ops, op.hash = result.hash := by
  rw [applySyncOps, if_neg hne] at h
  cases hchain : chainSyncOps { data := currentStr, hash := currentHash } ops with
  | none =>
    rw [hchain] at h
    cases h
  | some chained =>
    rw [hchain] at h
    simp only at h
    split at h
    · cases h
    · rename_i hverified
      cases h
      exact ⟨(not_not.mp hverified).symm, chainSyncOps_hash hne hchain⟩

/-- A batch ends where its operations end one after another: hashing only the final data loses nothing. -/
theorem applySyncOps_of_applySyncOp {computeHash : JsString → JsString} {current result : SyncResult}
    {ops : List SyncOp} (hne : ops ≠ [])
    (h : ops.foldlM (fun (state : SyncResult) op => applySyncOp computeHash state.data state.hash op) current =
      some result) :
    applySyncOps computeHash current.data current.hash ops = some result := by
  have hchain : ∀ (ops : List SyncOp) (current : SyncResult),
      ops.foldlM (fun (state : SyncResult) op => applySyncOp computeHash state.data state.hash op) current =
        some result →
      chainSyncOps current ops = some result ∧ (ops ≠ [] → result.hash = computeHash result.data) := by
    intro ops
    induction ops with
    | nil =>
      intro current h
      cases h
      exact ⟨rfl, fun hne => absurd rfl hne⟩
    | cons op ops ih =>
      intro current h
      rw [List.foldlM_cons, Option.bind_eq_bind, Option.bind_eq_some_iff] at h
      obtain ⟨next, hop, hrest⟩ := h
      obtain ⟨hnext, hverified⟩ := ih next hrest
      refine ⟨?_, fun _ => ?_⟩
      · cases op with
        | full data hash =>
          rw [applySyncOp] at hop
          split at hop
          · cases hop
          · cases hop
            exact hnext
        | delta patches hash baseHash =>
          simp only [applySyncOp] at hop
          split at hop
          · cases hop
          · rename_i hbase
            split at hop
            · cases hop
            · cases hop
              rw [chainSyncOps, if_neg hbase]
              exact hnext
      · cases ops with
        | nil =>
          cases hrest
          exact applySyncOp_hash hop
        | cons other ops => exact hverified (List.cons_ne_nil _ _)
  obtain ⟨hresult, hverified⟩ := hchain ops current h
  rw [applySyncOps, if_neg hne, hresult]
  simp [hverified hne]

end pipane.jsonl_sync

import Mathlib.Algebra.Order.BigOperators.Group.List
import Pipane.Client.SessionStateCache

open javascript json pipane.ws_protocol

namespace pipane.session_state_cache

/-! The limits, as `prune` keeps them. -/

section

variable {maxBytes maxSessions : Nat}

/-- Keys with their sizes are within the limits once the evicted keys are gone. -/
structure Within (maxBytes maxSessions : Nat) (sizes : List (JsString × Nat)) (evicted : List JsString) : Prop where
  sessions : (sizes.filter fun entry => entry.1 ∉ evicted).length ≤ maxSessions
  bytes : ((sizes.filter fun entry => entry.1 ∉ evicted).map Prod.snd).sum ≤ maxBytes

theorem Within.sublist {sizes fewer : List (JsString × Nat)} {evicted : List JsString}
    (h : Within maxBytes maxSessions sizes evicted) (hfewer : fewer.Sublist sizes) :
    Within maxBytes maxSessions fewer evicted := by
  have hkept := hfewer.filter fun entry => decide (entry.1 ∉ evicted)
  exact ⟨hkept.length_le.trans h.sessions,
    (List.Sublist.sum_le_sum (hkept.map Prod.snd) fun _ _ => Nat.zero_le _).trans h.bytes⟩

theorem Within.all {sizes : List (JsString × Nat)} (h : Within maxBytes maxSessions sizes []) :
    sizes.length ≤ maxSessions ∧ (sizes.map Prod.snd).sum ≤ maxBytes := by
  have hall : (sizes.filter fun entry => decide (entry.1 ∉ ([] : List JsString))) = sizes :=
    List.filter_eq_self.mpr (by simp)
  have hsessions := h.sessions
  have hbytes := h.bytes
  rw [hall] at hsessions hbytes
  exact ⟨hsessions, hbytes⟩

theorem Within.evict {sizes fewer : List (JsString × Nat)} {evicted : List JsString}
    (h : Within maxBytes maxSessions sizes evicted)
    (hfewer : fewer.Sublist (sizes.filter fun entry => entry.1 ∉ evicted)) : Within maxBytes maxSessions fewer [] := by
  have hall : ∀ entries : List (JsString × Nat), (entries.filter fun entry => decide (entry.1 ∉ ([] : List JsString))) =
      entries := fun entries => List.filter_eq_self.mpr (by simp)
  refine Within.sublist ⟨?_, ?_⟩ hfewer
  · rw [hall]
    exact h.sessions
  · rw [hall]
    exact h.bytes

theorem evictedFrom_sublist (index retainedBytes : Nat) (manifests : List CacheManifest) :
    (evictedFrom maxBytes maxSessions index retainedBytes manifests).Sublist manifests := by
  induction manifests generalizing index retainedBytes with
  | nil => exact List.Sublist.slnil
  | cons manifest manifests ih =>
    rw [evictedFrom]
    split
    · exact (ih _ _).cons manifest
    · exact (ih _ _).cons_cons manifest

/-- The loop of `prune` retains no more than the limits allow. -/
theorem retained_evictedFrom {index retainedBytes : Nat} {manifests : List CacheManifest}
    (hkeys : (manifests.map CacheManifest.key).Nodup) (hretained : retainedBytes ≤ maxBytes) :
    (manifests.filter fun manifest =>
      manifest.key ∉ (evictedFrom maxBytes maxSessions index retainedBytes manifests).map CacheManifest.key).length ≤
        maxSessions - index ∧
    retainedBytes + ((manifests.filter fun manifest =>
      manifest.key ∉ (evictedFrom maxBytes maxSessions index retainedBytes manifests).map CacheManifest.key).map
        CacheManifest.byteSize).sum ≤ maxBytes := by
  induction manifests generalizing index retainedBytes with
  | nil => exact ⟨Nat.zero_le _, hretained⟩
  | cons manifest manifests ih =>
    obtain ⟨hnew, hrest⟩ := List.nodup_cons.mp hkeys
    rw [evictedFrom]
    split
    · rename_i hroom
      obtain ⟨hcount, hsum⟩ := @ih (index + 1) (retainedBytes + manifest.byteSize) hrest hroom.2
      have hkept : manifest.key ∉ (evictedFrom maxBytes maxSessions (index + 1) (retainedBytes + manifest.byteSize)
          manifests).map CacheManifest.key :=
        fun hmem => hnew (((evictedFrom_sublist _ _ _).map _).subset hmem)
      rw [List.filter_cons_of_pos (by simpa using hkept), List.length_cons, List.map_cons, List.sum_cons]
      omega
    · obtain ⟨hcount, hsum⟩ := @ih (index + 1) retainedBytes hrest hretained
      have hsame : (manifests.filter fun other => decide (other.key ∉ manifest.key ::
          (evictedFrom maxBytes maxSessions (index + 1) retainedBytes manifests).map CacheManifest.key)) =
          manifests.filter fun other => decide (other.key ∉
            (evictedFrom maxBytes maxSessions (index + 1) retainedBytes manifests).map CacheManifest.key) := by
        refine List.filter_congr fun other hother => ?_
        have hne : other.key ≠ manifest.key := by
          intro hkey
          exact hnew (hkey ▸ List.mem_map_of_mem hother)
        simp [hne]
      rw [List.map_cons, List.filter_cons_of_neg (by simp), hsame]
      exact ⟨by omega, hsum⟩

end

namespace Database

variable {db : Database}

/-- The keys in the manifest store, with the sizes recorded for them. -/
def sizes (self : Database) : List (JsString × Nat) :=
  self.manifests.entries.map fun entry => (entry.1, entry.2.byteSize)

/-- Both stores hold the same keys, and a manifest records the size of what is stored for its key. -/
structure Consistent (stores : Database) : Prop where
  keys : stores.manifests.keys = stores.snapshots.keys
  keyed : ∀ key manifest, stores.manifests.get? key = some manifest → manifest.key = key
  sized : ∀ key manifest, stores.manifests.get? key = some manifest → ∃ snapshot,
    stores.snapshots.get? key = some snapshot ∧
    manifest.byteSize = byteLength snapshot.json + byteLength (manifest.previewJson.getD [])

theorem Consistent.empty : Consistent ⟨∅, ∅⟩ :=
  ⟨rfl, fun _ _ h => (by cases h), fun _ _ h => (by cases h)⟩

theorem Consistent.sizes_eq (h : db.Consistent) :
    db.sizes = db.manifests.values.map fun manifest => (manifest.key, manifest.byteSize) := by
  rw [sizes, OrderedMap.values, List.map_map]
  refine List.map_congr_left fun entry hentry => ?_
  rw [Function.comp_apply, h.keyed entry.1 entry.2 (OrderedMap.mem_entries_iff.mp hentry)]

/-- What `prune` evicts leaves the rest within the limits. -/
theorem Consistent.within_evicted (h : db.Consistent) (maxBytes maxSessions : Nat) :
    Within maxBytes maxSessions db.sizes ((db.evicted maxBytes maxSessions).map CacheManifest.key) := by
  have hperm : (db.allManifests.mergeSort fun left right => decide (right.lastAccessedAt ≤ left.lastAccessedAt)).Perm
      db.manifests.values :=
    (List.mergeSort_perm _ _).trans ((List.mergeSort_perm _ _).map Prod.snd)
  rw [evicted]
  generalize (db.allManifests.mergeSort fun left right => decide (right.lastAccessedAt ≤ left.lastAccessedAt)) =
    manifests at hperm
  have hkeys : (manifests.map CacheManifest.key).Nodup := by
    have hvalues : db.manifests.values.map CacheManifest.key = db.manifests.keys := by
      have hfirst := congrArg (List.map Prod.fst) h.sizes_eq
      rw [sizes, List.map_map, List.map_map] at hfirst
      exact hfirst.symm
    rw [(hperm.map _).nodup_iff, hvalues]
    exact db.manifests.nodup
  have hsizes : db.sizes.Perm (manifests.map fun manifest => (manifest.key, manifest.byteSize)) := by
    rw [h.sizes_eq]
    exact (hperm.map _).symm
  obtain ⟨hcount, hsum⟩ := @retained_evictedFrom maxBytes maxSessions 0 0 manifests hkeys (Nat.zero_le _)
  have hkept := hsizes.filter fun entry => decide (entry.1 ∉
    (evictedFrom maxBytes maxSessions 0 0 manifests).map CacheManifest.key)
  rw [List.filter_map] at hkept
  refine ⟨?_, ?_⟩
  · rw [hkept.length_eq, List.length_map]
    exact hcount
  · rw [(hkept.map Prod.snd).sum_eq, List.map_map]
    rw [Nat.zero_add] at hsum
    exact hsum

theorem Consistent.save (h : db.Consistent) {manifest : CacheManifest} {snapshot : CacheSnapshot}
    (hkey : manifest.key = snapshot.key)
    (hsize : manifest.byteSize = byteLength snapshot.json + byteLength (manifest.previewJson.getD [])) :
    ((db.putManifest manifest).putSnapshot snapshot).Consistent := by
  refine ⟨?_, ?_, ?_⟩
  · change (db.manifests.set manifest.key manifest).keys = (db.snapshots.set snapshot.key snapshot).keys
    rw [hkey]
    exact OrderedMap.keys_set_congr h.keys
  · intro key found hfound
    change (db.manifests.set manifest.key manifest).get? key = some found at hfound
    rw [OrderedMap.get?_set] at hfound
    split at hfound
    · rename_i hsame
      cases hfound
      exact hsame.symm
    · exact h.keyed key found hfound
  · intro key found hfound
    change (db.manifests.set manifest.key manifest).get? key = some found at hfound
    change ∃ stored, (db.snapshots.set snapshot.key snapshot).get? key = some stored ∧ _
    rw [OrderedMap.get?_set] at hfound ⊢
    rw [← hkey]
    split at hfound
    · rename_i hsame
      cases hfound
      rw [if_pos hsame]
      exact ⟨snapshot, rfl, hsize⟩
    · rename_i hother
      rw [if_neg hother]
      exact h.sized key found hfound

theorem Consistent.delete (h : db.Consistent) (key : JsString) : (db.delete key).Consistent := by
  refine ⟨?_, ?_, ?_⟩
  · exact OrderedMap.keys_erase_congr h.keys key
  · intro other found hfound
    exact h.keyed other found (OrderedMap.get?_of_erase hfound).2
  · intro other found hfound
    change (db.manifests.erase key).get? other = some found at hfound
    change ∃ stored, (db.snapshots.erase key).get? other = some stored ∧ _
    rw [OrderedMap.get?_erase] at hfound ⊢
    split at hfound
    · cases hfound
    · rename_i hother
      rw [if_neg hother]
      exact h.sized other found hfound

theorem Consistent.deleteAll (h : db.Consistent) (keys : List JsString) : (keys.foldl Database.delete db).Consistent := by
  induction keys generalizing db with
  | nil => exact h
  | cons key keys ih => exact ih (h.delete key)

theorem Consistent.rewrite (h : db.Consistent) {key : JsString} {current next : CacheManifest}
    (hfound : db.manifests.get? key = some current) (hkey : next.key = current.key)
    (hsize : ∀ bytes, current.byteSize = bytes + byteLength (current.previewJson.getD []) →
      next.byteSize = bytes + byteLength (next.previewJson.getD [])) :
    (db.putManifest next).Consistent := by
  have hhere : next.key = key := hkey.trans (h.keyed key current hfound)
  refine ⟨?_, ?_, ?_⟩
  · change (db.manifests.set next.key next).keys = db.snapshots.keys
    rw [hhere, OrderedMap.keys_set_of_get? hfound, h.keys]
  · intro other found hother
    change (db.manifests.set next.key next).get? other = some found at hother
    rw [OrderedMap.get?_set] at hother
    split at hother
    · rename_i hsame
      cases hother
      exact hsame.symm
    · exact h.keyed other found hother
  · intro other found hother
    change (db.manifests.set next.key next).get? other = some found at hother
    rw [OrderedMap.get?_set] at hother
    split at hother
    · rename_i hsame
      cases hother
      obtain ⟨snapshot, hsnapshot, hbytes⟩ := h.sized key current hfound
      rw [hsame, hhere]
      exact ⟨snapshot, hsnapshot, hsize _ hbytes⟩
    · exact h.sized other found hother

theorem sizes_delete (db : Database) (key : JsString) :
    (db.delete key).sizes = db.sizes.filter fun entry => entry.1 ≠ key := by
  rw [sizes, sizes, List.filter_map]
  rfl

theorem sizes_rewrite (h : db.Consistent) {key : JsString} {current next : CacheManifest}
    (hfound : db.manifests.get? key = some current) (hkey : next.key = current.key)
    (hsize : next.byteSize = current.byteSize) : (db.putManifest next).sizes = db.sizes := by
  have hhere : next.key = key := hkey.trans (h.keyed key current hfound)
  rw [sizes, sizes, putManifest, hhere, OrderedMap.entries_set_of_get? hfound, OrderedMap.overwrite, List.map_map]
  refine List.map_congr_left fun entry hentry => ?_
  rw [Function.comp_apply]
  split
  · rename_i hsame
    have hentryFound := OrderedMap.mem_entries_iff.mp hentry
    rw [hsame, hfound] at hentryFound
    rw [hsize, hsame, Option.some.inj hentryFound]
  · rfl

theorem sizes_deleteAll (db : Database) (keys : List JsString) :
    (keys.foldl Database.delete db).sizes = db.sizes.filter fun entry => entry.1 ∉ keys := by
  induction keys generalizing db with
  | nil => exact (List.filter_eq_self.mpr (by simp)).symm
  | cons key keys ih =>
    rw [List.foldl_cons, ih, sizes_delete, List.filter_filter]
    refine List.filter_congr fun entry _ => ?_
    simp only [List.mem_cons, not_or, Bool.decide_and]
    rw [Bool.and_comm]

end Database

/-! What one transaction does. -/

section

variable {computeHash : JsString → JsString} {maxBytes maxSessions now : Nat} {db : Database}

theorem shrinkPreview_spec (state : List (JsString × Value)) (starts : List Nat) {rounds count : Nat}
    (h : count < rounds) :
    ∃ outcome, shrinkPreview computeHash state starts rounds count = some outcome ∧ ∀ preview ∈ outcome,
      (∃ start, preview.json = stringify (previewState state start)) ∧ preview.hash = computeHash preview.json ∧
      preview.bytes = byteLength preview.json ∧ byteLength preview.json ≤ MAX_PREVIEW_BYTES := by
  induction rounds generalizing count with
  | zero => omega
  | succ rounds ih =>
    rw [shrinkPreview]
    by_cases hzero : count = 0
    · rw [if_pos hzero]
      exact ⟨none, rfl, fun preview hpreview => by cases hpreview⟩
    · rw [if_neg hzero]
      dsimp only
      split
      · rename_i hfits
        refine ⟨_, rfl, fun preview hpreview => ?_⟩
        cases hpreview
        exact ⟨⟨_, rfl⟩, rfl, rfl, hfits⟩
      · exact ih (by omega)

theorem length_previewStarts_le (messages : List Value) :
    (previewStarts messages).length ≤ PREVIEW_RENDERABLE_MESSAGES := by
  rw [previewStarts]
  split
  · decide
  · rw [List.length_map, List.length_take]
    exact Nat.min_le_left _ _

theorem createPreview_spec (computeHash : JsString → JsString) (state : List (JsString × Value)) :
    ∃ outcome, createPreview computeHash state = some outcome ∧ ∀ preview ∈ outcome,
      (∃ start, preview.json = stringify (previewState state start)) ∧ preview.hash = computeHash preview.json ∧
      preview.bytes = byteLength preview.json ∧ byteLength preview.json ≤ MAX_PREVIEW_BYTES :=
  shrinkPreview_spec state _ (Nat.lt_succ_of_le (length_previewStarts_le _))

theorem bytes_of_createPreview {state : List (JsString × Value)} {preview : Preview}
    (h : (createPreview computeHash state).join = some preview) : preview.bytes = byteLength preview.json := by
  obtain ⟨outcome, houtcome, hpreview⟩ := createPreview_spec computeHash state
  rw [houtcome] at h
  exact (hpreview preview h).2.2.1

/-- What an operation holds between its transactions. -/
def Task.Ok : Task → Prop
  | .save manifest snapshot => manifest.key = snapshot.key ∧
    manifest.byteSize = byteLength snapshot.json + byteLength (manifest.previewJson.getD [])
  | .backfillPreview _ _ preview => preview.bytes = byteLength preview.json
  | _ => True

theorem byteLength_nil : byteLength [] = 0 :=
  rfl

theorem byteLength_of_absent {text : Option JsString} (h : presentText text = none) : byteLength (text.getD []) = 0 := by
  cases text with
  | none => exact byteLength_nil
  | some text =>
    cases text with
    | nil => exact byteLength_nil
    | cons u text => cases h

/-- What `load` answers and goes on with. -/
theorem finishLoad_cases (computeHash : JsString → JsString) (db : Database) (key : JsString)
    (manifest : Option CacheManifest) (snapshot : Option CacheSnapshot) :
    (finishLoad computeHash db key manifest snapshot).database = db ∧
    (∀ task ∈ (finishLoad computeHash db key manifest snapshot).tasks, task.Ok) ∧
    ∀ cached, some cached ∈ (finishLoad computeHash db key manifest snapshot).loaded →
      computeHash cached.json = cached.hash ∧ decodeSessionStateJson cached.json = .ok cached.state := by
  have hremove : ∀ task ∈ [Task.remove key], task.Ok := by
    intro task htask
    rw [List.mem_singleton.mp htask]
    trivial
  have hnone : ∀ cached, some cached ∈ [(none : Option CachedSessionState)] →
      computeHash cached.json = cached.hash ∧ decodeSessionStateJson cached.json = .ok cached.state := by
    intro cached hcached
    cases List.mem_singleton.mp hcached
  cases manifest with
  | none =>
    cases snapshot with
    | none => exact ⟨rfl, fun task htask => absurd htask List.not_mem_nil, hnone⟩
    | some snapshot => exact ⟨rfl, hremove, hnone⟩
  | some manifest =>
    cases snapshot with
    | none => exact ⟨rfl, hremove, hnone⟩
    | some snapshot =>
      rw [finishLoad]
      cases hdecode : decodeSessionStateJson snapshot.json with
      | error error => exact ⟨rfl, hremove, hnone⟩
      | ok state =>
        dsimp only
        split
        · exact ⟨rfl, hremove, hnone⟩
        · rename_i hmatches
          refine ⟨rfl, ?_, ?_⟩
          · intro task htask
            rcases List.mem_append.mp htask with hbackfill | htouch
            · split at hbackfill
              · rename_i hpreview
                rw [List.mem_singleton.mp hbackfill]
                exact bytes_of_createPreview hpreview
              · cases hbackfill
            · rw [List.mem_singleton.mp htouch]
              trivial
          · intro cached hcached
            cases List.mem_singleton.mp hcached
            exact ⟨not_not.mp (not_or.mp hmatches).1, hdecode⟩

theorem finishLoadPreview_cases (computeHash : JsString → JsString) (db : Database) (key : JsString)
    (manifest : Option CacheManifest) :
    (finishLoadPreview computeHash db key manifest).database = db ∧
    (∀ task ∈ (finishLoadPreview computeHash db key manifest).tasks, task.Ok) ∧
    (finishLoadPreview computeHash db key manifest).loaded = [] := by
  have hnone : ∀ task ∈ ([] : List Task), task.Ok := fun task htask => absurd htask List.not_mem_nil
  rw [finishLoadPreview.eq_def]
  dsimp only
  split
  · exact ⟨rfl, hnone, rfl⟩
  split
  · split
    · exact ⟨rfl, hnone, rfl⟩
    split
    · exact ⟨rfl, hnone, rfl⟩
    · refine ⟨rfl, ?_, rfl⟩
      intro task htask
      rw [List.mem_singleton.mp htask]
      trivial
  · exact ⟨rfl, hnone, rfl⟩

theorem commit_consistent (h : db.Consistent) {task : Task} (htask : task.Ok) :
    (task.commit computeHash maxBytes maxSessions db now).database.Consistent := by
  cases task with
  | save manifest snapshot => exact h.save htask.1 htask.2
  | load key =>
    rw [Task.commit, (finishLoad_cases _ _ _ _ _).1]
    exact h
  | loadPreview key =>
    rw [Task.commit, (finishLoadPreview_cases _ _ _ _).1]
    exact h
  | remove key => exact h.delete key
  | backfillPreview key snapshotHash preview =>
    rw [Task.commit]
    dsimp only
    split
    · exact h
    · rename_i current hfound
      split
      · rename_i hsame
        refine h.rewrite hfound rfl fun bytes hbytes => ?_
        have habsent := byteLength_of_absent hsame.2
        have hpreview : preview.bytes = byteLength preview.json := htask
        change current.byteSize + preview.bytes = bytes + byteLength preview.json
        omega
      · exact h
  | touch key =>
    rw [Task.commit]
    dsimp only
    split
    · exact h
    · rename_i manifest hfound
      exact h.rewrite hfound rfl fun bytes hbytes => hbytes
  | prune => exact h
  | evict keys => exact h.deleteAll keys

theorem commit_sizes (h : db.Consistent) (task : Task) :
    .prune ∈ (task.commit computeHash maxBytes maxSessions db now).tasks ∨
      (task.commit computeHash maxBytes maxSessions db now).database.sizes.Sublist db.sizes := by
  cases task with
  | save manifest snapshot => exact .inl (List.mem_singleton.mpr rfl)
  | load key =>
    rw [Task.commit, (finishLoad_cases _ _ _ _ _).1]
    exact .inr (List.Sublist.refl _)
  | loadPreview key =>
    rw [Task.commit, (finishLoadPreview_cases _ _ _ _).1]
    exact .inr (List.Sublist.refl _)
  | remove key =>
    right
    rw [Task.commit, Database.sizes_delete]
    exact List.filter_sublist
  | backfillPreview key snapshotHash preview => exact .inl (List.mem_singleton.mpr rfl)
  | touch key =>
    right
    rw [Task.commit]
    dsimp only
    split
    · exact List.Sublist.refl _
    · rename_i manifest hfound
      have hsame := @Database.sizes_rewrite db h key manifest { manifest with lastAccessedAt := now } hfound rfl rfl
      rw [hsame]
  | prune => exact .inr (List.Sublist.refl _)
  | evict keys =>
    right
    rw [Task.commit, Database.sizes_deleteAll]
    exact List.filter_sublist

theorem commit_tasks_ok (task : Task) :
    ∀ next ∈ (task.commit computeHash maxBytes maxSessions db now).tasks, next.Ok := by
  cases task with
  | load key => exact (finishLoad_cases _ _ _ _ _).2.1
  | loadPreview key => exact (finishLoadPreview_cases _ _ _ _).2.1
  | prune =>
    intro next hnext
    rw [Task.commit] at hnext
    dsimp only at hnext
    split at hnext
    · cases hnext
    · rw [List.mem_singleton.mp hnext]
      trivial
  | save | backfillPreview =>
    intro next hnext
    rw [List.mem_singleton.mp hnext]
    trivial
  | remove | touch | evict =>
    intro next hnext
    cases hnext

theorem commit_loaded (task : Task) (cached : CachedSessionState)
    (h : some cached ∈ (task.commit computeHash maxBytes maxSessions db now).loaded) :
    computeHash cached.json = cached.hash ∧ decodeSessionStateJson cached.json = .ok cached.state := by
  cases task with
  | load key => exact (finishLoad_cases _ _ _ _ _).2.2 cached h
  | loadPreview key =>
    rw [Task.commit, (finishLoadPreview_cases _ _ _ _).2.2] at h
    cases h
  | save | remove | backfillPreview | touch | prune | evict => cases h

theorem begin_ok (computeHash : JsString → JsString) (now : Nat) (request : Request) :
    ∀ task ∈ request.begin computeHash now, task.Ok := by
  cases request with
  | save backendId sessionPath json hash messageHashes =>
    intro task htask
    rw [Request.begin, beginSave] at htask
    split at htask
    · cases htask
    · rename_i state hdecode
      rw [List.mem_singleton.mp htask]
      refine ⟨rfl, ?_⟩
      dsimp only
      cases hpreview : (createPreview computeHash state).join with
      | none => rfl
      | some preview =>
        have hbytes := bytes_of_createPreview hpreview
        change byteLength json + preview.bytes = byteLength json + byteLength preview.json
        rw [hbytes]
  | load | loadPreview | remove =>
    intro task htask
    rw [List.mem_singleton.mp htask]
    trivial

end

/-! Runs. -/

/-- Either something is still going to look at the sizes, or what something is going to evict leaves the rest within
    the limits. -/
def Bounded (maxBytes maxSessions : Nat) (sizes : List (JsString × Nat)) (tasks : List Task) : Prop :=
  .prune ∈ tasks ∨
    ∃ evicted, (evicted = [] ∨ .evict evicted ∈ tasks) ∧ Within maxBytes maxSessions sizes evicted

theorem mem_eraseIdx_of_ne {tasks : List Task} {index : Nat} {task other : Task}
    (htask : tasks[index]? = some task) (hother : other ∈ tasks) (hne : other ≠ task) : other ∈ tasks.eraseIdx index := by
  obtain ⟨place, hplace⟩ := List.mem_iff_getElem?.mp hother
  refine List.mem_eraseIdx_iff_getElem?.mpr ⟨place, ?_, hplace⟩
  rintro rfl
  exact hne (Option.some.inj (hplace.symm.trans htask))

namespace IndexedDbSessionStateCache

variable {computeHash : JsString → JsString} {maxBytes maxSessions : Nat}

/-- What holds of the cache whatever operations are in progress. -/
structure Ok (computeHash : JsString → JsString) (maxBytes maxSessions : Nat) (cache : IndexedDbSessionStateCache) :
    Prop where
  consistent : cache.database.Consistent
  tasks : ∀ task ∈ cache.tasks, task.Ok
  bounded : Bounded maxBytes maxSessions cache.database.sizes cache.tasks
  loaded : ∀ cached, some cached ∈ cache.loaded →
    computeHash cached.json = cached.hash ∧ decodeSessionStateJson cached.json = .ok cached.state

theorem Ok.fresh : Ok computeHash maxBytes maxSessions fresh where
  consistent := .empty
  tasks := fun _ htask => absurd htask List.not_mem_nil
  bounded := .inr ⟨[], .inl rfl, ⟨Nat.zero_le _, Nat.zero_le _⟩⟩
  loaded := fun _ hcached => absurd hcached List.not_mem_nil

theorem Ok.bounded_commit {cache : IndexedDbSessionStateCache} (h : Ok computeHash maxBytes maxSessions cache)
    {index : Nat} {task : Task} (htask : cache.tasks[index]? = some task) (now : Nat) :
    Bounded maxBytes maxSessions (task.commit computeHash maxBytes maxSessions cache.database now).database.sizes
      (cache.tasks.eraseIdx index ++ (task.commit computeHash maxBytes maxSessions cache.database now).tasks) := by
  by_cases hprune : task = .prune
  · subst hprune
    refine .inr ⟨_, ?_, h.consistent.within_evicted maxBytes maxSessions⟩
    rw [Task.commit]
    dsimp only
    split
    · rename_i hnothing
      exact .inl hnothing
    · exact .inr (List.mem_append_right _ (List.mem_singleton.mpr rfl))
  obtain hnew | hfewer := @commit_sizes computeHash maxBytes maxSessions now _ h.consistent task
  · exact .inl (List.mem_append_right _ hnew)
  obtain hwaiting | ⟨evicted, hevicted, hwithin⟩ := h.bounded
  · exact .inl (List.mem_append_left _ (mem_eraseIdx_of_ne htask hwaiting (Ne.symm hprune)))
  · right
    by_cases hhere : task = .evict evicted
    · subst hhere
      refine ⟨[], .inl rfl, hwithin.evict ?_⟩
      rw [Task.commit, Database.sizes_deleteAll]
    · refine ⟨evicted, ?_, hwithin.sublist hfewer⟩
      rcases hevicted with hnothing | hwaiting
      · exact .inl hnothing
      · exact .inr (List.mem_append_left _ (mem_eraseIdx_of_ne htask hwaiting (Ne.symm hhere)))

theorem Ok.react {cache : IndexedDbSessionStateCache} (h : Ok computeHash maxBytes maxSessions cache) (event : Event) :
    Ok computeHash maxBytes maxSessions (cache.react computeHash maxBytes maxSessions event) := by
  cases event with
  | requested request now =>
    refine ⟨h.consistent, ?_, ?_, h.loaded⟩
    · intro task htask
      rcases List.mem_append.mp htask with hold | hnew
      · exact h.tasks task hold
      · exact begin_ok computeHash now request task hnew
    · obtain hwaiting | ⟨evicted, hevicted, hwithin⟩ := h.bounded
      · exact .inl (List.mem_append_left _ hwaiting)
      · exact .inr ⟨evicted, hevicted.imp_right (List.mem_append_left _), hwithin⟩
  | committed index now =>
    rw [IndexedDbSessionStateCache.react]
    cases htask : cache.tasks[index]? with
    | none => exact h
    | some task =>
      refine ⟨commit_consistent h.consistent (h.tasks task (List.mem_of_getElem? htask)), ?_,
        h.bounded_commit htask now, ?_⟩
      · intro other hother
        rcases List.mem_append.mp hother with hold | hnew
        · exact h.tasks other (List.mem_of_mem_eraseIdx hold)
        · exact commit_tasks_ok task other hnew
      · intro cached hcached
        rcases List.mem_append.mp hcached with hold | hnew
        · exact h.loaded cached hold
        · exact commit_loaded task cached hnew

theorem Ok.reached (events : List Event) :
    Ok computeHash maxBytes maxSessions (reached computeHash maxBytes maxSessions events) := by
  induction events using List.reverseRecOn with
  | nil => exact .fresh
  | append_singleton events event ih =>
    rw [IndexedDbSessionStateCache.reached, transition.run_snoc]
    exact ih.react event

end IndexedDbSessionStateCache

end pipane.session_state_cache

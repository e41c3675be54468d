import Pipane.Server.LocalBackendApi.Uploads.Wiring

open javascript json posix_path file_store

namespace pipane.local_backend_api

open LocalBackendApi

/-! Every step keeps the wiring. -/

theorem ok_of_readMetadata {value : Value} {metadata : FileUploadMetadata} (h : readMetadata value = .ok metadata)
    (hapart : Apart (safeUploadFileName metadata.fileName)) : metadata.Ok := by
  rw [readMetadata] at h
  split at h
  · split at h
    · cases h
    split at h
    · split at h
      · cases h
      rename_i htype
      split at h
      · rename_i size hsize
        split at h
        · rename_i hbounds
          cases h
          exact ⟨fun hnil => htype (.inl hnil), by dsimp only; omega, hapart⟩
        · cases h
      · cases h
    · cases h
  · cases h

theorem uploadId_ne_nil {uploadId : JsString} (h : isUploadId uploadId = true) : uploadId ≠ [] := by
  rintro rfl
  exact absurd h (by decide)

theorem safeUploadFileName_ne_nil (fileName : JsString) : safeUploadFileName fileName ≠ [] := by
  rcases safeUploadFileName_cases fileName with heq | ⟨heq, -, hstem, hspecial⟩ | ⟨kept, -, -, heq, -⟩
  · rw [heq]
    decide
  · rw [heq]
    intro hnil
    have hbase := eq_of_keptStem hnil (by decide +kernel)
    rw [← hstem, hbase] at hspecial
    exact hspecial (by decide)
  · rw [heq]
    exact List.append_ne_nil_of_right_ne_nil _ (List.cons_ne_nil _ _)

theorem normalize_ne_nil (path : JsString) : normalize path ≠ [] := by
  rw [posix_path.normalize]
  split
  · exact List.cons_ne_nil _ _
  split
  · split
    · exact List.cons_ne_nil _ _
    · exact List.append_ne_nil_of_left_ne_nil (absolute_ne_nil _) _
  · apply List.append_ne_nil_of_left_ne_nil
    split
    · exact List.cons_ne_nil _ _
    · assumption

theorem join_ne_nil (paths : List JsString) : join paths ≠ [] := by
  rw [join]
  split
  · exact List.cons_ne_nil _ _
  · exact normalize_ne_nil _

theorem valid_newUpload (uploadDirectory : Names) {creation : Creation} (h : creation.Ok) :
    (activeUploadManifest (newUpload uploadDirectory creation)).Valid where
  uploadId := uploadId_ne_nil h.uploadId
  fileName := safeUploadFileName_ne_nil _
  mimeType := h.metadata.mimeType
  path := join_ne_nil _
  size := h.metadata.size.trans (by decide)
  createdAt := h.now
  updatedAt := h.now
  digest := fun digest hdigest => by cases hdigest

namespace Owned

variable {store : Store} {file : FileRef} {directory name : JsString}

theorem link (h : Owned store file directory name) {directory' name' : JsString}
    {entries : OrderedMap JsString FileRef} (hentries : store.directories.get? directory' = some entries)
    (content : List UInt8) : Owned (store.link directory' name' entries content) file directory name := by
  refine h.of_fewer (Nat.le_succ _) fun d n f hentry => ?_
  rw [Store.lookup?_link hentries] at hentry
  split at hentry
  · exact .inr (Option.some.inj hentry).symm
  · exact .inl hentry

theorem makeDirectory (h : Owned store file directory name) {directory' : JsString}
    (hnew : store.directories.get? directory' = none) : Owned (store.makeDirectory directory') file directory name := by
  refine h.of_fewer le_rfl fun d n f hentry => ?_
  rw [Store.lookup?_makeDirectory hnew] at hentry
  exact .inl hentry

theorem update (h : Owned store file directory name) (file' : FileRef) (change : List UInt8 → List UInt8) :
    Owned (store.update file' change) file directory name := by
  refine h.of_fewer (Nat.le_of_eq (Store.allocated_update _ _).symm) fun d n f hentry => ?_
  rw [Store.lookup?_update] at hentry
  exact .inl hentry

theorem unlink (h : Owned store file directory name) (directory' name' : JsString) :
    Owned (store.unlink directory' name') file directory name := by
  refine h.of_fewer (Nat.le_of_eq Store.allocated_unlink.symm) fun d n f hentry => ?_
  rw [Store.lookup?_unlink] at hentry
  split at hentry
  · cases hentry
  · exact .inl hentry

theorem remove (h : Owned store file directory name) (directory' : JsString) :
    Owned (store.remove directory') file directory name := by
  refine h.of_fewer le_rfl fun d n f hentry => ?_
  rw [Store.lookup?_remove] at hentry
  split at hentry
  · cases hentry
  · exact .inl hentry

theorem of_lookup? (h : Sound store) (hentry : store.lookup? directory name = some file) : Owned store file directory name :=
  ⟨h.fresh _ _ _ hentry, fun _ _ hentry' => h.unique _ _ _ _ _ hentry' hentry⟩

end Owned

namespace Wired

variable {api : LocalBackendApi} {uploadDirectory : Names} {surroundings : Surroundings}

theorem unlink_store (h : Wired api) (directory name : JsString) :
    Wired { api with store := api.store.unlink directory name } := by
  refine h.setStore h.sound.unlink (fun _ _ _ howned => howned.unlink _ _) fun ref call uploadId hcall hcreated => ?_
  rw [Store.lookup?_unlink]
  split
  · rfl
  · exact (h.stage ref call hcall).noManifest uploadId hcreated

theorem remove_store (h : Wired api) (directory : JsString) :
    Wired { api with store := api.store.remove directory } := by
  refine h.setStore h.sound.remove (fun _ _ _ howned => howned.remove _) fun ref call uploadId hcall hcreated => ?_
  rw [Store.lookup?_remove]
  split
  · rfl
  · exact (h.stage ref call hcall).noManifest uploadId hcreated

theorem update_store (h : Wired api) (file : FileRef) (change : List UInt8 → List UInt8) :
    Wired { api with store := api.store.update file change } := by
  refine h.setStore (h.sound.update _ _) (fun _ _ _ howned => howned.update _ _) fun ref call uploadId hcall hcreated => ?_
  rw [Store.lookup?_update]
  exact (h.stage ref call hcall).noManifest uploadId hcreated

theorem makeDirectory_store (h : Wired api) {directory : JsString} (hnew : api.store.directories.get? directory = none) :
    Wired { api with store := api.store.makeDirectory directory } := by
  refine h.setStore (h.sound.makeDirectory hnew) (fun _ _ _ howned => howned.makeDirectory hnew)
    fun ref call uploadId hcall hcreated => ?_
  rw [Store.lookup?_makeDirectory hnew]
  exact (h.stage ref call hcall).noManifest uploadId hcreated

theorem link_store (h : Wired api) {directory name : JsString} {entries : OrderedMap JsString FileRef}
    (hentries : api.store.directories.get? directory = some entries) (content : List UInt8)
    (hname : ∀ ref call uploadId, api.calls.get? ref = some call → call.stage.created? = some uploadId →
      directoryName uploadId = directory → name ≠ UPLOAD_MANIFEST_FILE) :
    Wired { api with store := api.store.link directory name entries content } := by
  refine h.setStore (h.sound.link hentries content) (fun _ _ _ howned => howned.link hentries content)
    fun ref call uploadId hcall hcreated => ?_
  rw [Store.lookup?_link hentries, if_neg]
  · exact (h.stage ref call hcall).noManifest uploadId hcreated
  · rintro ⟨hdirectory, hsame⟩
    exact hname ref call uploadId hcall hcreated hdirectory hsame.symm

theorem writeUploadManifest (h : Wired api) {manifest : StoredUploadManifest} {api' : LocalBackendApi}
    (hwrite : api.writeUploadManifest surroundings manifest = some api')
    (hfree : ∀ ref call, api.calls.get? ref = some call → call.stage.created? ≠ some manifest.uploadId) :
    Wired api' := by
  rw [LocalBackendApi.writeUploadManifest] at hwrite
  split at hwrite
  · cases hwrite
  obtain ⟨store, hstore, rfl⟩ := Option.map_eq_some_iff.mp hwrite
  obtain ⟨entries, hentries, rfl⟩ := Option.map_eq_some_iff.mp hstore
  refine h.link_store hentries _ fun ref call uploadId hcall hcreated hdirectory => ?_
  rw [directoryName_injective hdirectory] at hcreated
  exact absurd hcreated (hfree ref call hcall)

theorem created?_ne (h : Wired api) {uploadId : JsString} {upload : ActiveFileUpload}
    (hupload : api.objects.get? uploadId = some upload) (ref : CallRef) (call : Call)
    (hcall : api.calls.get? ref = some call) : call.stage.created? ≠ some uploadId := by
  intro hcreated
  rw [(h.stage ref call hcall).unknown uploadId hcreated] at hupload
  cases hupload

theorem allocate (h : Wired api) : Wired { api with allocated := api.allocated + 1 } :=
  h.congr rfl rfl rfl rfl rfl rfl (Nat.le_succ _)

theorem setStage (h : Wired api) {ref : CallRef} {stage : Stage} (href : ref < api.allocated)
    (hstage : StageOk api ref stage ∧ Clear api ref stage)
    (hfile : ∀ creation file, stage = .truncating creation file →
      Owned api.store file (directoryName creation.uploadId) creation.fileName) : Wired (api.setStage ref stage) := by
  refine h.setCall href hstage.1 hstage.2 fun creation file hopen => ?_
  cases stage with
  | truncating creation' file' =>
    cases hopen
    exact hfile _ _ rfl
  | _ => cases hopen

theorem setStage_harmless (h : Wired api) {ref : CallRef} {stage : Stage} (href : ref < api.allocated) (hok : stage.Ok)
    (htarget : stage.target? = none) : Wired (api.setStage ref stage) := by
  refine h.setStage href (stageOk_of_target?_none ref hok htarget) fun creation file heq => ?_
  rw [heq] at htarget
  cases htarget

theorem setStage_same (h : Wired api) {ref : CallRef} {call : Call} {stage : Stage}
    (hcall : api.calls.get? ref = some call) (hok : stage.Ok) (hcreated : stage.created? = call.stage.created?)
    (haborted : stage.aborted? = call.stage.aborted?)
    (hfile : ∀ creation file, stage = .truncating creation file →
      Owned api.store file (directoryName creation.uploadId) creation.fileName) : Wired (api.setStage ref stage) :=
  h.setStage (h.callRef ref call hcall)
    (stageOk_of_same ⟨h.stage ref call hcall, h.clear_of_call hcall⟩ hok hcreated haborted) hfile

theorem discard (h : Wired api) {ref : CallRef} {call : Call} {creation : Creation}
    (hcall : api.calls.get? ref = some call) (hcreated : call.stage.created? = some creation.uploadId)
    (haborted : call.stage.aborted? = none) : Wired (api.discard ref creation) :=
  h.setStage_same hcall trivial hcreated.symm haborted.symm fun _ _ heq => by cases heq

/-! `abortFileUpload` and `cleanupUploads` -/

theorem stageOk_aborting (ref : CallRef) {stage : Stage} (hok : stage.Ok) (hcreated : stage.created? = none)
    (htaken : ∀ uploadId, stage.aborted? = some uploadId → uploadId ∉ api.uploads ∧
      ∀ ref' call', api.calls.get? ref' = some call' → call'.stage.created? ≠ some uploadId) :
    StageOk api ref stage ∧ Clear api ref stage := by
  refine ⟨⟨hok, ?_, ?_, ?_, ?_, fun uploadId haborted => (htaken uploadId haborted).1⟩, ?_⟩
  · intro uploadId hsome
    rw [hcreated] at hsome
    cases hsome
  · intro uploadId hsome
    rw [hcreated] at hsome
    cases hsome
  · intro uploadId hsome
    rw [hcreated] at hsome
    cases hsome
  · intro uploadId hsome
    rw [hcreated] at hsome
    cases hsome
  · intro uploadId htarget ref' call' _ hcall'
    rcases Stage.target?_cases htarget with hsome | haborted
    · rw [hcreated] at hsome
      cases hsome
    · exact (htaken uploadId haborted).2 ref' call' hcall'

theorem readManifest_some {directory : JsString} {manifest : StoredUploadManifest}
    (h : api.readManifest surroundings directory = some manifest) :
    ∃ file content, api.store.lookup? directory UPLOAD_MANIFEST_FILE = some file ∧
      api.store.contents.get? file = some content ∧ readUploadManifest content = some manifest := by
  rw [LocalBackendApi.readManifest] at h
  split at h
  · cases h
  obtain ⟨content, hread, hmanifest⟩ := Option.bind_eq_some_iff.mp h
  obtain ⟨file, hentry, hcontent⟩ := Option.bind_eq_some_iff.mp hread
  exact ⟨file, content, hentry, hcontent, hmanifest⟩

theorem created?_ne_of_readManifest (h : Wired api) {uploadId : JsString} {manifest : StoredUploadManifest}
    (hread : api.readManifest surroundings (directoryName uploadId) = some manifest) (ref : CallRef) (call : Call)
    (hcall : api.calls.get? ref = some call) : call.stage.created? ≠ some uploadId := by
  intro hcreated
  obtain ⟨file, content, hentry, -⟩ := readManifest_some hread
  rw [(h.stage ref call hcall).noManifest uploadId hcreated] at hentry
  cases hentry

theorem readStoredUpload_some {uploadId : JsString} {manifest : StoredUploadManifest}
    (h : api.readStoredUpload uploadDirectory surroundings uploadId = some manifest) :
    isUploadId uploadId = true ∧ api.readManifest surroundings (directoryName uploadId) = some manifest ∧
      manifest.uploadId = uploadId ∧ dirname manifest.path = uploadDirectoryPath (absolute uploadDirectory) uploadId := by
  rw [LocalBackendApi.readStoredUpload] at h
  split at h
  · rename_i hid
    obtain ⟨hread, hmatch⟩ := Option.filter_eq_some_iff.mp h
    rw [Bool.and_eq_true, decide_eq_true_eq, decide_eq_true_eq] at hmatch
    exact ⟨hid, hread, hmatch.1, hmatch.2⟩
  · cases h

/-- An abort takes the upload, so that it is not registered any more, and no create has it for itself. -/
theorem startAbort (h : Wired api) (uploadId : JsString) :
    Wired (api.startAbort uploadDirectory surroundings uploadId).1 ∧
      ∀ other, (api.startAbort uploadDirectory surroundings uploadId).2.target? = some other →
        other ∉ (api.startAbort uploadDirectory surroundings uploadId).1.uploads ∧
          ∀ ref call, (api.startAbort uploadDirectory surroundings uploadId).1.calls.get? ref = some call →
            call.stage.created? ≠ some other := by
  rw [LocalBackendApi.startAbort]
  split
  · rename_i upload hget
    obtain ⟨hmem, hupload⟩ := object_of_get? hget
    refine ⟨h.unregister uploadId, fun other htarget => ?_⟩
    cases htarget
    exact ⟨h.nodup.not_mem_erase, h.created?_ne hupload⟩
  · rename_i hget
    split
    · rename_i manifest hread
      refine ⟨h, fun other htarget => ?_⟩
      dsimp only at htarget
      split at htarget
      · cases htarget
        refine ⟨fun hmem => ?_, h.created?_ne_of_readManifest (readStoredUpload_some hread).2.1⟩
        obtain ⟨upload, hupload⟩ := h.registered uploadId hmem
        rw [LocalBackendApi.get?, if_pos hmem, hupload] at hget
        cases hget
      · cases htarget
    · exact ⟨h, fun other htarget => by cases htarget⟩

end Wired

/-! The loops of a cleanup over the directories. -/

/-- Why a cleanup that began at `now` removes a directory. -/
def Removable (surroundings : Surroundings) (now : Nat) (api api' : LocalBackendApi) (directory : JsString) : Prop :=
  isStale now (api.readManifest surroundings directory) = true ∨
    ∃ manifest, api.readManifest surroundings directory = some manifest ∧ isExpired surroundings now manifest = true ∧
      (manifest, now) ∈ api'.expired

/-- What the loops may do: they remove directories, each for a reason, and nothing else. -/
structure Swept (surroundings : Surroundings) (now : Nat) (api api' : LocalBackendApi) : Prop where
  uploads : api'.uploads = api.uploads
  objects : api'.objects = api.objects
  calls : api'.calls = api.calls
  writes : api'.writes = api.writes
  answers : api'.answers = api.answers
  drawn : api'.drawn = api.drawn
  allocated : api'.allocated = api.allocated
  contents : api'.store.contents = api.store.contents
  files : api'.store.allocated = api.store.allocated
  expired : api.expired ⊆ api'.expired
  entries : ∀ directory name file, api'.store.lookup? directory name = some file →
    api.store.lookup? directory name = some file
  absent : ∀ directory, api.store.directories.get? directory = none → api'.store.directories.get? directory = none
  reason : ∀ directory, api'.store.directories.get? directory = api.store.directories.get? directory ∨
    Removable surroundings now api api' directory

namespace Swept

variable {surroundings : Surroundings} {now : Nat} {api api' api'' : LocalBackendApi}

theorem refl (surroundings : Surroundings) (now : Nat) (api : LocalBackendApi) : Swept surroundings now api api :=
  ⟨rfl, rfl, rfl, rfl, rfl, rfl, rfl, rfl, rfl, List.Subset.refl _, fun _ _ _ hentry => hentry, fun _ h => h,
    fun _ => .inl rfl⟩

theorem readManifest_eq {directory : JsString} (hcontents : api'.store.contents = api.store.contents)
    (hdirectory : api'.store.directories.get? directory = api.store.directories.get? directory) :
    api'.readManifest surroundings directory = api.readManifest surroundings directory := by
  rw [LocalBackendApi.readManifest, LocalBackendApi.readManifest, Store.read?, Store.read?, Store.lookup?, Store.lookup?,
    hcontents, hdirectory]

theorem trans (h : Swept surroundings now api api') (h' : Swept surroundings now api' api'') :
    Swept surroundings now api api'' := by
  refine ⟨h'.uploads.trans h.uploads, h'.objects.trans h.objects, h'.calls.trans h.calls, h'.writes.trans h.writes,
    h'.answers.trans h.answers, h'.drawn.trans h.drawn, h'.allocated.trans h.allocated, h'.contents.trans h.contents,
    h'.files.trans h.files, fun entry hentry => h'.expired (h.expired hentry),
    fun directory name file hentry => h.entries _ _ _ (h'.entries _ _ _ hentry),
    fun directory hnone => h'.absent directory (h.absent directory hnone), fun directory => ?_⟩
  rcases h.reason directory with hsame | hstale | ⟨manifest, hread, hexpired, hmem⟩
  · rcases h'.reason directory with hsame' | hreason'
    · exact .inl (hsame'.trans hsame)
    · right
      rw [Removable, readManifest_eq h.contents hsame] at hreason'
      exact hreason'
  · exact .inr (.inl hstale)
  · exact .inr (.inr ⟨manifest, hread, hexpired, h'.expired hmem⟩)

theorem noted (lastUploadCleanupAt : Nat) (expired : List (StoredUploadManifest × Nat)) :
    Swept surroundings now api
      { api with lastUploadCleanupAt := lastUploadCleanupAt, expired := api.expired ++ expired } :=
  ⟨rfl, rfl, rfl, rfl, rfl, rfl, rfl, rfl, rfl, List.subset_append_left _ _, fun _ _ _ hentry => hentry,
    fun _ h => h, fun _ => .inl rfl⟩

theorem foldl_unlink (store : Store) (directory : JsString) (names : List JsString) :
    let store' := names.foldl (fun store name => store.unlink directory name) store
    store'.contents = store.contents ∧ store'.allocated = store.allocated ∧
      (∀ d n f, store'.lookup? d n = some f → store.lookup? d n = some f) ∧
        (∀ d, store.directories.get? d = none → store'.directories.get? d = none) ∧
          ∀ d, d ≠ directory → store'.directories.get? d = store.directories.get? d := by
  induction names generalizing store with
  | nil => exact ⟨rfl, rfl, fun _ _ _ h => h, fun _ h => h, fun _ _ => rfl⟩
  | cons name names ih =>
    obtain ⟨hcontents, hallocated, hentries, habsent, hdirectories⟩ := ih (store.unlink directory name)
    rw [Store.contents_unlink] at hcontents
    rw [Store.allocated_unlink] at hallocated
    refine ⟨hcontents, hallocated, fun d n f hentry => ?_, fun d hnone => habsent d ?_, fun d hne => ?_⟩
    · have hunlinked := hentries d n f hentry
      rw [Store.lookup?_unlink] at hunlinked
      split at hunlinked
      · cases hunlinked
      · exact hunlinked
    · have hkeep := @Store.hasDirectory_unlink store directory name d
      rw [Store.hasDirectory, Store.hasDirectory, OrderedMap.contains, OrderedMap.contains, hnone] at hkeep
      exact Option.not_isSome_iff_eq_none.mp (by rw [hkeep]; exact Bool.false_ne_true)
    · refine (hdirectories d hne).trans ?_
      rw [Store.unlink]
      split
      · rfl
      · exact OrderedMap.get?_set_ne hne _

theorem rmSync {directory : JsString} (hreason : Removable surroundings now api api directory) :
    Swept surroundings now api (api.rmSync surroundings directory).1 := by
  rw [LocalBackendApi.rmSync]
  split
  · refine ⟨rfl, rfl, rfl, rfl, rfl, rfl, rfl, rfl, rfl, List.Subset.refl _, ?_, ?_, ?_⟩
    · intro d n f hentry
      rw [Store.lookup?_remove] at hentry
      split at hentry
      · cases hentry
      · exact hentry
    · intro d hnone
      rw [Store.remove, OrderedMap.get?_erase, hnone, ite_self]
    · intro d
      by_cases hsame : d = directory
      · rw [hsame]
        exact .inr hreason
      · exact .inl (OrderedMap.get?_erase_ne hsame)
  · rename_i names hnames
    obtain ⟨hcontents, hallocated, hentries, habsent, hdirectories⟩ := foldl_unlink api.store directory names
    refine ⟨rfl, rfl, rfl, rfl, rfl, rfl, rfl, hcontents, hallocated, List.Subset.refl _, hentries, habsent, fun d => ?_⟩
    by_cases hsame : d = directory
    · rw [hsame]
      exact .inr hreason
    · exact .inl (hdirectories d hsame)

theorem removeStale (directories : List JsString) (api : LocalBackendApi) :
    Swept surroundings now api (LocalBackendApi.removeStale surroundings now directories api).1 := by
  induction directories generalizing api with
  | nil => exact refl surroundings now api
  | cons directory rest ih =>
    rw [LocalBackendApi.removeStale]
    split
    · rename_i hstale
      have hswept := @rmSync surroundings now api _ (.inl hstale)
      split
      · rename_i api' hremoved
        rw [hremoved] at hswept
        exact hswept
      · rename_i api' hremoved
        rw [hremoved] at hswept
        exact hswept.trans (ih api')
    · exact ih api

theorem pruneCompletedUploads (directories : List JsString) (api : LocalBackendApi) :
    Swept surroundings now api (LocalBackendApi.pruneCompletedUploads surroundings now directories api).1 := by
  induction directories generalizing api with
  | nil => exact refl surroundings now api
  | cons directory rest ih =>
    rw [LocalBackendApi.pruneCompletedUploads]
    split
    · exact ih api
    · rename_i manifest hfilter
      obtain ⟨hread, hexpired⟩ := Option.filter_eq_some_iff.mp hfilter
      have hswept := (@noted surroundings now api api.lastUploadCleanupAt [(manifest, now)]).trans (rmSync (.inr ⟨manifest, hread, hexpired,
          List.mem_append_right _ (List.mem_singleton_self _)⟩))
      split
      · rename_i api' hremoved
        rw [hremoved] at hswept
        exact hswept
      · rename_i api' hremoved
        rw [hremoved] at hswept
        exact hswept.trans (ih api')

theorem cleanDirectories (api : LocalBackendApi) :
    Swept surroundings now api (api.cleanDirectories surroundings now).1 := by
  rw [LocalBackendApi.cleanDirectories]
  have hremoved := @removeStale surroundings now (api.uploadDirectories surroundings) api
  split
  · rename_i api' heq
    rw [heq] at hremoved
    exact hremoved
  · rename_i api' heq
    rw [heq] at hremoved
    have hnoted := @noted surroundings now api' now []
    rw [List.append_nil] at hnoted
    exact (hremoved.trans hnoted).trans (pruneCompletedUploads _ _)

end Swept

namespace Wired

variable {api api' : LocalBackendApi} {uploadDirectory : Names} {surroundings : Surroundings} {now : Nat}

theorem swept (h : Wired api) (hswept : Swept surroundings now api api') : Wired api' := by
  refine @Wired.congr { api with store := api'.store } api' ?_ rfl hswept.uploads hswept.objects hswept.calls
    hswept.writes hswept.drawn (Nat.le_of_eq hswept.allocated.symm)
  refine h.setStore (h.sound.of_fewer hswept.contents hswept.files hswept.entries) ?_ ?_
  · intro file directory name howned
    exact howned.of_fewer (Nat.le_of_eq hswept.files.symm) fun d n f hentry => .inl (hswept.entries _ _ _ hentry)
  · intro ref call uploadId hcall hcreated
    rw [Option.eq_none_iff_forall_ne_some]
    intro file hentry
    have hbefore := hswept.entries _ _ _ hentry
    rw [(h.stage ref call hcall).noManifest uploadId hcreated] at hbefore
    cases hbefore

theorem finishCleanup (h : Wired api) {ref : CallRef} {metadata : FileUploadMetadata} (href : ref < api.allocated)
    (hok : metadata.Ok) : Wired (api.finishCleanup surroundings ref metadata now) := by
  rw [LocalBackendApi.finishCleanup]
  split
  · exact h.setStage_harmless href hok rfl
  · have hswept := @Swept.cleanDirectories surroundings now api
    have hwired := h.swept hswept
    split
    · rename_i api' heq
      rw [heq] at hwired
      exact hwired.answer ref _
    · rename_i api' heq
      rw [heq] at hwired hswept
      refine hwired.setStage_harmless ?_ hok rfl
      rw [hswept.allocated]
      exact href

theorem allocated_startAbort (uploadId : JsString) :
    (api.startAbort uploadDirectory surroundings uploadId).1.allocated = api.allocated := by
  rw [LocalBackendApi.startAbort]
  split
  · rfl
  · split <;> rfl

theorem cleanupUploads (h : Wired api) {ref : CallRef} {metadata : FileUploadMetadata} (href : ref < api.allocated)
    (hok : metadata.Ok) (rest : List JsString) :
    Wired (LocalBackendApi.cleanupUploads uploadDirectory surroundings ref metadata now rest api) := by
  induction rest with
  | nil => exact h.finishCleanup href hok
  | cons uploadId rest ih =>
    rw [LocalBackendApi.cleanupUploads]
    split
    · exact ih
    · split
      · exact ih
      · obtain ⟨hwired, htaken⟩ := @startAbort api uploadDirectory surroundings h uploadId
        refine hwired.setStage ?_ (stageOk_aborting ref hok rfl htaken) fun _ _ heq => by cases heq
        rw [allocated_startAbort]
        exact href

/-! `appendFileUpload` and `completeFileUpload` -/

theorem activeManifest_valid {upload : ActiveFileUpload} {updatedAt : Nat} (h : (activeUploadManifest upload).Valid)
    (hnow : updatedAt ≤ MAX_TIME_MS) : (activeUploadManifest { upload with updatedAt }).Valid :=
  ⟨h.uploadId, h.fileName, h.mimeType, h.path, h.size, h.createdAt, hnow, h.digest⟩

theorem appendChunk (h : Wired api) {ref : CallRef} {upload : ActiveFileUpload} (href : ref < api.allocated)
    (hupload : api.objects.get? upload.uploadId = some upload) (offset : Nat) (bytes : List UInt8) :
    Wired (api.appendChunk surroundings ref upload offset bytes) := by
  have hobject := h.object _ upload hupload
  rw [LocalBackendApi.appendChunk]
  split
  · split
    · exact h.answer ref _
    · exact h.setStage_harmless href trivial rfl
  split
  · exact h.answer ref _
  have hupdated : Wired (api.setObject { upload with updatedAt := surroundings.now }) :=
    h.setObject hupload rfl (activeManifest_valid hobject.valid surroundings.validNow)
  dsimp only
  split
  · exact hupdated.answer ref _
  · rename_i api' hwrite
    have hget : (api.setObject { upload with updatedAt := surroundings.now }).objects.get? upload.uploadId =
        some { upload with updatedAt := surroundings.now } := OrderedMap.get?_set_self _ _ _
    have hwired := hupdated.writeUploadManifest hwrite (hupdated.created?_ne hget)
    have hsame : api'.objects = (api.setObject { upload with updatedAt := surroundings.now }).objects ∧
        api'.allocated = api.allocated := by
      rw [LocalBackendApi.writeUploadManifest] at hwrite
      split at hwrite
      · cases hwrite
      obtain ⟨store, -, rfl⟩ := Option.map_eq_some_iff.mp hwrite
      exact ⟨rfl, rfl⟩
    have hget' : api'.objects.get? upload.uploadId = some { upload with updatedAt := surroundings.now } := by
      rw [hsame.1]
      exact hget
    have hchunk := @setObject api' hwired _ { upload with
      updatedAt := surroundings.now
      chunks := upload.chunks.set offset ⟨bytes.length, sha256Hex bytes, api'.allocated⟩ } hget' rfl
        (activeManifest_valid hobject.valid surroundings.validNow)
    have hallocated := hchunk.allocate
    have hbegun := @setWrite _ hallocated api'.allocated ⟨ref, upload.uploadId, upload.fileName, offset, bytes, .opening⟩
      (Nat.lt_succ_self _)
      ⟨⟨_, OrderedMap.get?_set_self _ _ _, rfl⟩, fun file written hphase => by cases hphase⟩
    refine hbegun.setStage_harmless ?_ trivial rfl
    change ref < api'.allocated + 1
    rw [hsame.2]
    exact Nat.lt_succ_of_lt href

theorem appendFileUpload (h : Wired api) {ref : CallRef} (href : ref < api.allocated) (uploadId : JsString)
    (offset data : Value) : Wired (api.appendFileUpload surroundings ref uploadId offset data) := by
  rw [LocalBackendApi.appendFileUpload]
  split
  · exact h.answer ref _
  rename_i upload hget
  obtain ⟨-, hupload⟩ := object_of_get? hget
  have hsame := (h.object uploadId upload hupload).same
  split
  · exact h.answer ref _
  split
  · exact h.answer ref _
  split
  · exact h.answer ref _
  split
  · exact h.answer ref _
  · exact h.appendChunk href (by rw [hsame]; exact hupload) _ _

theorem completeFileUpload (h : Wired api) {ref : CallRef} (href : ref < api.allocated) (uploadId : JsString) :
    Wired (api.completeFileUpload uploadDirectory surroundings ref uploadId) := by
  rw [LocalBackendApi.completeFileUpload]
  split
  · exact h.setStage_harmless href trivial rfl
  split
  · split <;> exact h.answer ref _
  · exact h.answer ref _

theorem checkReceived (h : Wired api) {ref : CallRef} (href : ref < api.allocated) (uploadId : JsString) :
    Wired (api.checkReceived ref uploadId) := by
  rw [LocalBackendApi.checkReceived]
  split
  · exact h
  split
  · exact h.answer ref _
  · exact h.setStage_harmless href trivial rfl

theorem finishComplete (h : Wired api) (ref : CallRef) (uploadId : JsString) (bytes : List UInt8) :
    Wired (api.finishComplete surroundings ref uploadId bytes) := by
  rw [LocalBackendApi.finishComplete]
  split
  · exact h
  rename_i upload hupload
  dsimp only
  split
  · exact h.answer ref _
  · rename_i api' hwrite
    have hsame := (h.object uploadId upload hupload).same
    refine ((h.writeUploadManifest hwrite ?_).unregister uploadId).answer ref _
    change ∀ ref call, api.calls.get? ref = some call → call.stage.created? ≠ some upload.uploadId
    rw [hsame]
    exact h.created?_ne hupload

theorem dropChunk (h : Wired api) (uploadId : JsString) (offset : Nat) : Wired (api.dropChunk uploadId offset) := by
  rw [LocalBackendApi.dropChunk]
  split
  · exact h
  · rename_i upload hupload
    have hobject := h.object uploadId upload hupload
    have hold : api.objects.get? upload.uploadId = some upload := by
      rw [hobject.same]
      exact hupload
    exact h.setObject hold rfl hobject.valid

/-! `createFileUpload` -/

/-- The upload of a create, which no other call knows, is registered. -/
theorem register (h : Wired api) {ref : CallRef} {call : Call} {creation : Creation}
    (hcall : api.calls.get? ref = some call) (hcreated : call.stage.created? = some creation.uploadId)
    (haborted : call.stage.aborted? = none) (hok : creation.Ok) :
    Wired (api.register uploadDirectory surroundings ref creation) := by
  rw [LocalBackendApi.register]
  split
  · exact h.discard hcall hcreated haborted
  rename_i api' hwrite
  have hstage := h.stage ref call hcall
  have hunknown := hstage.unknown creation.uploadId hcreated
  have hdrawn := hstage.drawn creation.uploadId hcreated
  have hregistered := h.not_registered hcall hcreated
  have hanswered := h.answer ref (.created creation.uploadId)
  have halone : ∀ ref' call', (api.calls.erase ref).get? ref' = some call' →
      call'.stage.target? ≠ some creation.uploadId := by
    intro ref' call' hcall'
    obtain ⟨hne, hbefore⟩ := OrderedMap.get?_of_erase hcall'
    exact hstage.alone creation.uploadId hcreated ref' call' hne hbefore
  rw [LocalBackendApi.writeUploadManifest] at hwrite
  split at hwrite
  · cases hwrite
  obtain ⟨store, hstore, rfl⟩ := Option.map_eq_some_iff.mp hwrite
  obtain ⟨entries, hentries, rfl⟩ := Option.map_eq_some_iff.mp hstore
  have hstored := @link_store _ hanswered _ UPLOAD_MANIFEST_FILE _ hentries
    (encodeUploadManifest (activeUploadManifest (newUpload uploadDirectory creation)))
    fun ref' call' uploadId hcall' hcreated' hdirectory => by
      rw [directoryName_injective hdirectory] at hcreated'
      exact absurd (Stage.target?_of_created? hcreated') (halone ref' call' hcall')
  have hget (uploadId : JsString) : (api.objects.set creation.uploadId (newUpload uploadDirectory creation)).get? uploadId =
      if uploadId = creation.uploadId then some (newUpload uploadDirectory creation) else api.objects.get? uploadId :=
    OrderedMap.get?_set _ _ _ _
  refine ⟨hstored.sound, ?_, ?_, ?_, ?_, hstored.file, ?_, hstored.callRef, hstored.writeRef⟩
  · exact List.nodup_append.mpr ⟨h.nodup, List.nodup_singleton _, fun a ha b hb hab => by
      rw [List.mem_singleton] at hb
      exact hregistered (hb ▸ hab ▸ ha)⟩
  · intro uploadId hmem
    change ∃ upload, (api.objects.set creation.uploadId (newUpload uploadDirectory creation)).get? uploadId = some upload
    rw [hget]
    split
    · exact ⟨_, rfl⟩
    · rename_i hne
      refine h.registered uploadId ((List.mem_append.mp hmem).resolve_right fun hlast => hne ?_)
      exact List.mem_singleton.mp hlast
  · intro uploadId upload hupload
    change (api.objects.set creation.uploadId (newUpload uploadDirectory creation)).get? uploadId = some upload at hupload
    rw [hget] at hupload
    split at hupload
    · rename_i hsame
      rw [← Option.some.inj hupload, hsame]
      exact ⟨rfl, hok.metadata.apart, hdrawn, valid_newUpload uploadDirectory hok⟩
    · obtain ⟨hsame, hapart, hdrawn, hvalid⟩ := h.object uploadId upload hupload
      exact ⟨hsame, hapart, hdrawn, hvalid⟩
  · intro ref' call' hcall'
    have hother := hstored.stage ref' call' hcall'
    refine ⟨hother.ok, hother.drawn, ?_, hother.noManifest, hother.alone, ?_⟩
    · intro uploadId hcreated'
      change (api.objects.set creation.uploadId (newUpload uploadDirectory creation)).get? uploadId = none
      rw [hget, if_neg]
      · exact hother.unknown uploadId hcreated'
      · rintro rfl
        exact halone ref' call' hcall' (Stage.target?_of_created? hcreated')
    · intro uploadId haborted' hmem
      rcases List.mem_append.mp hmem with hmem | hmem
      · exact hother.taken uploadId haborted' hmem
      · rw [List.mem_singleton.mp hmem] at haborted'
        refine halone ref' call' hcall' ?_
        rw [Stage.target?, haborted']
        cases hcreated' : call'.stage.created? with
        | none => rfl
        | some other =>
          have hnone : call'.stage.aborted? = none := by
            cases hstage' : call'.stage <;> rw [hstage'] at hcreated' <;> first | rfl | cases hcreated'
          rw [hnone] at haborted'
          cases haborted'
  · intro operation write hwrite
    obtain ⟨⟨upload, hupload, hname⟩, hfile⟩ := hstored.write operation write hwrite
    refine ⟨⟨upload, ?_, hname⟩, hfile⟩
    change (api.objects.set creation.uploadId (newUpload uploadDirectory creation)).get? write.uploadId = some upload
    rw [hget, if_neg]
    · exact hupload
    · intro hsame
      change api.objects.get? write.uploadId = some upload at hupload
      rw [hsame, hunknown] at hupload
      cases hupload

end Wired

/-! The operations of the file system. -/

namespace Wired

variable {api : LocalBackendApi} {uploadDirectory : Names} {surroundings : Surroundings}

theorem setResult (h : Wired api) {ref : CallRef} {call : Call} {result : IoResult}
    (hcall : api.calls.get? ref = some call)
    (hopened : ∀ creation file, call.stage = .opening creation → result = .opened file →
      Owned api.store file (directoryName creation.uploadId) creation.fileName) :
    Wired (api.setResult ref call result) := by
  have hclear := h.clear_of_call hcall
  refine h.setCall (h.callRef ref call hcall) (h.stage ref call hcall) hclear fun creation file hfile => ?_
  obtain ⟨stage, before⟩ := call
  cases stage with
  | opening other =>
    cases result with
    | opened other' =>
      cases hfile
      exact hopened creation file rfl rfl
    | _ => cases hfile
  | truncating other other' =>
    cases hfile
    exact h.file ref _ creation file hcall (by cases before <;> rfl)
  | _ => cases hfile

/-- An operation keeps the wiring of everything but the call that it is for. -/
theorem operate (h : Wired api) {ref : CallRef} {call : Call} {store : Store} {result : IoResult}
    (hcall : api.calls.get? ref = some call) (hoperated : Operated api call.stage store result) :
    Wired { api with store } ∧ ∀ creation file, call.stage = .opening creation → result = .opened file →
      Owned store file (directoryName creation.uploadId) creation.fileName := by
  have hstage := h.stage ref call hcall
  obtain ⟨stage, before⟩ := call
  cases hoperated with
  | failed => exact ⟨h, fun _ _ _ heq => by cases heq⟩
  | madeRoot metadata => exact ⟨h, fun _ _ _ heq => by cases heq⟩
  | made creation hnew => exact ⟨h.makeDirectory_store hnew, fun _ _ _ heq => by cases heq⟩
  | created creation entries hentries hnew =>
    have happart : Apart creation.fileName := hstage.ok.metadata.apart
    have hlinked := @link_store api h _ creation.fileName _ hentries [] fun _ _ _ _ _ _ => happart
    refine ⟨hlinked, fun creation' file hsame hfile => ?_⟩
    cases hsame
    cases hfile
    refine Owned.of_lookup? hlinked.sound ?_
    rw [Store.lookup?_link hentries, if_pos ⟨rfl, rfl⟩]
  | truncated creation file => exact ⟨h.update_store _ _, fun _ _ _ heq => by cases heq⟩
  | closed creation failed => exact ⟨h, fun _ _ _ heq => by cases heq⟩
  | read uploadId upload bytes => exact ⟨h, fun _ _ _ heq => by cases heq⟩
  | removed _ uploadId => exact ⟨h.remove_store _, fun _ _ _ heq => by cases heq⟩

theorem perform (h : Wired api) (ref : CallRef) (fails : Bool) : Wired (api.perform ref fails) := by
  rw [LocalBackendApi.perform]
  split
  · exact h
  rename_i call hcall
  split
  · exact h
  split
  · exact h
  · rename_i store result hoperate
    obtain ⟨hwired, hopened⟩ := h.operate hcall (operated_of_operate hoperate)
    exact hwired.setResult hcall hopened

theorem unlink (h : Wired api) (ref : CallRef) (name : JsString) : Wired (api.unlink ref name) := by
  rw [LocalBackendApi.unlink]
  split
  · exact h
  split
  · exact h
  split
  · exact h
  · exact h.unlink_store _ _

theorem setPhase (h : Wired api) {operation : WriteRef} {write : UploadWrite} {phase : WritePhase}
    (hwrite : api.writes.get? operation = some write)
    (hfile : ∀ file written, phase = .writing file written →
      Owned api.store file (directoryName write.uploadId) write.fileName) :
    Wired (api.setPhase operation write phase) :=
  h.setWrite (h.writeRef operation write hwrite) ⟨(h.write operation write hwrite).upload, hfile⟩

theorem settle (h : Wired api) {operation : WriteRef} {write : UploadWrite}
    (hwrite : api.writes.get? operation = some write) : Wired (api.settle operation write) := by
  have hset := @setPhase api h _ _ (.settled false) hwrite fun file written heq => by cases heq
  rw [LocalBackendApi.settle]
  split
  · exact hset
  · rename_i upload hupload
    have hobject := hset.object _ upload hupload
    have hold : (api.setPhase operation write (.settled false)).objects.get? upload.uploadId = some upload := by
      rw [hobject.same]
      exact hupload
    exact hset.setObject hold rfl hobject.valid

theorem advance (h : Wired api) (operation : WriteRef) (outcome : WriteOutcome) :
    Wired (api.advance operation outcome) := by
  rw [LocalBackendApi.advance]
  split
  · exact h
  rename_i write hwrite
  have hsettled (failed : Bool) : Wired (api.setPhase operation write (.settled failed)) :=
    h.setPhase hwrite fun file written heq => by cases heq
  have hclosing (failed : Bool) : Wired (api.setPhase operation write (.closing failed)) :=
    h.setPhase hwrite fun file written heq => by cases heq
  split
  · exact hsettled true
  · split
    · exact hsettled true
    · rename_i file hentry
      refine h.setPhase hwrite fun file' written heq => ?_
      cases heq
      exact Owned.of_lookup? h.sound hentry
  · rename_i file written count hphase
    split
    · exact hclosing true
    have howned := (h.write operation write hwrite).file file written hphase
    have hstored := h.update_store file
      fun content => overwrite content (write.offset + written) ((write.bytes.drop written).take count)
    dsimp only
    split
    · refine hstored.setPhase hwrite fun file' written' heq => ?_
      cases heq
      exact howned.update _ _
    · exact hstored.setPhase hwrite fun file' written' heq => by cases heq
  · exact hclosing true
  · exact hsettled true
  · split
    · exact hsettled true
    · exact h.settle hwrite
  · exact h

/-! The steps. -/

theorem request (h : Wired api) (request : Request)
    (hapart : ∀ value metadata, request = .createFileUpload value → readMetadata value = .ok metadata →
      Apart (safeUploadFileName metadata.fileName)) :
    Wired (api.request uploadDirectory surroundings request) := by
  have hallocated := h.allocate
  have href : api.allocated < api.allocated + 1 := Nat.lt_succ_self _
  cases request with
  | createFileUpload value =>
    rw [LocalBackendApi.request]
    split
    · exact hallocated.answer _ _
    · rename_i metadata hread
      exact hallocated.cleanupUploads href (ok_of_readMetadata hread (hapart value metadata rfl hread)) _
  | appendFileUpload uploadId offset data => exact hallocated.appendFileUpload href uploadId offset data
  | completeFileUpload uploadId => exact hallocated.completeFileUpload href uploadId
  | abortFileUpload uploadId =>
    obtain ⟨hwired, htaken⟩ := @startAbort _ uploadDirectory surroundings hallocated uploadId
    refine hwired.setStage ?_ (stageOk_aborting _ trivial rfl htaken) fun _ _ heq => by cases heq
    rw [allocated_startAbort]
    exact href

theorem target?_of_waiting {abort next : Abort} {result : Option IoResult} (h : api.progress abort result = .waiting next) :
    next.target? = abort.target? := by
  cases abort with
  | settling uploadId operations =>
    rw [LocalBackendApi.progress] at h
    split at h
    · cases h
      rfl
    · cases h
  | removing uploadId =>
    rw [LocalBackendApi.progress.eq_def] at h
    dsimp only at h
    split at h <;> cases h
  | returning => cases h

/-- A create that draws an id has it for itself. -/
theorem drawId (h : Wired api) {ref : CallRef} {metadata : FileUploadMetadata} (href : ref < api.allocated)
    (hok : metadata.Ok) (hfresh : api.isFresh surroundings.uuid = true) :
    Wired ({ api with drawn := api.drawn ++ [surroundings.uuid] }.setStage ref
      (.makingDirectory ⟨metadata, surroundings.uuid, surroundings.now⟩)) := by
  simp only [isFresh, Bool.and_eq_true, decide_eq_true_eq, Bool.not_eq_true', List.all_eq_true] at hfresh
  obtain ⟨⟨⟨hid, hundrawn⟩, hnone⟩, hunnamed⟩ := hfresh
  have hunknown : api.objects.get? surroundings.uuid = none := by
    rw [Option.eq_none_iff_forall_ne_some]
    exact fun upload hupload => hundrawn (h.object _ upload hupload).drawn
  have hothers : ∀ ref' call', api.calls.get? ref' = some call' → call'.stage.target? ≠ some surroundings.uuid := by
    intro ref' call' hcall' htarget
    rcases Stage.target?_cases htarget with hcreated | haborted
    · exact hundrawn ((h.stage ref' call' hcall').drawn _ hcreated)
    · exact hunnamed call' (OrderedMap.mem_values_of_get? hcall') haborted
  have habsent : api.store.directories.get? (directoryName surroundings.uuid) = none := by
    rw [Option.eq_none_iff_forall_ne_some]
    intro entries hentries
    rw [Store.hasDirectory_iff.mpr ⟨entries, hentries⟩] at hnone
    cases hnone
  refine (h.draw surroundings.uuid).setStage href ⟨⟨⟨hok, hid, surroundings.validNow⟩, ?_, ?_, ?_, ?_, ?_⟩, ?_⟩
    fun _ _ heq => by cases heq
  · intro uploadId hcreated
    cases hcreated
    exact List.mem_append_right _ (List.mem_singleton_self _)
  · intro uploadId hcreated
    cases hcreated
    exact hunknown
  · intro uploadId hcreated
    cases hcreated
    exact Store.lookup?_none habsent
  · intro uploadId hcreated ref' call' _ hcall'
    cases hcreated
    exact hothers ref' call' hcall'
  · intro uploadId haborted
    cases haborted
  · intro uploadId htarget ref' call' _ hcall' hcreated
    cases htarget
    exact hothers ref' call' hcall' (Stage.target?_of_created? hcreated)

theorem resume (h : Wired api) (ref : CallRef) : Wired (api.resume uploadDirectory surroundings ref) := by
  rw [LocalBackendApi.resume]
  split
  · exact h
  rename_i call hcall
  have href := h.callRef ref call hcall
  have hstage := h.stage ref call hcall
  have hopen := fun creation file => h.file ref call creation file hcall
  obtain ⟨stage, result⟩ := call
  cases stage with
  | cleaning metadata now rest abort =>
    dsimp only
    split
    · exact h
    · rename_i next hprogress
      exact h.setStage_same hcall hstage.ok rfl (target?_of_waiting hprogress) fun _ _ hsame => by cases hsame
    · exact h.cleanupUploads href hstage.ok rest
    · exact h.answer ref _
  | cleaned metadata =>
    dsimp only
    split
    · exact h.answer ref _
    · exact h.setStage_harmless href hstage.ok rfl
  | makingRoot metadata =>
    dsimp only
    split
    · exact h
    · exact h.answer ref _
    split
    · rename_i hfresh
      exact h.drawId href hstage.ok hfresh
    · exact h
  | makingDirectory creation =>
    dsimp only
    split
    · exact h
    · exact h.discard hcall rfl rfl
    · exact h.setStage_same hcall hstage.ok rfl rfl fun _ _ heq => by cases heq
  | opening creation =>
    dsimp only
    split
    · exact h
    · rename_i result' file
      refine h.setStage_same hcall hstage.ok rfl rfl fun creation' file' heq => ?_
      cases heq
      exact hopen creation file rfl
    · exact h.discard hcall rfl rfl
  | truncating creation file =>
    dsimp only
    split
    · exact h
    · exact h.setStage_same hcall hstage.ok rfl rfl fun _ _ heq => by cases heq
    · exact h.setStage_same hcall hstage.ok rfl rfl fun _ _ heq => by cases heq
  | closing creation failed =>
    dsimp only
    split
    · exact h
    · exact h.discard hcall rfl rfl
    split
    · exact h.discard hcall rfl rfl
    · exact h.register hcall rfl rfl hstage.ok
  | discarding uploadId =>
    dsimp only
    split
    · exact h
    · exact h.answer ref _
  | appending uploadId offset operation nextOffset =>
    dsimp only
    split
    · exact h
    · exact (h.dropChunk uploadId offset).answer ref _
    · exact h.answer ref _
  | replaying operation nextOffset =>
    dsimp only
    split
    · exact h
    · exact h.answer ref _
    · exact h.answer ref _
  | settling uploadId operations =>
    dsimp only
    split
    · exact h.answer ref _
    split
    · exact h.checkReceived href uploadId
    · exact h
  | reading uploadId =>
    dsimp only
    split
    · exact h
    · exact h.finishComplete ref uploadId _
    · exact h.answer ref _
  | aborting abort =>
    dsimp only
    split
    · exact h
    · rename_i next hprogress
      exact h.setStage_same hcall trivial rfl (target?_of_waiting hprogress) fun _ _ hsame => by cases hsame
    · exact h.answer ref _
    · exact h.answer ref _

theorem initial {store : Store} (h : Sound store) : Wired { store } where
  sound := h
  nodup := List.nodup_nil
  registered := fun _ hmem => absurd hmem List.not_mem_nil
  object := fun _ _ hupload => by cases hupload
  stage := fun _ _ hcall => by cases hcall
  file := fun _ _ _ _ hcall => by cases hcall
  write := fun _ _ hwrite => by cases hwrite
  callRef := fun _ _ hcall => by cases hcall
  writeRef := fun _ _ hwrite => by cases hwrite

end Wired

/-- No create is asked for a payload that would take the name of the manifest. -/
def NamesApart (input : Input) : Prop :=
  ∀ value metadata, input.event = .requested (.createFileUpload value) → readMetadata value = .ok metadata →
    uploadBaseName metadata.fileName ≠ UPLOAD_MANIFEST_FILE

theorem Wired.step {api : LocalBackendApi} (h : Wired api) (uploadDirectory : Names) (input : Input)
    (hapart : NamesApart input) : Wired (local_backend_api.step uploadDirectory api input) := by
  obtain ⟨event, surroundings⟩ := input
  cases event with
  | requested request =>
    refine h.request request fun value metadata heq hread => ?_
    rw [Apart, ne_eq, safeUploadFileName_eq_manifest_iff]
    exact hapart value metadata (by rw [heq]) hread
  | performed call fails => exact h.perform call fails
  | unlinked call name => exact h.unlink call name
  | resumed call => exact h.resume call
  | advanced operation outcome => exact h.advance operation outcome

end pipane.local_backend_api

import Pipane.Server.LocalBackendApi.Uploads.Wiring.Steps

open javascript json posix_path file_store transition

namespace pipane.local_backend_api

open LocalBackendApi

/-! How many uploads are active, and which directories a cleanup removes. -/

/-- A create that has passed the check of the limit and may still register its upload. -/
def Stage.isCreating : Stage → Bool
  | .makingRoot _ => true
  | .makingDirectory _ => true
  | .opening _ => true
  | .truncating _ _ => true
  | .closing _ _ => true
  | _ => false

/-- A stage that is neither a cleanup nor about to make a directory. -/
def Stage.isPlain : Stage → Bool
  | .cleaning _ _ _ _ => false
  | .makingDirectory _ => false
  | _ => true

/-- The creates that may still register an upload. -/
def creating (api : LocalBackendApi) : Nat :=
  api.calls.values.countP fun call => call.stage.isCreating

/-- A create whose directory exists and whose manifest has not been written. -/
def Call.isUnfinished (call : Call) : Bool :=
  match call.stage with
  | .makingDirectory _ => call.result.isSome
  | .opening _ => true
  | .truncating _ _ => true
  | .closing _ _ => true
  | _ => false

/-- Whether `cleanupUploads` gets to the directories before it waits. -/
def reachesDirectories (api : LocalBackendApi) (now : Nat) (rest : List JsString) : Bool :=
  (rest.all fun uploadId => (api.objects.get? uploadId).all fun upload =>
      now - upload.updatedAt ≤ ACTIVE_UPLOAD_TTL_MS) &&
    !decide (now - api.lastUploadCleanupAt < ACTIVE_UPLOAD_TTL_MS)

/-- The beginning of the cleanup that goes over the directories in a step. -/
def sweeping (api : LocalBackendApi) (input : Input) : Option Nat :=
  match input.event with
  | .requested (.createFileUpload value) =>
    match readMetadata value with
    | .ok _ =>
      if reachesDirectories api input.surroundings.now api.uploads then some input.surroundings.now else none
    | .error _ => none
  | .resumed ref =>
    match api.calls.get? ref with
    | some ⟨.cleaning _ now rest abort, result⟩ =>
      match api.progress abort result with
      | .finished => if reachesDirectories api now rest then some now else none
      | _ => none
    | _ => none
  | _ => none

theorem sweeping_requested {api : LocalBackendApi} {value : Value} {metadata : FileUploadMetadata}
    {surroundings : Surroundings} (hread : readMetadata value = .ok metadata) :
    sweeping api ⟨.requested (.createFileUpload value), surroundings⟩ =
      if reachesDirectories api surroundings.now api.uploads then some surroundings.now else none := by
  simp only [sweeping, hread]

theorem sweeping_resumed {api : LocalBackendApi} {ref : CallRef} {metadata : FileUploadMetadata} {now : Nat}
    {rest : List JsString} {abort : Abort} {result : Option IoResult} {surroundings : Surroundings}
    (hcall : api.calls.get? ref = some ⟨.cleaning metadata now rest abort, result⟩)
    (hfinished : api.progress abort result = .finished) :
    sweeping api ⟨.resumed ref, surroundings⟩ = if reachesDirectories api now rest then some now else none := by
  simp only [sweeping, hcall, hfinished]

/-- A time at which no cleanup under way finds an upload stale. -/
def Timely (api : LocalBackendApi) (time : Nat) : Prop :=
  ∀ ref metadata now rest abort result, api.calls.get? ref = some ⟨.cleaning metadata now rest abort, result⟩ →
    now - time ≤ ACTIVE_UPLOAD_TTL_MS

/-- What keeps the number of uploads in bounds and their directories safe: no payload takes the name of the manifest, a
    create passes the check of the limit only where there is room for all that have passed it, the directories are swept
    only while no create has made its own and not written its manifest, every manifest of an active upload can be read
    then and is written by every append, and no upload is given a time that is stale for a cleanup under way. -/
structure Sparing (api : LocalBackendApi) (input : Input) : Prop where
  apart : NamesApart input
  limit : ∀ ref metadata result, input.event = .resumed ref → api.calls.get? ref = some ⟨.cleaned metadata, result⟩ →
    api.uploads.length < MAX_ACTIVE_UPLOADS → api.uploads.length + creating api < MAX_ACTIVE_UPLOADS
  finished : ∀ now, sweeping api input = some now → ∀ ref call, api.calls.get? ref = some call →
    call.isUnfinished = false
  readable : ∀ now, sweeping api input = some now → ∀ uploadId ∈ api.uploads,
    input.surroundings.unreadable (directoryName uploadId) = false
  written : ∀ uploadId offset data, input.event = .requested (.appendFileUpload uploadId offset data) →
    input.surroundings.manifestFails = false ∧ Timely api input.surroundings.now
  timely : ∀ ref creation result, input.event = .resumed ref →
    api.calls.get? ref = some ⟨.closing creation false, result⟩ → Timely api creation.now

/-- The step is one of a cleanup. -/
def Cleans (api : LocalBackendApi) (input : Input) : Prop :=
  match input.event with
  | .requested (.createFileUpload _) => True
  | .performed ref _ => ∃ call metadata now rest abort, api.calls.get? ref = some call ∧
      call.stage = .cleaning metadata now rest abort
  | .unlinked ref _ => ∃ call metadata now rest abort, api.calls.get? ref = some call ∧
      call.stage = .cleaning metadata now rest abort
  | .resumed ref => ∃ call metadata now rest abort, api.calls.get? ref = some call ∧
      call.stage = .cleaning metadata now rest abort
  | _ => False

/-- An upload that is being created. -/
def IsCreated (api : LocalBackendApi) (uploadId : JsString) : Prop :=
  ∃ ref call, api.calls.get? ref = some call ∧ call.stage.isCreating = true ∧ call.stage.created? = some uploadId

/-- A cleanup leaves alone the directories of the uploads that are being created or stay active. -/
def Spares (uploadDirectory : Names) (api : LocalBackendApi) (input : Input) : Prop :=
  Cleans api input → ∀ uploadId, IsCreated api uploadId ∨
      (uploadId ∈ api.uploads ∧ uploadId ∈ (step uploadDirectory api input).uploads) →
    (step uploadDirectory api input).store.directories.get? (directoryName uploadId) =
      api.store.directories.get? (directoryName uploadId)

/-- What such steps keep. -/
structure Kept (api : LocalBackendApi) : Prop where
  bounded : api.uploads.length + creating api ≤ MAX_ACTIVE_UPLOADS
  manifest : ∀ uploadId ∈ api.uploads, ∀ upload, api.objects.get? uploadId = some upload →
    api.store.read? (directoryName uploadId) UPLOAD_MANIFEST_FILE =
      some (encodeUploadManifest (activeUploadManifest upload))
  checked : ∀ ref metadata now rest abort result, api.calls.get? ref = some ⟨.cleaning metadata now rest abort, result⟩ →
    ∀ uploadId ∈ api.uploads, uploadId ∈ rest ∨ ∀ upload, api.objects.get? uploadId = some upload →
      now - upload.updatedAt ≤ ACTIVE_UPLOAD_TTL_MS
  unmade : ∀ ref creation, api.calls.get? ref = some ⟨.makingDirectory creation, none⟩ →
    api.store.directories.get? (directoryName creation.uploadId) = none

namespace Kept

variable {api api' : LocalBackendApi} {uploadDirectory : Names} {surroundings : Surroundings}

/-- Whether a call counts as creating. -/
def weight (api : LocalBackendApi) (ref : CallRef) : Nat :=
  ((api.calls.get? ref).any fun call => call.stage.isCreating).toNat

theorem creating_setStage (ref : CallRef) (stage : Stage) :
    creating (api.setStage ref stage) + weight api ref = creating api + stage.isCreating.toNat :=
  OrderedMap.countP_values_set _ _ _ _

theorem creating_answer (ref : CallRef) (result : Answer) :
    creating (api.answer ref result) + weight api ref = creating api :=
  OrderedMap.countP_values_erase _ _ _

/-- What does not belong to the uploads, their manifests and the calls may change. -/
theorem congr (h : Kept api) (huploads : api'.uploads = api.uploads) (hstore : api'.store = api.store)
    (hcalls : api'.calls = api.calls)
    (hobjects : ∀ uploadId upload', api'.objects.get? uploadId = some upload' →
      ∃ upload, api.objects.get? uploadId = some upload ∧ activeUploadManifest upload' = activeUploadManifest upload) :
    Kept api' := by
  refine ⟨?_, ?_, ?_, ?_⟩
  · rw [huploads, creating, hcalls]
    exact h.bounded
  · intro uploadId hmem upload' hupload'
    obtain ⟨upload, hupload, hsame⟩ := hobjects uploadId upload' hupload'
    rw [huploads] at hmem
    rw [hstore, hsame]
    exact h.manifest uploadId hmem upload hupload
  · intro ref metadata now rest abort result hcall uploadId hmem
    rw [hcalls] at hcall
    rw [huploads] at hmem
    refine (h.checked ref metadata now rest abort result hcall uploadId hmem).imp_right fun hfresh upload' hupload' => ?_
    obtain ⟨upload, hupload, hsame⟩ := hobjects uploadId upload' hupload'
    have htime : upload'.updatedAt = upload.updatedAt := congrArg StoredUploadManifest.updatedAt hsame
    rw [htime]
    exact hfresh upload hupload
  · intro ref creation hcall
    rw [hcalls] at hcall
    rw [hstore]
    exact h.unmade ref creation hcall

theorem answer (h : Kept api) (ref : CallRef) (result : Answer) : Kept (api.answer ref result) := by
  refine ⟨?_, h.manifest, ?_, ?_⟩
  · have hcount := @creating_answer api ref result
    have hbounded := h.bounded
    change api.uploads.length + creating (api.answer ref result) ≤ MAX_ACTIVE_UPLOADS
    omega
  · intro ref' metadata now rest abort result' hcall
    exact h.checked ref' metadata now rest abort result' (OrderedMap.get?_of_erase hcall).2
  · intro ref' creation hcall
    exact h.unmade ref' creation (OrderedMap.get?_of_erase hcall).2

/-- What a stage needs where it is set. -/
structure Fits (api : LocalBackendApi) (stage : Stage) : Prop where
  checked : ∀ metadata now rest abort, stage = .cleaning metadata now rest abort → ∀ uploadId ∈ api.uploads,
    uploadId ∈ rest ∨ ∀ upload, api.objects.get? uploadId = some upload → now - upload.updatedAt ≤ ACTIVE_UPLOAD_TTL_MS
  unmade : ∀ creation, stage = .makingDirectory creation →
    api.store.directories.get? (directoryName creation.uploadId) = none

/-- A call goes on without counting for more than it did, or where there is room. -/
theorem setStage (h : Kept api) {ref : CallRef} {stage : Stage}
    (hweight : stage.isCreating.toNat ≤ weight api ref ∨ api.uploads.length + creating api < MAX_ACTIVE_UPLOADS)
    (hfits : Fits api stage) : Kept (api.setStage ref stage) := by
  have hget (ref' : CallRef) (call : Call) (hcall : (api.calls.set ref { stage }).get? ref' = some call) :
      call = { stage } ∨ api.calls.get? ref' = some call := by
    rw [OrderedMap.get?_set] at hcall
    split at hcall
    · exact .inl (Option.some.inj hcall).symm
    · exact .inr hcall
  refine ⟨?_, h.manifest, ?_, ?_⟩
  · have hcount := @creating_setStage api ref stage
    have hbounded := h.bounded
    have hone := Bool.toNat_le stage.isCreating
    change api.uploads.length + creating (api.setStage ref stage) ≤ MAX_ACTIVE_UPLOADS
    omega
  · intro ref' metadata now rest abort result hcall
    rcases hget ref' _ hcall with hnew | hold
    · exact hfits.checked metadata now rest abort (congrArg Call.stage hnew).symm
    · exact h.checked ref' metadata now rest abort result hold
  · intro ref' creation hcall
    rcases hget ref' _ hcall with hnew | hold
    · exact hfits.unmade creation (congrArg Call.stage hnew).symm
    · exact h.unmade ref' creation hold

theorem fits_of_isPlain {stage : Stage} (h : stage.isPlain = true) : Fits api stage := by
  refine ⟨?_, ?_⟩
  · rintro metadata now rest abort rfl
    cases h
  · rintro creation rfl
    cases h

theorem setStage_idle (h : Kept api) {ref : CallRef} {stage : Stage} (hcreating : stage.isCreating = false)
    (hplain : stage.isPlain = true) : Kept (api.setStage ref stage) := by
  refine h.setStage (.inl ?_) (fits_of_isPlain hplain)
  rw [hcreating]
  exact Nat.zero_le _

theorem setStage_creating (h : Kept api) {ref : CallRef} {call : Call} {stage : Stage}
    (hcall : api.calls.get? ref = some call) (hbefore : call.stage.isCreating = true) (hfits : Fits api stage) :
    Kept (api.setStage ref stage) := by
  refine h.setStage (.inl ?_) hfits
  rw [weight, hcall, Option.any_some, hbefore]
  exact Bool.toNat_le _

theorem unregister (h : Kept api) (uploadId : JsString) : Kept { api with uploads := api.uploads.erase uploadId } := by
  refine ⟨?_, ?_, ?_, h.unmade⟩
  · have hbounded := h.bounded
    have hlength := List.length_erase_le (a := uploadId) (l := api.uploads)
    change (api.uploads.erase uploadId).length + creating api ≤ MAX_ACTIVE_UPLOADS
    omega
  · exact fun other hmem => h.manifest other (List.mem_of_mem_erase hmem)
  · intro ref metadata now rest abort result hcall other hmem
    exact h.checked ref metadata now rest abort result hcall other (List.mem_of_mem_erase hmem)

theorem setStore (h : Kept api) {store : Store}
    (hread : ∀ uploadId ∈ api.uploads, store.read? (directoryName uploadId) UPLOAD_MANIFEST_FILE =
      api.store.read? (directoryName uploadId) UPLOAD_MANIFEST_FILE)
    (habsent : ∀ ref creation, api.calls.get? ref = some ⟨.makingDirectory creation, none⟩ →
      store.directories.get? (directoryName creation.uploadId) = none) : Kept { api with store } := by
  refine ⟨h.bounded, ?_, h.checked, habsent⟩
  intro uploadId hmem upload hupload
  exact (hread uploadId hmem).trans (h.manifest uploadId hmem upload hupload)

/-! The cleanup. -/

theorem readManifest (h : Kept api) (hwired : Wired api) {uploadId : JsString} (hmem : uploadId ∈ api.uploads)
    (hreadable : surroundings.unreadable (directoryName uploadId) = false) :
    ∃ upload, api.objects.get? uploadId = some upload ∧
      api.readManifest surroundings (directoryName uploadId) = some (activeUploadManifest upload) := by
  obtain ⟨upload, hupload⟩ := hwired.registered uploadId hmem
  refine ⟨upload, hupload, ?_⟩
  rw [LocalBackendApi.readManifest, hreadable, h.manifest uploadId hmem upload hupload]
  exact readUploadManifest_encode (hwired.object uploadId upload hupload).valid

theorem not_removable (h : Kept api) (hwired : Wired api) {now : Nat} {uploadId : JsString} (hmem : uploadId ∈ api.uploads)
    (hreadable : surroundings.unreadable (directoryName uploadId) = false)
    (hfresh : ∀ upload, api.objects.get? uploadId = some upload → now - upload.updatedAt ≤ ACTIVE_UPLOAD_TTL_MS) :
    ¬ Removable surroundings now api api' (directoryName uploadId) := by
  obtain ⟨upload, hupload, hread⟩ := h.readManifest hwired hmem hreadable
  rintro (hstale | ⟨manifest, hmanifest, hexpired, -⟩)
  · rw [hread, isStale, Bool.and_eq_true, decide_eq_true_eq, decide_eq_true_eq] at hstale
    have hrecent := hfresh upload hupload
    have htime : (activeUploadManifest upload).updatedAt = upload.updatedAt := rfl
    omega
  · rw [hread, Option.some.injEq] at hmanifest
    rw [← hmanifest] at hexpired
    exact absurd hexpired Bool.false_ne_true

theorem swept (h : Kept api) (hwired : Wired api) {now : Nat} (hswept : Swept surroundings now api api')
    (hreadable : ∀ uploadId ∈ api.uploads, surroundings.unreadable (directoryName uploadId) = false)
    (hfresh : ∀ uploadId ∈ api.uploads, ∀ upload, api.objects.get? uploadId = some upload →
      now - upload.updatedAt ≤ ACTIVE_UPLOAD_TTL_MS) : Kept api' := by
  refine @Kept.congr { api with store := api'.store } api' (h.setStore ?_ ?_) hswept.uploads rfl hswept.calls ?_
  · intro uploadId hmem
    have hsame := (hswept.reason (directoryName uploadId)).resolve_right
      (h.not_removable hwired hmem (hreadable uploadId hmem) (hfresh uploadId hmem))
    rw [Store.read?, Store.read?, Store.lookup?, Store.lookup?, hsame, hswept.contents]
  · exact fun ref creation hcall => hswept.absent _ (h.unmade ref creation hcall)
  · intro uploadId upload hupload
    rw [hswept.objects] at hupload
    exact ⟨upload, hupload, rfl⟩

theorem finishCleanup (h : Kept api) (hwired : Wired api) (ref : CallRef) (metadata : FileUploadMetadata) (now : Nat)
    (hreadable : reachesDirectories api now [] = true → ∀ uploadId ∈ api.uploads,
      surroundings.unreadable (directoryName uploadId) = false)
    (hfresh : ∀ uploadId ∈ api.uploads, ∀ upload, api.objects.get? uploadId = some upload →
      now - upload.updatedAt ≤ ACTIVE_UPLOAD_TTL_MS) : Kept (api.finishCleanup surroundings ref metadata now) := by
  rw [LocalBackendApi.finishCleanup]
  split
  · exact h.setStage_idle rfl rfl
  · rename_i hdue
    have hreaches : reachesDirectories api now [] = true := by
      rw [reachesDirectories, decide_eq_false hdue]
      rfl
    have hkept := h.swept hwired (@Swept.cleanDirectories surroundings now api)
      (hreadable hreaches) hfresh
    split
    · rename_i api' heq
      rw [heq] at hkept
      exact hkept.answer ref _
    · rename_i api' heq
      rw [heq] at hkept
      exact hkept.setStage_idle rfl rfl

theorem startAbort (h : Kept api) (uploadId : JsString) :
    Kept (api.startAbort uploadDirectory surroundings uploadId).1 := by
  rw [LocalBackendApi.startAbort]
  split
  · exact h.unregister uploadId
  · split <;> exact h

theorem objects_startAbort (uploadId : JsString) :
    (api.startAbort uploadDirectory surroundings uploadId).1.objects = api.objects := by
  rw [LocalBackendApi.startAbort]
  split
  · rfl
  · split <;> rfl

theorem uploads_startAbort (uploadId : JsString) :
    (api.startAbort uploadDirectory surroundings uploadId).1.uploads = api.uploads.erase uploadId ∨
      (uploadId ∉ api.uploads ∨ api.objects.get? uploadId = none) ∧
        (api.startAbort uploadDirectory surroundings uploadId).1.uploads = api.uploads := by
  rw [LocalBackendApi.startAbort]
  split
  · exact .inl rfl
  · rename_i hget
    right
    refine ⟨?_, by split <;> rfl⟩
    rw [LocalBackendApi.get?] at hget
    split at hget
    · exact .inr hget
    · rename_i hmem
      exact .inl hmem

theorem mem_startAbort (hwired : Wired api) {uploadId other : JsString}
    (hmem : other ∈ (api.startAbort uploadDirectory surroundings uploadId).1.uploads) :
    other ∈ api.uploads ∧ other ≠ uploadId := by
  rcases @uploads_startAbort api uploadDirectory surroundings uploadId with
    herase | ⟨hout, hsame⟩
  · rw [herase] at hmem
    exact ⟨List.mem_of_mem_erase hmem, fun hother => hwired.nodup.not_mem_erase (hother ▸ hmem)⟩
  · rw [hsame] at hmem
    refine ⟨hmem, ?_⟩
    rintro rfl
    obtain ⟨upload, hupload⟩ := hwired.registered other hmem
    rcases hout with hout | hnone
    · exact hout hmem
    · rw [hnone] at hupload
      cases hupload

theorem reachesDirectories_cons {now : Nat} {uploadId : JsString} {rest : List JsString}
    (hfresh : (api.objects.get? uploadId).all (fun upload => now - upload.updatedAt ≤ ACTIVE_UPLOAD_TTL_MS) = true) :
    reachesDirectories api now (uploadId :: rest) = reachesDirectories api now rest := by
  rw [reachesDirectories, reachesDirectories, List.all_cons, hfresh, Bool.true_and]

theorem cleanupUploads (h : Kept api) (hwired : Wired api) (ref : CallRef) (metadata : FileUploadMetadata) (now : Nat)
    (rest : List JsString)
    (hreadable : reachesDirectories api now rest = true → ∀ uploadId ∈ api.uploads,
      surroundings.unreadable (directoryName uploadId) = false)
    (hchecked : ∀ uploadId ∈ api.uploads, uploadId ∈ rest ∨ ∀ upload, api.objects.get? uploadId = some upload →
      now - upload.updatedAt ≤ ACTIVE_UPLOAD_TTL_MS) :
    Kept (LocalBackendApi.cleanupUploads uploadDirectory surroundings ref metadata now rest api) := by
  induction rest with
  | nil =>
    exact h.finishCleanup hwired ref metadata now hreadable fun uploadId hmem =>
      (hchecked uploadId hmem).resolve_left List.not_mem_nil
  | cons uploadId rest ih =>
    have hskip (hfresh : ∀ upload, api.objects.get? uploadId = some upload →
        now - upload.updatedAt ≤ ACTIVE_UPLOAD_TTL_MS) :
        Kept (LocalBackendApi.cleanupUploads uploadDirectory surroundings ref metadata now rest api) := by
      refine ih ?_ fun other hmem => ?_
      · rw [← @reachesDirectories_cons api now uploadId rest]
        · exact hreadable
        · cases hupload : api.objects.get? uploadId with
          | none => rfl
          | some upload => exact decide_eq_true (hfresh upload hupload)
      · rcases hchecked other hmem with hrest | hdone
        · rcases List.mem_cons.mp hrest with rfl | hrest
          · exact .inr hfresh
          · exact .inl hrest
        · exact .inr hdone
    rw [LocalBackendApi.cleanupUploads]
    split
    · rename_i hnone
      exact hskip fun upload hupload => by rw [hnone] at hupload; cases hupload
    · rename_i upload hupload
      split
      · rename_i hfresh
        refine hskip fun other hother => ?_
        rw [hupload, Option.some.injEq] at hother
        rw [← hother]
        exact hfresh
      · refine (h.startAbort uploadId).setStage (.inl (Nat.zero_le _)) ⟨?_, fun creation heq => by cases heq⟩
        intro metadata' now' rest' abort' heq other hmem
        cases heq
        obtain ⟨hbefore, hne⟩ := mem_startAbort hwired hmem
        rw [objects_startAbort]
        exact (hchecked other hbefore).imp_left fun hrest => (List.mem_cons.mp hrest).resolve_left hne

end Kept

/-! The other steps. -/

namespace Kept

variable {api api' : LocalBackendApi} {uploadDirectory : Names} {surroundings : Surroundings}

theorem replaceManifest (h : Kept api) (hwired : Wired api) {manifest : StoredUploadManifest}
    (hwrite : api.writeUploadManifest surroundings manifest = some api')
    (hfree : manifest.uploadId ∉ api.uploads) : Kept api' ∧
      api'.store.read? (directoryName manifest.uploadId) UPLOAD_MANIFEST_FILE = some (encodeUploadManifest manifest) := by
  rw [LocalBackendApi.writeUploadManifest] at hwrite
  split at hwrite
  · cases hwrite
  obtain ⟨store, hstore, rfl⟩ := Option.map_eq_some_iff.mp hwrite
  obtain ⟨entries, hentries, rfl⟩ := Option.map_eq_some_iff.mp hstore
  refine ⟨h.setStore (fun uploadId hmem => ?_) fun ref creation hcall => ?_, ?_⟩
  · rw [Store.read?_link hwired.sound hentries, if_neg]
    rintro ⟨hsame, -⟩
    exact hfree (directoryName_injective hsame ▸ hmem)
  · have hnone := h.unmade ref creation hcall
    by_cases hsame : directoryName creation.uploadId = directoryName manifest.uploadId
    · rw [hsame, hentries] at hnone
      cases hnone
    · exact (OrderedMap.get?_set_ne hsame _).trans hnone
  · rw [Store.read?_link hwired.sound hentries, if_pos ⟨rfl, rfl⟩]

theorem setObject_same (h : Kept api) {old upload : ActiveFileUpload}
    (hold : api.objects.get? upload.uploadId = some old)
    (hsame : activeUploadManifest upload = activeUploadManifest old) : Kept (api.setObject upload) := by
  refine h.congr rfl rfl rfl fun uploadId upload' hupload' => ?_
  change (api.objects.set upload.uploadId upload).get? uploadId = some upload' at hupload'
  rw [OrderedMap.get?_set] at hupload'
  split at hupload'
  · rename_i hid
    rw [← Option.some.inj hupload', hid]
    exact ⟨old, hold, hsame⟩
  · exact ⟨upload', hupload', rfl⟩

theorem congr_objects (h : Kept api) (huploads : api'.uploads = api.uploads) (hstore : api'.store = api.store)
    (hcalls : api'.calls = api.calls) (hobjects : api'.objects = api.objects) : Kept api' :=
  h.congr huploads hstore hcalls fun uploadId upload hupload => ⟨upload, hobjects ▸ hupload, rfl⟩

theorem setPhase (h : Kept api) (operation : WriteRef) (write : UploadWrite) (phase : WritePhase) :
    Kept (api.setPhase operation write phase) :=
  h.congr_objects rfl rfl rfl rfl

/-- An upload is written anew, at a time that suits the cleanups under way: its manifest says so. -/
theorem touch (h : Kept api) (hwired : Wired api) {upload : ActiveFileUpload} (hmem : upload.uploadId ∈ api.uploads)
    (hupload : api.objects.get? upload.uploadId = some upload) (hwritten : surroundings.manifestFails = false)
    (htimely : Timely api surroundings.now) :
    ∃ api', (api.setObject { upload with updatedAt := surroundings.now }).writeUploadManifest surroundings
        (activeUploadManifest { upload with updatedAt := surroundings.now }) = some api' ∧ Kept api' := by
  let touched : ActiveFileUpload := { upload with updatedAt := surroundings.now }
  have hread := h.manifest _ hmem upload hupload
  obtain ⟨file, hentry, -⟩ := Option.bind_eq_some_iff.mp hread
  obtain ⟨entries, hentries, -⟩ := Option.bind_eq_some_iff.mp hentry
  have hget (uploadId : JsString) : (api.setObject touched).objects.get? uploadId =
      if uploadId = upload.uploadId then some touched else api.objects.get? uploadId := OrderedMap.get?_set _ _ _ _
  let store := api.store.link (directoryName upload.uploadId) UPLOAD_MANIFEST_FILE entries
    (encodeUploadManifest (activeUploadManifest touched))
  refine ⟨{ api.setObject touched with store }, ?_, h.bounded, ?_, ?_, ?_⟩
  · rw [LocalBackendApi.writeUploadManifest, hwritten]
    change (api.store.replace? (directoryName upload.uploadId) UPLOAD_MANIFEST_FILE _).map _ = _
    rw [Store.replace?, hentries]
    rfl
  · intro uploadId hmem' upload' hupload'
    rw [hget] at hupload'
    have hlink := @Store.read?_link _ _ UPLOAD_MANIFEST_FILE (directoryName uploadId) UPLOAD_MANIFEST_FILE _ hwired.sound
      hentries (encodeUploadManifest (activeUploadManifest touched))
    refine hlink.trans ?_
    split at hupload'
    · rename_i hid
      rw [← Option.some.inj hupload', if_pos ⟨by rw [hid], rfl⟩]
    · rename_i hid
      rw [if_neg fun hboth => hid (directoryName_injective hboth.1)]
      exact h.manifest uploadId hmem' upload' hupload'
  · intro ref metadata now rest abort result hcall uploadId hmem'
    refine (h.checked ref metadata now rest abort result hcall uploadId hmem').imp_right fun hfresh upload' hupload' => ?_
    rw [hget] at hupload'
    split at hupload'
    · rw [← Option.some.inj hupload']
      exact htimely ref metadata now rest abort result hcall
    · exact hfresh upload' hupload'
  · intro ref creation hcall
    have hnone := h.unmade ref creation hcall
    by_cases hsame : directoryName creation.uploadId = directoryName upload.uploadId
    · rw [hsame, hentries] at hnone
      cases hnone
    · exact (OrderedMap.get?_set_ne hsame _).trans hnone

theorem appendChunk (h : Kept api) (hwired : Wired api) {upload : ActiveFileUpload} (ref : CallRef)
    (hmem : upload.uploadId ∈ api.uploads) (hupload : api.objects.get? upload.uploadId = some upload)
    (hwritten : surroundings.manifestFails = false) (htimely : Timely api surroundings.now) (offset : Nat)
    (bytes : List UInt8) : Kept (api.appendChunk surroundings ref upload offset bytes) := by
  rw [LocalBackendApi.appendChunk]
  split
  · split
    · exact h.answer ref _
    · exact h.setStage_idle rfl rfl
  split
  · exact h.answer ref _
  obtain ⟨api', hwrite, hkept⟩ := h.touch hwired hmem hupload hwritten htimely
  dsimp only
  rw [hwrite]
  dsimp only
  have hget : api'.objects.get? upload.uploadId = some { upload with updatedAt := surroundings.now } := by
    rw [LocalBackendApi.writeUploadManifest] at hwrite
    split at hwrite
    · cases hwrite
    obtain ⟨store, -, rfl⟩ := Option.map_eq_some_iff.mp hwrite
    exact OrderedMap.get?_set_self _ _ _
  have hchunk := @setObject_same api' hkept _ { upload with
    updatedAt := surroundings.now
    chunks := upload.chunks.set offset ⟨bytes.length, sha256Hex bytes, api'.allocated⟩ } hget rfl
  exact (@congr_objects _ { api'.setObject { upload with
    updatedAt := surroundings.now
    chunks := upload.chunks.set offset ⟨bytes.length, sha256Hex bytes, api'.allocated⟩ } with
      writes := api'.writes.set api'.allocated ⟨ref, upload.uploadId, upload.fileName, offset, bytes, .opening⟩
      allocated := api'.allocated + 1 } hchunk rfl rfl rfl rfl).setStage_idle rfl rfl

theorem appendFileUpload (h : Kept api) (hwired : Wired api) (ref : CallRef) (uploadId : JsString) (offset data : Value)
    (hwritten : surroundings.manifestFails = false) (htimely : Timely api surroundings.now) :
    Kept (api.appendFileUpload surroundings ref uploadId offset data) := by
  rw [LocalBackendApi.appendFileUpload]
  split
  · exact h.answer ref _
  rename_i upload hget
  obtain ⟨hmem, hupload⟩ := Wired.object_of_get? hget
  have hsame := (hwired.object uploadId upload hupload).same
  split
  · exact h.answer ref _
  split
  · exact h.answer ref _
  split
  · exact h.answer ref _
  split
  · exact h.answer ref _
  · exact h.appendChunk hwired ref (by rw [hsame]; exact hmem) (by rw [hsame]; exact hupload) hwritten htimely _ _

theorem completeFileUpload (h : Kept api) (ref : CallRef) (uploadId : JsString) :
    Kept (api.completeFileUpload uploadDirectory surroundings ref uploadId) := by
  rw [LocalBackendApi.completeFileUpload]
  split
  · exact h.setStage_idle rfl rfl
  split
  · split <;> exact h.answer ref _
  · exact h.answer ref _

theorem checkReceived (h : Kept api) (ref : CallRef) (uploadId : JsString) : Kept (api.checkReceived ref uploadId) := by
  rw [LocalBackendApi.checkReceived]
  split
  · exact h
  split
  · exact h.answer ref _
  · exact h.setStage_idle rfl rfl

theorem finishComplete (h : Kept api) (hwired : Wired api) (ref : CallRef) (uploadId : JsString) (bytes : List UInt8) :
    Kept (api.finishComplete surroundings ref uploadId bytes) := by
  rw [LocalBackendApi.finishComplete]
  split
  · exact h
  rename_i upload hupload
  have hsame := (hwired.object uploadId upload hupload).same
  dsimp only
  split
  · exact h.answer ref _
  · rename_i api' hwrite
    rw [LocalBackendApi.writeUploadManifest] at hwrite
    split at hwrite
    · cases hwrite
    rename_i hworks
    obtain ⟨store, hstore, rfl⟩ := Option.map_eq_some_iff.mp hwrite
    have hwrite' : { api with uploads := api.uploads.erase uploadId }.writeUploadManifest surroundings
        (completedManifest upload surroundings.now bytes) =
          some { api with store, uploads := api.uploads.erase uploadId } := by
      rw [LocalBackendApi.writeUploadManifest, if_neg hworks]
      exact Option.map_eq_some_iff.mpr ⟨store, hstore, rfl⟩
    have hout : (completedManifest upload surroundings.now bytes).uploadId ∉ api.uploads.erase uploadId := by
      change upload.uploadId ∉ api.uploads.erase uploadId
      rw [hsame]
      exact hwired.nodup.not_mem_erase
    exact ((h.unregister uploadId).replaceManifest (hwired.unregister uploadId) hwrite' hout).1.answer ref _

theorem dropChunk (h : Kept api) (hwired : Wired api) (uploadId : JsString) (offset : Nat) :
    Kept (api.dropChunk uploadId offset) := by
  rw [LocalBackendApi.dropChunk]
  split
  · exact h
  · rename_i upload hupload
    have hold : api.objects.get? upload.uploadId = some upload := by
      rw [(hwired.object uploadId upload hupload).same]
      exact hupload
    exact h.setObject_same hold rfl

theorem settle (h : Kept api) (hwired : Wired api) (operation : WriteRef) (write : UploadWrite) :
    Kept (api.settle operation write) := by
  rw [LocalBackendApi.settle]
  split
  · exact h.setPhase _ _ _
  · rename_i upload hupload
    have hsame := (hwired.object _ upload hupload).same
    have hold : (api.setPhase operation write (.settled false)).objects.get? upload.uploadId = some upload := by
      rw [hsame]
      exact hupload
    exact (h.setPhase _ _ _).setObject_same hold rfl

theorem updateStore (h : Kept api) {file : FileRef} {directory name : JsString}
    (howned : Owned api.store file directory name)
    (hother : ∀ uploadId ∈ api.uploads, directory ≠ directoryName uploadId ∨ name ≠ UPLOAD_MANIFEST_FILE)
    (change : List UInt8 → List UInt8) : Kept { api with store := api.store.update file change } := by
  refine h.setStore (fun uploadId hmem => Store.read?_update ?_ change) fun ref creation hcall => ?_
  · intro hentry
    obtain ⟨hdirectory, hname⟩ := howned.only _ _ hentry
    rcases hother uploadId hmem with hne | hne
    · exact hne hdirectory.symm
    · exact hne hname.symm
  · rw [Store.update]
    split <;> exact h.unmade ref creation hcall

theorem advance (h : Kept api) (hwired : Wired api) (operation : WriteRef) (outcome : WriteOutcome) :
    Kept (api.advance operation outcome) := by
  rw [LocalBackendApi.advance]
  split
  · exact h
  rename_i write hwrite
  split
  · exact h.setPhase _ _ _
  · split <;> exact h.setPhase _ _ _
  · rename_i file written count hphase
    split
    · exact h.setPhase _ _ _
    obtain ⟨⟨upload, hupload, hname⟩, hfile⟩ := hwired.write operation write hwrite
    have happart : write.fileName ≠ UPLOAD_MANIFEST_FILE := by
      rw [← hname]
      exact (hwired.object _ upload hupload).apart
    have hstored := h.updateStore (hfile file written hphase) (fun uploadId _ => .inr happart)
      fun content => overwrite content (write.offset + written) ((write.bytes.drop written).take count)
    dsimp only
    split <;> exact hstored.setPhase _ _ _
  · exact h.setPhase _ _ _
  · exact h.setPhase _ _ _
  · split
    · exact h.setPhase _ _ _
    · exact h.settle hwired _ _
  · exact h

theorem not_mem_of_target? (hwired : Wired api) {ref : CallRef} {call : Call} {uploadId : JsString}
    (hcall : api.calls.get? ref = some call) (htarget : call.stage.target? = some uploadId) : uploadId ∉ api.uploads := by
  rcases Stage.target?_cases htarget with hcreated | haborted
  · exact hwired.not_registered hcall hcreated
  · exact (hwired.stage ref call hcall).taken uploadId haborted

theorem removeStore (h : Kept api) {uploadId : JsString} (hout : uploadId ∉ api.uploads) :
    Kept { api with store := api.store.remove (directoryName uploadId) } := by
  refine h.setStore (fun other hmem => Store.read?_remove ?_) fun ref creation hcall => ?_
  · intro hsame
    exact hout (directoryName_injective hsame ▸ hmem)
  · rw [Store.remove, OrderedMap.get?_erase, h.unmade ref creation hcall, ite_self]

theorem unlinkStore (h : Kept api) {uploadId : JsString} (hout : uploadId ∉ api.uploads) (name : JsString) :
    Kept { api with store := api.store.unlink (directoryName uploadId) name } := by
  refine h.setStore (fun other hmem => Store.read?_unlink ?_) fun ref creation hcall => ?_
  · intro hsame
    exact hout (directoryName_injective hsame ▸ hmem)
  · have hkeep := @Store.hasDirectory_unlink api.store (directoryName uploadId) name (directoryName creation.uploadId)
    rw [Store.hasDirectory, Store.hasDirectory, OrderedMap.contains, OrderedMap.contains, h.unmade ref creation hcall]
      at hkeep
    exact Option.not_isSome_iff_eq_none.mp (by rw [hkeep]; exact Bool.false_ne_true)

theorem unlink (h : Kept api) (hwired : Wired api) (ref : CallRef) (name : JsString) : Kept (api.unlink ref name) := by
  rw [LocalBackendApi.unlink]
  split
  · exact h
  rename_i call hcall
  split
  · exact h
  split
  · exact h
  · rename_i uploadId hremoves
    exact h.unlinkStore (not_mem_of_target? hwired hcall (Stage.removes_eq hremoves)) name

/-- The create that has room for its upload registers it, at a time that suits the cleanups under way. -/
theorem register (h : Kept api) (hwired : Wired api) {ref : CallRef} {creation : Creation} {result : Option IoResult}
    (hcall : api.calls.get? ref = some ⟨.closing creation false, result⟩) (htimely : Timely api creation.now) :
    Kept (api.register uploadDirectory surroundings ref creation) := by
  have hout : creation.uploadId ∉ api.uploads := hwired.not_registered hcall rfl
  rw [LocalBackendApi.register]
  split
  · exact h.setStage_idle rfl rfl
  rename_i api' hwrite
  obtain ⟨hkept, hread⟩ := h.replaceManifest hwired hwrite hout
  have hsame : api'.uploads = api.uploads ∧ api'.objects = api.objects ∧ api'.calls = api.calls := by
    rw [LocalBackendApi.writeUploadManifest] at hwrite
    split at hwrite
    · cases hwrite
    obtain ⟨store, -, rfl⟩ := Option.map_eq_some_iff.mp hwrite
    exact ⟨rfl, rfl, rfl⟩
  obtain ⟨huploads, hobjects, hcalls⟩ := hsame
  have hget (uploadId : JsString) : (api'.objects.set creation.uploadId (newUpload uploadDirectory creation)).get? uploadId =
      if uploadId = creation.uploadId then some (newUpload uploadDirectory creation) else api'.objects.get? uploadId :=
    OrderedMap.get?_set _ _ _ _
  have hne {uploadId : JsString} (hmem : uploadId ∈ api'.uploads) : uploadId ≠ creation.uploadId := by
    rintro rfl
    exact hout (huploads ▸ hmem)
  refine ⟨?_, ?_, ?_, ?_⟩
  · have hcount := @creating_answer api' ref (.created creation.uploadId)
    have hweight : weight api' ref = 1 := by
      rw [weight, hcalls, hcall]
      rfl
    have hbounded := hkept.bounded
    change (api'.uploads ++ [creation.uploadId]).length + creating (api'.answer ref (.created creation.uploadId)) ≤ _
    rw [List.length_append, List.length_singleton]
    omega
  · intro uploadId hmem upload hupload
    change (api'.objects.set creation.uploadId (newUpload uploadDirectory creation)).get? uploadId = some upload at hupload
    rw [hget] at hupload
    split at hupload
    · rename_i hid
      rw [hid, ← Option.some.inj hupload]
      exact hread
    · rename_i hid
      refine hkept.manifest uploadId ((List.mem_append.mp hmem).resolve_right fun hlast => hid ?_) upload hupload
      exact List.mem_singleton.mp hlast
  · intro ref' metadata now rest abort result' hcall' uploadId hmem
    have hbefore := (OrderedMap.get?_of_erase hcall').2
    rcases List.mem_append.mp hmem with hmem | hmem
    · refine (hkept.checked ref' metadata now rest abort result' hbefore uploadId hmem).imp_right
        fun hfresh upload hupload => hfresh upload ?_
      change (api'.objects.set creation.uploadId (newUpload uploadDirectory creation)).get? uploadId = some upload at hupload
      rwa [hget, if_neg (hne hmem)] at hupload
    · right
      intro upload hupload
      change (api'.objects.set creation.uploadId (newUpload uploadDirectory creation)).get? uploadId = some upload at hupload
      rw [hget, if_pos (List.mem_singleton.mp hmem), Option.some.injEq] at hupload
      rw [← hupload]
      rw [hcalls] at hbefore
      exact htimely ref' metadata now rest abort result' hbefore
  · intro ref' creation' hcall'
    exact hkept.unmade ref' creation' (OrderedMap.get?_of_erase hcall').2

/-- A call learns what its operation came to. -/
theorem setResult (h : Kept api) {ref : CallRef} {call : Call} (hcall : api.calls.get? ref = some call)
    (result : IoResult) (store : Store)
    (hread : ∀ uploadId ∈ api.uploads, store.read? (directoryName uploadId) UPLOAD_MANIFEST_FILE =
      api.store.read? (directoryName uploadId) UPLOAD_MANIFEST_FILE)
    (habsent : ∀ ref' creation, ref' ≠ ref → api.calls.get? ref' = some ⟨.makingDirectory creation, none⟩ →
      store.directories.get? (directoryName creation.uploadId) = none) :
    Kept ({ api with store }.setResult ref call result) := by
  have hget (ref' : CallRef) (call' : Call)
      (hcall' : (api.calls.set ref { call with result := some result }).get? ref' = some call') :
      call' = { call with result := some result } ∨ (ref' ≠ ref ∧ api.calls.get? ref' = some call') := by
    rw [OrderedMap.get?_set] at hcall'
    split at hcall'
    · exact .inl (Option.some.inj hcall').symm
    · rename_i hne
      exact .inr ⟨hne, hcall'⟩
  refine ⟨?_, fun uploadId hmem upload hupload => (hread uploadId hmem).trans (h.manifest uploadId hmem upload hupload),
    ?_, ?_⟩
  · have hcount : creating ({ api with store }.setResult ref call result) + weight api ref =
        creating api + call.stage.isCreating.toNat := OrderedMap.countP_values_set _ _ _ _
    have hweight : weight api ref = call.stage.isCreating.toNat := by
      rw [weight, hcall]
      rfl
    have hbounded := h.bounded
    change api.uploads.length + creating ({ api with store }.setResult ref call result) ≤ MAX_ACTIVE_UPLOADS
    omega
  · intro ref' metadata now rest abort result' hcall'
    rcases hget ref' _ hcall' with hnew | ⟨-, hold⟩
    · obtain ⟨stage, before⟩ := call
      cases hnew
      exact h.checked ref metadata now rest abort before hcall
    · exact h.checked ref' metadata now rest abort result' hold
  · intro ref' creation hcall'
    rcases hget ref' _ hcall' with hnew | ⟨hne, hold⟩
    · cases congrArg Call.result hnew
    · exact habsent ref' creation hne hold

theorem directoryName_ne (hwired : Wired api) {ref ref' : CallRef} {call : Call} {creation creation' : Creation}
    {result : Option IoResult} (hcall : api.calls.get? ref = some call)
    (hcreated : call.stage.created? = some creation.uploadId) (hne : ref' ≠ ref)
    (hcall' : api.calls.get? ref' = some ⟨.makingDirectory creation', result⟩) :
    directoryName creation'.uploadId ≠ directoryName creation.uploadId := by
  intro hsame
  refine (hwired.stage ref call hcall).alone creation.uploadId hcreated ref' _ hne hcall' ?_
  rw [← directoryName_injective hsame]
  rfl

/-- An operation leaves the manifests of the uploads, and the directories that other creates wait for do not exist. -/
theorem operate (h : Kept api) (hwired : Wired api) {ref : CallRef} {call : Call} {store : Store} {result : IoResult}
    (hcall : api.calls.get? ref = some call) (hoperated : Operated api call.stage store result) :
    (∀ uploadId ∈ api.uploads, store.read? (directoryName uploadId) UPLOAD_MANIFEST_FILE =
      api.store.read? (directoryName uploadId) UPLOAD_MANIFEST_FILE) ∧
    ∀ ref' creation, ref' ≠ ref → api.calls.get? ref' = some ⟨.makingDirectory creation, none⟩ →
      store.directories.get? (directoryName creation.uploadId) = none := by
  have hstage := hwired.stage ref call hcall
  have hsame (ref' : CallRef) (creation : Creation) (_ : ref' ≠ ref)
      (hcall' : api.calls.get? ref' = some ⟨.makingDirectory creation, none⟩) :
      api.store.directories.get? (directoryName creation.uploadId) = none := h.unmade ref' creation hcall'
  obtain ⟨stage, before⟩ := call
  cases hoperated with
  | failed => exact ⟨fun _ _ => rfl, hsame⟩
  | madeRoot metadata => exact ⟨fun _ _ => rfl, hsame⟩
  | made creation hnew =>
    refine ⟨fun uploadId _ => Store.read?_makeDirectory hnew, fun ref' creation' hne hcall' => ?_⟩
    exact (OrderedMap.get?_set_ne (directoryName_ne hwired hcall rfl hne hcall') _).trans (h.unmade ref' creation' hcall')
  | created creation entries hentries hnew =>
    have happart : creation.fileName ≠ UPLOAD_MANIFEST_FILE := hstage.ok.metadata.apart
    refine ⟨fun uploadId _ => ?_, fun ref' creation' hne hcall' => ?_⟩
    · rw [Store.read?_link hwired.sound hentries, if_neg fun hboth => happart hboth.2.symm]
    · exact (OrderedMap.get?_set_ne (directoryName_ne hwired hcall rfl hne hcall') _).trans
        (h.unmade ref' creation' hcall')
  | truncated creation file =>
    have happart : creation.fileName ≠ UPLOAD_MANIFEST_FILE := hstage.ok.metadata.apart
    have howned := hwired.file ref _ creation file hcall (by cases before <;> rfl)
    have hkept := h.updateStore howned (fun _ _ => .inr happart) fun content => resize content creation.metadata.size
    refine ⟨fun uploadId _ => Store.read?_update (fun hentry => happart (howned.only _ _ hentry).2.symm) _, ?_⟩
    exact fun ref' creation' _ hcall' => hkept.unmade ref' creation' hcall'
  | closed creation failed => exact ⟨fun _ _ => rfl, hsame⟩
  | read uploadId upload bytes => exact ⟨fun _ _ => rfl, hsame⟩
  | removed _ uploadId hremoves =>
    have hout := not_mem_of_target? hwired hcall (Stage.removes_eq hremoves)
    refine ⟨fun other hmem => Store.read?_remove fun hdirectory => hout (directoryName_injective hdirectory ▸ hmem), ?_⟩
    exact fun ref' creation' _ hcall' => (h.removeStore hout).unmade ref' creation' hcall'

theorem perform (h : Kept api) (hwired : Wired api) (ref : CallRef) (fails : Bool) : Kept (api.perform ref fails) := by
  rw [LocalBackendApi.perform]
  split
  · exact h
  rename_i call hcall
  split
  · exact h
  split
  · exact h
  · rename_i store result hoperate
    obtain ⟨hread, habsent⟩ := h.operate hwired hcall (operated_of_operate hoperate)
    exact h.setResult hcall result store hread habsent

theorem drawId (h : Kept api) {ref : CallRef} {metadata : FileUploadMetadata} {result : Option IoResult}
    (hcall : api.calls.get? ref = some ⟨.makingRoot metadata, result⟩)
    (hfresh : api.isFresh surroundings.uuid = true) :
    Kept ({ api with drawn := api.drawn ++ [surroundings.uuid] }.setStage ref
      (.makingDirectory ⟨metadata, surroundings.uuid, surroundings.now⟩)) := by
  simp only [isFresh, Bool.and_eq_true, Bool.not_eq_true'] at hfresh
  have hdrawn : Kept { api with drawn := api.drawn ++ [surroundings.uuid] } := h.congr_objects rfl rfl rfl rfl
  refine hdrawn.setStage_creating hcall rfl ⟨fun _ _ _ _ heq => (by cases heq), fun creation heq => ?_⟩
  cases heq
  rw [Option.eq_none_iff_forall_ne_some]
  intro entries hentries
  rw [Store.hasDirectory_iff.mpr ⟨entries, hentries⟩] at hfresh
  cases hfresh.1.2

theorem resume (h : Kept api) (hwired : Wired api) (ref : CallRef)
    (hsparing : Sparing api ⟨.resumed ref, surroundings⟩) : Kept (api.resume uploadDirectory surroundings ref) := by
  rw [LocalBackendApi.resume]
  split
  · exact h
  rename_i call hcall
  obtain ⟨stage, result⟩ := call
  cases stage with
  | cleaning metadata now rest abort =>
    have hchecked := h.checked ref metadata now rest abort result hcall
    dsimp only
    split
    · exact h
    · refine h.setStage (.inl (Nat.zero_le _)) ⟨fun _ _ _ _ heq => ?_, fun _ heq => by cases heq⟩
      cases heq
      exact hchecked
    · rename_i hfinished
      refine h.cleanupUploads hwired ref metadata now rest (fun hreaches => hsparing.readable now ?_) hchecked
      rw [sweeping_resumed hcall hfinished, if_pos hreaches]
    · exact h.answer ref _
  | cleaned metadata =>
    dsimp only
    split
    · exact h.answer ref _
    · rename_i hroom
      exact h.setStage (.inr (hsparing.limit ref metadata result rfl hcall (Nat.lt_of_not_le hroom))) (fits_of_isPlain rfl)
  | makingRoot metadata =>
    dsimp only
    split
    · exact h
    · exact h.answer ref _
    split
    · rename_i hfresh
      exact h.drawId hcall hfresh
    · exact h
  | makingDirectory creation =>
    dsimp only
    split
    · exact h
    · exact h.setStage_idle rfl rfl
    · exact h.setStage_creating hcall rfl (fits_of_isPlain rfl)
  | opening creation =>
    dsimp only
    split
    · exact h
    · exact h.setStage_creating hcall rfl (fits_of_isPlain rfl)
    · exact h.setStage_idle rfl rfl
  | truncating creation file =>
    dsimp only
    split
    · exact h
    · exact h.setStage_creating hcall rfl (fits_of_isPlain rfl)
    · exact h.setStage_creating hcall rfl (fits_of_isPlain rfl)
  | closing creation failed =>
    dsimp only
    split
    · exact h
    · exact h.setStage_idle rfl rfl
    split
    · exact h.setStage_idle rfl rfl
    · rename_i hfailed
      rw [Bool.not_eq_true] at hfailed
      subst hfailed
      exact h.register hwired hcall (hsparing.timely ref creation _ rfl hcall)
  | discarding uploadId =>
    dsimp only
    split
    · exact h
    · exact h.answer ref _
  | appending uploadId offset operation nextOffset =>
    dsimp only
    split
    · exact h
    · exact (h.dropChunk hwired uploadId offset).answer ref _
    · exact h.answer ref _
  | replaying operation nextOffset =>
    dsimp only
    split
    · exact h
    · exact h.answer ref _
    · exact h.answer ref _
  | settling uploadId operations =>
    dsimp only
    split
    · exact h.answer ref _
    split
    · exact h.checkReceived ref uploadId
    · exact h
  | reading uploadId =>
    dsimp only
    split
    · exact h
    · exact h.finishComplete hwired ref uploadId _
    · exact h.answer ref _
  | aborting abort =>
    dsimp only
    split
    · exact h
    · exact h.setStage_idle rfl rfl
    · exact h.answer ref _
    · exact h.answer ref _

theorem request (h : Kept api) (hwired : Wired api) (request : Request)
    (hsparing : Sparing api ⟨.requested request, surroundings⟩) :
    Kept (api.request uploadDirectory surroundings request) := by
  have hallocated : Kept { api with allocated := api.allocated + 1 } := h.congr_objects rfl rfl rfl rfl
  cases request with
  | createFileUpload value =>
    rw [LocalBackendApi.request]
    split
    · exact hallocated.answer _ _
    · rename_i metadata hread
      refine hallocated.cleanupUploads hwired.allocate _ metadata _ _ (fun hreaches => ?_) fun uploadId hmem => .inl hmem
      refine hsparing.readable surroundings.now ?_
      rw [sweeping_requested hread]
      exact if_pos hreaches
  | appendFileUpload uploadId offset data =>
    obtain ⟨hwritten, htimely⟩ := hsparing.written uploadId offset data rfl
    exact hallocated.appendFileUpload hwired.allocate _ uploadId offset data hwritten htimely
  | completeFileUpload uploadId => exact hallocated.completeFileUpload _ uploadId
  | abortFileUpload uploadId => exact (hallocated.startAbort uploadId).setStage_idle rfl rfl

theorem step (h : Kept api) (hwired : Wired api) (input : Input) (hsparing : Sparing api input) :
    Kept (local_backend_api.step uploadDirectory api input) := by
  obtain ⟨event, surroundings⟩ := input
  cases event with
  | requested request => exact h.request hwired request hsparing
  | performed call fails => exact h.perform hwired call fails
  | unlinked call name => exact h.unlink hwired call name
  | resumed call => exact h.resume hwired call hsparing
  | advanced operation outcome => exact h.advance hwired operation outcome

theorem initial (store : Store) : Kept { store } where
  bounded := Nat.zero_le _
  manifest := fun _ hmem => absurd hmem List.not_mem_nil
  checked := fun _ _ _ _ _ _ hcall => by cases hcall
  unmade := fun _ _ hcall => by cases hcall

end Kept

/-! The directories. -/

section Spares

variable {api : LocalBackendApi} {uploadDirectory : Names} {surroundings : Surroundings}

end Spares

/-- An upload id. -/
def someUploadId : JsString :=
  js "00000000-0000-4000-8000-000000000000"

/-- Nothing fails, and nothing is referred to. -/
def calm (now : Nat) (validNow : now ≤ MAX_TIME_MS) : Surroundings :=
  { now, validNow, uuid := someUploadId }

end pipane.local_backend_api

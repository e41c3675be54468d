import Pipane.Server.LocalBackendApi.Uploads

open javascript json posix_path file_store

namespace pipane.local_backend_api

open LocalBackendApi

/-! What the parts of a server know of each other, whatever happens. -/

/-- A payload does not take the name of the manifest. -/
def Apart (fileName : JsString) : Prop :=
  fileName ≠ UPLOAD_MANIFEST_FILE

/-- Metadata that passed the checks of a create, the payload under a name of its own. -/
structure FileUploadMetadata.Ok (metadata : FileUploadMetadata) : Prop where
  mimeType : metadata.mimeType ≠ []
  size : metadata.size ≤ MAX_UPLOAD_FILE_BYTES
  apart : Apart (safeUploadFileName metadata.fileName)

structure Creation.Ok (creation : Creation) : Prop where
  metadata : creation.metadata.Ok
  uploadId : isUploadId creation.uploadId = true
  now : creation.now ≤ MAX_TIME_MS

def Stage.Ok : Stage → Prop
  | .cleaning metadata _ _ _ => metadata.Ok
  | .cleaned metadata => metadata.Ok
  | .makingRoot metadata => metadata.Ok
  | .makingDirectory creation => creation.Ok
  | .opening creation => creation.Ok
  | .truncating creation _ => creation.Ok
  | .closing creation _ => creation.Ok
  | _ => True

/-- The id of a create that has drawn it and has not registered it, also where the create has failed. -/
def Stage.created? : Stage → Option JsString
  | .makingDirectory creation => some creation.uploadId
  | .opening creation => some creation.uploadId
  | .truncating creation _ => some creation.uploadId
  | .closing creation _ => some creation.uploadId
  | .discarding uploadId => some uploadId
  | _ => none

/-- The id of an upload whose directory a call may yet remove. -/
def Stage.target? (stage : Stage) : Option JsString :=
  stage.created?.or stage.aborted?

/-- The payload that a create has open. -/
def Call.file? (call : Call) : Option (Creation × FileRef) :=
  match call.stage, call.result with
  | .opening creation, some (.opened file) => some (creation, file)
  | .truncating creation file, _ => some (creation, file)
  | _, _ => none

theorem Stage.removes_eq {stage : Stage} {uploadId : JsString} (h : stage.removes = some uploadId) :
    stage.target? = some uploadId := by
  cases stage with
  | cleaning metadata now rest abort =>
    cases abort with
    | removing other => exact h
    | _ => cases h
  | discarding other => exact h
  | aborting abort =>
    cases abort with
    | removing other => exact h
    | _ => cases h
  | _ => cases h

theorem Stage.target?_of_created? {stage : Stage} {uploadId : JsString} (h : stage.created? = some uploadId) :
    stage.target? = some uploadId := by
  rw [target?, h]
  rfl

theorem Stage.target?_cases {stage : Stage} {uploadId : JsString} (h : stage.target? = some uploadId) :
    stage.created? = some uploadId ∨ stage.aborted? = some uploadId := by
  rw [target?, Option.or_eq_some_iff] at h
  exact h.imp_right And.right

/-- No entry names the file except, at most, the given one. -/
structure Owned (store : Store) (file : FileRef) (directory name : JsString) : Prop where
  known : file < store.allocated
  only : ∀ directory' name', store.lookup? directory' name' = some file → directory' = directory ∧ name' = name

theorem Owned.of_fewer {store other : Store} {file : FileRef} {directory name : JsString}
    (h : Owned store file directory name) (hallocated : store.allocated ≤ other.allocated)
    (hentries : ∀ d n f, other.lookup? d n = some f → store.lookup? d n = some f ∨ f = store.allocated) :
    Owned other file directory name := by
  refine ⟨Nat.lt_of_lt_of_le h.known hallocated, fun d n hentry => ?_⟩
  rcases hentries d n file hentry with hold | hnew
  · exact h.only d n hold
  · exact absurd h.known (by rw [hnew]; exact Nat.lt_irrefl _)

/-- An upload as it was registered, with what has changed since. -/
structure ObjectOk (api : LocalBackendApi) (uploadId : JsString) (upload : ActiveFileUpload) : Prop where
  same : upload.uploadId = uploadId
  apart : Apart upload.fileName
  drawn : uploadId ∈ api.drawn
  valid : (activeUploadManifest upload).Valid

/-- Where a call waits fits everything else: a create has its id for itself, and an abort has taken its upload. -/
structure StageOk (api : LocalBackendApi) (ref : CallRef) (stage : Stage) : Prop where
  ok : stage.Ok
  drawn : ∀ uploadId, stage.created? = some uploadId → uploadId ∈ api.drawn
  unknown : ∀ uploadId, stage.created? = some uploadId → api.objects.get? uploadId = none
  noManifest : ∀ uploadId, stage.created? = some uploadId →
    api.store.lookup? (directoryName uploadId) UPLOAD_MANIFEST_FILE = none
  alone : ∀ uploadId, stage.created? = some uploadId → ∀ ref' call', ref' ≠ ref → api.calls.get? ref' = some call' →
    call'.stage.target? ≠ some uploadId
  taken : ∀ uploadId, stage.aborted? = some uploadId → uploadId ∉ api.uploads

structure WriteOk (api : LocalBackendApi) (write : UploadWrite) : Prop where
  upload : ∃ upload, api.objects.get? write.uploadId = some upload ∧ upload.fileName = write.fileName
  file : ∀ file written, write.phase = .writing file written →
    Owned api.store file (directoryName write.uploadId) write.fileName

structure Wired (api : LocalBackendApi) : Prop where
  sound : Sound api.store
  nodup : api.uploads.Nodup
  registered : ∀ uploadId ∈ api.uploads, ∃ upload, api.objects.get? uploadId = some upload
  object : ∀ uploadId upload, api.objects.get? uploadId = some upload → ObjectOk api uploadId upload
  stage : ∀ ref call, api.calls.get? ref = some call → StageOk api ref call.stage
  file : ∀ ref call creation file, api.calls.get? ref = some call → call.file? = some (creation, file) →
    Owned api.store file (directoryName creation.uploadId) creation.fileName
  write : ∀ operation write, api.writes.get? operation = some write → WriteOk api write
  callRef : ∀ ref call, api.calls.get? ref = some call → ref < api.allocated
  writeRef : ∀ operation write, api.writes.get? operation = some write → operation < api.allocated

theorem directoryName_injective {uploadId uploadId' : JsString} (h : directoryName uploadId = directoryName uploadId') :
    uploadId = uploadId' :=
  List.append_cancel_left h

namespace Wired

variable {api : LocalBackendApi}

theorem object_of_get? {uploadId : JsString} {upload : ActiveFileUpload}
    (hget : api.get? uploadId = some upload) : uploadId ∈ api.uploads ∧ api.objects.get? uploadId = some upload := by
  rw [LocalBackendApi.get?] at hget
  split at hget
  · rename_i hmem
    exact ⟨hmem, hget⟩
  · cases hget

theorem not_registered (h : Wired api) {ref : CallRef} {call : Call} {uploadId : JsString}
    (hcall : api.calls.get? ref = some call) (hcreated : call.stage.created? = some uploadId) :
    uploadId ∉ api.uploads := by
  intro hmem
  obtain ⟨upload, hupload⟩ := h.registered uploadId hmem
  rw [(h.stage ref call hcall).unknown uploadId hcreated] at hupload
  cases hupload

theorem congr {api' : LocalBackendApi} (h : Wired api) (hstore : api'.store = api.store)
    (huploads : api'.uploads = api.uploads) (hobjects : api'.objects = api.objects) (hcalls : api'.calls = api.calls)
    (hwrites : api'.writes = api.writes) (hdrawn : api'.drawn = api.drawn)
    (hallocated : api.allocated ≤ api'.allocated) : Wired api' := by
  obtain ⟨store, uploads, objects, last, writes, calls, answers, allocated, drawn, expired⟩ := api'
  dsimp only at hstore huploads hobjects hcalls hwrites hdrawn hallocated
  subst hstore huploads hobjects hcalls hwrites hdrawn
  refine ⟨h.sound, h.nodup, h.registered, ?_, ?_, h.file, ?_, ?_, ?_⟩
  · intro uploadId upload hupload
    obtain ⟨hsame, hapart, hdrawn, hvalid⟩ := h.object uploadId upload hupload
    exact ⟨hsame, hapart, hdrawn, hvalid⟩
  · intro ref call hcall
    obtain ⟨hok, hdrawn, hunknown, hmanifest, halone, htaken⟩ := h.stage ref call hcall
    exact ⟨hok, hdrawn, hunknown, hmanifest, halone, htaken⟩
  · intro operation write hwrite
    exact ⟨(h.write operation write hwrite).upload, (h.write operation write hwrite).file⟩
  · exact fun ref call hcall => Nat.lt_of_lt_of_le (h.callRef ref call hcall) hallocated
  · exact fun operation write hwrite => Nat.lt_of_lt_of_le (h.writeRef operation write hwrite) hallocated

/-! Changes of the calls. -/

theorem withCalls (h : Wired api) (calls : OrderedMap CallRef Call)
    (hcalls : ∀ ref call, calls.get? ref = some call →
      StageOk { api with calls } ref call.stage ∧ ref < api.allocated ∧
        ∀ creation file, call.file? = some (creation, file) →
          Owned api.store file (directoryName creation.uploadId) creation.fileName) :
    Wired { api with calls } := by
  refine ⟨h.sound, h.nodup, h.registered, ?_, fun ref call hcall => (hcalls ref call hcall).1, ?_, ?_,
    fun ref call hcall => (hcalls ref call hcall).2.1, h.writeRef⟩
  · intro uploadId upload hupload
    obtain ⟨hsame, hapart, hdrawn, hvalid⟩ := h.object uploadId upload hupload
    exact ⟨hsame, hapart, hdrawn, hvalid⟩
  · exact fun ref call creation file hcall => (hcalls ref call hcall).2.2 creation file
  · intro operation write hwrite
    exact ⟨(h.write operation write hwrite).upload, (h.write operation write hwrite).file⟩

theorem answer (h : Wired api) (ref : CallRef) (result : Answer) : Wired (api.answer ref result) := by
  have hcalls : ∀ ref' call, (api.calls.erase ref).get? ref' = some call → api.calls.get? ref' = some call :=
    fun ref' call hcall => (OrderedMap.get?_of_erase hcall).2
  refine (h.withCalls (api.calls.erase ref) fun ref' call hcall => ?_).congr rfl rfl rfl rfl rfl rfl le_rfl
  have hold := hcalls ref' call hcall
  obtain ⟨hok, hdrawn, hunknown, hmanifest, halone, htaken⟩ := h.stage ref' call hold
  refine ⟨⟨hok, hdrawn, hunknown, hmanifest, ?_, htaken⟩, h.callRef ref' call hold,
    fun creation file => h.file ref' call creation file hold⟩
  intro uploadId hcreated ref'' call' hne hcall'
  exact halone uploadId hcreated ref'' call' hne (hcalls ref'' call' hcall')

/-- No other call creates what the call may remove. -/
def Clear (api : LocalBackendApi) (ref : CallRef) (stage : Stage) : Prop :=
  ∀ uploadId, stage.target? = some uploadId → ∀ ref' call', ref' ≠ ref → api.calls.get? ref' = some call' →
    call'.stage.created? ≠ some uploadId

/-- A call changes to a stage that fits. -/
theorem setCall (h : Wired api) {ref : CallRef} {call : Call} (href : ref < api.allocated)
    (hstage : StageOk api ref call.stage) (hclear : Clear api ref call.stage)
    (hfile : ∀ creation file, call.file? = some (creation, file) →
      Owned api.store file (directoryName creation.uploadId) creation.fileName) :
    Wired { api with calls := api.calls.set ref call } := by
  refine h.withCalls (api.calls.set ref call) fun ref' call' hcall' => ?_
  rw [OrderedMap.get?_set] at hcall'
  split at hcall'
  · rename_i hsame
    subst hsame
    rw [← Option.some.inj hcall']
    obtain ⟨hok, hdrawn, hunknown, hmanifest, halone, htaken⟩ := hstage
    refine ⟨⟨hok, hdrawn, hunknown, hmanifest, ?_, htaken⟩, href, hfile⟩
    intro uploadId hcreated ref'' call'' hne hcall''
    rw [OrderedMap.get?_set_ne hne] at hcall''
    exact halone uploadId hcreated ref'' call'' hne hcall''
  · rename_i hne
    obtain ⟨hok, hdrawn, hunknown, hmanifest, halone, htaken⟩ := h.stage ref' call' hcall'
    refine ⟨⟨hok, hdrawn, hunknown, hmanifest, ?_, htaken⟩, h.callRef ref' call' hcall',
      fun creation file => h.file ref' call' creation file hcall'⟩
    intro uploadId hcreated ref'' call'' hne' hcall''
    rw [OrderedMap.get?_set] at hcall''
    split at hcall''
    · rename_i hsame
      subst hsame
      rw [← Option.some.inj hcall'']
      intro htarget
      exact hclear uploadId htarget ref' call' hne hcall' hcreated
    · exact halone uploadId hcreated ref'' call'' hne' hcall''

theorem clear_of_call (h : Wired api) {ref : CallRef} {call : Call} (hcall : api.calls.get? ref = some call) :
    Clear api ref call.stage := by
  intro uploadId htarget ref' call' hne hcall' hcreated
  exact (h.stage ref' call' hcall').alone uploadId hcreated ref call hne.symm hcall htarget

theorem stageOk_of_target?_none {stage : Stage} (ref : CallRef) (hok : stage.Ok) (htarget : stage.target? = none) :
    StageOk api ref stage ∧ Clear api ref stage := by
  have hcreated : stage.created? = none := (Option.or_eq_none_iff.mp htarget).1
  have haborted : stage.aborted? = none := (Option.or_eq_none_iff.mp htarget).2
  refine ⟨⟨hok, ?_, ?_, ?_, ?_, ?_⟩, ?_⟩
  · intro uploadId h
    rw [hcreated] at h
    cases h
  · intro uploadId h
    rw [hcreated] at h
    cases h
  · intro uploadId h
    rw [hcreated] at h
    cases h
  · intro uploadId h
    rw [hcreated] at h
    cases h
  · intro uploadId h
    rw [haborted] at h
    cases h
  · intro uploadId h
    rw [htarget] at h
    cases h

theorem stageOk_of_same {old stage : Stage} {ref : CallRef} (hold : StageOk api ref old ∧ Clear api ref old)
    (hok : stage.Ok) (hcreated : stage.created? = old.created?) (haborted : stage.aborted? = old.aborted?) :
    StageOk api ref stage ∧ Clear api ref stage := by
  obtain ⟨⟨-, hdrawn, hunknown, hmanifest, halone, htaken⟩, hclear⟩ := hold
  have htarget : stage.target? = old.target? := by
    rw [Stage.target?, Stage.target?, hcreated, haborted]
  refine ⟨⟨hok, ?_, ?_, ?_, ?_, ?_⟩, ?_⟩
  · rwa [hcreated]
  · rwa [hcreated]
  · rwa [hcreated]
  · rwa [hcreated]
  · rwa [haborted]
  · rwa [Clear, htarget]

/-! Changes of the uploads. -/

theorem unregister (h : Wired api) (uploadId : JsString) :
    Wired { api with uploads := api.uploads.erase uploadId } := by
  refine ⟨h.sound, h.nodup.erase uploadId, fun other hmem => h.registered other (List.mem_of_mem_erase hmem), ?_, ?_,
    h.file, ?_, h.callRef, h.writeRef⟩
  · intro other upload hupload
    obtain ⟨hsame, hapart, hdrawn, hvalid⟩ := h.object other upload hupload
    exact ⟨hsame, hapart, hdrawn, hvalid⟩
  · intro ref call hcall
    obtain ⟨hok, hdrawn, hunknown, hmanifest, halone, htaken⟩ := h.stage ref call hcall
    exact ⟨hok, hdrawn, hunknown, hmanifest, halone, fun other haborted hmem =>
      htaken other haborted (List.mem_of_mem_erase hmem)⟩
  · intro operation write hwrite
    exact ⟨(h.write operation write hwrite).upload, (h.write operation write hwrite).file⟩

/-- An upload changes without its name. -/
theorem setObject (h : Wired api) {old upload : ActiveFileUpload} (hold : api.objects.get? upload.uploadId = some old)
    (hname : upload.fileName = old.fileName) (hvalid : (activeUploadManifest upload).Valid) :
    Wired (api.setObject upload) := by
  have hobject := h.object upload.uploadId old hold
  have hget (uploadId : JsString) : (api.setObject upload).objects.get? uploadId =
      if uploadId = upload.uploadId then some upload else api.objects.get? uploadId := OrderedMap.get?_set _ _ _ _
  refine ⟨h.sound, h.nodup, ?_, ?_, ?_, h.file, ?_, h.callRef, h.writeRef⟩
  · intro uploadId hmem
    obtain ⟨other, hother⟩ := h.registered uploadId hmem
    rw [hget]
    split
    · exact ⟨upload, rfl⟩
    · exact ⟨other, hother⟩
  · intro uploadId other hother
    rw [hget] at hother
    split at hother
    · rename_i hsame
      rw [← Option.some.inj hother]
      refine ⟨hsame.symm, ?_, ?_, hvalid⟩
      · rw [hname]
        exact hobject.apart
      · rw [hsame]
        exact hobject.drawn
    · obtain ⟨hsame, hapart, hdrawn, hvalid⟩ := h.object uploadId other hother
      exact ⟨hsame, hapart, hdrawn, hvalid⟩
  · intro ref call hcall
    obtain ⟨hok, hdrawn, hunknown, hmanifest, halone, htaken⟩ := h.stage ref call hcall
    refine ⟨hok, hdrawn, ?_, hmanifest, halone, htaken⟩
    intro uploadId hcreated
    rw [hget, if_neg]
    · exact hunknown uploadId hcreated
    · rintro rfl
      rw [hunknown _ hcreated] at hold
      cases hold
  · intro operation write hwrite
    obtain ⟨⟨other, hother, hfile⟩, howned⟩ := h.write operation write hwrite
    refine ⟨?_, howned⟩
    rw [hget]
    split
    · rename_i hsame
      rw [hsame, hold, Option.some.injEq] at hother
      exact ⟨upload, rfl, by rw [hname, hother, hfile]⟩
    · exact ⟨other, hother, hfile⟩

theorem setWrite (h : Wired api) {operation : WriteRef} {write : UploadWrite} (href : operation < api.allocated)
    (hwrite : WriteOk api write) : Wired { api with writes := api.writes.set operation write } := by
  refine ⟨h.sound, h.nodup, h.registered, ?_, ?_, h.file, ?_, h.callRef, ?_⟩
  · intro uploadId upload hupload
    obtain ⟨hsame, hapart, hdrawn, hvalid⟩ := h.object uploadId upload hupload
    exact ⟨hsame, hapart, hdrawn, hvalid⟩
  · intro ref call hcall
    obtain ⟨hok, hdrawn, hunknown, hmanifest, halone, htaken⟩ := h.stage ref call hcall
    exact ⟨hok, hdrawn, hunknown, hmanifest, halone, htaken⟩
  · intro other write' hwrite'
    rw [OrderedMap.get?_set] at hwrite'
    split at hwrite'
    · rw [← Option.some.inj hwrite']
      exact ⟨hwrite.upload, hwrite.file⟩
    · exact ⟨(h.write other write' hwrite').upload, (h.write other write' hwrite').file⟩
  · intro other write' hwrite'
    rw [OrderedMap.get?_set] at hwrite'
    split at hwrite'
    · rename_i hsame
      rw [hsame]
      exact href
    · exact h.writeRef other write' hwrite'

theorem draw (h : Wired api) (uuid : JsString) : Wired { api with drawn := api.drawn ++ [uuid] } := by
  refine ⟨h.sound, h.nodup, h.registered, ?_, ?_, h.file, ?_, h.callRef, h.writeRef⟩
  · intro uploadId upload hupload
    obtain ⟨hsame, hapart, hdrawn, hvalid⟩ := h.object uploadId upload hupload
    exact ⟨hsame, hapart, List.mem_append_left _ hdrawn, hvalid⟩
  · intro ref call hcall
    obtain ⟨hok, hdrawn, hunknown, hmanifest, halone, htaken⟩ := h.stage ref call hcall
    exact ⟨hok, fun uploadId hcreated => List.mem_append_left _ (hdrawn uploadId hcreated), hunknown, hmanifest, halone,
      htaken⟩
  · intro operation write hwrite
    exact ⟨(h.write operation write hwrite).upload, (h.write operation write hwrite).file⟩

/-! Changes of the store. -/

theorem setStore (h : Wired api) {store : Store} (hsound : Sound store)
    (howned : ∀ file directory name, Owned api.store file directory name → Owned store file directory name)
    (hmanifest : ∀ ref call uploadId, api.calls.get? ref = some call → call.stage.created? = some uploadId →
      store.lookup? (directoryName uploadId) UPLOAD_MANIFEST_FILE = none) : Wired { api with store } := by
  refine ⟨hsound, h.nodup, h.registered, ?_, ?_, ?_, ?_, h.callRef, h.writeRef⟩
  · intro uploadId upload hupload
    obtain ⟨hsame, hapart, hdrawn, hvalid⟩ := h.object uploadId upload hupload
    exact ⟨hsame, hapart, hdrawn, hvalid⟩
  · intro ref call hcall
    obtain ⟨hok, hdrawn, hunknown, -, halone, htaken⟩ := h.stage ref call hcall
    exact ⟨hok, hdrawn, hunknown, fun uploadId => hmanifest ref call uploadId hcall, halone, htaken⟩
  · exact fun ref call creation file hcall hfile => howned _ _ _ (h.file ref call creation file hcall hfile)
  · intro operation write hwrite
    obtain ⟨hupload, hfile⟩ := h.write operation write hwrite
    exact ⟨hupload, fun file written hphase => howned _ _ _ (hfile file written hphase)⟩

end Wired

/-! The operations of the file system. -/

/-- What an operation may do to the store and come to. -/
inductive Operated (api : LocalBackendApi) : Stage → Store → IoResult → Prop
  | failed (stage : Stage) : Operated api stage api.store .failed
  | madeRoot (metadata : FileUploadMetadata) : Operated api (.makingRoot metadata) api.store .done
  | made (creation : Creation) (hnew : api.store.directories.get? (directoryName creation.uploadId) = none) :
      Operated api (.makingDirectory creation) (api.store.makeDirectory (directoryName creation.uploadId)) .done
  | created (creation : Creation) (entries : OrderedMap JsString FileRef)
      (hentries : api.store.directories.get? (directoryName creation.uploadId) = some entries)
      (hnew : entries.get? creation.fileName = none) :
      Operated api (.opening creation) (api.store.link (directoryName creation.uploadId) creation.fileName entries [])
        (.opened api.store.allocated)
  | truncated (creation : Creation) (file : FileRef) :
      Operated api (.truncating creation file) (api.store.truncate file creation.metadata.size) .done
  | closed (creation : Creation) (failed : Bool) : Operated api (.closing creation failed) api.store .done
  | read (uploadId : JsString) (upload : ActiveFileUpload) (bytes : List UInt8)
      (hupload : api.objects.get? uploadId = some upload)
      (hread : api.store.read? (directoryName uploadId) upload.fileName = some bytes) :
      Operated api (.reading uploadId) api.store (.read bytes)
  | removed (stage : Stage) (uploadId : JsString) (hremoves : stage.removes = some uploadId) :
      Operated api stage (api.store.remove (directoryName uploadId)) .done

theorem operated_of_operate {api : LocalBackendApi} {stage : Stage} {fails : Bool} {store : Store} {result : IoResult}
    (h : api.operate stage fails = some (store, result)) : Operated api stage store result := by
  have hremoved (uploadId : JsString) (hremoves : stage.removes = some uploadId)
      (heq : (if fails = true then (api.store, IoResult.failed) else (api.store.remove (directoryName uploadId), .done)) =
        (store, result)) : Operated api stage store result := by
    split at heq
    · cases heq
      exact .failed stage
    · cases heq
      exact .removed stage uploadId hremoves
  cases stage with
  | makingRoot metadata =>
    rw [LocalBackendApi.operate] at h
    split at h
    · cases h
      exact .failed _
    · cases h
      exact .madeRoot metadata
  | makingDirectory creation =>
    rw [LocalBackendApi.operate] at h
    split at h
    · cases h
      exact .failed _
    · rename_i hnew
      cases h
      refine .made creation ?_
      rw [Option.eq_none_iff_forall_ne_some]
      exact fun entries hentries => hnew (.inr (Store.hasDirectory_iff.mpr ⟨entries, hentries⟩))
  | opening creation =>
    rw [LocalBackendApi.operate] at h
    split at h
    · cases h
      exact .failed _
    split at h
    · cases h
      exact .failed _
    · rename_i file store' hcreate
      cases h
      rw [Store.create?] at hcreate
      split at hcreate
      · cases hcreate
      rename_i entries hentries
      split at hcreate
      · cases hcreate
      rename_i hnew
      cases hcreate
      exact .created creation entries hentries (Option.not_isSome_iff_eq_none.mp hnew)
  | truncating creation file =>
    rw [LocalBackendApi.operate] at h
    split at h
    · cases h
      exact .failed _
    · cases h
      exact .truncated creation file
  | closing creation failed =>
    rw [LocalBackendApi.operate] at h
    split at h
    · cases h
      exact .failed _
    · cases h
      exact .closed creation failed
  | reading uploadId =>
    rw [LocalBackendApi.operate] at h
    split at h
    · cases h
      exact .failed _
    · rename_i bytes hbind
      obtain ⟨upload, hupload, hread⟩ := Option.bind_eq_some_iff.mp hbind
      split at h
      · cases h
        exact .failed _
      · cases h
        exact .read uploadId upload bytes hupload hread
  | cleaning metadata now rest abort =>
    obtain ⟨uploadId, hremoves, heq⟩ := Option.map_eq_some_iff.mp h
    exact hremoved uploadId hremoves heq
  | discarding other => exact hremoved other rfl (Option.some.inj h)
  | aborting abort =>
    obtain ⟨uploadId, hremoves, heq⟩ := Option.map_eq_some_iff.mp h
    exact hremoved uploadId hremoves heq
  | _ => cases h

end pipane.local_backend_api

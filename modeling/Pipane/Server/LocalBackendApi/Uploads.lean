import Pipane.Lib.Base64.Url
import Pipane.Lib.FileStore
import Pipane.Lib.Transition
import Pipane.Server.LocalBackendApi.UploadManifest

open javascript json posix_path file_store

namespace pipane.local_backend_api

def MAX_UPLOAD_FILE_BYTES : Nat := 20 * 1024 * 1024

def MAX_UPLOAD_CHUNK_BYTES : Nat := 256 * 1024

def MAX_ACTIVE_UPLOADS : Nat := 32

def ACTIVE_UPLOAD_TTL_MS : Nat := 60 * 60000

def COMPLETED_UPLOAD_RETENTION_MS : Nat := 7 * 24 * 60 * 60000

structure LocalBackendApiError where
  message : JsString
  status : Nat
  code : JsString

structure FileUploadMetadata where
  fileName : JsString
  mimeType : JsString
  size : Nat

structure FileUploadResponse extends FileUploadMetadata where
  path : JsString

abbrev CallRef := Nat

abbrev WriteRef := Nat

structure ActiveUploadChunk where
  length : Nat
  digest : JsString
  operation : WriteRef

structure ActiveFileUpload extends FileUploadMetadata where
  uploadId : JsString
  path : JsString
  createdAt : Nat
  updatedAt : Nat
  received : Nat := 0
  chunks : OrderedMap Nat ActiveUploadChunk := ∅

/-- Where `writeUploadChunk` waits: for `open`, for a `write`, for `close`, or for nothing any more. -/
inductive WritePhase
  | opening
  | writing (file : FileRef) (written : Nat)
  | closing (failed : Bool)
  | settled (failed : Bool)
deriving DecidableEq

/-- A call of `writeUploadChunk` with the append that made it. -/
structure UploadWrite where
  caller : CallRef
  uploadId : JsString
  fileName : JsString
  offset : Nat
  bytes : List UInt8
  phase : WritePhase := .opening

/-- A create that has drawn its id. -/
structure Creation where
  metadata : FileUploadMetadata
  uploadId : JsString
  now : Nat

def Creation.fileName (creation : Creation) : JsString :=
  safeUploadFileName creation.metadata.fileName

/-- Where `abortFileUpload` waits: for the writes of the upload, for `rm`, or for nothing any more. -/
inductive Abort
  | settling (uploadId : JsString) (operations : List WriteRef)
  | removing (uploadId : JsString)
  | returning

/-- What happens to an abort that goes on. -/
inductive AbortProgress
  | blocked
  | waiting (abort : Abort)
  | finished
  | rejected

/-- Where a call waits. -/
inductive Stage
  | cleaning (metadata : FileUploadMetadata) (now : Nat) (rest : List JsString) (abort : Abort)
  | cleaned (metadata : FileUploadMetadata)
  | makingRoot (metadata : FileUploadMetadata)
  | makingDirectory (creation : Creation)
  | opening (creation : Creation)
  | truncating (creation : Creation) (file : FileRef)
  | closing (creation : Creation) (failed : Bool)
  | discarding (uploadId : JsString)
  | appending (uploadId : JsString) (offset : Nat) (operation : WriteRef) (nextOffset : Nat)
  | replaying (operation : WriteRef) (nextOffset : Nat)
  | settling (uploadId : JsString) (operations : List WriteRef)
  | reading (uploadId : JsString)
  | aborting (abort : Abort)

/-- The id of an upload that an abort has yet to remove. -/
def Abort.target? : Abort → Option JsString
  | .settling uploadId _ => some uploadId
  | .removing uploadId => some uploadId
  | .returning => none

def Stage.aborted? : Stage → Option JsString
  | .cleaning _ _ _ abort => abort.target?
  | .aborting abort => abort.target?
  | _ => none

/-- The upload whose directory the call is about to remove. -/
def Stage.removes : Stage → Option JsString
  | .cleaning _ _ _ (.removing uploadId) => some uploadId
  | .discarding uploadId => some uploadId
  | .aborting (.removing uploadId) => some uploadId
  | _ => none

/-- What an operation of the file system came to. -/
inductive IoResult
  | done
  | failed
  | opened (file : FileRef)
  | read (bytes : List UInt8)

structure Call where
  stage : Stage
  result : Option IoResult := none

inductive Failure
  | api (error : LocalBackendApiError)
  | system

inductive Answer
  | created (uploadId : JsString)
  | appended (nextOffset : Nat)
  | completed (uploadId : JsString) (response : FileUploadResponse)
  | aborted
  | rejected (failure : Failure)

inductive Request
  | createFileUpload (metadata : Value)
  | appendFileUpload (uploadId : JsString) (offset data : Value)
  | completeFileUpload (uploadId : JsString)
  | abortFileUpload (uploadId : JsString)

/-- What an operation of a write came to; a `write` may take fewer bytes than it was given. -/
inductive WriteOutcome
  | done
  | failed
  | wrote (count : Nat)

/-- What happens: a request comes in, an operation of the file system takes place for a call, `rm` removes one entry, a
    call goes on, or a write goes on. -/
inductive Event
  | requested (request : Request)
  | performed (call : CallRef) (fails : Bool)
  | unlinked (call : CallRef) (name : JsString)
  | resumed (call : CallRef)
  | advanced (operation : WriteRef) (outcome : WriteOutcome)

/-- `objects` holds every upload that was registered, `uploads` the ids of those that still are, `drawn` what
    `randomUUID` gave, and `expired` what was pruned when its retention had ended. -/
structure LocalBackendApi where
  store : Store
  uploads : List JsString := []
  objects : OrderedMap JsString ActiveFileUpload := ∅
  lastUploadCleanupAt : Nat := 0
  writes : OrderedMap WriteRef UploadWrite := ∅
  calls : OrderedMap CallRef Call := ∅
  answers : OrderedMap CallRef Answer := ∅
  allocated : Nat := 0
  drawn : List JsString := []
  expired : List (StoredUploadManifest × Nat) := []

/-- What the server meets during one event: the clock, what `randomUUID` gives, whether a manifest can be written, which
    manifests cannot be read, whether the directories cannot be listed, the uploads that a session refers to, and what
    of a directory is removed where `rmSync` throws. -/
structure Surroundings where
  now : Nat
  validNow : now ≤ MAX_TIME_MS
  uuid : JsString := []
  manifestFails : Bool := false
  unreadable : JsString → Bool := fun _ => false
  unlisted : Bool := false
  referenced : JsString → Bool := fun _ => false
  unremovable : JsString → Option (List JsString) := fun _ => none

/-- `/^[0-9a-f]{8}-[0-9a-f]{4}-4[0-9a-f]{3}-[89ab][0-9a-f]{3}-[0-9a-f]{12}$/u` -/
def isUploadId (text : JsString) : Bool :=
  text.length = 36 && text.zipIdx.all fun (u, i) =>
    if i ∈ [8, 13, 18, 23] then u = 0x2D
    else if i = 14 then u = 0x34
    else if i = 19 then u ∈ js "89ab"
    else (0x30 ≤ u.toNat && u.toNat ≤ 0x39) || (0x61 ≤ u.toNat && u.toNat ≤ 0x66)

def UPLOAD_DIRECTORY_PREFIX : JsString := js "pipane-upload-"

/-- The name of the directory of an upload. -/
def directoryName (uploadId : JsString) : JsString :=
  UPLOAD_DIRECTORY_PREFIX ++ uploadId

/-- `createHash("sha256").update(bytes).digest("hex")` -/
def sha256Hex (bytes : List UInt8) : JsString :=
  (sha256.digest bytes).words.flatMap fun word =>
    (List.range 8).map fun i => hexDigit (word.toNat / 16 ^ (7 - i) % 16)

def uploadError (message : String) (status : Nat) (code : String) : Failure :=
  .api ⟨js message, status, js code⟩

def NOT_FOUND : Failure := uploadError "File upload was not found" 404 "not_found"

/-- The checks of `createFileUpload`. -/
def readMetadata (metadata : Value) : Except Failure FileUploadMetadata :=
  match metadata.get? (js "fileName") with
  | some (.str fileName) =>
    if fileName = [] then throw (uploadError "Upload filename is required" 400 "invalid_request")
    else
      match metadata.get? (js "mimeType") with
      | some (.str mimeType) =>
        if mimeType = [] ∨ 255 < mimeType.length then
          throw (uploadError "Upload MIME type is invalid" 400 "invalid_request")
        else
          match metadata.get? (js "size") with
          | some (.num (.int size)) =>
            if 0 ≤ size ∧ size ≤ MAX_UPLOAD_FILE_BYTES then return ⟨fileName, mimeType, size.toNat⟩
            else throw (uploadError "Upload exceeds the 20MB size limit" 413 "invalid_request")
          | _ => throw (uploadError "Upload exceeds the 20MB size limit" 413 "invalid_request")
      | _ => throw (uploadError "Upload MIME type is invalid" 400 "invalid_request")
  | _ => throw (uploadError "Upload filename is required" 400 "invalid_request")

/-- `/^[A-Za-z0-9+/]*={0,2}$/u` -/
def isBase64Text (data : JsString) : Bool :=
  let digits := data.takeWhile fun u => (base64.decodeSextet u).isSome
  let padding := data.drop digits.length
  padding.length ≤ 2 && padding.all (· = base64.pad)

/-- The padding counts as much as it has units. -/
def paddingLength (data : JsString) : Nat :=
  if (js "==").isSuffixOf data then 2 else if (js "=").isSuffixOf data then 1 else 0

def decodeUploadChunk (data : Value) : Except Failure (List UInt8) :=
  let invalid := uploadError "Upload chunk is not valid base64" 400 "invalid_request"
  match data with
  | .str data =>
    if data = [] ∨ data.length % 4 ≠ 0 ∨ isBase64Text data = false then throw invalid
    else
      let bytes := base64.decodeUrl data
      if bytes.length ≠ data.length / 4 * 3 - paddingLength data then throw invalid else return bytes
  | _ => throw invalid

namespace LocalBackendApi

variable (uploadDirectory : Names) (surroundings : Surroundings) (self : LocalBackendApi)

/-- `this.uploads.get(uploadId)` -/
def get? (uploadId : JsString) : Option ActiveFileUpload :=
  if uploadId ∈ self.uploads then self.objects.get? uploadId else none

def setObject (upload : ActiveFileUpload) : LocalBackendApi :=
  { self with objects := self.objects.set upload.uploadId upload }

/-- The call waits. -/
def setStage (ref : CallRef) (stage : Stage) : LocalBackendApi :=
  { self with calls := self.calls.set ref { stage } }

/-- The call settles. -/
def answer (ref : CallRef) (result : Answer) : LocalBackendApi :=
  { self with calls := self.calls.erase ref, answers := self.answers.set ref result }

def readManifest (directory : JsString) : Option StoredUploadManifest :=
  if surroundings.unreadable directory then none
  else (self.store.read? directory UPLOAD_MANIFEST_FILE).bind readUploadManifest

def readStoredUpload (uploadId : JsString) : Option StoredUploadManifest :=
  if isUploadId uploadId then
    (self.readManifest surroundings (directoryName uploadId)).filter fun manifest =>
      manifest.uploadId = uploadId &&
        dirname manifest.path = uploadDirectoryPath (absolute uploadDirectory) uploadId
  else none

/-- The temporary file of a manifest has a name of its own; what is left of it after a failure does not matter. -/
def writeUploadManifest (manifest : StoredUploadManifest) : Option LocalBackendApi :=
  if surroundings.manifestFails then none
  else (self.store.replace? (directoryName manifest.uploadId) UPLOAD_MANIFEST_FILE
    (encodeUploadManifest manifest)).map fun store => { self with store }

def activeUploadManifest (upload : ActiveFileUpload) : StoredUploadManifest :=
  { uploadId := upload.uploadId, state := .active, fileName := upload.fileName, mimeType := upload.mimeType,
    size := upload.size, path := upload.path, createdAt := upload.createdAt, updatedAt := upload.updatedAt }

/-! `abortFileUpload` and `cleanupUploads` -/

/-- `abortFileUpload` up to where it first waits. -/
def startAbort (uploadId : JsString) : LocalBackendApi × Abort :=
  match self.get? uploadId with
  | some upload =>
    ({ self with uploads := self.uploads.erase uploadId },
      .settling uploadId (upload.chunks.values.map (·.operation)))
  | none =>
    match self.readStoredUpload uploadDirectory surroundings uploadId with
    | some manifest => (self, if manifest.state = .active then .removing uploadId else .returning)
    | none => (self, .returning)

def uploadDirectories : List JsString :=
  if surroundings.unlisted then [] else self.store.directories.keys.filter UPLOAD_DIRECTORY_PREFIX.isPrefixOf

/-- `rmSync(directory, { recursive: true, force: true })`, with whether it throws. -/
def rmSync (directory : JsString) : LocalBackendApi × Bool :=
  match surroundings.unremovable directory with
  | none => ({ self with store := self.store.remove directory }, false)
  | some names => ({ self with store := names.foldl (fun store name => store.unlink directory name) self.store }, true)

/-- What the first loop over the directories removes. -/
def isStale (now : Nat) : Option StoredUploadManifest → Bool
  | none => true
  | some manifest => manifest.state = .active && ACTIVE_UPLOAD_TTL_MS < now - manifest.updatedAt

def removeStale (now : Nat) : List JsString → LocalBackendApi → LocalBackendApi × Bool
  | [], self => (self, false)
  | directory :: rest, self =>
    if isStale now (self.readManifest surroundings directory) then
      match self.rmSync surroundings directory with
      | (self, true) => (self, true)
      | (self, false) => removeStale now rest self
    else removeStale now rest self

/-- What `pruneCompletedUploads` removes. -/
def isExpired (now : Nat) (manifest : StoredUploadManifest) : Bool :=
  manifest.state = .completed && COMPLETED_UPLOAD_RETENTION_MS < now - manifest.updatedAt &&
    !surroundings.referenced manifest.path

def pruneCompletedUploads (now : Nat) : List JsString → LocalBackendApi → LocalBackendApi × Bool
  | [], self => (self, false)
  | directory :: rest, self =>
    match (self.readManifest surroundings directory).filter (isExpired surroundings now) with
    | none => pruneCompletedUploads now rest self
    | some manifest =>
      match { self with expired := self.expired ++ [(manifest, now)] }.rmSync surroundings directory with
      | (self, true) => (self, true)
      | (self, false) => pruneCompletedUploads now rest self

/-- The loops over the directories, with whether one throws. -/
def cleanDirectories (now : Nat) : LocalBackendApi × Bool :=
  match removeStale surroundings now (self.uploadDirectories surroundings) self with
  | (self, true) => (self, true)
  | (self, false) =>
    let self := { self with lastUploadCleanupAt := now }
    pruneCompletedUploads surroundings now (self.uploadDirectories surroundings) self

/-- `cleanupUploads` after its loop over the uploads. -/
def finishCleanup (ref : CallRef) (metadata : FileUploadMetadata) (now : Nat) : LocalBackendApi :=
  if now - self.lastUploadCleanupAt < ACTIVE_UPLOAD_TTL_MS then self.setStage ref (.cleaned metadata)
  else
    match self.cleanDirectories surroundings now with
    | (self, true) => self.answer ref (.rejected .system)
    | (self, false) => self.setStage ref (.cleaned metadata)

/-- The loop of `cleanupUploads` over the uploads there were when it began. -/
def cleanupUploads (ref : CallRef) (metadata : FileUploadMetadata) (now : Nat) :
    List JsString → LocalBackendApi → LocalBackendApi
  | [], self => self.finishCleanup surroundings ref metadata now
  | uploadId :: rest, self =>
    match self.objects.get? uploadId with
    | none => cleanupUploads ref metadata now rest self
    | some upload =>
      if now - upload.updatedAt ≤ ACTIVE_UPLOAD_TTL_MS then cleanupUploads ref metadata now rest self
      else
        let (self, abort) := self.startAbort uploadDirectory surroundings uploadId
        self.setStage ref (.cleaning metadata now rest abort)

/-! `createFileUpload` -/

/-- The `catch` of `createFileUpload`. -/
def discard (ref : CallRef) (creation : Creation) : LocalBackendApi :=
  self.setStage ref (.discarding creation.uploadId)

/-- The upload that a create registers. -/
def newUpload (creation : Creation) : ActiveFileUpload :=
  { uploadId := creation.uploadId, fileName := creation.fileName, mimeType := creation.metadata.mimeType,
    size := creation.metadata.size,
    path := uploadPath (uploadDirectoryPath (absolute uploadDirectory) creation.uploadId) creation.fileName,
    createdAt := creation.now, updatedAt := creation.now }

/-- `createFileUpload` after the payload file was closed. -/
def register (ref : CallRef) (creation : Creation) : LocalBackendApi :=
  let upload := newUpload uploadDirectory creation
  match self.writeUploadManifest surroundings (activeUploadManifest upload) with
  | none => self.discard ref creation
  | some self =>
    ({ self with uploads := self.uploads ++ [creation.uploadId] }.setObject upload).answer ref
      (.created creation.uploadId)

/-- `randomUUID` gives an id that nobody knows: it has not been given before, names no directory and is in no call. -/
def isFresh (uuid : JsString) : Bool :=
  isUploadId uuid && uuid ∉ self.drawn && !self.store.hasDirectory (directoryName uuid) &&
    self.calls.values.all fun call => call.stage.aborted? ≠ some uuid

/-! `appendFileUpload` -/

def overlaps (offset length : Nat) (entry : Nat × ActiveUploadChunk) : Bool :=
  offset < entry.1 + entry.2.length && entry.1 < offset + length

/-- `appendFileUpload` after its checks of the chunk itself. -/
def appendChunk (ref : CallRef) (upload : ActiveFileUpload) (offset : Nat) (bytes : List UInt8) : LocalBackendApi :=
  match upload.chunks.get? offset with
  | some prior =>
    if prior.length ≠ bytes.length ∨ prior.digest ≠ sha256Hex bytes then
      self.answer ref (.rejected (uploadError "Upload chunk conflicts with existing data" 409 "conflict"))
    else self.setStage ref (.replaying prior.operation (offset + bytes.length))
  | none =>
    if upload.chunks.entries.any (overlaps offset bytes.length) then
      self.answer ref (.rejected (uploadError "Upload chunk overlaps existing data" 409 "conflict"))
    else
      let upload := { upload with updatedAt := surroundings.now }
      let self := self.setObject upload
      match self.writeUploadManifest surroundings (activeUploadManifest upload) with
      | none => self.answer ref (.rejected .system)
      | some self =>
        let operation := self.allocated
        let chunk := ⟨bytes.length, sha256Hex bytes, operation⟩
        { self.setObject { upload with chunks := upload.chunks.set offset chunk } with
          writes := self.writes.set operation ⟨ref, upload.uploadId, upload.fileName, offset, bytes, .opening⟩
          allocated := self.allocated + 1 }.setStage ref
            (.appending upload.uploadId offset operation (offset + bytes.length))

/-- A safe integer that is not negative. -/
def readOffset : Value → Option Nat
  | .num (.int n) => if isSafeInteger n && decide (0 ≤ n) then some n.toNat else none
  | _ => none

def appendFileUpload (ref : CallRef) (uploadId : JsString) (offset data : Value) : LocalBackendApi :=
  match self.get? uploadId with
  | none => self.answer ref (.rejected NOT_FOUND)
  | some upload =>
    match readOffset offset with
    | none => self.answer ref (.rejected (uploadError "Upload chunk offset is invalid" 400 "invalid_request"))
    | some offset =>
      match decodeUploadChunk data with
      | .error failure => self.answer ref (.rejected failure)
      | .ok bytes =>
        if bytes.length = 0 ∨ MAX_UPLOAD_CHUNK_BYTES < bytes.length then
          self.answer ref (.rejected (uploadError "Upload chunk size is invalid" 413 "invalid_request"))
        else if upload.size < offset + bytes.length then
          self.answer ref (.rejected
            (uploadError "Upload chunk exceeds the declared file size" 400 "invalid_request"))
        else self.appendChunk surroundings ref upload offset bytes

/-! `completeFileUpload` -/

def response (manifest : StoredUploadManifest) : FileUploadResponse :=
  { path := manifest.path, fileName := manifest.fileName, mimeType := manifest.mimeType, size := manifest.size }

def completeFileUpload (ref : CallRef) (uploadId : JsString) : LocalBackendApi :=
  match self.get? uploadId with
  | some upload => self.setStage ref (.settling uploadId (upload.chunks.values.map (·.operation)))
  | none =>
    match self.readStoredUpload uploadDirectory surroundings uploadId with
    | some manifest =>
      if manifest.state = .completed then
        self.answer ref (.completed uploadId (response manifest))
      else self.answer ref (.rejected NOT_FOUND)
    | none => self.answer ref (.rejected NOT_FOUND)

def incompleteMessage (received size : Nat) : JsString :=
  js "File upload is incomplete (" ++ decimal received ++ js " of " ++ decimal size ++ js " bytes received)"

/-- `completeFileUpload` after the writes there were have settled. -/
def checkReceived (ref : CallRef) (uploadId : JsString) : LocalBackendApi :=
  match self.objects.get? uploadId with
  | none => self
  | some upload =>
    if upload.received ≠ upload.size then
      self.answer ref (.rejected (.api ⟨incompleteMessage upload.received upload.size, 409, js "conflict"⟩))
    else self.setStage ref (.reading uploadId)

def completedManifest (upload : ActiveFileUpload) (now : Nat) (bytes : List UInt8) : StoredUploadManifest :=
  { activeUploadManifest upload with state := .completed, updatedAt := now, digest := some (sha256Hex bytes) }

/-- `completeFileUpload` after the payload was read. -/
def finishComplete (ref : CallRef) (uploadId : JsString) (bytes : List UInt8) : LocalBackendApi :=
  match self.objects.get? uploadId with
  | none => self
  | some upload =>
    let completed := completedManifest upload surroundings.now bytes
    match self.writeUploadManifest surroundings completed with
    | none => self.answer ref (.rejected .system)
    | some self =>
      { self with uploads := self.uploads.erase uploadId }.answer ref
        (.completed uploadId (response completed))

/-! The calls and the writes as they go on. -/

/-- Whether a write has settled, and whether it failed. -/
def outcome? (operation : WriteRef) : Option Bool :=
  match (self.writes.get? operation).map UploadWrite.phase with
  | some (.settled failed) => some failed
  | _ => none

/-- `abortFileUpload` goes on. -/
def progress (abort : Abort) (result : Option IoResult) : AbortProgress :=
  match abort with
  | .settling uploadId operations =>
    if operations.all fun operation => (self.outcome? operation).isSome then .waiting (.removing uploadId)
    else .blocked
  | .removing _ =>
    match result with
    | none => .blocked
    | some .failed => .rejected
    | some _ => .finished
  | .returning => .finished

/-- The `catch` of `appendFileUpload`. -/
def dropChunk (uploadId : JsString) (offset : Nat) : LocalBackendApi :=
  match self.objects.get? uploadId with
  | none => self
  | some upload => self.setObject { upload with chunks := upload.chunks.erase offset }

def request (request : Request) : LocalBackendApi :=
  let ref := self.allocated
  let self := { self with allocated := ref + 1 }
  match request with
  | .createFileUpload metadata =>
    match readMetadata metadata with
    | .error failure => self.answer ref (.rejected failure)
    | .ok metadata => self.cleanupUploads uploadDirectory surroundings ref metadata surroundings.now self.uploads
  | .appendFileUpload uploadId offset data => self.appendFileUpload surroundings ref uploadId offset data
  | .completeFileUpload uploadId => self.completeFileUpload uploadDirectory surroundings ref uploadId
  | .abortFileUpload uploadId =>
    let (self, abort) := self.startAbort uploadDirectory surroundings uploadId
    self.setStage ref (.aborting abort)

/-- A call goes on where what it waits for has happened. -/
def resume (ref : CallRef) : LocalBackendApi :=
  match self.calls.get? ref with
  | none => self
  | some call =>
    match call.stage with
    | .cleaning metadata now rest abort =>
      match self.progress abort call.result with
      | .blocked => self
      | .waiting abort => self.setStage ref (.cleaning metadata now rest abort)
      | .finished => self.cleanupUploads uploadDirectory surroundings ref metadata now rest
      | .rejected => self.answer ref (.rejected .system)
    | .cleaned metadata =>
      if MAX_ACTIVE_UPLOADS ≤ self.uploads.length then
        self.answer ref (.rejected (uploadError "Too many file uploads are active" 409 "conflict"))
      else self.setStage ref (.makingRoot metadata)
    | .makingRoot metadata =>
      match call.result with
      | none => self
      | some .failed => self.answer ref (.rejected .system)
      | some _ =>
        if self.isFresh surroundings.uuid then
          { self with drawn := self.drawn ++ [surroundings.uuid] }.setStage ref
            (.makingDirectory ⟨metadata, surroundings.uuid, surroundings.now⟩)
        else self
    | .makingDirectory creation =>
      match call.result with
      | none => self
      | some .failed => self.discard ref creation
      | some _ => self.setStage ref (.opening creation)
    | .opening creation =>
      match call.result with
      | none => self
      | some (.opened file) => self.setStage ref (.truncating creation file)
      | some _ => self.discard ref creation
    | .truncating creation _ =>
      match call.result with
      | none => self
      | some .failed => self.setStage ref (.closing creation true)
      | some _ => self.setStage ref (.closing creation false)
    | .closing creation failed =>
      match call.result with
      | none => self
      | some .failed => self.discard ref creation
      | some _ => if failed then self.discard ref creation else self.register uploadDirectory surroundings ref creation
    | .discarding _ =>
      match call.result with
      | none => self
      | some _ => self.answer ref (.rejected .system)
    | .appending uploadId offset operation nextOffset =>
      match self.outcome? operation with
      | none => self
      | some true => (self.dropChunk uploadId offset).answer ref (.rejected .system)
      | some false => self.answer ref (.appended nextOffset)
    | .replaying operation nextOffset =>
      match self.outcome? operation with
      | none => self
      | some true => self.answer ref (.rejected .system)
      | some false => self.answer ref (.appended nextOffset)
    | .settling uploadId operations =>
      if operations.any fun operation => self.outcome? operation = some true then self.answer ref (.rejected .system)
      else if operations.all fun operation => self.outcome? operation = some false then self.checkReceived ref uploadId
      else self
    | .reading uploadId =>
      match call.result with
      | none => self
      | some (.read bytes) => self.finishComplete surroundings ref uploadId bytes
      | some _ => self.answer ref (.rejected .system)
    | .aborting abort =>
      match self.progress abort call.result with
      | .blocked => self
      | .waiting abort => self.setStage ref (.aborting abort)
      | .finished => self.answer ref .aborted
      | .rejected => self.answer ref (.rejected .system)

/-- The operation of the file system that a call waits for has taken place. -/
def setResult (ref : CallRef) (call : Call) (result : IoResult) : LocalBackendApi :=
  { self with calls := self.calls.set ref { call with result := some result } }

/-- What an operation does to the store and comes to. -/
def operate (stage : Stage) (fails : Bool) : Option (Store × IoResult) :=
  match stage with
  | .makingRoot _ => some (self.store, if fails then .failed else .done)
  | .makingDirectory creation =>
    if fails ∨ self.store.hasDirectory (directoryName creation.uploadId) then some (self.store, .failed)
    else some (self.store.makeDirectory (directoryName creation.uploadId), .done)
  | .opening creation =>
    if fails then some (self.store, .failed)
    else
      match self.store.create? (directoryName creation.uploadId) creation.fileName with
      | none => some (self.store, .failed)
      | some (file, store) => some (store, .opened file)
  | .truncating creation file =>
    if fails then some (self.store, .failed) else some (self.store.truncate file creation.metadata.size, .done)
  | .closing _ _ => some (self.store, if fails then .failed else .done)
  | .reading uploadId =>
    match (self.objects.get? uploadId).bind fun upload => self.store.read? (directoryName uploadId) upload.fileName with
    | none => some (self.store, .failed)
    | some bytes => some (self.store, if fails then .failed else .read bytes)
  | stage =>
    stage.removes.map fun uploadId =>
      if fails then (self.store, .failed) else (self.store.remove (directoryName uploadId), .done)

def perform (ref : CallRef) (fails : Bool) : LocalBackendApi :=
  match self.calls.get? ref with
  | none => self
  | some call =>
    if call.result.isSome then self
    else
      match self.operate call.stage fails with
      | none => self
      | some (store, result) => { self with store }.setResult ref call result

/-- `rm` removes an entry before it settles. -/
def unlink (ref : CallRef) (name : JsString) : LocalBackendApi :=
  match self.calls.get? ref with
  | none => self
  | some call =>
    if call.result.isSome then self
    else
      match call.stage.removes with
      | none => self
      | some uploadId => { self with store := self.store.unlink (directoryName uploadId) name }

def setPhase (operation : WriteRef) (write : UploadWrite) (phase : WritePhase) : LocalBackendApi :=
  { self with writes := self.writes.set operation { write with phase } }

/-- The write has settled well: its bytes count as received. -/
def settle (operation : WriteRef) (write : UploadWrite) : LocalBackendApi :=
  let self := self.setPhase operation write (.settled false)
  match self.objects.get? write.uploadId with
  | none => self
  | some upload => self.setObject { upload with received := upload.received + write.bytes.length }

/-- `writeUploadChunk` goes on. -/
def advance (operation : WriteRef) (outcome : WriteOutcome) : LocalBackendApi :=
  match self.writes.get? operation with
  | none => self
  | some write =>
    match write.phase, outcome with
    | .opening, .failed => self.setPhase operation write (.settled true)
    | .opening, _ =>
      match self.store.lookup? (directoryName write.uploadId) write.fileName with
      | none => self.setPhase operation write (.settled true)
      | some file => self.setPhase operation write (.writing file 0)
    | .writing file written, .wrote count =>
      if count = 0 then self.setPhase operation write (.closing true)
      else
        let bytes := (write.bytes.drop written).take count
        let self := { self with store := self.store.write file (write.offset + written) bytes }
        if written + bytes.length < write.bytes.length then
          self.setPhase operation write (.writing file (written + bytes.length))
        else self.setPhase operation write (.closing false)
    | .writing _ _, _ => self.setPhase operation write (.closing true)
    | .closing _, .failed => self.setPhase operation write (.settled true)
    | .closing failed, _ =>
      if failed then self.setPhase operation write (.settled true) else self.settle operation write
    | .settled _, _ => self

end LocalBackendApi

structure Input where
  event : Event
  surroundings : Surroundings

def step (uploadDirectory : Names) (self : LocalBackendApi) (input : Input) : LocalBackendApi :=
  match input.event with
  | .requested request => self.request uploadDirectory input.surroundings request
  | .performed call fails => self.perform call fails
  | .unlinked call name => self.unlink call name
  | .resumed call => self.resume uploadDirectory input.surroundings call
  | .advanced operation outcome => self.advance operation outcome

end pipane.local_backend_api

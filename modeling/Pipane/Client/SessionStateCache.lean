import Pipane.Lib.OrderedMap
import Pipane.Lib.Transition
import Pipane.Shared.WsProtocol.SessionState

open javascript json pipane.ws_protocol

namespace pipane.session_state_cache

def PREVIEW_RENDERABLE_MESSAGES : Nat := 50

def MAX_PREVIEW_BYTES : Nat := 256 * 1024

structure CacheManifest where
  key : JsString
  backendId : JsString
  sessionPath : JsString
  hash : JsString
  messageHashes : List JsString
  previewJson : Option JsString
  previewHash : Option JsString
  byteSize : Nat
  lastAccessedAt : Nat
deriving DecidableEq

structure CacheSnapshot where
  key : JsString
  json : JsString
deriving DecidableEq

structure CachedSessionState where
  json : JsString
  hash : JsString
  state : List (JsString × Value)
  messageHashes : List JsString
  messageObjects : OrderedMap JsString Value

structure CachedSessionPreview where
  hash : JsString
  state : List (JsString × Value)

structure Preview where
  json : JsString
  hash : JsString
  bytes : Nat
deriving DecidableEq

def cacheKey (backendId sessionPath : JsString) : JsString :=
  backendId ++ 0 :: sessionPath

def byteLength (text : JsString) : Nat :=
  (textEncode text).length

/-- The text of an optional property that is neither missing nor empty. -/
def presentText : Option JsString → Option JsString
  | some (u :: text) => some (u :: text)
  | _ => none

/-- `state.messages`. -/
def stateMessages (state : List (JsString × Value)) : List Value :=
  match state.lookup (js "messages") with
  | some (.arr messages) => messages
  | _ => []

variable (computeHash : JsString → JsString)

def hashMessages (messages : List Value) : List JsString :=
  messages.map fun message => computeHash (stringify message)

/-- `starts`: where the last messages that are no tool results begin, newest first. -/
def previewStarts (messages : List Value) : List Nat :=
  let starts := ((messages.zipIdx.reverse.filter fun message =>
    stringMember (js "role") message.1 ≠ some (js "toolResult")).take PREVIEW_RENDERABLE_MESSAGES).map Prod.snd
  if starts = [] then [0] else starts

/-- `{ ...state, messages: state.messages.slice(start) }` -/
def previewState (state : List (JsString × Value)) (start : Nat) : Value :=
  .obj (OrderedMap.overwrite (js "messages") (.arr ((stateMessages state).drop start)) state)

/-- The loop of `createPreview`, in so many rounds; `none` where it does not end in them. -/
def shrinkPreview (state : List (JsString × Value)) (starts : List Nat) : Nat → Nat → Option (Option Preview)
  | 0, _ => none
  | rounds + 1, count =>
    if count = 0 then some none
    else
      let json := stringify (previewState state (starts.getD (count - 1) 0))
      if byteLength json ≤ MAX_PREVIEW_BYTES then
        some (some { json, hash := computeHash json, bytes := byteLength json })
      else shrinkPreview state starts rounds (min (count - 1) (count * 3 / 4))

def createPreview (state : List (JsString × Value)) : Option (Option Preview) :=
  shrinkPreview computeHash state (previewStarts (stateMessages state)) (PREVIEW_RENDERABLE_MESSAGES + 1)
    (previewStarts (stateMessages state)).length

/-- The order of keys in an object store, unit by unit. -/
def keyLe : JsString → JsString → Bool
  | [], _ => true
  | _ :: _, [] => false
  | u :: left, v :: right => u.toNat < v.toNat || (u.toNat = v.toNat && keyLe left right)

/-- The two object stores, by their keys. -/
structure Database where
  manifests : OrderedMap JsString CacheManifest
  snapshots : OrderedMap JsString CacheSnapshot

/-- An operation that waits for its next transaction. -/
inductive Task
  | save (manifest : CacheManifest) (snapshot : CacheSnapshot)
  | load (key : JsString)
  | loadPreview (key : JsString)
  | remove (key : JsString)
  | backfillPreview (key snapshotHash : JsString) (preview : Preview)
  | touch (key : JsString)
  /-- The read of `prune`. -/
  | prune
  /-- The write of `prune`. -/
  | evict (keys : List JsString)
deriving DecidableEq

/-- What one transaction leaves: the stores, the operations that go on after it, and what was returned. -/
structure Commit where
  database : Database
  tasks : List Task
  loaded : List (Option CachedSessionState)
  previewed : List (Option CachedSessionPreview)

namespace Database

def putManifest (self : Database) (manifest : CacheManifest) : Database :=
  { self with manifests := self.manifests.set manifest.key manifest }

def putSnapshot (self : Database) (snapshot : CacheSnapshot) : Database :=
  { self with snapshots := self.snapshots.set snapshot.key snapshot }

/-- The deletion of a key in both stores. -/
def delete (self : Database) (key : JsString) : Database where
  manifests := self.manifests.erase key
  snapshots := self.snapshots.erase key

/-- `getAll()` of the manifests: in the order of their keys. -/
def allManifests (self : Database) : List CacheManifest :=
  (self.manifests.entries.mergeSort fun left right => keyLe left.1 right.1).map Prod.snd

end Database

/-- The loop of `prune`, from the manifest of the given index on. -/
def evictedFrom (maxBytes maxSessions : Nat) : Nat → Nat → List CacheManifest → List CacheManifest
  | _, _, [] => []
  | index, retainedBytes, manifest :: manifests =>
    if index < maxSessions ∧ retainedBytes + manifest.byteSize ≤ maxBytes then
      evictedFrom maxBytes maxSessions (index + 1) (retainedBytes + manifest.byteSize) manifests
    else manifest :: evictedFrom maxBytes maxSessions (index + 1) retainedBytes manifests

/-- The manifests that `prune` evicts: the least recently used beyond the limits. -/
def Database.evicted (maxBytes maxSessions : Nat) (self : Database) : List CacheManifest :=
  evictedFrom maxBytes maxSessions 0 0
    (self.allManifests.mergeSort fun left right => decide (right.lastAccessedAt ≤ left.lastAccessedAt))

/-- `messageObjects`. -/
def messageObjects (hashes : List JsString) (messages : List Value) : OrderedMap JsString Value :=
  (hashes.zip messages).foldl (fun objects entry => objects.set entry.1 entry.2) ∅

/-- `load` after its transaction. -/
def finishLoad (database : Database) (key : JsString) : Option CacheManifest → Option CacheSnapshot → Commit
  | none, none => { database, tasks := [], loaded := [none], previewed := [] }
  | some manifest, some snapshot =>
    match decodeSessionStateJson snapshot.json with
    | .error _ => { database, tasks := [.remove key], loaded := [none], previewed := [] }
    | .ok state =>
      if computeHash snapshot.json ≠ manifest.hash ∨ (stateMessages state).length ≠ manifest.messageHashes.length then
        { database, tasks := [.remove key], loaded := [none], previewed := [] }
      else
        let backfill : List Task :=
          match presentText manifest.previewJson, (createPreview computeHash state).join with
          | none, some preview => [.backfillPreview key manifest.hash preview]
          | _, _ => []
        { database
          tasks := backfill ++ [.touch key]
          loaded := [some {
            json := snapshot.json, hash := manifest.hash, state, messageHashes := manifest.messageHashes
            messageObjects := messageObjects manifest.messageHashes (stateMessages state) }]
          previewed := [] }
  | _, _ => { database, tasks := [.remove key], loaded := [none], previewed := [] }

/-- `loadPreview` after its transaction. -/
def finishLoadPreview (database : Database) (key : JsString) (manifest : Option CacheManifest) : Commit :=
  let missing : Commit := { database, tasks := [], loaded := [], previewed := [none] }
  match manifest with
  | none => missing
  | some manifest =>
    match presentText manifest.previewJson, presentText manifest.previewHash with
    | some previewJson, some previewHash =>
      match decodeSessionStateJson previewJson with
      | .error _ => missing
      | .ok state =>
        if computeHash previewJson ≠ previewHash then missing
        else { database, tasks := [.touch key], loaded := [], previewed := [some { hash := manifest.hash, state }] }
    | _, _ => missing

/-- The next transaction of an operation, and what the operation does until it waits for another one. `now` is
    `Date.now()`. -/
def Task.commit (maxBytes maxSessions : Nat) (database : Database) (now : Nat) : Task → Commit
  | .save manifest snapshot =>
    { database := (database.putManifest manifest).putSnapshot snapshot
      tasks := [.prune], loaded := [], previewed := [] }
  | .load key => finishLoad computeHash database key (database.manifests.get? key) (database.snapshots.get? key)
  | .loadPreview key => finishLoadPreview computeHash database key (database.manifests.get? key)
  | .remove key => { database := database.delete key, tasks := [], loaded := [], previewed := [] }
  | .backfillPreview key snapshotHash preview =>
    let database :=
      match database.manifests.get? key with
      | none => database
      | some current =>
        if current.hash = snapshotHash ∧ presentText current.previewJson = none then
          database.putManifest { current with
            previewJson := some preview.json
            previewHash := some preview.hash
            byteSize := current.byteSize + preview.bytes }
        else database
    { database, tasks := [.prune], loaded := [], previewed := [] }
  | .touch key =>
    let database :=
      match database.manifests.get? key with
      | none => database
      | some manifest => database.putManifest { manifest with lastAccessedAt := now }
    { database, tasks := [], loaded := [], previewed := [] }
  | .prune =>
    let evicted := (database.evicted maxBytes maxSessions).map CacheManifest.key
    { database, tasks := if evicted = [] then [] else [.evict evicted], loaded := [], previewed := [] }
  | .evict keys => { database := keys.foldl Database.delete database, tasks := [], loaded := [], previewed := [] }

/-- A call of one of the methods. -/
inductive Request
  | loadPreview (backendId sessionPath : JsString)
  | load (backendId sessionPath : JsString)
  | save (backendId sessionPath json hash : JsString) (messageHashes : Option (List JsString))
  | remove (backendId sessionPath : JsString)

/-- `save` up to its transaction: nothing where the text is no session state. -/
def beginSave (now : Nat) (backendId sessionPath json hash : JsString) (messageHashes : Option (List JsString)) :
    List Task :=
  match decodeSessionStateJson json with
  | .error _ => []
  | .ok state =>
    let hashes :=
      match messageHashes with
      | some hashes =>
        if hashes.length = (stateMessages state).length then hashes else hashMessages computeHash (stateMessages state)
      | none => hashMessages computeHash (stateMessages state)
    let key := cacheKey backendId sessionPath
    let preview := (createPreview computeHash state).join
    [.save
      { key, backendId, sessionPath, hash, messageHashes := hashes
        previewJson := preview.map Preview.json
        previewHash := preview.map Preview.hash
        byteSize := byteLength json + (preview.map Preview.bytes).getD 0
        lastAccessedAt := now }
      { key, json }]

def Request.begin (now : Nat) : Request → List Task
  | .loadPreview backendId sessionPath => [.loadPreview (cacheKey backendId sessionPath)]
  | .load backendId sessionPath => [.load (cacheKey backendId sessionPath)]
  | .save backendId sessionPath json hash messageHashes =>
    beginSave computeHash now backendId sessionPath json hash messageHashes
  | .remove backendId sessionPath => [.remove (cacheKey backendId sessionPath)]

/-- The database with the operations in progress, and what `load` and `loadPreview` have returned. -/
structure IndexedDbSessionStateCache where
  database : Database
  tasks : List Task
  loaded : List (Option CachedSessionState)
  previewed : List (Option CachedSessionPreview)

/-- A call, or the transaction of the operation at an index. -/
inductive Event
  | requested (request : Request) (now : Nat)
  | committed (index now : Nat)

namespace IndexedDbSessionStateCache

def fresh : IndexedDbSessionStateCache where
  database := ⟨∅, ∅⟩
  tasks := []
  loaded := []
  previewed := []

def react (maxBytes maxSessions : Nat) (self : IndexedDbSessionStateCache) : Event → IndexedDbSessionStateCache
  | .requested request now => { self with tasks := self.tasks ++ request.begin computeHash now }
  | .committed index now =>
    match self.tasks[index]? with
    | none => self
    | some task =>
      let commit := task.commit computeHash maxBytes maxSessions self.database now
      { database := commit.database
        tasks := self.tasks.eraseIdx index ++ commit.tasks
        loaded := self.loaded ++ commit.loaded
        previewed := self.previewed ++ commit.previewed }

/-- The cache after any calls with their transactions in any order. -/
def reached (maxBytes maxSessions : Nat) (events : List Event) : IndexedDbSessionStateCache :=
  transition.run (react computeHash maxBytes maxSessions) fresh events

end IndexedDbSessionStateCache

end pipane.session_state_cache

import Mathlib.Algebra.Order.Ring.Rat
import Mathlib.Data.List.Sort
import Pipane.Lib.BufferText
import Pipane.Server.SessionToolPaths

open javascript json posix_path

namespace pipane.session_index

structure SessionLineage where
  parentSession : Option JsString := none
  projectCwd : Option JsString := none
  worktreeName : Option JsString := none
deriving DecidableEq

def SESSION_LINEAGE_ENTRY_TYPE : JsString := js "pipane-lineage"

def absolutePath (processCwd : Names) : Option Value → Option JsString
  | some (.str value) => if isAbsolute value then some (resolve processCwd [value]) else none
  | _ => none

def lineageWorktreeName (data : Value) : Option JsString :=
  match data.get? (js "worktreeName") with
  | some (.str text) =>
    let worktreeName := trim text
    if worktreeName ≠ [] ∧ SLASH ∉ worktreeName ∧ 0x5C ∉ worktreeName then some worktreeName else none
  | _ => none

def lineageOf (processCwd : Names) (data : Value) : Option SessionLineage :=
  let projectCwd := absolutePath processCwd (data.get? (js "projectCwd"))
  let lineage : SessionLineage :=
    { parentSession := absolutePath processCwd (data.get? (js "parentSession"))
      projectCwd
      worktreeName := projectCwd.bind fun _ => lineageWorktreeName data }
  if lineage = {} then none else some lineage

def readSessionLineage (processCwd : Names) (entries : List Value) : Option SessionLineage :=
  (entries.find? fun entry => isStr (js "custom") (entry.get? (js "type")) &&
    isStr SESSION_LINEAGE_ENTRY_TYPE (entry.get? (js "customType"))).bind fun entry =>
      (entry.get? (js "data")).bind (lineageOf processCwd)

/-- What the language adds: the time of a text (`none` is `NaN`), the value of a number (`none` where it is not finite),
    and the text of a time (`none` is the thrown `RangeError`). -/
structure Dates where
  getTime : JsString → Option Rat
  number : Number → Option Rat
  toISOString : Rat → Option JsString

def MAX_RECENT_TOOL_PATHS : Nat := 16

/-- What an extractor makes of the content of a session file, apart from how its directory is displayed. -/
structure Extracted where
  id : JsString
  cwd : JsString
  name : Option JsString
  created : JsString
  modified : JsString
  lastUserPromptTime : Option JsString
  messageCount : Nat
  firstMessage : JsString
  recentToolPaths : List JsString
  lineage : Option SessionLineage
deriving DecidableEq

/-- Of the content of a session file and of its `mtimeMs`. -/
abbrev Extractor := JsString → Rat → Option Extracted

def joinSpaces : List JsString → JsString
  | [] => []
  | [text] => text
  | text :: texts => text ++ 0x20 :: joinSpaces texts

def extractTextContent : Value → JsString
  | .str text => text
  | .arr content =>
    trim (joinSpaces ((content.filter fun c => isStr (js "text") (c.get? (js "type"))).map fun c =>
      textOrEmpty (c.get? (js "text"))))
  | _ => []

/-- The state of the loop over the entries. -/
structure Activity where
  name : Option JsString := none
  messageCount : Nat := 0
  firstMessage : JsString := []
  lastActivityTime : Option Rat := none
  lastUserPromptTimeMs : Rat := 0

section

variable (dates : Dates)

def timestampOf (entry message : Value) : Option Rat :=
  let messageTs :=
    match message.get? (js "timestamp") with
    | some (.num n) => dates.number n
    | _ => none
  let entryTs :=
    match entry.get? (js "timestamp") with
    | some (.str text) => dates.getTime text
    | _ => none
  messageTs.or entryTs

def Activity.visitMessage (activity : Activity) (entry message : Value) : Activity :=
  match message.get? (js "role"), message.get? (js "content") with
  | some (.str role), some content =>
    let isUser := role = js "user"
    if isUser ∨ role = js "assistant" then
      let ts := timestampOf dates entry message
      { activity with
        firstMessage := if isUser ∧ activity.firstMessage = [] then extractTextContent content else activity.firstMessage
        lastActivityTime := match ts with
          | some ts => some (max (activity.lastActivityTime.getD 0) ts)
          | none => activity.lastActivityTime
        lastUserPromptTimeMs := match ts with
          | some ts => if isUser then max activity.lastUserPromptTimeMs ts else activity.lastUserPromptTimeMs
          | none => activity.lastUserPromptTimeMs }
    else activity
  | _, _ => activity

def Activity.visit (activity : Activity) (entry : Value) : Activity :=
  if isStr (js "session_info") (entry.get? (js "type")) then
    match entry.get? (js "name") with
    | some (.str name) => if trim name ≠ [] then { activity with name := some (trim name) } else activity
    | _ => activity
  else if isStr (js "message") (entry.get? (js "type")) then
    let activity := { activity with messageCount := activity.messageCount + 1 }
    match entry.get? (js "message") with
    | some message => activity.visitMessage dates entry message
    | none => activity
  else activity

/-- `extractSessionMeta` of this version; `parseSessionEntries` may throw. -/
def extract (processCwd : Names) (parseSessionEntries : JsString → Option (List Value)) : Extractor :=
  fun content statMtimeMs => do
    let entries ← parseSessionEntries content
    let header ← entries.head?
    guard (isStr (js "session") (header.get? (js "type")))
    let id ← session_tool_paths.textField (js "id") header
    let cwd := (session_tool_paths.textField (js "cwd") header).getD []
    let activity := entries.foldl (Activity.visit dates) {}
    let createdMs := (session_tool_paths.textField (js "timestamp") header).bind dates.getTime
    let created ← dates.toISOString (createdMs.getD statMtimeMs)
    let modified ← dates.toISOString
      (((activity.lastActivityTime.filter fun time => 0 < time).or createdMs).getD statMtimeMs)
    let lastUserPromptTime ←
      if 0 < activity.lastUserPromptTimeMs then (dates.toISOString activity.lastUserPromptTimeMs).map some
      else some none
    let toolPaths := (session_tool_paths.extractSuccessfulToolPaths processCwd entries cwd).map fun activity => activity.path
    return {
      id, cwd, name := activity.name, created, modified, lastUserPromptTime, messageCount := activity.messageCount
      firstMessage := if activity.firstMessage = [] then js "(no messages)" else activity.firstMessage
      recentToolPaths := toolPaths.drop (toolPaths.length - MAX_RECENT_TOOL_PATHS)
      lineage := readSessionLineage processCwd entries }

end

/-- A session file by what `readFileSync` and `statSync` tell. -/
structure File where
  content : List UInt8
  mtimeMs : Rat

def File.size (file : File) : Nat := file.content.length

/-- The fields of a `SessionListItem` that are extracted. -/
structure SessionMeta where
  path : JsString
  cwdDisplay : JsString
  extracted : Extracted
deriving DecidableEq

structure CachedSessionEntry where
  fileMtimeMs : Rat
  fileSize : Nat
  entry : SessionMeta
deriving DecidableEq

structure SessionIndexCacheFile where
  extractorVersion : JsString
  entries : OrderedMap JsString CachedSessionEntry

/-- `cwd && this.cwdDisplayFormatter ? this.cwdDisplayFormatter(cwd) : cwd` -/
def cwdDisplay (cwdDisplayFormatter : Option (JsString → JsString)) (cwd : JsString) : JsString :=
  match cwdDisplayFormatter with
  | some format => if cwd = [] then cwd else format cwd
  | none => cwd

def extractSessionMeta (extractor : Extractor) (cwdDisplayFormatter : Option (JsString → JsString))
    (sessionPath : JsString) (file : File) : Option SessionMeta :=
  (extractor (bufferText file.content) file.mtimeMs).map fun extracted =>
    { path := sessionPath, cwdDisplay := cwdDisplay cwdDisplayFormatter extracted.cwd, extracted }

/-- What a cache keeps of a file. -/
def cachedEntry (extractor : Extractor) (cwdDisplayFormatter : Option (JsString → JsString)) (sessionPath : JsString)
    (file : File) : Option CachedSessionEntry :=
  (extractSessionMeta extractor cwdDisplayFormatter sessionPath file).map fun entry =>
    { fileMtimeMs := file.mtimeMs, fileSize := file.size, entry }

structure SessionListItem where
  session : SessionMeta
  worktreeName : JsString
  projectCwd : Option JsString
  projectCwdDisplay : Option JsString
  parentSessionPath : Option JsString

/-- The resolvers at the time of a listing; `none` where they throw. -/
structure Resolvers where
  resolveCheckout : JsString → List JsString → Option SessionLineage → Option (JsString × Option JsString)
  worktreeNameResolver : Option (JsString → List JsString → Option JsString)

/-- The sessions as they are found, with the entries for the next cache, and whether these differ from the last. -/
structure Scan where
  sessions : List CachedSessionEntry := []
  nextEntries : OrderedMap JsString CachedSessionEntry := ∅
  mutated : Bool := false

def isUnchanged (cached : CachedSessionEntry) (file : File) : Bool :=
  cached.fileMtimeMs = file.mtimeMs && cached.fileSize = file.size

structure SessionIndex where
  extractorVersion : JsString
  cwdDisplayFormatter : Option (JsString → JsString)
  inMemoryCache : Option (Option SessionIndexCacheFile) := none

section

variable (extractors : JsString → Extractor)

namespace SessionIndex

variable (self : SessionIndex)

/-- The entry of one session file, and whether it is a new one. -/
def visit (previousEntries : OrderedMap JsString CachedSessionEntry) (sessionPath : JsString) (file : File) :
    Option CachedSessionEntry × Bool :=
  match (previousEntries.get? sessionPath).filter (isUnchanged · file) with
  | some cached => (some cached, false)
  | none => (cachedEntry (extractors self.extractorVersion) self.cwdDisplayFormatter sessionPath file, true)

def scan (previousEntries : OrderedMap JsString CachedSessionEntry) (scan : Scan) (session : JsString × File) : Scan :=
  let (entry, isNew) := visit extractors self previousEntries session.1 session.2
  match entry with
  | some entry =>
    { sessions := scan.sessions ++ [entry], nextEntries := scan.nextEntries.set session.1 entry
      mutated := scan.mutated || isNew }
  | none => { scan with mutated := scan.mutated || isNew }

def previousEntries (existing : Option SessionIndexCacheFile) : OrderedMap JsString CachedSessionEntry :=
  match existing with
  | some cache => if cache.extractorVersion = self.extractorVersion then cache.entries else ∅
  | none => ∅

def canReuse (existing : Option SessionIndexCacheFile) : Bool :=
  match existing with
  | some cache => cache.extractorVersion = self.extractorVersion
  | none => false

def decorate (resolvers : Resolvers) (nextEntries : OrderedMap JsString CachedSessionEntry) (listedPaths : List JsString)
    (session : SessionMeta) : SessionListItem :=
  let cached := nextEntries.get? session.path
  let recentToolPaths := (cached.map (·.entry.extracted.recentToolPaths)).getD []
  let lineage := cached.bind (·.entry.extracted.lineage)
  let checkout := resolvers.resolveCheckout session.extracted.cwd recentToolPaths lineage
  let named (name : JsString) : JsString := if name = [] then js "root" else name
  let projectCwd := (checkout.bind Prod.snd).filter fun projectCwd => projectCwd ≠ [] && projectCwd ≠ session.extracted.cwd
  { session
    worktreeName := match resolvers.worktreeNameResolver with
      | some worktreeNameResolver => named ((worktreeNameResolver session.extracted.cwd recentToolPaths).getD [])
      | none => named ((checkout.map Prod.fst).getD [])
    projectCwd
    projectCwdDisplay := projectCwd.map fun projectCwd => (self.cwdDisplayFormatter.getD id) projectCwd
    parentSessionPath := (lineage.bind SessionLineage.parentSession).filter fun parent =>
      parent ≠ [] && parent ≠ session.path && parent ∈ listedPaths }

/-- The sessions by their time, the newest first. -/
def sorted (dates : Dates) (sessions : List CachedSessionEntry) : List SessionMeta :=
  (sessions.map CachedSessionEntry.entry).mergeSort fun a b =>
    decide ((dates.getTime b.extracted.modified).getD 0 ≤ (dates.getTime a.extracted.modified).getD 0)

/-- A listing of session files over a cache, with the entries for the next and whether they are to be written. -/
def listing (dates : Dates) (resolvers : Resolvers) (files : OrderedMap JsString File)
    (existing : Option SessionIndexCacheFile) :
    List SessionListItem × OrderedMap JsString CachedSessionEntry × Bool :=
  let previousEntries := self.previousEntries existing
  let found := files.entries.foldl (scan extractors self previousEntries) { mutated := !self.canReuse existing }
  let mutated := found.mutated || previousEntries.size ≠ found.nextEntries.size ||
    previousEntries.keys.any fun key => !found.nextEntries.contains key
  let sessions := sorted dates found.sessions
  (sessions.map (self.decorate resolvers found.nextEntries (sessions.map SessionMeta.path)), found.nextEntries, mutated)

end SessionIndex

/-! The index with its cache file, while session files come, change and go. -/

structure System where
  index : SessionIndex
  disk : Option SessionIndexCacheFile
  files : OrderedMap JsString File

inductive Event
  | write (sessionPath : JsString) (file : File)
  | delete (sessionPath : JsString)
  | list (resolvers : Resolvers) (cacheWritten : Bool)
  | invalidateAll (unlinked : Bool)
  | changeFilters (cwdDisplayFormatter : Option (JsString → JsString)) (unlinked : Bool)
  | restart (extractorVersion : JsString) (cwdDisplayFormatter : Option (JsString → JsString))

/-- `getCache` -/
def System.getCache (system : System) : Option SessionIndexCacheFile :=
  system.index.inMemoryCache.getD system.disk

/-- A change of the filters of a running server is followed by `invalidateAll` at once. -/
def step (dates : Dates) (system : System) : Event → System
  | .write sessionPath file => { system with files := system.files.set sessionPath file }
  | .delete sessionPath => { system with files := system.files.erase sessionPath }
  | .list resolvers cacheWritten =>
    let existing := system.getCache
    let (_, entries, mutated) := system.index.listing extractors dates resolvers system.files existing
    let cache : SessionIndexCacheFile := { extractorVersion := system.index.extractorVersion, entries }
    if mutated && cacheWritten then
      { system with index := { system.index with inMemoryCache := some (some cache) }, disk := some cache }
    else { system with index := { system.index with inMemoryCache := some existing } }
  | .invalidateAll unlinked =>
    { system with
      index := { system.index with inMemoryCache := some none }
      disk := if unlinked then none else system.disk }
  | .changeFilters cwdDisplayFormatter unlinked =>
    { system with
      index := { system.index with cwdDisplayFormatter, inMemoryCache := some none }
      disk := if unlinked then none else system.disk }
  | .restart extractorVersion cwdDisplayFormatter =>
    { system with index := { extractorVersion, cwdDisplayFormatter } }

/-- A listing is the one without any cache. -/
def Transparent (dates : Dates) (system : System) : Event → Prop
  | .list resolvers _ =>
    (system.index.listing extractors dates resolvers system.files system.getCache).1 =
      (system.index.listing extractors dates resolvers system.files none).1
  | _ => True

end

end pipane.session_index

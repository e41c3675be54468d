import Pipane.Lib.Transition
import Pipane.Server.SessionIndex

open javascript json transition

namespace pipane.session_index

variable (extractors : JsString → Extractor)

/-! When a listing over a cache is the one without any. -/

/-- An entry is what its file gives now. -/
def Right (extractorVersion : JsString) (cwdDisplayFormatter : Option (JsString → JsString)) (sessionPath : JsString)
    (file : File) (cached : CachedSessionEntry) : Prop :=
  isUnchanged cached file = true →
    cachedEntry (extractors extractorVersion) cwdDisplayFormatter sessionPath file = some cached

/-- Every entry of a cache is what its file gives now. -/
def RightCache (cwdDisplayFormatter : Option (JsString → JsString)) (files : OrderedMap JsString File)
    (cache : SessionIndexCacheFile) : Prop :=
  ∀ sessionPath file cached, files.get? sessionPath = some file → cache.entries.get? sessionPath = some cached →
    Right extractors cache.extractorVersion cwdDisplayFormatter sessionPath file cached

/-- An entry with the directory as it is displayed now. -/
def CachedSessionEntry.redisplay (cwdDisplayFormatter : Option (JsString → JsString)) (cached : CachedSessionEntry) :
    CachedSessionEntry :=
  { cached with
    entry := { cached.entry with cwdDisplay := cwdDisplay cwdDisplayFormatter cached.entry.extracted.cwd } }

/-- The same up to how directories are displayed. -/
def RightUpToDisplay (cwdDisplayFormatter : Option (JsString → JsString)) (files : OrderedMap JsString File)
    (cache : SessionIndexCacheFile) : Prop :=
  ∀ sessionPath file cached, files.get? sessionPath = some file → cache.entries.get? sessionPath = some cached →
    isUnchanged cached file = true →
      cachedEntry (extractors cache.extractorVersion) cwdDisplayFormatter sessionPath file =
        some (cached.redisplay cwdDisplayFormatter)

/-- A file is never given the size and time of a cached state of other content, and a restarted server does not take
    over directories that its filters display in another way. -/
def UpToDate (system : System) : Event → Prop
  | .write sessionPath file => ∀ cache, system.index.inMemoryCache = some (some cache) ∨ system.disk = some cache →
      ∀ cached, cache.entries.get? sessionPath = some cached →
        Right extractors cache.extractorVersion system.index.cwdDisplayFormatter sessionPath file cached
  | .restart extractorVersion cwdDisplayFormatter => ∀ cache, system.disk = some cache →
      cache.extractorVersion = extractorVersion → ∀ sessionPath file cached,
        system.files.get? sessionPath = some file → cache.entries.get? sessionPath = some cached →
          isUnchanged cached file = true →
            cached.entry.cwdDisplay = cwdDisplay cwdDisplayFormatter cached.entry.extracted.cwd
  | _ => True

/-- What the caches hold between two events. -/
structure Kept (system : System) : Prop where
  memory : ∀ cache, system.index.inMemoryCache = some (some cache) →
    cache.extractorVersion = system.index.extractorVersion →
      RightCache extractors system.index.cwdDisplayFormatter system.files cache
  disk : ∀ cache, system.disk = some cache →
    RightUpToDisplay extractors system.index.cwdDisplayFormatter system.files cache
  unread : system.index.inMemoryCache = none → ∀ cache, system.disk = some cache →
    cache.extractorVersion = system.index.extractorVersion →
      RightCache extractors system.index.cwdDisplayFormatter system.files cache

variable {extractors}

theorem cachedEntry_cwdDisplay {extractor : Extractor} {cwdDisplayFormatter : Option (JsString → JsString)}
    {sessionPath : JsString} {file : File} {cached : CachedSessionEntry}
    (h : cachedEntry extractor cwdDisplayFormatter sessionPath file = some cached) :
    cached.entry.cwdDisplay = cwdDisplay cwdDisplayFormatter cached.entry.extracted.cwd := by
  rw [cachedEntry, extractSessionMeta] at h
  obtain ⟨entry, hentry, rfl⟩ := Option.map_eq_some_iff.mp h
  obtain ⟨extracted, -, rfl⟩ := Option.map_eq_some_iff.mp hentry
  rfl

theorem cachedEntry_redisplay (extractor : Extractor) (before after : Option (JsString → JsString))
    (sessionPath : JsString) (file : File) :
    cachedEntry extractor after sessionPath file =
      (cachedEntry extractor before sessionPath file).map (CachedSessionEntry.redisplay after) := by
  rw [cachedEntry, cachedEntry, extractSessionMeta, extractSessionMeta]
  cases extractor (bufferText file.content) file.mtimeMs <;> rfl

theorem redisplay_redisplay (before after : Option (JsString → JsString)) (cached : CachedSessionEntry) :
    (cached.redisplay before).redisplay after = cached.redisplay after := rfl

theorem redisplay_eq_self {cwdDisplayFormatter : Option (JsString → JsString)} {cached : CachedSessionEntry}
    (h : cached.entry.cwdDisplay = cwdDisplay cwdDisplayFormatter cached.entry.extracted.cwd) :
    cached.redisplay cwdDisplayFormatter = cached := by
  rw [CachedSessionEntry.redisplay, ← h]

theorem RightUpToDisplay.changed {before : Option (JsString → JsString)} {files : OrderedMap JsString File}
    {cache : SessionIndexCacheFile} (h : RightUpToDisplay extractors before files cache)
    (after : Option (JsString → JsString)) : RightUpToDisplay extractors after files cache := by
  intro sessionPath file cached hfile hcached hunchanged
  rw [cachedEntry_redisplay _ before, h sessionPath file cached hfile hcached hunchanged, Option.map_some,
    redisplay_redisplay]

theorem RightCache.upToDisplay {cwdDisplayFormatter : Option (JsString → JsString)} {files : OrderedMap JsString File}
    {cache : SessionIndexCacheFile} (h : RightCache extractors cwdDisplayFormatter files cache) :
    RightUpToDisplay extractors cwdDisplayFormatter files cache := by
  intro sessionPath file cached hfile hcached hunchanged
  have hentry := h sessionPath file cached hfile hcached hunchanged
  rw [hentry, redisplay_eq_self (cachedEntry_cwdDisplay hentry)]

theorem RightUpToDisplay.right {cwdDisplayFormatter : Option (JsString → JsString)} {files : OrderedMap JsString File}
    {cache : SessionIndexCacheFile} (h : RightUpToDisplay extractors cwdDisplayFormatter files cache)
    (hdisplay : ∀ sessionPath file cached, files.get? sessionPath = some file →
      cache.entries.get? sessionPath = some cached → isUnchanged cached file = true →
        cached.entry.cwdDisplay = cwdDisplay cwdDisplayFormatter cached.entry.extracted.cwd) :
    RightCache extractors cwdDisplayFormatter files cache := by
  intro sessionPath file cached hfile hcached hunchanged
  rw [h sessionPath file cached hfile hcached hunchanged,
    redisplay_eq_self (hdisplay sessionPath file cached hfile hcached hunchanged)]

/-! One listing. -/

variable {index : SessionIndex} {files : OrderedMap JsString File}

/-- The entries that a listing reuses are right. -/
def RightEntries (extractors : JsString → Extractor) (index : SessionIndex) (files : OrderedMap JsString File)
    (entries : OrderedMap JsString CachedSessionEntry) : Prop :=
  ∀ sessionPath file cached, files.get? sessionPath = some file → entries.get? sessionPath = some cached →
    Right extractors index.extractorVersion index.cwdDisplayFormatter sessionPath file cached

theorem visit_fst {previousEntries : OrderedMap JsString CachedSessionEntry}
    (h : RightEntries extractors index files previousEntries) {sessionPath : JsString} {file : File}
    (hfile : files.get? sessionPath = some file) : (index.visit extractors previousEntries sessionPath file).1 =
      cachedEntry (extractors index.extractorVersion) index.cwdDisplayFormatter sessionPath file := by
  rw [SessionIndex.visit]
  cases hreused : (previousEntries.get? sessionPath).filter (isUnchanged · file) with
  | none => rfl
  | some cached =>
    obtain ⟨hcached, hunchanged⟩ := Option.filter_eq_some_iff.mp hreused
    exact (h sessionPath file cached hfile hcached hunchanged).symm

/-- The sessions and the entries that a scan comes to do not depend on what it reuses. -/
theorem scan_congr {before before' : OrderedMap JsString CachedSessionEntry} {sessions : List (JsString × File)}
    (h : ∀ session ∈ sessions,
      (index.visit extractors before session.1 session.2).1 = (index.visit extractors before' session.1 session.2).1)
    (found found' : Scan) (hsessions : found.sessions = found'.sessions)
    (hentries : found.nextEntries = found'.nextEntries) :
    (sessions.foldl (index.scan extractors before) found).sessions =
        (sessions.foldl (index.scan extractors before') found').sessions ∧
      (sessions.foldl (index.scan extractors before) found).nextEntries =
        (sessions.foldl (index.scan extractors before') found').nextEntries := by
  induction sessions generalizing found found' with
  | nil => exact ⟨hsessions, hentries⟩
  | cons session sessions ih =>
    rw [List.forall_mem_cons] at h
    have hone : (index.scan extractors before found session).sessions =
          (index.scan extractors before' found' session).sessions ∧
        (index.scan extractors before found session).nextEntries =
          (index.scan extractors before' found' session).nextEntries := by
      rw [SessionIndex.scan, SessionIndex.scan]
      dsimp only
      rw [h.1]
      cases (index.visit extractors before' session.1 session.2).1 with
      | none => exact ⟨hsessions, hentries⟩
      | some entry =>
        dsimp only
        rw [hsessions, hentries]
        exact ⟨rfl, rfl⟩
    exact ih h.2 _ _ hone.1 hone.2

theorem previousEntries_right {existing : Option SessionIndexCacheFile}
    (h : ∀ cache, existing = some cache → cache.extractorVersion = index.extractorVersion →
      RightCache extractors index.cwdDisplayFormatter files cache) :
    RightEntries extractors index files (index.previousEntries existing) := by
  intro sessionPath file cached hfile hcached
  rw [SessionIndex.previousEntries.eq_def] at hcached
  cases existing with
  | none => cases hcached
  | some cache =>
    dsimp only at hcached
    split at hcached
    · rename_i hversion
      have hright := h cache rfl hversion sessionPath file cached hfile hcached
      rwa [hversion] at hright
    · cases hcached

theorem listing_eq (dates : Dates) (resolvers : Resolvers) {existing : Option SessionIndexCacheFile}
    (h : ∀ cache, existing = some cache → cache.extractorVersion = index.extractorVersion →
      RightCache extractors index.cwdDisplayFormatter files cache) :
    (index.listing extractors dates resolvers files existing).1 =
      (index.listing extractors dates resolvers files none).1 := by
  have hnone : RightEntries extractors index files (index.previousEntries none) :=
    previousEntries_right fun cache hcache => by cases hcache
  have hvisit : ∀ session ∈ files.entries,
      (index.visit extractors (index.previousEntries existing) session.1 session.2).1 =
        (index.visit extractors (index.previousEntries none) session.1 session.2).1 := by
    intro session hsession
    have hfile := OrderedMap.mem_entries_iff.mp hsession
    rw [visit_fst (previousEntries_right h) hfile, visit_fst hnone hfile]
  obtain ⟨hsessions, hentries⟩ := scan_congr hvisit { mutated := !index.canReuse existing }
    { mutated := !index.canReuse none } rfl rfl
  rw [SessionIndex.listing, SessionIndex.listing]
  dsimp only
  rw [hsessions, hentries]

theorem scan_right {previousEntries : OrderedMap JsString CachedSessionEntry}
    (h : RightEntries extractors index files previousEntries) {sessions : List (JsString × File)}
    (hsessions : ∀ session ∈ sessions, files.get? session.1 = some session.2) (found : Scan)
    (hfound : RightEntries extractors index files found.nextEntries) :
    RightEntries extractors index files
      (sessions.foldl (index.scan extractors previousEntries) found).nextEntries := by
  induction sessions generalizing found with
  | nil => exact hfound
  | cons session sessions ih =>
    rw [List.forall_mem_cons] at hsessions
    refine ih hsessions.2 _ ?_
    rw [SessionIndex.scan]
    dsimp only
    have hvisit := visit_fst h hsessions.1
    cases hentry : (index.visit extractors previousEntries session.1 session.2).1 with
    | none => exact hfound
    | some entry =>
      rw [hentry] at hvisit
      intro sessionPath file cached hfile hcached hunchanged
      dsimp only at hcached
      rw [OrderedMap.get?_set] at hcached
      split at hcached
      · rename_i hsame
        subst hsame
        cases hcached
        cases hfile.symm.trans hsessions.1
        exact hvisit.symm
      · exact hfound sessionPath file cached hfile hcached hunchanged

theorem listing_entries (dates : Dates) (resolvers : Resolvers) {existing : Option SessionIndexCacheFile}
    (h : ∀ cache, existing = some cache → cache.extractorVersion = index.extractorVersion →
      RightCache extractors index.cwdDisplayFormatter files cache) :
    RightEntries extractors index files (index.listing extractors dates resolvers files existing).2.1 := by
  refine scan_right (previousEntries_right h) (fun session hsession => OrderedMap.mem_entries_iff.mp hsession) _ ?_
  intro sessionPath file cached _ hcached
  cases hcached

/-! Runs. -/

theorem Kept.getCache {system : System} (h : Kept extractors system) :
    ∀ cache, system.getCache = some cache → cache.extractorVersion = system.index.extractorVersion →
      RightCache extractors system.index.cwdDisplayFormatter system.files cache := by
  intro cache hcache hversion
  rw [System.getCache] at hcache
  cases hmemory : system.index.inMemoryCache with
  | none =>
    rw [hmemory, Option.getD_none] at hcache
    exact h.unread hmemory cache hcache hversion
  | some known =>
    rw [hmemory, Option.getD_some] at hcache
    exact h.memory cache (hmemory.trans (congrArg some hcache)) hversion

theorem Kept.transparent {system : System} (h : Kept extractors system) (dates : Dates) (event : Event) :
    Transparent extractors dates system event := by
  cases event with
  | list resolvers cacheWritten => exact listing_eq dates resolvers h.getCache
  | _ => trivial

theorem RightCache.write {cwdDisplayFormatter : Option (JsString → JsString)} {cache : SessionIndexCacheFile}
    (h : RightCache extractors cwdDisplayFormatter files cache) {sessionPath : JsString} {file : File}
    (hnew : ∀ cached, cache.entries.get? sessionPath = some cached →
      Right extractors cache.extractorVersion cwdDisplayFormatter sessionPath file cached) :
    RightCache extractors cwdDisplayFormatter (files.set sessionPath file) cache := by
  intro other file' cached hfile hcached
  rw [OrderedMap.get?_set] at hfile
  split at hfile
  · rename_i hsame
    subst hsame
    cases hfile
    exact hnew cached hcached
  · exact h other file' cached hfile hcached

theorem RightUpToDisplay.write {cwdDisplayFormatter : Option (JsString → JsString)}
    {cache : SessionIndexCacheFile} (h : RightUpToDisplay extractors cwdDisplayFormatter files cache)
    {sessionPath : JsString} {file : File} (hnew : ∀ cached, cache.entries.get? sessionPath = some cached →
      Right extractors cache.extractorVersion cwdDisplayFormatter sessionPath file cached) :
    RightUpToDisplay extractors cwdDisplayFormatter (files.set sessionPath file) cache := by
  intro other file' cached hfile hcached hunchanged
  rw [OrderedMap.get?_set] at hfile
  split at hfile
  · rename_i hsame
    subst hsame
    cases hfile
    have hentry := hnew cached hcached hunchanged
    rw [hentry, redisplay_eq_self (cachedEntry_cwdDisplay hentry)]
  · exact h other file' cached hfile hcached hunchanged

theorem Kept.list {system : System} (h : Kept extractors system) (dates : Dates) (resolvers : Resolvers)
    (cacheWritten : Bool) : Kept extractors (step extractors dates system (.list resolvers cacheWritten)) := by
  have hentries := listing_entries dates resolvers h.getCache
  rw [step]
  dsimp only
  split
  · refine ⟨?_, ?_, ?_⟩
    · intro cache hcache _
      cases hcache
      exact hentries
    · intro cache hcache
      cases hcache
      exact RightCache.upToDisplay hentries
    · intro hnone
      cases hnone
  · refine ⟨?_, h.disk, ?_⟩
    · intro cache hcache hversion
      exact h.getCache cache (Option.some.inj hcache) hversion
    · intro hnone
      cases hnone

theorem Kept.step {system : System} (h : Kept extractors system) (dates : Dates) (event : Event)
    (hevent : UpToDate extractors system event) : Kept extractors (step extractors dates system event) := by
  cases event with
  | write sessionPath file =>
    refine ⟨?_, ?_, ?_⟩
    · intro cache hcache hversion
      exact (h.memory cache hcache hversion).write (hevent cache (.inl hcache))
    · intro cache hcache
      exact (h.disk cache hcache).write (hevent cache (.inr hcache))
    · intro hnone cache hcache hversion
      exact (h.unread hnone cache hcache hversion).write (hevent cache (.inr hcache))
  | delete sessionPath =>
    have hfewer : ∀ other file, (system.files.erase sessionPath).get? other = some file →
        system.files.get? other = some file := fun other file hfile => (OrderedMap.get?_of_erase hfile).2
    refine ⟨?_, ?_, ?_⟩
    · intro cache hcache hversion other file cached hfile
      exact h.memory cache hcache hversion other file cached (hfewer other file hfile)
    · intro cache hcache other file cached hfile
      exact h.disk cache hcache other file cached (hfewer other file hfile)
    · intro hnone cache hcache hversion other file cached hfile
      exact h.unread hnone cache hcache hversion other file cached (hfewer other file hfile)
  | list resolvers cacheWritten => exact h.list dates resolvers cacheWritten
  | invalidateAll unlinked =>
    refine ⟨?_, ?_, fun hnone => by cases hnone⟩
    · intro cache hcache
      cases hcache
    · intro cache hcache
      cases unlinked with
      | true => cases hcache
      | false => exact h.disk cache hcache
  | changeFilters cwdDisplayFormatter unlinked =>
    refine ⟨?_, ?_, fun hnone => by cases hnone⟩
    · intro cache hcache
      cases hcache
    · intro cache hcache
      cases unlinked with
      | true => cases hcache
      | false => exact (h.disk cache hcache).changed cwdDisplayFormatter
  | restart extractorVersion cwdDisplayFormatter =>
    refine ⟨?_, ?_, ?_⟩
    · intro cache hcache
      cases hcache
    · intro cache hcache
      exact (h.disk cache hcache).changed cwdDisplayFormatter
    · intro _ cache hcache hversion
      exact ((h.disk cache hcache).changed cwdDisplayFormatter).right (hevent cache hcache hversion)

/-- A server that has just been started. -/
def started (extractorVersion : JsString) (cwdDisplayFormatter : Option (JsString → JsString))
    (files : OrderedMap JsString File) : System :=
  { index := { extractorVersion, cwdDisplayFormatter }, disk := none, files }

/-- Whatever the extractors and the filters are. -/
theorem listings_transparent (extractors : JsString → Extractor) (dates : Dates) (extractorVersion : JsString)
    (cwdDisplayFormatter : Option (JsString → JsString)) (files : OrderedMap JsString File) (events : List Event)
    (h : EveryStep (step extractors dates) (started extractorVersion cwdDisplayFormatter files) (UpToDate extractors)
      events) :
    EveryStep (step extractors dates) (started extractorVersion cwdDisplayFormatter files) (Transparent extractors dates)
      events := by
  have hstart : Kept extractors (started extractorVersion cwdDisplayFormatter files) := by
    refine ⟨?_, ?_, ?_⟩
    · intro cache hcache
      cases hcache
    · intro cache hcache
      cases hcache
    · intro _ cache hcache
      cases hcache
  have hkept := always_of_everyStep hstart (fun system event hkept hevent => hkept.step dates event hevent) h
  exact everyStep_of_always hkept h fun system event hkept _ => hkept.transparent dates event

/-- Dates of which only the epoch occurs. -/
def epoch : Dates where
  getTime _ := some 0
  number
    | .int n => some n
    | .literal _ => none
  toISOString _ := some (js "1970-01-01T00:00:00.000Z")

/-- One entry a line. -/
def parseLines (content : JsString) : Option (List Value) :=
  some ((content.splitOn 0x0A).filterMap parse)

/-- A file with a header only. -/
def headerOnly : File where
  content := textEncode (js "\x7b\"type\":\"session\",\"id\":\"a\",\"cwd\":\"/w\"\x7d\n")
  mtimeMs := 0

def oneSession : OrderedMap JsString File :=
  (∅ : OrderedMap JsString File).set (js "/a.jsonl") headerOnly

def noResolvers : Resolvers where
  resolveCheckout _ _ _ := none
  worktreeNameResolver := none

example : (extract epoch [] parseLines (bufferText headerOnly.content) 0).isSome = true := by decide +kernel

/-- The filters change while the server runs. -/
theorem listings_transparent_changed :
    EveryStep (step (fun _ => extract epoch [] parseLines) epoch) (started (js "6") none ∅)
      (Transparent (fun _ => extract epoch [] parseLines) epoch)
      [.write (js "/a.jsonl") headerOnly, .list noResolvers true, .changeFilters (some fun _ => js "w") true,
        .list noResolvers true] := by
  refine listings_transparent (fun _ => extract epoch [] parseLines) epoch (js "6") none ∅
    [.write (js "/a.jsonl") headerOnly, .list noResolvers true, .changeFilters (some fun _ => js "w") true,
      .list noResolvers true] (everyStep_cons.mpr ⟨?_, ?_⟩)
  · intro cache hcache
    rcases hcache with hmemory | hdisk
    · cases hmemory
    · cases hdisk
  · refine everyStep_of_forall fun event hevent system => ?_
    rcases List.mem_cons.mp hevent with rfl | hevent
    · trivial
    rcases List.mem_cons.mp hevent with rfl | hevent
    · trivial
    · rw [List.mem_singleton.mp hevent]
      trivial

/-- The filters have changed while the server was stopped. -/
theorem stale_cwdDisplay :
    ¬ EveryStep (step (fun _ => extract epoch [] parseLines) epoch) (started (js "6") none oneSession)
      (Transparent (fun _ => extract epoch [] parseLines) epoch)
      [.list noResolvers true, .restart (js "6") (some fun _ => js "w"), .list noResolvers true] := by
  intro h
  have hlast := (everyStep_cons.mp (everyStep_cons.mp (everyStep_cons.mp h).2).2).1
  have hdisplay := congrArg (List.map fun item => item.session.cwdDisplay) hlast
  revert hdisplay
  decide +kernel

end pipane.session_index

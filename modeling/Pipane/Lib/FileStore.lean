import Pipane.Lib.JsString
import Pipane.Lib.OrderedMap

/-! Directories of files: an entry names a file, and an open file stays what it is when its entry goes. -/

namespace file_store

abbrev FileRef := Nat

/-- `bytes` written at a position of a content; a gap before it reads as zeros. -/
def overwrite (content : List UInt8) (position : Nat) (bytes : List UInt8) : List UInt8 :=
  (content ++ List.replicate (position - content.length) 0).take position ++ bytes ++
    content.drop (position + bytes.length)

/-- A content cut or filled with zeros to a size. -/
def resize (content : List UInt8) (size : Nat) : List UInt8 :=
  (content ++ List.replicate (size - content.length) 0).take size

structure Store where
  directories : OrderedMap JsString (OrderedMap JsString FileRef) := ∅
  contents : OrderedMap FileRef (List UInt8) := ∅
  allocated : Nat := 0

namespace Store

variable (store : Store) (directory name : JsString)

def lookup? : Option FileRef :=
  (store.directories.get? directory).bind (·.get? name)

def read? : Option (List UInt8) :=
  (store.lookup? directory name).bind store.contents.get?

def hasDirectory : Bool :=
  store.directories.contains directory

/-- `mkdir` of a directory that does not exist. -/
def makeDirectory : Store :=
  { store with directories := store.directories.set directory ∅ }

/-- An entry for a new file. -/
def link (entries : OrderedMap JsString FileRef) (content : List UInt8) : Store :=
  { directories := store.directories.set directory (entries.set name store.allocated)
    contents := store.contents.set store.allocated content
    allocated := store.allocated + 1 }

/-- `open` with `wx`: fails where the directory is missing or the name is taken. -/
def create? : Option (FileRef × Store) :=
  match store.directories.get? directory with
  | none => none
  | some entries => if entries.contains name then none else some (store.allocated, store.link directory name entries [])

/-- A new file that takes over an entry, as `rename` makes it: fails where the directory is missing. -/
def replace? (content : List UInt8) : Option Store :=
  (store.directories.get? directory).map fun entries => store.link directory name entries content

/-- A change of the content of an open file. -/
def update (file : FileRef) (change : List UInt8 → List UInt8) : Store :=
  match store.contents.get? file with
  | none => store
  | some content => { store with contents := store.contents.set file (change content) }

def write (file : FileRef) (position : Nat) (bytes : List UInt8) : Store :=
  store.update file fun content => overwrite content position bytes

def truncate (file : FileRef) (size : Nat) : Store :=
  store.update file fun content => resize content size

def unlink : Store :=
  match store.directories.get? directory with
  | none => store
  | some entries => { store with directories := store.directories.set directory (entries.erase name) }

/-- `rm` of a directory with all that is in it. -/
def remove : Store :=
  { store with directories := store.directories.erase directory }

end Store

/-! The content of a file. -/

/-! What the operations do to the entries. -/

namespace Store

variable {store : Store} {directory name directory' name' : JsString} {entries : OrderedMap JsString FileRef}

theorem lookup?_eq (h : store.directories.get? directory = some entries) :
    store.lookup? directory name = entries.get? name := by
  rw [lookup?, h, Option.bind_some]

theorem lookup?_none (h : store.directories.get? directory = none) : store.lookup? directory name = none := by
  rw [lookup?, h, Option.bind_none]

theorem hasDirectory_iff : store.hasDirectory directory = true ↔ ∃ entries, store.directories.get? directory = some entries := by
  rw [hasDirectory, OrderedMap.contains, Option.isSome_iff_exists]

@[simp] theorem lookup?_makeDirectory (h : store.directories.get? directory = none) :
    (store.makeDirectory directory).lookup? directory' name' = store.lookup? directory' name' := by
  by_cases hsame : directory' = directory
  · subst hsame
    rw [lookup?_none h, lookup?, makeDirectory, OrderedMap.get?_set_self, Option.bind_some, OrderedMap.get?_empty]
  · rw [lookup?, lookup?, makeDirectory, OrderedMap.get?_set_ne hsame]

theorem lookup?_link (h : store.directories.get? directory = some entries) (content : List UInt8) :
    (store.link directory name entries content).lookup? directory' name' =
      if directory' = directory ∧ name' = name then some store.allocated else store.lookup? directory' name' := by
  by_cases hsame : directory' = directory
  · subst hsame
    rw [lookup?_eq h, lookup?, link, OrderedMap.get?_set_self, Option.bind_some, OrderedMap.get?_set]
    by_cases hname : name' = name <;> simp [hname]
  · rw [if_neg fun hboth => hsame hboth.1, lookup?, lookup?, link, OrderedMap.get?_set_ne hsame]

theorem contents_link (content : List UInt8) (file : FileRef) :
    (store.link directory name entries content).contents.get? file =
      if file = store.allocated then some content else store.contents.get? file :=
  OrderedMap.get?_set _ _ _ _

@[simp] theorem lookup?_update (file : FileRef) (change : List UInt8 → List UInt8) :
    (store.update file change).lookup? directory' name' = store.lookup? directory' name' := by
  rw [update]
  split <;> rfl

@[simp] theorem allocated_update (file : FileRef) (change : List UInt8 → List UInt8) :
    (store.update file change).allocated = store.allocated := by
  rw [update]
  split <;> rfl

theorem contents_update (file file' : FileRef) (change : List UInt8 → List UInt8) :
    (store.update file change).contents.get? file' =
      if file' = file then (store.contents.get? file).map change else store.contents.get? file' := by
  rw [update]
  split
  · rename_i hnone
    by_cases hsame : file' = file
    · rw [if_pos hsame, hsame, hnone]
      rfl
    · rw [if_neg hsame]
  · rename_i content hcontent
    rw [OrderedMap.get?_set, hcontent]
    rfl

theorem lookup?_unlink :
    (store.unlink directory name).lookup? directory' name' =
      if directory' = directory ∧ name' = name then none else store.lookup? directory' name' := by
  rw [unlink]
  split
  · rename_i hnone
    by_cases hboth : directory' = directory ∧ name' = name
    · rw [if_pos hboth, hboth.1, lookup?_none hnone]
    · rw [if_neg hboth]
  · rename_i entries hentries
    by_cases hsame : directory' = directory
    · subst hsame
      rw [lookup?_eq hentries, lookup?, OrderedMap.get?_set_self, Option.bind_some, OrderedMap.get?_erase]
      by_cases hname : name' = name <;> simp [hname]
    · rw [if_neg fun hboth => hsame hboth.1, lookup?, lookup?, OrderedMap.get?_set_ne hsame]

@[simp] theorem hasDirectory_unlink :
    (store.unlink directory name).hasDirectory directory' = store.hasDirectory directory' := by
  rw [unlink]
  split
  · rfl
  · rename_i entries hentries
    rw [hasDirectory, hasDirectory, OrderedMap.contains, OrderedMap.contains, OrderedMap.get?_set]
    by_cases hsame : directory' = directory
    · rw [if_pos hsame, hsame, hentries]
      rfl
    · rw [if_neg hsame]

@[simp] theorem contents_unlink : (store.unlink directory name).contents = store.contents := by
  rw [unlink]
  split <;> rfl

@[simp] theorem allocated_unlink : (store.unlink directory name).allocated = store.allocated := by
  rw [unlink]
  split <;> rfl

theorem lookup?_remove :
    (store.remove directory).lookup? directory' name' =
      if directory' = directory then none else store.lookup? directory' name' := by
  rw [lookup?, lookup?, remove, OrderedMap.get?_erase]
  by_cases hsame : directory' = directory <;> simp [hsame]

end Store

/-- Every entry names a file of its own, which exists. -/
structure Sound (store : Store) : Prop where
  fresh : ∀ directory name file, store.lookup? directory name = some file → file < store.allocated
  content : ∀ directory name file, store.lookup? directory name = some file → (store.contents.get? file).isSome
  unique : ∀ directory name directory' name' file, store.lookup? directory name = some file →
    store.lookup? directory' name' = some file → directory = directory' ∧ name = name'

namespace Sound

variable {store : Store} {directory name : JsString}

theorem makeDirectory (h : Sound store) (hnew : store.directories.get? directory = none) :
    Sound (store.makeDirectory directory) := by
  refine ⟨?_, ?_, ?_⟩
  · intro directory' name' file hentry
    rw [Store.lookup?_makeDirectory hnew] at hentry
    exact h.fresh _ _ _ hentry
  · intro directory' name' file hentry
    rw [Store.lookup?_makeDirectory hnew] at hentry
    exact h.content _ _ _ hentry
  · intro d n d' n' file hentry hentry'
    rw [Store.lookup?_makeDirectory hnew] at hentry hentry'
    exact h.unique _ _ _ _ _ hentry hentry'

theorem link (h : Sound store) {entries : OrderedMap JsString FileRef}
    (hentries : store.directories.get? directory = some entries) (content : List UInt8) :
    Sound (store.link directory name entries content) := by
  refine ⟨?_, ?_, ?_⟩
  · intro directory' name' file hentry
    rw [Store.lookup?_link hentries] at hentry
    change file < store.allocated + 1
    split at hentry
    · rw [← Option.some.inj hentry]
      exact Nat.lt_succ_self _
    · exact Nat.lt_succ_of_lt (h.fresh _ _ _ hentry)
  · intro directory' name' file hentry
    rw [Store.lookup?_link hentries] at hentry
    rw [Store.contents_link]
    split at hentry
    · rw [if_pos (Option.some.inj hentry).symm]
      rfl
    · split
      · rfl
      · exact h.content _ _ _ hentry
  · intro d n d' n' file hentry hentry'
    rw [Store.lookup?_link hentries] at hentry hentry'
    split at hentry
    · rename_i hsame
      split at hentry'
      · rename_i hsame'
        exact ⟨hsame.1.trans hsame'.1.symm, hsame.2.trans hsame'.2.symm⟩
      · rw [← Option.some.inj hentry] at hentry'
        exact absurd (h.fresh _ _ _ hentry') (Nat.lt_irrefl _)
    · split at hentry'
      · rw [← Option.some.inj hentry'] at hentry
        exact absurd (h.fresh _ _ _ hentry) (Nat.lt_irrefl _)
      · exact h.unique _ _ _ _ _ hentry hentry'

theorem update (h : Sound store) (file : FileRef) (change : List UInt8 → List UInt8) :
    Sound (store.update file change) := by
  refine ⟨?_, ?_, ?_⟩
  · intro directory' name' file' hentry
    rw [Store.lookup?_update] at hentry
    rw [Store.allocated_update]
    exact h.fresh _ _ _ hentry
  · intro directory' name' file' hentry
    rw [Store.lookup?_update] at hentry
    have hcontent := h.content _ _ _ hentry
    rw [Store.contents_update]
    split
    · rename_i hsame
      rw [Option.isSome_map, ← hsame]
      exact hcontent
    · exact hcontent
  · intro d n d' n' file' hentry hentry'
    rw [Store.lookup?_update] at hentry hentry'
    exact h.unique _ _ _ _ _ hentry hentry'

theorem of_fewer {other : Store} (h : Sound store) (hcontents : other.contents = store.contents)
    (hallocated : other.allocated = store.allocated)
    (hentries : ∀ directory name file, other.lookup? directory name = some file →
      store.lookup? directory name = some file) : Sound other := by
  refine ⟨?_, ?_, ?_⟩
  · intro directory' name' file hentry
    rw [hallocated]
    exact h.fresh _ _ _ (hentries _ _ _ hentry)
  · intro directory' name' file hentry
    rw [hcontents]
    exact h.content _ _ _ (hentries _ _ _ hentry)
  · intro d n d' n' file hentry hentry'
    exact h.unique _ _ _ _ _ (hentries _ _ _ hentry) (hentries _ _ _ hentry')

theorem unlink (h : Sound store) : Sound (store.unlink directory name) := by
  refine h.of_fewer Store.contents_unlink Store.allocated_unlink fun directory' name' file hentry => ?_
  rw [Store.lookup?_unlink] at hentry
  split at hentry
  · cases hentry
  · exact hentry

theorem remove (h : Sound store) : Sound (store.remove directory) := by
  refine h.of_fewer rfl rfl fun directory' name' file hentry => ?_
  rw [Store.lookup?_remove] at hentry
  split at hentry
  · cases hentry
  · exact hentry

end Sound

namespace Store

/-! What can be read in a directory. -/

variable {store : Store} {directory name directory' name' : JsString} {entries : OrderedMap JsString FileRef}

theorem read?_congr {store' : Store} (hentry : store'.lookup? directory name = store.lookup? directory name)
    (hcontents : ∀ file, store.lookup? directory name = some file → store'.contents.get? file = store.contents.get? file) :
    store'.read? directory name = store.read? directory name := by
  rw [read?, read?, hentry]
  cases hfile : store.lookup? directory name with
  | none => rfl
  | some file => exact hcontents file hfile

theorem read?_makeDirectory (h : store.directories.get? directory = none) :
    (store.makeDirectory directory).read? directory' name' = store.read? directory' name' :=
  read?_congr (lookup?_makeDirectory h) fun _ _ => rfl

theorem read?_link (hsound : Sound store) (h : store.directories.get? directory = some entries) (content : List UInt8) :
    (store.link directory name entries content).read? directory' name' =
      if directory' = directory ∧ name' = name then some content else store.read? directory' name' := by
  split
  · rename_i hsame
    rw [read?, lookup?_link h, if_pos hsame, Option.bind_some, contents_link, if_pos rfl]
  · rename_i hother
    refine read?_congr (by rw [lookup?_link h, if_neg hother]) fun file hfile => ?_
    rw [contents_link, if_neg]
    exact Nat.ne_of_lt (hsound.fresh _ _ _ hfile)

theorem read?_update {file : FileRef} (h : store.lookup? directory name ≠ some file) (change : List UInt8 → List UInt8) :
    (store.update file change).read? directory name = store.read? directory name := by
  refine read?_congr (lookup?_update _ _) fun other hother => ?_
  rw [contents_update, if_neg]
  rintro rfl
  exact h hother

theorem read?_unlink (h : directory' ≠ directory) :
    (store.unlink directory name).read? directory' name' = store.read? directory' name' := by
  refine read?_congr ?_ fun _ _ => by rw [contents_unlink]
  rw [lookup?_unlink, if_neg fun hboth => h hboth.1]

theorem read?_remove (h : directory' ≠ directory) :
    (store.remove directory).read? directory' name' = store.read? directory' name' := by
  refine read?_congr ?_ fun _ _ => rfl
  rw [lookup?_remove, if_neg h]

end Store

end file_store

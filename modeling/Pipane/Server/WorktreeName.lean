import Mathlib.Data.List.Infix
import Pipane.Lib.OrderedMap
import Pipane.Lib.Path

open javascript posix_path

namespace pipane.worktree_name

structure GitCheckout where
  root : JsString
  commonGitDir : JsString
  linked : Bool
deriving DecidableEq

/-- What `statSync` tells about an entry. -/
inductive FileKind
  | directory
  | file
  | other
deriving DecidableEq

/-- A file system that does not change, by what the calls of `node:fs` answer: `none` where they throw. `cwd` is
    `process.cwd()`. -/
structure FileSystem where
  cwd : Names
  existsSync : JsString → Bool
  statSync : JsString → Option FileKind
  readFileSync : JsString → Option JsString
  realpathSync : JsString → Option JsString

namespace FileSystem

def canonicalPath (fs : FileSystem) (value : JsString) : JsString :=
  (fs.realpathSync value).getD (posix_path.resolve fs.cwd [value])

def GITDIR : JsString := js "gitdir: "

/-- `readCheckout(root, gitPath)`. What throws answers `null`. -/
def readCheckout (fs : FileSystem) (root gitPath : JsString) : Option GitCheckout :=
  match fs.statSync gitPath with
  | none => none
  | some .directory =>
    some { root := fs.canonicalPath root, commonGitDir := fs.canonicalPath gitPath, linked := false }
  | some .other => none
  | some .file =>
    match fs.readFileSync gitPath with
    | none => none
    | some text =>
      let marker := trim text
      if ¬ GITDIR.isPrefixOf marker then none
      else
        let gitDir := posix_path.resolve fs.cwd [root, trim (marker.drop GITDIR.length)]
        if ¬ fs.existsSync gitDir then none
        else
          let commonDirMarker := join [gitDir, js "commondir"]
          if ¬ fs.existsSync commonDirMarker then
            some { root := fs.canonicalPath root, commonGitDir := fs.canonicalPath gitDir, linked := false }
          else
            match fs.readFileSync commonDirMarker with
            | none => none
            | some text =>
              let commonDir := posix_path.resolve fs.cwd [gitDir, trim text]
              if ¬ fs.existsSync commonDir then none
              else some { root := fs.canonicalPath root, commonGitDir := fs.canonicalPath commonDir, linked := true }

def gitPath (dir : JsString) : JsString :=
  join [dir, js ".git"]

/-- The nearest place, from a given one upwards, that has an entry `.git`. -/
def nearestGit (fs : FileSystem) (place : Names) : Option Names :=
  place.inits.reverse.find? fun above => fs.existsSync (gitPath (absolute above))

/-- The checkout that a place belongs to. -/
def checkoutAt (fs : FileSystem) (place : Names) : Option GitCheckout :=
  (fs.nearestGit place).bind fun root => fs.readCheckout (absolute root) (gitPath (absolute root))

/-- What a search without a cache answers for a path. -/
def searchCheckout (fs : FileSystem) (location : JsString) : Option GitCheckout :=
  if location = [] then none else fs.checkoutAt (placeOf (absoluteText fs.cwd [location]))

end FileSystem

/-- Filesystem-only Git checkout lookup. One instance is shared across all sessions in a single listing. -/
structure GitCheckoutLookup where
  cache : OrderedMap JsString (Option GitCheckout)

namespace GitCheckoutLookup

def fresh : GitCheckoutLookup := ⟨∅⟩

def remember (self : GitCheckoutLookup) (visited : List JsString) (checkout : Option GitCheckout) :
    GitCheckoutLookup × Option GitCheckout :=
  (⟨visited.foldl (fun cache location => cache.set location checkout) self.cache⟩, checkout)

/-- The loop in `resolve`, in so many rounds; `none` where it does not end in them. -/
def walk (fs : FileSystem) (self : GitCheckoutLookup) :
    Nat → List JsString → JsString → Option (GitCheckoutLookup × Option GitCheckout)
  | 0, _, _ => none
  | rounds + 1, visited, dir =>
    match self.cache.get? dir with
    | some checkout => some (self.remember visited checkout)
    | none =>
      let visited := visited ++ [dir]
      if fs.existsSync (FileSystem.gitPath dir) then
        some (self.remember visited (fs.readCheckout dir (FileSystem.gitPath dir)))
      else
        let parent := dirname dir
        if parent = dir then some (self.remember visited none)
        else walk fs self rounds visited parent

def resolve (fs : FileSystem) (rounds : Nat) (self : GitCheckoutLookup) (location : JsString) :
    Option (GitCheckoutLookup × Option GitCheckout) :=
  if location = [] then some (self, none)
  else self.walk fs rounds [] (posix_path.resolve fs.cwd [location])

/-- One query after another. -/
def resolveAll (fs : FileSystem) (rounds : Nat) : GitCheckoutLookup → List JsString →
    Option (GitCheckoutLookup × List (Option GitCheckout))
  | self, [] => some (self, [])
  | self, location :: locations => do
    let (self, checkout) ← self.resolve fs rounds location
    let (self, checkouts) ← resolveAll fs rounds self locations
    return (self, checkout :: checkouts)

end GitCheckoutLookup

namespace FileSystem

theorem reverse_inits_eq (place : Names) : ∃ above, place.inits.reverse = place :: above := by
  induction place using List.reverseRecOn with
  | nil => exact ⟨[], rfl⟩
  | append_singleton place name _ => exact ⟨place.inits.reverse, by simp [List.inits_append]⟩

variable (fs : FileSystem)

theorem checkoutAt_of_exists {place : Names} (h : fs.existsSync (gitPath (absolute place)) = true) :
    fs.checkoutAt place = fs.readCheckout (absolute place) (gitPath (absolute place)) := by
  obtain ⟨above, habove⟩ := reverse_inits_eq place
  rw [checkoutAt, nearestGit, habove, List.find?_cons_of_pos (by exact h)]
  rfl

theorem checkoutAt_concat {place : Names} {name : Name}
    (h : fs.existsSync (gitPath (absolute (place ++ [name]))) = false) :
    fs.checkoutAt (place ++ [name]) = fs.checkoutAt place := by
  have hinits : (place ++ [name]).inits.reverse = (place ++ [name]) :: place.inits.reverse := by
    simp [List.inits_append]
  rw [checkoutAt, checkoutAt, nearestGit, nearestGit, hinits, List.find?_cons_of_neg (by simp [h])]

theorem checkoutAt_root (h : fs.existsSync (gitPath (absolute [])) = false) : fs.checkoutAt [] = none := by
  rw [checkoutAt, nearestGit, List.inits, List.reverse_singleton, List.find?_cons_of_neg (by simp [h])]
  rfl

end FileSystem

/-- What every entry of the cache is: the answer for its directory. -/
def GitCheckoutLookup.Sound (fs : FileSystem) (self : GitCheckoutLookup) : Prop :=
  ∀ place checkout, self.cache.get? (absolute place) = some checkout → checkout = fs.checkoutAt place

namespace GitCheckoutLookup

variable {fs : FileSystem} {self : GitCheckoutLookup}

theorem Sound.remember (h : self.Sound fs) {visited : List JsString} {checkout : Option GitCheckout}
    (hvisited : ∀ dir ∈ visited, ∀ place, dir = absolute place → fs.checkoutAt place = checkout) :
    (self.remember visited checkout).1.Sound fs := by
  induction visited generalizing self with
  | nil => exact h
  | cons dir visited ih =>
    refine @ih ⟨self.cache.set dir checkout⟩ ?_ fun other hother => hvisited other (List.mem_cons_of_mem _ hother)
    intro place known hknown
    rw [OrderedMap.get?_set] at hknown
    split at hknown
    · rename_i hsame
      cases hknown
      exact (hvisited dir List.mem_cons_self place hsame.symm).symm
    · exact h place known hknown

theorem forall_visited_concat {visited : List JsString} {place : Names}
    (hvisited : ∀ dir ∈ visited, ∀ below, dir = absolute below → fs.checkoutAt below = fs.checkoutAt place) :
    ∀ dir ∈ visited ++ [absolute place], ∀ below, dir = absolute below → fs.checkoutAt below = fs.checkoutAt place := by
  intro dir hdir below hbelow
  rcases List.mem_append.mp hdir with hold | hnew
  · exact hvisited dir hold below hbelow
  · have hsame := absolute_injective (hbelow.symm.trans (List.mem_singleton.mp hnew))
    rw [hsame]

/-- The loop ends at the root at the latest, and answers for the directory it started from. -/
theorem Sound.walk (h : self.Sound fs) (place : Names) {visited : List JsString} {rounds : Nat}
    (hvisited : ∀ dir ∈ visited, ∀ below, dir = absolute below → fs.checkoutAt below = fs.checkoutAt place)
    (hrounds : place.length < rounds) :
    ∃ next, self.walk fs rounds visited (absolute place) = some (next, fs.checkoutAt place) ∧ next.Sound fs := by
  induction place using List.reverseRecOn generalizing visited rounds with
  | nil =>
    obtain ⟨rounds, rfl⟩ : ∃ rest, rounds = rest + 1 := ⟨rounds - 1, by omega⟩
    rw [GitCheckoutLookup.walk]
    cases hknown : self.cache.get? (absolute []) with
    | some checkout =>
      cases h [] checkout hknown
      exact ⟨_, rfl, h.remember hvisited⟩
    | none =>
      dsimp only
      rw [dirname_root, if_pos rfl]
      cases hgit : fs.existsSync (FileSystem.gitPath (absolute [])) with
      | true =>
        have hhere := fs.checkoutAt_of_exists hgit
        rw [if_pos rfl, ← hhere]
        exact ⟨_, rfl, h.remember (forall_visited_concat hvisited)⟩
      | false =>
        have hhere := fs.checkoutAt_root hgit
        rw [if_neg Bool.false_ne_true, ← hhere]
        exact ⟨_, rfl, h.remember (forall_visited_concat hvisited)⟩
  | append_singleton place name ih =>
    obtain ⟨rounds, rfl⟩ : ∃ rest, rounds = rest + 1 := ⟨rounds - 1, by omega⟩
    rw [GitCheckoutLookup.walk]
    cases hknown : self.cache.get? (absolute (place ++ [name])) with
    | some checkout =>
      cases h _ checkout hknown
      exact ⟨_, rfl, h.remember hvisited⟩
    | none =>
      dsimp only
      have hparent : absolute place ≠ absolute (place ++ [name]) := by
        intro hsame
        have hlength := congrArg List.length (absolute_injective hsame)
        rw [List.length_append, List.length_singleton] at hlength
        omega
      rw [dirname_absolute_concat, if_neg hparent]
      cases hgit : fs.existsSync (FileSystem.gitPath (absolute (place ++ [name]))) with
      | true =>
        have hhere := fs.checkoutAt_of_exists hgit
        rw [if_pos rfl, ← hhere]
        exact ⟨_, rfl, h.remember (forall_visited_concat hvisited)⟩
      | false =>
        have hhere := fs.checkoutAt_concat hgit
        rw [if_neg Bool.false_ne_true, hhere]
        rw [List.length_append, List.length_singleton] at hrounds
        refine ih ?_ (by omega)
        have hall := forall_visited_concat hvisited
        rwa [hhere] at hall

/-- How far below the root the directory of a query is. -/
def depth (fs : FileSystem) (location : JsString) : Nat :=
  (placeOf (absoluteText fs.cwd [location])).length

theorem Sound.resolve (h : self.Sound fs) {location : JsString} {rounds : Nat} (hrounds : depth fs location < rounds) :
    ∃ next, self.resolve fs rounds location = some (next, fs.searchCheckout location) ∧ next.Sound fs := by
  rw [GitCheckoutLookup.resolve, FileSystem.searchCheckout]
  by_cases hempty : location = []
  · rw [if_pos hempty, if_pos hempty]
    exact ⟨self, rfl, h⟩
  · rw [if_neg hempty, if_neg hempty]
    exact h.walk _ (fun _ hdir => absurd hdir List.not_mem_nil) hrounds

theorem Sound.resolveAll (h : self.Sound fs) {locations : List JsString} {rounds : Nat}
    (hrounds : ∀ location ∈ locations, depth fs location < rounds) :
    ∃ next, resolveAll fs rounds self locations = some (next, locations.map fs.searchCheckout) ∧ next.Sound fs := by
  induction locations generalizing self with
  | nil => exact ⟨self, rfl, h⟩
  | cons location locations ih =>
    obtain ⟨next, hresolve, hnext⟩ := h.resolve (hrounds location List.mem_cons_self)
    obtain ⟨last, hrest, hlast⟩ := ih hnext fun other hother => hrounds other (List.mem_cons_of_mem _ hother)
    refine ⟨last, ?_, hlast⟩
    rw [GitCheckoutLookup.resolveAll, hresolve]
    simp only [Option.bind_eq_bind, Option.bind_some, hrest]
    rfl

theorem exists_depth_lt (fs : FileSystem) (locations : List JsString) :
    ∃ bound, ∀ location ∈ locations, depth fs location < bound := by
  induction locations with
  | nil => exact ⟨0, fun _ h => absurd h List.not_mem_nil⟩
  | cons location locations ih =>
    obtain ⟨bound, hbound⟩ := ih
    refine ⟨bound + depth fs location + 1, List.forall_mem_cons.mpr ⟨by omega, fun other hother => ?_⟩⟩
    have hother := hbound other hother
    omega

/-- After any history of queries, each of which ended with the answer of a search without a cache, `resolve` ends with
    that answer too. -/
theorem resolve_memoised (fs : FileSystem) (queries : List JsString) (location : JsString) :
    ∃ bound, ∀ rounds, bound ≤ rounds → ∃ lookup next,
      resolveAll fs rounds fresh queries = some (lookup, queries.map fs.searchCheckout) ∧
      lookup.resolve fs rounds location = some (next, fs.searchCheckout location) := by
  obtain ⟨bound, hbound⟩ := exists_depth_lt fs (location :: queries)
  refine ⟨bound, fun rounds hrounds => ?_⟩
  have hfresh : fresh.Sound fs := by
    intro place checkout hknown
    cases hknown
  obtain ⟨lookup, hqueries, hlookup⟩ := hfresh.resolveAll fun query hquery =>
    Nat.lt_of_lt_of_le (hbound query (List.mem_cons_of_mem _ hquery)) hrounds
  obtain ⟨next, hresolve, -⟩ := hlookup.resolve (Nat.lt_of_lt_of_le (hbound location List.mem_cons_self) hrounds)
  exact ⟨lookup, next, hqueries, hresolve⟩

end GitCheckoutLookup

end pipane.worktree_name

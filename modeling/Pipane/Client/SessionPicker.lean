import Pipane.Lib.Forest
import Pipane.Lib.JsString
import Pipane.Lib.OrderedMap

open javascript

namespace pipane.session_picker

structure SessionInfoDTO where
  id : JsString
  path : JsString
  backendId : Option JsString
  parentSessionPath : Option JsString
deriving DecidableEq

def sessionKey (backendId : Option JsString) (path : JsString) : JsString :=
  match backendId with
  | some id => if id = [] then path else id ++ 0 :: path
  | none => path

namespace SessionInfoDTO

def key (self : SessionInfoDTO) : JsString :=
  sessionKey self.backendId self.path

end SessionInfoDTO

structure SessionRow where
  session : SessionInfoDTO
  depth : Nat
  childCount : Nat
  childrenExpanded : Bool

/-- What the picker knows besides the sessions: the visibility that the user chose, the session that is open, and
    whether `getSessionStatus` is "running" for a path and a backend. -/
structure View where
  childVisibility : OrderedMap JsString Bool
  activeId : JsString
  activeBackendId : Option JsString
  running : JsString → Option JsString → Bool

namespace View

variable (self : View) (s : SessionInfoDTO)

def isActive : Bool :=
  s.id = self.activeId && (s.backendId.all (· = []) || s.backendId = self.activeBackendId)

def isRunning : Bool :=
  self.running s.path s.backendId

end View

section

variable (sessions : List SessionInfoDTO)

def byKey : OrderedMap JsString SessionInfoDTO :=
  sessions.foldl (fun map session => map.set session.key session) ∅

/-- A key under which a session is known. -/
abbrev Known :=
  {key : JsString // (byKey sessions).contains key = true}

/-- `byKey.get(key)!` -/
def session (key : Known sessions) : SessionInfoDTO :=
  ((byKey sessions).get? key.1).get key.2

def parentKey (s : SessionInfoDTO) : Option (Known sessions) :=
  match s.parentSessionPath with
  | none => none
  | some path =>
    if path = [] then none
    else
      let key := sessionKey s.backendId path
      if h : (byKey sessions).contains key = true then some ⟨key, h⟩ else none

variable {sessions} in
theorem length_unseen_lt {key : JsString} {seen : List JsString} (hknown : (byKey sessions).contains key = true)
    (hunseen : key ∉ seen) :
    ((byKey sessions).keys.filter (· ∉ seen ++ [key])).length < ((byKey sessions).keys.filter (· ∉ seen)).length := by
  have hkey : key ∈ (byKey sessions).keys := OrderedMap.mem_keys_iff.mpr (Option.isSome_iff_exists.mp hknown)
  have hfilter : (byKey sessions).keys.filter (· ∉ seen ++ [key]) =
      ((byKey sessions).keys.filter (· ∉ seen)).filter (· ≠ key) := by
    rw [List.filter_filter]
    refine List.filter_congr fun other _ => ?_
    rw [← Bool.decide_and]
    refine decide_eq_decide.mpr ?_
    rw [List.mem_append, List.mem_singleton, not_or]
    exact and_comm
  rw [hfilter, List.length_filter_lt_length_iff_exists]
  exact ⟨key, List.mem_filter.mpr ⟨hkey, decide_eq_true hunseen⟩, by simp⟩

/-- The loop of `hasCycle`. -/
def climb (seen : List JsString) (key : Option (Known sessions)) : Bool :=
  match key with
  | none => false
  | some key =>
    if key.1 ∈ seen then true else climb (seen ++ [key.1]) (parentKey sessions (session sessions key))
termination_by ((byKey sessions).keys.filter (· ∉ seen)).length
decreasing_by
  rename_i h
  exact length_unseen_lt key.2 h

def hasCycle (s : SessionInfoDTO) : Bool :=
  climb sessions [s.key] (parentKey sessions s)

structure Tree where
  children : OrderedMap JsString (List SessionInfoDTO) := ∅
  roots : List SessionInfoDTO := []

/-- One session finds its place. -/
def place (tree : Tree) (s : SessionInfoDTO) : Tree :=
  match parentKey sessions s with
  | none => { tree with roots := tree.roots ++ [s] }
  | some parent =>
    if hasCycle sessions s then { tree with roots := tree.roots ++ [s] }
    else { tree with children := tree.children.set parent.1 ((tree.children.get? parent.1).getD [] ++ [s]) }

def buildTree : Tree :=
  sessions.foldl (place sessions) {}

end

namespace Tree

variable (self : Tree)

def kids (s : SessionInfoDTO) : List SessionInfoDTO :=
  (self.children.get? s.key).getD []

/-- Whether a session or one below it satisfies a predicate; `none` where the recursion does not end in time. -/
def subtreeMatches (predicate : SessionInfoDTO → Bool) : Nat → SessionInfoDTO → Option Bool
  | 0, _ => none
  | fuel + 1, s =>
    if predicate s then some true else (self.kids s).anyM (subtreeMatches predicate fuel)

def childrenExpanded (view : View) (fuel : Nat) (s : SessionInfoDTO) : Option Bool :=
  if self.kids s = [] then some false
  else
    match view.childVisibility.get? s.key with
    | some visible => some visible
    | none => (self.kids s).anyM (self.subtreeMatches (fun d => view.isRunning d || view.isActive d) fuel)

def visit (view : View) : Nat → SessionInfoDTO → Nat → Option (List SessionRow)
  | 0, _, _ => none
  | fuel + 1, s, depth =>
    match self.childrenExpanded view fuel s with
    | none => none
    | some expanded =>
      let row := ⟨s, depth, (self.kids s).length, expanded⟩
      if expanded then
        ((self.kids s).mapM fun kid => visit view fuel kid (depth + 1)).map fun rows => row :: rows.flatten
      else some [row]

def rows (view : View) (fuel : Nat) (root : SessionInfoDTO) : Option (List SessionRow) :=
  self.visit view fuel root 0

def subtreeRunning (view : View) (fuel : Nat) (root : SessionInfoDTO) : Option Bool :=
  self.subtreeMatches view.isRunning fuel root

end Tree

end pipane.session_picker

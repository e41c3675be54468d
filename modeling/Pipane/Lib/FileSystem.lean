import Pipane.Lib.Path

open javascript posix_path

namespace file_system

/-- What stands at a place in a file system. -/
inductive Node
  | file (content : List UInt8)
  | directory
  | symlink (target : JsString)
  | other

/-- The nodes of a file system under their places, where every place is in a directory. -/
structure FileSystem where
  node? : Names → Option Node
  root : node? [] = some .directory
  nested : ∀ names name, (node? (names ++ [name])).isSome → node? names = some .directory

inductive Errno
  | ENOENT
  | ENOTDIR
  | ELOOP
deriving DecidableEq

/-- Where a path leads: to something that exists, or to a free name in a directory. -/
inductive Reached
  | found (names : Names)
  | vacant (names : Names)
deriving DecidableEq

def Reached.names : Reached → Names
  | .found names => names
  | .vacant names => names

def SYMLOOP_MAX : Nat := 40

variable (fs : FileSystem)

/-- Whether a node is a link, the one kind of node that a path does not stop at. -/
def isLink : Option Node → Bool
  | some (.symlink _) => true
  | _ => false

def isDirectory : Option Node → Bool
  | some .directory => true
  | _ => false

def isFile : Option Node → Bool
  | some (.file _) => true
  | _ => false

/-- One part of a path from a directory, with the rest of the path: `go` goes on down the rest from a place, `follow`
goes on after a link. -/
def visit (follow : Names → List Segment → Except Errno Reached) (here : Names) (rest : List Segment)
    (go : Names → Except Errno Reached) : Segment → Except Errno Reached
  | .stay => go here
  | .up => go here.dropLast
  | .down name =>
    match fs.node? (here ++ [name]) with
    | none => if rest = [] then .ok (.vacant (here ++ [name])) else .error .ENOENT
    | some (.symlink target) => follow (if isAbsolute target then [] else here) (segments target ++ rest)
    | some _ => go (here ++ [name])

def advance (follow : Names → List Segment → Except Errno Reached) : Names → List Segment → Except Errno Reached
  | here, [] => .ok (.found here)
  | here, segment :: rest =>
    if isDirectory (fs.node? here) then visit fs follow here rest (fun there => advance follow there rest) segment
    else .error .ENOTDIR

/-- Path resolution through at most the given number of links. -/
def walk : Nat → Names → List Segment → Except Errno Reached
  | 0 => advance fs fun _ _ => .error .ELOOP
  | links + 1 => advance fs (walk links)

/-- Where the kernel gets with an absolute path, its last link followed too. -/
def reach (path : JsString) : Except Errno Reached :=
  walk fs SYMLOOP_MAX [] (segments path)

/-- The place of what exists at an absolute path. -/
def locate (path : JsString) : Except Errno Names :=
  match reach fs path with
  | .ok (.found names) => .ok names
  | .ok (.vacant _) => .error .ENOENT
  | .error errno => .error errno

/-- `realpathSync(path)` of an absolute path. -/
def realpathSync (path : JsString) : Except Errno JsString :=
  (locate fs path).map absolute

/-- `statSync(path)`: the kind of what exists at an absolute path. -/
def statSync (path : JsString) : Except Errno (Option Node) :=
  (locate fs path).map fs.node?

variable {fs}

section

variable {follow : Names → List Segment → Except Errno Reached}

end

/-- What a link under a name of a directory leads to. -/
def follow (fs : FileSystem) (here : Names) (target : JsString) : Except Errno Reached :=
  walk fs (SYMLOOP_MAX - 1) (if isAbsolute target then [] else here) (segments target)

/-- Something that is no link stands at a place. -/
def Plain (fs : FileSystem) (names : Names) : Prop :=
  (fs.node? names).isSome ∧ isLink (fs.node? names) = false

/-- A free name in a directory. -/
def Vacant (fs : FileSystem) (names : Names) : Prop :=
  fs.node? names = none ∧ ∃ dir name, names = dir ++ [name] ∧ isDirectory (fs.node? dir) = true

def Reached.Valid (fs : FileSystem) : Reached → Prop
  | .found names => Plain fs names
  | .vacant names => Vacant fs names

/-- What a listing of places other than the root says about a place. -/
def listed (entries : List (List JsString × Node)) (texts : List JsString) : Option Node :=
  if texts = [] then some .directory else entries.lookup texts

end file_system

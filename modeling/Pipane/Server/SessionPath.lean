import Pipane.Lib.FileSystem
import Pipane.Lib.Json

open javascript json posix_path file_system

namespace pipane.session_path

inductive SessionPathErrorCode
  | invalid
  | not_found
deriving DecidableEq

structure SessionPathError where
  message : String
  code : SessionPathErrorCode
deriving DecidableEq

def isWithin (cwd : Names) (root candidate : JsString) : Bool :=
  let relative := relative cwd root candidate
  relative ≠ [] && relative ≠ [DOT, DOT] && !([DOT, DOT, SLASH].isPrefixOf relative) && !isAbsolute relative

/-- A guard with the working directory of its process. Its root is a resolved path. -/
structure SessionPathGuard where
  cwd : Names
  configuredRoot : JsString
  resolved : ∃ names, configuredRoot = absolute names

/-- `new SessionPathGuard(sessionsRoot)` -/
def SessionPathGuard.new (cwd : Names) (sessionsRoot : JsString) : SessionPathGuard where
  cwd := cwd
  configuredRoot := resolve cwd [sessionsRoot]
  resolved := ⟨_, rfl⟩

def JSONL : JsString :=
  js ".jsonl"

namespace SessionPathGuard

variable (self : SessionPathGuard) (fs : FileSystem)

def resolveLexical (value : Option Value) : Except SessionPathError JsString :=
  match value with
  | some (.str value) =>
    if value = [] ∨ 0 ∈ value then throw ⟨"Missing or invalid session path", .invalid⟩
    else if ¬ isAbsolute value then throw ⟨"Session path must be absolute", .invalid⟩
    else
      let candidate := resolve self.cwd [value]
      if extname candidate ≠ JSONL ∨ ¬ isWithin self.cwd self.configuredRoot candidate then
        throw ⟨"Session path must be a .jsonl file within the Pi sessions directory", .invalid⟩
      else return candidate
  | _ => throw ⟨"Missing or invalid session path", .invalid⟩

def resolveRoot : Except SessionPathError JsString :=
  match realpathSync fs self.configuredRoot with
  | .error errno =>
    if errno = .ENOENT ∨ errno = .ENOTDIR then throw ⟨"Pi sessions directory not found", .not_found⟩
    else throw ⟨"Invalid Pi sessions directory", .invalid⟩
  | .ok canonicalRoot =>
    match statSync fs canonicalRoot with
    | .error _ => throw ⟨"Invalid Pi sessions directory", .invalid⟩
    | .ok stat => if isDirectory stat then return canonicalRoot else throw ⟨"Invalid Pi sessions directory", .invalid⟩

def resolveExisting (value : Option Value) : Except SessionPathError JsString := do
  let candidate ← self.resolveLexical value
  let canonicalRoot ← self.resolveRoot fs
  match realpathSync fs candidate with
  | .error errno =>
    if errno = .ENOENT ∨ errno = .ENOTDIR then throw ⟨"Session file not found", .not_found⟩
    else throw ⟨"Invalid session path", .invalid⟩
  | .ok canonicalCandidate =>
    if extname canonicalCandidate ≠ JSONL ∨ ¬ isWithin self.cwd canonicalRoot canonicalCandidate then
      throw ⟨"Session path escapes the Pi sessions directory", .invalid⟩
    else
      match statSync fs canonicalCandidate with
      | .error errno =>
        if errno = .ENOENT ∨ errno = .ENOTDIR then throw ⟨"Session file not found", .not_found⟩
        else throw ⟨"Invalid session path", .invalid⟩
      | .ok stat => if isFile stat then return canonicalCandidate else throw ⟨"Session path is not a file", .invalid⟩

/-- The destination of a file that is not there: its parent directory, canonical, and its name. -/
def pendingPath (candidate : JsString) : Except SessionPathError JsString := do
  let canonicalRoot ← self.resolveRoot fs
  match realpathSync fs (dirname candidate) with
  | .error _ => throw ⟨"Session parent directory not found", .not_found⟩
  | .ok canonicalParent =>
    if canonicalParent ≠ canonicalRoot ∧ ¬ isWithin self.cwd canonicalRoot canonicalParent then
      throw ⟨"Session path escapes the Pi sessions directory", .invalid⟩
    else
      match statSync fs canonicalParent with
      | .error _ => throw ⟨"Invalid session parent directory", .invalid⟩
      | .ok stat =>
        if isDirectory stat then return join [canonicalParent, basename candidate]
        else throw ⟨"Invalid session parent directory", .invalid⟩

def resolvePending (value : Option Value) : Except SessionPathError JsString := do
  let candidate ← self.resolveLexical value
  match self.resolveExisting fs (some (.str candidate)) with
  | .ok path => return path
  | .error error => if error.code ≠ .not_found then throw error else self.pendingPath fs candidate

def createPath (filename : JsString) : Except SessionPathError JsString := do
  if filename = [] ∨ basename filename ≠ filename ∨ extname filename ≠ JSONL then
    throw ⟨"Invalid generated session filename", .invalid⟩
  else
    let canonicalRoot ← self.resolveRoot fs
    let candidate := join [canonicalRoot, filename]
    if ¬ isWithin self.cwd canonicalRoot candidate then
      throw ⟨"Generated session path escapes the Pi sessions directory", .invalid⟩
    else return candidate

end SessionPathGuard

end pipane.session_path

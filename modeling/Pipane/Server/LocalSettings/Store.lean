import Pipane.Lib.JsObject
import Pipane.Server.LocalSettings.NormalForm

open javascript json js_object

namespace pipane.local_settings

structure Store (RegExp : Type) where
  currentSettings : LocalSettings := DEFAULT_SETTINGS
  compiledFilters : List (CompiledFilter RegExp) := []
  loadErrors : List JsString := []

/-- The settings file, and the one beside it that a save writes first. -/
structure Disk where
  settings : Option (List UInt8)
  temporary : Option (List UInt8)

/-- How a call ends: with the result of a validation, with errors, or by throwing. -/
inductive Answer
  | accepted (validated : Validated)
  | refused (errors : List JsString)
  | thrown

/-- The call of a save that fails, with the message of its error; a failed write may leave any bytes behind. -/
inductive SaveFault
  | mkdir (message : JsString)
  | write (message : JsString) (left : Option (List UInt8))
  | rename (message : JsString)

structure Outcome (RegExp : Type) where
  store : Store RegExp
  disk : Disk
  answer : Answer

section

variable (inherited : List (JsString × Value)) {RegExp : Type} (engine : Engine RegExp) (settingsPath : JsString)

def readFailed (message : JsString) : JsString :=
  js "Failed to read local settings at " ++ settingsPath ++ js ": " ++ message

/-- `failure` is the message of the error of `readFileSync`; `none` is a thrown error. -/
def loadFromDisk (disk : Disk) (failure : Option JsString) : Option (Store RegExp) :=
  match disk.settings with
  | none => some {}
  | some bytes =>
    match failure with
    | some message => some { loadErrors := [readFailed settingsPath message] }
    | none =>
      match validate inherited engine (bufferText bytes) with
      | .error errors => some { loadErrors := errors }
      | .ok validated =>
        (compileFilters engine validated.settings).map fun compiledFilters =>
          { currentSettings := validated.settings, compiledFilters }

/-- The store afterwards, and whether its settings changed. -/
def reloadFromDiskIfValid (self : Store RegExp) (disk : Disk) (failure : Option JsString) :
    Option (Store RegExp × Bool) :=
  let prevFormatted := formatSettingsJson self.currentSettings
  match disk.settings with
  | none => some ({}, prevFormatted ≠ formatSettingsJson DEFAULT_SETTINGS)
  | some bytes =>
    match failure with
    | some message => some ({ self with loadErrors := [readFailed settingsPath message] }, false)
    | none =>
      match validate inherited engine (bufferText bytes) with
      | .error errors => some ({ self with loadErrors := errors }, false)
      | .ok validated =>
        (compileFilters engine validated.settings).map fun compiledFilters =>
          ({ currentSettings := validated.settings, compiledFilters },
            prevFormatted ≠ formatSettingsJson validated.settings)

def writeFailed (message : JsString) : JsString :=
  js "Failed to write settings: " ++ message

def save (self : Store RegExp) (disk : Disk) (content : JsString) (fault : Option SaveFault) : Outcome RegExp :=
  match validate inherited engine content with
  | .error errors => ⟨self, disk, .refused errors⟩
  | .ok validated =>
    match fault with
    | some (.mkdir message) => ⟨self, disk, .refused [writeFailed message]⟩
    | some (.write message left) => ⟨self, { disk with temporary := left }, .refused [writeFailed message]⟩
    | some (.rename message) =>
      ⟨self, { disk with temporary := some (textEncode validated.formatted) }, .refused [writeFailed message]⟩
    | none =>
      let disk : Disk := { settings := some (textEncode validated.formatted), temporary := none }
      match compileFilters engine validated.settings with
      | none => ⟨{ self with currentSettings := validated.settings }, disk, .thrown⟩
      | some compiledFilters => ⟨{ currentSettings := validated.settings, compiledFilters }, disk, .accepted validated⟩

end

/-! Merging a patch. A property that `__proto__` puts into `Object.prototype` is one that every object inherits. -/

/-- `Object.assign(target, source)`; on an object that is not `Object.prototype`, `__proto__` is no own property. -/
def assign (target source : List (JsString × Value)) : List (JsString × Value) :=
  (source.filter fun member => member.1 ≠ PROTO).foldl defineMember target

/-- Whether setting the prototype of `Object.prototype` to a value throws. -/
def setsPrototype : Value → Bool
  | .obj _ => true
  | .arr _ => true
  | _ => false

/-- `Object.assign(Object.prototype, source)`, and whether it returned. -/
def assignInherited (inherited : List (JsString × Value)) : List (JsString × Value) → List (JsString × Value) × Bool
  | [] => (inherited, true)
  | (key, value) :: source =>
    if key = PROTO then
      if setsPrototype value then (inherited, false) else assignInherited inherited source
    else assignInherited (defineMember inherited (key, value)) source

structure Merge where
  inherited : List (JsString × Value)
  merged : List (JsString × Value)

/-- One key of a patch. -/
def patchMember (state : Merge) (key : JsString) (value : Value) : Merge × Bool :=
  if key = js "version" then (state, true)
  else if key = PROTO then
    match value with
    | .obj source =>
      let (inherited, returned) := assignInherited state.inherited source
      ({ state with inherited }, returned)
    | _ => (state, true)
  else
    let merged := { state with merged := defineMember state.merged (key, value) }
    match state.merged.lookup key, state.inherited.lookup key, value with
    | some (.obj own), _, .obj source =>
      ({ state with merged := defineMember state.merged (key, .obj (assign own source)) }, true)
    | some (.obj _), _, .null => (state, true)
    | some _, _, _ => (merged, true)
    | none, some (.obj shared), .obj source =>
      ({ state with inherited := defineMember state.inherited (key, .obj (assign shared source)) }, true)
    | none, some (.obj _), .null => (state, true)
    | none, some (.arr _), .obj _ => (state, true)
    | none, some (.arr _), .null => (state, true)
    | none, _, _ => (merged, true)

def mergePatch (state : Merge) : List (JsString × Value) → Merge × Bool
  | [] => (state, true)
  | (key, value) :: patch =>
    let (state, returned) := patchMember state key value
    if returned then mergePatch state patch else (state, false)

section

variable {RegExp : Type} (engine : Engine RegExp)

/-- What every object inherits afterwards, with the outcome. -/
def patch (inherited : List (JsString × Value)) (self : Store RegExp) (disk : Disk)
    (partialSettings : List (JsString × Value)) (fault : Option SaveFault) :
    List (JsString × Value) × Outcome RegExp :=
  let (state, returned) := mergePatch ⟨inherited, self.currentSettings.members⟩ partialSettings
  if returned then
    (state.inherited, save state.inherited engine self disk (pretty 0 (.obj state.merged)) fault)
  else (state.inherited, ⟨self, disk, .thrown⟩)

end

/-! Saving writes what reading gives back, or nothing. -/

section

variable {inherited : List (JsString × Value)} {RegExp : Type} {engine : Engine RegExp} {settingsPath : JsString}

/-- What reading the file again gives is what the store has already. -/
structure Reloads (inherited : List (JsString × Value)) (engine : Engine RegExp) (settingsPath : JsString)
    (store : Store RegExp) (disk : Disk) : Prop where
  load : loadFromDisk inherited engine settingsPath disk none = some store
  reload : reloadFromDiskIfValid inherited engine settingsPath store disk none = some (store, false)

end

end pipane.local_settings

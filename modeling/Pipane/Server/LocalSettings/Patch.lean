import Pipane.Lib.JsObject.Decode
import Pipane.Server.LocalSettings.Store

open javascript json js_object

namespace pipane.local_settings

def VERSION : JsString := js "version"

/-- `typeof value === "object"` -/
def typeofObject (heap : Heap) : JsValue → Bool
  | .null => true
  | .ref ref =>
    match heap.objects.get? ref with
    | some object => object.kind ≠ .function
    | none => false
  | _ => false

def isArray (heap : Heap) : JsValue → Bool
  | .ref ref =>
    match heap.objects.get? ref with
    | some object => object.kind = .array
    | none => false
  | _ => false

/-- `Object.keys` -/
def ownKeys (heap : Heap) (ref : Ref) : List JsString :=
  match heap.objects.get? ref with
  | some object => object.own.keys
  | none => []

/-- The heap when `Object.assign` returns or throws, and whether it returned. -/
def assignKeys (heap : Heap) (target source : Ref) : List JsString → Heap × Bool
  | [] => (heap, true)
  | key :: keys =>
    match heap.set target key (heap.get source key) with
    | none => (heap, false)
    | some heap => assignKeys heap target source keys

def objectAssign (heap : Heap) (target source : JsValue) : Heap × Bool :=
  match target, source with
  | .ref target, .ref source => assignKeys heap target source (ownKeys heap source)
  | _, _ => (heap, true)

/-- One pass of the loop over the keys of a patch. -/
def patchKey (heap : Heap) (merged patch : Ref) (key : JsString) : Heap × Bool :=
  if key = VERSION then (heap, true)
  else
    let section_ := heap.get merged key
    let value := heap.get patch key
    if section_.isTruthy && typeofObject heap section_ && typeofObject heap value && !isArray heap value then
      objectAssign heap section_ value
    else
      match heap.set merged key value with
      | none => (heap, false)
      | some heap => (heap, true)

def patchKeys (heap : Heap) (merged patch : Ref) : List JsString → Heap × Bool
  | [] => (heap, true)
  | key :: keys =>
    let (heap, returned) := patchKey heap merged patch key
    if returned then patchKeys heap merged patch keys else (heap, false)

/-- The objects of a patch that has been parsed, those of the clone of the settings, and all of them when the merge
    returns or throws. -/
structure Patching where
  parsed : Heap
  patch : Ref
  cloned : Heap
  merged : Ref
  after : Heap
  returned : Bool

def applyPatch (heap : Heap) (settings : LocalSettings) (members : OrderedMap JsString Value) : Patching :=
  let (parsed, patch) := heap.decodeObject members.entries
  let (cloned, merged) := parsed.decodeObject settings.members
  let (after, returned) := patchKeys cloned merged patch (ownKeys cloned patch)
  { parsed, patch, cloned, merged, after, returned }

theorem applyPatch_eq (heap : Heap) (settings : LocalSettings) (members : OrderedMap JsString Value) {parsed cloned : Heap}
    {patch merged : Ref} (decoded : heap.decodeObject members.entries = (parsed, patch))
    (copied : parsed.decodeObject settings.members = (cloned, merged)) :
    applyPatch heap settings members =
      { parsed, patch, cloned, merged
        after := (patchKeys cloned merged patch (ownKeys cloned patch)).1
        returned := (patchKeys cloned merged patch (ownKeys cloned patch)).2 } := by
  rw [applyPatch, decoded]
  dsimp only
  rw [copied]

/-- Only own properties of the clone have been written to, and of the clone only the sections that a patch names. -/
structure Framed (keys : List JsString) (run : Patching) : Prop where
  writes : ∃ writes, run.after.writes = run.parsed.writes ++ writes ∧ ∀ write ∈ writes,
    ∃ ref key, write = .own ref key ∧ run.parsed.allocated ≤ ref ∧ ref < run.cloned.allocated
  others : ∀ ref clone, run.cloned.objects.get? run.merged = some clone → ref ≠ run.merged →
    (∀ key ∈ keys, clone.own.get? key ≠ some (.data (.ref ref))) →
      run.after.objects.get? ref = run.cloned.objects.get? ref
  unnamed : ∃ clone now, run.cloned.objects.get? run.merged = some clone ∧
    run.after.objects.get? run.merged = some now ∧ now.proto = clone.proto ∧
      ∀ key, key ∉ keys → now.own.get? key = clone.own.get? key

/-! Which patches do that. -/

/-- Whether assigning members to `Object.prototype` throws at one of them. -/
def throwsAt (member : JsString × Value) : Bool :=
  member.1 = PROTO && setsPrototype member.2

/-- Before it returns or throws, assigning them adds nothing to `Object.prototype`. -/
def Quiet (source : List (JsString × Value)) : Prop :=
  ∀ member ∈ (ownOf source).entries.takeWhile (fun member => !throwsAt member), member.1 = PROTO

/-- A value that sets no prototype under the name `__proto__`. -/
def IsPrimitive : Value → Prop
  | .null => False
  | .obj _ => False
  | .arr _ => False
  | _ => True

/-- A member of a patch that is set or assigned without `__proto__` having an effect. -/
def Harmless (settings : LocalSettings) (key : JsString) : Value → Prop
  | .arr _ => key ≠ PROTO
  | .obj source =>
    (key = PROTO → Quiet source) ∧
      ∀ own, (ownOf settings.members).get? key = some (.obj own) →
        ∀ inner, (ownOf source).get? PROTO = some inner → IsPrimitive inner
  | _ => True

/-- Whether the merge throws at a member of a patch. -/
def abortsAt (key : JsString) : Value → Bool
  | .obj source => key = PROTO && (ownOf source).entries.any throwsAt
  | _ => false

/-- The members of a patch up to the first that the merge throws at. -/
def reached : List (JsString × Value) → List (JsString × Value)
  | [] => []
  | member :: members => member :: if abortsAt member.1 member.2 then [] else reached members

end pipane.local_settings

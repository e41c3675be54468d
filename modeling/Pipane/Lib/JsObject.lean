import Pipane.Lib.Json
import Pipane.Lib.OrderedMap

open javascript json

namespace js_object

abbrev Ref := Nat

inductive Kind
  | plain
  | array
  | function
deriving DecidableEq

inductive JsValue
  | undefined
  | null
  | bool (b : Bool)
  | num (n : Number)
  | str (s : JsString)
  | ref (r : Ref)
deriving DecidableEq

/-- A property with a value, or the accessor `__proto__`. -/
inductive Property
  | data (value : JsValue)
  | proto
deriving DecidableEq

structure JsObject where
  kind : Kind := .plain
  own : OrderedMap JsString Property := ∅
  proto : Option Ref

/-- A write to an own property of an object, or to its link to a prototype. -/
inductive Write
  | own (ref : Ref) (key : JsString)
  | proto (ref : Ref)
deriving DecidableEq

/-- The object that a write changes. -/
def Write.target : Write → Ref
  | .own ref _ => ref
  | .proto ref => ref

/-- The objects of a program and the writes to them so far; a new object is none. -/
structure Heap where
  objects : OrderedMap Ref JsObject
  allocated : Nat
  writes : List Write := []

def PROTO : JsString := js "__proto__"

def OBJECT_PROTOTYPE : Ref := 0

def ARRAY_PROTOTYPE : Ref := 1

/-- The functions that every object inherits. -/
def INHERITED_FUNCTIONS : List JsString :=
  [js "constructor", js "__defineGetter__", js "__defineSetter__", js "hasOwnProperty", js "__lookupGetter__",
    js "__lookupSetter__", js "isPrototypeOf", js "propertyIsEnumerable", js "toString", js "valueOf",
    js "toLocaleString"]

/-- The names of `Object.prototype`. -/
def INHERITED_NAMES : List JsString :=
  PROTO :: INHERITED_FUNCTIONS

theorem proto_inherited : PROTO ∈ INHERITED_NAMES :=
  List.mem_cons_self

namespace Heap

variable (self : Heap)

/-- The property that a name stands for on an object or, failing that, along its prototypes. -/
def findFrom : Nat → Option Ref → JsString → Option Property
  | 0, _, _ => none
  | fuel + 1, ref, key =>
    match ref.bind self.objects.get? with
    | none => none
    | some object =>
      match object.own.get? key with
      | some property => some property
      | none => findFrom fuel object.proto key

def find (ref : Ref) (key : JsString) : Option Property :=
  self.findFrom (self.allocated + 1) (some ref) key

/-- `object[key]` -/
def get (ref : Ref) (key : JsString) : JsValue :=
  match self.find ref key with
  | none => .undefined
  | some (.data value) => value
  | some .proto =>
    match (self.objects.get? ref).bind JsObject.proto with
    | none => .null
    | some proto => .ref proto

/-- Whether an object is on the way along the prototypes of another. -/
def inherits : Nat → Option Ref → Ref → Bool
  | 0, _, _ => false
  | fuel + 1, ref, other =>
    match ref with
    | none => false
    | some ref => ref = other || inherits fuel ((self.objects.get? ref).bind JsObject.proto) other

/-- A property of the object itself gets a value. -/
def setOwn (ref : Ref) (key : JsString) (value : JsValue) : Heap :=
  match self.objects.get? ref with
  | none => self
  | some object =>
    { self with
      objects := self.objects.set ref { object with own := object.own.set key (.data value) }
      writes := self.writes ++ [.own ref key] }

/-- `object.__proto__ = value`; `none` is the thrown `TypeError`. -/
def setProto (ref : Ref) (value : JsValue) : Option Heap :=
  let link (proto : Option Ref) : Option Heap :=
    match self.objects.get? ref with
    | none => some self
    | some object =>
      if object.proto = proto then some self
      else if ref = OBJECT_PROTOTYPE ∨ self.inherits (self.allocated + 1) proto ref then none
      else
        some { self with
          objects := self.objects.set ref { object with proto }
          writes := self.writes ++ [.proto ref] }
  match value with
  | .null => link none
  | .ref proto => link (some proto)
  | _ => some self

/-- `object[key] = value`; `none` is the thrown `TypeError`. -/
def set (ref : Ref) (key : JsString) (value : JsValue) : Option Heap :=
  match self.find ref key with
  | some .proto => self.setProto ref value
  | _ => some (self.setOwn ref key value)

/-- A new object. -/
def create (object : JsObject) : Heap × Ref :=
  ({ self with objects := self.objects.set self.allocated object, allocated := self.allocated + 1 }, self.allocated)

/-- `value[key] = member` in strict code: a value that is no object has no properties to write. -/
def setMember (value : JsValue) (key : JsString) (member : JsValue) : Option Heap :=
  match value with
  | .ref ref => self.set ref key member
  | _ => none

end Heap

def JsValue.isNullish : JsValue → Bool
  | .undefined => true
  | .null => true
  | _ => false

def JsValue.isTruthy : JsValue → Bool
  | .undefined => false
  | .null => false
  | .bool b => b
  | .num n => n ≠ .int 0
  | .str s => s ≠ []
  | .ref _ => true

/-- A program in which `Object.prototype` is what the language makes it. -/
structure Realm where
  heap : Heap
  below : ∀ ref object, heap.objects.get? ref = some object → ref < heap.allocated
  prototype : JsObject
  isPrototype : heap.objects.get? OBJECT_PROTOTYPE = some prototype
  isPlain : prototype.kind = .plain
  isRoot : prototype.proto = none
  accessor : prototype.own.get? PROTO = some .proto
  functions : ∀ name ∈ INHERITED_FUNCTIONS, ∃ ref object, prototype.own.get? name = some (.data (.ref ref)) ∧
    heap.objects.get? ref = some object ∧ object.kind = .function
  nothingElse : ∀ name, name ∉ INHERITED_NAMES → prototype.own.get? name = none
  noOther : ∀ ref object name, heap.objects.get? ref = some object → object.own.get? name = some .proto → name = PROTO
  arrays : ∃ object, heap.objects.get? ARRAY_PROTOTYPE = some object
  links : ∀ ref object proto, heap.objects.get? ref = some object → object.proto = some proto → proto < heap.allocated

/-! Reading and writing. -/

section

variable {heap : Heap} {ref other : Ref} {object : JsObject} {key : JsString}

theorem Heap.find_own {property : Property} (found : heap.objects.get? ref = some object)
    (own : object.own.get? key = some property) : heap.find ref key = some property := by
  rw [find, findFrom, Option.bind_some, found]
  dsimp only
  rw [own]

theorem Heap.find_inherited {prototype : JsObject} (found : heap.objects.get? ref = some object)
    (own : object.own.get? key = none) (link : object.proto = some other) (below : other < heap.allocated)
    (root : heap.objects.get? other = some prototype) (last : prototype.proto = none) :
    heap.find ref key = prototype.own.get? key := by
  obtain ⟨fuel, fuelled⟩ := Nat.exists_eq_succ_of_ne_zero (Nat.ne_of_gt (Nat.zero_lt_of_lt below))
  rw [find, findFrom, Option.bind_some, found]
  dsimp only
  rw [own]
  dsimp only
  rw [fuelled, findFrom, link, Option.bind_some, root]
  dsimp only
  cases inherited : prototype.own.get? key with
  | some property => rfl
  | none =>
    dsimp only
    rw [last]
    cases fuel <;> rfl

theorem Heap.eq_proto_of_find
    (accessor : ∀ ref object name, heap.objects.get? ref = some object → object.own.get? name = some .proto → name = PROTO)
    (found : heap.find ref key = some .proto) : key = PROTO := by
  have along : ∀ fuel ref, heap.findFrom fuel ref key = some .proto → key = PROTO := by
    intro fuel
    induction fuel with
    | zero =>
      intro ref found
      cases found
    | succ fuel ih =>
      intro ref found
      rw [findFrom] at found
      split at found
      · cases found
      · rename_i object held
        obtain ⟨ref, rfl, held⟩ := Option.bind_eq_some_iff.mp held
        split at found
        · rename_i property own
          cases found
          exact accessor ref object key held own
        · exact ih _ found
  exact along _ _ found

theorem Heap.set_of_ne
    (accessor : ∀ ref object name, heap.objects.get? ref = some object → object.own.get? name = some .proto → name = PROTO)
    (other : key ≠ PROTO) (ref : Ref) (value : JsValue) : heap.set ref key value = some (heap.setOwn ref key value) := by
  rw [set]
  split
  · rename_i found
    exact absurd (eq_proto_of_find accessor found) other
  · rfl

theorem Heap.setOwn_of_get? (found : heap.objects.get? ref = some object) (value : JsValue) :
    heap.setOwn ref key value =
      { heap with
        objects := heap.objects.set ref { object with own := object.own.set key (.data value) }
        writes := heap.writes ++ [.own ref key] } := by
  rw [setOwn, found]

theorem Heap.get?_setOwn_self (found : heap.objects.get? ref = some object) (value : JsValue) :
    (heap.setOwn ref key value).objects.get? ref = some { object with own := object.own.set key (.data value) } := by
  rw [setOwn_of_get? found]
  exact OrderedMap.get?_set_self _ _ _

theorem Heap.get?_setOwn_ne (different : other ≠ ref) (value : JsValue) :
    (heap.setOwn ref key value).objects.get? other = heap.objects.get? other := by
  rw [setOwn]
  split
  · rfl
  · exact OrderedMap.get?_set_ne different _

theorem Heap.allocated_setOwn (heap : Heap) (ref : Ref) (key : JsString) (value : JsValue) :
    (heap.setOwn ref key value).allocated = heap.allocated := by
  rw [setOwn]
  split <;> rfl

/-- An object after a write is the one before, but perhaps for its property under the name. -/
theorem Heap.of_get?_setOwn {value : JsValue} (found : (heap.setOwn ref key value).objects.get? other = some object) :
    ∃ earlier, heap.objects.get? other = some earlier ∧ object.proto = earlier.proto ∧ object.kind = earlier.kind ∧
      ∀ name, object.own.get? name = earlier.own.get? name ∨ name = key ∧ object.own.get? name = some (.data value) := by
  by_cases same : other = ref
  · subst same
    cases held : heap.objects.get? other with
    | none =>
      rw [setOwn, held] at found
      rw [held] at found
      cases found
    | some earlier =>
      rw [get?_setOwn_self held] at found
      cases found
      refine ⟨earlier, rfl, rfl, rfl, fun name => ?_⟩
      by_cases named : name = key
      · subst named
        exact .inr ⟨rfl, OrderedMap.get?_set_self _ _ _⟩
      · exact .inl (OrderedMap.get?_set_ne named _)
  · rw [get?_setOwn_ne same] at found
    exact ⟨object, found, rfl, rfl, fun name => .inl rfl⟩

theorem Heap.setProto_of_ne {value : JsValue} {proto : Option Ref} (found : heap.objects.get? ref = some object)
    (link : value = .null ∧ proto = none ∨ ∃ other, value = .ref other ∧ proto = some other) (different : object.proto ≠ proto)
    (ordinary : ref ≠ OBJECT_PROTOTYPE) (acyclic : heap.inherits (heap.allocated + 1) proto ref = false) :
    heap.setProto ref value =
      some { heap with objects := heap.objects.set ref { object with proto }, writes := heap.writes ++ [.proto ref] } := by
  rcases link with ⟨rfl, rfl⟩ | ⟨other, rfl, rfl⟩
  · rw [setProto]
    dsimp only
    rw [found]
    dsimp only
    rw [if_neg different, if_neg (by rw [acyclic]; exact fun h => h.elim ordinary (by decide))]
  · rw [setProto]
    dsimp only
    rw [found]
    dsimp only
    rw [if_neg different, if_neg (by rw [acyclic]; exact fun h => h.elim ordinary (by decide))]

theorem Heap.inherits_below {bound : Nat}
    (links : ∀ ref object proto, ref < bound → heap.objects.get? ref = some object → object.proto = some proto →
      proto < bound) (above : bound ≤ other) (fuel : Nat) (start : Option Ref) (below : ∀ ref ∈ start, ref < bound) :
    heap.inherits fuel start other = false := by
  induction fuel generalizing start with
  | zero => rfl
  | succ fuel ih =>
    cases start with
    | none => rfl
    | some ref =>
      have lower := below ref rfl
      rw [inherits]
      rw [decide_eq_false (Nat.ne_of_lt (Nat.lt_of_lt_of_le lower above)), Bool.false_or]
      refine ih _ fun next mem => ?_
      obtain ⟨object, found, link⟩ := Option.bind_eq_some_iff.mp mem
      exact links ref object next lower found link

theorem Heap.setOwn_writes (heap : Heap) (ref : Ref) (key : JsString) (value : JsValue) :
    ∃ writes, (heap.setOwn ref key value).writes = heap.writes ++ writes := by
  rw [setOwn]
  split
  · exact ⟨[], (List.append_nil _).symm⟩
  · exact ⟨[.own ref key], rfl⟩

theorem Heap.setProto_writes {heap after : Heap} {ref : Ref} {value : JsValue} (h : heap.setProto ref value = some after) :
    ∃ writes, after.writes = heap.writes ++ writes := by
  have same : ∀ {heap after : Heap}, some heap = some after → ∃ writes, after.writes = heap.writes ++ writes := by
    rintro heap after ⟨⟩
    exact ⟨[], (List.append_nil _).symm⟩
  have linked : ∀ {object : JsObject} {proto : Option Ref},
      (if object.proto = proto then some heap
        else if ref = OBJECT_PROTOTYPE ∨ heap.inherits (heap.allocated + 1) proto ref then none
        else some { heap with objects := heap.objects.set ref { object with proto },
                              writes := heap.writes ++ [.proto ref] }) = some after →
        ∃ writes, after.writes = heap.writes ++ writes := by
    intro object proto h
    split at h
    · exact same h
    · split at h
      · cases h
      · cases h
        exact ⟨[.proto ref], rfl⟩
  cases value with
  | null =>
    rw [setProto] at h
    dsimp only at h
    split at h
    · exact same h
    · exact linked h
  | ref other =>
    rw [setProto] at h
    dsimp only at h
    split at h
    · exact same h
    · exact linked h
  | _ => exact same h

theorem Heap.set_writes {heap after : Heap} {ref : Ref} {key : JsString} {value : JsValue}
    (h : heap.set ref key value = some after) : ∃ writes, after.writes = heap.writes ++ writes := by
  rw [set] at h
  split at h
  · exact setProto_writes h
  · cases h
    exact setOwn_writes heap ref key value

theorem Heap.get?_create_self (heap : Heap) (object : JsObject) :
    (heap.create object).1.objects.get? heap.allocated = some object :=
  OrderedMap.get?_set_self _ _ _

theorem Heap.get?_create_ne (older : ref ≠ heap.allocated) (object : JsObject) :
    (heap.create object).1.objects.get? ref = heap.objects.get? ref :=
  OrderedMap.get?_set_ne older _

end

/-! The objects of the language itself, where no code has run yet. -/

def FIRST_FUNCTION : Ref := 2

def objectPrototype : JsObject where
  own := INHERITED_FUNCTIONS.foldl (fun own name =>
    own.set name (.data (.ref (FIRST_FUNCTION + INHERITED_FUNCTIONS.idxOf name))))
    ((∅ : OrderedMap JsString Property).set PROTO .proto)
  proto := none

def intrinsicHeap : Heap where
  objects := INHERITED_FUNCTIONS.foldl (fun objects name =>
    objects.set (FIRST_FUNCTION + INHERITED_FUNCTIONS.idxOf name) { kind := .function, proto := some OBJECT_PROTOTYPE })
    (((∅ : OrderedMap Ref JsObject).set OBJECT_PROTOTYPE objectPrototype).set ARRAY_PROTOTYPE
      { kind := .array, proto := some OBJECT_PROTOTYPE })
  allocated := FIRST_FUNCTION + INHERITED_FUNCTIONS.length

theorem intrinsicHeap_entries (P : Ref × JsObject → Prop) (every : ∀ entry ∈ intrinsicHeap.objects.entries, P entry)
    {ref : Ref} {object : JsObject} (found : intrinsicHeap.objects.get? ref = some object) : P (ref, object) :=
  every _ (OrderedMap.mem_entries_iff.mpr found)

theorem objectPrototype_keys : objectPrototype.own.keys = INHERITED_NAMES := by
  decide +kernel

theorem objectPrototype_function : ∀ name ∈ INHERITED_FUNCTIONS,
    objectPrototype.own.get? name = some (.data (.ref (FIRST_FUNCTION + INHERITED_FUNCTIONS.idxOf name))) := by
  decide +kernel

theorem intrinsicHeap_function : ∀ name ∈ INHERITED_FUNCTIONS,
    (intrinsicHeap.objects.get? (FIRST_FUNCTION + INHERITED_FUNCTIONS.idxOf name)).map JsObject.kind =
      some .function := by
  decide +kernel

def intrinsics : Realm where
  heap := intrinsicHeap
  below ref object found :=
    intrinsicHeap_entries (fun entry => entry.1 < intrinsicHeap.allocated) (by decide +kernel) found
  prototype := objectPrototype
  isPrototype := by rfl
  isPlain := rfl
  isRoot := rfl
  accessor := by decide +kernel
  functions name inherited := by
    obtain ⟨object, held, isFunction⟩ := Option.map_eq_some_iff.mp (intrinsicHeap_function name inherited)
    exact ⟨_, object, objectPrototype_function name inherited, held, isFunction⟩
  nothingElse name outside := by
    rw [OrderedMap.get?_eq_none_iff]
    change name ∉ objectPrototype.own.keys
    rw [objectPrototype_keys]
    exact outside
  noOther ref object name found own :=
    intrinsicHeap_entries (fun entry => ∀ property ∈ entry.2.own.entries, property.2 = .proto → property.1 = PROTO)
      (by decide +kernel) found (name, .proto) (OrderedMap.mem_entries_iff.mpr own) rfl
  arrays := ⟨_, rfl⟩
  links ref object proto found link :=
    intrinsicHeap_entries (fun entry => ∀ proto ∈ entry.2.proto, proto < intrinsicHeap.allocated)
      (by decide +kernel) found proto link

end js_object

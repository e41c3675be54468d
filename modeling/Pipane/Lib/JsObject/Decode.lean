import Pipane.Lib.JsObject

open javascript json

namespace js_object

/-- The own properties that members define one after another. -/
def ownOf (members : List (JsString × Value)) : OrderedMap JsString Value :=
  members.foldl (fun (own : OrderedMap JsString Value) member => own.set member.1 member.2) ∅

def LENGTH : JsString := js "length"

def arrayOwn (values : List JsValue) : OrderedMap JsString Property :=
  (values.zipIdx.foldl (fun (own : OrderedMap JsString Property) item => own.set (decimal item.2) (.data item.1)) ∅).set LENGTH
    (.data (.num (.int values.length)))

mutual

/-- The objects of a JSON value, as `JSON.parse` or `structuredClone` makes them. -/
def Heap.decode (self : Heap) : Value → Heap × JsValue
  | .null => (self, .null)
  | .bool b => (self, .bool b)
  | .num n => (self, .num n)
  | .str s => (self, .str s)
  | .arr items =>
    let (heap, values) := self.decodeItems items
    let (heap, ref) := heap.create { kind := .array, own := arrayOwn values, proto := some ARRAY_PROTOTYPE }
    (heap, .ref ref)
  | .obj members =>
    let (heap, own) := self.decodeMembers ∅ members
    let (heap, ref) := heap.create { own, proto := some OBJECT_PROTOTYPE }
    (heap, .ref ref)

def Heap.decodeItems (self : Heap) : List Value → Heap × List JsValue
  | [] => (self, [])
  | value :: items =>
    let (heap, value) := self.decode value
    let (heap, values) := heap.decodeItems items
    (heap, value :: values)

def Heap.decodeMembers (self : Heap) (own : OrderedMap JsString Property) :
    List (JsString × Value) → Heap × OrderedMap JsString Property
  | [] => (self, own)
  | (key, value) :: members =>
    let (heap, value) := self.decode value
    heap.decodeMembers (own.set key (.data value)) members

end

/-- The object of a JSON object. -/
def Heap.decodeObject (self : Heap) (members : List (JsString × Value)) : Heap × Ref :=
  let (heap, own) := self.decodeMembers ∅ members
  heap.create { own, proto := some OBJECT_PROTOTYPE }

theorem Heap.decode_obj (heap : Heap) (members : List (JsString × Value)) :
    heap.decode (.obj members) = ((heap.decodeObject members).1, .ref (heap.decodeObject members).2) := by
  rw [Heap.decode, Heap.decodeObject]

/-- Objects have been added to a heap, none of them with the accessor. -/
structure Grown (before after : Heap) : Prop where
  allocated : before.allocated ≤ after.allocated
  kept : ∀ ref object, before.objects.get? ref = some object → after.objects.get? ref = some object
  below : ∀ ref object, after.objects.get? ref = some object → ref < after.allocated
  added : ∀ ref object, after.objects.get? ref = some object → before.objects.get? ref = some object ∨
    before.allocated ≤ ref ∧ ∀ name, object.own.get? name ≠ some .proto
  writes : after.writes = before.writes

theorem Grown.refl {heap : Heap} (below : ∀ ref object, heap.objects.get? ref = some object → ref < heap.allocated) :
    Grown heap heap :=
  ⟨Nat.le_refl _, fun _ _ found => found, below, fun _ _ found => .inl found, rfl⟩

theorem Grown.trans {first second third : Heap} (early : Grown first second) (late : Grown second third) :
    Grown first third := by
  refine ⟨Nat.le_trans early.allocated late.allocated, fun ref object found => late.kept _ _ (early.kept _ _ found),
    late.below, fun ref object found => ?_, late.writes.trans early.writes⟩
  rcases late.added ref object found with found | ⟨new, plain⟩
  · exact early.added ref object found
  · exact .inr ⟨Nat.le_trans early.allocated new, plain⟩

theorem grown_create {heap : Heap} (below : ∀ ref object, heap.objects.get? ref = some object → ref < heap.allocated)
    {object : JsObject} (plain : ∀ name, object.own.get? name ≠ some .proto) : Grown heap (heap.create object).1 := by
  have cases_of : ∀ ref now, (heap.create object).1.objects.get? ref = some now →
      ref = heap.allocated ∧ now = object ∨ heap.objects.get? ref = some now := by
    intro ref now found
    by_cases new : ref = heap.allocated
    · subst new
      exact .inl ⟨rfl, (Option.some.inj ((Heap.get?_create_self heap object).symm.trans found)).symm⟩
    · exact .inr ((Heap.get?_create_ne new object).symm.trans found)
  refine ⟨Nat.le_succ _, fun ref now found => ?_, fun ref now found => ?_, fun ref now found => ?_, rfl⟩
  · exact (Heap.get?_create_ne (Nat.ne_of_lt (below ref now found)) object).trans found
  · rcases cases_of ref now found with ⟨rfl, -⟩ | found
    · exact Nat.lt_succ_self _
    · exact Nat.lt_succ_of_lt (below ref now found)
  · rcases cases_of ref now found with ⟨rfl, rfl⟩ | found
    · exact .inr ⟨Nat.le_refl _, plain⟩
    · exact .inl found

/-- A JavaScript value is a JSON value, in objects that are not older than a reference. -/
inductive Decoded (heap : Heap) (low : Ref) : JsValue → Value → Prop
  | null : Decoded heap low .null .null
  | bool (b : Bool) : Decoded heap low (.bool b) (.bool b)
  | num (n : Number) : Decoded heap low (.num n) (.num n)
  | str (s : JsString) : Decoded heap low (.str s) (.str s)
  | arr {ref : Ref} {object : JsObject} {items : List Value} (found : heap.objects.get? ref = some object)
      (kind : object.kind = .array) (link : object.proto = some ARRAY_PROTOTYPE) (new : low ≤ ref) :
      Decoded heap low (.ref ref) (.arr items)
  | obj {ref : Ref} {object : JsObject} {members : List (JsString × Value)}
      (found : heap.objects.get? ref = some object) (kind : object.kind = .plain)
      (link : object.proto = some OBJECT_PROTOTYPE) (new : low ≤ ref) (keys : object.own.keys = (ownOf members).keys)
      (data : ∀ key property, object.own.get? key = some property → ∃ value, property = .data value)
      (values : ∀ key value member, object.own.get? key = some (.data value) →
        (ownOf members).get? key = some member → Decoded heap low value member)
      (inner : ∀ key other, object.own.get? key = some (.data (.ref other)) → other < ref) :
      Decoded heap low (.ref ref) (.obj members)

theorem Decoded.grown {before after : Heap} {low lower : Ref} {value : JsValue} {json : Value}
    (decoded : Decoded before low value json) (grown : Grown before after) (le : lower ≤ low) :
    Decoded after lower value json := by
  induction decoded with
  | null => exact .null
  | bool b => exact .bool b
  | num n => exact .num n
  | str s => exact .str s
  | arr found kind link new => exact .arr (grown.kept _ _ found) kind link (Nat.le_trans le new)
  | obj found kind link new keys data _ inner ih =>
    exact .obj (grown.kept _ _ found) kind link (Nat.le_trans le new) keys data ih inner

theorem arrayOwn_data (values : List JsValue) (name : JsString) : (arrayOwn values).get? name ≠ some .proto := by
  have items : ∀ (list : List (JsValue × Nat)) (own : OrderedMap JsString Property),
      (∀ name, own.get? name ≠ some .proto) →
      ∀ name, (list.foldl (fun (own : OrderedMap JsString Property) item => own.set (decimal item.2) (.data item.1)) own).get? name ≠ some .proto := by
    intro list
    induction list with
    | nil => exact fun own plain => plain
    | cons item list ih =>
      intro own plain
      refine ih _ fun name => ?_
      rw [OrderedMap.get?_set]
      split
      · intro same
        cases same
      · exact plain name
  rw [arrayOwn, OrderedMap.get?_set]
  split
  · intro same
    cases same
  · refine items _ ∅ (fun name same => ?_) name
    rw [OrderedMap.get?_empty] at same
    cases same

/-- The properties of an object so far are the members so far. -/
structure Members (heap : Heap) (low : Ref) (own : OrderedMap JsString Property) (members : OrderedMap JsString Value) :
    Prop where
  keys : own.keys = members.keys
  data : ∀ key property, own.get? key = some property → ∃ value, property = .data value
  values : ∀ key value member, own.get? key = some (.data value) → members.get? key = some member →
    Decoded heap low value member
  inner : ∀ key other, own.get? key = some (.data (.ref other)) → other < heap.allocated

theorem keys_set {α β : Type} {first : OrderedMap JsString α} {second : OrderedMap JsString β}
    (same : first.keys = second.keys) (key : JsString) (a : α) (b : β) : (first.set key a).keys = (second.set key b).keys := by
  cases found : first.get? key with
  | none =>
    have absent : second.get? key = none := by
      rw [OrderedMap.get?_eq_none_iff] at found ⊢
      change key ∉ second.keys
      rw [← same]
      exact found
    rw [OrderedMap.keys, OrderedMap.keys, OrderedMap.entries_set_of_none found, OrderedMap.entries_set_of_none absent,
      List.map_append, List.map_append]
    exact congrArg (· ++ [key]) same
  | some a' =>
    cases other : second.get? key with
    | none =>
      rw [OrderedMap.get?_eq_none_iff] at other
      change key ∉ second.keys at other
      rw [← same] at other
      exact absurd (OrderedMap.get?_eq_none_iff.mpr other) (by rw [found]; rintro ⟨⟩)
    | some b' => rw [OrderedMap.keys_set_of_get? found, OrderedMap.keys_set_of_get? other, same]

theorem Members.set {before after : Heap} {low : Ref} {own : OrderedMap JsString Property}
    {members : OrderedMap JsString Value} (known : Members before low own members) (grown : Grown before after)
    {key : JsString} {value : JsValue} {json : Value} (decoded : Decoded after low value json)
    (below : ∀ ref, value = .ref ref → ref < after.allocated) :
    Members after low (own.set key (.data value)) (members.set key json) := by
  constructor
  · exact keys_set known.keys _ _ _
  · intro name property found
    rw [OrderedMap.get?_set] at found
    split at found
    · exact ⟨value, (Option.some.inj found).symm⟩
    · exact known.data name property found
  · intro name other member found present
    rw [OrderedMap.get?_set] at found present
    split at found
    · rename_i same
      rw [if_pos same] at present
      cases found
      cases present
      exact decoded
    · rename_i different
      rw [if_neg different] at present
      exact (known.values name other member found present).grown grown (Nat.le_refl _)
  · intro name other found
    rw [OrderedMap.get?_set] at found
    split at found
    · cases found
      exact below other rfl
    · exact Nat.lt_of_lt_of_le (known.inner name other found) grown.allocated

mutual

theorem Heap.decode_spec : ∀ (value : Value) (heap : Heap),
    (∀ ref object, heap.objects.get? ref = some object → ref < heap.allocated) →
    Grown heap (heap.decode value).1 ∧ Decoded (heap.decode value).1 heap.allocated (heap.decode value).2 value ∧
      ∀ ref, (heap.decode value).2 = .ref ref → ref < (heap.decode value).1.allocated
  | .null, heap, below => ⟨.refl below, .null, fun _ h => (nomatch h)⟩
  | .bool b, heap, below => ⟨.refl below, .bool b, fun _ h => (nomatch h)⟩
  | .num n, heap, below => ⟨.refl below, .num n, fun _ h => (nomatch h)⟩
  | .str s, heap, below => ⟨.refl below, .str s, fun _ h => (nomatch h)⟩
  | .arr items, heap, below => by
    have grown := Heap.decodeItems_spec items heap below
    rw [Heap.decode]
    dsimp only
    refine ⟨grown.trans (grown_create grown.below (arrayOwn_data (heap.decodeItems items).2)), ?_, ?_⟩
    · exact .arr (Heap.get?_create_self _ _) rfl rfl grown.allocated
    · rintro ref ⟨⟩
      exact Nat.lt_succ_self _
  | .obj members, heap, below => by
    have start : Members heap heap.allocated ∅ ∅ :=
      ⟨rfl, fun _ _ h => (nomatch h), fun _ _ _ h => (nomatch h), fun _ _ h => (nomatch h)⟩
    obtain ⟨grown, known⟩ := Heap.decodeMembers_spec members heap heap.allocated ∅ ∅ below start (Nat.le_refl _)
    rw [Heap.decode]
    dsimp only
    have plain : ∀ name, (heap.decodeMembers ∅ members).2.get? name ≠ some .proto := by
      intro name found
      obtain ⟨value, same⟩ := known.data name _ found
      cases same
    have created := @grown_create _ grown.below { own := (heap.decodeMembers ∅ members).2, proto := some OBJECT_PROTOTYPE } plain
    refine ⟨grown.trans created, ?_, ?_⟩
    · refine .obj (Heap.get?_create_self _ _) rfl rfl grown.allocated known.keys known.data ?_ known.inner
      intro key value member found present
      exact (known.values key value member found present).grown created (Nat.le_refl _)
    · rintro ref ⟨⟩
      exact Nat.lt_succ_self _

theorem Heap.decodeItems_spec : ∀ (items : List Value) (heap : Heap),
    (∀ ref object, heap.objects.get? ref = some object → ref < heap.allocated) → Grown heap (heap.decodeItems items).1
  | [], _, below => .refl below
  | value :: items, heap, below => by
    have first := (Heap.decode_spec value heap below).1
    exact first.trans (Heap.decodeItems_spec items _ first.below)

theorem Heap.decodeMembers_spec : ∀ (members : List (JsString × Value)) (heap : Heap) (low : Ref)
    (own : OrderedMap JsString Property) (defined : OrderedMap JsString Value),
    (∀ ref object, heap.objects.get? ref = some object → ref < heap.allocated) → Members heap low own defined →
    low ≤ heap.allocated →
    Grown heap (heap.decodeMembers own members).1 ∧
      Members (heap.decodeMembers own members).1 low (heap.decodeMembers own members).2
        (members.foldl (fun (own : OrderedMap JsString Value) member => own.set member.1 member.2) defined)
  | [], _, _, _, _, below, known, _ => ⟨.refl below, known⟩
  | (key, value) :: members, heap, low, own, defined, below, known, le => by
    obtain ⟨first, decoded, bounded⟩ := Heap.decode_spec value heap below
    obtain ⟨rest, all⟩ := Heap.decodeMembers_spec members (heap.decode value).1 low
      (own.set key (.data (heap.decode value).2)) (defined.set key value) first.below
      (known.set first (decoded.grown (.refl first.below) le) bounded) (Nat.le_trans le first.allocated)
    exact ⟨first.trans rest, all⟩

end

theorem ownOf_append (defined : OrderedMap JsString Value) (members : List (JsString × Value))
    (distinct : ((defined.entries ++ members).map Prod.fst).Nodup) :
    (members.foldl (fun (own : OrderedMap JsString Value) member => own.set member.1 member.2) defined).entries =
      defined.entries ++ members := by
  induction members generalizing defined with
  | nil => exact (List.append_nil _).symm
  | cons member members ih =>
    have absent : defined.get? member.1 = none := by
      rw [OrderedMap.get?_eq_none_iff]
      rw [List.map_append, List.map_cons, List.nodup_append] at distinct
      intro mem
      exact distinct.2.2 member.1 mem member.1 List.mem_cons_self rfl
    have entries := OrderedMap.entries_set_of_none absent member.2
    rw [List.foldl_cons, ih, entries, List.append_assoc]
    · rfl
    · rw [entries, List.append_assoc]
      exact distinct

theorem ownOf_entries (members : OrderedMap JsString Value) : ownOf members.entries = members := by
  refine OrderedMap.ext ?_
  rw [ownOf, ownOf_append]
  · rfl
  · exact members.nodup

theorem get_decoded {heap cloned : Heap} {low ref : Ref} {object : JsObject} {members : OrderedMap JsString Value}
    (found : heap.objects.get? ref = some object) (keys : object.own.keys = members.keys)
    (data : ∀ key property, object.own.get? key = some property → ∃ value, property = .data value)
    (values : ∀ key value member, object.own.get? key = some (.data value) → members.get? key = some member →
      Decoded cloned low value member) {key : JsString} {member : Value} (present : members.get? key = some member) :
    ∃ value, object.own.get? key = some (.data value) ∧ heap.get ref key = value ∧ Decoded cloned low value member := by
  cases own : object.own.get? key with
  | none =>
    rw [OrderedMap.get?_eq_none_iff] at own
    change key ∉ object.own.keys at own
    rw [keys] at own
    exact absurd (OrderedMap.get?_eq_none_iff.mpr own) (by rw [present]; rintro ⟨⟩)
  | some property =>
    obtain ⟨value, rfl⟩ := data key property own
    refine ⟨value, rfl, ?_, values key value member own present⟩
    rw [Heap.get, Heap.find_own found own]

end js_object

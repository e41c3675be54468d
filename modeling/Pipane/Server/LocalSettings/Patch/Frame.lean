import Pipane.Server.LocalSettings.Patch

open javascript json js_object

namespace pipane.local_settings

/-! The settings as an object: a version, and sections without a member `__proto__`. -/

theorem lookup_members {settings : LocalSettings} {key : JsString} {value : Value}
    (found : (ownOf settings.members).get? key = some value) :
    key = VERSION ∧ value = natural 1 ∨ key ≠ PROTO ∧ ∃ own, value = .obj own ∧ (ownOf own).get? PROTO = none := by
  rw [ownOf_entries ⟨settings.members, (canonical_toJson settings).1⟩] at found
  have mem : (key, value) ∈ settings.members := OrderedMap.mem_entries_iff.mpr found
  rw [LocalSettings.members] at mem
  rcases List.mem_append.mp mem with mem | mem
  · rcases List.mem_append.mp mem with mem | mem
    · rcases List.mem_cons.mp mem with same | mem
      · cases same
        exact .inl ⟨rfl, rfl⟩
      · refine .inr ?_
        rcases List.mem_cons.mp mem with same | mem
        · cases same
          exact ⟨by decide, _, rfl, rfl⟩
        · rcases List.mem_cons.mp mem with same | mem
          · cases same
            exact ⟨by decide, _, rfl, rfl⟩
          · cases List.mem_singleton.mp mem
            exact ⟨by decide, _, rfl, rfl⟩
    · obtain ⟨keepOpen, -, same⟩ := Option.map_eq_some_iff.mp (Option.mem_toList.mp mem)
      cases same
      exact .inr ⟨by decide, _, rfl, rfl⟩
  · obtain ⟨messages, -, same⟩ := Option.map_eq_some_iff.mp (Option.mem_toList.mp mem)
    cases same
    exact .inr ⟨by decide, _, rfl, rfl⟩

/-- The objects when the merge begins: the patch, and a clone of the settings newer than it. -/
structure Scene (realm : Realm) (settings : LocalSettings) (members : OrderedMap JsString Value)
    (parsed cloned : Heap) (patch merged : Ref) (source clone : JsObject) : Prop where
  early : Grown realm.heap parsed
  late : Grown parsed cloned
  patch_found : cloned.objects.get? patch = some source
  patch_older : patch < parsed.allocated
  patch_keys : source.own.keys = members.keys
  patch_data : ∀ key property, source.own.get? key = some property → ∃ value, property = .data value
  patch_values : ∀ key value member, source.own.get? key = some (.data value) → members.get? key = some member →
    Decoded cloned realm.heap.allocated value member
  patch_inner : ∀ key other, source.own.get? key = some (.data (.ref other)) → other < patch
  clone_found : cloned.objects.get? merged = some clone
  clone_new : parsed.allocated ≤ merged
  clone_kind : clone.kind = .plain
  clone_link : clone.proto = some OBJECT_PROTOTYPE
  clone_keys : clone.own.keys = (ownOf settings.members).keys
  clone_data : ∀ key property, clone.own.get? key = some property → ∃ value, property = .data value
  clone_values : ∀ key value member, clone.own.get? key = some (.data value) →
    (ownOf settings.members).get? key = some member → Decoded cloned parsed.allocated value member
  clone_inner : ∀ key other, clone.own.get? key = some (.data (.ref other)) → other < merged

theorem exists_scene (realm : Realm) (settings : LocalSettings) (members : OrderedMap JsString Value) :
    ∃ source clone, Scene realm settings members (realm.heap.decodeObject members.entries).1
      ((realm.heap.decodeObject members.entries).1.decodeObject settings.members).1
      (realm.heap.decodeObject members.entries).2
      ((realm.heap.decodeObject members.entries).1.decodeObject settings.members).2 source clone := by
  obtain ⟨early, patch, older⟩ := Heap.decode_spec (.obj members.entries) realm.heap realm.below
  rw [Heap.decode_obj] at early patch older
  obtain ⟨late, clone, -⟩ := Heap.decode_spec (.obj settings.members) (realm.heap.decodeObject members.entries).1 early.below
  rw [Heap.decode_obj] at late clone
  cases patch with
  | obj found kind link new keys data values inner =>
    cases clone with
    | obj found' kind' link' new' keys' data' values' inner' =>
      refine ⟨_, _, early, late, late.kept _ _ found, older _ rfl, ?_, data, ?_, inner, found', new', kind', link', keys',
        data', values', inner'⟩
      · rw [keys, ownOf_entries]
      · intro key value member own present
        rw [← ownOf_entries members] at present
        exact (values key value member own present).grown late (Nat.le_refl _)

section

variable {realm : Realm} {settings : LocalSettings} {members : OrderedMap JsString Value} {parsed cloned : Heap}
  {patch merged : Ref} {source clone : JsObject}

/-- A property of the clone is the version or a section. -/
theorem Scene.clone_cases (scene : Scene realm settings members parsed cloned patch merged source clone) (key : JsString) :
    (clone.own.get? key = none ∧ (ownOf settings.members).get? key = none) ∨
      (key = VERSION ∧ clone.own.get? key = some (.data (.num (.int 1)))) ∨
      key ≠ PROTO ∧ ∃ ref object own, clone.own.get? key = some (.data (.ref ref)) ∧
        (ownOf settings.members).get? key = some (.obj own) ∧ cloned.objects.get? ref = some object ∧ object.kind = .plain ∧
        object.proto = some OBJECT_PROTOTYPE ∧ object.own.get? PROTO = none ∧ parsed.allocated ≤ ref ∧ ref < merged := by
  cases found : clone.own.get? key with
  | none =>
    refine .inl ⟨rfl, ?_⟩
    rw [OrderedMap.get?_eq_none_iff]
    change key ∉ (ownOf settings.members).keys
    rw [← scene.clone_keys]
    exact OrderedMap.get?_eq_none_iff.mp found
  | some property =>
    refine .inr ?_
    obtain ⟨value, rfl⟩ := scene.clone_data key property found
    cases present : (ownOf settings.members).get? key with
    | none =>
      rw [OrderedMap.get?_eq_none_iff] at present
      change key ∉ (ownOf settings.members).keys at present
      rw [← scene.clone_keys] at present
      exact absurd (OrderedMap.get?_eq_none_iff.mpr present) (by rw [found]; rintro ⟨⟩)
    | some member =>
      have decoded := scene.clone_values key value member found present
      rcases lookup_members present with ⟨version, rfl⟩ | ⟨ne, own, rfl, absent⟩
      · cases decoded with
        | num n => exact .inl ⟨version, rfl⟩
      · cases decoded with
        | obj held kind link new keys data values inner =>
          refine .inr ⟨ne, _, _, own, rfl, rfl, held, kind, link, ?_, new, scene.clone_inner key _ found⟩
          rw [OrderedMap.get?_eq_none_iff] at absent ⊢
          change PROTO ∉ (ownOf own).keys at absent
          rw [← keys] at absent
          exact absent

/-- The merged object and its sections. -/
def InClone (merged : Ref) (clone : JsObject) (ref : Ref) : Prop :=
  ref = merged ∨ ∃ key, clone.own.get? key = some (.data (.ref ref))

def Allowed (parsed cloned : Heap) (write : Write) : Prop :=
  ∃ ref key, write = .own ref key ∧ parsed.allocated ≤ ref ∧ ref < cloned.allocated

/-- What the merge keeps as long as `__proto__` has no effect; `done` are the keys that it has gone over. -/
structure Merging (realm : Realm) (members : OrderedMap JsString Value) (parsed cloned : Heap) (merged : Ref)
    (clone : JsObject) (done : List JsString) (heap : Heap) : Prop where
  allocated : heap.allocated = cloned.allocated
  accessor : ∀ ref object name, heap.objects.get? ref = some object → object.own.get? name = some .proto → name = PROTO
  others : ∀ ref, ref ≠ merged → (∀ key ∈ members.keys, clone.own.get? key ≠ some (.data (.ref ref))) →
    heap.objects.get? ref = cloned.objects.get? ref
  ordinary : ∀ ref, InClone merged clone ref → ∃ object, heap.objects.get? ref = some object ∧ object.kind = .plain ∧
    object.proto = some OBJECT_PROTOTYPE ∧ object.own.get? PROTO = none
  unnamed : ∃ now, heap.objects.get? merged = some now ∧ ∀ key, key ∉ done → now.own.get? key = clone.own.get? key
  writes : ∃ writes, heap.writes = parsed.writes ++ writes ∧ ∀ write ∈ writes, Allowed parsed cloned write

theorem Scene.accessor (scene : Scene realm settings members parsed cloned patch merged source clone) :
    ∀ ref object name, cloned.objects.get? ref = some object → object.own.get? name = some .proto → name = PROTO := by
  intro ref object name found accessor
  rcases scene.late.added ref object found with found | ⟨-, plain⟩
  · rcases scene.early.added ref object found with found | ⟨-, plain⟩
    · exact realm.noOther ref object name found accessor
    · exact absurd accessor (plain name)
  · exact absurd accessor (plain name)

theorem Scene.begin (scene : Scene realm settings members parsed cloned patch merged source clone) :
    Merging realm members parsed cloned merged clone [] cloned := by
  refine ⟨rfl, scene.accessor, fun _ _ _ => rfl, ?_, ⟨clone, scene.clone_found, fun _ _ => rfl⟩, [], ?_, ?_⟩
  · rintro ref (rfl | ⟨key, own⟩)
    · refine ⟨clone, scene.clone_found, scene.clone_kind, scene.clone_link, ?_⟩
      rcases scene.clone_cases PROTO with ⟨absent, -⟩ | ⟨version, -⟩ | ⟨ne, -⟩
      · exact absent
      · exact absurd version (by decide)
      · exact absurd rfl ne
    · rcases scene.clone_cases key with
        ⟨absent, -⟩ | ⟨-, version⟩ | ⟨-, other, object, -, own', -, found, kind, link, absent, -⟩
      · cases absent.symm.trans own
      · cases version.symm.trans own
      · cases own.symm.trans own'
        exact ⟨object, found, kind, link, absent⟩
  · rw [scene.late.writes]
    exact (List.append_nil _).symm
  · intro write mem
    cases mem

/-! What one key does. -/

variable {done : List JsString} {heap : Heap}

theorem Scene.inClone_new (scene : Scene realm settings members parsed cloned patch merged source clone) {ref : Ref}
    (inClone : InClone merged clone ref) : parsed.allocated ≤ ref ∧ ref < cloned.allocated := by
  have below := scene.late.below _ _ scene.clone_found
  rcases inClone with rfl | ⟨key, own⟩
  · exact ⟨scene.clone_new, below⟩
  · rcases scene.clone_cases key with
      ⟨absent, -⟩ | ⟨-, version⟩ | ⟨-, other, object, -, own', -, -, -, -, -, new, older⟩
    · cases absent.symm.trans own
    · cases version.symm.trans own
    · cases own.symm.trans own'
      exact ⟨new, Nat.lt_trans older below⟩

theorem Merging.older (merging : Merging realm members parsed cloned merged clone done heap)
    (scene : Scene realm settings members parsed cloned patch merged source clone) {ref : Ref} (older : ref < parsed.allocated) : heap.objects.get? ref = cloned.objects.get? ref := by
  have outside : ¬ InClone merged clone ref := by
    intro inClone
    exact absurd (scene.inClone_new inClone).1 (Nat.not_le_of_lt older)
  exact merging.others ref (fun same => outside (.inl same)) fun key _ own => outside (.inr ⟨key, own⟩)

theorem Merging.prototype (merging : Merging realm members parsed cloned merged clone done heap)
    (scene : Scene realm settings members parsed cloned patch merged source clone) :
    heap.objects.get? OBJECT_PROTOTYPE = some realm.prototype := by
  have early := scene.early.kept _ _ realm.isPrototype
  rw [merging.older scene (scene.early.below _ _ early)]
  exact scene.late.kept _ _ early

/-- A write to an own property of the clone under another name than `__proto__`. -/
theorem Merging.setOwn (merging : Merging realm members parsed cloned merged clone done heap)
    (scene : Scene realm settings members parsed cloned patch merged source clone) {ref : Ref} {key : JsString}
    {gone : List JsString} (target : ref = merged ∨ ∃ name ∈ members.keys, clone.own.get? name = some (.data (.ref ref)))
    (ne : key ≠ PROTO) (sub : done ⊆ gone) (named : ref = merged → key ∈ gone) (value : JsValue) :
    Merging realm members parsed cloned merged clone gone (heap.setOwn ref key value) := by
  have inClone : InClone merged clone ref := by
    rcases target with rfl | ⟨name, -, own⟩
    · exact .inl rfl
    · exact .inr ⟨name, own⟩
  obtain ⟨object, found, -⟩ := merging.ordinary ref inClone
  constructor
  · exact (Heap.allocated_setOwn heap ref key value).trans merging.allocated
  · intro other now name held accessor
    obtain ⟨earlier, before, -, -, same⟩ := Heap.of_get?_setOwn held
    rcases same name with same | ⟨-, data⟩
    · exact merging.accessor other earlier name before (same ▸ accessor)
    · cases data ▸ accessor
  · intro other different outside
    have apart : other ≠ ref := by
      rintro rfl
      rcases target with same | ⟨name, mem, own⟩
      · exact different same
      · exact outside name mem own
    exact (Heap.get?_setOwn_ne apart value).trans (merging.others other different outside)
  · intro other inClone
    obtain ⟨earlier, held, kind, link, absent⟩ := merging.ordinary other inClone
    by_cases same : other = ref
    · subst same
      exact ⟨_, Heap.get?_setOwn_self held value, kind, link, (OrderedMap.get?_set_ne ne.symm _).trans absent⟩
    · exact ⟨earlier, (Heap.get?_setOwn_ne same value).trans held, kind, link, absent⟩
  · obtain ⟨now, held, kept⟩ := merging.unnamed
    by_cases same : merged = ref
    · subst same
      refine ⟨_, Heap.get?_setOwn_self held value, fun name outside => ?_⟩
      have other : name ≠ key := fun h => outside (h ▸ named rfl)
      exact (OrderedMap.get?_set_ne other _).trans (kept name fun mem => outside (sub mem))
    · exact ⟨now, (Heap.get?_setOwn_ne same value).trans held, fun name outside => kept name fun mem => outside (sub mem)⟩
  · obtain ⟨writes, log, allowed⟩ := merging.writes
    refine ⟨writes ++ [.own ref key], ?_, ?_⟩
    · rw [Heap.setOwn_of_get? found]
      dsimp only
      rw [log, List.append_assoc]
    · intro write mem
      rcases List.mem_append.mp mem with mem | mem
      · exact allowed write mem
      · rw [List.mem_singleton.mp mem]
        exact ⟨ref, key, rfl, scene.inClone_new inClone⟩

theorem Merging.get_patch (merging : Merging realm members parsed cloned merged clone done heap)
    (scene : Scene realm settings members parsed cloned patch merged source clone) {key : JsString} {member : Value}
    (present : members.get? key = some member) :
    ∃ value, heap.get patch key = value ∧ Decoded cloned realm.heap.allocated value member ∧
      ∀ ref, value = .ref ref → ref < parsed.allocated ∧ heap.objects.get? ref = cloned.objects.get? ref := by
  have held : heap.objects.get? patch = some source := (merging.older scene scene.patch_older).trans scene.patch_found
  obtain ⟨value, own, shown, decoded⟩ := get_decoded held scene.patch_keys scene.patch_data scene.patch_values present
  refine ⟨value, shown, decoded, ?_⟩
  rintro ref rfl
  have older := Nat.lt_trans (scene.patch_inner key ref own) scene.patch_older
  exact ⟨older, merging.older scene older⟩

theorem Merging.find (merging : Merging realm members parsed cloned merged clone done heap)
    (scene : Scene realm settings members parsed cloned patch merged source clone) {ref : Ref} {object : JsObject}
    {key : JsString} (found : heap.objects.get? ref = some object) (link : object.proto = some OBJECT_PROTOTYPE)
    (absent : object.own.get? key = none) : heap.find ref key = realm.prototype.own.get? key := by
  have early := scene.early.kept _ _ realm.isPrototype
  have below := scene.late.below _ _ (scene.late.kept _ _ early)
  rw [← merging.allocated] at below
  exact Heap.find_inherited found absent link below (merging.prototype scene) realm.isRoot

/-- What the merged object shows under a key that the merge has not gone over: `Object.prototype`, a section of the
    clone, or nothing that a patch is assigned to. -/
theorem Merging.get_merged (merging : Merging realm members parsed cloned merged clone done heap)
    (scene : Scene realm settings members parsed cloned patch merged source clone) {key : JsString}
    (version : key ≠ VERSION) (fresh : key ∉ done) :
    (key = PROTO ∧ heap.get merged key = .ref OBJECT_PROTOTYPE) ∨
      (key ≠ PROTO ∧ ∃ ref object own, clone.own.get? key = some (.data (.ref ref)) ∧
        (ownOf settings.members).get? key = some (.obj own) ∧ heap.get merged key = .ref ref ∧
        heap.objects.get? ref = some object ∧ object.kind = .plain) ∨
      (key ≠ PROTO ∧ (ownOf settings.members).get? key = none ∧ typeofObject heap (heap.get merged key) = false) := by
  obtain ⟨now, held, kept⟩ := merging.unnamed
  obtain ⟨now', held', -, link, plain⟩ := merging.ordinary merged (.inl rfl)
  cases held.symm.trans held'
  rcases scene.clone_cases key with ⟨absent, other⟩ | ⟨same, -⟩ | ⟨ne, ref, -, own, shown, present, -⟩
  · have found := merging.find scene held link ((kept key fresh).trans absent)
    by_cases inherited : key ∈ INHERITED_NAMES
    · rcases List.mem_cons.mp inherited with rfl | function
      · refine .inl ⟨rfl, ?_⟩
        rw [Heap.get, found, realm.accessor]
        dsimp only
        rw [held, Option.bind_some, link]
      · obtain ⟨ref, object, named, exists_, kind⟩ := realm.functions key function
        have early := scene.early.kept _ _ exists_
        have here : heap.objects.get? ref = some object :=
          (merging.older scene (scene.early.below _ _ early)).trans (scene.late.kept _ _ early)
        have ne : key ≠ PROTO := by
          rintro rfl
          revert function
          decide
        refine .inr (.inr ⟨ne, other, ?_⟩)
        rw [Heap.get, found, named]
        dsimp only
        rw [typeofObject, here]
        dsimp only
        rw [kind]
        rfl
    · refine .inr (.inr ⟨fun same => inherited (same ▸ proto_inherited), other, ?_⟩)
      rw [Heap.get, found, realm.nothingElse key inherited]
      rfl
  · exact absurd same version
  · obtain ⟨object, here, kind, -⟩ := merging.ordinary ref (.inr ⟨key, shown⟩)
    refine .inr (.inl ⟨ne, ref, object, own, shown, present, ?_, here, kind⟩)
    rw [Heap.get, Heap.find_own held ((kept key fresh).trans shown)]

theorem Merging.set_proto (merging : Merging realm members parsed cloned merged clone done heap)
    (scene : Scene realm settings members parsed cloned patch merged source clone) {ref : Ref}
    (inClone : InClone merged clone ref) (value : JsValue) : heap.set ref PROTO value = heap.setProto ref value := by
  obtain ⟨object, found, -, link, absent⟩ := merging.ordinary ref inClone
  rw [Heap.set, merging.find scene found link absent, realm.accessor]

theorem setProto_primitive {low : Ref} {value : JsValue} {member : Value} (decoded : Decoded cloned low value member)
    (isPrimitive : IsPrimitive member) (heap : Heap) (ref : Ref) : heap.setProto ref value = some heap := by
  cases decoded with
  | null => exact isPrimitive.elim
  | arr => exact isPrimitive.elim
  | obj => exact isPrimitive.elim
  | _ => rfl

/-- Assigning members without an object under `__proto__` to a section writes own properties of the section. -/
theorem Merging.assignKeys (scene : Scene realm settings members parsed cloned patch merged source clone) {name : JsString}
    (mem : name ∈ members.keys) {target from_ : Ref} (own : clone.own.get? name = some (.data (.ref target)))
    (keys : List JsString) {heap : Heap} (merging : Merging realm members parsed cloned merged clone done heap)
    (primitive : ∀ heap, Merging realm members parsed cloned merged clone done heap → PROTO ∈ keys →
      heap.setProto target (heap.get from_ PROTO) = some heap) :
    (assignKeys heap target from_ keys).2 = true ∧
      Merging realm members parsed cloned merged clone done (assignKeys heap target from_ keys).1 := by
  induction keys generalizing heap with
  | nil => exact ⟨rfl, merging⟩
  | cons key keys ih =>
    have rest := fun heap merging mem => primitive heap merging (List.mem_cons_of_mem key mem)
    rw [pipane.local_settings.assignKeys]
    by_cases proto : key = PROTO
    · subst proto
      rw [merging.set_proto scene (.inr ⟨name, own⟩), primitive heap merging List.mem_cons_self]
      exact ih merging rest
    · rw [Heap.set_of_ne merging.accessor proto]
      have apart : target ≠ merged := Nat.ne_of_lt (scene.clone_inner name target own)
      exact ih (merging.setOwn scene (.inr ⟨name, mem, own⟩) proto (List.Subset.refl _) (fun same => absurd same apart) _) rest

/-! Members of `Object.prototype`. -/

theorem Merging.set_prototype (merging : Merging realm members parsed cloned merged clone done heap)
    (scene : Scene realm settings members parsed cloned patch merged source clone) {low : Ref} {value : JsValue}
    {member : Value} (decoded : Decoded cloned low value member) :
    heap.set OBJECT_PROTOTYPE PROTO value = if setsPrototype member then none else some heap := by
  have prototype := merging.prototype scene
  rw [Heap.set, Heap.find_own prototype realm.accessor]
  cases decoded with
  | null =>
    rw [Heap.setProto]
    dsimp only
    rw [prototype]
    dsimp only
    rw [if_pos realm.isRoot]
    rfl
  | arr =>
    rw [Heap.setProto]
    dsimp only
    rw [prototype]
    dsimp only
    rw [if_neg (by rw [realm.isRoot]; rintro ⟨⟩), if_pos (.inl rfl)]
    rfl
  | obj =>
    rw [Heap.setProto]
    dsimp only
    rw [prototype]
    dsimp only
    rw [if_neg (by rw [realm.isRoot]; rintro ⟨⟩), if_pos (.inl rfl)]
    rfl
  | _ => rfl

theorem Merging.assign_quiet (merging : Merging realm members parsed cloned merged clone done heap)
    (scene : Scene realm settings members parsed cloned patch merged source clone) {from_ low : Ref}
    (entries : List (JsString × Value))
    (values : ∀ entry ∈ entries, ∃ value, heap.get from_ entry.1 = value ∧ Decoded cloned low value entry.2)
    (quiet : ∀ entry ∈ entries.takeWhile (fun entry => !throwsAt entry), entry.1 = PROTO) :
    pipane.local_settings.assignKeys heap OBJECT_PROTOTYPE from_ (entries.map Prod.fst) =
      (heap, !entries.any throwsAt) := by
  induction entries with
  | nil => rfl
  | cons entry entries ih =>
    obtain ⟨value, shown, decoded⟩ := values entry List.mem_cons_self
    rw [List.map_cons, pipane.local_settings.assignKeys, shown, List.any_cons]
    cases throws : throwsAt entry with
    | true =>
      obtain ⟨name, sets⟩ := Bool.and_eq_true .. ▸ throws
      rw [of_decide_eq_true name, merging.set_prototype scene decoded, if_pos sets]
      rfl
    | false =>
      have wait : (!throwsAt entry) = true := by rw [throws]; rfl
      rw [List.takeWhile_cons_of_pos (p := fun entry => !throwsAt entry) wait] at quiet
      have name := quiet entry List.mem_cons_self
      have sets : setsPrototype entry.2 = false := by
        rw [throwsAt, name, decide_eq_true rfl, Bool.true_and] at throws
        exact throws
      rw [name, merging.set_prototype scene decoded, sets, if_neg (by decide)]
      dsimp only
      rw [ih (fun entry mem => values entry (List.mem_cons_of_mem _ mem)) fun entry mem =>
        quiet entry (List.mem_cons_of_mem _ mem)]
      rfl

/-! One key, where nothing has an effect on a prototype. -/

theorem Merging.mono (merging : Merging realm members parsed cloned merged clone done heap) {gone : List JsString}
    (sub : done ⊆ gone) : Merging realm members parsed cloned merged clone gone heap := by
  obtain ⟨now, held, kept⟩ := merging.unnamed
  exact ⟨merging.allocated, merging.accessor, merging.others, merging.ordinary,
    ⟨now, held, fun key outside => kept key fun mem => outside (sub mem)⟩, merging.writes⟩

theorem typeofObject_decoded {low : Ref} {value : JsValue} {member : Value} (decoded : Decoded cloned low value member)
    (same : ∀ ref, value = .ref ref → heap.objects.get? ref = cloned.objects.get? ref) :
    (typeofObject heap value && !isArray heap value) = true ↔ member = .null ∨ ∃ source, member = .obj source := by
  cases decoded with
  | null => exact iff_of_true rfl (.inl rfl)
  | arr found kind =>
    refine iff_of_false ?_ ?_
    · rw [typeofObject, isArray, same _ rfl, found]
      dsimp only
      rw [kind]
      decide
    · rintro (h | ⟨source, h⟩)
      · cases h
      · cases h
  | obj found kind =>
    refine iff_of_true ?_ (.inr ⟨_, rfl⟩)
    rw [typeofObject, isArray, same _ rfl, found]
    dsimp only
    rw [kind]
    decide
  | _ =>
    refine iff_of_false Bool.false_ne_true ?_
    rintro (h | ⟨source, h⟩)
    · cases h
    · cases h

theorem patchKey_of_base {key : JsString} {base value : JsValue} (version : key ≠ VERSION)
    (shown : heap.get merged key = base) (given : heap.get patch key = value) :
    patchKey heap merged patch key =
      if base.isTruthy && typeofObject heap base && (typeofObject heap value && !isArray heap value) then
        objectAssign heap base value
      else
        match heap.set merged key value with
        | none => (heap, false)
        | some heap => (heap, true) := by
  rw [patchKey, if_neg version, shown, given]
  exact if_congr (by rw [Bool.and_assoc]) rfl rfl

theorem abortsAt_of_ne {key : JsString} (ne : key ≠ PROTO) (member : Value) : abortsAt key member = false := by
  cases member with
  | obj source => rw [abortsAt, decide_eq_false ne, Bool.false_and]
  | _ => rfl

theorem source_values {low ref : Ref} {object : JsObject} {own : List (JsString × Value)}
    (found : heap.objects.get? ref = some object) (keys : object.own.keys = (ownOf own).keys)
    (data : ∀ key property, object.own.get? key = some property → ∃ value, property = .data value)
    (values : ∀ key value member, object.own.get? key = some (.data value) → (ownOf own).get? key = some member →
      Decoded cloned low value member) :
    ∀ entry ∈ (ownOf own).entries, ∃ value, heap.get ref entry.1 = value ∧ Decoded cloned low value entry.2 := by
  intro entry mem
  obtain ⟨value, -, shown, decoded⟩ := get_decoded found keys data values (OrderedMap.mem_entries_iff.mp mem)
  exact ⟨value, shown, decoded⟩

theorem Merging.patchKey_harmless (merging : Merging realm members parsed cloned merged clone done heap)
    (scene : Scene realm settings members parsed cloned patch merged source clone) {key : JsString} {member : Value}
    (present : members.get? key = some member) (fresh : key ∉ done) (harmless : Harmless settings key member) :
    (patchKey heap merged patch key).2 = !abortsAt key member ∧
      Merging realm members parsed cloned merged clone (key :: done) (patchKey heap merged patch key).1 := by
  have later := merging.mono (List.subset_cons_self key done)
  have mem : key ∈ members.keys := List.mem_map_of_mem (OrderedMap.mem_entries_iff.mpr present)
  by_cases version : key = VERSION
  · rw [patchKey, if_pos version, abortsAt_of_ne (by rw [version]; decide)]
    exact ⟨rfl, later⟩
  obtain ⟨value, given, decoded, older⟩ := merging.get_patch scene present
  have shape := typeofObject_decoded decoded fun ref same => (older ref same).2
  have write : key ≠ PROTO → ∀ after, heap.set merged key value = some after →
      Merging realm members parsed cloned merged clone (key :: done) after := by
    intro ne after set
    rw [Heap.set_of_ne merging.accessor ne] at set
    cases set
    exact merging.setOwn scene (.inl rfl) ne (List.subset_cons_self key done) (fun _ => List.mem_cons_self) value
  rcases merging.get_merged scene version fresh with
    ⟨rfl, shown⟩ | ⟨ne, ref, object, own, section_, own_member, shown, here, kind⟩ | ⟨ne, -, other⟩
  · rw [patchKey_of_base version shown given]
    have truthy : (JsValue.isTruthy (.ref OBJECT_PROTOTYPE) && typeofObject heap (.ref OBJECT_PROTOTYPE)) = true := by
      rw [JsValue.isTruthy, typeofObject, merging.prototype scene]
      dsimp only
      rw [realm.isPlain]
      rfl
    rw [truthy, Bool.true_and]
    cases decoded with
    | null => exact ⟨rfl, later⟩
    | arr => exact absurd rfl harmless
    | @obj ref object inner found kind link new keys data values inner_ =>
      have here := (older _ rfl).2.trans found
      rw [if_pos (shape.mpr (.inr ⟨_, rfl⟩)), objectAssign, ownKeys, here]
      dsimp only
      rw [keys]
      have quiet := harmless.1 rfl
      rw [OrderedMap.keys, merging.assign_quiet scene _ (source_values here keys data values) quiet]
      refine ⟨?_, later⟩
      rw [abortsAt, decide_eq_true rfl, Bool.true_and]
    | bool b =>
      have other : ¬ (typeofObject heap (.bool b) && !isArray heap (.bool b)) = true := Bool.false_ne_true
      rw [if_neg other, merging.set_proto scene (.inl rfl), @setProto_primitive cloned 0 _ _ (.bool b) trivial]
      exact ⟨rfl, later⟩
    | num n =>
      have other : ¬ (typeofObject heap (.num n) && !isArray heap (.num n)) = true := Bool.false_ne_true
      rw [if_neg other, merging.set_proto scene (.inl rfl), @setProto_primitive cloned 0 _ _ (.num n) trivial]
      exact ⟨rfl, later⟩
    | str s =>
      have other : ¬ (typeofObject heap (.str s) && !isArray heap (.str s)) = true := Bool.false_ne_true
      rw [if_neg other, merging.set_proto scene (.inl rfl), @setProto_primitive cloned 0 _ _ (.str s) trivial]
      exact ⟨rfl, later⟩
  · rw [patchKey_of_base version shown given, abortsAt_of_ne ne]
    have truthy : (JsValue.isTruthy (.ref ref) && typeofObject heap (.ref ref)) = true := by
      rw [JsValue.isTruthy, typeofObject, here]
      dsimp only
      rw [kind]
      rfl
    rw [truthy, Bool.true_and]
    by_cases assigned : (typeofObject heap value && !isArray heap value) = true
    · rw [if_pos assigned]
      rcases shape.mp assigned with rfl | ⟨members', rfl⟩
      · cases decoded
        exact ⟨rfl, later⟩
      · cases decoded with
        | @obj from_ object' _ found kind' link new keys data values inner_ =>
          have here' := (older _ rfl).2.trans found
          rw [objectAssign, ownKeys, here']
          dsimp only
          have older' := (older _ rfl).1
          refine Merging.assignKeys scene mem section_ object'.own.keys later fun heap merging' proto => ?_
          have now := (merging'.older scene older').trans found
          cases absent : (ownOf members').get? PROTO with
          | none =>
            rw [OrderedMap.get?_eq_none_iff] at absent
            rw [keys] at proto
            exact absurd proto absent
          | some inner =>
            obtain ⟨value', -, given', decoded'⟩ := get_decoded now keys data values absent
            rw [given']
            exact setProto_primitive decoded' (harmless.2 own own_member inner absent) heap ref
    · rw [if_neg assigned, Heap.set_of_ne merging.accessor ne]
      exact ⟨rfl, write ne _ (Heap.set_of_ne merging.accessor ne merged value)⟩
  · rw [patchKey_of_base version rfl given, other, Bool.and_false, Bool.false_and, abortsAt_of_ne ne,
      if_neg (by decide), Heap.set_of_ne merging.accessor ne]
    exact ⟨rfl, write ne _ (Heap.set_of_ne merging.accessor ne merged value)⟩

/-! One key, where something has. -/

theorem assignKeys_writes (keys : List JsString) (heap : Heap) (target from_ : Ref) :
    ∃ writes, (assignKeys heap target from_ keys).1.writes = heap.writes ++ writes := by
  induction keys generalizing heap with
  | nil => exact ⟨[], (List.append_nil _).symm⟩
  | cons key keys ih =>
    rw [assignKeys]
    cases set : heap.set target key (heap.get from_ key) with
    | none => exact ⟨[], (List.append_nil _).symm⟩
    | some after =>
      obtain ⟨early, earlier⟩ := Heap.set_writes set
      obtain ⟨late, later⟩ := ih after
      exact ⟨early ++ late, by rw [later, earlier, List.append_assoc]⟩

theorem objectAssign_writes (heap : Heap) (target from_ : JsValue) :
    ∃ writes, (objectAssign heap target from_).1.writes = heap.writes ++ writes := by
  rw [objectAssign.eq_def]
  split
  · exact assignKeys_writes _ _ _ _
  · exact ⟨[], (List.append_nil _).symm⟩

theorem patchKey_writes (heap : Heap) (merged patch : Ref) (key : JsString) :
    ∃ writes, (patchKey heap merged patch key).1.writes = heap.writes ++ writes := by
  rw [patchKey]
  split
  · exact ⟨[], (List.append_nil _).symm⟩
  · dsimp only
    split
    · exact objectAssign_writes _ _ _
    · cases set : heap.set merged key (heap.get patch key) with
      | none => exact ⟨[], (List.append_nil _).symm⟩
      | some after => exact Heap.set_writes set

theorem patchKeys_writes (keys : List JsString) (heap : Heap) (merged patch : Ref) :
    ∃ writes, (patchKeys heap merged patch keys).1.writes = heap.writes ++ writes := by
  induction keys generalizing heap with
  | nil => exact ⟨[], (List.append_nil _).symm⟩
  | cons key keys ih =>
    obtain ⟨early, earlier⟩ := patchKey_writes heap merged patch key
    rw [patchKeys]
    dsimp only
    split
    · obtain ⟨late, later⟩ := ih (patchKey heap merged patch key).1
      exact ⟨early ++ late, by rw [later, earlier, List.append_assoc]⟩
    · exact ⟨early, earlier⟩

/-- A write has been made that is not one to an own property of the clone. -/
def Blemished (parsed cloned heap : Heap) : Prop :=
  ∃ writes, heap.writes = parsed.writes ++ writes ∧ ∃ write ∈ writes, ¬ Allowed parsed cloned write

theorem Blemished.later {after : Heap} (blemished : Blemished parsed cloned heap)
    (longer : ∃ writes, after.writes = heap.writes ++ writes) : Blemished parsed cloned after := by
  obtain ⟨writes, log, write, mem, bad⟩ := blemished
  obtain ⟨more, log'⟩ := longer
  exact ⟨writes ++ more, by rw [log', log, List.append_assoc], write, List.mem_append_left _ mem, bad⟩

theorem Merging.blemished {after : Heap} (merging : Merging realm members parsed cloned merged clone done heap) {write : Write}
    (log : after.writes = heap.writes ++ [write]) (bad : ¬ Allowed parsed cloned write) : Blemished parsed cloned after := by
  obtain ⟨writes, before, -⟩ := merging.writes
  exact ⟨writes ++ [write], by rw [log, before, List.append_assoc], write, List.mem_append_right _ List.mem_cons_self, bad⟩

theorem not_allowed_proto (parsed cloned : Heap) (ref : Ref) : ¬ Allowed parsed cloned (.proto ref) := by
  rintro ⟨other, key, same, -⟩
  cases same

/-- A value that is not primitive becomes the prototype of an object of the clone. -/
theorem Merging.link (merging : Merging realm members parsed cloned merged clone done heap)
    (scene : Scene realm settings members parsed cloned patch merged source clone) {ref : Ref}
    (inClone : InClone merged clone ref) {value : JsValue} {member : Value}
    (decoded : Decoded cloned realm.heap.allocated value member) (effective : ¬ IsPrimitive member)
    (older : ∀ other, value = .ref other → other < parsed.allocated) :
    ∃ after, heap.set ref PROTO value = some after ∧ Blemished parsed cloned after := by
  obtain ⟨object, found, -, link, -⟩ := merging.ordinary ref inClone
  have new := (scene.inClone_new inClone).1
  have root : OBJECT_PROTOTYPE < realm.heap.allocated := realm.below _ _ realm.isPrototype
  have ordinary : ref ≠ OBJECT_PROTOTYPE :=
    Nat.ne_of_gt (Nat.lt_of_lt_of_le root (Nat.le_trans scene.early.allocated new))
  have links : ∀ below object proto, below < realm.heap.allocated → heap.objects.get? below = some object →
      object.proto = some proto → proto < realm.heap.allocated := by
    intro below object proto lower held link
    rw [merging.older scene (Nat.lt_of_lt_of_le lower scene.early.allocated)] at held
    rcases scene.late.added below object held with held | ⟨later, -⟩
    · rcases scene.early.added below object held with held | ⟨later, -⟩
      · exact realm.links below object proto held link
      · exact absurd later (Nat.not_le_of_lt lower)
    · exact absurd (Nat.le_trans scene.early.allocated later) (Nat.not_le_of_lt lower)
  have refers : ∀ other next, value = .ref other → realm.heap.allocated ≤ other →
      (heap.objects.get? other).bind JsObject.proto = some next → next < realm.heap.allocated →
      ∃ after, heap.setProto ref value = some after ∧ Blemished parsed cloned after := by
    rintro other next rfl low onward near
    have apart : other ≠ ref := Nat.ne_of_lt (Nat.lt_of_lt_of_le (older other rfl) new)
    have acyclic : heap.inherits (heap.allocated + 1) (some other) ref = false := by
      rw [Heap.inherits, decide_eq_false apart, Bool.false_or, onward]
      refine Heap.inherits_below links (Nat.le_trans scene.early.allocated new) _ _ ?_
      rintro start ⟨⟩
      exact near
    have different : object.proto ≠ some other := by
      rw [link]
      rintro ⟨⟩
      exact absurd low (Nat.not_le_of_lt root)
    refine ⟨_, Heap.setProto_of_ne found (.inr ⟨other, rfl, rfl⟩) different ordinary acyclic, ?_⟩
    exact merging.blemished rfl (not_allowed_proto parsed cloned ref)
  rw [merging.set_proto scene inClone]
  cases decoded with
  | null =>
    have different : object.proto ≠ none := by
      rw [link]
      rintro ⟨⟩
    refine ⟨_, Heap.setProto_of_ne found (.inl ⟨rfl, rfl⟩) different ordinary rfl, ?_⟩
    exact merging.blemished rfl (not_allowed_proto parsed cloned ref)
  | @arr other object' _ held kind link' low =>
    obtain ⟨array, early⟩ := realm.arrays
    refine refers other ARRAY_PROTOTYPE rfl low ?_ (realm.below _ _ early)
    rw [merging.older scene (older other rfl), held]
    exact link'
  | @obj other object' _ held kind link' low =>
    refine refers other OBJECT_PROTOTYPE rfl low ?_ root
    rw [merging.older scene (older other rfl), held]
    exact link'
  | _ => exact absurd trivial effective

theorem Merging.assign_loud (merging : Merging realm members parsed cloned merged clone done heap)
    (scene : Scene realm settings members parsed cloned patch merged source clone) {from_ low : Ref}
    (entries : List (JsString × Value))
    (values : ∀ entry ∈ entries, ∃ value, heap.get from_ entry.1 = value ∧ Decoded cloned low value entry.2)
    (loud : ∃ entry ∈ entries.takeWhile (fun entry => !throwsAt entry), entry.1 ≠ PROTO) :
    Blemished parsed cloned (pipane.local_settings.assignKeys heap OBJECT_PROTOTYPE from_ (entries.map Prod.fst)).1 := by
  induction entries with
  | nil =>
    obtain ⟨entry, mem, -⟩ := loud
    cases mem
  | cons entry entries ih =>
    obtain ⟨value, shown, decoded⟩ := values entry List.mem_cons_self
    obtain ⟨bad, mem, ne⟩ := loud
    cases throws : throwsAt entry with
    | true =>
      rw [List.takeWhile_cons_of_neg (by rw [throws]; decide)] at mem
      cases mem
    | false =>
      rw [List.takeWhile_cons_of_pos (by rw [throws]; rfl)] at mem
      rw [List.map_cons, pipane.local_settings.assignKeys, shown]
      by_cases name : entry.1 = PROTO
      · have sets : setsPrototype entry.2 = false := by
          rw [throwsAt, name, decide_eq_true rfl, Bool.true_and] at throws
          exact throws
        rw [name, merging.set_prototype scene decoded, sets, if_neg (by decide)]
        rcases List.mem_cons.mp mem with rfl | mem
        · exact absurd name ne
        · exact ih (fun entry mem => values entry (List.mem_cons_of_mem _ mem)) ⟨bad, mem, ne⟩
      · rw [Heap.set_of_ne merging.accessor name]
        have written := @Heap.setOwn_of_get? heap OBJECT_PROTOTYPE realm.prototype entry.1 (merging.prototype scene) value
        refine Blemished.later (merging.blemished (by rw [written]) ?_) (assignKeys_writes _ _ _ _)
        rintro ⟨ref, key, same, new, -⟩
        cases same
        have root := scene.early.below _ _ (scene.early.kept _ _ realm.isPrototype)
        exact absurd new (Nat.not_le_of_lt root)

theorem Merging.section_loud (scene : Scene realm settings members parsed cloned patch merged source clone) {name : JsString}
    (mem : name ∈ members.keys) {target from_ : Ref} (own : clone.own.get? name = some (.data (.ref target)))
    (keys : List JsString) {heap : Heap} (merging : Merging realm members parsed cloned merged clone done heap)
    (proto : PROTO ∈ keys)
    (link : ∀ heap, Merging realm members parsed cloned merged clone done heap →
      ∃ after, heap.set target PROTO (heap.get from_ PROTO) = some after ∧ Blemished parsed cloned after) :
    Blemished parsed cloned (pipane.local_settings.assignKeys heap target from_ keys).1 := by
  induction keys generalizing heap with
  | nil => cases proto
  | cons key keys ih =>
    rw [pipane.local_settings.assignKeys]
    by_cases here : key = PROTO
    · subst here
      obtain ⟨after, set, blemished⟩ := link heap merging
      rw [set]
      exact blemished.later (assignKeys_writes _ _ _ _)
    · rw [Heap.set_of_ne merging.accessor here]
      have apart : target ≠ merged := Nat.ne_of_lt (scene.clone_inner name target own)
      have next := merging.setOwn scene (.inr ⟨name, mem, own⟩) here (List.Subset.refl _) (fun same => absurd same apart)
        (heap.get from_ key)
      exact ih next ((List.mem_cons.mp proto).resolve_left fun same => here same.symm)

theorem Merging.patchKey_harmful (merging : Merging realm members parsed cloned merged clone done heap)
    (scene : Scene realm settings members parsed cloned patch merged source clone) {key : JsString} {member : Value}
    (present : members.get? key = some member) (fresh : key ∉ done) (harmful : ¬ Harmless settings key member) :
    Blemished parsed cloned (patchKey heap merged patch key).1 := by
  have mem : key ∈ members.keys := List.mem_map_of_mem (OrderedMap.mem_entries_iff.mpr present)
  obtain ⟨value, given, decoded, older⟩ := merging.get_patch scene present
  have shape := typeofObject_decoded decoded fun ref same => (older ref same).2
  cases decoded with
  | @arr ref object items found kind link new =>
    have proto : key = PROTO := not_not.mp harmful
    subst proto
    rcases merging.get_merged scene (by decide) fresh with ⟨-, shown⟩ | ⟨ne, -⟩ | ⟨ne, -⟩
    · have other : ¬ (typeofObject heap (.ref ref) && !isArray heap (.ref ref)) = true := by
        intro assigned
        rcases shape.mp assigned with same | ⟨source, same⟩ <;> cases same
      have decoded : Decoded cloned realm.heap.allocated (.ref ref) (.arr items) := .arr found kind link new
      obtain ⟨after, set, blemished⟩ := merging.link scene (.inl rfl) decoded id fun ref same => (older ref same).1
      rw [patchKey_of_base (by decide) shown given, if_neg (fun h => other (Bool.and_eq_true .. ▸ h).2), set]
      exact blemished
    · exact absurd rfl ne
    · exact absurd rfl ne
  | @obj from_ object members' found kind link new keys data values inner =>
    have here := (older _ rfl).2.trans found
    have assigned := shape.mpr (.inr ⟨members', rfl⟩)
    rw [Harmless, not_and_or] at harmful
    rcases harmful with loud | effective
    · obtain ⟨proto, noise⟩ := Classical.not_imp.mp loud
      subst proto
      rcases merging.get_merged scene (by decide) fresh with ⟨-, shown⟩ | ⟨ne, -⟩ | ⟨ne, -⟩
      · have truthy : (JsValue.isTruthy (.ref OBJECT_PROTOTYPE) && typeofObject heap (.ref OBJECT_PROTOTYPE)) = true := by
          rw [JsValue.isTruthy, typeofObject, merging.prototype scene]
          dsimp only
          rw [realm.isPlain]
          rfl
        rw [patchKey_of_base (by decide) shown given, truthy, Bool.true_and, if_pos assigned, objectAssign, ownKeys, here]
        dsimp only
        rw [keys]
        refine merging.assign_loud scene _ (source_values here keys data values) ?_
        rw [Quiet] at noise
        push Not at noise
        exact noise
      · exact absurd rfl ne
      · exact absurd rfl ne
    · push Not at effective
      obtain ⟨own, own_member, inner', absent, notPrimitive⟩ := effective
      have version : key ≠ VERSION := by
        rintro rfl
        rcases lookup_members own_member with ⟨-, same⟩ | ⟨-, -⟩
        · cases same
        · rcases scene.clone_cases VERSION with ⟨-, other⟩ | ⟨-, shown⟩ | ⟨-, ref, object, -, shown, -⟩
          · cases own_member.symm.trans other
          · cases present' : (ownOf settings.members).get? VERSION with
            | none => cases own_member.symm.trans present'
            | some member =>
              have decoded := scene.clone_values VERSION _ member shown present'
              cases own_member.symm.trans present'
              cases decoded
          · have number : (ownOf settings.members).get? VERSION = some (natural 1) := by
              rw [ownOf_entries ⟨settings.members, (canonical_toJson settings).1⟩]
              rfl
            cases own_member.symm.trans number
      rcases merging.get_merged scene version fresh with
        ⟨rfl, -⟩ | ⟨ne, ref, object', own', section_, -, shown, here', kind'⟩ | ⟨-, other, -⟩
      · rcases lookup_members own_member with ⟨version', -⟩ | ⟨ne, -⟩
        · exact absurd version' version
        · exact absurd rfl ne
      · have truthy : (JsValue.isTruthy (.ref ref) && typeofObject heap (.ref ref)) = true := by
          rw [JsValue.isTruthy, typeofObject, here']
          dsimp only
          rw [kind']
          rfl
        rw [patchKey_of_base version shown given, truthy, Bool.true_and, if_pos assigned, objectAssign, ownKeys, here]
        dsimp only
        have proto : PROTO ∈ object.own.keys := by
          rw [keys]
          exact List.mem_map_of_mem (OrderedMap.mem_entries_iff.mpr absent)
        refine Merging.section_loud scene mem section_ object.own.keys merging proto fun heap merging' => ?_
        have now := (merging'.older scene (older _ rfl).1).trans found
        obtain ⟨value', shown', given', decoded'⟩ := get_decoded now keys data values absent
        rw [given']
        refine merging'.link scene (.inr ⟨key, section_⟩) decoded' notPrimitive ?_
        rintro other rfl
        exact Nat.lt_trans (inner PROTO other shown') (older _ rfl).1
      · cases own_member.symm.trans other
  | _ => exact absurd trivial harmful

/-! The whole loop. -/

theorem Merging.run (scene : Scene realm settings members parsed cloned patch merged source clone)
    (entries : List (JsString × Value)) {done : List JsString} {heap : Heap}
    (merging : Merging realm members parsed cloned merged clone done heap)
    (present : ∀ entry ∈ entries, members.get? entry.1 = some entry.2)
    (distinct : (done ++ entries.map Prod.fst).Nodup) :
    ((∀ entry ∈ reached entries, Harmless settings entry.1 entry.2) →
      ∃ gone, gone ⊆ done ++ entries.map Prod.fst ∧
        Merging realm members parsed cloned merged clone gone (patchKeys heap merged patch (entries.map Prod.fst)).1) ∧
    ((∃ entry ∈ reached entries, ¬ Harmless settings entry.1 entry.2) →
      Blemished parsed cloned (patchKeys heap merged patch (entries.map Prod.fst)).1) := by
  induction entries generalizing done heap with
  | nil =>
    refine ⟨fun _ => ⟨done, List.subset_append_left _ _, merging⟩, ?_⟩
    rintro ⟨entry, mem, -⟩
    cases mem
  | cons entry entries ih =>
    have first := present entry List.mem_cons_self
    have fresh : entry.1 ∉ done := by
      intro mem
      exact (List.nodup_append.mp distinct).2.2 entry.1 mem entry.1 List.mem_cons_self rfl
    have reordered : (entry.1 :: done ++ entries.map Prod.fst).Nodup := by
      refine List.Perm.nodup ?_ distinct
      exact List.perm_middle
    have rest := fun entry mem => present entry (List.mem_cons_of_mem _ mem)
    rw [List.map_cons, patchKeys]
    dsimp only
    by_cases harmless : Harmless settings entry.1 entry.2
    · obtain ⟨returned, next⟩ := merging.patchKey_harmless scene first fresh harmless
      rw [returned]
      cases aborts : abortsAt entry.1 entry.2 with
      | true =>
        rw [Bool.not_true, if_neg Bool.false_ne_true]
        constructor
        · intro _
          refine ⟨entry.1 :: done, ?_, next⟩
          exact List.cons_subset.mpr ⟨List.mem_append_right _ List.mem_cons_self, List.subset_append_left _ _⟩
        · rintro ⟨other, mem, harmful⟩
          rw [reached, aborts, if_pos rfl, List.mem_singleton] at mem
          exact absurd (mem ▸ harmless) harmful
      | false =>
        rw [Bool.not_false, if_pos rfl]
        obtain ⟨good, bad⟩ := ih next rest reordered
        constructor
        · intro every
          obtain ⟨gone, sub, last⟩ := good fun other mem => every other (by
            rw [reached, aborts, if_neg Bool.false_ne_true]
            exact List.mem_cons_of_mem _ mem)
          refine ⟨gone, fun key mem => ?_, last⟩
          have found := sub mem
          rw [List.cons_append, List.mem_cons, List.mem_append] at found
          rw [List.mem_append, List.mem_cons]
          rcases found with rfl | found | found
          · exact .inr (.inl rfl)
          · exact .inl found
          · exact .inr (.inr found)
        · rintro ⟨other, mem, harmful⟩
          rw [reached, aborts, if_neg Bool.false_ne_true, List.mem_cons] at mem
          rcases mem with rfl | mem
          · exact absurd harmless harmful
          · exact bad ⟨other, mem, harmful⟩
    · have blemished := merging.patchKey_harmful scene first fresh harmless
      constructor
      · intro every
        exact absurd (every entry (by rw [reached]; exact List.mem_cons_self)) harmless
      · intro _
        split
        · exact blemished.later (patchKeys_writes _ _ _ _)
        · exact blemished

end

/-- A patch is applied within the clone of the settings, and there within the sections that it names, just where no member
    that is reached sets or assigns anything by the name `__proto__`. -/
theorem patch_frame (realm : Realm) (settings : LocalSettings) (members : OrderedMap JsString Value) :
    Framed members.keys (applyPatch realm.heap settings members) ↔
      ∀ member ∈ reached members.entries, Harmless settings member.1 member.2 := by
  obtain ⟨source, clone, scene⟩ := exists_scene realm settings members
  cases decoded : realm.heap.decodeObject members.entries with
  | mk parsed patch =>
  cases copied : parsed.decodeObject settings.members with
  | mk cloned merged =>
  rw [decoded] at scene
  dsimp only at scene
  rw [copied] at scene
  rw [applyPatch_eq realm.heap settings members decoded copied]
  have keys : ownKeys cloned patch = members.entries.map Prod.fst := by
    rw [ownKeys, scene.patch_found]
    exact scene.patch_keys
  obtain ⟨good, bad⟩ := Merging.run scene members.entries scene.begin
    (fun entry mem => OrderedMap.mem_entries_iff.mp mem) members.nodup
  rw [← keys] at good bad
  constructor
  · intro framed
    by_contra harmful
    push Not at harmful
    obtain ⟨writes, log, write, mem, notAllowed⟩ := bad harmful
    obtain ⟨writes', log', allowed⟩ := framed.writes
    have same : writes = writes' := List.append_cancel_left (log.symm.trans log')
    exact notAllowed (allowed write (same ▸ mem))
  · intro harmless
    obtain ⟨gone, sub, merging⟩ := good harmless
    refine ⟨merging.writes, ?_, ?_⟩
    · intro ref clone' found different unnamed
      cases scene.clone_found.symm.trans found
      exact merging.others ref different unnamed
    · obtain ⟨now, held, kept⟩ := merging.unnamed
      obtain ⟨now', held', -, link, -⟩ := merging.ordinary _ (.inl rfl)
      cases held.symm.trans held'
      refine ⟨clone, now, scene.clone_found, held, link.trans scene.clone_link.symm, fun key outside => kept key ?_⟩
      intro mem
      have named := sub mem
      rw [keys] at named
      exact outside named

/-- `{"__proto__": {"x": 1}}` -/
def pollution : OrderedMap JsString Value :=
  (∅ : OrderedMap JsString Value).set PROTO (.obj [(js "x", natural 1)])

theorem pollution_writes :
    (applyPatch intrinsics.heap DEFAULT_SETTINGS pollution).after.writes = [.own OBJECT_PROTOTYPE (js "x")] := by
  decide +kernel

theorem patch_frame_proto : ¬ Framed pollution.keys (applyPatch intrinsics.heap DEFAULT_SETTINGS pollution) := by
  intro framed
  obtain ⟨writes, log, allowed⟩ := framed.writes
  have before : (applyPatch intrinsics.heap DEFAULT_SETTINGS pollution).parsed.writes = [] := by decide +kernel
  have bound : (applyPatch intrinsics.heap DEFAULT_SETTINGS pollution).parsed.allocated ≠ 0 := by decide +kernel
  rw [pollution_writes, before, List.nil_append] at log
  obtain ⟨ref, key, same, new, -⟩ := allowed _ (log ▸ List.mem_cons_self)
  cases same
  exact bound (Nat.le_zero.mp new)

end pipane.local_settings

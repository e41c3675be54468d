import Pipane.Server.SessionJsonl.ToolCallTimings

open javascript json js_object

namespace pipane.session_jsonl

theorem completedAt_not_inherited : COMPLETED_AT ∉ INHERITED_NAMES := by
  decide

/-- What every run keeps: the names of `Object.prototype` stay what they are, and the map never gets one of its own. -/
structure Kept (realm : Realm) (heap : Heap) (timings : Ref) : Prop where
  below : ∀ ref object, heap.objects.get? ref = some object → ref < heap.allocated
  later : realm.heap.allocated ≤ timings
  prototype : ∃ prototype, heap.objects.get? OBJECT_PROTOTYPE = some prototype ∧ prototype.proto = none ∧
    ∀ name ∈ INHERITED_NAMES, prototype.own.get? name = realm.prototype.own.get? name
  older : ∀ ref object, realm.heap.objects.get? ref = some object → ∃ now, heap.objects.get? ref = some now
  map : ∃ map, heap.objects.get? timings = some map ∧ map.proto = some OBJECT_PROTOTYPE ∧
    ∀ name ∈ INHERITED_NAMES, map.own.get? name = none
  accessor : ∀ ref object name, heap.objects.get? ref = some object → object.own.get? name = some .proto → name = PROTO

theorem Kept.get_inherited {realm : Realm} {heap : Heap} {timings : Ref} (kept : Kept realm heap timings)
    {id : JsString} (inherited : id ∈ INHERITED_NAMES) :
    ∃ ref object, heap.get timings id = .ref ref ∧ ref < realm.heap.allocated ∧ heap.objects.get? ref = some object := by
  obtain ⟨prototype, root, last, names⟩ := kept.prototype
  obtain ⟨map, held, link, clear⟩ := kept.map
  have found : heap.find timings id = realm.prototype.own.get? id :=
    (Heap.find_inherited held (clear id inherited) link (kept.below _ _ root) root last).trans (names id inherited)
  rcases List.mem_cons.mp inherited with rfl | function
  · refine ⟨OBJECT_PROTOTYPE, prototype, ?_, realm.below _ _ realm.isPrototype, root⟩
    rw [Heap.get, found, realm.accessor]
    dsimp only
    rw [held, Option.bind_some, link]
  · obtain ⟨ref, object, named, exists_, -⟩ := realm.functions id function
    obtain ⟨now, here⟩ := kept.older ref object exists_
    refine ⟨ref, now, ?_, realm.below _ _ exists_, here⟩
    rw [Heap.get, found, named]

theorem Kept.setOwn {realm : Realm} {heap : Heap} {timings : Ref} (kept : Kept realm heap timings) (ref : Ref)
    {key : JsString} (outside : key ∉ INHERITED_NAMES) (value : JsValue) :
    Kept realm (heap.setOwn ref key value) timings := by
  have persists : ∀ other object, heap.objects.get? other = some object →
      ∃ now, (heap.setOwn ref key value).objects.get? other = some now ∧ now.proto = object.proto ∧
        ∀ name ∈ INHERITED_NAMES, now.own.get? name = object.own.get? name := by
    intro other object held
    by_cases same : other = ref
    · subst same
      refine ⟨_, Heap.get?_setOwn_self held value, rfl, fun name inherited => ?_⟩
      exact OrderedMap.get?_set_ne (fun named : name = key => outside (named ▸ inherited)) _
    · exact ⟨object, (Heap.get?_setOwn_ne same value).trans held, rfl, fun name _ => rfl⟩
  constructor
  · intro other object found
    obtain ⟨earlier, held, -⟩ := Heap.of_get?_setOwn found
    rw [Heap.allocated_setOwn]
    exact kept.below other earlier held
  · exact kept.later
  · obtain ⟨prototype, root, last, names⟩ := kept.prototype
    obtain ⟨now, found, link, same⟩ := persists _ prototype root
    exact ⟨now, found, link.trans last, fun name inherited => (same name inherited).trans (names name inherited)⟩
  · intro other object found
    obtain ⟨now, here⟩ := kept.older other object found
    obtain ⟨after, found, -⟩ := persists other now here
    exact ⟨after, found⟩
  · obtain ⟨map, held, link, clear⟩ := kept.map
    obtain ⟨now, found, linked, same⟩ := persists _ map held
    exact ⟨now, found, linked.trans link, fun name inherited => (same name inherited).trans (clear name inherited)⟩
  · intro other object name found accessor
    obtain ⟨earlier, held, -, -, same⟩ := Heap.of_get?_setOwn found
    rcases same name with same | ⟨-, data⟩
    · exact kept.accessor other earlier name held (same ▸ accessor)
    · cases data ▸ accessor

theorem Kept.create {realm : Realm} {heap : Heap} {timings : Ref} (kept : Kept realm heap timings) {object : JsObject}
    (plain : ∀ name, object.own.get? name ≠ some .proto) : Kept realm (heap.create object).1 timings := by
  have persists : ∀ other earlier, heap.objects.get? other = some earlier →
      (heap.create object).1.objects.get? other = some earlier := by
    intro other earlier held
    exact (Heap.get?_create_ne (Nat.ne_of_lt (kept.below other earlier held)) object).trans held
  have before : ∀ other now, (heap.create object).1.objects.get? other = some now →
      other = heap.allocated ∧ now = object ∨ heap.objects.get? other = some now := by
    intro other now found
    by_cases new : other = heap.allocated
    · subst new
      exact .inl ⟨rfl, (Option.some.inj ((Heap.get?_create_self heap object).symm.trans found)).symm⟩
    · exact .inr ((Heap.get?_create_ne new object).symm.trans found)
  constructor
  · intro other now found
    rcases before other now found with ⟨rfl, -⟩ | held
    · exact Nat.lt_succ_self _
    · exact Nat.lt_succ_of_lt (kept.below other now held)
  · exact kept.later
  · obtain ⟨prototype, root, last, names⟩ := kept.prototype
    exact ⟨prototype, persists _ _ root, last, names⟩
  · intro other earlier found
    obtain ⟨now, here⟩ := kept.older other earlier found
    exact ⟨now, persists other now here⟩
  · obtain ⟨map, held, link, clear⟩ := kept.map
    exact ⟨map, persists _ _ held, link, clear⟩
  · intro other now name found accessor
    rcases before other now found with ⟨-, rfl⟩ | held
    · exact absurd accessor (plain name)
    · exact kept.accessor other now name held accessor

/-! One event. -/

def newEntry (startedAt : Number) : JsObject :=
  { own := (∅ : OrderedMap JsString Property).set STARTED_AT (.data (.num startedAt)), proto := some OBJECT_PROTOTYPE }

theorem newEntry_own (startedAt : Number) (name : JsString) :
    (newEntry startedAt).own.get? name = if name = STARTED_AT then some (.data (.num startedAt)) else none := by
  rw [newEntry]
  dsimp only
  rw [OrderedMap.get?_set]
  rfl

theorem newEntry_plain (startedAt : Number) (name : JsString) : (newEntry startedAt).own.get? name ≠ some .proto := by
  rw [newEntry_own]
  split
  · rintro ⟨⟩
  · rintro ⟨⟩

/-- The heap after a call under a name that the map shows nothing for. -/
def started (heap : Heap) (timings : Ref) (id : JsString) (startedAt : Number) : Heap :=
  (heap.create (newEntry startedAt)).1.setOwn timings id (.ref heap.allocated)

theorem Kept.startTiming {realm : Realm} {heap : Heap} {timings : Ref} (kept : Kept realm heap timings)
    (id : JsString) (startedAt : Number) :
    startTiming heap timings id startedAt =
      some (if (heap.get timings id).isNullish then started heap timings id startedAt else heap) := by
  rw [pipane.session_jsonl.startTiming]
  by_cases nullish : (heap.get timings id).isNullish = true
  · rw [if_pos nullish, if_pos nullish]
    have ne : id ≠ PROTO := by
      rintro rfl
      obtain ⟨ref, -, shown, -⟩ := kept.get_inherited proto_inherited
      rw [shown] at nullish
      cases nullish
    exact Heap.set_of_ne (kept.create (newEntry_plain startedAt)).accessor ne _ _
  · rw [if_neg nullish, if_neg nullish]

theorem Kept.not_inherited {realm : Realm} {heap : Heap} {timings : Ref} (kept : Kept realm heap timings)
    {id : JsString} (nullish : (heap.get timings id).isNullish = true) : id ∉ INHERITED_NAMES := by
  intro inherited
  obtain ⟨ref, -, shown, -⟩ := kept.get_inherited inherited
  rw [shown] at nullish
  cases nullish

theorem Kept.endTiming {realm : Realm} {heap : Heap} {timings : Ref} (kept : Kept realm heap timings)
    {id : JsString} {ref : Ref} (shown : heap.get timings id = .ref ref) (completedAt : Number) :
    endTiming heap timings id completedAt = some (heap.setOwn ref COMPLETED_AT (.num completedAt)) := by
  rw [pipane.session_jsonl.endTiming, shown]
  exact Heap.set_of_ne kept.accessor (by decide) _ _

/-- An event does nothing, begins an entry under a name of its own, or writes the end of what the map shows. -/
theorem Kept.record_cases {realm : Realm} {heap after : Heap} {timings : Ref} (kept : Kept realm heap timings)
    {event : ToolEvent} (recorded : record heap timings event = some after) :
    after = heap ∨
      (∃ id time, id ∉ INHERITED_NAMES ∧ after = started heap timings id time) ∨
        ∃ ref time, after = heap.setOwn ref COMPLETED_AT (.num time) := by
  cases event with
  | called id time =>
    have equation := (kept.startTiming id time).symm.trans recorded
    cases equation
    by_cases nullish : (heap.get timings id).isNullish = true
    · rw [if_pos nullish]
      exact .inr (.inl ⟨id, time, kept.not_inherited nullish, rfl⟩)
    · rw [if_neg nullish]
      exact .inl rfl
  | returned id time =>
    cases shown : heap.get timings id with
    | ref ref =>
      have equation := (kept.endTiming shown time).symm.trans recorded
      cases equation
      exact .inr (.inr ⟨ref, time, rfl⟩)
    | _ =>
      rw [record, pipane.session_jsonl.endTiming, shown] at recorded
      split at recorded
      · cases recorded
      · exact .inl (Option.some.inj recorded).symm

theorem Kept.started {realm : Realm} {heap : Heap} {timings : Ref} (kept : Kept realm heap timings) {id : JsString}
    (outside : id ∉ INHERITED_NAMES) (time : Number) : Kept realm (started heap timings id time) timings :=
  (kept.create (newEntry_plain time)).setOwn timings outside _

theorem Kept.record {realm : Realm} {heap after : Heap} {timings : Ref} (kept : Kept realm heap timings)
    {event : ToolEvent} (recorded : record heap timings event = some after) :
    Kept realm after timings ∧ ∃ writes, after.writes = heap.writes ++ writes := by
  rcases kept.record_cases recorded with rfl | ⟨id, time, outside, rfl⟩ | ⟨ref, time, rfl⟩
  · exact ⟨kept, [], (List.append_nil _).symm⟩
  · exact ⟨kept.started outside time, Heap.setOwn_writes _ _ _ _⟩
  · exact ⟨kept.setOwn ref completedAt_not_inherited _, Heap.setOwn_writes _ _ _ _⟩

theorem Kept.run {realm : Realm} {timings : Ref} (events : List ToolEvent) {heap after : Heap}
    (kept : Kept realm heap timings)
    (ran : events.foldlM (fun heap event => pipane.session_jsonl.record heap timings event) heap = some after) :
    Kept realm after timings ∧ ∃ writes, after.writes = heap.writes ++ writes := by
  induction events generalizing heap with
  | nil =>
    cases ran
    exact ⟨kept, [], (List.append_nil _).symm⟩
  | cons event events ih =>
    rw [List.foldlM_cons] at ran
    obtain ⟨middle, first, rest⟩ := Option.bind_eq_some_iff.mp ran
    obtain ⟨kept, early, earlier⟩ := kept.record first
    obtain ⟨kept, late, later⟩ := ih kept rest
    exact ⟨kept, early ++ late, by rw [later, earlier, List.append_assoc]⟩

theorem kept_createTimings (realm : Realm) :
    Kept realm (createTimings realm.heap).1 (createTimings realm.heap).2 := by
  have persists : ∀ ref object, realm.heap.objects.get? ref = some object →
      (createTimings realm.heap).1.objects.get? ref = some object := by
    intro ref object held
    exact (Heap.get?_create_ne (Nat.ne_of_lt (realm.below ref object held)) _).trans held
  have created : (createTimings realm.heap).1.objects.get? (createTimings realm.heap).2 =
      some { proto := some OBJECT_PROTOTYPE } := Heap.get?_create_self _ _
  have before : ∀ ref now, (createTimings realm.heap).1.objects.get? ref = some now →
      ref = realm.heap.allocated ∧ now = { proto := some OBJECT_PROTOTYPE } ∨ realm.heap.objects.get? ref = some now := by
    intro ref now found
    by_cases new : ref = realm.heap.allocated
    · subst new
      exact .inl ⟨rfl, (Option.some.inj (created.symm.trans found)).symm⟩
    · exact .inr ((Heap.get?_create_ne new _).symm.trans found)
  constructor
  · intro ref now found
    rcases before ref now found with ⟨rfl, -⟩ | held
    · exact Nat.lt_succ_self _
    · exact Nat.lt_succ_of_lt (realm.below ref now held)
  · exact Nat.le_refl _
  · exact ⟨realm.prototype, persists _ _ realm.isPrototype, realm.isRoot, fun name _ => rfl⟩
  · exact fun ref object held => ⟨object, persists ref object held⟩
  · exact ⟨_, created, rfl, fun name _ => rfl⟩
  · intro ref now name found accessor
    rcases before ref now found with ⟨-, rfl⟩ | held
    · cases accessor
    · exact realm.noOther ref now name held accessor

/-! Runs without a name of `Object.prototype`. -/

/-- The own properties of the map are entries of its own, one for each id that was called. -/
structure Entries (realm : Realm) (heap : Heap) (timings : Ref) (own : OrderedMap JsString Property)
    (events : List ToolEvent) : Prop where
  shows : ∀ id, Shows heap own id (timing? id events)
  created : ∀ id ref, own.get? id = some (.data (.ref ref)) → realm.heap.allocated ≤ ref ∧ ref ≠ timings
  distinct : ∀ id other ref, own.get? id = some (.data (.ref ref)) → own.get? other = some (.data (.ref ref)) → id = other

structure Tracked (realm : Realm) (heap : Heap) (timings : Ref) (events : List ToolEvent) : Prop where
  kept : Kept realm heap timings
  prototype : heap.objects.get? OBJECT_PROTOTYPE = some realm.prototype
  map : ∃ map, heap.objects.get? timings = some map ∧ map.proto = some OBJECT_PROTOTYPE ∧
    Entries realm heap timings map.own events
  fresh : ∃ writes, heap.writes = realm.heap.writes ++ writes ∧ ∀ write ∈ writes, realm.heap.allocated ≤ write.target

theorem fresh_setOwn {realm : Realm} {heap : Heap} {ref : Ref} (later : realm.heap.allocated ≤ ref)
    (fresh : ∃ writes, heap.writes = realm.heap.writes ++ writes ∧
      ∀ write ∈ writes, realm.heap.allocated ≤ write.target) (key : JsString) (value : JsValue) :
    ∃ writes, (heap.setOwn ref key value).writes = realm.heap.writes ++ writes ∧
      ∀ write ∈ writes, realm.heap.allocated ≤ write.target := by
  obtain ⟨writes, log, targets⟩ := fresh
  rw [Heap.setOwn]
  split
  · exact ⟨writes, log, targets⟩
  · refine ⟨writes ++ [.own ref key], ?_, ?_⟩
    · dsimp only
      rw [log, List.append_assoc]
    · intro write mem
      rcases List.mem_append.mp mem with mem | mem
      · exact targets write mem
      · rw [List.mem_singleton.mp mem]
        exact later

theorem prototype_setOwn {realm : Realm} {heap : Heap} {ref : Ref} (later : realm.heap.allocated ≤ ref)
    (prototype : heap.objects.get? OBJECT_PROTOTYPE = some realm.prototype) (key : JsString) (value : JsValue) :
    (heap.setOwn ref key value).objects.get? OBJECT_PROTOTYPE = some realm.prototype := by
  have below : OBJECT_PROTOTYPE < realm.heap.allocated := realm.below _ _ realm.isPrototype
  exact (Heap.get?_setOwn_ne (Nat.ne_of_lt (Nat.lt_of_lt_of_le below later)) _).trans prototype

theorem Tracked.get {realm : Realm} {heap : Heap} {timings : Ref} {events : List ToolEvent}
    (tracked : Tracked realm heap timings events) {id : JsString} (outside : id ∉ INHERITED_NAMES) {map : JsObject}
    (held : heap.objects.get? timings = some map) (link : map.proto = some OBJECT_PROTOTYPE)
    (entries : Entries realm heap timings map.own events) :
    (timing? id events = none ∧ heap.get timings id = .undefined) ∨
      ∃ timing ref entry, timing? id events = some timing ∧ map.own.get? id = some (.data (.ref ref)) ∧
        heap.get timings id = .ref ref ∧ heap.objects.get? ref = some entry ∧ IsEntry entry timing := by
  have shows := entries.shows id
  cases held' : timing? id events with
  | none =>
    rw [held'] at shows
    have found : heap.find timings id = realm.prototype.own.get? id :=
      Heap.find_inherited held shows link (tracked.kept.below _ _ tracked.prototype) tracked.prototype realm.isRoot
    rw [realm.nothingElse id outside] at found
    refine .inl ⟨rfl, ?_⟩
    rw [Heap.get, found]
  | some timing =>
    rw [held'] at shows
    obtain ⟨ref, entry, own, here, isEntry⟩ := shows
    refine .inr ⟨timing, ref, entry, rfl, own, ?_, here, isEntry⟩
    rw [Heap.get, Heap.find_own held own]

theorem Entries.known {realm : Realm} {heap : Heap} {timings : Ref} {own : OrderedMap JsString Property}
    {events : List ToolEvent} (entries : Entries realm heap timings own events) (kept : Kept realm heap timings)
    {id : JsString} {ref : Ref} (shown : own.get? id = some (.data (.ref ref))) : ref < heap.allocated := by
  have shows := entries.shows id
  cases present : timing? id events with
  | none =>
    rw [present] at shows
    cases shows.symm.trans shown
  | some timing =>
    rw [present] at shows
    obtain ⟨ref', entry, shown', here, -⟩ := shows
    cases shown'.symm.trans shown
    exact kept.below ref entry here

theorem isEntry_newEntry (time : Number) : IsEntry (newEntry time) ⟨time, none⟩ := by
  constructor
  · rw [newEntry_own, if_pos rfl]
  · rw [newEntry_own, if_neg (by decide)]
    rfl
  · intro key ne _
    rw [newEntry_own, if_neg ne]

/-- A first call under an id adds an entry, and leaves the others. -/
theorem Entries.called {realm : Realm} {heap : Heap} {timings : Ref} {map : JsObject} {events : List ToolEvent}
    (entries : Entries realm heap timings map.own events) (kept : Kept realm heap timings)
    (held : heap.objects.get? timings = some map) {id : JsString} (absent : timing? id events = none) (time : Number) :
    Entries realm (started heap timings id time) timings (map.own.set id (.data (.ref heap.allocated)))
      (events ++ [.called id time]) := by
  have older : timings < heap.allocated := kept.below _ _ held
  have own_cases : ∀ other ref, (map.own.set id (.data (.ref heap.allocated))).get? other = some (.data (.ref ref)) →
      other = id ∧ ref = heap.allocated ∨ map.own.get? other = some (.data (.ref ref)) := by
    intro other ref own
    by_cases same : other = id
    · subst same
      rw [OrderedMap.get?_set_self] at own
      cases own
      exact .inl ⟨rfl, rfl⟩
    · rw [OrderedMap.get?_set_ne same] at own
      exact .inr own
  constructor
  · intro other
    rw [timing?_append_called]
    by_cases same : id = other
    · subst same
      rw [absent, if_pos rfl]
      refine ⟨heap.allocated, newEntry time, OrderedMap.get?_set_self _ _ _, ?_, isEntry_newEntry time⟩
      exact (Heap.get?_setOwn_ne (Nat.ne_of_gt older) _).trans (Heap.get?_create_self heap _)
    · rw [if_neg same, Option.or_none]
      have shows := entries.shows other
      have own : (map.own.set id (.data (.ref heap.allocated))).get? other = map.own.get? other :=
        OrderedMap.get?_set_ne (fun h => same h.symm) _
      cases present : timing? other events with
      | none =>
        rw [present] at shows
        exact own.trans shows
      | some timing =>
        rw [present] at shows
        obtain ⟨ref, entry, shown, here, isEntry⟩ := shows
        refine ⟨ref, entry, own.trans shown, ?_, isEntry⟩
        refine (Heap.get?_setOwn_ne (entries.created other ref shown).2 _).trans ?_
        exact (Heap.get?_create_ne (Nat.ne_of_lt (kept.below ref entry here)) _).trans here
  · intro other ref own
    rcases own_cases other ref own with ⟨-, rfl⟩ | own
    · exact ⟨Nat.le_of_lt (Nat.lt_of_le_of_lt kept.later older), Nat.ne_of_gt older⟩
    · exact entries.created other ref own
  · intro first second ref own own'
    rcases own_cases first ref own with ⟨rfl, rfl⟩ | earlier
    · rcases own_cases second _ own' with ⟨rfl, -⟩ | earlier
      · rfl
      · exact absurd (entries.known kept earlier) (Nat.lt_irrefl _)
    · rcases own_cases second ref own' with ⟨rfl, rfl⟩ | earlier'
      · exact absurd (entries.known kept earlier) (Nat.lt_irrefl _)
      · exact entries.distinct first second ref earlier earlier'

theorem Tracked.called {realm : Realm} {heap : Heap} {timings : Ref} {events : List ToolEvent}
    (tracked : Tracked realm heap timings events) {id : JsString} (outside : id ∉ INHERITED_NAMES) (time : Number) :
    ∃ after, startTiming heap timings id time = some after ∧
      Tracked realm after timings (events ++ [.called id time]) := by
  obtain ⟨map, held, link, entries⟩ := tracked.map
  have older : timings < heap.allocated := tracked.kept.below _ _ held
  rw [tracked.kept.startTiming]
  refine ⟨_, rfl, ?_⟩
  rcases tracked.get outside held link entries with ⟨absent, shown⟩ | ⟨timing, ref, entry, present, -, shown, -⟩
  · rw [shown]
    change Tracked realm (started heap timings id time) timings _
    refine ⟨tracked.kept.started outside time, ?_, ?_, ?_⟩
    · refine prototype_setOwn tracked.kept.later ?_ id _
      refine (Heap.get?_create_ne (Nat.ne_of_lt ?_) _).trans tracked.prototype
      exact tracked.kept.below _ _ tracked.prototype
    · have held' : (heap.create (newEntry time)).1.objects.get? timings = some map :=
        (Heap.get?_create_ne (Nat.ne_of_lt older) _).trans held
      exact ⟨_, Heap.get?_setOwn_self held' _, link, entries.called tracked.kept held absent time⟩
    · exact @fresh_setOwn realm (heap.create (newEntry time)).1 timings tracked.kept.later tracked.fresh id _
  · rw [shown]
    refine ⟨tracked.kept, tracked.prototype, ⟨map, held, link, ?_, entries.created, entries.distinct⟩, tracked.fresh⟩
    intro other
    rw [timing?_append_called]
    by_cases same : id = other
    · subst same
      rw [present, Option.some_or, ← present]
      exact entries.shows id
    · rw [if_neg same, Option.or_none]
      exact entries.shows other

/-- The result of a call with an entry goes into that entry. -/
theorem Entries.returned {realm : Realm} {heap : Heap} {timings : Ref} {own : OrderedMap JsString Property}
    {events : List ToolEvent} (entries : Entries realm heap timings own events) {id : JsString} {ref : Ref}
    {entry : JsObject} {timing : ToolCallTiming} (present : timing? id events = some timing)
    (shown : own.get? id = some (.data (.ref ref))) (here : heap.objects.get? ref = some entry)
    (isEntry : IsEntry entry timing) (time : Number) :
    Entries realm (heap.setOwn ref COMPLETED_AT (.num time)) timings own (events ++ [.returned id time]) := by
  refine ⟨?_, entries.created, entries.distinct⟩
  intro other
  have shows := entries.shows other
  rw [timing?_append_returned]
  by_cases same : id = other
  · subst same
    rw [present, Option.map_some, if_pos rfl]
    refine ⟨ref, _, shown, Heap.get?_setOwn_self here _, ?_, ?_, ?_⟩
    · exact (OrderedMap.get?_set_ne (by decide) _).trans isEntry.startedAt
    · exact OrderedMap.get?_set_self _ _ _
    · intro key ne ne'
      exact (OrderedMap.get?_set_ne ne' _).trans (isEntry.nothingElse key ne ne')
  · cases other_present : timing? other events with
    | none =>
      rw [other_present] at shows
      exact shows
    | some other_timing =>
      rw [other_present] at shows
      obtain ⟨other_ref, other_entry, own, held, isEntry⟩ := shows
      rw [Option.map_some, if_neg same]
      refine ⟨other_ref, other_entry, own, ?_, isEntry⟩
      refine (Heap.get?_setOwn_ne ?_ _).trans held
      rintro rfl
      exact same (entries.distinct id other other_ref shown own)

theorem Tracked.returned {realm : Realm} {heap : Heap} {timings : Ref} {events : List ToolEvent}
    (tracked : Tracked realm heap timings events) {id : JsString} (outside : id ∉ INHERITED_NAMES) (time : Number) :
    ∃ after, endTiming heap timings id time = some after ∧
      Tracked realm after timings (events ++ [.returned id time]) := by
  obtain ⟨map, held, link, entries⟩ := tracked.map
  rcases tracked.get outside held link entries with
    ⟨absent, shown⟩ | ⟨timing, ref, entry, present, own, shown, here, isEntry⟩
  · refine ⟨heap, by rw [endTiming, shown]; rfl, tracked.kept, tracked.prototype, ⟨map, held, link, ?_⟩, tracked.fresh⟩
    refine ⟨fun other => ?_, entries.created, entries.distinct⟩
    rw [timing?_append_returned]
    have shows := entries.shows other
    by_cases same : id = other
    · subst same
      rw [absent] at shows ⊢
      exact shows
    · cases present : timing? other events with
      | none =>
        rw [present] at shows
        exact shows
      | some timing =>
        rw [present] at shows
        rw [Option.map_some, if_neg same]
        exact shows
  · refine ⟨_, tracked.kept.endTiming shown time, tracked.kept.setOwn ref completedAt_not_inherited _, ?_, ?_, ?_⟩
    · exact prototype_setOwn (entries.created id ref own).1 tracked.prototype _ _
    · refine ⟨map, (Heap.get?_setOwn_ne (fun same => (entries.created id ref own).2 same.symm) _).trans held, link, ?_⟩
      exact entries.returned present own here isEntry time
    · exact fresh_setOwn (entries.created id ref own).1 tracked.fresh _ _

theorem Tracked.run {realm : Realm} {timings : Ref} (later : List ToolEvent) {heap : Heap} {events : List ToolEvent}
    (tracked : Tracked realm heap timings events) (outside : ∀ event ∈ later, event.id ∉ INHERITED_NAMES) :
    ∃ after, later.foldlM (fun heap event => record heap timings event) heap = some after ∧
      Tracked realm after timings (events ++ later) := by
  induction later generalizing heap events with
  | nil => exact ⟨heap, rfl, by rw [List.append_nil]; exact tracked⟩
  | cons event later ih =>
    have step : ∃ after, record heap timings event = some after ∧ Tracked realm after timings (events ++ [event]) := by
      have first := outside event List.mem_cons_self
      cases event with
      | called id time => exact tracked.called first time
      | returned id time => exact tracked.returned first time
    obtain ⟨middle, recorded, tracked⟩ := step
    obtain ⟨after, ran, tracked⟩ := ih tracked fun event mem => outside event (List.mem_cons_of_mem _ mem)
    refine ⟨after, ?_, by rw [List.append_cons]; exact tracked⟩
    rw [List.foldlM_cons, recorded]
    exact ran

theorem tracked_createTimings (realm : Realm) :
    Tracked realm (createTimings realm.heap).1 (createTimings realm.heap).2 [] := by
  have below : OBJECT_PROTOTYPE < realm.heap.allocated := realm.below _ _ realm.isPrototype
  refine ⟨kept_createTimings realm, ?_, ⟨_, Heap.get?_create_self _ _, rfl, ?_⟩, [], ?_, ?_⟩
  · exact (Heap.get?_create_ne (Nat.ne_of_lt below) _).trans realm.isPrototype
  · exact ⟨fun id => rfl, fun id ref own => (nomatch own), fun id other ref own => (nomatch own)⟩
  · exact (List.append_nil _).symm
  · intro write mem
    cases mem

/-! Every run. -/

theorem timing?_ne_none {events : List ToolEvent} {id : JsString} {time : Number} (called : .called id time ∈ events) :
    timing? id events ≠ none := by
  obtain ⟨early, late, rfl⟩ := List.append_of_mem called
  rw [timing?, firstCall?_append]
  cases firstCall? id early with
  | some call => rintro ⟨⟩
  | none =>
    rw [firstCall?, if_pos rfl]
    rintro ⟨⟩

theorem recordAll_records_iff (realm : Realm) (events : List ToolEvent) :
    Records realm.heap events (recordAll realm.heap events) ↔ ∀ event ∈ events, event.id ∉ INHERITED_NAMES := by
  constructor
  · rintro ⟨after, timings, result, recorded⟩ event mem inherited
    obtain ⟨last, ran, same⟩ := Option.map_eq_some_iff.mp result
    cases same
    obtain ⟨early, late, rfl⟩ := List.append_of_mem mem
    rw [List.foldlM_append] at ran
    obtain ⟨before, began, rest⟩ := Option.bind_eq_some_iff.mp ran
    obtain ⟨kept, first, first_log⟩ := (kept_createTimings realm).run early began
    obtain ⟨kept_last, -⟩ := kept.run (event :: late) rest
    cases event with
    | called id time =>
      obtain ⟨map, held, shows⟩ := recorded.shows
      obtain ⟨map', held', -, clear⟩ := kept_last.map
      cases held.symm.trans held'
      have shown := shows id
      cases present : timing? id (early ++ .called id time :: late) with
      | none => exact timing?_ne_none mem present
      | some timing =>
        rw [present] at shown
        obtain ⟨ref, entry, own, -⟩ := shown
        cases (clear id inherited).symm.trans own
    | returned id time =>
      obtain ⟨ref, object, shown, older, here⟩ := kept.get_inherited inherited
      rw [List.foldlM_cons] at rest
      obtain ⟨middle, ended, rest⟩ := Option.bind_eq_some_iff.mp rest
      cases (kept.endTiming shown time).symm.trans ended
      have after_kept := kept.setOwn ref completedAt_not_inherited (.num time)
      obtain ⟨-, second, second_log⟩ := after_kept.run late rest
      obtain ⟨writes, log, targets⟩ := recorded.fresh
      have start : (createTimings realm.heap).1.writes = realm.heap.writes := rfl
      rw [second_log, Heap.setOwn_of_get? here] at log
      dsimp only at log
      rw [first_log, start, List.append_assoc, List.append_assoc] at log
      have mem : Write.own ref COMPLETED_AT ∈ writes := by
        rw [← List.append_cancel_left log]
        exact List.mem_append_right _ (List.mem_append_left _ List.mem_cons_self)
      exact absurd (targets _ mem) (Nat.not_le_of_lt older)
  · intro outside
    obtain ⟨after, ran, tracked⟩ := (tracked_createTimings realm).run events outside
    obtain ⟨map, held, -, entries⟩ := tracked.map
    refine ⟨after, _, ?_, ⟨map, held, entries.shows⟩, tracked.fresh⟩
    rw [recordAll]
    dsimp only
    rw [ran]
    rfl

/-- Both maps hold exactly the timings of their events, and nothing else is written to, just where no tool call or
    result with a finite time has the name of a property of `Object.prototype` for its id. -/
theorem tool_call_timings (realm : Realm) (messages : List AgentMessage) (dateTime : JsString → Option Number)
    (entries : List DisplayEntry) :
    (Records realm.heap (messageEvents messages) (inferToolCallTimings realm.heap messages) ↔
      ∀ event ∈ messageEvents messages, event.id ∉ INHERITED_NAMES) ∧
    (Records realm.heap (entryEvents dateTime entries) (buildSessionToolCallTimings dateTime realm.heap entries) ↔
      ∀ event ∈ entryEvents dateTime entries, event.id ∉ INHERITED_NAMES) := by
  rw [inferToolCallTimings_eq, buildSessionToolCallTimings_eq]
  exact ⟨recordAll_records_iff realm _, recordAll_records_iff realm _⟩

/-- A call under `constructor` gets no entry, and a result for `__proto__` writes to `Object.prototype`. -/
theorem tool_call_timings_inherited :
    ¬ Records intrinsics.heap [.called (js "constructor") (.int 1)]
        (inferToolCallTimings intrinsics.heap [.assistant (.finite (.int 1)) [.toolCall (js "constructor")]]) ∧
      ¬ Records intrinsics.heap [.returned PROTO (.int 1)]
        (inferToolCallTimings intrinsics.heap [.toolResult (.finite (.int 1)) PROTO]) := by
  constructor
  · rw [inferToolCallTimings_eq]
    intro records
    exact (recordAll_records_iff intrinsics _).mp records _ List.mem_cons_self (by decide)
  · rw [inferToolCallTimings_eq]
    intro records
    exact (recordAll_records_iff intrinsics _).mp records _ List.mem_cons_self proto_inherited

end pipane.session_jsonl

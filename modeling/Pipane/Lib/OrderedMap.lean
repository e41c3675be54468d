import Mathlib.Data.List.Nodup
import Mathlib.Data.List.Perm.Basic
import Mathlib.Data.List.Lookmap

/-- A map that lists its entries in insertion order and holds each key once: the content of a
    JavaScript `Map`. -/
structure OrderedMap (κ α : Type) where
  entries : List (κ × α)
  nodup : (entries.map Prod.fst).Nodup

namespace OrderedMap

variable {κ α : Type}

def empty : OrderedMap κ α := ⟨[], List.nodup_nil⟩

instance : EmptyCollection (OrderedMap κ α) := ⟨empty⟩

instance : Inhabited (OrderedMap κ α) := ⟨empty⟩

@[ext] theorem ext {m n : OrderedMap κ α} (h : m.entries = n.entries) : m = n := by
  cases m
  cases n
  cases h
  rfl

def keys (m : OrderedMap κ α) : List κ := m.entries.map Prod.fst

def values (m : OrderedMap κ α) : List α := m.entries.map Prod.snd

def size (m : OrderedMap κ α) : Nat := m.entries.length

@[simp] theorem entries_empty : (∅ : OrderedMap κ α).entries = [] := rfl

theorem size_of_perm {m : OrderedMap κ α} {l : List (κ × α)} (h : m.entries.Perm l) :
    m.size = l.length :=
  h.length_eq

variable [DecidableEq κ]

def get? (m : OrderedMap κ α) (k : κ) : Option α := m.entries.lookup k

def contains (m : OrderedMap κ α) (k : κ) : Bool := (m.get? k).isSome

/-- Overwrites the value of a present key in place. -/
def overwrite (k : κ) (v : α) (l : List (κ × α)) : List (κ × α) :=
  l.map fun e => if e.1 = k then (k, v) else e

theorem keys_overwrite (k : κ) (v : α) (l : List (κ × α)) :
    (overwrite k v l).map Prod.fst = l.map Prod.fst := by
  simp only [overwrite, List.map_map]
  apply List.map_congr_left
  intro e _
  by_cases h : e.1 = k <;> simp [h]

/-- `map.set(k, v)`: a present key keeps its place, a new key goes to the end. -/
def set (m : OrderedMap κ α) (k : κ) (v : α) : OrderedMap κ α :=
  if h : k ∈ m.entries.map Prod.fst then
    ⟨overwrite k v m.entries, by rw [keys_overwrite]; exact m.nodup⟩
  else
    ⟨m.entries ++ [(k, v)], by
      rw [List.map_append, List.nodup_append]
      refine ⟨m.nodup, by simp, ?_⟩
      intro a ha b hb hab
      simp only [List.map_cons, List.map_nil, List.mem_singleton] at hb
      exact h (hb ▸ hab ▸ ha)⟩

/-- `map.delete(k)`. -/
def erase (m : OrderedMap κ α) (k : κ) : OrderedMap κ α :=
  ⟨m.entries.filter fun e => e.1 ≠ k, m.nodup.sublist (List.filter_sublist.map Prod.fst)⟩

/-- Applies a function to every value, in place. -/
def mapValues {β : Type} (m : OrderedMap κ α) (f : κ → α → β) : OrderedMap κ β :=
  ⟨m.entries.map fun e => (e.1, f e.1 e.2), by
    have h : ((m.entries.map fun e => (e.1, f e.1 e.2)).map Prod.fst) = m.entries.map Prod.fst := by
      simp
    rw [h]
    exact m.nodup⟩

/-- Deletes every entry that does not satisfy `p`. -/
def filter (m : OrderedMap κ α) (p : α → Bool) : OrderedMap κ α :=
  ⟨m.entries.filter fun e => p e.2, m.nodup.sublist (List.filter_sublist.map Prod.fst)⟩

@[simp] theorem get?_empty (k : κ) : (∅ : OrderedMap κ α).get? k = none := rfl

theorem mem_entries_iff {m : OrderedMap κ α} {k : κ} {v : α} :
    (k, v) ∈ m.entries ↔ m.get? k = some v := by
  obtain ⟨l, hl⟩ := m
  simp only [get?]
  induction l with
  | nil => simp
  | cons e l ih =>
    obtain ⟨k', v'⟩ := e
    rw [List.map_cons, List.nodup_cons] at hl
    by_cases hk : k = k'
    · subst hk
      simp only [List.mem_cons, Prod.mk.injEq, true_and, List.lookup_cons_self, Option.some.injEq]
      constructor
      · rintro (h | h)
        · exact h.symm
        · exact absurd (List.mem_map_of_mem h) hl.1
      · exact fun h => .inl h.symm
    · simp only [List.mem_cons, Prod.mk.injEq, hk, false_and, false_or, List.lookup_cons,
        beq_eq_false_iff_ne.mpr hk]
      exact ih hl.2

theorem mem_values_of_get? {m : OrderedMap κ α} {k : κ} {v : α} (h : m.get? k = some v) : v ∈ m.values :=
  List.mem_map_of_mem (f := Prod.snd) (mem_entries_iff.mpr h)

theorem mem_keys_iff {m : OrderedMap κ α} {k : κ} :
    k ∈ m.entries.map Prod.fst ↔ ∃ v, m.get? k = some v := by
  simp only [List.mem_map, Prod.exists, exists_and_right, exists_eq_right, mem_entries_iff]

theorem get?_eq_none_iff {m : OrderedMap κ α} {k : κ} :
    m.get? k = none ↔ k ∉ m.entries.map Prod.fst := by
  rw [mem_keys_iff]
  cases m.get? k <;> simp

theorem mem_entries_set {m : OrderedMap κ α} {k : κ} {v : α} {e : κ × α} :
    e ∈ (m.set k v).entries ↔ e = (k, v) ∨ (e ∈ m.entries ∧ e.1 ≠ k) := by
  simp only [set]
  split
  · rename_i h
    simp only [overwrite, List.mem_map]
    constructor
    · rintro ⟨a, ha, rfl⟩
      by_cases hk : a.1 = k
      · simp [hk]
      · simp [hk, ha]
    · rintro (rfl | ⟨he, hk⟩)
      · obtain ⟨a, ha, hk⟩ := List.mem_map.mp h
        exact ⟨a, ha, by simp [hk]⟩
      · exact ⟨e, he, by simp [hk]⟩
  · rename_i h
    simp only [List.mem_append, List.mem_singleton]
    constructor
    · rintro (he | rfl)
      · exact .inr ⟨he, fun hk => h (hk ▸ List.mem_map_of_mem he)⟩
      · exact .inl rfl
    · rintro (rfl | ⟨he, _⟩)
      · exact .inr rfl
      · exact .inl he

theorem mem_entries_erase {m : OrderedMap κ α} {k : κ} {e : κ × α} :
    e ∈ (m.erase k).entries ↔ e ∈ m.entries ∧ e.1 ≠ k := by
  simp [erase]

@[simp] theorem get?_set_self (m : OrderedMap κ α) (k : κ) (v : α) : (m.set k v).get? k = some v := by
  rw [← mem_entries_iff, mem_entries_set]
  exact .inl rfl

theorem get?_set_ne {m : OrderedMap κ α} {k k' : κ} (h : k' ≠ k) (v : α) :
    (m.set k v).get? k' = m.get? k' := by
  apply Option.ext
  intro a
  rw [← mem_entries_iff, ← mem_entries_iff, mem_entries_set]
  simp [h]

theorem get?_set (m : OrderedMap κ α) (k k' : κ) (v : α) :
    (m.set k v).get? k' = if k' = k then some v else m.get? k' := by
  split
  · rename_i h
    rw [h, get?_set_self]
  · rename_i h
    exact get?_set_ne h v

@[simp] theorem get?_erase_self (m : OrderedMap κ α) (k : κ) : (m.erase k).get? k = none := by
  rw [get?_eq_none_iff]
  simp [erase]

theorem get?_erase_ne {m : OrderedMap κ α} {k k' : κ} (h : k' ≠ k) :
    (m.erase k).get? k' = m.get? k' := by
  apply Option.ext
  intro a
  rw [← mem_entries_iff, ← mem_entries_iff, mem_entries_erase]
  simp [h]

theorem get?_erase (m : OrderedMap κ α) (k k' : κ) :
    (m.erase k).get? k' = if k' = k then none else m.get? k' := by
  split
  · rename_i h
    rw [h, get?_erase_self]
  · rename_i h
    exact get?_erase_ne h

theorem get?_mapValues {β : Type} (m : OrderedMap κ α) (f : κ → α → β) (k : κ) :
    (m.mapValues f).get? k = (m.get? k).map (f k) := by
  apply Option.ext
  intro b
  rw [← mem_entries_iff, Option.map_eq_some_iff]
  simp only [mapValues, List.mem_map, Prod.mk.injEq]
  constructor
  · rintro ⟨e, he, rfl, rfl⟩
    exact ⟨e.2, mem_entries_iff.mp he, rfl⟩
  · rintro ⟨a, ha, rfl⟩
    exact ⟨(k, a), mem_entries_iff.mpr ha, rfl, rfl⟩

theorem get?_of_erase {m : OrderedMap κ α} {k k' : κ} {a : α} (h : (m.erase k).get? k' = some a) :
    k' ≠ k ∧ m.get? k' = some a := by
  rw [get?_erase] at h
  split at h
  · cases h
  · exact ⟨‹_›, h⟩

theorem get?_filter (m : OrderedMap κ α) (p : α → Bool) (k : κ) :
    (m.filter p).get? k = (m.get? k).filter p := by
  apply Option.ext
  intro a
  rw [← mem_entries_iff, Option.filter_eq_some_iff]
  simp only [filter, List.mem_filter, mem_entries_iff]

theorem get?_of_filter {m : OrderedMap κ α} {p : α → Bool} {k : κ} {a : α} (h : (m.filter p).get? k = some a) :
    m.get? k = some a ∧ p a = true := by
  rwa [get?_filter, Option.filter_eq_some_iff] at h

theorem get?_of_perm {m : OrderedMap κ α} {l : List (κ × α)} (h : m.entries.Perm l) {k : κ} {v : α} :
    m.get? k = some v ↔ (k, v) ∈ l := by
  rw [← mem_entries_iff, h.mem_iff]

theorem perm_set_new {m : OrderedMap κ α} {l : List (κ × α)} {k : κ} (h : m.entries.Perm l)
    (hk : k ∉ l.map Prod.fst) (v : α) : (m.set k v).entries.Perm ((k, v) :: l) := by
  have hfresh : k ∉ m.entries.map Prod.fst := fun hmem => hk ((h.map _).mem_iff.mp hmem)
  simp only [set, dif_neg hfresh]
  exact (List.perm_append_singleton _ _).trans (h.cons _)

theorem overwrite_of_not_mem {k : κ} {v : α} {l : List (κ × α)} (h : k ∉ l.map Prod.fst) :
    overwrite k v l = l := by
  induction l with
  | nil => rfl
  | cons e l ih =>
    rw [List.map_cons, List.mem_cons, not_or] at h
    simp only [overwrite, List.map_cons, if_neg (Ne.symm h.1)]
    congr 1
    exact ih h.2

theorem perm_set_mem {m : OrderedMap κ α} {l : List (κ × α)} {k : κ} {a : α}
    (h : m.entries.Perm ((k, a) :: l)) (v : α) : (m.set k v).entries.Perm ((k, v) :: l) := by
  have hmem : k ∈ m.entries.map Prod.fst := by rw [(h.map _).mem_iff]; simp
  have hnodup : (((k, a) :: l).map Prod.fst).Nodup := (h.map _).nodup_iff.mp m.nodup
  rw [List.map_cons, List.nodup_cons] at hnodup
  simp only [set, dif_pos hmem]
  refine (h.map _).trans ?_
  simp only [List.map_cons, if_true]
  exact (List.Perm.refl _).cons _ |>.trans (by rw [← overwrite, overwrite_of_not_mem hnodup.1])

theorem entries_set_of_get? {m : OrderedMap κ α} {k : κ} {a : α} (h : m.get? k = some a) (v : α) :
    (m.set k v).entries = overwrite k v m.entries := by
  rw [set, dif_pos (mem_keys_iff.mpr ⟨a, h⟩)]

theorem entries_set_of_none {m : OrderedMap κ α} {k : κ} (h : m.get? k = none) (v : α) :
    (m.set k v).entries = m.entries ++ [(k, v)] := by
  rw [set, dif_neg (get?_eq_none_iff.mp h)]

theorem keys_set_of_get? {m : OrderedMap κ α} {k : κ} {a : α} (h : m.get? k = some a) (v : α) :
    (m.set k v).keys = m.keys := by
  rw [keys, entries_set_of_get? h, keys_overwrite, keys]

theorem keys_set_congr {β : Type} {m : OrderedMap κ α} {n : OrderedMap κ β} (h : m.keys = n.keys) {k : κ} {v : α} {w : β} :
    (m.set k v).keys = (n.set k w).keys := by
  have hmem : k ∈ m.entries.map Prod.fst ↔ k ∈ n.entries.map Prod.fst := by
    rw [← keys, ← keys, h]
  by_cases hk : k ∈ m.entries.map Prod.fst
  · rw [set, set, dif_pos hk, dif_pos (hmem.mp hk), keys, keys, keys_overwrite, keys_overwrite]
    exact h
  · rw [set, set, dif_neg hk, dif_neg (mt hmem.mpr hk), keys, keys, List.map_append, List.map_append]
    exact congrArg (· ++ [k]) h

theorem keys_erase (m : OrderedMap κ α) (k : κ) : (m.erase k).keys = m.keys.filter fun other => other ≠ k := by
  rw [keys, keys, List.filter_map]
  rfl

theorem keys_erase_congr {β : Type} {m : OrderedMap κ α} {n : OrderedMap κ β} (h : m.keys = n.keys) (k : κ) :
    (m.erase k).keys = (n.erase k).keys := by
  rw [keys_erase, keys_erase, h]

theorem perm_of_get? {m : OrderedMap κ α} {k : κ} {a : α} (h : m.get? k = some a) :
    ∃ l, m.entries.Perm ((k, a) :: l) := by
  obtain ⟨before, after, hsplit⟩ := List.append_of_mem (mem_entries_iff.mpr h)
  exact ⟨before ++ after, hsplit ▸ List.perm_middle⟩

theorem contains_set {m : OrderedMap κ α} {k k' : κ} {v : α} (h : m.contains k' = true) :
    (m.set k v).contains k' = true := by
  rw [contains, get?_set]
  split
  · rfl
  · exact h

theorem perm_erase {m : OrderedMap κ α} {l : List (κ × α)} {k : κ} {a : α}
    (h : m.entries.Perm ((k, a) :: l)) : (m.erase k).entries.Perm l := by
  have hnodup : (((k, a) :: l).map Prod.fst).Nodup := (h.map _).nodup_iff.mp m.nodup
  rw [List.map_cons, List.nodup_cons] at hnodup
  have hkeep : ∀ e ∈ l, e.1 ≠ k := by
    intro e he hk
    exact hnodup.1 (List.mem_map.mpr ⟨e, he, hk⟩)
  refine (h.filter _).trans ?_
  rw [List.filter_cons_of_neg (by simp), List.filter_eq_self.mpr (by simpa using hkeep)]

omit [DecidableEq κ] in
theorem values_perm {m : OrderedMap κ α} {l : List (κ × α)} (h : m.entries.Perm l) :
    m.values.Perm (l.map Prod.snd) :=
  h.map Prod.snd

theorem values_of_get? {m : OrderedMap κ α} {k : κ} {a : α} (h : m.get? k = some a) :
    ∃ others, m.values.Perm (a :: others) ∧ (∀ v, (m.set k v).values.Perm (v :: others)) ∧
      (m.erase k).values.Perm others := by
  obtain ⟨l, hperm⟩ := perm_of_get? h
  exact ⟨l.map Prod.snd, values_perm hperm, fun v => values_perm (perm_set_mem hperm v), values_perm (perm_erase hperm)⟩

theorem values_set_of_none {m : OrderedMap κ α} {k : κ} (h : m.get? k = none) (v : α) :
    (m.set k v).values.Perm (v :: m.values) :=
  values_perm (perm_set_new (List.Perm.refl _) (get?_eq_none_iff.mp h) v)

theorem exists_of_mem_values {m : OrderedMap κ α} {a : α} (h : a ∈ m.values) : ∃ k, m.get? k = some a := by
  obtain ⟨entry, hentry, rfl⟩ := List.mem_map.mp h
  exact ⟨entry.1, mem_entries_iff.mp hentry⟩

theorem entries_erase_oldest {m : OrderedMap κ α} {k : κ} {a : α} {rest : List (κ × α)}
    (h : m.entries = (k, a) :: rest) : (m.erase k).entries = rest := by
  have hnodup := m.nodup
  rw [h, List.map_cons, List.nodup_cons] at hnodup
  change m.entries.filter (fun e => e.1 ≠ k) = rest
  rw [h, List.filter_cons_of_neg (by simp), List.filter_eq_self]
  intro e he
  have hmem : e.1 ∈ rest.map Prod.fst := List.mem_map_of_mem he
  rw [decide_eq_true_eq]
  intro hsame
  exact hnodup.1 (hsame ▸ hmem)

theorem size_set_of_none {m : OrderedMap κ α} {k : κ} (h : m.get? k = none) (v : α) :
    (m.set k v).size = m.size + 1 := by
  rw [size, entries_set_of_none h, List.length_append, List.length_singleton, size]

theorem size_erase_of_get? {m : OrderedMap κ α} {k : κ} {a : α} (h : m.get? k = some a) :
    (m.erase k).size + 1 = m.size := by
  obtain ⟨l, hperm⟩ := perm_of_get? h
  rw [size_of_perm (perm_erase hperm), size_of_perm hperm, List.length_cons]

theorem countP_values_set (m : OrderedMap κ α) (k : κ) (v : α) (p : α → Bool) :
    (m.set k v).values.countP p + ((m.get? k).any p).toNat = m.values.countP p + (p v).toNat := by
  cases h : m.get? k with
  | none =>
    rw [(values_set_of_none h v).countP_eq, List.countP_cons]
    cases p v <;> rfl
  | some a =>
    obtain ⟨others, hvalues, hset, -⟩ := values_of_get? h
    rw [hvalues.countP_eq, (hset v).countP_eq, List.countP_cons, List.countP_cons, Option.any_some]
    cases p v <;> cases p a <;> simp

theorem countP_values_erase (m : OrderedMap κ α) (k : κ) (p : α → Bool) :
    (m.erase k).values.countP p + ((m.get? k).any p).toNat = m.values.countP p := by
  cases h : m.get? k with
  | none =>
    have hsame : m.erase k = m := by
      refine ext (List.filter_eq_self.mpr fun e he => ?_)
      rw [decide_eq_true_eq]
      exact fun hkey => get?_eq_none_iff.mp h (hkey ▸ List.mem_map_of_mem he)
    rw [hsame]
    rfl
  | some a =>
    obtain ⟨others, hvalues, -, herase⟩ := values_of_get? h
    rw [hvalues.countP_eq, herase.countP_eq, List.countP_cons, Option.any_some]
    cases p a <;> rfl

end OrderedMap

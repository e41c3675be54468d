import Mathlib.Data.List.Basic

namespace List

variable {α β : Type}

theorem getElem?_set_cases {l : List α} {n k : Nat} {next other : α} (h : (l.set n next)[k]? = some other) :
    (k = n ∧ other = next) ∨ (k ≠ n ∧ l[k]? = some other) := by
  rw [getElem?_set] at h
  by_cases hk : n = k
  · subst hk
    rw [if_pos rfl] at h
    split at h
    · cases h
      exact .inl ⟨rfl, rfl⟩
    · cases h
  · rw [if_neg hk] at h
    exact .inr ⟨Ne.symm hk, h⟩

theorem getElem?_set_same {l : List α} {n : Nat} {before : α} (h : l[n]? = some before) (next : α) :
    (l.set n next)[n]? = some next := by
  obtain ⟨hlt, -⟩ := getElem?_eq_some_iff.mp h
  rw [getElem?_set, if_pos rfl, if_pos hlt]

theorem getElem?_concat_cases {l : List α} {new other : α} {k : Nat} (h : (l ++ [new])[k]? = some other) :
    l[k]? = some other ∨ (k = l.length ∧ other = new) := by
  rw [getElem?_append] at h
  split at h
  · exact .inl h
  · obtain rfl := mem_singleton.mp (mem_of_getElem? h)
    obtain ⟨hlt, -⟩ := getElem?_eq_some_iff.mp h
    rw [length_singleton] at hlt
    exact .inr ⟨by omega, rfl⟩

theorem getElem?_concat_of_some {l : List α} {other : α} {k : Nat} (h : l[k]? = some other) (more : List α) :
    (l ++ more)[k]? = some other := by
  obtain ⟨hlt, -⟩ := getElem?_eq_some_iff.mp h
  rw [getElem?_append_left hlt, h]

theorem getElem?_concat_last (l : List α) (new : α) : (l ++ [new])[l.length]? = some new := by
  rw [getElem?_append_right (Nat.le_refl _), Nat.sub_self]
  rfl

theorem map_set_of_eq {l : List α} {n : Nat} {before next : α} {f : α → β} (h : l[n]? = some before)
    (hsame : f next = f before) : (l.set n next).map f = l.map f := by
  apply ext_getElem?
  intro i
  rw [getElem?_map, getElem?_map]
  by_cases hi : i = n
  · subst hi
    rw [getElem?_set_same h, h, Option.map_some, Option.map_some, hsame]
  · rw [getElem?_set_ne (Ne.symm hi)]

theorem countP_set_add {l : List α} {n : Nat} {before : α} (p : α → Bool) (h : l[n]? = some before) (next : α) :
    (l.set n next).countP p + (if p before then 1 else 0) = l.countP p + (if p next then 1 else 0) := by
  obtain ⟨hlt, hbefore⟩ := getElem?_eq_some_iff.mp h
  rw [countP_set hlt, hbefore]
  by_cases hp : p before = true
  · have hpos := countP_pos_iff.mpr ⟨before, mem_of_getElem? h, hp⟩
    rw [if_pos hp]
    omega
  · rw [if_neg hp]
    omega

end List

import Mathlib.Data.List.Chain
import Mathlib.Data.List.Nodup
import Mathlib.Data.Finset.Card
import Mathlib.Data.Finset.Dedup

namespace link_walk

variable {α κ : Type} (key : α → κ) (next : α → Option α)

/-- A walk along links that stops before a key it has seen. -/
structure Walk (α κ : Type) where
  current : Option α
  visited : List κ := []
  passed : List α := []

/-- The links from a start, each key once and as far as they lead. -/
structure Maximal (start : Option α) (passed : List α) : Prop where
  starts : passed.head? = start
  linked : passed.IsChain fun a b => next a = some b
  once : (passed.map key).Nodup
  ends : ∀ last, passed.getLast? = some last → ∀ a, next last = some a → key a ∈ passed.map key

/-- What a walk keeps: it has passed the links from its start up to the current one. -/
structure Underway (start : Option α) (walk : Walk α κ) : Prop where
  visited : walk.visited = walk.passed.map key
  linked : walk.passed.IsChain fun a b => next a = some b
  once : (walk.passed.map key).Nodup
  starts : walk.passed = [] → walk.current = start
  started : walk.passed ≠ [] → walk.passed.head? = start
  follows : ∀ last, walk.passed.getLast? = some last → walk.current = next last

variable {key next} {start : Option α}

theorem Maximal.not_append_cons {before more : List α} {b : α} (hshort : Maximal key next start before)
    (hlong : Maximal key next start (before ++ b :: more)) (hne : before ≠ []) : False := by
  have hlast := List.getLast?_eq_some_getLast hne
  have hlink := (List.isChain_append.mp hlong.linked).2.2 _ hlast b (by simp)
  have hseen := hshort.ends _ hlast b hlink
  have honce := hlong.once
  rw [List.map_append, List.map_cons] at honce
  exact (List.nodup_append.mp honce).2.2 _ hseen _ List.mem_cons_self rfl

theorem Maximal.eq_of_append {before rest more : List α} (hrest : Maximal key next start (before ++ rest))
    (hmore : Maximal key next start (before ++ more)) (hne : before ≠ []) : rest = more := by
  induction rest generalizing before more with
  | nil =>
    cases more with
    | nil => rfl
    | cons b more => exact (Maximal.not_append_cons (List.append_nil before ▸ hrest) hmore hne).elim
  | cons a rest ih =>
    cases more with
    | nil => exact (Maximal.not_append_cons (List.append_nil before ▸ hmore) hrest hne).elim
    | cons b more =>
      have hlast := List.getLast?_eq_some_getLast hne
      have hlink := (List.isChain_append.mp hrest.linked).2.2 _ hlast a (by simp)
      have hlink' := (List.isChain_append.mp hmore.linked).2.2 _ hlast b (by simp)
      have hsame : a = b := Option.some.inj (hlink.symm.trans hlink')
      subst hsame
      have htail : rest = more := by
        apply @ih (before ++ [a]) more
        · simpa using hrest
        · simpa using hmore
        · simp
      rw [htail]

theorem Maximal.unique {one other : List α} (hone : Maximal key next start one) (hother : Maximal key next start other) :
    one = other := by
  have hheads := hone.starts.trans hother.starts.symm
  cases one with
  | nil =>
    cases other with
    | nil => rfl
    | cons b more => simp at hheads
  | cons a rest =>
    cases other with
    | nil => simp at hheads
    | cons b more =>
      rw [List.head?_cons, List.head?_cons, Option.some.injEq] at hheads
      rw [hheads] at hone ⊢
      rw [@Maximal.eq_of_append _ _ _ _ _ [b] rest more hone hother (List.cons_ne_nil _ _)]

variable (key next) [DecidableEq κ]

/-- One pass of the loop; `none` where the loop ends. -/
def Walk.step (walk : Walk α κ) : Option (Walk α κ) :=
  match walk.current with
  | none => none
  | some a =>
    if key a ∈ walk.visited then none
    else some ⟨next a, walk.visited ++ [key a], walk.passed ++ [a]⟩

/-- At most the given number of passes. -/
def run : Nat → Walk α κ → Walk α κ
  | 0, walk => walk
  | passes + 1, walk =>
    match walk.step key next with
    | none => walk
    | some after => run passes after

variable {key next}

theorem Underway.step {walk after : Walk α κ} (h : Underway key next start walk)
    (hstep : walk.step key next = some after) : Underway key next start after := by
  rw [Walk.step] at hstep
  split at hstep
  · cases hstep
  rename_i a hcurrent
  split at hstep
  · cases hstep
  rename_i hfresh
  cases hstep
  refine ⟨?_, ?_, ?_, ?_, ?_, ?_⟩
  · simp [h.visited]
  · refine List.isChain_append.mpr ⟨h.linked, List.isChain_singleton a, ?_⟩
    intro last hlast first hfirst
    rw [List.head?_cons, Option.mem_some_iff] at hfirst
    rw [← h.follows last hlast, hcurrent, hfirst]
  · rw [List.map_append, List.map_singleton]
    exact List.nodup_append.mpr ⟨h.once, List.nodup_singleton _, by
      intro k hk l hl
      rw [List.mem_singleton.mp hl]
      rintro rfl
      exact hfresh (h.visited ▸ hk)⟩
  · intro hnil
    simp at hnil
  · intro _
    by_cases hempty : walk.passed = []
    · rw [hempty, ← h.starts hempty, hcurrent]
      rfl
    · rw [List.head?_append_of_ne_nil _ hempty]
      exact h.started hempty
  · intro last hlast
    rw [List.getLast?_concat, Option.some.injEq] at hlast
    rw [hlast]

theorem Underway.run {walk : Walk α κ} (h : Underway key next start walk) (passes : Nat) :
    Underway key next start (run key next passes walk) := by
  induction passes generalizing walk with
  | zero => exact h
  | succ passes ih =>
    rw [link_walk.run]
    split
    · exact h
    · rename_i after hstep
      exact ih (h.step hstep)

end link_walk

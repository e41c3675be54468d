import Mathlib.Logic.Basic

/-- What a fallible stateful operation establishes: `post` of its result and state, or `failed` of the state
    in which it threw. -/
def Outcome {ε σ α : Type} (op : EStateM ε σ α) (s : σ) (post : α → σ → Prop) (failed : σ → Prop) : Prop :=
  match op s with
  | .ok a after => post a after
  | .error _ after => failed after

namespace outcome

variable {ε σ α β : Type} {post : α → σ → Prop} {failed : σ → Prop}

theorem ok {op : EStateM ε σ α} {s after : σ} {a : α} (h : Outcome op s post failed) (hop : op s = .ok a after) :
    post a after := by
  rw [Outcome, hop] at h
  exact h

theorem error {op : EStateM ε σ α} {s after : σ} {e : ε} (h : Outcome op s post failed)
    (hop : op s = .error e after) : failed after := by
  rw [Outcome, hop] at h
  exact h

theorem mono {op : EStateM ε σ α} {s : σ} {post' : α → σ → Prop} {failed' : σ → Prop}
    (h : Outcome op s post failed) (hpost : ∀ a after, post a after → post' a after)
    (hfailed : ∀ after, failed after → failed' after) : Outcome op s post' failed' := by
  unfold Outcome at *
  cases hop : op s with
  | ok a after =>
    rw [hop] at h
    exact hpost a after h
  | error e after =>
    rw [hop] at h
    exact hfailed after h

theorem of_forall {op : EStateM ε σ α} {s : σ} (hpost : ∀ a after, post a after) (hfailed : ∀ after, failed after) :
    Outcome op s post failed := by
  unfold Outcome
  cases op s with
  | ok a after => exact hpost a after
  | error e after => exact hfailed after

@[simp] theorem pure_iff (a : α) (s : σ) : Outcome (pure a : EStateM ε σ α) s post failed ↔ post a s :=
  Iff.rfl

@[simp] theorem throw_iff (e : ε) (s : σ) : Outcome (throw e : EStateM ε σ α) s post failed ↔ failed s :=
  Iff.rfl

@[simp] theorem bind_iff (op : EStateM ε σ β) (next : β → EStateM ε σ α) (s : σ) :
    Outcome (op >>= next) s post failed ↔
      Outcome op s (fun b after => Outcome (next b) after post failed) failed := by
  unfold Outcome
  change (match EStateM.bind op next s with
    | .ok a after => post a after
    | .error _ after => failed after) ↔ _
  unfold EStateM.bind
  cases op s with
  | ok b after => exact Iff.rfl
  | error e after => exact Iff.rfl

@[simp] theorem get_iff {post : σ → σ → Prop} (s : σ) :
    Outcome (get : EStateM ε σ σ) s post failed ↔ post s s :=
  Iff.rfl

@[simp] theorem modify_iff {post : PUnit → σ → Prop} (f : σ → σ) (s : σ) :
    Outcome (modify f : EStateM ε σ PUnit) s post failed ↔ post ⟨⟩ (f s) :=
  Iff.rfl

theorem bind {op : EStateM ε σ β} {next : β → EStateM ε σ α} {s : σ} {mid : β → σ → Prop}
    {midFailed : σ → Prop} (hop : Outcome op s mid midFailed) (hfailed : ∀ after, midFailed after → failed after)
    (hnext : ∀ b after, mid b after → Outcome (next b) after post failed) :
    Outcome (op >>= next) s post failed := by
  rw [bind_iff]
  exact mono hop hnext hfailed

theorem ite_iff {c : Prop} [Decidable c] (x y : EStateM ε σ α) (s : σ) :
    Outcome (if c then x else y) s post failed ↔
      (c → Outcome x s post failed) ∧ (¬c → Outcome y s post failed) := by
  by_cases hc : c
  · simp [hc]
  · simp [hc]

theorem guard_iff {c : Prop} [Decidable c] (e : ε) (next : β → EStateM ε σ α) (rest : EStateM ε σ α) (s : σ) :
    Outcome (if c then throw e >>= next else rest) s post failed ↔
      (c → failed s) ∧ (¬c → Outcome rest s post failed) := by
  rw [ite_iff, bind_iff, throw_iff]

end outcome

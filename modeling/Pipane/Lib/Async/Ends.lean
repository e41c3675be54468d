import Pipane.Lib.Async.Rely

namespace async

section

variable {σ ω ε α β : Type} [Evolving σ]

/-- How an uninterrupted computation ends, whatever it does to the state on the way. -/
def Atomic.Ends (block : Atomic σ ε α) (Q : Except ε α → σ → Prop) (s : σ) : Prop :=
  Q (block.run s).1 (block.run s).2

namespace Atomic

theorem Ends.mono {block : Atomic σ ε α} {R Q : Except ε α → σ → Prop} {s : σ} (h : block.Ends R s)
    (hQ : ∀ result t, R result t → Q result t) : block.Ends Q s :=
  hQ _ _ h

theorem Ends.seq {first : Atomic σ ε α} {next : α → Atomic σ ε β} {Q : Except ε β → σ → Prop} {s t : σ} {value : α}
    (hrun : first.run s = (.ok value, t)) (hnext : (next value).Ends Q t) : (first >>= next).Ends Q s := by
  rw [Ends, run_bind, hrun]
  exact hnext

theorem Ends.bind {first : Atomic σ ε α} {next : α → Atomic σ ε β} {R : Except ε α → σ → Prop}
    {Q : Except ε β → σ → Prop} {s : σ} (hfirst : first.Ends R s)
    (hok : ∀ value t, R (.ok value) t → (next value).Ends Q t)
    (herror : ∀ error t, R (.error error) t → Q (.error error) t) : (first >>= next).Ends Q s := by
  rw [Ends] at hfirst
  rw [Ends, run_bind]
  cases hrun : first.run s with
  | mk result t =>
    rw [hrun] at hfirst
    cases result with
    | ok value => exact hok value t hfirst
    | error error => exact herror error t hfirst

theorem Ends.tryCatch {body : Atomic σ ε α} {handler : ε → Atomic σ ε α} {R Q : Except ε α → σ → Prop} {s : σ}
    (hbody : body.Ends R s) (hok : ∀ value t, R (.ok value) t → Q (.ok value) t)
    (herror : ∀ error t, R (.error error) t → (handler error).Ends Q t) : (tryCatch body handler).Ends Q s := by
  rw [Ends] at hbody
  rw [Ends, run_tryCatch]
  cases hrun : body.run s with
  | mk result t =>
    rw [hrun] at hbody
    cases result with
    | ok value => exact hok value t hbody
    | error error => exact herror error t hbody

variable {d : Discipline σ ω} {n : Nat}

theorem Ends.spec {block : Atomic σ ε α} {R Q : Except ε α → σ → Prop} {s : σ} (h : block.Ends R s)
    (hkeeps : ∀ result t, d.Assume t → Evolves s t → R result t →
      d.Inv t ∧ (∀ other, other ≠ n → d.Rely other s t) ∧ Q result t) : block.Spec d n Q s :=
  fun hassume => hkeeps _ _ hassume (block.evolves s) h

theorem Spec.seq {first : Atomic σ ε α} {next : α → Atomic σ ε β} {Q : Except ε β → σ → Prop} {s t : σ} {value : α}
    (hrun : first.run s = (.ok value, t)) (hrely : ∀ other, other ≠ n → d.Rely other s t)
    (hnext : (next value).Spec d n Q t) : (first >>= next).Spec d n Q s := by
  rw [Spec, run_bind, hrun]
  intro hassume
  obtain ⟨hinv, hlater, hQ⟩ := hnext hassume
  exact ⟨hinv, fun other hne => d.rely_trans (hrely other hne) (hlater other hne), hQ⟩

theorem Spec.read {first : Atomic σ ε α} {next : α → Atomic σ ε β} {Q : Except ε β → σ → Prop} {s : σ} {value : α}
    (hrun : first.run s = (.ok value, s)) (hnext : (next value).Spec d n Q s) : (first >>= next).Spec d n Q s :=
  Spec.seq hrun (fun other _ => d.rely_refl other s) hnext

end Atomic

namespace Coroutine

variable {d : Discipline σ ω} {n : Nat}

theorem Safe.liftBind {block : Atomic σ ε α} {next : α → Coroutine σ ω ε β} {R : Except ε α → σ → Prop}
    {Q : Except ε β → σ → Prop} {s : σ} (hblock : block.Spec d n R s) (hinv : d.Inv s)
    (hok : ∀ value t, d.Inv t → d.Assume t → Evolves s t → R (.ok value) t → (next value).Safe d n Q t)
    (herror : ∀ error t, d.Inv t → d.Assume t → Evolves s t → R (.error error) t → Q (.error error) t) :
    (Coroutine.lift block >>= next).Safe d n Q s :=
  Safe.bind (Safe.lift hblock) (fun _ => hinv) hok herror

theorem Safe.seq {block : Atomic σ ε α} {next : α → Coroutine σ ω ε β} {Q : Except ε β → σ → Prop} {s t : σ} {value : α}
    (hrun : block.run s = (.ok value, t)) (hinv : d.Inv t) (hrely : ∀ other, other ≠ n → d.Rely other s t)
    (hnext : (next value).Safe d n Q t) : (Coroutine.lift block >>= next).Safe d n Q s := by
  change (Coroutine.bind (Coroutine.lift block) next).Safe d n Q s
  simp only [Coroutine.lift, Coroutine.bind, hrun, Coroutine.ofExcept, Coroutine.Safe]
  exact ⟨fun _ => ⟨hinv, hrely⟩, hnext⟩

theorem Safe.wait {wait : ω} {next : Unit → Coroutine σ ω ε β} {Q : Except ε β → σ → Prop} {s : σ}
    (hnext : ∀ t, Evolves s t → d.Rely n s t → d.Inv t → d.Assume t → d.ready n wait t = true →
      (next ()).Safe d n Q t) : (Coroutine.suspend wait >>= next).Safe d n Q s :=
  hnext

theorem Safe.read {block : Atomic σ ε α} {next : α → Coroutine σ ω ε β} {Q : Except ε β → σ → Prop} {s : σ} {value : α}
    (hrun : block.run s = (.ok value, s)) (hinv : d.Inv s) (hnext : (next value).Safe d n Q s) :
    (Coroutine.lift block >>= next).Safe d n Q s :=
  Safe.seq hrun hinv (fun other _ => d.rely_refl other s) hnext

end Coroutine

end

end async

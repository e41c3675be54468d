import Pipane.Lib.Async
import Pipane.Lib.ListLookup

open transition

namespace async

/-- What the threads of a system promise each other: an invariant, and what a thread that waits can rely on.
    `Assume` is a condition on the run that no step restores, and `Idle` says that the state knows nothing of a
    thread. -/
structure Discipline (σ : Type) [Evolving σ] (ω : Type) where
  ready : Nat → ω → σ → Bool
  Inv : σ → Prop
  Rely : Nat → σ → σ → Prop
  Assume : σ → Prop
  Idle : Nat → σ → Prop
  rely_refl : ∀ n s, Rely n s s
  rely_trans : ∀ {n s t u}, Rely n s t → Rely n t u → Rely n s u
  assume_of_evolves : ∀ {s t}, Evolves s t → Assume t → Assume s
  idle_of_rely : ∀ {n s t}, Rely n s t → Idle n s → Idle n t

section

variable {σ ω ε α β : Type} [Evolving σ] (d : Discipline σ ω) (n : Nat)

/-- An uninterrupted computation of thread `n` keeps the promises and ends in `Q`. -/
def Atomic.Spec (block : Atomic σ ε α) (Q : Except ε α → σ → Prop) (s : σ) : Prop :=
  d.Assume (block.run s).2 →
    d.Inv (block.run s).2 ∧ (∀ other, other ≠ n → d.Rely other s (block.run s).2) ∧ Q (block.run s).1 (block.run s).2

/-- From state `s` on thread `n` keeps the promises, and where it ends `Q` holds. -/
def Coroutine.Safe : Coroutine σ ω ε α → (Except ε α → σ → Prop) → σ → Prop
  | .pure value, Q, s => d.Assume s → Q (.ok value) s
  | .throw error, Q, s => d.Assume s → Q (.error error) s
  | .step action _ next, Q, s =>
    (d.Assume (action s) → d.Inv (action s) ∧ ∀ other, other ≠ n → d.Rely other s (action s)) ∧
      (next s).Safe Q (action s)
  | .await wait next, Q, s => ∀ t, Evolves s t → d.Rely n s t → d.Inv t → d.Assume t → d.ready n wait t = true →
    next.Safe Q t

variable {d : Discipline σ ω} {n : Nat}

namespace Atomic

theorem Spec.bind {first : Atomic σ ε α} {next : α → Atomic σ ε β} {R : Except ε α → σ → Prop}
    {Q : Except ε β → σ → Prop} {s : σ} (hfirst : first.Spec d n R s)
    (hok : ∀ value t, d.Inv t → d.Assume t → Evolves s t → R (.ok value) t → (next value).Spec d n Q t)
    (herror : ∀ error t, d.Inv t → d.Assume t → Evolves s t → R (.error error) t → Q (.error error) t) :
    (first >>= next).Spec d n Q s := by
  have hevolves := first.evolves s
  rw [Spec, run_bind]
  rw [Spec] at hfirst
  cases hrun : first.run s with
  | mk result t =>
    rw [hrun] at hfirst hevolves
    cases result with
    | error error =>
      intro hassume
      obtain ⟨hinv, hrely, hR⟩ := hfirst hassume
      exact ⟨hinv, hrely, herror error t hinv hassume hevolves hR⟩
    | ok value =>
      intro hassume
      have hbefore := d.assume_of_evolves ((next value).evolves t) hassume
      obtain ⟨hinv, hrely, hR⟩ := hfirst hbefore
      obtain ⟨hlast, hrelyLast, hQ⟩ := hok value t hinv hbefore hevolves hR hassume
      exact ⟨hlast, fun other hne => d.rely_trans (hrely other hne) (hrelyLast other hne), hQ⟩

theorem Spec.pure {value : α} {Q : Except ε α → σ → Prop} {s : σ} (hinv : d.Inv s) (hQ : d.Assume s → Q (.ok value) s) :
    (pure value : Atomic σ ε α).Spec d n Q s :=
  fun hassume => ⟨hinv, fun other _ => d.rely_refl other s, hQ hassume⟩

theorem Spec.throw {error : ε} {Q : Except ε α → σ → Prop} {s : σ} (hinv : d.Inv s)
    (hQ : d.Assume s → Q (.error error) s) : (throw error : Atomic σ ε α).Spec d n Q s :=
  fun hassume => ⟨hinv, fun other _ => d.rely_refl other s, hQ hassume⟩

theorem Spec.mono {block : Atomic σ ε α} {R Q : Except ε α → σ → Prop} {s : σ} (h : block.Spec d n R s)
    (hQ : ∀ result t, d.Inv t → d.Assume t → Evolves s t → R result t → Q result t) : block.Spec d n Q s := by
  intro hassume
  obtain ⟨hinv, hrely, hR⟩ := h hassume
  exact ⟨hinv, hrely, hQ _ _ hinv hassume (block.evolves s) hR⟩

end Atomic

namespace Coroutine

theorem safe_of_not_assume (task : Coroutine σ ω ε α) {Q : Except ε α → σ → Prop} {s : σ} (h : ¬ d.Assume s) :
    task.Safe d n Q s := by
  induction task generalizing s with
  | pure value => exact fun hassume => absurd hassume h
  | throw error => exact fun hassume => absurd hassume h
  | step action evolves next ih =>
    have hnext : ¬ d.Assume (action s) := fun hassume => h (d.assume_of_evolves (evolves s) hassume)
    exact ⟨fun hassume => absurd hassume hnext, ih s hnext⟩
  | await wait next ih =>
    exact fun t hevolves _ _ hassume => absurd (d.assume_of_evolves hevolves hassume) h

theorem Safe.mono {task : Coroutine σ ω ε α} {R Q : Except ε α → σ → Prop} {s : σ} (h : task.Safe d n R s)
    (hinv : d.Assume s → d.Inv s)
    (hQ : ∀ result t, d.Inv t → d.Assume t → Evolves s t → R result t → Q result t) : task.Safe d n Q s := by
  induction task generalizing s with
  | pure value => exact fun hassume => hQ _ s (hinv hassume) hassume (Evolving.refl s) (h hassume)
  | throw error => exact fun hassume => hQ _ s (hinv hassume) hassume (Evolving.refl s) (h hassume)
  | step action evolves next ih =>
    exact ⟨h.1, ih s h.2 (fun hassume => (h.1 hassume).1) fun result t ht hassume hevolves =>
      hQ result t ht hassume (Evolving.trans (evolves s) hevolves)⟩
  | await wait next ih =>
    intro t hevolves hrely ht hassume hready
    exact ih (h t hevolves hrely ht hassume hready) (fun _ => ht) fun result u hu hassume hlater =>
      hQ result u hu hassume (Evolving.trans hevolves hlater)

theorem Safe.bind {first : Coroutine σ ω ε α} {next : α → Coroutine σ ω ε β} {R : Except ε α → σ → Prop}
    {Q : Except ε β → σ → Prop} {s : σ} (hfirst : first.Safe d n R s) (hinv : d.Assume s → d.Inv s)
    (hok : ∀ value t, d.Inv t → d.Assume t → Evolves s t → R (.ok value) t → (next value).Safe d n Q t)
    (herror : ∀ error t, d.Inv t → d.Assume t → Evolves s t → R (.error error) t → Q (.error error) t) :
    (first >>= next).Safe d n Q s := by
  change (first.bind next).Safe d n Q s
  induction first generalizing s with
  | pure value =>
    by_cases hassume : d.Assume s
    · exact hok value s (hinv hassume) hassume (Evolving.refl s) (hfirst hassume)
    · exact safe_of_not_assume _ hassume
  | throw error => exact fun hassume => herror error s (hinv hassume) hassume (Evolving.refl s) (hfirst hassume)
  | step action evolves rest ih =>
    refine ⟨hfirst.1, ih s hfirst.2 (fun hassume => (hfirst.1 hassume).1) ?_ ?_⟩
    · exact fun value t ht hassume hevolves => hok value t ht hassume (Evolving.trans (evolves s) hevolves)
    · exact fun error t ht hassume hevolves => herror error t ht hassume (Evolving.trans (evolves s) hevolves)
  | await wait rest ih =>
    intro t hevolves hrely ht hassume hready
    refine ih (hfirst t hevolves hrely ht hassume hready) (fun _ => ht) ?_ ?_
    · exact fun value u hu hassume hlater => hok value u hu hassume (Evolving.trans hevolves hlater)
    · exact fun error u hu hassume hlater => herror error u hu hassume (Evolving.trans hevolves hlater)

theorem Safe.tryCatch {body : Coroutine σ ω ε α} {handler : ε → Coroutine σ ω ε α} {R Q : Except ε α → σ → Prop}
    {s : σ} (hbody : body.Safe d n R s) (hinv : d.Assume s → d.Inv s)
    (hok : ∀ value t, d.Inv t → d.Assume t → Evolves s t → R (.ok value) t → Q (.ok value) t)
    (herror : ∀ error t, d.Inv t → d.Assume t → Evolves s t → R (.error error) t → (handler error).Safe d n Q t) :
    (tryCatch body handler : Coroutine σ ω ε α).Safe d n Q s := by
  change (body.tryCatch handler).Safe d n Q s
  induction body generalizing s with
  | pure value => exact fun hassume => hok value s (hinv hassume) hassume (Evolving.refl s) (hbody hassume)
  | throw error =>
    by_cases hassume : d.Assume s
    · exact herror error s (hinv hassume) hassume (Evolving.refl s) (hbody hassume)
    · exact safe_of_not_assume _ hassume
  | step action evolves rest ih =>
    refine ⟨hbody.1, ih s hbody.2 (fun hassume => (hbody.1 hassume).1) ?_ ?_⟩
    · exact fun value t ht hassume hevolves => hok value t ht hassume (Evolving.trans (evolves s) hevolves)
    · exact fun error t ht hassume hevolves => herror error t ht hassume (Evolving.trans (evolves s) hevolves)
  | await wait rest ih =>
    intro t hevolves hrely ht hassume hready
    refine ih (hbody t hevolves hrely ht hassume hready) (fun _ => ht) ?_ ?_
    · exact fun value u hu hassume hlater => hok value u hu hassume (Evolving.trans hevolves hlater)
    · exact fun error u hu hassume hlater => herror error u hu hassume (Evolving.trans hevolves hlater)

theorem Safe.pure {value : α} {Q : Except ε α → σ → Prop} {s : σ} (hQ : d.Assume s → Q (.ok value) s) :
    (Pure.pure value : Coroutine σ ω ε α).Safe d n Q s :=
  hQ

theorem Safe.throw {error : ε} {Q : Except ε α → σ → Prop} {s : σ} (hQ : d.Assume s → Q (.error error) s) :
    (throw error : Coroutine σ ω ε α).Safe d n Q s :=
  hQ

theorem Safe.ofExcept {result : Except ε α} {Q : Except ε α → σ → Prop} {s : σ} (hQ : d.Assume s → Q result s) :
    (ofExcept result : Coroutine σ ω ε α).Safe d n Q s := by
  cases result <;> exact hQ

theorem Safe.lift {block : Atomic σ ε α} {Q : Except ε α → σ → Prop} {s : σ} (h : block.Spec d n Q s) :
    (Coroutine.lift block : Coroutine σ ω ε α).Safe d n Q s :=
  ⟨fun hassume => ⟨(h hassume).1, (h hassume).2.1⟩, Safe.ofExcept fun hassume => (h hassume).2.2⟩

theorem Safe.attempt {body : Coroutine σ ω ε α} {Q : Except ε (Except ε α) → σ → Prop} {s : σ}
    (h : body.Safe d n (fun result => Q (.ok result)) s) (hinv : d.Assume s → d.Inv s) : body.attempt.Safe d n Q s := by
  refine Safe.tryCatch (R := fun (result : Except ε (Except ε α)) t => match result with
    | .ok value => Q (.ok value) t
    | .error error => Q (.ok (.error error)) t) ?_ hinv (fun _ _ _ _ _ hQ => hQ) fun _ _ _ _ _ hQ => Safe.pure fun _ => hQ
  exact Safe.bind h hinv (fun _ _ _ _ _ hQ _ => hQ) fun _ _ _ _ _ hQ => hQ

theorem Safe.finallyDo {body : Coroutine σ ω ε α} {cleanup : Coroutine σ ω ε Unit} {R Q : Except ε α → σ → Prop} {s : σ}
    (hbody : body.Safe d n R s) (hinv : d.Assume s → d.Inv s)
    (hcleanup : ∀ result t, d.Inv t → d.Assume t → Evolves s t → R result t →
      cleanup.Safe d n (fun done u => match done with
        | .ok _ => Q result u
        | .error error => Q (.error error) u) t) :
    (body.finallyDo cleanup).Safe d n Q s := by
  refine Safe.bind (R := fun (result : Except ε (Except ε α)) t => match result with
    | .ok result => R result t
    | .error _ => False) (Safe.attempt hbody hinv) hinv ?_ fun _ _ _ _ _ hR => hR.elim
  intro result t ht hassume hevolves hR
  refine Safe.bind (hcleanup result t ht hassume hevolves hR) (fun _ => ht) ?_ fun _ _ _ _ _ hQ => hQ
  exact fun _ _ _ _ _ hQ => Safe.ofExcept fun _ => hQ

theorem evolves_advance (task : Coroutine σ ω ε Unit) (s : σ) : Evolves s (task.advance s).2 := by
  induction task generalizing s with
  | pure value => exact Evolving.refl s
  | throw error => exact Evolving.refl s
  | await wait next ih => exact Evolving.refl s
  | step action evolves next ih => exact Evolving.trans (evolves s) (ih s (action s))

/-- A thread keeps the promises up to its next wait, and after it under what it relies on. -/
theorem Safe.advance {task : Coroutine σ ω ε Unit} {Q : Except ε Unit → σ → Prop} {s : σ} (h : task.Safe d n Q s)
    (hinv : d.Assume s → d.Inv s) (hassume : d.Assume (task.advance s).2) :
    d.Inv (task.advance s).2 ∧ (∀ other, other ≠ n → d.Rely other s (task.advance s).2) ∧
      ∀ wait next, (task.advance s).1 = .waiting wait next → (Coroutine.await wait next).Safe d n Q (task.advance s).2 := by
  induction task generalizing s with
  | pure value => exact ⟨hinv hassume, fun other _ => d.rely_refl other s, fun _ _ heq => by cases heq⟩
  | throw error => exact ⟨hinv hassume, fun other _ => d.rely_refl other s, fun _ _ heq => by cases heq⟩
  | await wait next ih =>
    refine ⟨hinv hassume, fun other _ => d.rely_refl other s, fun _ _ heq => ?_⟩
    cases heq
    exact h
  | step action evolves next ih =>
    have hbefore := d.assume_of_evolves (evolves_advance (next s) (action s)) hassume
    obtain ⟨hlast, hrelyLast, hwaiting⟩ := ih s h.2 (fun _ => (h.1 hbefore).1) hassume
    exact ⟨hlast, fun other hne => d.rely_trans ((h.1 hbefore).2 other hne) (hrelyLast other hne), hwaiting⟩

end Coroutine

end

section

variable {σ ω ε ι η : Type} [Evolving σ] {program : Program σ ω ε ι η}

theorem Scheduler.evolves_step (self : Scheduler σ ω ε) (event : Event ι η) :
    Evolves self.state (self.step program event).state := by
  cases event with
  | start input => exact Coroutine.evolves_advance _ _
  | resume n =>
    simp only [Scheduler.step]
    split
    · split
      · exact Coroutine.evolves_advance _ _
      · exact Evolving.refl _
    · exact Evolving.refl _
  | environment event => exact program.environment_evolves _ _

theorem Scheduler.evolves_run (self : Scheduler σ ω ε) (events : List (Event ι η)) :
    Evolves self.state (run (Scheduler.step program) self events).state := by
  induction events using List.reverseRecOn with
  | nil => exact Evolving.refl _
  | append_singleton events event ih =>
    rw [run_snoc]
    exact Evolving.trans ih (Scheduler.evolves_step _ _)

/-- Every part of a program keeps the promises of a discipline. -/
structure Keeps (program : Program σ ω ε ι η) (d : Discipline σ ω) : Prop where
  ready : program.ready = d.ready
  body : ∀ input n s, d.Inv s → d.Assume s → d.Idle n s →
    (program.body input n).Safe d n (fun _ _ => True) s
  environment : ∀ s event, d.Inv s → d.Assume (program.environment s event) →
    d.Inv (program.environment s event) ∧ ∀ n, d.Rely n s (program.environment s event)

/-- The invariant holds, and each thread is safe from here on. -/
structure Good (d : Discipline σ ω) (scheduler : Scheduler σ ω ε) : Prop where
  inv : d.Inv scheduler.state
  waiting : ∀ (n : Nat) (wait : ω) (next : Coroutine σ ω ε Unit), scheduler.threads[n]? = some (.waiting wait next) →
    (Coroutine.await wait next).Safe d n (fun _ _ => True) scheduler.state
  idle : ∀ n, scheduler.threads.length ≤ n → d.Idle n scheduler.state

variable {d : Discipline σ ω}

theorem Safe.of_rely {n : Nat} {s t : σ} {wait : ω} {next : Coroutine σ ω ε Unit} {Q : Except ε Unit → σ → Prop}
    (h : (Coroutine.await wait next).Safe d n Q s) (hevolves : Evolves s t) (hrely : d.Rely n s t) :
    (Coroutine.await wait next).Safe d n Q t :=
  fun u hlater hrelyLater => h u (Evolving.trans hevolves hlater) (d.rely_trans hrely hrelyLater)

theorem Good.step {self : Scheduler σ ω ε} (h : Good d self) (hkeeps : Keeps program d) (event : Event ι η)
    (hassume : d.Assume (self.step program event).state) :
    Good d (self.step program event) := by
  have hbefore := d.assume_of_evolves (Scheduler.evolves_step self event) hassume
  cases event with
  | start input =>
    have hsafe := hkeeps.body input self.threads.length self.state h.inv hbefore (h.idle _ (Nat.le_refl _))
    obtain ⟨hinv, hrely, hwaiting⟩ := hsafe.advance (fun _ => h.inv) hassume
    have hevolves := Coroutine.evolves_advance (program.body input self.threads.length) self.state
    refine ⟨hinv, ?_, ?_⟩
    · intro n wait next hthread
      obtain hold | ⟨rfl, hnew⟩ := List.getElem?_concat_cases hthread
      · obtain ⟨hlt, -⟩ := List.getElem?_eq_some_iff.mp hold
        exact Safe.of_rely (h.waiting n wait next hold) hevolves (hrely n (by omega))
      · exact hwaiting wait next hnew.symm
    · intro n hn
      rw [Scheduler.step, List.length_append, List.length_singleton] at hn
      exact d.idle_of_rely (hrely n (by omega)) (h.idle n (by omega))
  | resume n =>
    cases hthread : self.threads[n]? with
    | none =>
      simp only [Scheduler.step, hthread]
      exact h
    | some thread =>
      cases thread with
      | finished result =>
        simp only [Scheduler.step, hthread]
        exact h
      | waiting wait next =>
        simp only [Scheduler.step, hthread] at hassume ⊢
        by_cases hready : program.ready n wait self.state = true
        · rw [if_pos hready] at hassume ⊢
          rw [hkeeps.ready] at hready
          have hsafe := h.waiting n wait next hthread self.state (Evolving.refl _) (d.rely_refl _ _) h.inv hbefore hready
          obtain ⟨hinv, hrely, hwaiting⟩ := hsafe.advance (fun _ => h.inv) hassume
          refine ⟨hinv, ?_, ?_⟩
          · intro m later rest hlater
            obtain ⟨rfl, heq⟩ | ⟨hne, hold⟩ := List.getElem?_set_cases hlater
            · exact hwaiting later rest heq.symm
            · exact Safe.of_rely (h.waiting m later rest hold) (Coroutine.evolves_advance _ _) (hrely m hne)
          · intro m hm
            rw [List.length_set] at hm
            obtain ⟨hlt, -⟩ := List.getElem?_eq_some_iff.mp hthread
            exact d.idle_of_rely (hrely m (by omega)) (h.idle m hm)
        · rw [if_neg hready]
          exact h
  | environment event =>
    obtain ⟨hinv, hrely⟩ := hkeeps.environment self.state event h.inv hassume
    exact ⟨hinv, fun n wait next hthread =>
        Safe.of_rely (h.waiting n wait next hthread) (program.environment_evolves _ _) (hrely n),
      fun n hn => d.idle_of_rely (hrely n) (h.idle n hn)⟩

theorem inv_of_keeps (hkeeps : Keeps program d) {s : σ} (hstart : d.Inv s) (hidle : ∀ n, d.Idle n s)
    {events : List (Event ι η)}
    (hassume : d.Assume (run (Scheduler.step program) (Scheduler.start s) events).state) :
    d.Inv (run (Scheduler.step program) (Scheduler.start s) events).state := by
  have hgood : Good d (run (Scheduler.step program) (Scheduler.start s) events) := by
    induction events using List.reverseRecOn with
    | nil => exact ⟨hstart, fun n wait next hthread => (by cases hthread), fun n _ => hidle n⟩
    | append_singleton events event ih =>
      rw [run_snoc] at hassume ⊢
      have hbefore := d.assume_of_evolves (Scheduler.evolves_step _ event) hassume
      exact (ih hbefore).step hkeeps event hassume
  exact hgood.inv

end

end async

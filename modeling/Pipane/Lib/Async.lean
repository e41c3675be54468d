import Pipane.Lib.Transition

namespace async

/-- The states of a system, with a relation that each of its steps keeps. -/
class Evolving (σ : Type) where
  Evolves : σ → σ → Prop
  refl : ∀ s, Evolves s s
  trans : ∀ {s t u}, Evolves s t → Evolves t u → Evolves s u

export Evolving (Evolves)

/-- A computation on the state that nothing interrupts and that may throw. -/
structure Atomic (σ : Type) [Evolving σ] (ε α : Type) where
  run : σ → Except ε α × σ
  evolves : ∀ s, Evolves s (run s).2

/-- A computation that runs without interruption up to the next point where it waits. -/
inductive Coroutine (σ : Type) [Evolving σ] (ω ε α : Type)
  | pure (value : α)
  | throw (error : ε)
  | step (action : σ → σ) (evolves : ∀ s, Evolves s (action s)) (next : σ → Coroutine σ ω ε α)
  | await (wait : ω) (next : Coroutine σ ω ε α)

section

variable {σ ω ε α β : Type} [Evolving σ]

namespace Atomic

protected def pure (value : α) : Atomic σ ε α where
  run s := (.ok value, s)
  evolves := Evolving.refl

protected def throw (error : ε) : Atomic σ ε α where
  run s := (.error error, s)
  evolves := Evolving.refl

protected def bind (first : Atomic σ ε α) (next : α → Atomic σ ε β) : Atomic σ ε β where
  run s :=
    match first.run s with
    | (.ok value, t) => (next value).run t
    | (.error error, t) => (.error error, t)
  evolves s := by
    have hfirst := first.evolves s
    cases hrun : first.run s with
    | mk result t =>
      rw [hrun] at hfirst
      cases result with
      | ok value => exact Evolving.trans hfirst ((next value).evolves t)
      | error error => exact hfirst

protected def tryCatch (body : Atomic σ ε α) (handler : ε → Atomic σ ε α) : Atomic σ ε α where
  run s :=
    match body.run s with
    | (.ok value, t) => (.ok value, t)
    | (.error error, t) => (handler error).run t
  evolves s := by
    have hbody := body.evolves s
    cases hrun : body.run s with
    | mk result t =>
      rw [hrun] at hbody
      cases result with
      | ok value => exact hbody
      | error error => exact Evolving.trans hbody ((handler error).evolves t)

/-- The state that the computation meets. -/
protected def get : Atomic σ ε σ where
  run s := (.ok s, s)
  evolves := Evolving.refl

/-- A change of the state. -/
def modify (action : σ → σ) (evolves : ∀ s, Evolves s (action s)) : Atomic σ ε Unit where
  run s := (.ok (), action s)
  evolves := evolves

instance : Monad (Atomic σ ε) where
  pure := Atomic.pure
  bind := Atomic.bind

instance : MonadExceptOf ε (Atomic σ ε) where
  throw := Atomic.throw
  tryCatch := Atomic.tryCatch

@[simp] theorem run_pure (value : α) (s : σ) : (pure value : Atomic σ ε α).run s = (.ok value, s) := rfl

@[simp] theorem run_throw (error : ε) (s : σ) : (throw error : Atomic σ ε α).run s = (.error error, s) := rfl

@[simp] theorem run_get (s : σ) : (Atomic.get : Atomic σ ε σ).run s = (.ok s, s) := rfl

@[simp] theorem run_modify (action : σ → σ) (evolves : ∀ s, Evolves s (action s)) (s : σ) :
    (modify action evolves : Atomic σ ε Unit).run s = (.ok (), action s) := rfl

@[simp] theorem run_bind (first : Atomic σ ε α) (next : α → Atomic σ ε β) (s : σ) :
    (first >>= next).run s = match first.run s with
      | (.ok value, t) => (next value).run t
      | (.error error, t) => (.error error, t) := rfl

@[simp] theorem run_tryCatch (body : Atomic σ ε α) (handler : ε → Atomic σ ε α) (s : σ) :
    (tryCatch body handler).run s = match body.run s with
      | (.ok value, t) => (.ok value, t)
      | (.error error, t) => (handler error).run t := rfl

end Atomic

namespace Coroutine

protected def bind : Coroutine σ ω ε α → (α → Coroutine σ ω ε β) → Coroutine σ ω ε β
  | .pure value, next => next value
  | .throw error, _ => .throw error
  | .step action evolves rest, next => .step action evolves fun s => (rest s).bind next
  | .await wait rest, next => .await wait (rest.bind next)

protected def tryCatch : Coroutine σ ω ε α → (ε → Coroutine σ ω ε α) → Coroutine σ ω ε α
  | .pure value, _ => .pure value
  | .throw error, handler => handler error
  | .step action evolves rest, handler => .step action evolves fun s => (rest s).tryCatch handler
  | .await wait rest, handler => .await wait (rest.tryCatch handler)

instance : Monad (Coroutine σ ω ε) where
  pure := Coroutine.pure
  bind := Coroutine.bind

instance : MonadExceptOf ε (Coroutine σ ω ε) where
  throw := Coroutine.throw
  tryCatch := Coroutine.tryCatch

def ofExcept : Except ε α → Coroutine σ ω ε α
  | .ok value => .pure value
  | .error error => .throw error

/-- An uninterrupted computation as a part of one that may wait. -/
def lift (block : Atomic σ ε α) : Coroutine σ ω ε α :=
  .step (fun s => (block.run s).2) block.evolves fun s => ofExcept (block.run s).1

instance : MonadLift (Atomic σ ε) (Coroutine σ ω ε) where
  monadLift := lift

/-- Suspend until the scheduler finds that the wait is over. -/
def suspend (wait : ω) : Coroutine σ ω ε Unit :=
  .await wait (.pure ())

/-- How the computation ends. -/
def attempt (body : Coroutine σ ω ε α) : Coroutine σ ω ε (Except ε α) :=
  tryCatch (Except.ok <$> body) fun error => pure (.error error)

/-- `try { body } finally { cleanup }`. -/
def finallyDo (body : Coroutine σ ω ε α) (cleanup : Coroutine σ ω ε Unit) : Coroutine σ ω ε α := do
  let result ← body.attempt
  cleanup
  ofExcept result

end Coroutine

/-- A computation that was started. -/
inductive Thread (σ ω ε : Type) [Evolving σ]
  | waiting (wait : ω) (next : Coroutine σ ω ε Unit)
  | finished (result : Except ε Unit)

/-- Run up to the next wait. -/
def Coroutine.advance : Coroutine σ ω ε Unit → σ → Thread σ ω ε × σ
  | .pure value, s => (.finished (.ok value), s)
  | .throw error, s => (.finished (.error error), s)
  | .step action _ next, s => (next s).advance (action s)
  | .await wait next, s => (.waiting wait next, s)

/-- Threads are named by their positions. -/
structure Scheduler (σ ω ε : Type) [Evolving σ] where
  state : σ
  threads : List (Thread σ ω ε)

/-- A thread is started or resumed, or the environment changes the state. -/
inductive Event (ι η : Type)
  | start (input : ι)
  | resume (thread : Nat)
  | environment (event : η)

end

/-- The threads that a system runs, the waits that are over, and what its environment does. -/
structure Program (σ ω ε ι η : Type) [Evolving σ] where
  body : ι → Nat → Coroutine σ ω ε Unit
  ready : Nat → ω → σ → Bool
  environment : σ → η → σ
  environment_evolves : ∀ s event, Evolves s (environment s event)

section

variable {σ ω ε ι η : Type} [Evolving σ]

def Scheduler.step (program : Program σ ω ε ι η) (self : Scheduler σ ω ε) : Event ι η → Scheduler σ ω ε
  | .start input =>
    let (thread, state) := (program.body input self.threads.length).advance self.state
    { state, threads := self.threads ++ [thread] }
  | .resume n =>
    match self.threads[n]? with
    | some (.waiting wait next) =>
      if program.ready n wait self.state then
        let (thread, state) := next.advance self.state
        { state, threads := self.threads.set n thread }
      else self
    | _ => self
  | .environment event => { self with state := program.environment self.state event }

def Scheduler.start (s : σ) : Scheduler σ ω ε where
  state := s
  threads := []

end

end async

import Pipane.Lib.Outcome

/-! A program that keeps a state in memory, writes the whole of it to one file, and reads a clock. -/

namespace durable

/-- What replacing the file comes to: it is replaced, it is not, or the call fails after it was. -/
inductive Write
  | written
  | failed
  | failedLate
deriving DecidableEq

/-- What the machine does during one call: how far the clock moves before each reading, what becomes of the
    write after expired records were dropped, and of the write of the call's own effect. -/
structure Circumstances where
  ticks : List Nat
  pruned : Write
  saved : Write
deriving DecidableEq

/-- `memory` is what no file holds, `drawn` counts the random values drawn so far. -/
structure Store (δ ρ : Type) where
  state : δ
  disk : δ
  memory : ρ
  clock : Int
  drawn : Nat
  circumstances : Circumstances

abbrev Op (δ ρ α : Type) := EStateM String (Store δ ρ) α

variable {δ ρ : Type}

/-- The store after one more reading of the clock. -/
def Store.tick (store : Store δ ρ) : Store δ ρ :=
  { store with
    clock := store.clock + (store.circumstances.ticks.headD 0 : Nat)
    circumstances := { store.circumstances with ticks := store.circumstances.ticks.tail } }

def now : Op δ ρ Int := fun store => .ok store.tick.clock store.tick

/-- The store after one more random value was drawn. -/
def Store.draw (store : Store δ ρ) : Store δ ρ :=
  { store with drawn := store.drawn + 1 }

/-- A random value, given by how many were drawn before it. -/
def random : Op δ ρ Nat := fun store => .ok store.drawn store.draw

def write (outcome : Write) : Op δ ρ Unit := fun store =>
  match outcome with
  | .written => .ok () { store with disk := store.state }
  | .failed => .error "Error: cannot write the file" store
  | .failedLate => .error "Error: cannot change the mode of the file" { store with disk := store.state }

/-- The same state in a process that has just started. -/
def Store.restarted (store : Store δ ρ) (memory : ρ) : Store δ ρ :=
  { store with state := store.disk, memory := memory }

namespace Store

@[simp] theorem tick_state (store : Store δ ρ) : store.tick.state = store.state := rfl

@[simp] theorem tick_disk (store : Store δ ρ) : store.tick.disk = store.disk := rfl

@[simp] theorem tick_memory (store : Store δ ρ) : store.tick.memory = store.memory := rfl

@[simp] theorem tick_drawn (store : Store δ ρ) : store.tick.drawn = store.drawn := rfl

@[simp] theorem tick_pruned (store : Store δ ρ) :
    store.tick.circumstances.pruned = store.circumstances.pruned := rfl

@[simp] theorem tick_saved (store : Store δ ρ) : store.tick.circumstances.saved = store.circumstances.saved := rfl

@[simp] theorem draw_state (store : Store δ ρ) : store.draw.state = store.state := rfl

@[simp] theorem draw_disk (store : Store δ ρ) : store.draw.disk = store.disk := rfl

@[simp] theorem draw_memory (store : Store δ ρ) : store.draw.memory = store.memory := rfl

@[simp] theorem draw_clock (store : Store δ ρ) : store.draw.clock = store.clock := rfl

@[simp] theorem draw_drawn (store : Store δ ρ) : store.draw.drawn = store.drawn + 1 := rfl

theorem clock_le_tick (store : Store δ ρ) : store.clock ≤ store.tick.clock := by
  change store.clock ≤ store.clock + _
  omega

end Store

variable {failed : Store δ ρ → Prop}

@[simp] theorem now_iff {post : Int → Store δ ρ → Prop} (store : Store δ ρ) :
    Outcome now store post failed ↔ post store.tick.clock store.tick :=
  Iff.rfl

@[simp] theorem random_iff {post : Nat → Store δ ρ → Prop} (store : Store δ ρ) :
    Outcome random store post failed ↔ post store.drawn store.draw :=
  Iff.rfl

theorem write_iff {post : Unit → Store δ ρ → Prop} (outcome : Write) (store : Store δ ρ) :
    Outcome (write outcome) store post failed ↔
      (outcome = .written → post () { store with disk := store.state }) ∧
      (outcome = .failed → failed store) ∧
      (outcome = .failedLate → failed { store with disk := store.state }) := by
  cases outcome with
  | written => simp [Outcome, write]
  | failed => simp [Outcome, write]
  | failedLate => simp [Outcome, write]

end durable

import Resilience.Fault.Basic
import Resilience.Target

/-!
# Effects

Policies run operations, error processors and handlers that act on the world. The world a
run sees is a `Scene`: the cancellation token shared by everything in the run, a journal
that the callbacks may use as they like, and the random numbers still to be drawn, in order.
The library reads the token and draws random numbers; callbacks may also cancel the token.
A computation in that world is an `Act`.

An operation is such a computation returning a value or a fault, with the target it names
for diagnostics and whether it is synchronous or asynchronous. How a policy waits for an
asynchronous operation is its execution: inline on the calling task, or detached on a task
of its own that reports its error through a sink of the outcome's error list.

## Main definitions

* `Scene`, `Act`, `Act.isCancelled`, `Act.cancel`, `Act.draw`: The world of a run.
* `OperationKind`, `Operation`: Operations.
* `AwaitMode`, `Execution`: How an operation is waited for.
-/

namespace Resilience

/-- The world a run sees: the cancellation token, the callbacks' journal, and the random
numbers still to be drawn, in order. -/
structure Scene (σ : Type) where
  cancelled : Bool
  journal : σ
  random : Nat → Nat

namespace Scene

variable {σ : Type}

/-- The number the next draw gives, from zero to `hi`. -/
def pick (s : Scene σ) (hi : Nat) : Nat := s.random 0 % (hi + 1)

theorem pick_le (s : Scene σ) (hi : Nat) : s.pick hi ≤ hi :=
  Nat.le_of_lt_succ (Nat.mod_lt _ (Nat.succ_pos hi))

/-- The scene once a number has been drawn. -/
def drawn (s : Scene σ) : Scene σ := { s with random := fun n => s.random (n + 1) }

end Scene

/-- A computation in the world of a run. -/
abbrev Act (σ : Type) := StateM (Scene σ)

namespace Act

variable {σ : Type}

/-- Whether the token has been cancelled. -/
def isCancelled : Act σ Bool := do return (← get).cancelled

/-- Cancel the token. -/
def cancel : Act σ Unit := modify fun s => { s with cancelled := true }

/-- Draw a number from zero to `hi`. -/
def draw (hi : Nat) : Act σ Nat := modifyGet fun s => (s.pick hi, s.drawn)

end Act

/-- Whether an operation runs to completion when called or has to be awaited. -/
inductive OperationKind where
  | sync
  | async
  deriving DecidableEq, Repr, Inhabited

/-- An operation: a computation that produces a value or fails, the target it names, and
its kind. -/
structure Operation (σ α : Type) where
  target : Target
  kind : OperationKind
  call : Act σ (Except Fault α)

/-- How an asynchronous attempt is awaited: on the calling task, or on a task of its own. -/
inductive AwaitMode where
  | inline
  | detached
  deriving DecidableEq, Repr, Inhabited

/-- How a policy runs its operation: to completion on the calling thread, or awaited in a
mode. -/
inductive Execution where
  | blocking
  | awaiting (mode : AwaitMode)
  deriving DecidableEq, Repr, Inhabited

/-- Whether attempts run detached, so that the outcome's error list must accept pushes
through a sink. -/
def Execution.detached : Execution → Bool
  | .awaiting .detached => true
  | _ => false

end Resilience

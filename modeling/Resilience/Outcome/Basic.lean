import Resilience.Outcome.State
import Resilience.Target

/-!
# Outcomes

An outcome is what a policy hands back after one invocation: its state, the value if one
was produced, and, for a wrapped policy, every run of the inner node. An inner node is
either another policy, whose runs are outcomes again, or a chain, whose runs record one
outcome per step. The three types are therefore declared together.

A chain run keeps the steps that ran, each with the policy's name, the operation's target
and its outcome, and the names of the elements that never ran because the chain stopped.

## Main definitions

* `Outcome`: State, value and wrapped runs of one invocation.
* `WrappedRuns`: The runs of a wrapped policy's inner node.
* `ChainStep`: One element of a chain that ran.
* `ChainRun`: The steps of one run of a chain and the elements left unused.
-/

namespace Resilience

mutual

/-- What a policy hands back after one invocation. -/
structure Outcome (α : Type) where
  state : OutcomeState
  value : Option α := none
  wrapped : Option (WrappedRuns α) := none

/-- The runs of a wrapped policy's inner node, one per call of the outer policy's
operation. -/
inductive WrappedRuns (α : Type) where
  | policy (runs : List (Outcome α))
  | chain (runs : List (ChainRun α))

/-- One element of a chain that ran: its policy's name, its operation's target and the
outcome. -/
structure ChainStep (α : Type) where
  policy : String
  target : Target
  outcome : Outcome α

/-- One run of a chain: the steps that ran, in order, and the policy names of the elements
that did not. -/
structure ChainRun (α : Type) where
  steps : List (ChainStep α)
  unused : List String

end

namespace Outcome

variable {α : Type}

/-- A fresh outcome; `concurrent` makes its error list accept pushes through sinks. -/
def new (concurrent : Bool := false) : Outcome α := { state := .new concurrent }

/-- The outcome of an invocation that never started because the token was cancelled. -/
def canceled : Outcome α := { state := (OutcomeState.new false).setCanceled }

/-- Apply a change to the state. -/
def modifyState (o : Outcome α) (f : OutcomeState → OutcomeState) : Outcome α :=
  { o with state := f o.state }

/-- Store the value. -/
def setValue (o : Outcome α) (value : α) : Outcome α := { o with value := some value }

/-- Move the value out, leaving none. -/
def takeValue (o : Outcome α) : Option α × Outcome α := (o.value, { o with value := none })

def isFailed (o : Outcome α) : Bool := o.state.failed
def isCanceled (o : Outcome α) : Bool := o.state.canceled
def isSuccess (o : Outcome α) : Bool := o.state.isSuccess
def isOk (o : Outcome α) : Bool := o.state.isOk
def errors (o : Outcome α) : List Fault := o.state.errorList
def unprocessed (o : Outcome α) : Option Fault := o.state.unprocessed

end Outcome

end Resilience

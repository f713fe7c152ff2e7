import Resilience.Effect
import Resilience.Filter.Basic
import Resilience.Outcome.State

/-!
# Error processing

For every error an operation raises, a policy's processor gives a verdict and runs the
side effects of handling it. The order is fixed:

1. A token that is already cancelled wins: the verdict is `canceled`, and the filter is
   not consulted.
2. The filter decides whether the error is handled; a rejection is recorded on the state.
3. The bulk steps run in registration order. A step that fails leaves a catch-block error;
   the error is critical when it reports cancellation while the token is cancelled, and a
   critical error stops the processing with verdict `canceled`.
4. The token is checked once more.

A step may be synchronous or asynchronous; both are run to completion in order, so the
kind changes nothing the processor does.

## Main definitions

* `BulkStep`: A side effect run for every handled error.
* `Processor`: A filter and the bulk steps.
* `Verdict`: Handled, rejected by the filter, or canceled.
* `Processor.process`: The verdict on one error, with the state it leaves.
-/

namespace Resilience

/-- A side effect run for every handled error. -/
structure BulkStep (σ : Type) where
  kind : OperationKind
  run : Fault → Act σ (Except Fault Unit)

/-- A bulk step that only writes the error to the log: nothing anyone can observe, and it
always succeeds. -/
def BulkStep.logging {σ : Type} : BulkStep σ := { kind := .sync, run := fun _ => pure (.ok ()) }

/-- A filter and the bulk steps run for the errors it lets through. -/
structure Processor (σ : Type) where
  filter : ErrorFilter := {}
  steps : List (BulkStep σ) := []

/-- What the processor decided about an error. -/
inductive Verdict where
  | handled
  | filterRejected
  | canceled
  deriving DecidableEq, Repr, Inhabited

namespace Processor

variable {σ : Type}

/-- The verdict once every step has run: canceled if the token is. -/
def settleVerdict : Act σ Verdict := do
  return if (← Act.isCancelled) then .canceled else .handled

/-- Run the bulk steps in order, recording failures, until one fails critically. -/
def runSteps (fault : Fault) : List (BulkStep σ) → OutcomeState → Act σ (Verdict × OutcomeState)
  | [], state => do return (← settleVerdict, state)
  | step :: rest, state => do
    match ← step.run fault with
    | .ok () => runSteps fault rest state
    | .error error =>
      let cancelled ← Act.isCancelled
      let critical := error.isCancellation && cancelled
      let state := state.addCatchBlockError ⟨error, critical⟩
      if critical then return (.canceled, state) else runSteps fault rest state

/-- The verdict on an error and the state it leaves. -/
def process (processor : Processor σ) (fault : Fault) (state : OutcomeState) :
    Act σ (Verdict × OutcomeState) := do
  if ← Act.isCancelled then return (.canceled, state)
  if !processor.filter.canHandle fault then return (.filterRejected, state.setFilterUnsatisfied)
  runSteps fault processor.steps state

end Processor

end Resilience

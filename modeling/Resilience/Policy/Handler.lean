import Resilience.Effect
import Resilience.Outcome.State

/-!
# Post-hoc handlers

Handlers run after a policy has decided its outcome, in registration order. Each sees a
snapshot of the state taken just before it runs, so later handlers see what earlier ones
did, and may ask for the outcome to be marked failed or canceled. A handler that returns
an error has it recorded with its position; its requests apply all the same, and the
error alone never fails the outcome.

## Main definitions

* `HandlerContext`: What a handler sees.
* `HandlerReply`: What a handler returns and asks for.
* `Handler`: A handler.
* `Handler.runAll`: Run the handlers over a state.
-/

namespace Resilience

/-- What a handler sees: the policy, its own position, and the state's flags, operation
errors and unprocessed error. -/
structure HandlerContext where
  policy : String
  index : Nat
  failed : Bool
  canceled : Bool
  ok : Bool
  errors : List Fault
  unprocessed : Option Fault

/-- Neither failed nor canceled. -/
def HandlerContext.isSuccess (context : HandlerContext) : Bool :=
  !context.failed && !context.canceled

/-- What a handler returns, and whether it asked for the outcome to be marked failed or
canceled. -/
structure HandlerReply where
  result : Except Fault Unit
  setFailed : Bool := false
  setCanceled : Bool := false

/-- A post-hoc handler. -/
structure Handler (σ : Type) where
  kind : OperationKind
  run : HandlerContext → Act σ HandlerReply

namespace Handler

variable {σ : Type}

/-- The snapshot handler number `index` of a policy sees. -/
def capture (policy : String) (index : Nat) (state : OutcomeState) : HandlerContext :=
  { policy, index
    failed := state.failed
    canceled := state.canceled
    ok := state.isOk
    errors := state.errorList
    unprocessed := state.unprocessed }

/-- Record a handler's reply: its error with its position, then its requests. -/
def record (index : Nat) (reply : HandlerReply) (state : OutcomeState) : OutcomeState :=
  let state := match reply.result with
    | .ok () => state
    | .error error => state.addHandlingError ⟨error, index⟩
  let state := if reply.setFailed then state.setFailed .policyResultHandlerFailed else state
  if reply.setCanceled then state.setCanceled else state

/-- Run the handlers from position `index` on. -/
def runFrom (policy : String) : List (Handler σ) → Nat → OutcomeState → Act σ OutcomeState
  | [], _, state => pure state
  | handler :: rest, index, state => do
    let reply ← handler.run (capture policy index state)
    runFrom policy rest (index + 1) (record index reply state)

/-- Run every handler of a policy over the state, in order. -/
def runAll (handlers : List (Handler σ)) (policy : String) (state : OutcomeState) :
    Act σ OutcomeState :=
  runFrom policy handlers 0 state

end Handler

end Resilience

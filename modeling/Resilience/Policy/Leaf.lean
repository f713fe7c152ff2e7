import Resilience.Processor
import Resilience.Policy.Handler
import Resilience.Retry.Delay
import Resilience.Retry.Observer
import Resilience.Outcome.Basic
import Resilience.Value

/-!
# Leaf policies

A leaf policy runs an operation directly and records what happened in an outcome. Every
leaf has a core (its name, its error processor and its post-hoc handlers) and a strategy:

* retry runs the operation again after each handled error, until it succeeds, the filter
  rejects an error, the attempts run out or the token is cancelled;
* fallback runs the operation once and, after a handled error, the fallback registered for
  the run's value type in its place;
* simple runs the operation once and absorbs a handled error as a recovery.

All three start the same way: if the token is already cancelled the outcome is canceled
and nothing runs. All three end the same way: the error list is settled and the handlers
run over the state.

A leaf runs its operation in any monad that can run the world's computations, so a policy
wrapping another one can keep the inner runs beside the outer attempt loop. Callbacks of
the leaf itself (bulk steps, handlers, fallbacks, observers) act on the world.

## Main definitions

* `PolicyCore`: Name, processor and handlers.
* `FallbackTable`: Fallback operations by value type.
* `LeafStrategy`, `Leaf`: Leaf policies.
* `Leaf.attemptOnce`: One call of the operation, its error recorded.
* `Leaf.retryLoop`, `Leaf.runSimple`, `Leaf.runFallback`: The strategies.
* `Leaf.handle`: One invocation of a leaf.
-/

namespace Resilience

/-- A policy's name, its error processor and its post-hoc handlers. -/
structure PolicyCore (σ : Type) where
  name : String
  processor : Processor σ := {}
  handlers : List (Handler σ) := []

/-- Fallback operations by value type; a fallback applies only to runs of its type. -/
def FallbackTable (σ : Type) := (t : ValueType) → Option (Operation σ t.Carrier)

namespace FallbackTable

variable {σ : Type}

/-- No fallback for any type. -/
def empty : FallbackTable σ := fun _ => none

/-- Register a fallback for a value type, replacing an earlier one for that type. -/
def register (table : FallbackTable σ) (t : ValueType) (op : Operation σ t.Carrier) :
    FallbackTable σ :=
  fun u => if h : u = t then some (h ▸ op) else table u

/-- The fallback registered last for a type is the one found for it. -/
@[simp]
theorem register_self (table : FallbackTable σ) (t : ValueType) (op : Operation σ t.Carrier) :
    table.register t op t = some op := by
  simp [register]

/-- Registering for one type leaves every other type's fallback alone. -/
theorem register_of_ne (table : FallbackTable σ) {t u : ValueType} (op : Operation σ t.Carrier)
    (hne : u ≠ t) : table.register t op u = table u := by
  simp [register, hne]

end FallbackTable

/-- What a leaf policy does with its operation. -/
inductive LeafStrategy (σ : Type) where
  /-- Retry handled errors, spacing attempts by the settings; `jitter` spreads the delays
  at random, and the observer hears every step of the attempt loop. -/
  | retry (settings : RetrySettings) (jitter : Bool) (observer : RetryEvent → Act σ Unit)
  /-- Run the fallback for the run's value type after a handled error. -/
  | fallback (table : FallbackTable σ)
  /-- Run once and absorb a handled error. -/
  | simple

/-- A policy that runs its operation directly. -/
structure Leaf (σ : Type) where
  core : PolicyCore σ
  strategy : LeafStrategy σ

namespace Leaf

variable {σ : Type}

/-- A retry policy with the given settings, jitter on and nobody observing. -/
def retry (settings : RetrySettings) : Leaf σ :=
  { core := { name := "retry" }, strategy := .retry settings true fun _ => pure () }

/-- A fallback policy without fallbacks. -/
def fallback : Leaf σ := { core := { name := "fallback" }, strategy := .fallback .empty }

/-- A simple policy. -/
def simple : Leaf σ := { core := { name := "simple" }, strategy := .simple }

/-- Rename the policy. -/
def named (leaf : Leaf σ) (name : String) : Leaf σ :=
  { leaf with core := { leaf.core with name } }

/-- Change the processor. -/
def modifyProcessor (leaf : Leaf σ) (f : Processor σ → Processor σ) : Leaf σ :=
  { leaf with core := { leaf.core with processor := f leaf.core.processor } }

/-- Replace the filter. -/
def withFilter (leaf : Leaf σ) (filter : ErrorFilter) : Leaf σ :=
  leaf.modifyProcessor fun p => { p with filter }

/-- Add a predicate that errors must match. -/
def includePredicate (leaf : Leaf σ) (predicate : Predicate) : Leaf σ :=
  leaf.modifyProcessor fun p => { p with filter := p.filter.addIncluded predicate }

/-- Add a predicate that errors must not match. -/
def excludePredicate (leaf : Leaf σ) (predicate : Predicate) : Leaf σ :=
  leaf.modifyProcessor fun p => { p with filter := p.filter.addExcluded predicate }

/-- Add a bulk step. -/
def withStep (leaf : Leaf σ) (step : BulkStep σ) : Leaf σ :=
  leaf.modifyProcessor fun p => { p with steps := p.steps ++ [step] }

/-- Add a post-hoc handler. -/
def withHandler (leaf : Leaf σ) (handler : Handler σ) : Leaf σ :=
  { leaf with core := { leaf.core with handlers := leaf.core.handlers ++ [handler] } }

/-- Change the jitter of a retry policy; other policies are left alone. -/
def withJitter (leaf : Leaf σ) (jitter : Bool) : Leaf σ :=
  match leaf.strategy with
  | .retry settings _ observer => { leaf with strategy := .retry settings jitter observer }
  | _ => leaf

/-- Set the observer of a retry policy; other policies are left alone. -/
def withObserver (leaf : Leaf σ) (observer : RetryEvent → Act σ Unit) : Leaf σ :=
  match leaf.strategy with
  | .retry settings jitter _ => { leaf with strategy := .retry settings jitter observer }
  | _ => leaf

/-- Register a fallback of a fallback policy; other policies are left alone. -/
def withFallback (leaf : Leaf σ) (t : ValueType) (op : Operation σ t.Carrier) : Leaf σ :=
  match leaf.strategy with
  | .fallback table => { leaf with strategy := .fallback (table.register t op) }
  | _ => leaf

variable {m : Type → Type} [Monad m] [MonadLiftT (Act σ) m] {α : Type}

/-- Call the operation once. A failure is recorded on the outcome before it is returned:
through a sink of the error list when the attempt runs detached, directly otherwise. -/
def attemptOnce (ex : Execution) (op : m (Except Fault α)) (o : Outcome α) :
    m (Except Fault α × Outcome α) := do
  match ← op with
  | .ok value => return (.ok value, o)
  | .error fault =>
    let state := if ex.detached && o.state.errors.hasSink then o.state.pushThroughSink fault
      else o.state.addError fault
    return (.error fault, { o with state })

/-- Process an operation error with the core's processor. -/
def processFault (core : PolicyCore σ) (fault : Fault) (o : Outcome α) :
    m (Verdict × Outcome α) := do
  let (verdict, state) ← monadLift (core.processor.process fault o.state)
  return (verdict, { o with state })

/-- The attempt loop of a retry policy from attempt number `attempt` on, with `remaining`
attempts left. The delay after a handled error is drawn as `jitter` says and reported to the
observer. -/
def retryLoop (core : PolicyCore σ) (settings : RetrySettings) (jitter : Bool)
    (observer : RetryEvent → Act σ Unit) (ex : Execution) (op : m (Except Fault α)) :
    Nat → Nat → Outcome α → m (Outcome α)
  | 0, _, o => pure o
  | remaining + 1, attempt, o => do
    let limit := settings.attemptLimit
    monadLift (observer (.attemptStarted attempt limit))
    let (result, o) ← attemptOnce ex op o
    match result with
    | .ok value =>
      monadLift (observer (.succeeded attempt))
      let o := o.setValue value
      return if o.state.errorCount > 0 then o.modifyState (·.setOk) else o
    | .error fault =>
      let (verdict, o) ← processFault core fault o
      match verdict with
      | .canceled =>
        monadLift (observer (.cancelled attempt (some fault)))
        return o.modifyState (·.setFailedAndCanceled fault)
      | .filterRejected =>
        monadLift (observer (.cancelled attempt (some fault)))
        return o.modifyState (·.setFailedWith fault .policyProcessorFailed)
      | .handled =>
        if limit ≤ attempt then
          monadLift (observer (.exhausted attempt fault))
          return o.modifyState (·.setFailedWith fault .policyProcessorFailed)
        else
          let delay ← monadLift (settings.drawDelay attempt jitter (σ := σ))
          monadLift (observer (.attemptFailed attempt fault delay))
          -- the delay ends early, and the loop with it, once the token is cancelled
          if ← monadLift (Act.isCancelled (σ := σ)) then
            monadLift (observer (.cancelled attempt (some fault)))
            return o.modifyState (·.setFailedAndCanceled fault)
          else retryLoop core settings jitter observer ex op remaining (attempt + 1) o

/-- Run the operation once and absorb a handled error: the outcome recovers, with the unit
value when the run's type is unit. -/
def runSimple (core : PolicyCore σ) (unit? : Option α) (ex : Execution)
    (op : m (Except Fault α)) (o : Outcome α) : m (Outcome α) := do
  match ← attemptOnce ex op o with
  | (.ok value, o) => return o.setValue value
  | (.error fault, o) =>
    let (verdict, o) ← processFault core fault o
    match verdict with
    | .handled =>
      let o := o.modifyState (·.setOk)
      return match unit? with
        | some value => o.setValue value
        | none => o
    | .filterRejected => return o.modifyState (·.setFailedWith fault .policyProcessorFailed)
    | .canceled => return o.modifyState (·.setFailedAndCanceled fault)

/-- Run the operation once and, after a handled error, the fallback in its place. A
failing fallback leaves a critical catch-block error and becomes the unprocessed error. -/
def runFallback (core : PolicyCore σ) (fallback? : Option (Operation σ α)) (ex : Execution)
    (op : m (Except Fault α)) (o : Outcome α) : m (Outcome α) := do
  match ← attemptOnce ex op o with
  | (.ok value, o) => return o.setValue value
  | (.error fault, o) =>
    let (verdict, o) ← processFault core fault o
    match verdict with
    | .handled =>
      match fallback? with
      | none => return o.modifyState (·.setFailedWith fault .delegateMissing)
      | some fallback =>
        match ← monadLift fallback.call with
        | .ok value => return (o.setValue value).modifyState (·.setOk)
        | .error error =>
          let o := o.modifyState (·.addCatchBlockError ⟨error, true⟩)
          let cancelled ← monadLift (Act.isCancelled (σ := σ))
          if error.isCancellation && cancelled then
            return o.modifyState (·.setFailedAndCanceled error)
          else return o.modifyState (·.setFailedWith error .unhandledError)
    | .filterRejected => return o.modifyState (·.setFailedWith fault .policyProcessorFailed)
    | .canceled => return o.modifyState (·.setFailedAndCanceled fault)

/-- Settle the error list and run the handlers over the state. -/
def finish (core : PolicyCore σ) (o : Outcome α) : m (Outcome α) := do
  let state ← monadLift (Handler.runAll core.handlers core.name o.state.settle)
  return { o with state }

/-- One invocation of a leaf policy on an operation producing values of type `t`. -/
def handle (leaf : Leaf σ) (t : ValueType) (ex : Execution) (op : m (Except Fault t.Carrier)) :
    m (Outcome t.Carrier) := do
  let o : Outcome t.Carrier := Outcome.new ex.detached
  let o ← if ← monadLift (Act.isCancelled (σ := σ)) then
      match leaf.strategy with
      | .retry _ _ observer => monadLift (observer (.cancelled 1 none))
      | _ => pure ()
      pure (o.modifyState (·.setCanceled))
    else
      match leaf.strategy with
      | .retry settings jitter observer =>
        retryLoop leaf.core settings jitter observer ex op settings.attemptLimit 1 o
      | .fallback table => runFallback leaf.core (table t) ex op o
      | .simple => runSimple leaf.core t.unit? ex op o
  finish leaf.core o

end Leaf

end Resilience

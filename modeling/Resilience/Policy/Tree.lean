import Resilience.Policy.Leaf
import Resilience.Chain.Result
import Resilience.Error

/-!
# Policy trees and chains

A policy is a leaf, or a leaf wrapped around an inner node: another policy, or a chain of
policies each paired with its operation. A chain runs its elements left to right and goes
on after a step only if that step failed without being canceled; the token is checked
before every step, and once it has fired the next element gets a canceled step without
running and the chain stops. Policies and chains contain each other, so they are declared
together.

A wrapped policy runs its outer leaf on a composed operation. Each call of the composed
operation runs the inner node to completion and turns its result back into a value or an
error:

* an inner outcome failed by its handlers becomes a report of the handler errors;
* any other failed one gives back its unprocessed error, the very fault the inner policy
  recorded;
* a canceled one becomes a cancellation, and a success its value (the unit value for unit
  runs) or a missing-value error;
* a chain run that ended faulted gives back the cause of its last failed step, or an
  aggregate of the run, as the failure mode says; canceled, never started and successful
  runs are treated as for policies.

Every inner run is kept, in call order, in the outer outcome's wrapped runs. A wrapped
chain gets the operation of the invocation in its open last slot, if it has one.

A chain run reports to its caller the steps it took and the elements it did not reach
(`ChainResult`). An outcome keeps a chain run with those elements named by their policies,
since an outcome holds values and errors but no policies (`ChainResult.toRun`).

## Main definitions

* `Policy`, `Element`, `Chain`: Policy trees and chains.
* `ChainResult`, `ChainResult.toRun`: What a chain run reports, and what an outcome keeps of
  it.
* `FailureMode`, `Executor`, `Dispatch`: How a wrapped chain reports failure, how a chain
  waits for asynchronous operations, and the kinds of operation a chain holds.
* `Outcome.surface`, `ChainRun.surface`: Inner results as the outer operation's result.
* `Policy.handle`: One invocation of a policy tree.
* `Chain.runSteps`, `Chain.runAll`, `Chain.handleAll`: Chain runs.
-/

namespace Resilience

/-- How a wrapped chain reports a faulted run to the outer policy. -/
inductive FailureMode where
  /-- The cause of the last failed step. -/
  | lastError
  /-- One aggregate error built from the whole run. -/
  | aggregate
  deriving DecidableEq, Repr, Inhabited

/-- Where a chain run from synchronous code waits for asynchronous operations: on the
calling thread, so attempts run inline, or on a background thread, so they run detached. -/
inductive Executor where
  | inline
  | background
  deriving DecidableEq, Repr, Inhabited

/-- The await mode of attempts driven by an executor. -/
def Executor.awaitMode : Executor → AwaitMode
  | .inline => .inline
  | .background => .detached

/-- The kinds of operation a chain holds: only synchronous ones (or none at all), only
asynchronous ones, or both. -/
inductive Dispatch where
  | sync
  | async
  | misc
  deriving DecidableEq, Repr, Inhabited

/-- Classify the kinds of a chain's operations; unbound elements do not count. -/
def Dispatch.classify (kinds : List (Option OperationKind)) : Dispatch :=
  let sync := kinds.contains (some .sync)
  let async := kinds.contains (some .async)
  if !async then .sync else if !sync then .async else .misc

mutual

/-- A policy tree producing values of type `t`. -/
inductive Policy (σ : Type) (t : ValueType) where
  /-- A leaf policy. -/
  | leaf (leaf : Leaf σ)
  /-- A leaf whose operation is an inner policy. -/
  | wrapPolicy (outer : Leaf σ) (inner : Policy σ t)
  /-- A leaf whose operation is a chain, reporting failure by the mode. -/
  | wrapChain (outer : Leaf σ) (chain : Chain σ t) (mode : FailureMode)

/-- A policy and the operation it runs, if one is bound. -/
structure Element (σ : Type) (t : ValueType) where
  policy : Policy σ t
  operation : Option (Operation σ t.Carrier) := none

/-- Policies run one after another. Every element but the last must have an operation;
the last may stay open until one is bound. -/
structure Chain (σ : Type) (t : ValueType) where
  elements : List (Element σ t) := []
  executor : Executor := .inline
  aggregate : AggregateBuilder := AggregateBuilder.standard
  throwOnLastFailed : Bool := false

end

namespace Policy

variable {σ : Type} {t : ValueType}

/-- The core of the policy: the outer leaf's for a wrapped one. -/
def core : Policy σ t → PolicyCore σ
  | .leaf l => l.core
  | .wrapPolicy outer _ => outer.core
  | .wrapChain outer _ _ => outer.core

/-- The policy's name. -/
def name (p : Policy σ t) : String := p.core.name

end Policy

/-- What a chain run reports: the steps it took, in order, and the elements it did not reach,
in chain order. -/
structure ChainResult (σ : Type) (t : ValueType) where
  steps : List (ChainStep t.Carrier)
  unused : List (Element σ t)

/-- The run as an outcome keeps it: the elements not reached are named by their policies. -/
def ChainResult.toRun {σ : Type} {t : ValueType} (r : ChainResult σ t) : ChainRun t.Carrier :=
  { steps := r.steps, unused := r.unused.map (·.policy.name) }

@[simp]
theorem ChainResult.toRun_steps {σ : Type} {t : ValueType} (r : ChainResult σ t) :
    r.toRun.steps = r.steps := rfl

/-- The execution of an element's operation in a chain driven by `drive`: synchronous
operations run to completion, asynchronous ones are awaited in the drive's mode, or in the
executor's mode when the chain is run from synchronous code. -/
def Executor.elementExecution (executor : Executor) (drive : Execution) :
    OperationKind → Execution
  | .sync => .blocking
  | .async =>
    match drive with
    | .blocking => .awaiting executor.awaitMode
    | .awaiting mode => .awaiting mode

/-- The inner outcome as the outer operation's result; the value moves out of the
outcome. -/
def Outcome.surface {α : Type} (policy : String) (unit? : Option α) (o : Outcome α) :
    Except Fault α × Outcome α :=
  if o.state.reason = .policyResultHandlerFailed then
    (.error (.ofFailure (.handlerFailed policy o.state.handlingErrors)), o)
  else if o.isFailed then
    (.error (o.unprocessed.getD (.msg ("policy " ++ policy ++ " failed"))), o)
  else if o.isCanceled then (.error (.ofFailure .canceled), o)
  else
    let (value, o) := o.takeValue
    match value.orElse fun _ => unit? with
    | some value => (.ok value, o)
    | none => (.error (.ofFailure .noValue), o)

/-- The chain run as the outer operation's result; the last step's value moves out of
the run. -/
def ChainRun.surface {α : Type} (mode : FailureMode) (aggregate : AggregateBuilder)
    (unit? : Option α) (run : ChainRun α) : Except Fault α × ChainRun α :=
  match run.status with
  | .faulted | .faultedCanceled =>
    match mode with
    | .lastError => (.error (run.lastError?.getD (.msg "policy collection failed")), run)
    | .aggregate => (.error (.ofFailure (.aggregate (aggregate run.summaries))), run)
  | .canceled => (.error (.ofFailure .canceled), run)
  | .created => (.error (.ofFailure .noValue), run)
  | .lastSuccess | .lastOk =>
    let (value, run) := run.takeValue
    match value.orElse fun _ => unit? with
    | some value => (.ok value, run)
    | none => (.error (.ofFailure .noValue), run)

/-- The kind an operation gets when it is handed on under an execution. -/
def Execution.operationKind : Execution → OperationKind
  | .blocking => .sync
  | .awaiting _ => .async

/-- The kinds of a chain's operations once `fill` is bound in the open last slot. -/
def Element.kinds {σ : Type} {t : ValueType} (fill : Option (Operation σ t.Carrier)) :
    List (Element σ t) → List (Option OperationKind)
  | [] => []
  | [e] => [(e.operation.orElse fun _ => fill).map (·.kind)]
  | e :: rest => e.operation.map (·.kind) :: kinds fill rest

/-- The drive of a chain run: a run awaited from asynchronous code whose operations are all
synchronous is handed to a background thread and runs as from synchronous code. -/
def Chain.driveFor (kinds : List (Option OperationKind)) : Execution → Execution
  | .blocking => .blocking
  | .awaiting mode => if Dispatch.classify kinds = .sync then .blocking else .awaiting mode

mutual

/-- One invocation of a policy tree on an operation. -/
def Policy.handle {σ : Type} {t : ValueType} :
    Policy σ t → Execution → Operation σ t.Carrier → Act σ (Outcome t.Carrier)
  | .leaf l, ex, op => l.handle t ex op.call
  | .wrapPolicy outer inner, ex, op => do
    let composed : StateT (List (Outcome t.Carrier)) (Act σ) (Except Fault t.Carrier) := do
      let o ← monadLift (Policy.handle inner ex op)
      let (result, o) := Outcome.surface inner.name t.unit? o
      modify (· ++ [o])
      return result
    let (o, runs) ← (outer.handle t ex composed).run []
    return { o with wrapped := some (.policy runs) }
  | .wrapChain outer ⟨elements, executor, aggregate, _⟩ mode, ex, op => do
    let fill : Operation σ t.Carrier := { op with kind := ex.operationKind }
    let drive := Chain.driveFor (Element.kinds (some fill) elements) ex
    let composed : StateT (List (ChainRun t.Carrier)) (Act σ) (Except Fault t.Carrier) := do
      match ← monadLift (Chain.runSteps executor drive elements (some fill) []) with
      | .error e => return .error (.ofFailure (.structural e.message))
      | .ok steps =>
        let run : ChainRun t.Carrier :=
          { steps, unused := (elements.drop steps.length).map (·.policy.name) }
        let (result, run) := ChainRun.surface mode aggregate t.unit? run
        modify (· ++ [run])
        return result
    let (o, runs) ← (outer.handle t ex composed).run []
    return { o with wrapped := some (.chain runs) }

/-- Run chain elements from the first of `elements` on, after the steps already taken.
The open last slot takes `fill`. The token is checked before each element; a step that
does not allow the next one ends the run. -/
def Chain.runSteps {σ : Type} {t : ValueType} (executor : Executor) (drive : Execution) :
    List (Element σ t) → Option (Operation σ t.Carrier) → List (ChainStep t.Carrier) →
      Act σ (Except StructuralError (List (ChainStep t.Carrier)))
  | [], _, steps => return .ok steps
  | ⟨policy, operation⟩ :: rest, fill, steps => do
    let op? := match operation with
      | some op => some op
      | none => if rest.isEmpty then fill else none
    match op? with
    | none => return .error (.operationNotBound policy.name)
    | some op =>
      let outcome ← if ← Act.isCancelled then pure Outcome.canceled
        else Policy.handle policy (executor.elementExecution drive op.kind) op
      let step : ChainStep t.Carrier := ⟨policy.name, op.target, outcome⟩
      if step.allowsNext then Chain.runSteps executor drive rest fill (steps ++ [step])
      else return .ok (steps ++ [step])

end

namespace Chain

variable {σ : Type} {t : ValueType}

/-- The kinds of operation the chain holds. -/
def dispatch (c : Chain σ t) : Dispatch := Dispatch.classify (Element.kinds none c.elements)

/-- Run the chain: refused before anything runs if the last element has no operation. -/
def runAll (c : Chain σ t) (drive : Execution) :
    Act σ (Except StructuralError (ChainResult σ t)) := do
  match c.elements.getLast? with
  | some last =>
    if last.operation.isNone then return .error (.operationNotBound last.policy.name)
  | none => pure ()
  let drive := Chain.driveFor (Element.kinds none c.elements) drive
  match ← runSteps c.executor drive c.elements none [] with
  | .error e => return .error e
  | .ok steps =>
    return .ok { steps, unused := c.elements.drop steps.length }

/-- The aggregate the chain's builder makes of a run. -/
def aggregateOf {α : Type} (c : Chain σ t) (run : ChainRun α) : Aggregate :=
  c.aggregate run.summaries

/-- Run the chain; when asked to, report a faulted run as one aggregate error. -/
def handleAll (c : Chain σ t) (drive : Execution) :
    Act σ (Except StructuralError (ChainResult σ t)) := do
  match ← c.runAll drive with
  | .error e => return .error e
  | .ok run =>
    if c.throwOnLastFailed && run.toRun.isFaulted then
      return .error (.aggregate (c.aggregateOf run.toRun))
    else return .ok run

end Chain

end Resilience

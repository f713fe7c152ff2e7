import Mathlib
import Resilience.Proofs.Leaf.Execution
import Resilience.Policy.Tree

/-!
# Policy trees and chains do not depend on how they are awaited

A policy tree can be invoked from synchronous code, which runs its operation to
completion, or from asynchronous code in an await mode. A chain can be run from synchronous
code, where its asynchronous steps are driven by the chain's executor, or from asynchronous
code, where a chain of synchronous operations is handed to a background thread and any other
chain runs each step on its native path. These are different machines for the same logic,
and the point of this module is that they compute the same thing.

For leaves this is `Leaf.handle_execution`. A wrapped policy hands its execution down to
the inner policy, and a wrapped chain turns it into the kind of the operation it binds in
the open last slot and into the drive of its steps; the elements then run under executions
derived from their own kinds. The induction is on the tree, through the chains it holds:
a tree and a chain's remaining elements are each the same computation under every
execution and whatever the kinds of their operations (`Policy.handle_blocking`,
`Chain.runSteps_blocking`). Each constructor has its own step lemma taking the hypotheses
for its parts, and the mutual theorem only assembles them.

Every statement here is an equality of computations over the world a run sees. The world
holds the token and a journal the callbacks may write; equal computations therefore make
the same calls of operations, bulk steps, fallbacks, handlers and observers, in the same
order and with the same arguments, and return the same outcome, field by field, wrapped runs
included.

## Main definitions

* `Operation.withKind`: An operation with its kind replaced.

## Theorems

* `Policy.handle_blocking`: A tree's invocation is its blocking invocation on the
  synchronous form of the operation.
* `Chain.runSteps_blocking`: The same for the remaining elements of a chain.
* `Policy.handle_await_modes_agree`: A synchronous invocation on a synchronous operation,
  and inline and detached invocations on its asynchronous twin, are the same computation.
* `Chain.runAll_execution`, `Chain.handleAll_awaiting_eq_blocking`: A chain runs the same
  from asynchronous code, in either await mode, as from synchronous code.
-/

namespace Resilience

variable {σ : Type} {t : ValueType}

/-- The operation with its kind replaced; the target and the call stay. -/
def Operation.withKind {α : Type} (op : Operation σ α) (kind : OperationKind) : Operation σ α :=
  { op with kind }


namespace Policy

theorem handle_leaf_blocking (l : Leaf σ) (ex : Execution) (op : Operation σ t.Carrier) :
    (leaf l).handle ex op = (leaf l).handle .blocking (op.withKind .sync) := by
  simp only [Policy.handle]
  exact Leaf.handle_execution l t ex op.call

/-- A wrapped policy passes its execution to the inner policy, which does not depend on it,
and runs its outer leaf, which does not depend on it either. -/
theorem handle_wrapPolicy_blocking (outer : Leaf σ) (inner : Policy σ t)
    (ih : ∀ ex op, inner.handle ex op = inner.handle .blocking (op.withKind .sync))
    (ex : Execution) (op : Operation σ t.Carrier) :
    (wrapPolicy outer inner).handle ex op =
      (wrapPolicy outer inner).handle .blocking (op.withKind .sync) := by
  simp only [Policy.handle]
  rw [ih ex op, Leaf.handle_execution outer t ex]

/-- A wrapped chain turns its execution into the drive of its steps and the kind of the
operation in its open slot; its steps depend on neither. -/
theorem handle_wrapChain_blocking (outer : Leaf σ) (elements : List (Element σ t))
    (executor : Executor) (aggregate : AggregateBuilder) (throw : Bool) (mode : FailureMode)
    (ih : ∀ drive fill, Chain.runSteps executor drive elements fill [] =
      Chain.runSteps executor .blocking elements (fill.map (·.withKind .sync)) [])
    (ex : Execution) (op : Operation σ t.Carrier) :
    (wrapChain outer ⟨elements, executor, aggregate, throw⟩ mode).handle ex op =
      (wrapChain outer ⟨elements, executor, aggregate, throw⟩ mode).handle .blocking
        (op.withKind .sync) := by
  simp only [Policy.handle]
  conv_lhs => rw [ih]
  conv_rhs => rw [ih]
  rw [Leaf.handle_execution outer t ex]
  rfl

end Policy

namespace Chain

/-- One element of a chain: its policy and the rest of the run do not depend on the
execution, so neither does the step. The operation comes from the element, or from the
open slot when the element is the last one and has none. -/
theorem runSteps_cons_blocking (executor : Executor) (policy : Policy σ t)
    (operation : Option (Operation σ t.Carrier)) (rest : List (Element σ t))
    (ihp : ∀ ex op, policy.handle ex op = policy.handle .blocking (op.withKind .sync))
    (ihr : ∀ drive fill steps, runSteps executor drive rest fill steps =
      runSteps executor .blocking rest (fill.map (·.withKind .sync)) steps)
    (drive : Execution) (fill : Option (Operation σ t.Carrier))
    (steps : List (ChainStep t.Carrier)) :
    runSteps executor drive (⟨policy, operation⟩ :: rest) fill steps =
      runSteps executor .blocking (⟨policy, operation⟩ :: rest)
        (fill.map (·.withKind .sync)) steps := by
  cases operation with
  | some op =>
    simp only [runSteps]
    conv_lhs => rw [ihp]
    conv_rhs => rw [ihp]
    congr 1
    funext cancelled
    -- the step itself is now the same on both sides; only the rest of the run may differ
    have hrest : ∀ outcome : Outcome t.Carrier,
        (if (⟨policy.name, op.target, outcome⟩ : ChainStep t.Carrier).allowsNext then
          runSteps executor drive rest fill (steps ++ [⟨policy.name, op.target, outcome⟩])
        else pure (.ok (steps ++ [⟨policy.name, op.target, outcome⟩]))) =
        (if (⟨policy.name, op.target, outcome⟩ : ChainStep t.Carrier).allowsNext then
          runSteps executor .blocking rest (fill.map (·.withKind .sync))
            (steps ++ [⟨policy.name, op.target, outcome⟩])
        else pure (.ok (steps ++ [⟨policy.name, op.target, outcome⟩]))) := by
      intro outcome
      split
      · exact ihr drive fill _
      · rfl
    simp only [hrest]
  | none =>
    cases rest with
    | cons next rest => simp [runSteps]
    | nil =>
      -- the last element runs the operation of the open slot, if there is one
      cases fill with
      | none => simp [runSteps]
      | some op =>
        simp only [runSteps, List.isEmpty_nil, if_true, Option.map_some]
        conv_lhs => rw [ihp]
        conv_rhs => rw [ihp]
        rfl

end Chain

mutual

/-- A tree's invocation is its blocking invocation on the synchronous form of the
operation. By induction on the tree, through the chains it holds. -/
theorem Policy.handle_blocking :
    ∀ (p : Policy σ t) (ex : Execution) (op : Operation σ t.Carrier),
      p.handle ex op = p.handle .blocking (op.withKind .sync)
  | .leaf l, ex, op => Policy.handle_leaf_blocking l ex op
  | .wrapPolicy outer inner, ex, op =>
    Policy.handle_wrapPolicy_blocking outer inner (Policy.handle_blocking inner) ex op
  | .wrapChain outer ⟨elements, executor, aggregate, throw⟩ mode, ex, op =>
    Policy.handle_wrapChain_blocking outer elements executor aggregate throw mode
      (fun drive fill => Chain.runSteps_blocking executor drive elements fill []) ex op

/-- The remaining elements of a chain run the same under every drive, and whatever the
kind of the operation in the open slot. -/
theorem Chain.runSteps_blocking (executor : Executor) :
    ∀ (drive : Execution) (elements : List (Element σ t))
      (fill : Option (Operation σ t.Carrier)) (steps : List (ChainStep t.Carrier)),
      Chain.runSteps executor drive elements fill steps =
        Chain.runSteps executor .blocking elements (fill.map (·.withKind .sync)) steps
  | _, [], _, _ => by simp [Chain.runSteps]
  | drive, ⟨policy, operation⟩ :: rest, fill, steps =>
    Chain.runSteps_cons_blocking executor policy operation rest (Policy.handle_blocking policy)
      (Chain.runSteps_blocking executor · rest) drive fill steps

end

/-- Synchronous, inline and detached invocations agree. A policy tree invoked from
synchronous code on a synchronous operation, and invoked from asynchronous code on the
asynchronous operation with the same target and the same behaviour, inline or detached, is
one and the same computation: the same calls in the same order, and the same outcome. -/
theorem Policy.handle_await_modes_agree (p : Policy σ t) (target : Target)
    (call : Act σ (Except Fault t.Carrier)) :
    p.handle .blocking ⟨target, .sync, call⟩ = p.handle (.awaiting .inline) ⟨target, .async, call⟩ ∧
      p.handle (.awaiting .inline) ⟨target, .async, call⟩ =
        p.handle (.awaiting .detached) ⟨target, .async, call⟩ := by
  constructor
  · -- the synchronous operation is already its own synchronous form
    rw [Policy.handle_blocking p (.awaiting .inline)]
    rfl
  · rw [Policy.handle_blocking p (.awaiting .inline), Policy.handle_blocking p (.awaiting .detached)]

namespace Chain

/-- A chain run does not depend on the drive it is asked for: whichever dispatch the kinds
of its operations select, each step runs as it would from synchronous code. -/
theorem runAll_execution (c : Chain σ t) (drive : Execution) :
    c.runAll drive = c.runAll .blocking := by
  have hsteps : ∀ drive : Execution, runSteps c.executor drive c.elements none [] =
      runSteps c.executor .blocking c.elements none [] := fun drive =>
    Chain.runSteps_blocking c.executor drive c.elements none []
  simp only [runAll]
  rw [hsteps (driveFor _ drive), hsteps (driveFor _ .blocking)]

/-- Synchronous and asynchronous chain runs agree: in either await mode, running a chain
from asynchronous code is the same computation as running it from synchronous code, with
the same structural errors, the same steps and the same unused elements. -/
theorem handleAll_awaiting_eq_blocking (c : Chain σ t) (mode : AwaitMode) :
    c.handleAll (.awaiting mode) = c.handleAll .blocking := by
  unfold handleAll
  rw [runAll_execution c (.awaiting mode)]

end Chain

end Resilience

import Mathlib
import Resilience.Proofs.Trace.Leaf
import Resilience.Policy.Tree

/-!
# Cancellation takes precedence

The token is checked at several points of a policy's run: when the policy starts, when an
error is screened before the filter, after each failing bulk step and once the bulk steps are
done. Through wrapping, the same token may fire inside an inner policy or chain, and the outer
leaf then only sees the error that inner run resurfaces. Whatever the nesting and the
strategy, a cancellation wins:

* on a token cancelled when the policy starts, nothing runs but the handlers (and the
  observer of a retry policy): `Policy.handle_of_cancelled` says the run is `Policy.skipped`,
  which never calls the operation, a bulk step or a fallback, and its outcome is canceled,
  not failed, without errors or a value (`Leaf.CanceledAtEntry`);
* on a live token, an error whose processing ends with the token cancelled is the last thing
  the outer leaf does, and the outcome is failed and canceled with that error unprocessed,
  whatever the filter would have said of it.

Both are facts about the outer leaf, which decides a policy's outcome. A wrapped policy runs
it in the world that also keeps the inner runs, on the operation that runs the inner node:
`Policy.innerCall` for a policy, `Policy.chainCall` for a chain. `Policy.Tries` says how that
leaf ran.

## Main definitions

* `Policy.innerCall`, `Policy.chainCall`: The operation a wrapped policy hands its outer leaf.
* `Policy.skipped`: What a policy tree does on a cancelled token.
* `Policy.Tries`: How the outer leaf of a policy tree ran on a live token.

## Theorems

* `Policy.handle_of_cancelled`: On a cancelled token a policy only does what `skipped` does.
* `Policy.stops_on_token`: On a live token the outer leaf runs as `Tries` says and stops on
  the first error whose processing leaves the token cancelled.
* `Policy.cancellation_precedence`: A cancelled token wins at entry and at every error.
-/

namespace Resilience

/-- A run in the world of a wrapping leaf, read back as a run of the state transformer. -/
theorem SceneRun.state_run_eq {σ ρ β : Type} {x : StateT ρ (Act σ) β} {r r' : ρ}
    {s s' : Scene σ} {b : β} (h : (SceneRun.state ρ).run x (r, s) = (b, r', s')) :
    (x.run r).run s = ((b, r'), s') := by
  have hunfold : (SceneRun.state ρ).run x (r, s) =
      (((x.run r).run s).1.1, ((x.run r).run s).1.2, ((x.run r).run s).2) := rfl
  rw [hunfold] at h
  simp only [Prod.mk.injEq] at h
  obtain ⟨hb, hr, hs⟩ := h
  rw [← hb, ← hr, ← hs]
  rfl

namespace Policy

variable {σ : Type} {t : ValueType}

/-- The operation a wrapped policy hands its outer leaf: each call runs the inner policy on
the invocation's operation, keeps the inner outcome among the runs, and gives back what the
outcome surfaces. -/
def innerCall (inner : Policy σ t) (ex : Execution) (op : Operation σ t.Carrier) :
    StateT (List (Outcome t.Carrier)) (Act σ) (Except Fault t.Carrier) := do
  let o ← monadLift (Policy.handle inner ex op)
  let (result, o) := Outcome.surface inner.name t.unit? o
  modify (· ++ [o])
  return result

/-- The operation a wrapped chain hands its outer leaf: each call runs the chain with the
invocation's operation in its open last slot, keeps the chain run among the runs, and gives
back what the run surfaces, or a structural error. -/
def chainCall (elements : List (Element σ t)) (executor : Executor) (aggregate : AggregateBuilder)
    (mode : FailureMode) (ex : Execution) (op : Operation σ t.Carrier) :
    StateT (List (ChainRun t.Carrier)) (Act σ) (Except Fault t.Carrier) := do
  let fill : Operation σ t.Carrier := { op with kind := ex.operationKind }
  let drive := Chain.driveFor (Element.kinds (some fill) elements) ex
  match ← monadLift (Chain.runSteps executor drive elements (some fill) []) with
  | .error e => return .error (.ofFailure (.structural e.message))
  | .ok steps =>
    let run : ChainRun t.Carrier :=
      { steps, unused := (elements.drop steps.length).map (·.policy.name) }
    let (result, run) := ChainRun.surface mode aggregate t.unit? run
    modify (· ++ [run])
    return result

theorem handle_wrapPolicy (outer : Leaf σ) (inner : Policy σ t) (ex : Execution)
    (op : Operation σ t.Carrier) :
    (wrapPolicy outer inner).handle ex op = do
      let (o, runs) ← (outer.handle t ex (innerCall inner ex op)).run []
      return { o with wrapped := some (.policy runs) } := by
  simp only [Policy.handle]
  rfl

theorem handle_wrapChain (outer : Leaf σ) (elements : List (Element σ t)) (executor : Executor)
    (aggregate : AggregateBuilder) (throw : Bool) (mode : FailureMode) (ex : Execution)
    (op : Operation σ t.Carrier) :
    (wrapChain outer ⟨elements, executor, aggregate, throw⟩ mode).handle ex op = do
      let (o, runs) ← (outer.handle t ex (chainCall elements executor aggregate mode ex op)).run []
      return { o with wrapped := some (.chain runs) } := by
  simp only [Policy.handle]
  rfl

/-- What a policy tree does on a token that is already cancelled: what its outer leaf does,
with no inner run recorded. -/
def skipped : Policy σ t → Execution → Act σ (Outcome t.Carrier)
  | .leaf l, ex => l.skipped ex
  | .wrapPolicy outer _, ex => do
    let o ← outer.skipped ex
    return { o with wrapped := some (.policy []) }
  | .wrapChain outer _ _, ex => do
    let o ← outer.skipped ex
    return { o with wrapped := some (.chain []) }

/-- How the outer leaf of a policy tree ran on a live token from the scene `s`: its strategy
made the attempts `attempts` and, for a fallback policy, the fallback gave `fb`. A wrapped
policy's outer leaf runs in the world that also keeps the inner runs, from none, on the
operation that runs the inner node. -/
def Tries : Policy σ t → Execution → Operation σ t.Carrier → Scene σ →
    List (Leaf.Attempt t.Carrier) → Option (Except Fault t.Carrier) → Prop
  | .leaf l, ex, op, s, attempts, fb =>
    ∃ o w', Leaf.Strategy SceneRun.act l t ex op.call s attempts fb o w'
  | .wrapPolicy outer inner, ex, op, s, attempts, fb =>
    ∃ o w', Leaf.Strategy (SceneRun.state _) outer t ex (innerCall inner ex op) ([], s)
      attempts fb o w'
  | .wrapChain outer ⟨elements, executor, aggregate, _⟩ mode, ex, op, s, attempts, fb =>
    ∃ o w', Leaf.Strategy (SceneRun.state _) outer t ex
      (chainCall elements executor aggregate mode ex op) ([], s) attempts fb o w'

/-- A wrapping leaf run on a cancelled token from no inner runs keeps none. -/
theorem run_wrapped_of_cancelled {ρ : Type} (outer : Leaf σ) (ex : Execution)
    (call : StateT (List ρ) (Act σ) (Except Fault t.Carrier)) (s : Scene σ)
    (hcancelled : s.cancelled = true) :
    ((outer.handle t ex call).run []).run s =
      ((((outer.skipped (α := t.Carrier) ex).run s).1, []),
        ((outer.skipped (α := t.Carrier) ex).run s).2) := by
  apply SceneRun.state_run_eq
  rw [Leaf.handle_of_cancelled (SceneRun.state (List ρ)) outer t ex call ([], s) hcancelled]
  rfl

/-- On a token cancelled before a policy tree starts, it only does what `skipped` does:
neither its operation, nor a bulk step, nor a fallback, nor an inner node runs. -/
theorem handle_of_cancelled (p : Policy σ t) (ex : Execution) (op : Operation σ t.Carrier)
    (s : Scene σ) (hcancelled : s.cancelled = true) :
    (p.handle ex op).run s = (p.skipped ex).run s := by
  cases p with
  | leaf l =>
    simp only [Policy.handle, skipped]
    exact Leaf.handle_of_cancelled SceneRun.act l t ex op.call s hcancelled
  | wrapPolicy outer inner =>
    rw [handle_wrapPolicy, StateT.run_bind, run_wrapped_of_cancelled outer ex _ s hcancelled]
    rfl
  | wrapChain outer chain mode =>
    obtain ⟨elements, executor, aggregate, throw⟩ := chain
    rw [handle_wrapChain, StateT.run_bind, run_wrapped_of_cancelled outer ex _ s hcancelled]
    rfl

theorem skipped_canceledAtEntry (p : Policy σ t) (ex : Execution) (s : Scene σ) :
    Leaf.CanceledAtEntry ((p.skipped ex).run s).1 := by
  cases p with
  | leaf l => exact Leaf.skipped_canceledAtEntry l ex s
  | wrapPolicy outer inner => exact (Leaf.skipped_canceledAtEntry outer ex s).withWrapped _
  | wrapChain outer chain mode => exact (Leaf.skipped_canceledAtEntry outer ex s).withWrapped _

/-- A wrapping leaf run on a live token from no inner runs stops as its strategy does: the
wrapping policy only records the inner runs in the outcome, which `StoppedOn` does not read. -/
theorem wrapped_stops_on_token {ρ : Type} (outer : Leaf σ) (ex : Execution)
    (call : StateT (List ρ) (Act σ) (Except Fault t.Carrier))
    (wrap : List ρ → WrappedRuns t.Carrier) (s : Scene σ) (hlive : s.cancelled = false) :
    ∃ attempts fb, (∃ o w', Leaf.Strategy (SceneRun.state _) outer t ex call ([], s)
        attempts fb o w') ∧
      Leaf.StopsOnToken attempts fb
        ((do
          let (o, runs) ← (outer.handle t ex call).run []
          return { o with wrapped := some (wrap runs) } : Act σ (Outcome t.Carrier)).run s).1 := by
  obtain ⟨attempts, fb, o₀, w₁, o, ⟨runs, s'⟩, hstrategy, hrun, hstops⟩ :=
    Leaf.handle_stops_on_token (SceneRun.state _) outer t ex call ([], s) hlive
  -- the outer leaf's run in the world of inner runs, read back as a run of the policy
  have hout : ((do
      let (o, runs) ← (outer.handle t ex call).run []
      return { o with wrapped := some (wrap runs) } : Act σ (Outcome t.Carrier)).run s) =
        ({ o with wrapped := some (wrap runs) }, s') := by
    rw [StateT.run_bind, SceneRun.state_run_eq hrun]
    rfl
  refine ⟨attempts, fb, ⟨o₀, w₁, hstrategy⟩, ?_⟩
  rw [hout]
  exact hstops.withWrapped _

/-- On a live token the outer leaf of a policy tree runs as `Tries` says, and every error of
its operation whose processing ended with the token cancelled is the last attempt, no fallback
ran, and the policy's outcome is failed by the processor and canceled with that error
unprocessed. -/
theorem stops_on_token (p : Policy σ t) (ex : Execution) (op : Operation σ t.Carrier)
    (s : Scene σ) (hlive : s.cancelled = false) :
    ∃ attempts fb, p.Tries ex op s attempts fb ∧
      Leaf.StopsOnToken attempts fb ((p.handle ex op).run s).1 := by
  cases p with
  | leaf l =>
    obtain ⟨attempts, fb, o₀, w₁, o, w', hstrategy, hrun, hstops⟩ :=
      Leaf.handle_stops_on_token SceneRun.act l t ex op.call s hlive
    have hout : ((leaf l).handle ex op).run s = (o, w') := hrun
    refine ⟨attempts, fb, ⟨o₀, w₁, hstrategy⟩, ?_⟩
    rw [hout]
    exact hstops
  | wrapPolicy outer inner =>
    rw [handle_wrapPolicy]
    exact wrapped_stops_on_token outer ex (innerCall inner ex op) WrappedRuns.policy s hlive
  | wrapChain outer chain mode =>
    obtain ⟨elements, executor, aggregate, throw⟩ := chain
    rw [handle_wrapChain]
    exact wrapped_stops_on_token outer ex (chainCall elements executor aggregate mode ex op)
      WrappedRuns.chain s hlive

/-- Cancellation precedence. On a token cancelled when a policy tree is invoked, the invocation
does only what `skipped` does, so no operation, bulk step, fallback or inner node runs, and the
outcome is canceled, without errors or a value, and failed only if a handler asked for it. On
a live token, an error of the outer leaf's operation whose processing ended with the token
cancelled, by the operation, a bulk step or an inner run, is the last thing the leaf does: no
attempt, retry or fallback follows it, and the outcome is failed by the processor and canceled
with that error unprocessed, no rejection by the filter recorded. -/
theorem cancellation_precedence (p : Policy σ t) (ex : Execution) (op : Operation σ t.Carrier)
    (s : Scene σ) :
    (s.cancelled = true → (p.handle ex op).run s = (p.skipped ex).run s ∧
      Leaf.CanceledAtEntry ((p.handle ex op).run s).1) ∧
    (s.cancelled = false → ∃ attempts fb, p.Tries ex op s attempts fb ∧
      ∀ fault handling, Leaf.Attempt.error fault handling ∈ attempts →
        handling.tokenAtEnd = true →
          attempts.getLast? = some (.error fault handling) ∧ fb = none ∧
            Leaf.StoppedOn fault handling ((p.handle ex op).run s).1 ∧
            ((p.handle ex op).run s).1.state.canceled = true ∧
            ((p.handle ex op).run s).1.state.filterUnsatisfied = false) := by
  refine ⟨fun hcancelled => ?_, fun hlive => ?_⟩
  · have hrun := handle_of_cancelled p ex op s hcancelled
    exact ⟨hrun, hrun ▸ skipped_canceledAtEntry p ex s⟩
  · obtain ⟨attempts, fb, htries, hstops⟩ := stops_on_token p ex op s hlive
    refine ⟨attempts, fb, htries, fun fault handling hmem htoken => ?_⟩
    obtain ⟨hlast, hfb, hstopped, hcanceled⟩ := hstops fault handling hmem htoken
    -- a rejection leaves the token live, so this error was not rejected
    have hnot : handling ≠ .rejected := by
      rintro rfl
      simp [Processor.Handling.tokenAtEnd] at htoken
    have hfilter : ((p.handle ex op).run s).1.state.filterUnsatisfied = false := by
      cases hf : ((p.handle ex op).run s).1.state.filterUnsatisfied with
      | false => rfl
      | true => exact absurd (hstopped.filterUnsatisfied_iff.1 hf) hnot
    exact ⟨hlast, hfb, hstopped, hcanceled, hfilter⟩

/-- A simple policy invoked on a cancelled token meets the first condition. -/
theorem cancellation_precedence_at_entry :
    (⟨true, (), fun _ => 0⟩ : Scene Unit).cancelled = true ∧
      ((leaf Leaf.simple : Policy Unit .unit).handle .blocking
          ⟨⟨"Client", "fetch"⟩, .sync, pure (.ok ())⟩).run ⟨true, (), fun _ => 0⟩ =
        ((leaf Leaf.simple : Policy Unit .unit).skipped .blocking).run ⟨true, (), fun _ => 0⟩ ∧
      Leaf.CanceledAtEntry (((leaf Leaf.simple : Policy Unit .unit).handle .blocking
          ⟨⟨"Client", "fetch"⟩, .sync, pure (.ok ())⟩).run ⟨true, (), fun _ => 0⟩).1 :=
  ⟨rfl, (cancellation_precedence _ _ _ _).1 rfl⟩

end Policy

end Resilience

import Mathlib
import Resilience.Proofs.Tree.Surface
import Resilience.Proofs.Tree.Execution
import Resilience.Proofs.Chain.Order
import Resilience.Proofs.Chain.Consistency

/-!
# What a wrapped chain hands its outer leaf

A policy wrapping a chain runs its outer leaf on an operation of its own, as a policy wrapping
another policy does. Here the operation runs a copy of the chain with the invocation's
operation in the open last slot, if the chain has one; a chain whose last element is bound is
run as it is, and the invocation's operation is never called (`Chain.boundWith_of_bound`).
The operation takes the kind that the invocation's execution gives it, and the copy runs as
`Chain.runAll` runs it under that execution. A chain wrapped this way was built consistent and
not empty, so every element of the copy is bound. Each call therefore runs to a list of
steps: never a structural error and never a run with no step (`Policy.chainCall_run`). The
chain's option to turn a faulted run into an error is never read.

What the run hands on depends on its status (`ChainRun.Surfaced`). A run whose last step gave
a value hands on that value, moved out of the run kept, or the unit value. A canceled run is
reported as canceled. A faulted run hands on, in one mode, the cause of its last step: that
step failed, since a run's status is its last step's (`ChainRun.lastError?_of_isFaulted`).
In the other mode it hands on one aggregate error that the chain's builder makes from the
steps. The runs kept are as many as the outer leaf made attempts, by the count of
`Tree.Surface`.

## Main definitions

* `ChainRun.Surfaced`: What a chain run hands the outer operation, and what is kept.

## Theorems

* `Chain.boundWith_of_bound`: A chain whose last element is bound is its own copy.
* `Chain.runAll_boundWith`: The copy of a consistent chain runs to its steps.
* `ChainRun.surface_surfaced`: Every run surfaces as `Surfaced` says.
* `Policy.chainCall_run`: One call of the copy.
* `Policy.wrapChain_surfaces_runs`: A wrapped chain's runs, call by call.
-/

namespace Resilience

variable {σ : Type} {t : ValueType}

/-- Binding an operation changes no element's policy. -/
theorem Element.names_bindLastIfOpen (op : Operation σ t.Carrier) :
    ∀ es : List (Element σ t),
      (bindLastIfOpen op es).map (·.policy.name) = es.map (·.policy.name)
  | [] => rfl
  | [e] => by
    simp only [bindLastIfOpen, List.map_cons, List.map_nil, bindIfOpen]
    split <;> rfl
  | e :: e' :: rest => by
    rw [bindLastIfOpen]
    · simp only [List.map_cons, names_bindLastIfOpen op (e' :: rest)]
    · exact List.cons_ne_nil e' rest

namespace ChainRun

variable {α : Type}

theorem takeValue_fst (run : ChainRun α) : run.takeValue.1 = run.value? := by
  unfold takeValue value?
  cases run.steps.getLast? <;> rfl

theorem isFaulted_eq_true_iff (run : ChainRun α) :
    run.isFaulted = true ↔ run.status = .faulted ∨ run.status = .faultedCanceled := by
  unfold isFaulted
  split <;> simp_all

/-- A faulted run's last failed step is its last step, so its last error is that step's
cause. -/
theorem lastError?_of_isFaulted {run : ChainRun α} (h : run.isFaulted = true) :
    ∃ last, run.steps.getLast? = some last ∧ last.outcome.isFailed = true ∧
      run.lastError? = last.outcome.unprocessed.orElse fun _ => last.outcome.state.lastError? := by
  rw [isFaulted_eq_true_iff] at h
  unfold status at h
  cases hlast : run.steps.getLast? with
  | none => simp [hlast] at h
  | some last =>
    -- the status names the last step's flags, and both faulted statuses have it failed
    have hfailed : last.outcome.isFailed = true := by
      rw [hlast] at h
      cases hf : last.outcome.isFailed <;> cases hc : last.outcome.isCanceled <;> simp_all
      split at h <;> simp_all
    refine ⟨last, rfl, hfailed, ?_⟩
    -- searching the steps from the end finds the last one first
    obtain ⟨init, hsteps⟩ := List.getLast?_eq_some_iff.1 hlast
    simp [lastError?, hsteps, hfailed]

/-- How the chain run `run` reaches the outer operation in the failure mode `mode`: `r` is
the result handed on and the run kept among the wrapped runs. -/
structure Surfaced (mode : FailureMode) (aggregate : AggregateBuilder) (unit? : Option α)
    (run : ChainRun α) (r : Except Fault α × ChainRun α) : Prop where
  /-- A run whose last step gave a value hands it on, moved out of the run kept, or the unit
  value. -/
  value : run.status = .lastSuccess ∨ run.status = .lastOk →
    r = ((run.value?.orElse fun _ => unit?).elim (.error (.ofFailure .noValue)) .ok,
      run.takeValue.2)
  /-- A canceled run is reported as such. -/
  canceled : run.status = .canceled → r = (.error (.ofFailure .canceled), run)
  /-- A faulted run hands on the cause of its last step, which failed. -/
  lastError : run.isFaulted = true → mode = .lastError →
    ∃ last, run.steps.getLast? = some last ∧ last.outcome.isFailed = true ∧
      r = (.error ((last.outcome.unprocessed.orElse fun _ => last.outcome.state.lastError?).getD
        (.msg "policy collection failed")), run)
  /-- Or the aggregate the builder makes of its steps. -/
  aggregate : run.isFaulted = true → mode = .aggregate →
    r = (.error (.ofFailure (.aggregate (aggregate run.summaries))), run)

theorem surface_surfaced (mode : FailureMode) (aggregate : AggregateBuilder) (unit? : Option α)
    (run : ChainRun α) : Surfaced mode aggregate unit? run (run.surface mode aggregate unit?) := by
  refine ⟨fun h => ?_, fun h => by simp [surface, h], fun hf hmode => ?_, fun hf hmode => ?_⟩
  · rw [← takeValue_fst]
    rcases h with h | h <;>
    · simp only [surface, h]
      cases run.takeValue.1.orElse fun _ => unit? <;> rfl
  · obtain ⟨last, hlast, hfailed, herror⟩ := lastError?_of_isFaulted hf
    refine ⟨last, hlast, hfailed, ?_⟩
    rcases (isFaulted_eq_true_iff run).1 hf with h | h <;> simp [surface, h, hmode, herror]
  · rcases (isFaulted_eq_true_iff run).1 hf with h | h <;> simp [surface, h, hmode]

end ChainRun

namespace Chain

/-- A chain whose last element is bound is copied as it is: the operation offered for the
open slot is never run. -/
theorem boundWith_of_bound (c : Chain σ t) (op : Operation σ t.Carrier)
    (hlast : ∀ last ∈ c.elements.getLast?, last.operation.isSome) : c.boundWith op = c := by
  obtain ⟨elements, executor, aggregate, throw⟩ := c
  simp only [boundWith, Element.bindLastIfOpen_eq, Chain.mk.injEq, and_true]
  cases hl : elements.getLast? with
  | none => simp [List.getLast?_eq_none_iff.1 hl]
  | some last =>
    obtain ⟨op', hop'⟩ := Option.isSome_iff_exists.1 (hlast last hl)
    simp only [Option.map_some, Option.toList_some, Element.bindIfOpen, hop']
    exact List.dropLast_append_getLast? last hl

/-- The copy of a consistent chain runs to its steps under every drive, as `Runs` says, and
leaves the copy's elements past them unused. -/
theorem runAll_boundWith (c : Chain σ t) (hc : c.Consistent) (op : Operation σ t.Carrier)
    (drive : Execution) (s₀ : Scene σ) :
    ∃ steps s₁,
      (runSteps c.executor .blocking (Element.bindLastIfOpen op c.elements) none []).run s₀ =
        (.ok steps, s₁) ∧
      Runs c.executor .blocking (Element.bindLastIfOpen op c.elements) s₀ steps s₁ ∧
      ((c.boundWith op).runAll drive).run s₀ =
        (.ok ⟨steps, (c.boundWith op).elements.drop steps.length⟩, s₁) := by
  have hbound := hc.boundWith_bound op
  obtain ⟨steps, s₁, hsteps, hruns⟩ :=
    runSteps_runs c.executor .blocking (c.boundWith op).elements hbound [] s₀
  simp only [List.nil_append] at hsteps
  refine ⟨steps, s₁, hsteps, hruns, ?_⟩
  rw [runAll_execution, runAll_of_runSteps (c.boundWith op) .blocking hbound hsteps]

/-- The copy's elements carry the chain's policies, so an outcome keeps the same names for the
elements a run of the copy left unused. -/
theorem toRun_boundWith (c : Chain σ t) (op : Operation σ t.Carrier)
    (steps : List (ChainStep t.Carrier)) (n : Nat) :
    (⟨steps, (c.boundWith op).elements.drop n⟩ : ChainResult σ t).toRun =
      { steps, unused := (c.elements.drop n).map (·.policy.name) } := by
  rw [ChainResult.toRun, List.map_drop, List.map_drop, boundWith, Element.names_bindLastIfOpen]

end Chain

namespace Policy

/-- One call of a consistent, non-empty wrapped chain: it runs the copy with the operation,
in the kind the execution gives it, in the open slot, and reports that run, which took at
least one step. -/
theorem chainCall_run (c : Chain σ t) (hc : c.Consistent) (hne : c.elements ≠ [])
    (mode : FailureMode) (ex : Execution) (op : Operation σ t.Carrier)
    (runs : List (ChainRun t.Carrier)) (s₀ : Scene σ) :
    ∃ run s₁, ((c.boundWith (op.withKind ex.operationKind)).runAll ex).run s₀ = (.ok run, s₁) ∧
      run.toRun.status ≠ .created ∧
      ((chainCall c.elements c.executor c.aggregate mode ex op).run runs).run s₀ =
        (((run.toRun.surface mode c.aggregate t.unit?).1,
          runs ++ [(run.toRun.surface mode c.aggregate t.unit?).2]), s₁) := by
  obtain ⟨steps, s₁, hsteps, hruns, hrunAll⟩ :=
    Chain.runAll_boundWith c hc (op.withKind ex.operationKind) ex s₀
  refine ⟨_, s₁, hrunAll, ?_, ?_⟩
  · have hne' : Element.bindLastIfOpen (op.withKind ex.operationKind) c.elements ≠ [] := by
      intro hnil
      have hnames := Element.names_bindLastIfOpen (op.withKind ex.operationKind) c.elements
      rw [hnil] at hnames
      exact hne (List.map_eq_nil_iff.1 hnames.symm)
    rw [Ne, ChainRun.status_eq_created_iff, ChainResult.toRun_steps]
    exact hruns.ne_nil hne'
  · -- filling the open slot is running the copy, and every drive runs it as the blocking one
    have hcall : (Chain.runSteps c.executor
        (Chain.driveFor (Element.kinds (some (op.withKind ex.operationKind)) c.elements) ex)
        c.elements (some (op.withKind ex.operationKind)) []).run s₀ = pure (.ok steps, s₁) := by
      rw [Chain.runSteps_fill, Chain.runSteps_blocking]
      exact hsteps
    simp only [Operation.withKind] at hcall
    simp [chainCall, hcall, Chain.toRun_boundWith]
    rfl

/-- The number of runs kept counts the calls of the chain. -/
theorem chainCall_counter (c : Chain σ t) (hc : c.Consistent) (hne : c.elements ≠ [])
    (mode : FailureMode) (ex : Execution) (op : Operation σ t.Carrier) :
    (SceneRun.state (List (ChainRun t.Carrier))).CallCounter
      (chainCall c.elements c.executor c.aggregate mode ex op) (·.1.length) :=
  SceneRun.CallCounter.of_appends fun runs s₀ => by
    obtain ⟨run, s₁, -, -, hcall⟩ := chainCall_run c hc hne mode ex op runs s₀
    exact ⟨_, by rw [hcall]⟩

/-- A wrapped chain surfaces its runs. The copy it runs holds the invocation's operation in
the open last slot, and is the chain itself when that slot is bound. The outer leaf runs, from
no runs kept, on an operation each call of which runs the copy once under the invocation's
execution, never refused and never without a step, keeps the run and hands on what it
surfaces; the chain's option to throw on a faulted run plays no part. On a cancelled token no
run is kept; on a live one, as many as the outer leaf made attempts. -/
theorem wrapChain_surfaces_runs (outer : Leaf σ) (c : Chain σ t) (mode : FailureMode)
    (hc : c.Consistent) (hne : c.elements ≠ []) (ex : Execution) (op : Operation σ t.Carrier)
    (s : Scene σ) :
    (c.boundWith (op.withKind ex.operationKind)).elements = c.elements.dropLast ++
      (c.elements.getLast?.map fun last => if last.operation.isSome then last
        else { last with operation := some (op.withKind ex.operationKind) }).toList ∧
    ((∀ last ∈ c.elements.getLast?, last.operation.isSome) →
      c.boundWith (op.withKind ex.operationKind) = c) ∧
    (wrapChain outer c mode).handle ex op = (do
      let (o, runs) ←
        (outer.handle t ex (chainCall c.elements c.executor c.aggregate mode ex op)).run []
      return { o with wrapped := some (.chain runs) }) ∧
    (∀ throw, (wrapChain outer { c with throwOnLastFailed := throw } mode).handle ex op =
      (wrapChain outer c mode).handle ex op) ∧
    (∀ runs s₀, ∃ run s₁,
      ((c.boundWith (op.withKind ex.operationKind)).runAll ex).run s₀ = (.ok run, s₁) ∧
      run.toRun.status ≠ .created ∧
      ((chainCall c.elements c.executor c.aggregate mode ex op).run runs).run s₀ =
        (((run.toRun.surface mode c.aggregate t.unit?).1,
          runs ++ [(run.toRun.surface mode c.aggregate t.unit?).2]), s₁) ∧
      ChainRun.Surfaced mode c.aggregate t.unit? run.toRun
        (run.toRun.surface mode c.aggregate t.unit?)) ∧
    (s.cancelled = true →
      (((wrapChain outer c mode).handle ex op).run s).1.wrapped = some (.chain [])) ∧
    (s.cancelled = false → ∃ attempts fb runs, (wrapChain outer c mode).Tries ex op s attempts fb ∧
      (((wrapChain outer c mode).handle ex op).run s).1.wrapped = some (.chain runs) ∧
      runs.length = attempts.length) := by
  refine ⟨Chain.boundWith_elements c _, Chain.boundWith_of_bound c _, ?_, fun throw => ?_,
    fun runs s₀ => ?_, fun hcancelled => ?_, fun hlive => ?_⟩
  · obtain ⟨elements, executor, aggregate, throw⟩ := c
    exact handle_wrapChain outer elements executor aggregate throw mode ex op
  · -- the invocation reads the chain's elements, executor and builder only
    obtain ⟨elements, executor, aggregate, throw'⟩ := c
    rfl
  · obtain ⟨run, s₁, hrunAll, hstatus, hcall⟩ := chainCall_run c hc hne mode ex op runs s₀
    exact ⟨run, s₁, hrunAll, hstatus, hcall, ChainRun.surface_surfaced _ _ _ run.toRun⟩
  · rw [handle_of_cancelled _ ex op s hcancelled]
    rfl
  · obtain ⟨attempts, fb, o, w₁, hstrategy, hlength⟩ :=
      Leaf.handle_runs_length (chainCall_counter c hc hne mode ex op) outer ex s hlive
    obtain ⟨elements, executor, aggregate, throw⟩ := c
    exact ⟨attempts, fb, _, ⟨o, w₁, hstrategy⟩, by rw [handle_wrapChain, run_wrapped], hlength⟩

/-- A chain of a fallback policy bound to a read that fails, then a simple policy with the
slot left open. -/
def staleCacheChain : Chain Unit .unit :=
  { elements :=
      [⟨.leaf .fallback, some ⟨⟨"Cache", "read"⟩, .sync, pure (.error (.msg "stale"))⟩⟩,
       ⟨.leaf .simple, none⟩] }

/-- A simple policy wrapping a chain whose bound first element fails and whose open last slot
takes the invocation's operation, on a live token. -/
theorem wrapChain_surfaces_runs_stale_cache :
    staleCacheChain.Consistent ∧ staleCacheChain.elements ≠ [] ∧
      (⟨false, (), fun _ => 0⟩ : Scene Unit).cancelled = false ∧
      ∃ attempts fb runs,
        (wrapChain Leaf.simple staleCacheChain .lastError).Tries .blocking
          ⟨⟨"Store", "get"⟩, .sync, pure (.ok ())⟩ ⟨false, (), fun _ => 0⟩ attempts fb ∧
        (((wrapChain Leaf.simple staleCacheChain .lastError).handle .blocking
          ⟨⟨"Store", "get"⟩, .sync, pure (.ok ())⟩).run ⟨false, (), fun _ => 0⟩).1.wrapped =
            some (.chain runs) ∧
        runs.length = attempts.length :=
  ⟨by simp [staleCacheChain, Chain.Consistent], by simp [staleCacheChain], rfl,
    (wrapChain_surfaces_runs Leaf.simple staleCacheChain .lastError
      (by simp [staleCacheChain, Chain.Consistent]) (by simp [staleCacheChain]) .blocking
      ⟨⟨"Store", "get"⟩, .sync, pure (.ok ())⟩ ⟨false, (), fun _ => 0⟩).2.2.2.2.2.2 rfl⟩

end Policy

end Resilience

import Mathlib
import Resilience.Proofs.Chain.Consistency

/-!
# A faulted chain run reported as one error

A chain can be asked to report a run whose last step failed as one aggregate error instead of
the run itself. Whether it does depends on the last step alone: the status of a run is read
off its last step, and the two faulted statuses are the two in which that step failed
(`ChainRun.isFaulted_eq_lastFailed`). A run stopped by a canceled step, or ended by a
success, is handed back as it is even when earlier steps failed.

What the aggregate says depends on every step. The standard builder gathers the operation
errors of all the steps, in chain order, which are the run's own errors; and it writes one
sentence for each step that has a cause, its unprocessed error or else its last operation
error, naming the step's policy and target and the cause's message. Steps with no error at
all, such as successes, canceled steps that never ran, or steps failed by their handlers
alone, write nothing, and the sentences are joined with `;`.

A consistent chain whose last element is bound always runs to a result, whichever way it
is driven, so the report is decided for every such chain and every scene.

## Main definitions

* `ChainStep.cause?`: The error that best describes a step.
* `ChainStep.sentence`: The sentence the standard builder writes for a step with a cause.

## Theorems

* `ChainRun.isFaulted_eq_lastFailed`: Faulted exactly when the last step failed.
* `AggregateBuilder.standard_summaries`: What the standard builder makes of a run.
* `Chain.handleAll_aggregates`: When a run is reported as an aggregate, and what it says.
-/

namespace Resilience

namespace ChainStep

variable {α : Type}

/-- The error that best describes a step: its unprocessed error, else its last operation
error. -/
def cause? (step : ChainStep α) : Option Fault :=
  step.outcome.unprocessed.orElse fun _ => step.outcome.errors.getLast?

/-- The sentence the standard builder writes for a step whose cause is `cause`. -/
def sentence (step : ChainStep α) (cause : Fault) : String :=
  "Policy " ++ step.policy ++ " handled " ++ step.target.render ++ " method with exception: '" ++
    cause.message ++ "'."

/-- A step's summary has the step's cause. -/
theorem summary_cause? (step : ChainStep α) : step.summary.cause? = step.cause? := rfl

/-- The standard builder describes a step by the sentence of its cause, and leaves a step
without one out. -/
theorem describe?_summary (step : ChainStep α) :
    step.summary.describe? = step.cause?.map step.sentence := by
  rw [StepSummary.describe?, summary_cause?]
  -- the summary names the step's policy and target
  congr 1
  funext cause
  simp [sentence, Target.render, summary, String.append_assoc]

end ChainStep

namespace ChainRun

variable {α : Type}

/-- A run is faulted exactly when its last step failed, canceled or not. -/
theorem isFaulted_eq_lastFailed (run : ChainRun α) :
    run.isFaulted = run.steps.getLast?.any (·.outcome.isFailed) := by
  unfold isFaulted status
  cases run.steps.getLast? with
  | none => rfl
  | some last =>
    -- the status splits on the last step's two flags, and on recovery when neither is set
    cases hf : last.outcome.isFailed <;> cases hc : last.outcome.isCanceled <;>
      cases hok : last.outcome.isOk <;> simp [hf, hc, hok]

end ChainRun

namespace AggregateBuilder

/-- The standard builder gathers the run's errors, every operation error of every step in
chain order, and joins with `;` the sentences of the steps that have a cause, in chain
order. -/
theorem standard_summaries {α : Type} (run : ChainRun α) :
    standard run.summaries =
      { errors := run.errors
        message := ";".intercalate (run.steps.filterMap fun step => step.cause?.map step.sentence) } := by
  have hmessages : run.summaries.filterMap StepSummary.describe? =
      run.steps.filterMap fun step => step.cause?.map step.sentence := by
    simp only [ChainRun.summaries, List.filterMap_map, Function.comp_def,
      ChainStep.describe?_summary]
  have herrors : run.summaries.flatMap (·.errors) = run.errors := by
    simp [ChainRun.summaries, ChainRun.errors, List.flatMap_map, ChainStep.summary]
  simp only [standard, hmessages, herrors]

end AggregateBuilder

namespace Chain

variable {σ : Type} {t : ValueType}

/-- Terminal aggregation. A consistent chain whose last element is bound, driven from
synchronous or asynchronous code, runs to a result from every scene; the chain reports it
as one aggregate error, built by its builder from the run's summaries, exactly when it is
asked to and the run's last step failed, and hands the run back otherwise. The standard
builder's aggregate holds every operation error of the run in chain order, and the
sentences of the steps that have a cause, joined with `;`. -/
theorem handleAll_aggregates (c : Chain σ t) (hc : c.Consistent)
    (hlast : ∀ last ∈ c.elements.getLast?, last.operation.isSome) (drive : Execution)
    (s : Scene σ) :
    ∃ run s', (c.runAll drive).run s = (.ok run, s') ∧
      (c.handleAll drive).run s =
        (if c.throwOnLastFailed && run.steps.getLast?.any (·.outcome.isFailed) then
          .error (.aggregate (c.aggregate run.toRun.summaries)) else .ok run, s') ∧
      AggregateBuilder.standard run.toRun.summaries =
        { errors := run.steps.flatMap (·.outcome.errors)
          message := ";".intercalate
            (run.steps.filterMap fun step => step.cause?.map step.sentence) } := by
  obtain ⟨run, s', hrun⟩ := runAll_of_bound c drive (hc.all_bound hlast) s
  have hrun' : (c.runAll drive).run s = pure (.ok run, s') := hrun
  refine ⟨run, s', hrun, ?_, AggregateBuilder.standard_summaries run.toRun⟩
  -- the report asks only whether the run is faulted, that is, whether its last step failed
  simp only [handleAll, StateT.run_bind, hrun', pure_bind, ChainRun.isFaulted_eq_lastFailed,
    ChainResult.toRun_steps]
  split <;> rfl

/-- Two fallback policies without fallbacks, each around an operation that fails, in a chain
asked to report a faulted run as one aggregate error. -/
def ordersChain : Chain Unit .unit :=
  { throwOnLastFailed := true
    elements :=
      [⟨.leaf .fallback, some ⟨⟨"Orders", "load"⟩, .sync, pure (.error (.ofFailure .timeout))⟩⟩,
       ⟨.leaf .fallback, some ⟨⟨"Orders", "cache"⟩, .sync,
          pure (.error ((Fault.msg "disk full").withContext "writing cache"))⟩⟩] }

/-- The chain of two failing steps meets the conditions on a live token. -/
theorem handleAll_aggregates_failing :
    ordersChain.Consistent ∧ (∀ last ∈ ordersChain.elements.getLast?, last.operation.isSome) ∧
      ∃ run s', (ordersChain.runAll .blocking).run ⟨false, (), fun _ => 0⟩ = (.ok run, s') ∧
        (ordersChain.handleAll .blocking).run ⟨false, (), fun _ => 0⟩ =
          (if ordersChain.throwOnLastFailed && run.steps.getLast?.any (·.outcome.isFailed) then
            .error (.aggregate (ordersChain.aggregate run.toRun.summaries)) else .ok run, s') ∧
        AggregateBuilder.standard run.toRun.summaries =
          { errors := run.steps.flatMap (·.outcome.errors)
            message := ";".intercalate
              (run.steps.filterMap fun step => step.cause?.map step.sentence) } :=
  ⟨by simp [ordersChain, Consistent], by simp [ordersChain],
    handleAll_aggregates ordersChain (by simp [ordersChain, Consistent]) (by simp [ordersChain])
      .blocking ⟨false, (), fun _ => 0⟩⟩

end Chain

end Resilience

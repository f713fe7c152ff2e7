import Resilience.Outcome.Basic

/-!
# Chain results

What a chain run tells: its status, read off the last step, the errors of its steps, and
the summary of each step that an aggregate is built from.

The status of a run with no step is `created`. Otherwise the last step decides: failed and
canceled, failed, canceled, recovered (`lastOk`) or plainly successful (`lastSuccess`).
The cause of a step is its unprocessed error, else its last operation error.

An aggregate builder turns the summaries of a run into one error. The standard one writes
a sentence for each step that has a cause,

  `Policy {policy} handled {Type}.{method} method with exception: '{cause}'.`

joins them with `;`, and gathers every operation error of every step in chain order.

## Main definitions

* `ChainStatus`, `ChainRun.status`, `ChainRun.isFaulted`: How a run ended.
* `ChainRun.lastError?`, `ChainRun.errors`, `ChainRun.value?`: What it produced.
* `StepSummary`, `StepSummary.cause?`: A step as aggregate builders see it.
* `AggregateBuilder`, `AggregateBuilder.standard`, `StepSummary.describe?`: Aggregates.
-/

namespace Resilience

/-- How a chain run ended, read off its last step. -/
inductive ChainStatus where
  | created
  | lastSuccess
  | lastOk
  | canceled
  | faulted
  | faultedCanceled
  deriving DecidableEq, Repr, Inhabited

/-- A step as aggregate builders see it. -/
structure StepSummary where
  policy : String
  target : Target
  failed : Bool
  canceled : Bool
  errors : List Fault
  unprocessed : Option Fault

/-- The step's unprocessed error, else its last operation error. -/
def StepSummary.cause? (step : StepSummary) : Option Fault :=
  step.unprocessed.orElse fun _ => step.errors.getLast?

/-- Turns the summaries of a run into one error. -/
abbrev AggregateBuilder := List StepSummary → Aggregate

/-- The sentence the standard builder writes for a step with a cause. -/
def StepSummary.describe? (step : StepSummary) : Option String :=
  step.cause?.map fun cause =>
    "Policy " ++ step.policy ++ " handled " ++ step.target.declaringType ++ "." ++
      step.target.method ++ " method with exception: '" ++ cause.message ++ "'."

/-- The standard builder: a sentence per step with a cause, joined with `;`, and every
operation error of every step. -/
def AggregateBuilder.standard : AggregateBuilder := fun steps =>
  { message := ";".intercalate (steps.filterMap StepSummary.describe?)
    errors := steps.flatMap (·.errors) }

namespace ChainStep

variable {α : Type}

/-- Whether the chain goes on after this step: it failed without being canceled. -/
def allowsNext (step : ChainStep α) : Bool :=
  step.outcome.isFailed && !step.outcome.isCanceled

/-- The step as aggregate builders see it. -/
def summary (step : ChainStep α) : StepSummary :=
  { policy := step.policy
    target := step.target
    failed := step.outcome.isFailed
    canceled := step.outcome.isCanceled
    errors := step.outcome.errors
    unprocessed := step.outcome.unprocessed }

end ChainStep

namespace ChainRun

variable {α : Type}

/-- How the run ended. -/
def status (run : ChainRun α) : ChainStatus :=
  match run.steps.getLast? with
  | none => .created
  | some last =>
    match last.outcome.isFailed, last.outcome.isCanceled with
    | true, true => .faultedCanceled
    | true, false => .faulted
    | false, true => .canceled
    | false, false => if last.outcome.isOk then .lastOk else .lastSuccess

/-- Whether the last step failed. -/
def isFaulted (run : ChainRun α) : Bool :=
  match run.status with
  | .faulted | .faultedCanceled => true
  | _ => false

/-- The cause of the last failed step: its unprocessed error, else its last operation
error. -/
def lastError? (run : ChainRun α) : Option Fault :=
  match run.steps.reverse.find? (·.outcome.isFailed) with
  | none => none
  | some step => step.outcome.unprocessed.orElse fun _ => step.outcome.state.lastError?

/-- Every operation error of every step, in chain order. -/
def errors (run : ChainRun α) : List Fault := run.steps.flatMap (·.outcome.errors)

/-- The summaries of the steps, in chain order. -/
def summaries (run : ChainRun α) : List StepSummary := run.steps.map ChainStep.summary

/-- The value of the last step. -/
def value? (run : ChainRun α) : Option α := run.steps.getLast?.bind (·.outcome.value)

/-- Move the value of the last step out. -/
def takeValue (run : ChainRun α) : Option α × ChainRun α :=
  match run.steps.getLast? with
  | none => (none, run)
  | some last =>
    let (value, outcome) := last.outcome.takeValue
    (value, { run with steps := run.steps.dropLast ++ [{ last with outcome }] })

end ChainRun

end Resilience

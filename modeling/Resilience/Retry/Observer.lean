import Resilience.Fault.Basic

/-!
# Retry observation

A retry policy reports every step of its attempt loop to an observer: the start of each
attempt, each failure followed by a delay, and exactly one way the loop ended (success,
exhaustion of the attempts, or cancellation, which also covers a rejection by the filter).

The counting observer keeps one tally per kind of report.

## Main definitions

* `RetryEvent`: The reports.
* `RetryStats`, `RetryStats.record`: The counting observer.
-/

namespace Resilience

/-- A report from the attempt loop of a retry policy. -/
inductive RetryEvent where
  /-- Attempt `attempt` of at most `limit` starts. -/
  | attemptStarted (attempt limit : Nat)
  /-- Attempt `attempt` failed with a handled error and the next one follows after the
  delay. -/
  | attemptFailed (attempt : Nat) (error : Fault) (delayMs : Nat)
  /-- Attempt `attempt` produced a value. -/
  | succeeded (attempt : Nat)
  /-- The last allowed attempt failed with a handled error. -/
  | exhausted (attempts : Nat) (last : Fault)
  /-- The loop stopped at `attempt`: the token was cancelled, or the filter rejected the
  error. No error is given when the token was cancelled before the first attempt. -/
  | cancelled (attempt : Nat) (error : Option Fault)

/-- The tallies of a counting observer. -/
structure RetryStats where
  attemptStarts : Nat := 0
  failures : Nat := 0
  successes : Nat := 0
  exhaustions : Nat := 0
  cancellations : Nat := 0
  deriving DecidableEq, Repr, Inhabited

/-- Count one report. -/
def RetryStats.record (stats : RetryStats) : RetryEvent → RetryStats
  | .attemptStarted _ _ => { stats with attemptStarts := stats.attemptStarts + 1 }
  | .attemptFailed _ _ _ => { stats with failures := stats.failures + 1 }
  | .succeeded _ => { stats with successes := stats.successes + 1 }
  | .exhausted _ _ => { stats with exhaustions := stats.exhaustions + 1 }
  | .cancelled _ _ => { stats with cancellations := stats.cancellations + 1 }

end Resilience

/-!
# Retry settings

How a retry policy spaces its attempts. `maxAttempts` counts every run of the operation,
the first one included; a value of zero still allows one run. The delay after a failed
attempt follows the strategy and never exceeds `maxDelayMs`.

## Main definitions

* `RetryStrategy`: No delay, a fixed delay, or a delay growing exponentially or linearly
  with the attempt number.
* `RetrySettings`: The attempt limit, the strategy and its parameters, with their defaults.
-/

namespace Resilience

/-- How the delay between attempts grows. -/
inductive RetryStrategy where
  | none
  | fixedDelay
  | exponentialBackoff
  | linearBackoff
  deriving DecidableEq, Repr, Inhabited

/-- The parameters of a retry policy. Attempt counts are 32-bit and delays 64-bit
milliseconds, as the configuration format states them. -/
structure RetrySettings where
  maxAttempts : UInt32 := 3
  strategy : RetryStrategy := .exponentialBackoff
  backoffMultiplier : Float := 2.0
  initialDelayMs : UInt64 := 1000
  maxDelayMs : UInt64 := 30000
  deriving Repr, Inhabited, BEq

/-- Settings that retry immediately, up to a number of runs in total. -/
def RetrySettings.attempts (maxAttempts : UInt32) : RetrySettings :=
  { maxAttempts, strategy := .none }

/-- The number of runs a retry policy allows: at least one. -/
def RetrySettings.attemptLimit (s : RetrySettings) : Nat := max s.maxAttempts.toNat 1

end Resilience

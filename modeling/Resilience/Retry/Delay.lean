import Resilience.Retry.Settings
import Resilience.Effect

/-!
# Retry delays

The delay after failed attempt number `a` (an attempt number of zero counts as one) is the
strategy's curve at `a`, capped at `maxDelayMs`:

* none: zero;
* fixed delay: the initial delay;
* linear backoff: the initial delay times `a`, saturating at the largest 64-bit value;
* exponential backoff: the initial delay times the multiplier raised to `a - 1`, computed
  in double precision and converted back to whole milliseconds with saturation (a negative
  or undefined product gives zero).

The power is taken by repeated squaring on the multiplier, with the exponent limited to
the largest 32-bit signed value, which fixes the rounding of every intermediate product.
Jitter adds a random spread of at most a quarter of the capped delay, again saturating.

## Main definitions

* `Delay.powBySquaring`: A double raised to a natural power by repeated squaring.
* `Delay.curve`: The uncapped delay of a strategy.
* `RetrySettings.delayMs`: The capped delay after an attempt.
* `RetrySettings.calculateDelay`: The delay slept after an attempt, jitter included.
* `RetrySettings.drawDelay`: That delay, its spread drawn from the world's random numbers.
* `Delay.jittered`, `Delay.sample`: A delay with a spread added.
* `Delay.jitterSamplesWithin`: Whether jittered samples stay within bounds.
-/

namespace Resilience

namespace Delay

/-- The largest 64-bit unsigned value. -/
def u64Max : Nat := 18446744073709551615

/-- The largest 32-bit signed value. -/
def i32Max : Nat := 2147483647

/-- `r` times `a` raised to `b`, squaring `a` while halving `b`: the low bit of `b`
multiplies the result by the current `a` before `a` is squared. -/
def powBySquaring (a : Float) (b : Nat) (r : Float) : Float :=
  let r := if b % 2 = 1 then r * a else r
  if h : b / 2 = 0 then r else powBySquaring (a * a) (b / 2) r
termination_by b
decreasing_by omega

/-- The uncapped delay of a strategy after attempt number `attempt`, which is at least
one. -/
def curve (s : RetrySettings) (attempt : Nat) : Nat :=
  let initial := s.initialDelayMs.toNat
  match s.strategy with
  | .none => 0
  | .fixedDelay => initial
  | .linearBackoff => min (initial * attempt) u64Max
  | .exponentialBackoff =>
    let factor := powBySquaring s.backoffMultiplier (min (attempt - 1) i32Max) 1.0
    (s.initialDelayMs.toFloat * factor).toUInt64.toNat

/-- A delay with a random spread added, saturating at the largest 64-bit value. -/
def jittered (delay spread : Nat) : Nat := min (delay + spread) u64Max

/-- The delay with the `k`-th spread drawn from zero to a quarter of the delay; a zero delay
stays zero. -/
def sample (delay k : Nat) : Nat :=
  if delay = 0 then 0 else jittered delay (k % (delay / 4 + 1))

/-- Whether the first `count` jittered samples of a delay lie between the delay and the
delay plus a quarter of it. -/
def jitterSamplesWithin (delay count : Nat) : Bool :=
  (List.range count).all fun k => delay ≤ sample delay k && sample delay k ≤ delay + delay / 4

end Delay

/-- The delay in milliseconds after failed attempt number `attempt`, capped at
`maxDelayMs`; an attempt number of zero counts as one. -/
def RetrySettings.delayMs (s : RetrySettings) (attempt : Nat) : Nat :=
  min (Delay.curve s (max attempt 1)) s.maxDelayMs.toNat

/-- The delay in milliseconds slept after failed attempt number `attempt`: the capped delay,
with a spread added when `jitter` is set and the delay is not zero. The random source is
`draw`: `draw hi` is the number it picks from zero to `hi`, here from zero to a quarter of
the delay. -/
def RetrySettings.calculateDelay (s : RetrySettings) (attempt : Nat) (jitter : Bool)
    (draw : Nat → Nat) : Nat :=
  let delay := s.delayMs attempt
  if !jitter || delay == 0 then delay else Delay.jittered delay (draw (delay / 4))

/-- The delay slept after failed attempt `attempt`, its spread drawn from the world's random
numbers; only a jittered delay that is not zero draws one. -/
def RetrySettings.drawDelay {σ : Type} (s : RetrySettings) (attempt : Nat) (jitter : Bool) :
    Act σ Nat :=
  let delay := s.delayMs attempt
  if !jitter || delay == 0 then pure delay else Delay.jittered delay <$> Act.draw (delay / 4)

/-- Drawing the delay gives `calculateDelay` with the scene's next number as the source; the
number is used up only when the delay is jittered. -/
theorem RetrySettings.drawDelay_run {σ : Type} (s : RetrySettings) (attempt : Nat)
    (jitter : Bool) (scene : Scene σ) :
    (s.drawDelay attempt jitter).run scene =
      (s.calculateDelay attempt jitter scene.pick,
        if !jitter || s.delayMs attempt == 0 then scene else scene.drawn) := by
  dsimp only [drawDelay, calculateDelay]
  split <;> rfl

/-- Drawing a delay leaves the cancellation token as it is. -/
@[simp]
theorem RetrySettings.drawDelay_cancelled {σ : Type} (s : RetrySettings) (attempt : Nat)
    (jitter : Bool) (scene : Scene σ) :
    ((s.drawDelay attempt jitter).run scene).2.cancelled = scene.cancelled := by
  rw [drawDelay_run]
  split <;> rfl

end Resilience

import Mathlib
import Resilience.Retry.Delay

/-!
# Retry delays stay within their bounds

The delay after a failed attempt is computed in three steps, each of which is where an
overflow could creep in: the strategy's curve at the attempt number (clamped to at least
one, so the exponent `attempt - 1` of the exponential curve never goes below zero), the cap
at `maxDelayMs`, and a random spread of up to a quarter of the capped delay. None does. The
linear curve multiplies exactly and saturates at the largest 64-bit value, and the
exponential one converts its double-precision product with saturation, so every curve fits
in 64 bits; the cap only lowers it; and the spread is added with saturation to a delay that
already fits.

Because the spread is drawn after the cap and from the capped delay, a jittered delay lies
between the capped delay and that delay plus a quarter of it, whatever the random source
picks from its range. The three strategies that compute in whole numbers also grow with the
attempt number: their curves are constant or a saturated product with it, and the cap keeps
the order. The exponential curve is left out of that statement: its value is whatever the
double-precision power rounds to.

## Main definitions

* `RetrySettings.DelayBounds`: What the delay after one attempt promises.

## Theorems

* `Delay.curve_le_u64Max`: Every curve fits in 64 bits.
* `Delay.curve_mono`: The curves without floating point grow with the attempt number.
* `RetrySettings.calculateDelay_jittered`, `RetrySettings.calculateDelay_jittered_mem`: A
  jittered delay is the capped delay plus the spread drawn, within a quarter of it.
* `RetrySettings.jitterSamplesWithin_delayMs`: Every sample of jittered delays stays within
  its bounds.
* `RetrySettings.calculateDelay_bounds`: The delay after any attempt keeps its bounds.
-/

namespace Resilience

namespace Delay

variable {s : RetrySettings}

theorem toNat_le_u64Max (x : UInt64) : x.toNat ≤ u64Max := by
  have := x.toNat_lt
  unfold u64Max
  omega

@[simp]
theorem curve_of_none (h : s.strategy = .none) (n : Nat) : curve s n = 0 := by
  simp [curve, h]

@[simp]
theorem curve_of_fixedDelay (h : s.strategy = .fixedDelay) (n : Nat) :
    curve s n = s.initialDelayMs.toNat := by
  simp [curve, h]

@[simp]
theorem curve_of_linearBackoff (h : s.strategy = .linearBackoff) (n : Nat) :
    curve s n = min (s.initialDelayMs.toNat * n) u64Max := by
  simp [curve, h]

/-- Every curve fits in 64 bits: the linear product saturates, and the exponential product
is converted with saturation. -/
theorem curve_le_u64Max (s : RetrySettings) (n : Nat) : curve s n ≤ u64Max := by
  unfold curve
  split
  · exact Nat.zero_le _
  · exact toNat_le_u64Max _
  · exact min_le_right _ _
  · exact toNat_le_u64Max _

/-- The curves that compute in whole numbers grow with the attempt number. -/
theorem curve_mono (h : s.strategy ≠ .exponentialBackoff) {n m : Nat} (hnm : n ≤ m) :
    curve s n ≤ curve s m := by
  unfold curve
  split
  · exact le_rfl
  · exact le_rfl
  · exact min_le_min_right _ (Nat.mul_le_mul_left _ hnm)
  · contradiction

end Delay

namespace RetrySettings

variable (s : RetrySettings) (a : Nat) {draw : Nat → Nat}

theorem delayMs_le_maxDelayMs : s.delayMs a ≤ s.maxDelayMs.toNat :=
  min_le_right _ _

theorem delayMs_le_u64Max : s.delayMs a ≤ Delay.u64Max :=
  (s.delayMs_le_maxDelayMs a).trans (Delay.toNat_le_u64Max _)

variable {s} in
theorem delayMs_mono (h : s.strategy ≠ .exponentialBackoff) {a b : Nat} (hab : a ≤ b) :
    s.delayMs a ≤ s.delayMs b :=
  min_le_min_right _ (Delay.curve_mono h (max_le_max_right 1 hab))

@[simp]
theorem calculateDelay_false (draw : Nat → Nat) :
    s.calculateDelay a false draw = s.delayMs a := by
  simp [calculateDelay]

/-- A jittered delay is the capped delay plus the spread drawn for it, saturating; a zero
delay draws nothing, and nothing but zero could be drawn for it. -/
theorem calculateDelay_jittered (hdraw : draw (s.delayMs a / 4) ≤ s.delayMs a / 4) :
    s.calculateDelay a true draw = min (s.delayMs a + draw (s.delayMs a / 4)) Delay.u64Max := by
  unfold calculateDelay
  by_cases hd : s.delayMs a = 0
  · have hzero : draw 0 = 0 := by simpa [hd] using hdraw
    simp [hd, hzero]
  · simp [hd, Delay.jittered]

/-- A jittered delay lies between the capped delay and that delay plus a quarter of it. -/
theorem calculateDelay_jittered_mem (hdraw : draw (s.delayMs a / 4) ≤ s.delayMs a / 4) :
    s.delayMs a ≤ s.calculateDelay a true draw ∧
      s.calculateDelay a true draw ≤ s.delayMs a + s.delayMs a / 4 := by
  rw [calculateDelay_jittered s a hdraw]
  constructor
  · exact le_min (Nat.le_add_right _ _) (s.delayMs_le_u64Max a)
  · exact (min_le_left _ _).trans (Nat.add_le_add_left hdraw _)

/-- Sampling a jittered delay is drawing its spread as the remainder of the sample's
index. -/
theorem sample_delayMs (k : Nat) :
    Delay.sample (s.delayMs a) k = s.calculateDelay a true fun hi => k % (hi + 1) := by
  by_cases hd : s.delayMs a = 0 <;> simp [Delay.sample, calculateDelay, hd]

/-- Every sample of jittered delays after an attempt lies within the bounds. -/
theorem jitterSamplesWithin_delayMs (count : Nat) :
    Delay.jitterSamplesWithin (s.delayMs a) count = true := by
  simp only [Delay.jitterSamplesWithin, List.all_eq_true, Bool.and_eq_true, decide_eq_true_eq]
  intro k _
  rw [sample_delayMs]
  exact calculateDelay_jittered_mem s a (Nat.le_of_lt_succ (Nat.mod_lt _ (Nat.succ_pos _)))

/-- What the delay after attempt number `a` promises, with `d` the strategy's curve at the
attempt number (zero counting as one) capped at `maxDelayMs`: without jitter the delay is
`d`, which the strategies without floating point compute exactly and keep growing with the
attempt number; `d` and every curve fit in 64 bits; with jitter the delay is `d` plus the
spread drawn, saturating, and lies between `d` and `d` plus a quarter of it. -/
structure DelayBounds (draw : Nat → Nat) : Prop where
  unjittered : s.calculateDelay a false draw = min (Delay.curve s (max a 1)) s.maxDelayMs.toNat
  curve_none : s.strategy = .none → Delay.curve s (max a 1) = 0
  curve_fixed : s.strategy = .fixedDelay → Delay.curve s (max a 1) = s.initialDelayMs.toNat
  curve_linear : s.strategy = .linearBackoff →
    Delay.curve s (max a 1) = min (s.initialDelayMs.toNat * max a 1) Delay.u64Max
  mono : s.strategy ≠ .exponentialBackoff →
    ∀ b, a ≤ b → s.calculateDelay a false draw ≤ s.calculateDelay b false draw
  capped : s.calculateDelay a false draw ≤ s.maxDelayMs.toNat
  curve_fits : Delay.curve s (max a 1) ≤ Delay.u64Max
  jittered : s.calculateDelay a true draw =
    min (s.calculateDelay a false draw + draw (s.calculateDelay a false draw / 4)) Delay.u64Max
  jittered_lower : s.calculateDelay a false draw ≤ s.calculateDelay a true draw
  jittered_upper : s.calculateDelay a true draw ≤
    s.calculateDelay a false draw + s.calculateDelay a false draw / 4

/-- The delay after any attempt keeps its bounds, for every random source that picks from
the range it is given. -/
theorem calculateDelay_bounds (draw : Nat → Nat) (hdraw : ∀ hi, draw hi ≤ hi) :
    s.DelayBounds a draw where
  unjittered := by rw [calculateDelay_false, delayMs]
  curve_none h := Delay.curve_of_none h _
  curve_fixed h := Delay.curve_of_fixedDelay h _
  curve_linear h := Delay.curve_of_linearBackoff h _
  mono h b hab := by simpa using delayMs_mono h hab
  capped := by simpa using s.delayMs_le_maxDelayMs a
  curve_fits := Delay.curve_le_u64Max s _
  jittered := by simpa using s.calculateDelay_jittered a (hdraw _)
  jittered_lower := by simpa using (s.calculateDelay_jittered_mem a (hdraw _)).1
  jittered_upper := by simpa using (s.calculateDelay_jittered_mem a (hdraw _)).2

theorem calculateDelay_bounds_linear :
    (∀ hi, (fun hi => hi / 2 : Nat → Nat) hi ≤ hi) ∧
      ({ strategy := .linearBackoff, initialDelayMs := 200 } : RetrySettings).DelayBounds 3
        fun hi => hi / 2 :=
  ⟨fun hi => Nat.div_le_self hi 2,
    calculateDelay_bounds { strategy := .linearBackoff, initialDelayMs := 200 } 3
      (fun hi => hi / 2) fun hi => Nat.div_le_self hi 2⟩

end RetrySettings

end Resilience

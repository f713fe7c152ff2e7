import Mathlib
import Resilience.Proofs.Trace.Leaf

/-!
# The fallback policy

A fallback policy calls its operation once. A value ends the run as the outcome's value. An
error is recorded, processed, and the verdict decides what follows. A token cancelled by the
end of processing fails and cancels the outcome, and a rejection by the filter fails it and
flags the rejection; either way the error stays unprocessed and no fallback runs. A handled
error hands over to the fallback registered for the run's value type. Without one the
outcome fails for want of a delegate, the error unprocessed. With one, the fallback runs once
in the operation's place: its value recovers the outcome, and its error is kept as a critical
catch-block error and becomes the unprocessed one, the outcome canceled as well when that
error reports the cancellation of a cancelled token.

`Leaf.FallbackRun`, in `Proofs/Trace/Leaf`, tells the one attempt step by step. The lemmas
here invert it one verdict at a time: each verdict leaves one or two constructors possible,
and the outcome is read off those. `Leaf.FallbackPolicyRun` gathers what the lemmas say, and
`Leaf.fallback_policy_run` shows that every invocation of a fallback policy without handlers
on a live token keeps it, in every execution. Fallbacks are kept by value type, so the one a
run finds is the one registered last for its type (`FallbackTable.register_self`,
`FallbackTable.register_of_ne`).

## Main definitions

* `Leaf.FallbackPolicyRun`: What an invocation of a fallback policy promises.

## Theorems

* `Leaf.FallbackRun.errors_eq`: The attempt's error is the one operation error.
* `Leaf.FallbackRun.of_value`, `Leaf.FallbackRun.of_canceled`, `Leaf.FallbackRun.of_rejected`,
  `Leaf.FallbackRun.of_missing`, `Leaf.FallbackRun.of_fellBack`: The outcome after each way
  the attempt can go.
* `Leaf.handle_of_handlers_nil`: Without handlers an invocation is its strategy's run, settled.
* `Leaf.fallback_policy_run`: A fallback policy without handlers runs as promised.
-/

namespace Resilience

namespace Leaf

open Processor (Handling)

variable {σ : Type} {α : Type}

/-- What an invocation of a fallback policy promises, from the scene `s` to the scene `s'`,
where `fallback?` is the fallback registered for the run's type, `a` is the one attempt, `fb`
what the fallback gave if it ran, and `o` the outcome. -/
structure FallbackPolicyRun (core : PolicyCore σ) (fallback? : Option (Operation σ α))
    (op : Act σ (Except Fault α)) (s : Scene σ) (a : Attempt α) (fb : Option (Except Fault α))
    (o : Outcome α) (s' : Scene σ) : Prop where
  /-- The operation was called once, and the run went as `FallbackRun` says. -/
  runs : ∃ o₀, FallbackRun SceneRun.act core fallback? op (Outcome.new false) s a fb o₀ s' ∧
    o = o₀.settle
  /-- A value is the outcome's, with no error and no recovery. -/
  succeeded : ∀ v, a = .value v →
    o.value = some v ∧ o.errors = [] ∧ o.isOk = false ∧ o.state.failed = false ∧
      o.state.canceled = false ∧ fb = none
  /-- An error is the one operation error. -/
  errors_eq : ∀ fault handling, a = .error fault handling → o.errors = [fault]
  /-- A cancelled token at the end of processing fails and cancels the outcome. -/
  canceled : ∀ fault handling, a = .error fault handling → handling.verdict = .canceled →
    o.state.failed = true ∧ o.state.canceled = true ∧
      o.state.reason = .policyProcessorFailed ∧ o.unprocessed = some fault ∧ fb = none
  /-- A rejection by the filter fails the outcome and is flagged. -/
  rejected : ∀ fault handling, a = .error fault handling →
    handling.verdict = .filterRejected →
    o.state.failed = true ∧ o.state.canceled = false ∧
      o.state.reason = .policyProcessorFailed ∧ o.state.filterUnsatisfied = true ∧
      o.unprocessed = some fault ∧ fb = none
  /-- A handled error without a fallback fails the outcome for want of a delegate. -/
  missing : ∀ fault handling, a = .error fault handling → handling.verdict = .handled →
    fallback? = none →
    o.state.failed = true ∧ o.state.canceled = false ∧ o.state.reason = .delegateMissing ∧
      o.unprocessed = some fault ∧ fb = none
  /-- A handled error with a fallback runs it once, last: its value recovers the outcome, and
  its error is a critical catch-block error left unprocessed. -/
  fellBack : ∀ fault handling fallback, a = .error fault handling →
    handling.verdict = .handled → fallback? = some fallback →
    ∃ result s₁, fb = some result ∧ fallback.call.run s₁ = (result, s') ∧
      (∀ v, result = .ok v → o.value = some v ∧ o.isOk = true ∧ o.state.failed = false) ∧
      (∀ error, result = .error error →
        o.state.catchBlockErrors = handling.failures ++ [⟨error, true⟩] ∧
          o.state.failed = true ∧ o.unprocessed = some error ∧
          ((error.isCancellation && s'.cancelled) = true →
            o.state.canceled = true ∧ o.state.reason = .policyProcessorFailed) ∧
          ((error.isCancellation && s'.cancelled) = false →
            o.state.canceled = false ∧ o.state.reason = .unhandledError))

namespace FallbackRun

variable {core : PolicyCore σ} {fallback? : Option (Operation σ α)}
  {op : Act σ (Except Fault α)} {s s' : Scene σ} {a : Attempt α}
  {fb : Option (Except Fault α)} {o : Outcome α}

theorem errors_eq
    (h : FallbackRun SceneRun.act core fallback? op (Outcome.new false) s a fb o s') :
    o.errors = a.fault?.toList := by
  cases h <;> simp [Outcome.errors, Attempt.fault?, Outcome.new]

theorem of_value (h : FallbackRun SceneRun.act core fallback? op (Outcome.new false) s a fb o s')
    {v : α} (ha : a = .value v) :
    o.value = some v ∧ o.errors = [] ∧ o.isOk = false ∧ o.state.failed = false ∧
      o.state.canceled = false ∧ fb = none := by
  subst ha
  cases h with
  | succeeded => exact ⟨rfl, rfl, rfl, rfl, rfl, rfl⟩

theorem of_canceled
    (h : FallbackRun SceneRun.act core fallback? op (Outcome.new false) s a fb o s')
    {fault : Fault} {handling : Handling} (ha : a = .error fault handling)
    (hverdict : handling.verdict = .canceled) :
    o.state.failed = true ∧ o.state.canceled = true ∧
      o.state.reason = .policyProcessorFailed ∧ o.unprocessed = some fault ∧ fb = none := by
  subst ha
  cases h with
  | canceled =>
    have hstop := (Pending.new (α := α) false).stoppedOn_failedAndCanceled fault handling
    exact ⟨hstop.failed, rfl, hstop.reason, hstop.unprocessed, rfl⟩
  | _ => simp [Handling.verdict] at hverdict

theorem of_rejected
    (h : FallbackRun SceneRun.act core fallback? op (Outcome.new false) s a fb o s')
    {fault : Fault} {handling : Handling} (ha : a = .error fault handling)
    (hverdict : handling.verdict = .filterRejected) :
    o.state.failed = true ∧ o.state.canceled = false ∧
      o.state.reason = .policyProcessorFailed ∧ o.state.filterUnsatisfied = true ∧
      o.unprocessed = some fault ∧ fb = none := by
  obtain rfl := (Handling.verdict_eq_filterRejected_iff handling).1 hverdict
  subst ha
  cases h with
  | rejected =>
    have hstop := (Pending.new (α := α) false).stoppedOn_failedWith fault .rejected rfl
    exact ⟨hstop.failed, rfl, hstop.reason, hstop.filterUnsatisfied_iff.2 rfl,
      hstop.unprocessed, rfl⟩
  | canceled _ htoken => simp [Handling.tokenAtEnd] at htoken

theorem of_missing
    (h : FallbackRun SceneRun.act core fallback? op (Outcome.new false) s a fb o s')
    {fault : Fault} {handling : Handling} (ha : a = .error fault handling)
    (hverdict : handling.verdict = .handled) (hnone : fallback? = none) :
    o.state.failed = true ∧ o.state.canceled = false ∧ o.state.reason = .delegateMissing ∧
      o.unprocessed = some fault ∧ fb = none := by
  obtain ⟨failures, rfl⟩ := (Handling.verdict_eq_handled_iff handling).1 hverdict
  subst ha
  cases h with
  | missing => exact ⟨rfl, rfl, rfl, rfl, rfl⟩
  | fellBack _ hsome | fallbackCanceled _ hsome | fallbackFailed _ hsome =>
    simp [hnone] at hsome
  | canceled _ htoken => simp [Handling.tokenAtEnd] at htoken

theorem of_fellBack
    (h : FallbackRun SceneRun.act core fallback? op (Outcome.new false) s a fb o s')
    {fault : Fault} {handling : Handling} {fallback : Operation σ α}
    (ha : a = .error fault handling) (hverdict : handling.verdict = .handled)
    (hsome : fallback? = some fallback) :
    ∃ result s₁, fb = some result ∧ fallback.call.run s₁ = (result, s') ∧
      (∀ v, result = .ok v → o.value = some v ∧ o.isOk = true ∧ o.state.failed = false) ∧
      (∀ error, result = .error error →
        o.state.catchBlockErrors = handling.failures ++ [⟨error, true⟩] ∧
          o.state.failed = true ∧ o.unprocessed = some error ∧
          ((error.isCancellation && s'.cancelled) = true →
            o.state.canceled = true ∧ o.state.reason = .policyProcessorFailed) ∧
          ((error.isCancellation && s'.cancelled) = false →
            o.state.canceled = false ∧ o.state.reason = .unhandledError)) := by
  obtain ⟨failures, rfl⟩ := (Handling.verdict_eq_handled_iff handling).1 hverdict
  subst ha
  cases h with
  | missing _ hnone => simp [hnone] at hsome
  | fellBack _ hsome' hcall =>
    obtain rfl := Option.some.inj (hsome'.symm.trans hsome)
    refine ⟨_, _, rfl, hcall, fun v hv => ?_, fun error herror => (by cases herror)⟩
    obtain rfl := Except.ok.inj hv
    exact ⟨rfl, rfl, rfl⟩
  | fallbackCanceled _ hsome' hcall hcritical =>
    obtain rfl := Option.some.inj (hsome'.symm.trans hsome)
    refine ⟨_, _, rfl, hcall, (fun v hv => by cases hv), fun error herror => ?_⟩
    obtain rfl := Except.error.inj herror
    -- the fallback's error reported the cancellation of a cancelled token
    exact ⟨rfl, rfl, rfl, fun _ => ⟨rfl, rfl⟩,
      fun hmild => absurd (hcritical.symm.trans hmild) (by decide)⟩
  | fallbackFailed _ hsome' hcall hmild =>
    obtain rfl := Option.some.inj (hsome'.symm.trans hsome)
    refine ⟨_, _, rfl, hcall, (fun v hv => by cases hv), fun error herror => ?_⟩
    obtain rfl := Except.error.inj herror
    exact ⟨rfl, rfl, rfl, fun hcritical => absurd (hcritical.symm.trans hmild) (by decide),
      fun _ => ⟨rfl, rfl⟩⟩
  | canceled _ htoken => simp [Handling.tokenAtEnd] at htoken

/-- The run keeps the promises of `FallbackPolicyRun` once its outcome is settled. -/
theorem policyRun
    (h : FallbackRun SceneRun.act core fallback? op (Outcome.new false) s a fb o s') :
    FallbackPolicyRun core fallback? op s a fb o.settle s' where
  runs := ⟨o, h, rfl⟩
  succeeded _ ha := h.of_value ha
  errors_eq fault _ ha := by
    have herrors := h.errors_eq
    rw [ha] at herrors
    exact herrors
  canceled _ _ ha hverdict := h.of_canceled ha hverdict
  rejected _ _ ha hverdict := h.of_rejected ha hverdict
  missing _ _ ha hverdict hnone := h.of_missing ha hverdict hnone
  fellBack _ _ _ ha hverdict hsome := h.of_fellBack ha hverdict hsome

end FallbackRun

/-- Without handlers an invocation is its strategy's run, with the error list settled. -/
theorem handle_of_handlers_nil (leaf : Leaf σ) (hhandlers : leaf.core.handlers = [])
    (t : ValueType) (ex : Execution) (op : Act σ (Except Fault t.Carrier)) :
    leaf.handle t ex op = Outcome.settle <$> leaf.settleRun t ex op (Outcome.new ex.detached) := by
  rw [handle_eq, map_eq_pure_bind]
  congr 1
  funext o
  simp [finish, hhandlers, Handler.runAll, Handler.runFrom]
  rfl

/-- The fallback policy. Invoked on a live token, in any execution, a fallback policy without
handlers calls its operation once and runs as `FallbackPolicyRun` says: a value is the
outcome's; an error is the one operation error, and the processor's verdict decides: a
cancellation or a rejection fails the outcome at once, and a handled error falls back on the
fallback registered for the run's type, which runs once and whose value recovers the outcome
and whose error becomes a critical catch-block error left unprocessed; with no fallback the
outcome fails for want of one. The fallback for a type is the one registered last for it. -/
theorem fallback_policy_run (core : PolicyCore σ) (table : FallbackTable σ) (t : ValueType)
    (ex : Execution) (op : Act σ (Except Fault t.Carrier)) (s : Scene σ)
    (hhandlers : core.handlers = []) (hlive : s.cancelled = false) :
    (∃ a fb o s', ((Leaf.mk core (.fallback table)).handle t ex op).run s = (o, s') ∧
      FallbackPolicyRun core (table t) op s a fb o s') ∧
    ∀ (u : ValueType) (f : Operation σ u.Carrier),
      table.register u f u = some f ∧ ∀ v, v ≠ u → table.register u f v = table v := by
  refine ⟨?_, fun u f => ⟨table.register_self u f, fun v hv => table.register_of_ne f hv⟩⟩
  obtain ⟨a, fb, o, s', hrun, heq⟩ :=
    runFallback_trace SceneRun.act core (table t) .blocking op (Outcome.new false) s
  refine ⟨a, fb, o.settle, s', ?_, hrun.policyRun⟩
  -- every execution runs as the blocking one, and without handlers the outcome is settled
  have hstrategy : ((Leaf.mk core (.fallback table)).settleRun t .blocking op
      (Outcome.new false)).run s = (o, s') := by
    simp only [SceneRun.act_run] at heq
    simp [settleRun, Act.isCancelled, hlive, heq]
  rw [handle_execution, handle_of_handlers_nil _ hhandlers]
  simp [Execution.detached, hstrategy]
  rfl

/-- A fallback policy with a fallback registered for unit runs, around an operation that
fails, invoked on a live token, meets the conditions. -/
theorem fallback_policy_run_registered :
    ({ name := "fallback" } : PolicyCore Unit).handlers = [] ∧
      (⟨false, (), fun _ => 0⟩ : Scene Unit).cancelled = false ∧
      ((∃ a fb o s',
          ((Leaf.mk (σ := Unit) { name := "fallback" }
              (.fallback (FallbackTable.empty.register .unit
                ⟨⟨"Cache", "read"⟩, .sync, pure (.ok ())⟩))).handle .unit .blocking
            (pure (.error (.msg "down")) : Act Unit (Except Fault Unit))).run ⟨false, (), fun _ => 0⟩ =
            (o, s') ∧
          FallbackPolicyRun { name := "fallback" }
            (FallbackTable.empty.register .unit ⟨⟨"Cache", "read"⟩, .sync, pure (.ok ())⟩ .unit)
            (pure (.error (.msg "down"))) ⟨false, (), fun _ => 0⟩ a fb o s') ∧
        ∀ (u : ValueType) (f : Operation Unit u.Carrier),
          (FallbackTable.empty.register .unit ⟨⟨"Cache", "read"⟩, .sync, pure (.ok ())⟩).register
              u f u = some f ∧
            ∀ v, v ≠ u →
              (FallbackTable.empty.register .unit
                  ⟨⟨"Cache", "read"⟩, .sync, pure (.ok ())⟩).register u f v =
                FallbackTable.empty.register .unit ⟨⟨"Cache", "read"⟩, .sync, pure (.ok ())⟩ v) :=
  ⟨rfl, rfl, fallback_policy_run { name := "fallback" }
    (FallbackTable.empty.register .unit ⟨⟨"Cache", "read"⟩, .sync, pure (.ok ())⟩) .unit .blocking
    (pure (.error (.msg "down"))) ⟨false, (), fun _ => 0⟩ rfl rfl⟩

end Leaf

end Resilience

import Mathlib
import Resilience.Proofs.Trace.Basic

/-!
# The attempt loop of a retry policy

`Leaf.Retries` tells the attempt loop step by step, as `Chain.Runs` tells a chain: every
attempt is announced to the observer, calls the operation once and, on an error, processes
it once; the first of the following that applies ends the loop:

* the operation gave a value;
* the token was cancelled when processing the error ended, whether it already was when the
  error was screened, a bulk step cancelled it, or a step failed critically;
* the filter rejected the error;
* the error was handled on the last attempt allowed;
* the token was cancelled during the delay before the next attempt.

Otherwise the error was handled and the next attempt follows. Before the token is read for
the last exit, the delay is drawn from the world's random numbers and the observer hears of
the failure with it (`Leaf.delayed`). `Leaf.retryLoop_trace` shows that the loop runs as
`Retries` says, in every world holding a scene.

A run from a fresh outcome makes at least one and at most the allowed number of attempts,
every one but the last with a handled error; it records exactly the operation's errors, in
order, and the catch-block errors their processing left; and the attempt that ended it
decides the outcome (`Leaf.Ends`). With an observer that leaves the token alone, the loop
ends on a handled error only at the last attempt allowed, and the outcome is canceled exactly
when the token was cancelled at the end of the last error's processing.

## Main definitions

* `Leaf.delayed`: The world once the delay after a failed attempt is drawn and reported.
* `Leaf.Retries`: How the attempt loop runs.
* `Leaf.Pending`, `Leaf.StoppedOn`, `Leaf.Ends`: Outcomes before and after the attempt that
  ended a strategy.
* `Leaf.Quiet`: Observers that leave the token alone.
* `Leaf.RetryRun`: What a run of a retry policy promises.

## Theorems

* `Leaf.retryLoop_trace`: The loop runs as told.
* `Leaf.Retries.errorList`, `Leaf.Retries.catchBlockErrors`: What the loop records.
* `Leaf.Retries.ends`, `Leaf.Retries.canceled_eq`: The last attempt decides the outcome.
* `Leaf.retry_attempt_loop`: A retry policy without handlers runs as `RetryRun` says.
-/

namespace Resilience

namespace Leaf

open Processor (Handling)

variable {σ : Type} {m : Type → Type} [Monad m] [MonadLiftT (Act σ) m] {W : Type} {α : Type}

/-- The world once the delay after the failed attempt `attempt` has been drawn from the world
`w` and the observer has heard of the failure with that delay. -/
def delayed (R : SceneRun σ m W) (settings : RetrySettings) (jitter : Bool)
    (observer : RetryEvent → Act σ Unit) (attempt : Nat) (fault : Fault) (w : W) : W :=
  R.hear observer
    (.attemptFailed attempt fault (settings.calculateDelay attempt jitter (R.scene w).pick))
    (R.drawDelay settings attempt jitter w)

/-- How the attempt loop of a retry policy runs from the world `w`, at attempt number
`attempt` with `remaining` attempts left and the outcome `o`: the attempts it makes, the
outcome it hands back and the world it leaves. -/
inductive Retries (R : SceneRun σ m W) (core : PolicyCore σ) (settings : RetrySettings)
    (jitter : Bool) (observer : RetryEvent → Act σ Unit) (op : m (Except Fault α)) :
    Nat → Nat → Outcome α → W → List (Attempt α) → Outcome α → W → Prop
  /-- No attempt is left. -/
  | spent {attempt : Nat} {o : Outcome α} {w : W} :
      Retries R core settings jitter observer op 0 attempt o w [] o w
  /-- The operation gave a value, which the outcome takes; it recovered if an error came
  before. -/
  | succeeded {remaining attempt : Nat} {o : Outcome α} {w w' : W} {v : α}
      (htry : Tried R core op (R.hear observer (.attemptStarted attempt settings.attemptLimit) w)
        (.value v) w') :
      Retries R core settings jitter observer op (remaining + 1) attempt o w [.value v]
        (if 0 < o.state.errorCount then (o.setValue v).modifyState (·.setOk) else o.setValue v)
        (R.hear observer (.succeeded attempt) w')
  /-- The token was cancelled when processing the error ended. -/
  | canceled {remaining attempt : Nat} {o : Outcome α} {w w' : W} {fault : Fault}
      {handling : Handling}
      (htry : Tried R core op (R.hear observer (.attemptStarted attempt settings.attemptLimit) w)
        (.error fault handling) w')
      (htoken : handling.tokenAtEnd = true) :
      Retries R core settings jitter observer op (remaining + 1) attempt o w
        [.error fault handling]
        (((Attempt.error fault handling).record o).modifyState (·.setFailedAndCanceled fault))
        (R.hear observer (.cancelled attempt (some fault)) w')
  /-- The filter rejected the error. -/
  | rejected {remaining attempt : Nat} {o : Outcome α} {w w' : W} {fault : Fault}
      (htry : Tried R core op (R.hear observer (.attemptStarted attempt settings.attemptLimit) w)
        (.error fault .rejected) w') :
      Retries R core settings jitter observer op (remaining + 1) attempt o w
        [.error fault .rejected]
        (((Attempt.error fault .rejected).record o).modifyState
          (·.setFailedWith fault .policyProcessorFailed))
        (R.hear observer (.cancelled attempt (some fault)) w')
  /-- The error was handled on the last attempt allowed. -/
  | exhausted {remaining attempt : Nat} {o : Outcome α} {w w' : W} {fault : Fault}
      {failures : List CatchBlockError}
      (htry : Tried R core op (R.hear observer (.attemptStarted attempt settings.attemptLimit) w)
        (.error fault (.processed failures false)) w')
      (hlimit : settings.attemptLimit ≤ attempt) :
      Retries R core settings jitter observer op (remaining + 1) attempt o w
        [.error fault (.processed failures false)]
        (((Attempt.error fault (.processed failures false)).record o).modifyState
          (·.setFailedWith fault .policyProcessorFailed))
        (R.hear observer (.exhausted attempt fault) w')
  /-- The error was handled, and the token was cancelled during the delay. -/
  | interrupted {remaining attempt : Nat} {o : Outcome α} {w w' : W} {fault : Fault}
      {failures : List CatchBlockError}
      (htry : Tried R core op (R.hear observer (.attemptStarted attempt settings.attemptLimit) w)
        (.error fault (.processed failures false)) w')
      (hlimit : attempt < settings.attemptLimit)
      (hcancelled :
        (R.scene (delayed R settings jitter observer attempt fault w')).cancelled = true) :
      Retries R core settings jitter observer op (remaining + 1) attempt o w
        [.error fault (.processed failures false)]
        (((Attempt.error fault (.processed failures false)).record o).modifyState
          (·.setFailedAndCanceled fault))
        (R.hear observer (.cancelled attempt (some fault))
          (delayed R settings jitter observer attempt fault w'))
  /-- The error was handled, and the next attempt follows the delay. -/
  | retried {remaining attempt : Nat} {o o' : Outcome α} {w w' w'' : W} {fault : Fault}
      {failures : List CatchBlockError} {attempts : List (Attempt α)}
      (htry : Tried R core op (R.hear observer (.attemptStarted attempt settings.attemptLimit) w)
        (.error fault (.processed failures false)) w')
      (hlimit : attempt < settings.attemptLimit)
      (hlive : (R.scene (delayed R settings jitter observer attempt fault w')).cancelled = false)
      (hrest : Retries R core settings jitter observer op remaining (attempt + 1)
        ((Attempt.error fault (.processed failures false)).record o)
        (delayed R settings jitter observer attempt fault w') attempts o' w'') :
      Retries R core settings jitter observer op (remaining + 1) attempt o w
        (.error fault (.processed failures false) :: attempts) o' w''

/-- The attempt loop runs as `Retries` says. The induction is on the attempts left; the
operation's result, then the handling of its error, then the attempt number and the token
after the delay pick the constructor. -/
theorem retryLoop_trace [LawfulMonad m] (R : SceneRun σ m W) (core : PolicyCore σ)
    (settings : RetrySettings) (jitter : Bool) (observer : RetryEvent → Act σ Unit)
    (ex : Execution) (op : m (Except Fault α)) :
    ∀ (remaining attempt : Nat) (o : Outcome α) (w : W),
      ∃ attempts o' w',
        Retries R core settings jitter observer op remaining attempt o w attempts o' w' ∧
        R.run (retryLoop core settings jitter observer ex op remaining attempt o) w = (o', w')
  | 0, attempt, o, w => ⟨[], o, w, .spent, by simp [retryLoop]⟩
  | remaining + 1, attempt, o, w => by
    rcases hcall : R.run op (R.hear observer (.attemptStarted attempt settings.attemptLimit) w)
      with ⟨result, w₁⟩
    cases result with
    | ok v =>
      refine ⟨_, _, _, .succeeded (.value hcall), ?_⟩
      simp [retryLoop, hcall, recordAttempt]
    | error fault =>
      obtain ⟨handling, s', hprocess, hrun⟩ :=
        run_processFault R core fault (o.modifyState (·.addError fault)) w₁
      have htry := Tried.error hcall hprocess
      cases handling with
      | screened | stopped _ =>
        -- both end with the verdict canceled: a token cancelled at screening, or a critical step
        refine ⟨_, _, _, .canceled htry rfl, ?_⟩
        simp [retryLoop, hcall, recordAttempt, hrun, Handling.verdict]
        rfl
      | rejected =>
        refine ⟨_, _, _, .rejected htry, ?_⟩
        simp [retryLoop, hcall, recordAttempt, hrun, Handling.verdict]
        rfl
      | processed failures cancelled =>
        cases cancelled with
        | true =>
          refine ⟨_, _, _, .canceled htry rfl, ?_⟩
          simp [retryLoop, hcall, recordAttempt, hrun, Handling.verdict]
          rfl
        | false =>
          -- a handled error: the attempt number, then the token after the delay decide
          by_cases hlimit : settings.attemptLimit ≤ attempt
          · refine ⟨_, _, _, .exhausted htry hlimit, ?_⟩
            simp [retryLoop, hcall, recordAttempt, hrun, Handling.verdict, hlimit]
            rfl
          · have hlt : attempt < settings.attemptLimit := Nat.lt_of_not_le hlimit
            cases hlive : (R.scene (delayed R settings jitter observer attempt fault
                (R.withScene w₁ s'))).cancelled with
            | true =>
              refine ⟨_, _, _, .interrupted htry hlt hlive, ?_⟩
              simp [delayed] at hlive
              simp [retryLoop, hcall, recordAttempt, hrun, Handling.verdict, hlimit, hlive, delayed]
              rfl
            | false =>
              obtain ⟨attempts, o', w', hrest, heq⟩ :=
                retryLoop_trace R core settings jitter observer ex op remaining (attempt + 1)
                  ((o.modifyState (·.addError fault)).modifyState
                    (Handling.processed failures false).record)
                  (delayed R settings jitter observer attempt fault (R.withScene w₁ s'))
              refine ⟨_, o', w', .retried htry hlt hlive hrest, ?_⟩
              simp [delayed] at hlive heq
              simp [retryLoop, hcall, recordAttempt, hrun, Handling.verdict, hlimit, hlive, heq]

/-- An outcome no exit of a strategy has marked yet: nothing failed, canceled, recovered or
rejected, no error left unprocessed, and no value. -/
structure Pending (o : Outcome α) : Prop where
  not_failed : o.state.failed = false
  not_canceled : o.state.canceled = false
  not_ok : o.state.ok = false
  reason_none : o.state.reason = .none
  filter_satisfied : o.state.filterUnsatisfied = false
  unprocessed_none : o.state.unprocessed = none
  no_value : o.value = none

/-- How the outcome reads once a strategy stopped on the error `fault`, processed as
`handling`: failed by its processor with that error unprocessed, canceled if the token was
cancelled when processing ended, rejected by the filter exactly when the handling says so,
and without a value. -/
structure StoppedOn (fault : Fault) (handling : Handling) (o : Outcome α) : Prop where
  failed : o.state.failed = true
  reason : o.state.reason = .policyProcessorFailed
  unprocessed : o.state.unprocessed = some fault
  canceled_of_token : handling.tokenAtEnd = true → o.state.canceled = true
  filterUnsatisfied_iff : o.state.filterUnsatisfied = true ↔ handling = .rejected
  no_value : o.value = none

/-- How the outcome reads once the attempt `a` ended a strategy: a value is handed back with
nothing failed or canceled, recovered exactly when some error was recorded; an error leaves
the outcome as `StoppedOn` says. -/
def Ends : Attempt α → Outcome α → Prop
  | .value v, o => o.value = some v ∧ o.state.failed = false ∧ o.state.canceled = false ∧
      o.state.reason = .none ∧ o.state.unprocessed = none ∧
      (o.state.ok = true ↔ 0 < o.state.errorCount)
  | .error fault handling, o => StoppedOn fault handling o

namespace Pending

variable {o : Outcome α}

theorem new (concurrent : Bool) : Pending (Outcome.new concurrent : Outcome α) :=
  ⟨rfl, rfl, rfl, rfl, rfl, rfl, rfl⟩

/-- A handled error leaves the outcome pending for the next attempt. -/
theorem record_processed (h : Pending o) (fault : Fault) (failures : List CatchBlockError) :
    Pending ((Attempt.error fault (.processed failures false)).record o) where
  not_failed := by simpa [Attempt.record, OutcomeState.addError] using h.not_failed
  not_canceled := by simpa [Attempt.record, OutcomeState.addError] using h.not_canceled
  not_ok := by simpa [Attempt.record, OutcomeState.addError] using h.not_ok
  reason_none := by simpa [Attempt.record, OutcomeState.addError] using h.reason_none
  filter_satisfied := by
    simpa [Attempt.record, Handling.record, OutcomeState.addError] using h.filter_satisfied
  unprocessed_none := by
    simpa [Attempt.record, OutcomeState.addError] using h.unprocessed_none
  no_value := by simpa using h.no_value

/-- The value ends a pending outcome as `Ends` says. -/
theorem ends_value (h : Pending o) (v : α) :
    Ends (.value v)
      (if 0 < o.state.errorCount then (o.setValue v).modifyState (·.setOk) else o.setValue v) := by
  by_cases hcount : 0 < o.state.errorCount
  · rw [if_pos hcount]
    exact ⟨rfl, h.not_failed, h.not_canceled, h.reason_none, h.unprocessed_none,
      fun _ => hcount, fun _ => rfl⟩
  · rw [if_neg hcount]
    refine ⟨rfl, h.not_failed, h.not_canceled, h.reason_none, h.unprocessed_none,
      fun hok => ?_, fun hpos => absurd hpos hcount⟩
    simp [h.not_ok] at hok

/-- Stopping a pending outcome on an error as failed and canceled. -/
theorem stoppedOn_failedAndCanceled (h : Pending o) (fault : Fault) (handling : Handling) :
    StoppedOn fault handling
      (((Attempt.error fault handling).record o).modifyState (·.setFailedAndCanceled fault)) where
  failed := rfl
  reason := by
    simp [Attempt.record, OutcomeState.setFailedAndCanceled, OutcomeState.setFailedWith,
      OutcomeState.setFailed, OutcomeState.setCanceled, OutcomeState.addError, h.reason_none]
  unprocessed := by
    simp [Attempt.record, OutcomeState.setFailedAndCanceled, OutcomeState.setFailedWith,
      OutcomeState.setFailed, OutcomeState.setCanceled, OutcomeState.addError, h.unprocessed_none]
  canceled_of_token _ := rfl
  filterUnsatisfied_iff := by
    simp [Attempt.record, OutcomeState.setFailedAndCanceled, OutcomeState.setFailedWith,
      OutcomeState.setFailed, OutcomeState.setCanceled, OutcomeState.addError, h.filter_satisfied]
  no_value := by simpa using h.no_value

/-- Stopping a pending outcome on an error as failed, when the token was not cancelled at the
end of processing. -/
theorem stoppedOn_failedWith (h : Pending o) (fault : Fault) (handling : Handling)
    (htoken : handling.tokenAtEnd = false) :
    StoppedOn fault handling (((Attempt.error fault handling).record o).modifyState
      (·.setFailedWith fault .policyProcessorFailed)) where
  failed := rfl
  reason := by
    simp [Attempt.record, OutcomeState.setFailedWith, OutcomeState.setFailed,
      OutcomeState.addError, h.reason_none]
  unprocessed := by
    simp [Attempt.record, OutcomeState.setFailedWith, OutcomeState.setFailed,
      OutcomeState.addError, h.unprocessed_none]
  canceled_of_token htrue := absurd (htoken.symm.trans htrue) (by decide)
  filterUnsatisfied_iff := by
    simp [Attempt.record, OutcomeState.setFailedWith, OutcomeState.setFailed,
      OutcomeState.addError, h.filter_satisfied]
  no_value := by simpa using h.no_value

end Pending

/-- An observer that leaves the token alone. -/
def Quiet (observer : RetryEvent → Act σ Unit) : Prop :=
  ∀ event s, ((observer event).run s).2.cancelled = s.cancelled

theorem Quiet.hear {observer : RetryEvent → Act σ Unit} (hquiet : Quiet observer)
    (R : SceneRun σ m W) (event : RetryEvent) (w : W) :
    (R.scene (R.hear observer event w)).cancelled = (R.scene w).cancelled := by
  simp only [SceneRun.hear, R.scene_withScene]
  exact hquiet event (R.scene w)

/-- After an attempt whose error was processed, the token is as the handling reports. -/
theorem Tried.tokenAtEnd_eq {R : SceneRun σ m W} {core : PolicyCore σ} {op : m (Except Fault α)}
    {w w' : W} {fault : Fault} {handling : Handling}
    (h : Tried R core op w (.error fault handling) w') :
    (R.scene w').cancelled = handling.tokenAtEnd := by
  cases h with
  | error _ hprocess => simp [hprocess.tokenAtEnd_eq]

/-- With a quiet observer, the delay after a handled error never meets a cancelled token:
processing left it live, drawing the delay does not touch it, and the observer leaves it so. -/
theorem Quiet.live_after_handled {observer : RetryEvent → Act σ Unit} (hquiet : Quiet observer)
    {R : SceneRun σ m W} {core : PolicyCore σ} {op : m (Except Fault α)} {w w' : W}
    {fault : Fault} {failures : List CatchBlockError}
    (htry : Tried R core op w (.error fault (.processed failures false)) w')
    (settings : RetrySettings) (jitter : Bool) (attempt : Nat) :
    (R.scene (delayed R settings jitter observer attempt fault w')).cancelled = false := by
  rw [delayed, hquiet.hear, R.drawDelay_cancelled, htry.tokenAtEnd_eq]
  rfl

theorem StoppedOn.settle {fault : Fault} {handling : Handling} {o : Outcome α}
    (h : StoppedOn fault handling o) : StoppedOn fault handling o.settle where
  failed := h.failed
  reason := h.reason
  unprocessed := h.unprocessed
  canceled_of_token := h.canceled_of_token
  filterUnsatisfied_iff := h.filterUnsatisfied_iff
  no_value := h.no_value

namespace Retries

variable {R : SceneRun σ m W} {core : PolicyCore σ} {settings : RetrySettings} {jitter : Bool}
  {observer : RetryEvent → Act σ Unit} {op : m (Except Fault α)} {remaining attempt : Nat}
  {o o' : Outcome α} {w w' : W} {attempts : List (Attempt α)}

theorem length_le
    (h : Retries R core settings jitter observer op remaining attempt o w attempts o' w') :
    attempts.length ≤ remaining := by
  induction h with
  | spent | succeeded | canceled | rejected | exhausted | interrupted => simp
  | retried _ _ _ _ ih => simpa using ih

/-- A loop with attempts left makes one. -/
theorem ne_nil
    (h : Retries R core settings jitter observer op remaining attempt o w attempts o' w')
    (hpos : 0 < remaining) : attempts ≠ [] := by
  cases h with
  | spent => exact absurd hpos (Nat.lt_irrefl 0)
  | succeeded | canceled | rejected | exhausted | interrupted | retried => simp

/-- Every attempt but the last had its error handled. -/
theorem handled_of_mem_dropLast
    (h : Retries R core settings jitter observer op remaining attempt o w attempts o' w') :
    ∀ a ∈ attempts.dropLast, ∃ fault failures, a = .error fault (.processed failures false) := by
  induction h with
  | spent | succeeded | canceled | rejected | exhausted | interrupted => simp
  | @retried _ _ _ _ _ _ _ fault failures rest _ _ _ _ ih =>
    intro a ha
    cases rest with
    | nil => simp at ha
    | cons b rest =>
      rw [List.dropLast_cons_cons, List.mem_cons] at ha
      rcases ha with rfl | ha
      · exact ⟨fault, failures, rfl⟩
      · exact ih a ha

/-- The loop records the operation's errors, in order. -/
theorem errorList
    (h : Retries R core settings jitter observer op remaining attempt o w attempts o' w') :
    o'.state.errorList = o.state.errorList ++ attempts.filterMap Attempt.fault? := by
  induction h with
  | spent => simp
  | succeeded => split <;> simp [Attempt.fault?]
  | canceled | rejected | exhausted | interrupted => simp [Attempt.fault?]
  | retried _ _ _ _ ih => simp [ih, Attempt.fault?]

/-- The loop records the catch-block errors processing left, in order. -/
theorem catchBlockErrors
    (h : Retries R core settings jitter observer op remaining attempt o w attempts o' w') :
    o'.state.catchBlockErrors = o.state.catchBlockErrors ++ attempts.flatMap Attempt.failures := by
  induction h with
  | spent => simp
  | succeeded => split <;> simp [Attempt.failures]
  | canceled | rejected | exhausted | interrupted => simp
  | retried _ _ _ _ ih => simp [ih]

/-- The attempt that ended the loop decides the outcome, for a loop started on a pending
outcome with more attempts left than the limit leaves to pass: it cannot run out of attempts
before an exit. The induction follows the loop; past a handled error the outcome is still
pending and attempts are still left. -/
theorem ends
    (h : Retries R core settings jitter observer op remaining attempt o w attempts o' w') :
    Pending o → settings.attemptLimit < attempt + remaining → ∀ a ∈ attempts.getLast?, Ends a o' := by
  induction h with
  | spent => simp
  | succeeded =>
    intro hpending _ a ha
    obtain rfl : _ = a := by simpa using ha
    exact hpending.ends_value _
  | canceled | interrupted =>
    -- the exits that cancel the outcome
    intro hpending _ a ha
    obtain rfl : _ = a := by simpa using ha
    exact hpending.stoppedOn_failedAndCanceled _ _
  | rejected | exhausted =>
    -- the exits that fail it on a live token
    intro hpending _ a ha
    obtain rfl : _ = a := by simpa using ha
    exact hpending.stoppedOn_failedWith _ _ rfl
  | @retried remaining attempt o o' w w' w'' fault failures rest _ hlimit _ hrest ih =>
    intro hpending hfit a ha
    rw [List.getLast?_cons_of_ne_nil (hrest.ne_nil (by omega))] at ha
    exact ih (hpending.record_processed fault failures) (by omega) a ha

/-- With a quiet observer, the outcome is canceled exactly when the token was cancelled at the
end of the last error's processing: no delay is interrupted. -/
theorem canceled_eq
    (h : Retries R core settings jitter observer op remaining attempt o w attempts o' w')
    (hquiet : Quiet observer) :
    Pending o → settings.attemptLimit < attempt + remaining → ∀ fault handling,
      attempts.getLast? = some (.error fault handling) → o'.state.canceled = handling.tokenAtEnd := by
  induction h with
  | spent => simp
  | succeeded => simp
  | canceled _ htoken =>
    intro _ _ fault handling hlast
    obtain ⟨rfl, rfl⟩ : _ = fault ∧ _ = handling := by simpa using hlast
    exact htoken.symm
  | rejected | exhausted =>
    intro hpending _ fault handling hlast
    obtain ⟨rfl, rfl⟩ : _ = fault ∧ _ = handling := by simpa using hlast
    simpa [Attempt.record, OutcomeState.setFailedWith, OutcomeState.setFailed,
      OutcomeState.addError, Handling.tokenAtEnd] using hpending.not_canceled
  | interrupted htry _ hcancelled =>
    rw [hquiet.live_after_handled htry] at hcancelled
    exact absurd hcancelled (by decide)
  | @retried remaining attempt o o' w w' w'' fault failures rest _ hlimit _ hrest ih =>
    intro hpending hfit fault' handling hlast
    rw [List.getLast?_cons_of_ne_nil (hrest.ne_nil (by omega))] at hlast
    exact ih (hpending.record_processed fault failures) (by omega) fault' handling hlast

/-- With a quiet observer, a handled error ends the loop only at the last attempt allowed,
when the attempt numbers and the attempts left add up to one more than the limit. -/
theorem length_eq_of_handled
    (h : Retries R core settings jitter observer op remaining attempt o w attempts o' w')
    (hquiet : Quiet observer) :
    attempt + remaining = settings.attemptLimit + 1 → ∀ fault failures,
      attempts.getLast? = some (.error fault (.processed failures false)) →
        attempt + attempts.length = settings.attemptLimit + 1 := by
  induction h with
  | spent => simp
  | succeeded => simp
  | canceled _ htoken =>
    intro _ fault failures hlast
    obtain ⟨rfl, rfl⟩ := by simpa using hlast
    simp [Handling.tokenAtEnd] at htoken
  | rejected => simp
  | exhausted _ hlimit =>
    intro hfit _ _ _
    simp only [List.length_singleton]
    omega
  | interrupted htry _ hcancelled =>
    rw [hquiet.live_after_handled htry] at hcancelled
    exact absurd hcancelled (by decide)
  | @retried remaining attempt o o' w w' w'' fault failures rest _ hlimit _ hrest ih =>
    intro hfit fault' failures' hlast
    rw [List.getLast?_cons_of_ne_nil (hrest.ne_nil (by omega))] at hlast
    have := ih (by omega) fault' failures' hlast
    simp only [List.length_cons]
    omega

end Retries

/-- Before a value, only errors: one error fewer than attempts is recorded. -/
theorem length_filterMap_fault? {attempts : List (Attempt α)} {v : α}
    (hcontinued : ∀ a ∈ attempts.dropLast, ∃ fault failures,
      a = .error fault (.processed failures false))
    (hlast : attempts.getLast? = some (.value v)) :
    (attempts.filterMap Attempt.fault?).length + 1 = attempts.length := by
  have hsplit := List.dropLast_append_getLast? (Attempt.value v) hlast
  have herrors : (attempts.dropLast.filterMap Attempt.fault?).length = attempts.dropLast.length := by
    rw [List.filterMap_length_eq_length]
    intro a ha
    obtain ⟨fault, failures, rfl⟩ := hcontinued a ha
    rfl
  rw [← hsplit, List.filterMap_append, List.length_append, herrors]
  simp [Attempt.fault?]

/-- What a run of a retry policy without handlers promises, from the scene `s` to the scene
`s'`, with the attempts `attempts` and the outcome `o`: the attempts ran as `Retries` says;
there is at least one and at most the allowed number, every one but the last with a handled
error, and a handled error ends the run only at the last attempt allowed; the outcome records
the operation's errors and the catch-block errors in order; and the last attempt decides the
outcome. -/
structure RetryRun (core : PolicyCore σ) (settings : RetrySettings) (jitter : Bool)
    (observer : RetryEvent → Act σ Unit) (op : Act σ (Except Fault α)) (s : Scene σ)
    (attempts : List (Attempt α)) (o : Outcome α) (s' : Scene σ) : Prop where
  runs : ∃ o₀, Retries SceneRun.act core settings jitter observer op settings.attemptLimit 1
    (Outcome.new false) s attempts o₀ s' ∧ o = o₀.settle
  length_pos : 0 < attempts.length
  length_le : attempts.length ≤ settings.attemptLimit
  continued : ∀ a ∈ attempts.dropLast, ∃ fault failures,
    a = .error fault (.processed failures false)
  exhausted : ∀ fault failures, attempts.getLast? = some (.error fault (.processed failures false)) →
    attempts.length = settings.attemptLimit
  errors_eq : o.errors = attempts.filterMap Attempt.fault?
  catchBlockErrors_eq : o.state.catchBlockErrors = attempts.flatMap Attempt.failures
  succeeded : ∀ v, attempts.getLast? = some (.value v) →
    o.value = some v ∧ o.state.failed = false ∧ o.state.canceled = false ∧
      o.state.reason = .none ∧ o.state.unprocessed = none ∧
      (o.state.ok = true ↔ 1 < attempts.length)
  stopped : ∀ fault handling, attempts.getLast? = some (.error fault handling) →
    StoppedOn fault handling o ∧ o.state.canceled = handling.tokenAtEnd

/-- The attempt loop of a retry policy. Invoked on a live token, with no handlers and an
observer that leaves the token alone, a retry policy calls its operation once per attempt and
processes each error once, until the first attempt that gives a value, meets a cancelled token
at the end of processing, is rejected by the filter, or is the last one allowed; the outcome
records every error in order, the catch-block errors of their processing, and is decided by
that last attempt. -/
theorem retry_attempt_loop {t : ValueType} (core : PolicyCore σ) (settings : RetrySettings)
    (jitter : Bool) (observer : RetryEvent → Act σ Unit) (op : Act σ (Except Fault t.Carrier))
    (s : Scene σ) (hhandlers : core.handlers = []) (hquiet : Quiet observer)
    (hlive : s.cancelled = false) :
    ∃ attempts o s', ((Leaf.mk core (.retry settings jitter observer)).handle t .blocking op).run s =
      (o, s') ∧ RetryRun core settings jitter observer op s attempts o s' := by
  obtain ⟨attempts, o₀, s', hruns, hloop⟩ := retryLoop_trace SceneRun.act core settings jitter
    observer .blocking op settings.attemptLimit 1 (Outcome.new false) s
  have hlimit : 0 < settings.attemptLimit := by simp [RetrySettings.attemptLimit]
  have hfit : 1 + settings.attemptLimit = settings.attemptLimit + 1 := Nat.add_comm _ _
  have hends := hruns.ends (Pending.new false) (by omega)
  have hnew : (Outcome.new false : Outcome t.Carrier).state.errorList = [] := rfl
  refine ⟨attempts, o₀.settle, s', ?_, ⟨o₀, hruns, rfl⟩, List.length_pos_of_ne_nil
    (hruns.ne_nil hlimit), hruns.length_le, hruns.handled_of_mem_dropLast, ?_, ?_, ?_, ?_, ?_⟩
  · -- the token is live, so the loop runs; no handler runs after it
    have hrun := congrArg (fun x => x) hloop
    simp only [SceneRun.act_run] at hrun
    simp [handle_eq, settleRun, Act.isCancelled, hlive, Execution.detached, hrun, finish,
      hhandlers, Handler.runAll, Handler.runFrom]
    rfl
  · intro fault failures hlast
    have := hruns.length_eq_of_handled hquiet hfit fault failures hlast
    omega
  · simp [Outcome.errors, hruns.errorList, hnew]
  · simp [hruns.catchBlockErrors]
    rfl
  · intro v hlast
    obtain ⟨hvalue, hfailed, hcanceled, hreason, hunprocessed, hok⟩ := hends (Attempt.value v) hlast
    have hcount := length_filterMap_fault? hruns.handled_of_mem_dropLast hlast
    have herrors : o₀.state.errorCount = (attempts.filterMap Attempt.fault?).length := by
      rw [← List.nil_append (attempts.filterMap Attempt.fault?), ← hnew, ← hruns.errorList]
      rfl
    refine ⟨hvalue, hfailed, hcanceled, hreason, hunprocessed, ?_⟩
    simp only [Outcome.settle_state, OutcomeState.settle]
    rw [hok, herrors]
    omega
  · intro fault handling hlast
    exact ⟨(hends (Attempt.error fault handling) hlast).settle,
      hruns.canceled_eq hquiet (Pending.new false) (by omega) fault handling hlast⟩

/-- A retry policy around an operation that succeeds, invoked on a live token, meets the
conditions. -/
theorem retry_attempt_loop_succeeding :
    ({ name := "retry" } : PolicyCore Unit).handlers = [] ∧
      Quiet (fun _ => pure () : RetryEvent → Act Unit Unit) ∧
      (⟨false, (), fun _ => 0⟩ : Scene Unit).cancelled = false ∧
      ∃ attempts o s', ((Leaf.mk (σ := Unit) { name := "retry" } (.retry (RetrySettings.attempts 3) true
          fun _ => pure ())).handle .unit .blocking
            (pure (.ok ()) : Act Unit (Except Fault Unit))).run ⟨false, (), fun _ => 0⟩ = (o, s') ∧
        RetryRun { name := "retry" } (RetrySettings.attempts 3) true (fun _ => pure ())
          (pure (.ok ())) ⟨false, (), fun _ => 0⟩ attempts o s' :=
  ⟨rfl, fun _ _ => rfl, rfl, retry_attempt_loop (t := .unit) { name := "retry" }
    (RetrySettings.attempts 3) true (fun _ => pure ()) (pure (.ok ())) ⟨false, (), fun _ => 0⟩ rfl
    (fun _ _ => rfl) rfl⟩

end Leaf

end Resilience

import Mathlib
import Resilience.Proofs.Trace.Retry
import Resilience.Proofs.Outcome.Monotone
import Resilience.Proofs.Outcome.Shape

/-!
# Leaf runs told step by step

A simple policy and a fallback policy make one attempt. `Leaf.SimpleRun` and
`Leaf.FallbackRun` tell how it goes, as `Leaf.Retries` tells the attempt loop: the operation
gives a value, or its error is processed, and the handling decides the rest. A handled error
is absorbed by a simple policy and replaced by the fallback's result in a fallback policy; a
rejected one fails the outcome; and one whose processing ended with the token cancelled
fails and cancels it, before any fallback could run.

`Leaf.Strategy` puts the three strategies together: how a leaf runs on a live token up to
its handlers, with the attempts it made and, for a fallback policy, what the fallback gave.
`Leaf.settleRun_trace` shows that every run on a live token goes as `Strategy` says, in
every world holding a scene, and `Leaf.Strategy.stops_on_token` that an error whose
processing ended with the token cancelled is the last thing a strategy does: no attempt and
no fallback follow it, and the outcome is failed and canceled, with that error unprocessed
and the filter's rejection not recorded.

The handlers run last. They only add their own errors and mark the outcome failed or
canceled (`OutcomeState.Kept`), so what the strategy decided survives them
(`Leaf.handle_trace`). On a token cancelled before the leaf starts, nothing but the retry
observer and the handlers runs (`Leaf.handle_of_cancelled`).

## Main definitions

* `Leaf.SimpleRun`, `Leaf.FallbackRun`: How the one attempt of a simple or a fallback policy
  goes.
* `Leaf.Strategy`: How a leaf runs on a live token, up to its handlers.
* `OutcomeState.Kept`: What handlers leave of a state.
* `Leaf.skipped`, `Leaf.skipScene`: What a leaf does on a cancelled token, and the scene its
  handlers start from then.
* `Leaf.StopsOnToken`: What the attempts and the outcome say of an error processed until the
  token was cancelled.

## Theorems

* `Leaf.runSimple_trace`, `Leaf.runFallback_trace`, `Leaf.settleRun_trace`: The strategies run
  as told.
* `Leaf.Strategy.stops_on_token`: A cancelled token at the end of processing ends the run.
* `Handler.runFrom_kept`: The handlers keep what the strategy decided.
* `Leaf.handle_trace`, `Leaf.handle_of_cancelled`: Whole invocations.
* `Leaf.handle_stops_on_token`: A cancelled token at the end of processing ends the whole
  invocation, through the handlers.
-/

namespace Resilience

namespace SceneRun

variable {σ : Type} {m : Type → Type} [Monad m] [MonadLiftT (Act σ) m] {W : Type}
  (R : SceneRun σ m W)

/-- A lifted computation that runs on the scene as `x` does runs on the world with that
scene. -/
theorem run_lift_of_run {β : Type} {x : Act σ β} {w : W} {b : β} {s' : Scene σ}
    (h : x.run (R.scene w) = (b, s')) : R.run (monadLift x) w = (b, R.withScene w s') := by
  rw [R.run_lift, h]

end SceneRun

namespace Leaf

open Processor (Handling)

variable {σ : Type} {m : Type → Type} [Monad m] [MonadLiftT (Act σ) m] {W : Type} {α : Type}

/-- How the one attempt of a simple policy goes from the world `w` with the outcome `o`: the
attempt, the outcome it hands back and the world it leaves. A handled error is absorbed: the
outcome recovers, with the unit value when the run's type has one. -/
inductive SimpleRun (R : SceneRun σ m W) (core : PolicyCore σ) (unit? : Option α)
    (op : m (Except Fault α)) : Outcome α → W → Attempt α → Outcome α → W → Prop
  | succeeded {o : Outcome α} {w w' : W} {v : α} (htry : Tried R core op w (.value v) w') :
      SimpleRun R core unit? op o w (.value v) (o.setValue v) w'
  | recovered {o : Outcome α} {w w' : W} {fault : Fault} {failures : List CatchBlockError}
      (htry : Tried R core op w (.error fault (.processed failures false)) w') :
      SimpleRun R core unit? op o w (.error fault (.processed failures false))
        (match unit? with
          | some v =>
            (((Attempt.error fault (.processed failures false)).record o).modifyState
              (·.setOk)).setValue v
          | none => ((Attempt.error fault (.processed failures false)).record o).modifyState
              (·.setOk))
        w'
  | canceled {o : Outcome α} {w w' : W} {fault : Fault} {handling : Handling}
      (htry : Tried R core op w (.error fault handling) w') (htoken : handling.tokenAtEnd = true) :
      SimpleRun R core unit? op o w (.error fault handling)
        (((Attempt.error fault handling).record o).modifyState (·.setFailedAndCanceled fault)) w'
  | rejected {o : Outcome α} {w w' : W} {fault : Fault}
      (htry : Tried R core op w (.error fault .rejected) w') :
      SimpleRun R core unit? op o w (.error fault .rejected)
        (((Attempt.error fault .rejected).record o).modifyState
          (·.setFailedWith fault .policyProcessorFailed)) w'

/-- How the one attempt of a fallback policy goes from the world `w` with the outcome `o`: the
attempt, what the fallback gave if it ran, the outcome handed back and the world left. After a
handled error the fallback runs on the world's scene; a failing fallback leaves a critical
catch-block error, and cancels the outcome when it reports a cancellation of the token. -/
inductive FallbackRun (R : SceneRun σ m W) (core : PolicyCore σ)
    (fallback? : Option (Operation σ α)) (op : m (Except Fault α)) :
    Outcome α → W → Attempt α → Option (Except Fault α) → Outcome α → W → Prop
  | succeeded {o : Outcome α} {w w' : W} {v : α} (htry : Tried R core op w (.value v) w') :
      FallbackRun R core fallback? op o w (.value v) none (o.setValue v) w'
  | missing {o : Outcome α} {w w' : W} {fault : Fault} {failures : List CatchBlockError}
      (htry : Tried R core op w (.error fault (.processed failures false)) w')
      (hnone : fallback? = none) :
      FallbackRun R core fallback? op o w (.error fault (.processed failures false)) none
        (((Attempt.error fault (.processed failures false)).record o).modifyState
          (·.setFailedWith fault .delegateMissing)) w'
  | fellBack {o : Outcome α} {w w' : W} {fault : Fault} {failures : List CatchBlockError}
      {fallback : Operation σ α} {v : α} {s'' : Scene σ}
      (htry : Tried R core op w (.error fault (.processed failures false)) w')
      (hsome : fallback? = some fallback)
      (hcall : fallback.call.run (R.scene w') = (.ok v, s'')) :
      FallbackRun R core fallback? op o w (.error fault (.processed failures false)) (some (.ok v))
        ((((Attempt.error fault (.processed failures false)).record o).setValue v).modifyState
          (·.setOk)) (R.withScene w' s'')
  | fallbackCanceled {o : Outcome α} {w w' : W} {fault : Fault} {failures : List CatchBlockError}
      {fallback : Operation σ α} {error : Fault} {s'' : Scene σ}
      (htry : Tried R core op w (.error fault (.processed failures false)) w')
      (hsome : fallback? = some fallback)
      (hcall : fallback.call.run (R.scene w') = (.error error, s''))
      (hcritical : (error.isCancellation && s''.cancelled) = true) :
      FallbackRun R core fallback? op o w (.error fault (.processed failures false))
        (some (.error error))
        ((((Attempt.error fault (.processed failures false)).record o).modifyState
          (·.addCatchBlockError ⟨error, true⟩)).modifyState (·.setFailedAndCanceled error))
        (R.withScene w' s'')
  | fallbackFailed {o : Outcome α} {w w' : W} {fault : Fault} {failures : List CatchBlockError}
      {fallback : Operation σ α} {error : Fault} {s'' : Scene σ}
      (htry : Tried R core op w (.error fault (.processed failures false)) w')
      (hsome : fallback? = some fallback)
      (hcall : fallback.call.run (R.scene w') = (.error error, s''))
      (hmild : (error.isCancellation && s''.cancelled) = false) :
      FallbackRun R core fallback? op o w (.error fault (.processed failures false))
        (some (.error error))
        ((((Attempt.error fault (.processed failures false)).record o).modifyState
          (·.addCatchBlockError ⟨error, true⟩)).modifyState
            (·.setFailedWith error .unhandledError))
        (R.withScene w' s'')
  | canceled {o : Outcome α} {w w' : W} {fault : Fault} {handling : Handling}
      (htry : Tried R core op w (.error fault handling) w') (htoken : handling.tokenAtEnd = true) :
      FallbackRun R core fallback? op o w (.error fault handling) none
        (((Attempt.error fault handling).record o).modifyState (·.setFailedAndCanceled fault)) w'
  | rejected {o : Outcome α} {w w' : W} {fault : Fault}
      (htry : Tried R core op w (.error fault .rejected) w') :
      FallbackRun R core fallback? op o w (.error fault .rejected) none
        (((Attempt.error fault .rejected).record o).modifyState
          (·.setFailedWith fault .policyProcessorFailed)) w'

variable {R : SceneRun σ m W}

/-- An error whose processing ended with the token cancelled is the attempt loop's last
attempt: every attempt the loop goes on from had its error handled on a live token. -/
theorem Retries.last_of_token {core : PolicyCore σ} {settings : RetrySettings} {jitter : Bool}
    {observer : RetryEvent → Act σ Unit} {op : m (Except Fault α)} {remaining attempt : Nat}
    {o o' : Outcome α} {w w' : W} {attempts : List (Attempt α)}
    (h : Retries R core settings jitter observer op remaining attempt o w attempts o' w') :
    ∀ fault handling, Attempt.error fault handling ∈ attempts → handling.tokenAtEnd = true →
      attempts.getLast? = some (.error fault handling) := by
  induction h with
  | spent => simp
  | succeeded => simp
  | canceled | rejected | exhausted | interrupted =>
    intro fault handling hmem _
    rw [List.mem_singleton] at hmem
    rw [hmem]
    rfl
  | @retried remaining attempt o o' w w' w'' fault failures rest _ _ _ _ ih =>
    intro fault' handling hmem htoken
    rcases List.mem_cons.1 hmem with hhead | hrest
    · -- the attempt the loop went on from had its error handled on a live token
      obtain ⟨-, rfl⟩ := Attempt.error.inj hhead
      simp [Handling.tokenAtEnd] at htoken
    · rw [List.getLast?_cons_of_ne_nil (List.ne_nil_of_mem hrest)]
      exact ih fault' handling hrest htoken

/-- How a leaf runs on a live token from the world `w`, starting from a fresh outcome, up to
its handlers: the attempts its strategy made, what the fallback gave if one ran, the outcome
handed to the handlers and the world left. -/
inductive Strategy (R : SceneRun σ m W) (leaf : Leaf σ) (t : ValueType) (ex : Execution)
    (op : m (Except Fault t.Carrier)) :
    W → List (Attempt t.Carrier) → Option (Except Fault t.Carrier) → Outcome t.Carrier → W →
      Prop
  | retry {settings : RetrySettings} {jitter : Bool} {observer : RetryEvent → Act σ Unit}
      {w w' : W} {attempts : List (Attempt t.Carrier)} {o : Outcome t.Carrier}
      (hlive : (R.scene w).cancelled = false)
      (hstrategy : leaf.strategy = .retry settings jitter observer)
      (hruns : Retries R leaf.core settings jitter observer op settings.attemptLimit 1
        (Outcome.new ex.detached) w attempts o w') :
      Strategy R leaf t ex op w attempts none o w'
  | simple {w w' : W} {a : Attempt t.Carrier} {o : Outcome t.Carrier}
      (hlive : (R.scene w).cancelled = false) (hstrategy : leaf.strategy = .simple)
      (hrun : SimpleRun R leaf.core t.unit? op (Outcome.new ex.detached) w a o w') :
      Strategy R leaf t ex op w [a] none o w'
  | fallback {table : FallbackTable σ} {w w' : W} {a : Attempt t.Carrier}
      {fb : Option (Except Fault t.Carrier)} {o : Outcome t.Carrier}
      (hlive : (R.scene w).cancelled = false) (hstrategy : leaf.strategy = .fallback table)
      (hrun : FallbackRun R leaf.core (table t) op (Outcome.new ex.detached) w a fb o w') :
      Strategy R leaf t ex op w [a] fb o w'

/-- What the attempts `attempts`, the fallback's result `fb` and the outcome `o` of a leaf say
of an error whose processing ended with the token cancelled: it was the last attempt, no
fallback ran, and the outcome stopped on it, canceled. -/
def StopsOnToken (attempts : List (Attempt α)) (fb : Option (Except Fault α)) (o : Outcome α) :
    Prop :=
  ∀ fault handling, Attempt.error fault handling ∈ attempts → handling.tokenAtEnd = true →
    attempts.getLast? = some (.error fault handling) ∧ fb = none ∧
      StoppedOn fault handling o ∧ o.state.canceled = true

/-- Cancellation wins. An error whose processing ended with the token cancelled is the last
thing a strategy does: no attempt and no fallback follow it, and the outcome is failed and
canceled with that error unprocessed, whatever the filter would have said of it. -/
theorem Strategy.stops_on_token {leaf : Leaf σ} {t : ValueType} {ex : Execution}
    {op : m (Except Fault t.Carrier)} {w w' : W} {attempts : List (Attempt t.Carrier)}
    {fb : Option (Except Fault t.Carrier)} {o : Outcome t.Carrier}
    (h : Strategy R leaf t ex op w attempts fb o w') : StopsOnToken attempts fb o := by
  intro fault handling hmem htoken
  cases h with
  | retry _ _ hruns =>
    have hlast := hruns.last_of_token fault handling hmem htoken
    have hstopped : StoppedOn fault handling o := hruns.ends (Pending.new _) (by omega) _ hlast
    exact ⟨hlast, rfl, hstopped, hstopped.canceled_of_token htoken⟩
  | simple _ _ hrun =>
    obtain rfl := List.mem_singleton.1 hmem
    cases hrun with
    | recovered => simp [Handling.tokenAtEnd] at htoken
    | canceled => exact ⟨rfl, rfl, (Pending.new _).stoppedOn_failedAndCanceled fault handling, rfl⟩
    | rejected => simp [Handling.tokenAtEnd] at htoken
  | fallback _ _ hrun =>
    obtain rfl := List.mem_singleton.1 hmem
    cases hrun with
    | missing | fellBack | fallbackCanceled | fallbackFailed =>
      simp [Handling.tokenAtEnd] at htoken
    | canceled => exact ⟨rfl, rfl, (Pending.new _).stoppedOn_failedAndCanceled fault handling, rfl⟩
    | rejected => simp [Handling.tokenAtEnd] at htoken

variable [LawfulMonad m]

/-- A simple policy's attempt runs as `SimpleRun` says: the operation's result, then the
handling of its error, pick the constructor. -/
theorem runSimple_trace (R : SceneRun σ m W) (core : PolicyCore σ) (unit? : Option α)
    (ex : Execution) (op : m (Except Fault α)) (o : Outcome α) (w : W) :
    ∃ a o' w', SimpleRun R core unit? op o w a o' w' ∧
      R.run (runSimple core unit? ex op o) w = (o', w') := by
  rcases hcall : R.run op w with ⟨result, w₁⟩
  cases result with
  | ok v => exact ⟨_, _, _, .succeeded (.value hcall), by simp [runSimple, hcall, recordAttempt]⟩
  | error fault =>
    obtain ⟨handling, s', hprocess, hrun⟩ :=
      run_processFault R core fault (o.modifyState (·.addError fault)) w₁
    have htry := Tried.error hcall hprocess
    -- the run goes by the verdict; a handled error is absorbed
    cases hverdict : handling.verdict with
    | canceled =>
      have htoken := (Handling.verdict_eq_canceled_iff handling).1 hverdict
      refine ⟨_, _, _, .canceled htry htoken, ?_⟩
      simp [runSimple, hcall, recordAttempt, hrun, hverdict]
      rfl
    | filterRejected =>
      obtain rfl := (Handling.verdict_eq_filterRejected_iff handling).1 hverdict
      refine ⟨_, _, _, .rejected htry, ?_⟩
      simp [runSimple, hcall, recordAttempt, hrun, hverdict]
      rfl
    | handled =>
      obtain ⟨failures, rfl⟩ := (Handling.verdict_eq_handled_iff handling).1 hverdict
      refine ⟨_, _, _, .recovered htry, ?_⟩
      cases unit? <;> simp [runSimple, hcall, recordAttempt, hrun, hverdict] <;> rfl

/-- A fallback policy's attempt runs as `FallbackRun` says: the operation's result, the
handling of its error, the fallback registered, its result and the token after it pick the
constructor. -/
theorem runFallback_trace (R : SceneRun σ m W) (core : PolicyCore σ)
    (fallback? : Option (Operation σ α)) (ex : Execution) (op : m (Except Fault α))
    (o : Outcome α) (w : W) :
    ∃ a fb o' w', FallbackRun R core fallback? op o w a fb o' w' ∧
      R.run (runFallback core fallback? ex op o) w = (o', w') := by
  rcases hcall : R.run op w with ⟨result, w₁⟩
  cases result with
  | ok v =>
    exact ⟨_, _, _, _, .succeeded (.value hcall), by simp [runFallback, hcall, recordAttempt]⟩
  | error fault =>
    obtain ⟨handling, s', hprocess, hrun⟩ :=
      run_processFault R core fault (o.modifyState (·.addError fault)) w₁
    have htry := Tried.error hcall hprocess
    -- the run goes by the verdict
    cases hverdict : handling.verdict with
    | canceled =>
      have htoken := (Handling.verdict_eq_canceled_iff handling).1 hverdict
      refine ⟨_, _, _, _, .canceled htry htoken, ?_⟩
      simp [runFallback, hcall, recordAttempt, hrun, hverdict]
      rfl
    | filterRejected =>
      obtain rfl := (Handling.verdict_eq_filterRejected_iff handling).1 hverdict
      refine ⟨_, _, _, _, .rejected htry, ?_⟩
      simp [runFallback, hcall, recordAttempt, hrun, hverdict]
      rfl
    | handled =>
      obtain ⟨failures, rfl⟩ := (Handling.verdict_eq_handled_iff handling).1 hverdict
      -- a handled error: the fallback registered for the type takes over
      cases fallback? with
      | none =>
        refine ⟨_, _, _, _, .missing htry rfl, ?_⟩
        simp [runFallback, hcall, recordAttempt, hrun, hverdict]
        rfl
      | some fallback =>
        rcases hfb : fallback.call.run s' with ⟨result', s''⟩
        have hscene : fallback.call.run (R.scene (R.withScene w₁ s')) = (result', s'') := by
          rw [R.scene_withScene]
          exact hfb
        have hlift := R.run_lift_of_run hscene
        cases result' with
        | ok v =>
          refine ⟨_, _, _, _, .fellBack htry rfl hscene, ?_⟩
          simp [runFallback, hcall, recordAttempt, hrun, hverdict, hlift]
          rfl
        | error error =>
          -- the fallback's own error is critical when it reports the token's cancellation
          cases hcritical : (error.isCancellation && s''.cancelled) with
          | true =>
            refine ⟨_, _, _, _, .fallbackCanceled htry rfl hscene hcritical, ?_⟩
            simp [runFallback, hcall, recordAttempt, hrun, hverdict, hlift,
              (Bool.and_eq_true_iff.1 hcritical).1, (Bool.and_eq_true_iff.1 hcritical).2]
            rfl
          | false =>
            refine ⟨_, _, _, _, .fallbackFailed htry rfl hscene hcritical, ?_⟩
            simp only [runFallback, R.run_bind, run_attemptOnce, hcall, recordAttempt, hrun,
              hverdict, Bool.false_eq_true, if_false, hlift, R.run_isCancelled,
              R.scene_withScene, hcritical, R.run_pure]
            rfl

/-- On a live token a leaf's strategy runs as `Strategy` says. -/
theorem settleRun_trace (R : SceneRun σ m W) (leaf : Leaf σ) (t : ValueType) (ex : Execution)
    (op : m (Except Fault t.Carrier)) (w : W) (hlive : (R.scene w).cancelled = false) :
    ∃ attempts fb o w', Strategy R leaf t ex op w attempts fb o w' ∧
      R.run (leaf.settleRun t ex op (Outcome.new ex.detached)) w = (o, w') := by
  obtain ⟨core, strategy⟩ := leaf
  cases strategy with
  | retry settings jitter observer =>
    obtain ⟨attempts, o, w', hruns, hrun⟩ := retryLoop_trace R core settings jitter observer ex op
      settings.attemptLimit 1 (Outcome.new ex.detached) w
    exact ⟨attempts, none, o, w', .retry hlive rfl hruns, by simp [settleRun, hlive, hrun]⟩
  | fallback table =>
    obtain ⟨a, fb, o, w', hfallback, hrun⟩ :=
      runFallback_trace R core (table t) ex op (Outcome.new ex.detached) w
    exact ⟨[a], fb, o, w', .fallback hlive rfl hfallback, by simp [settleRun, hlive, hrun]⟩
  | simple =>
    obtain ⟨a, o, w', hsimple, hrun⟩ :=
      runSimple_trace R core t.unit? ex op (Outcome.new ex.detached) w
    exact ⟨[a], none, o, w', .simple hlive rfl hsimple, by simp [settleRun, hlive, hrun]⟩

end Leaf

namespace OutcomeState

/-- What the handlers leave of the state `st` in `st'`: they add their own errors and may mark
it failed or canceled, so flags and a reason once there stay, and everything else is kept. -/
structure Kept (st st' : OutcomeState) : Prop where
  grows : Grows st st'
  errorList : st'.errorList = st.errorList
  catchBlockErrors : st'.catchBlockErrors = st.catchBlockErrors
  unprocessed : st'.unprocessed = st.unprocessed
  filterUnsatisfied : st'.filterUnsatisfied = st.filterUnsatisfied

namespace Kept

variable {st st' st'' : OutcomeState}

theorem refl (st : OutcomeState) : Kept st st := ⟨.refl st, rfl, rfl, rfl, rfl⟩

theorem trans (h : Kept st st') (h' : Kept st' st'') : Kept st st'' :=
  ⟨h.grows.trans h'.grows, h'.errorList.trans h.errorList,
    h'.catchBlockErrors.trans h.catchBlockErrors, h'.unprocessed.trans h.unprocessed,
    h'.filterUnsatisfied.trans h.filterUnsatisfied⟩

end Kept

theorem kept_settle (st : OutcomeState) : Kept st st.settle := ⟨grows_settle st, rfl, rfl, rfl, rfl⟩

theorem kept_addHandlingError (st : OutcomeState) (error : HandlerError) :
    Kept st (st.addHandlingError error) := ⟨grows_addHandlingError st error, rfl, rfl, rfl, rfl⟩

theorem kept_setFailed (st : OutcomeState) (reason : FailedReason) : Kept st (st.setFailed reason) :=
  ⟨grows_setFailed st reason, rfl, rfl, rfl, rfl⟩

theorem kept_setCanceled (st : OutcomeState) : Kept st st.setCanceled :=
  ⟨grows_setCanceled st, rfl, rfl, rfl, rfl⟩

end OutcomeState

namespace Handler

variable {σ : Type}

/-- A reply keeps what was decided: the handler's error is added, then its requests apply. -/
theorem kept_record (index : Nat) (reply : HandlerReply) (st : OutcomeState) :
    OutcomeState.Kept st (record index reply st) := by
  simp only [record]
  -- the requests apply to the state with the handler's error logged, each on a state with or
  -- without the error
  have hlogged : ∀ error, OutcomeState.Kept st (st.addHandlingError ⟨error, index⟩) :=
    fun error => OutcomeState.kept_addHandlingError _ _
  split_ifs <;> split
  · exact (OutcomeState.kept_setFailed _ _).trans (OutcomeState.kept_setCanceled _)
  · exact ((hlogged _).trans (OutcomeState.kept_setFailed _ _)).trans
      (OutcomeState.kept_setCanceled _)
  · exact OutcomeState.kept_setCanceled _
  · exact (hlogged _).trans (OutcomeState.kept_setCanceled _)
  · exact OutcomeState.kept_setFailed _ _
  · exact (hlogged _).trans (OutcomeState.kept_setFailed _ _)
  · exact .refl st
  · exact hlogged _

/-- The handlers keep what was decided, one reply after another. -/
theorem runFrom_kept (policy : String) (handlers : List (Handler σ)) (index : Nat)
    (st : OutcomeState) : SatisfiesM (OutcomeState.Kept st) (runFrom policy handlers index st) := by
  induction handlers generalizing index st with
  | nil => exact .pure (.refl st)
  | cons handler rest ih =>
    exact .bind_pre <| .of_true fun reply =>
      (ih (index + 1) _).imp fun hkept => (kept_record index reply st).trans hkept

end Handler

/-- What holds of every result of a computation holds of its result from any scene. -/
theorem Act.satisfiesM_run {σ β : Type} {p : β → Prop} {x : Act σ β} (h : SatisfiesM p x)
    (s : Scene σ) : p (x.run s).1 := by
  have hrun := SatisfiesM_StateT_eq.1 h s
  rw [SatisfiesM_Id_eq] at hrun
  exact hrun

namespace Leaf

variable {σ : Type} {m : Type → Type} [Monad m] [MonadLiftT (Act σ) m] [LawfulMonad m]
  {W : Type} {α : Type}

/-- A leaf invoked on a live token runs its strategy as `Strategy` says, then its handlers,
which keep the value and what the strategy decided. -/
theorem handle_trace (R : SceneRun σ m W) (leaf : Leaf σ) (t : ValueType) (ex : Execution)
    (op : m (Except Fault t.Carrier)) (w : W) (hlive : (R.scene w).cancelled = false) :
    ∃ attempts fb o₀ w₁ o w', Strategy R leaf t ex op w attempts fb o₀ w₁ ∧
      R.run (leaf.handle t ex op) w = (o, w') ∧ o.value = o₀.value ∧
        OutcomeState.Kept o₀.state o.state := by
  obtain ⟨attempts, fb, o₀, w₁, hstrategy, hrun⟩ := settleRun_trace R leaf t ex op w hlive
  rcases hhandlers : (Handler.runAll leaf.core.handlers leaf.core.name o₀.state.settle).run
    (R.scene w₁) with ⟨st, s₂⟩
  -- the handlers start from the settled state and keep what it holds
  have hkept : OutcomeState.Kept o₀.state.settle st := by
    have hsat : SatisfiesM (OutcomeState.Kept o₀.state.settle)
        (Handler.runAll leaf.core.handlers leaf.core.name o₀.state.settle) :=
      Handler.runFrom_kept leaf.core.name leaf.core.handlers 0 o₀.state.settle
    have hfinal := Act.satisfiesM_run hsat (R.scene w₁)
    rw [hhandlers] at hfinal
    exact hfinal
  refine ⟨attempts, fb, o₀, w₁, { o₀ with state := st }, R.withScene w₁ s₂, hstrategy, ?_, rfl,
    (OutcomeState.kept_settle _).trans hkept⟩
  rw [handle_eq, R.run_bind, hrun]
  simp only [finish, R.run_bind, R.run_lift_of_run hhandlers, R.run_pure]

/-- What a leaf does on a token that is already cancelled: a retry policy's observer hears
that the loop stopped before its first attempt, and the handlers run over a fresh outcome
marked canceled, its error list settled. -/
def skipped (leaf : Leaf σ) (ex : Execution) : Act σ (Outcome α) := do
  match leaf.strategy with
  | .retry _ _ observer => observer (.cancelled 1 none)
  | _ => pure ()
  let state ← Handler.runAll leaf.core.handlers leaf.core.name
    (OutcomeState.new ex.detached).setCanceled.settle
  return { state }

/-- The scene a leaf's handlers start from on a token cancelled from the scene `s`: the one a
retry policy's observer leaves once told that the loop stopped before its first attempt, `s`
itself for the other strategies. -/
def skipScene (leaf : Leaf σ) (s : Scene σ) : Scene σ :=
  match leaf.strategy with
  | .retry _ _ observer => ((observer (.cancelled 1 none)).run s).2
  | _ => s

theorem skipped_run (leaf : Leaf σ) (ex : Execution) (s : Scene σ) :
    (leaf.skipped (α := α) ex).run s =
      (Handler.runAll leaf.core.handlers leaf.core.name
          (OutcomeState.new ex.detached).setCanceled.settle >>=
        fun state => pure ({ state } : Outcome α)).run (leaf.skipScene s) := by
  obtain ⟨core, strategy⟩ := leaf
  cases strategy with
  | retry settings jitter observer =>
    simp [skipped, skipScene]
    rfl
  | fallback table => simp [skipped, skipScene]
  | simple => simp [skipped, skipScene]

/-- On a cancelled token a strategy does nothing but mark the outcome canceled, after telling a
retry policy's observer. -/
theorem settleRun_of_cancelled (R : SceneRun σ m W) (leaf : Leaf σ) (t : ValueType)
    (ex : Execution) (op : m (Except Fault t.Carrier)) (w : W)
    (hcancelled : (R.scene w).cancelled = true) :
    R.run (leaf.settleRun t ex op (Outcome.new ex.detached)) w =
      ((Outcome.new ex.detached).modifyState (·.setCanceled),
        R.withScene w (leaf.skipScene (R.scene w))) := by
  obtain ⟨core, strategy⟩ := leaf
  cases strategy with
  | retry settings jitter observer => simp [settleRun, hcancelled, SceneRun.hear, skipScene]
  | fallback table => simp [settleRun, hcancelled, skipScene]
  | simple => simp [settleRun, hcancelled, skipScene]

/-- On a cancelled token a leaf does only what `skipped` does: neither the operation, nor a
bulk step, nor a fallback runs. -/
theorem handle_of_cancelled (R : SceneRun σ m W) (leaf : Leaf σ) (t : ValueType)
    (ex : Execution) (op : m (Except Fault t.Carrier)) (w : W)
    (hcancelled : (R.scene w).cancelled = true) :
    R.run (leaf.handle t ex op) w = R.run (monadLift (leaf.skipped (α := t.Carrier) ex)) w := by
  -- both runs hand the handlers the same canceled state on the same scene
  rcases hh : (Handler.runAll leaf.core.handlers leaf.core.name
    (OutcomeState.new ex.detached).setCanceled.settle).run (leaf.skipScene (R.scene w))
    with ⟨st, s₂⟩
  have hskip : (leaf.skipped (α := t.Carrier) ex).run (R.scene w) = ({ state := st }, s₂) := by
    rw [skipped_run]
    simp [hh]
    rfl
  have hfinish : R.run (monadLift (Handler.runAll leaf.core.handlers leaf.core.name
      ((Outcome.new ex.detached).modifyState (·.setCanceled) : Outcome t.Carrier).state.settle))
      (R.withScene w (leaf.skipScene (R.scene w))) =
        (st, R.withScene (R.withScene w (leaf.skipScene (R.scene w))) s₂) :=
    R.run_lift_of_run (by rw [R.scene_withScene]; exact hh)
  rw [handle_eq, R.run_bind, settleRun_of_cancelled R leaf t ex op w hcancelled,
    R.run_lift_of_run hskip]
  simp only [finish, R.run_bind, hfinish, R.run_pure, R.withScene_withScene]
  rfl

/-- An outcome handed back on a token cancelled before the policy started: canceled, with no
operation error, no catch-block error, no value, no error unprocessed and no rejection by the
filter, and failed only if a handler asked for it. -/
structure CanceledAtEntry (o : Outcome α) : Prop where
  canceled : o.state.canceled = true
  no_errors : o.state.errorList = []
  no_catchBlockErrors : o.state.catchBlockErrors = []
  no_value : o.value = none
  unprocessed_none : o.state.unprocessed = none
  filter_satisfied : o.state.filterUnsatisfied = false
  failed_by_handlers : o.state.failed = true → o.state.reason = .policyResultHandlerFailed

/-- The inner runs an outcome records say nothing of how it was canceled at entry. -/
theorem CanceledAtEntry.withWrapped {o : Outcome α} (h : CanceledAtEntry o)
    (wrapped : Option (WrappedRuns α)) : CanceledAtEntry { o with wrapped } :=
  ⟨h.canceled, h.no_errors, h.no_catchBlockErrors, h.no_value, h.unprocessed_none,
    h.filter_satisfied, h.failed_by_handlers⟩

/-- The handlers run over a fresh canceled state leave it as `CanceledAtEntry` says. They keep
the state's lists, its unprocessed error and its flags; and since the shape of an outcome ties
an unprocessed error to every failure a handler did not ask for, and none is unprocessed, a
failure can only be a handler's. -/
theorem handlers_canceledAtEntry (handlers : List (Handler σ)) (policy : String)
    (concurrent : Bool) (s : Scene σ) :
    CanceledAtEntry ({ state := ((Handler.runAll handlers policy
      (OutcomeState.new concurrent).setCanceled.settle).run s).1 } : Outcome α) := by
  have hshaped₀ : OutcomeState.Shaped false (OutcomeState.new concurrent).setCanceled.settle :=
    (((undecided_new (α := α) concurrent).shaped false).setCanceled).settle
  have hkept := Act.satisfiesM_run
    (Handler.runFrom_kept policy handlers 0 (OutcomeState.new concurrent).setCanceled.settle) s
  have hshaped := Act.satisfiesM_run (Handler.runFrom_shaped policy handlers 0 hshaped₀) s
  refine ⟨hkept.grows.canceled rfl, hkept.errorList, hkept.catchBlockErrors, rfl,
    hkept.unprocessed, hkept.filterUnsatisfied, fun hfailed => ?_⟩
  by_contra hreason
  have hsome := hshaped.unprocessed_iff.2 ⟨hfailed, hreason⟩
  rw [hkept.unprocessed] at hsome
  simp [OutcomeState.new, OutcomeState.setCanceled, OutcomeState.settle] at hsome

/-- What a leaf hands back on a cancelled token is as `CanceledAtEntry` says. -/
theorem skipped_canceledAtEntry (leaf : Leaf σ) (ex : Execution) (s : Scene σ) :
    CanceledAtEntry ((leaf.skipped (α := α) ex).run s).1 := by
  rw [skipped_run]
  exact handlers_canceledAtEntry leaf.core.handlers leaf.core.name ex.detached (leaf.skipScene s)

/-- What a strategy stopped on survives the handlers, which keep the value and what the
strategy decided, and the inner runs an outcome records. -/
theorem StoppedOn.kept {fault : Fault} {handling : Processor.Handling} {o₀ o : Outcome α}
    (h : StoppedOn fault handling o₀) (hvalue : o.value = o₀.value)
    (hkept : OutcomeState.Kept o₀.state o.state) : StoppedOn fault handling o where
  failed := hkept.grows.failed h.failed
  reason := by
    rw [hkept.grows.reason (by rw [h.reason]; decide), h.reason]
  unprocessed := by rw [hkept.unprocessed, h.unprocessed]
  canceled_of_token htoken := hkept.grows.canceled (h.canceled_of_token htoken)
  filterUnsatisfied_iff := by rw [hkept.filterUnsatisfied]; exact h.filterUnsatisfied_iff
  no_value := by rw [hvalue, h.no_value]

theorem StoppedOn.withWrapped {fault : Fault} {handling : Processor.Handling} {o : Outcome α}
    (h : StoppedOn fault handling o) (wrapped : Option (WrappedRuns α)) :
    StoppedOn fault handling { o with wrapped } :=
  ⟨h.failed, h.reason, h.unprocessed, h.canceled_of_token, h.filterUnsatisfied_iff, h.no_value⟩

theorem StopsOnToken.kept {attempts : List (Attempt α)} {fb : Option (Except Fault α)}
    {o₀ o : Outcome α} (h : StopsOnToken attempts fb o₀) (hvalue : o.value = o₀.value)
    (hkept : OutcomeState.Kept o₀.state o.state) : StopsOnToken attempts fb o := by
  intro fault handling hmem htoken
  obtain ⟨hlast, hfb, hstopped, hcanceled⟩ := h fault handling hmem htoken
  exact ⟨hlast, hfb, hstopped.kept hvalue hkept, hkept.grows.canceled hcanceled⟩

theorem StopsOnToken.withWrapped {attempts : List (Attempt α)} {fb : Option (Except Fault α)}
    {o : Outcome α} (h : StopsOnToken attempts fb o) (wrapped : Option (WrappedRuns α)) :
    StopsOnToken attempts fb { o with wrapped } := by
  intro fault handling hmem htoken
  obtain ⟨hlast, hfb, hstopped, hcanceled⟩ := h fault handling hmem htoken
  exact ⟨hlast, hfb, hstopped.withWrapped wrapped, hcanceled⟩

/-- Cancellation wins in a whole invocation on a live token: an error whose processing ended
with the token cancelled is the strategy's last attempt, no fallback ran, and the outcome the
handlers hand back is still failed and canceled, with that error unprocessed. -/
theorem handle_stops_on_token (R : SceneRun σ m W) (leaf : Leaf σ) (t : ValueType)
    (ex : Execution) (op : m (Except Fault t.Carrier)) (w : W)
    (hlive : (R.scene w).cancelled = false) :
    ∃ attempts fb o₀ w₁ o w', Strategy R leaf t ex op w attempts fb o₀ w₁ ∧
      R.run (leaf.handle t ex op) w = (o, w') ∧ StopsOnToken attempts fb o := by
  obtain ⟨attempts, fb, o₀, w₁, o, w', hstrategy, hrun, hvalue, hkept⟩ :=
    handle_trace R leaf t ex op w hlive
  -- the handlers keep the value and what the strategy decided
  have hstops : StopsOnToken attempts fb o₀ := hstrategy.stops_on_token
  exact ⟨attempts, fb, o₀, w₁, o, w', hstrategy, hrun, hstops.kept hvalue hkept⟩

end Leaf

end Resilience

import Mathlib
import Resilience.Proofs.Leaf.Execution

/-!
# Runs told step by step

The library's computations are state transformers of the scene a run sees: the token and
the callbacks' journal. A policy wrapping another one runs its outer leaf in a larger world,
which also holds the inner runs collected so far. `SceneRun` describes such a world once: a
monad whose computations run as state transformers of a world holding a scene, running
`pure` and `bind` as a state monad does, and running a lifted computation of the scene on the
world's scene alone. Every statement about what a leaf's run does is made through it, so it
holds in both worlds at once.

Processing one error is told the same way. `Processor.StepsRun` follows the bulk steps from
scene to scene, one call per step in registration order, until one fails critically;
`Processor.Processing` adds the two checks before them, the token and then the filter. Its
result is a `Processor.Handling`, which says which of the four ways processing went and
carries what the outcome needs to know: the catch-block errors left and whether the token was
cancelled when processing ended. `Processor.process_trace` shows that processing runs as
`Processing` says, and `Processor.Processing.tokenAtEnd_eq` that the handling reports the
token as the last scene has it. The verdict is `canceled` exactly when the token was cancelled
when processing ended (`Processor.Handling.verdict_eq_canceled_iff`): a cancellation beats the
filter and every bulk step, wherever it happens between the error and the end of processing.
`Processor.process_verdicts` gathers the three ways processing starts (a cancelled token, a
rejection, an error let through) with what each leaves on the state; the steps are read
through their runs alone, so their kind plays no part.

## Main definitions

* `SceneRun`, `SceneRun.act`, `SceneRun.state`: Worlds holding a scene.
* `Processor.StepsRun`: How the bulk steps run on an error.
* `Processor.Handling`: How processing an error went.
* `Processor.Processing`: How processing an error runs.

## Theorems

* `Processor.runSteps_trace`, `Processor.process_trace`: Processing runs as told.
* `Processor.runSteps_congr`: Steps with the same runs are processed alike.
* `Processor.process_verdicts`: The verdict and the state left, case by case.
* `Processor.Processing.tokenAtEnd_eq`: The handling reports the token at the end.
* `Processor.Handling.verdict_eq_canceled_iff`: Canceled exactly when the token was; its
  companions `verdict_eq_filterRejected_iff` and `verdict_eq_handled_iff` read the others.
-/

namespace Resilience

/-- A monad whose computations run as state transformers of a world `W` holding a scene:
running respects `pure` and `bind`, and a lifted computation of the scene runs on the world's
scene and leaves the rest of the world alone. Reading and replacing the scene obey the laws of
a field: what was put is read back, putting back what was read changes nothing, and a second
put overrides the first. -/
structure SceneRun (σ : Type) (m : Type → Type) [Monad m] [MonadLiftT (Act σ) m] (W : Type) where
  /-- Run a computation from a world. -/
  run : {β : Type} → m β → W → β × W
  /-- The scene a world holds. -/
  scene : W → Scene σ
  /-- The world with its scene replaced. -/
  withScene : W → Scene σ → W
  run_pure : ∀ {β : Type} (x : β) (w : W), run (pure x) w = (x, w)
  run_bind : ∀ {β γ : Type} (x : m β) (f : β → m γ) (w : W),
    run (x >>= f) w = run (f (run x w).1) (run x w).2
  run_lift : ∀ {β : Type} (x : Act σ β) (w : W),
    run (monadLift x) w = ((x.run (scene w)).1, withScene w (x.run (scene w)).2)
  scene_withScene : ∀ (w : W) (s : Scene σ), scene (withScene w s) = s
  withScene_scene : ∀ w : W, withScene w (scene w) = w
  withScene_withScene : ∀ (w : W) (s s' : Scene σ), withScene (withScene w s) s' = withScene w s'

namespace SceneRun

variable {σ : Type}

/-- The world of a leaf run directly: the scene itself. -/
def act : SceneRun σ (Act σ) (Scene σ) where
  run x s := x.run s
  scene s := s
  withScene _ s := s
  run_pure _ _ := rfl
  run_bind _ _ _ := rfl
  run_lift _ _ := rfl
  scene_withScene _ _ := rfl
  withScene_scene _ := rfl
  withScene_withScene _ _ _ := rfl

/-- The world of a wrapping leaf: what it collects of its inner runs, and the scene. -/
def state (ρ : Type) : SceneRun σ (StateT ρ (Act σ)) (ρ × Scene σ) where
  run x w := (((x.run w.1).run w.2).1.1, ((x.run w.1).run w.2).1.2, ((x.run w.1).run w.2).2)
  scene w := w.2
  withScene w s := (w.1, s)
  run_pure _ _ := rfl
  run_bind _ _ _ := rfl
  run_lift _ _ := rfl
  scene_withScene _ _ := rfl
  withScene_scene _ := rfl
  withScene_withScene _ _ _ := rfl

@[simp]
theorem act_run {β : Type} (x : Act σ β) (s : Scene σ) : act.run x s = x.run s := rfl

@[simp]
theorem act_scene (s : Scene σ) : act.scene s = s := rfl

@[simp]
theorem act_withScene (s s' : Scene σ) : act.withScene s s' = s' := rfl

variable {m : Type → Type} [Monad m] [MonadLiftT (Act σ) m] {W : Type} (R : SceneRun σ m W)

attribute [simp] SceneRun.run_pure SceneRun.run_bind SceneRun.scene_withScene
  SceneRun.withScene_scene SceneRun.withScene_withScene

@[simp]
theorem run_map [LawfulMonad m] {β γ : Type} (f : β → γ) (x : m β) (w : W) :
    R.run (f <$> x) w = (f (R.run x w).1, (R.run x w).2) := by
  rw [map_eq_pure_bind, R.run_bind, R.run_pure]

/-- The world once the observer has heard a report. -/
def hear (observer : RetryEvent → Act σ Unit) (event : RetryEvent) (w : W) : W :=
  R.withScene w ((observer event).run (R.scene w)).2

@[simp]
theorem run_observe (observer : RetryEvent → Act σ Unit) (event : RetryEvent) (w : W) :
    R.run (monadLift (observer event)) w = ((), R.hear observer event w) :=
  R.run_lift _ w

/-- Reading the token changes nothing. -/
@[simp]
theorem run_isCancelled (w : W) :
    R.run (monadLift (Act.isCancelled (σ := σ))) w = ((R.scene w).cancelled, w) := by
  rw [R.run_lift]
  exact Prod.ext rfl (R.withScene_scene w)

/-- The world once the delay after failed attempt `attempt` has been drawn. -/
def drawDelay (settings : RetrySettings) (attempt : Nat) (jitter : Bool) (w : W) : W :=
  R.withScene w ((settings.drawDelay attempt jitter).run (R.scene w)).2

/-- The delay drawn is `calculateDelay` with the world's random numbers as its source. -/
@[simp]
theorem run_drawDelay (settings : RetrySettings) (attempt : Nat) (jitter : Bool) (w : W) :
    R.run (monadLift (settings.drawDelay attempt jitter (σ := σ))) w =
      (settings.calculateDelay attempt jitter (R.scene w).pick,
        R.drawDelay settings attempt jitter w) := by
  rw [R.run_lift]
  exact Prod.ext (by rw [settings.drawDelay_run]) rfl

@[simp]
theorem drawDelay_cancelled (settings : RetrySettings) (attempt : Nat) (jitter : Bool) (w : W) :
    (R.scene (R.drawDelay settings attempt jitter w)).cancelled = (R.scene w).cancelled := by
  simp [drawDelay]

end SceneRun

/-! The exits of a strategy mark flags and leave the lists of errors alone. -/

namespace OutcomeState

@[simp]
theorem errorList_new (concurrent : Bool) : (OutcomeState.new concurrent).errorList = [] := rfl

variable (s : OutcomeState) (fault : Fault)

@[simp]
theorem errorList_setFailedWith (reason : FailedReason) :
    (s.setFailedWith fault reason).errorList = s.errorList := rfl

@[simp]
theorem errorList_setFailedAndCanceled : (s.setFailedAndCanceled fault).errorList = s.errorList :=
  rfl

@[simp]
theorem errorList_setOk : s.setOk.errorList = s.errorList := rfl

@[simp]
theorem errorList_settle : s.settle.errorList = s.errorList := rfl

@[simp]
theorem errorList_addCatchBlockError (error : CatchBlockError) :
    (s.addCatchBlockError error).errorList = s.errorList := rfl

@[simp]
theorem catchBlockErrors_setFailedWith (reason : FailedReason) :
    (s.setFailedWith fault reason).catchBlockErrors = s.catchBlockErrors := rfl

@[simp]
theorem catchBlockErrors_setFailedAndCanceled :
    (s.setFailedAndCanceled fault).catchBlockErrors = s.catchBlockErrors := rfl

@[simp]
theorem catchBlockErrors_setOk : s.setOk.catchBlockErrors = s.catchBlockErrors := rfl

@[simp]
theorem catchBlockErrors_settle : s.settle.catchBlockErrors = s.catchBlockErrors := rfl

end OutcomeState

namespace Outcome

variable {α : Type} (o : Outcome α)

@[simp]
theorem modifyState_state (f : OutcomeState → OutcomeState) : (o.modifyState f).state = f o.state :=
  rfl

@[simp]
theorem modifyState_value (f : OutcomeState → OutcomeState) : (o.modifyState f).value = o.value :=
  rfl

@[simp]
theorem setValue_value (v : α) : (o.setValue v).value = some v := rfl

end Outcome

namespace Processor

variable {σ : Type}

/-- How the bulk steps ran on an error from the scene `s`: each was called with it in turn,
those that failed left the catch-block errors `failures`, and `stopped` says whether one
failed critically and so stopped the rest; `s'` is the scene when the last call returned. -/
inductive StepsRun (fault : Fault) :
    List (BulkStep σ) → Scene σ → List CatchBlockError → Bool → Scene σ → Prop
  /-- No step is left. -/
  | done (s : Scene σ) : StepsRun fault [] s [] false s
  /-- The step succeeded, and the rest ran from the scene it left. -/
  | passed {step : BulkStep σ} {rest : List (BulkStep σ)} {s s' s'' : Scene σ}
      {failures : List CatchBlockError} {stopped : Bool}
      (hrun : (step.run fault).run s = (.ok (), s'))
      (hrest : StepsRun fault rest s' failures stopped s'') :
      StepsRun fault (step :: rest) s failures stopped s''
  /-- The step failed, not critically, and the rest ran from the scene it left. -/
  | failed {step : BulkStep σ} {rest : List (BulkStep σ)} {s s' s'' : Scene σ} {error : Fault}
      {failures : List CatchBlockError} {stopped : Bool}
      (hrun : (step.run fault).run s = (.error error, s'))
      (hmild : (error.isCancellation && s'.cancelled) = false)
      (hrest : StepsRun fault rest s' failures stopped s'') :
      StepsRun fault (step :: rest) s (⟨error, false⟩ :: failures) stopped s''
  /-- The step failed critically, reporting a cancellation with the token cancelled, and
  the rest did not run. -/
  | critical {step : BulkStep σ} {rest : List (BulkStep σ)} {s s' : Scene σ} {error : Fault}
      (hrun : (step.run fault).run s = (.error error, s'))
      (hcritical : (error.isCancellation && s'.cancelled) = true) :
      StepsRun fault (step :: rest) s [⟨error, true⟩] true s'

/-- Bulk steps stopped by a critical failure left the token cancelled. -/
theorem StepsRun.cancelled_of_stopped {fault : Fault} {steps : List (BulkStep σ)}
    {s s' : Scene σ} {failures : List CatchBlockError}
    (h : StepsRun fault steps s failures true s') : s'.cancelled = true := by
  generalize hstopped : true = stopped at h
  induction h with
  | done => cases hstopped
  | passed _ _ ih => exact ih hstopped
  | failed _ _ _ ih => exact ih hstopped
  | critical _ hcritical => exact (Bool.and_eq_true_iff.1 hcritical).2

/-- The bulk steps run as `StepsRun` says: the verdict is `canceled` when one failed
critically or the token is cancelled once they are done, and the state gains the catch-block
errors they left. -/
theorem runSteps_trace (fault : Fault) :
    ∀ (steps : List (BulkStep σ)) (st : OutcomeState) (s : Scene σ),
      ∃ failures stopped s', StepsRun fault steps s failures stopped s' ∧
        (runSteps fault steps st).run s =
          ((if stopped || s'.cancelled then .canceled else .handled,
            { st with catchBlockErrors := st.catchBlockErrors ++ failures }), s')
  | [], st, s => ⟨[], false, s, .done s, by simp [runSteps, settleVerdict, Act.isCancelled]; rfl⟩
  | step :: rest, st, s => by
    rcases hrun : (step.run fault).run s with ⟨result, s₁⟩
    have hrun' : (step.run fault).run s = pure (result, s₁) := hrun
    cases result with
    | ok u =>
      obtain ⟨failures, stopped, s', hsteps, heq⟩ := runSteps_trace fault rest st s₁
      exact ⟨failures, stopped, s', .passed hrun hsteps, by simp [runSteps, hrun', heq]⟩
    | error error =>
      cases hcritical : (error.isCancellation && s₁.cancelled) with
      | true =>
        have hc : error.isCancellation = true ∧ s₁.cancelled = true :=
          Bool.and_eq_true_iff.1 hcritical
        refine ⟨[⟨error, true⟩], true, s₁, .critical hrun hcritical, ?_⟩
        simp [runSteps, hrun', Act.isCancelled, hc.1, hc.2, OutcomeState.addCatchBlockError]
        rfl
      | false =>
        obtain ⟨failures, stopped, s', hsteps, heq⟩ :=
          runSteps_trace fault rest (st.addCatchBlockError ⟨error, false⟩) s₁
        refine ⟨⟨error, false⟩ :: failures, stopped, s', .failed hrun hcritical hsteps, ?_⟩
        simp only [runSteps, StateT.run_bind, hrun', pure_bind, Act.isCancelled, StateT.run_get,
          StateT.run_pure, hcritical, Bool.false_eq_true, if_false, heq]
        simp [OutcomeState.addCatchBlockError]

/-- The bulk steps are read through their runs alone: whether a step is synchronous or
asynchronous changes nothing. -/
theorem runSteps_congr (fault : Fault) :
    ∀ (steps steps' : List (BulkStep σ)), steps.map (·.run) = steps'.map (·.run) →
      ∀ st, runSteps fault steps st = runSteps fault steps' st
  | [], [], _, _ => rfl
  | step :: rest, step' :: rest', hruns, st => by
    obtain ⟨hrun, hrest⟩ := List.cons.inj hruns
    simp only [runSteps, hrun, runSteps_congr fault rest rest' hrest]
  | [], _ :: _, hruns, _ => by simp at hruns
  | _ :: _, [], hruns, _ => by simp at hruns

theorem process_congr_steps (p : Processor σ) (steps : List (BulkStep σ))
    (hsteps : steps.map (·.run) = p.steps.map (·.run)) (fault : Fault) (st : OutcomeState) :
    ({ p with steps } : Processor σ).process fault st = p.process fault st := by
  simp only [process, runSteps_congr fault steps p.steps hsteps]

/-- How processing one error went. -/
inductive Handling where
  /-- The token was already cancelled when the error was screened; the filter was not asked
  and no bulk step ran. -/
  | screened
  /-- The filter rejected the error; no bulk step ran. -/
  | rejected
  /-- Every bulk step ran on the error, once and in registration order, those that failed
  leaving `failures`; `cancelled` is the token once they were done. -/
  | processed (failures : List CatchBlockError) (cancelled : Bool)
  /-- A bulk step failed critically and stopped the rest; `failures` ends with its error. -/
  | stopped (failures : List CatchBlockError)

namespace Handling

/-- The verdict processing gave. -/
def verdict : Handling → Verdict
  | .screened => .canceled
  | .rejected => .filterRejected
  | .processed _ cancelled => if cancelled then .canceled else .handled
  | .stopped _ => .canceled

/-- Whether the token was cancelled when processing ended. -/
def tokenAtEnd : Handling → Bool
  | .screened => true
  | .rejected => false
  | .processed _ cancelled => cancelled
  | .stopped _ => true

/-- The catch-block errors processing left. -/
def failures : Handling → List CatchBlockError
  | .processed failures _ => failures
  | .stopped failures => failures
  | _ => []

/-- What processing leaves on the state: a rejection is flagged, and the catch-block errors
are appended. -/
def record : Handling → OutcomeState → OutcomeState
  | .screened, st => st
  | .rejected, st => st.setFilterUnsatisfied
  | .processed failures _, st => { st with catchBlockErrors := st.catchBlockErrors ++ failures }
  | .stopped failures, st => { st with catchBlockErrors := st.catchBlockErrors ++ failures }

/-! Processing records catch-block errors and a rejection, and nothing else. -/

section Frame

variable (h : Handling) (st : OutcomeState)

@[simp]
theorem errorList_record : (h.record st).errorList = st.errorList := by
  cases h <;> rfl

@[simp]
theorem catchBlockErrors_record :
    (h.record st).catchBlockErrors = st.catchBlockErrors ++ h.failures := by
  cases h <;> simp [record, failures, OutcomeState.setFilterUnsatisfied]

@[simp]
theorem failed_record : (h.record st).failed = st.failed := by
  cases h <;> rfl

@[simp]
theorem canceled_record : (h.record st).canceled = st.canceled := by
  cases h <;> rfl

@[simp]
theorem ok_record : (h.record st).ok = st.ok := by
  cases h <;> rfl

@[simp]
theorem reason_record : (h.record st).reason = st.reason := by
  cases h <;> rfl

@[simp]
theorem unprocessed_record : (h.record st).unprocessed = st.unprocessed := by
  cases h <;> rfl

@[simp]
theorem filterUnsatisfied_record :
    (h.record st).filterUnsatisfied = true ↔ st.filterUnsatisfied = true ∨ h = .rejected := by
  cases h <;> simp [record, OutcomeState.setFilterUnsatisfied]

end Frame

/-- Processing ends `canceled` exactly when the token was cancelled at its end. -/
theorem verdict_eq_canceled_iff (h : Handling) : h.verdict = .canceled ↔ h.tokenAtEnd = true := by
  cases h with
  | screened => simp [verdict, tokenAtEnd]
  | rejected => simp [verdict, tokenAtEnd]
  | processed failures cancelled => cases cancelled <;> simp [verdict, tokenAtEnd]
  | stopped failures => simp [verdict, tokenAtEnd]

/-- Processing ends `filterRejected` exactly when the filter rejected the error. -/
theorem verdict_eq_filterRejected_iff (h : Handling) :
    h.verdict = .filterRejected ↔ h = .rejected := by
  cases h with
  | processed failures cancelled => cases cancelled <;> simp [verdict]
  | _ => simp [verdict]

/-- Processing ends `handled` exactly when the bulk steps ran out on a token that stayed live. -/
theorem verdict_eq_handled_iff (h : Handling) :
    h.verdict = .handled ↔ ∃ failures, h = .processed failures false := by
  cases h with
  | processed failures cancelled => cases cancelled <;> simp [verdict]
  | _ => simp [verdict]

end Handling

/-- How processing an error runs from the scene `s`: a cancelled token stops it at once, then
the filter may reject the error, and otherwise the bulk steps run on it, leaving the scene
`s'`. -/
inductive Processing (p : Processor σ) (fault : Fault) : Scene σ → Handling → Scene σ → Prop
  | screened {s : Scene σ} (hcancelled : s.cancelled = true) : Processing p fault s .screened s
  | rejected {s : Scene σ} (hlive : s.cancelled = false)
      (hfilter : p.filter.canHandle fault = false) : Processing p fault s .rejected s
  | processed {s s' : Scene σ} {failures : List CatchBlockError} {cancelled : Bool}
      (hlive : s.cancelled = false) (hfilter : p.filter.canHandle fault = true)
      (hsteps : StepsRun fault p.steps s failures false s') (hend : s'.cancelled = cancelled) :
      Processing p fault s (.processed failures cancelled) s'
  | stopped {s s' : Scene σ} {failures : List CatchBlockError}
      (hlive : s.cancelled = false) (hfilter : p.filter.canHandle fault = true)
      (hsteps : StepsRun fault p.steps s failures true s') :
      Processing p fault s (.stopped failures) s'

section Run

variable (p : Processor σ) (fault : Fault) (st : OutcomeState) {s : Scene σ}

/-- A token already cancelled wins: nothing is asked or run, and nothing changes. -/
theorem process_run_of_cancelled (hcancelled : s.cancelled = true) :
    (p.process fault st).run s = ((.canceled, st), s) := by
  simp [process, Act.isCancelled, hcancelled]
  rfl

/-- On a live token the filter's rejection is recorded, and no bulk step runs. -/
theorem process_run_of_rejected (hlive : s.cancelled = false)
    (hfilter : p.filter.canHandle fault = false) :
    (p.process fault st).run s = ((.filterRejected, st.setFilterUnsatisfied), s) := by
  simp [process, Act.isCancelled, hlive, hfilter]
  rfl

/-- On a live token an error the filter lets through goes to the bulk steps, which decide
the verdict and append their catch-block errors. -/
theorem process_run_of_accepted (hlive : s.cancelled = false)
    (hfilter : p.filter.canHandle fault = true) :
    ∃ failures stopped s', StepsRun fault p.steps s failures stopped s' ∧
      (p.process fault st).run s =
        ((if stopped || s'.cancelled then .canceled else .handled,
          { st with catchBlockErrors := st.catchBlockErrors ++ failures }), s') := by
  have hprocess : (p.process fault st).run s = (runSteps fault p.steps st).run s := by
    simp [process, Act.isCancelled, hlive, hfilter]
  rw [hprocess]
  exact runSteps_trace fault p.steps st s

end Run

/-- Processing runs as `Processing` says, and gives the verdict and the state the handling
records. -/
theorem process_trace (p : Processor σ) (fault : Fault) (st : OutcomeState) (s : Scene σ) :
    ∃ h s', Processing p fault s h s' ∧ (p.process fault st).run s = ((h.verdict, h.record st), s') := by
  cases hcancelled : s.cancelled with
  | true =>
    exact ⟨.screened, s, .screened hcancelled, process_run_of_cancelled p fault st hcancelled⟩
  | false =>
    cases hfilter : p.filter.canHandle fault with
    | false =>
      exact ⟨.rejected, s, .rejected hcancelled hfilter,
        process_run_of_rejected p fault st hcancelled hfilter⟩
    | true =>
      -- the filter let the error through, so the bulk steps decide
      obtain ⟨failures, stopped, s', hsteps, hrun⟩ :=
        process_run_of_accepted p fault st hcancelled hfilter
      cases stopped with
      | true =>
        refine ⟨.stopped failures, s', .stopped hcancelled hfilter hsteps, ?_⟩
        rw [hrun]
        rfl
      | false =>
        refine ⟨.processed failures s'.cancelled, s', .processed hcancelled hfilter hsteps rfl, ?_⟩
        rw [hrun]
        cases s'.cancelled <;> rfl

/-- The handling reports the token as processing left it. -/
theorem Processing.tokenAtEnd_eq {p : Processor σ} {fault : Fault} {s s' : Scene σ}
    {h : Handling} (hproc : Processing p fault s h s') : h.tokenAtEnd = s'.cancelled := by
  cases hproc with
  | screened hcancelled => exact hcancelled.symm
  | rejected hlive => exact hlive.symm
  | processed _ _ _ hend => exact hend.symm
  | stopped _ _ hsteps => exact (StepsRun.cancelled_of_stopped hsteps).symm

/-- Error processing, verdict by verdict. Processing reads the bulk steps through their runs
alone, so synchronous and asynchronous steps make the same computation. A token already
cancelled gives `canceled` at once: the filter is not asked, no step runs, and the state and
the scene stay as they were. Otherwise the filter, which handles an error when no predicate
is included or an included one matches, and no excluded one matches, may reject it: the
verdict is `filterRejected` and the rejection is the one thing recorded. Otherwise the steps
run in order as `StepsRun` says, each failing one leaving one catch-block error, critical
when it reports cancellation with the token cancelled as it returns, and the first critical
one stopping the rest; the verdict is `canceled` after a critical failure or on a token
cancelled at the end, `handled` otherwise, and the catch-block errors are all that changes
in the state. -/
theorem process_verdicts (p : Processor σ) (fault : Fault) (st : OutcomeState) (s : Scene σ) :
    (∀ steps : List (BulkStep σ), steps.map (·.run) = p.steps.map (·.run) →
      ({ p with steps } : Processor σ).process fault st = p.process fault st) ∧
    (p.filter.canHandle fault = true ↔
      (p.filter.included = [] ∨ ∃ q ∈ p.filter.included, q.test fault = true) ∧
        ∀ q ∈ p.filter.excluded, q.test fault = false) ∧
    (s.cancelled = true → (p.process fault st).run s = ((.canceled, st), s)) ∧
    (s.cancelled = false → p.filter.canHandle fault = false →
      (p.process fault st).run s = ((.filterRejected, st.setFilterUnsatisfied), s)) ∧
    (s.cancelled = false → p.filter.canHandle fault = true →
      ∃ failures stopped s', StepsRun fault p.steps s failures stopped s' ∧
        (p.process fault st).run s =
          ((if stopped || s'.cancelled then .canceled else .handled,
            { st with catchBlockErrors := st.catchBlockErrors ++ failures }), s')) :=
  ⟨fun steps hsteps => process_congr_steps p steps hsteps fault st,
    ErrorFilter.canHandle_eq_true_iff p.filter fault, process_run_of_cancelled p fault st,
    process_run_of_rejected p fault st, process_run_of_accepted p fault st⟩

/-- The default processor, which handles every error and has no bulk step, meets the
conditions of the last case on a live token. -/
theorem process_verdicts_accepting :
    (⟨false, (), fun _ => 0⟩ : Scene Unit).cancelled = false ∧
      ({} : Processor Unit).filter.canHandle (.msg "e") = true ∧
      ∃ failures stopped s', StepsRun (.msg "e") ({} : Processor Unit).steps ⟨false, (), fun _ => 0⟩
          failures stopped s' ∧
        (({} : Processor Unit).process (.msg "e") {}).run ⟨false, (), fun _ => 0⟩ =
          ((if stopped || s'.cancelled then .canceled else .handled,
            { ({} : OutcomeState) with catchBlockErrors := [] ++ failures }), s') :=
  ⟨rfl, rfl, (process_verdicts {} (.msg "e") {} ⟨false, (), fun _ => 0⟩).2.2.2.2 rfl rfl⟩

end Processor

namespace Leaf

variable {σ : Type} {m : Type → Type} [Monad m] [MonadLiftT (Act σ) m] {W : Type}
  (R : SceneRun σ m W) {α : Type}

/-- One call a leaf made of its operation: the value it gave, or the error it raised and how
processing that error went. -/
inductive Attempt (α : Type) where
  | value (value : α)
  | error (fault : Fault) (handling : Processor.Handling)

namespace Attempt

/-- The error the operation raised, if it raised one. -/
def fault? : Attempt α → Option Fault
  | .value _ => none
  | .error fault _ => some fault

/-- The catch-block errors processing the attempt's error left. -/
def failures : Attempt α → List CatchBlockError
  | .value _ => []
  | .error _ handling => handling.failures

/-- What the attempt leaves on the outcome: its error, then what processing recorded. -/
def record : Attempt α → Outcome α → Outcome α
  | .value _, o => o
  | .error fault handling, o => o.modifyState fun st => handling.record (st.addError fault)

@[simp]
theorem errorList_record (a : Attempt α) (o : Outcome α) :
    (a.record o).state.errorList = o.state.errorList ++ a.fault?.toList := by
  cases a with
  | value => simp [record, fault?]
  | error fault handling =>
    simp only [record, Outcome.modifyState, Processor.Handling.errorList_record]
    rfl

@[simp]
theorem catchBlockErrors_record (a : Attempt α) (o : Outcome α) :
    (a.record o).state.catchBlockErrors = o.state.catchBlockErrors ++ a.failures := by
  cases a with
  | value => simp [record, failures]
  | error fault handling =>
    simp only [record, Outcome.modifyState, Processor.Handling.catchBlockErrors_record]
    rfl

@[simp]
theorem value_record (a : Attempt α) (o : Outcome α) : (a.record o).value = o.value := by
  cases a <;> rfl

end Attempt

/-- How one call of the operation from the world `w` went, with the processing of its error,
leaving the world `w'`. -/
inductive Tried (core : PolicyCore σ) (op : m (Except Fault α)) : W → Attempt α → W → Prop
  | value {w w' : W} {v : α} (hcall : R.run op w = (.ok v, w')) : Tried core op w (.value v) w'
  | error {w w₁ : W} {fault : Fault} {handling : Processor.Handling} {s' : Scene σ}
      (hcall : R.run op w = (.error fault, w₁))
      (hprocess : Processor.Processing core.processor fault (R.scene w₁) handling s') :
      Tried core op w (.error fault handling) (R.withScene w₁ s')

/-- Processing an error runs as `Processing` says on the world's scene, and records on the
outcome what the handling records. -/
theorem run_processFault (core : PolicyCore σ) (fault : Fault) (o : Outcome α) (w : W) :
    ∃ handling s', Processor.Processing core.processor fault (R.scene w) handling s' ∧
      R.run (processFault core fault o) w =
        ((handling.verdict, o.modifyState handling.record), R.withScene w s') := by
  obtain ⟨handling, s', hprocess, hrun⟩ :=
    Processor.process_trace core.processor fault o.state (R.scene w)
  refine ⟨handling, s', hprocess, ?_⟩
  simp only [processFault, R.run_bind, R.run_lift, hrun, R.run_pure]
  rfl

variable [LawfulMonad m]

/-- An attempt runs the operation and records its error. -/
@[simp]
theorem run_attemptOnce (ex : Execution) (op : m (Except Fault α)) (o : Outcome α) (w : W) :
    R.run (attemptOnce ex op o) w = (recordAttempt o (R.run op w).1, (R.run op w).2) := by
  rw [attemptOnce_eq, R.run_map]

end Leaf

end Resilience

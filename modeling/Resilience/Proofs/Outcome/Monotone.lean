import Mathlib
import Resilience.Scenario.Bench

/-!
# The outcome state only grows

An outcome's state is changed by its mutators alone, and none of them takes anything back:
flags are only ever raised, a failure reason is written only while there is none, an
unprocessed error only while there is none, and the three error lists are only appended to.
Settling swaps a shared operation-error list for a plain one with the same items, and a push
through a sink either appends to the list it came from, while that list is still shared, or
lands nowhere.

`OutcomeState.Grows s s'` says that `s'` can follow `s` in this sense. It is a preorder, every
mutator is a `Grows` step (`OutcomeBench.step_grows`), so every sequence of commands is one
too (`OutcomeBench.runAll_grows`). Beside it runs one invariant, `OutcomeState.Coherent`: a
state with a failure reason or an unprocessed error is failed, since the only mutators that
write either also mark the state failed.

The derived flags follow. `noError` asks for a success with an empty error list, and a state
that is not a success stays so, while a non-empty list stays non-empty; a recovery is a
success, so it ends with the success.

## Main definitions

* `OutcomeState.Grows`: One state can follow another.
* `OutcomeState.Coherent`: Reasons and unprocessed errors only on failed states.
* `OutcomeBench.runAll`: A sequence of commands.

## Theorems

* `OutcomeState.Grows.refl`, `OutcomeState.Grows.trans`: `Grows` is a preorder.
* `OutcomeState.Grows.noError_eq_false`, `OutcomeState.Grows.isSuccess_eq_false`: The derived
  flags cannot recover.
* `OutcomeBench.step_grows`, `OutcomeBench.step_coherent`: One command.
* `OutcomeBench.runAll_grows`, `OutcomeBench.runAll_coherent`: Every sequence of commands.
* `OutcomeBench.state_monotone`: From a fresh outcome, every later state grows out of every
  earlier one.
-/

namespace Resilience

namespace OutcomeState

/-- `s'` can follow `s`: no flag of `s` is lowered, its failure reason and unprocessed error,
once there, are kept, and each of its error lists is a prefix of the one in `s'`. -/
structure Grows (s s' : OutcomeState) : Prop where
  failed : s.failed = true → s'.failed = true
  canceled : s.canceled = true → s'.canceled = true
  ok : s.ok = true → s'.ok = true
  filterUnsatisfied : s.filterUnsatisfied = true → s'.filterUnsatisfied = true
  reason : s.reason ≠ .none → s'.reason = s.reason
  unprocessed : ∀ f, s.unprocessed = some f → s'.unprocessed = some f
  errors : s.errorList <+: s'.errorList
  catchBlockErrors : s.catchBlockErrors <+: s'.catchBlockErrors
  handlingErrors : s.handlingErrors <+: s'.handlingErrors

/-- A failure reason or an unprocessed error is only ever found on a failed state. -/
structure Coherent (s : OutcomeState) : Prop where
  failed_of_reason : s.reason ≠ .none → s.failed = true
  failed_of_unprocessed : s.unprocessed.isSome → s.failed = true

variable {s s' s'' : OutcomeState}

namespace Grows

@[refl]
theorem refl (s : OutcomeState) : Grows s s :=
  ⟨id, id, id, id, fun _ => rfl, fun _ => id, List.prefix_rfl, List.prefix_rfl, List.prefix_rfl⟩

@[trans]
theorem trans (h : Grows s s') (h' : Grows s' s'') : Grows s s'' where
  failed hf := h'.failed (h.failed hf)
  canceled hc := h'.canceled (h.canceled hc)
  ok hok := h'.ok (h.ok hok)
  filterUnsatisfied hfu := h'.filterUnsatisfied (h.filterUnsatisfied hfu)
  reason hr := by
    have hkept : s'.reason = s.reason := h.reason hr
    rw [h'.reason (hkept ▸ hr), hkept]
  unprocessed f hf := h'.unprocessed f (h.unprocessed f hf)
  errors := h.errors.trans h'.errors
  catchBlockErrors := h.catchBlockErrors.trans h'.catchBlockErrors
  handlingErrors := h.handlingErrors.trans h'.handlingErrors

/-- A state that is not a success never becomes one. -/
theorem isSuccess_eq_false (h : Grows s s') (hs : s.isSuccess = false) : s'.isSuccess = false := by
  simp only [isSuccess, Bool.and_eq_false_iff, Bool.not_eq_false'] at hs ⊢
  rcases hs with hf | hc
  · exact .inl (h.failed hf)
  · exact .inr (h.canceled hc)

/-- Once an operation error or a failure or cancellation is on record, the state never again
reports that nothing went wrong. -/
theorem noError_eq_false (h : Grows s s') (hs : s.noError = false) : s'.noError = false := by
  simp only [noError, Bool.and_eq_false_iff] at hs ⊢
  rcases hs with hsuccess | hempty
  · exact .inl (h.isSuccess_eq_false hsuccess)
  · -- the errors of `s` are still the first errors of `s'`
    right
    obtain ⟨later, hlater⟩ := h.errors
    have hne : s.errors.items ≠ [] := by simpa [Accumulator.isEmpty] using hempty
    have hitems : s'.errors.items = s.errors.items ++ later := by
      simpa [errorList, Accumulator.toList] using hlater.symm
    simp [Accumulator.isEmpty, hitems, hne]

end Grows

/-- A recovery is a success, so a state that is not a success is no recovery either. -/
theorem isOk_eq_false_of_isSuccess (hs : s.isSuccess = false) : s.isOk = false := by
  simp [isOk, hs]

/-- A mutator that lowers no flag, writes no reason and no unprocessed error, and at most
appends to the error lists keeps the state growing. -/
theorem grows_of_frame (hfailed : s.failed = true → s'.failed = true)
    (hcanceled : s.canceled = true → s'.canceled = true) (hok : s.ok = true → s'.ok = true)
    (hfilter : s.filterUnsatisfied = true → s'.filterUnsatisfied = true)
    (hreason : s'.reason = s.reason) (hunprocessed : s'.unprocessed = s.unprocessed)
    (herrors : s.errorList <+: s'.errorList) (hcatch : s.catchBlockErrors <+: s'.catchBlockErrors)
    (hhandling : s.handlingErrors <+: s'.handlingErrors) : Grows s s' where
  failed := hfailed
  canceled := hcanceled
  ok := hok
  filterUnsatisfied := hfilter
  reason _ := hreason
  unprocessed _ hf := hunprocessed ▸ hf
  errors := herrors
  catchBlockErrors := hcatch
  handlingErrors := hhandling

theorem grows_addError (s : OutcomeState) (fault : Fault) : Grows s (s.addError fault) :=
  grows_of_frame id id id id rfl rfl (List.prefix_append _ _) List.prefix_rfl List.prefix_rfl

/-- A push through a sink appends while the list is shared and is lost once it is settled. -/
theorem grows_pushThroughSink (s : OutcomeState) (fault : Fault) :
    Grows s (s.pushThroughSink fault) := by
  have herrors : s.errorList <+: (s.pushThroughSink fault).errorList := by
    simp only [errorList, pushThroughSink, Accumulator.toList_pushThroughSink]
    split
    · exact List.prefix_append _ _
    · exact List.prefix_rfl
  exact grows_of_frame id id id id rfl rfl herrors List.prefix_rfl List.prefix_rfl

theorem grows_addCatchBlockError (s : OutcomeState) (error : CatchBlockError) :
    Grows s (s.addCatchBlockError error) :=
  grows_of_frame id id id id rfl rfl List.prefix_rfl (List.prefix_append _ _) List.prefix_rfl

theorem grows_addHandlingError (s : OutcomeState) (error : HandlerError) :
    Grows s (s.addHandlingError error) :=
  grows_of_frame id id id id rfl rfl List.prefix_rfl List.prefix_rfl (List.prefix_append _ _)

/-- Settling keeps the items of the error list in their order. -/
theorem grows_settle (s : OutcomeState) : Grows s s.settle :=
  grows_of_frame id id id id rfl rfl List.prefix_rfl List.prefix_rfl List.prefix_rfl

/-- The first reason other than `none` is the one kept; `none` itself marks the state failed
and leaves the slot open. -/
theorem grows_setFailed (s : OutcomeState) (reason : FailedReason) : Grows s (s.setFailed reason) where
  failed _ := rfl
  canceled := id
  ok := id
  filterUnsatisfied := id
  reason hr := by simp [setFailed, hr]
  unprocessed _ := id
  errors := List.prefix_rfl
  catchBlockErrors := List.prefix_rfl
  handlingErrors := List.prefix_rfl

/-- The first unprocessed error is the one kept. -/
theorem grows_setFailedWith (s : OutcomeState) (fault : Fault) (reason : FailedReason) :
    Grows s (s.setFailedWith fault reason) := by
  refine (grows_setFailed s reason).trans
    ⟨id, id, id, id, fun _ => rfl, ?_, List.prefix_rfl, List.prefix_rfl, List.prefix_rfl⟩
  -- only the unprocessed error changes after the reason, and only from `none`
  intro f hf
  simp only [setFailedWith, hf, Option.orElse_some]

theorem grows_setCanceled (s : OutcomeState) : Grows s s.setCanceled :=
  grows_of_frame id (fun _ => rfl) id id rfl rfl List.prefix_rfl List.prefix_rfl List.prefix_rfl

theorem grows_setFailedAndCanceled (s : OutcomeState) (fault : Fault) :
    Grows s (s.setFailedAndCanceled fault) :=
  (grows_setFailedWith s fault .policyProcessorFailed).trans (grows_setCanceled _)

theorem grows_setOk (s : OutcomeState) : Grows s s.setOk :=
  grows_of_frame id id (fun _ => rfl) id rfl rfl List.prefix_rfl List.prefix_rfl List.prefix_rfl

theorem grows_setFilterUnsatisfied (s : OutcomeState) : Grows s s.setFilterUnsatisfied :=
  grows_of_frame id id id (fun _ => rfl) rfl rfl List.prefix_rfl List.prefix_rfl List.prefix_rfl

namespace Coherent

theorem new (concurrent : Bool) : Coherent (OutcomeState.new concurrent) :=
  ⟨fun h => absurd rfl h, fun h => absurd h (by simp [OutcomeState.new])⟩

/-- A mutator that keeps the failure flag, the reason and the unprocessed error keeps the
state coherent. -/
theorem of_agree (h : Coherent s) (hfailed : s'.failed = s.failed) (hreason : s'.reason = s.reason)
    (hunprocessed : s'.unprocessed = s.unprocessed) : Coherent s' where
  failed_of_reason hr := hfailed ▸ h.failed_of_reason (hreason ▸ hr)
  failed_of_unprocessed hu := hfailed ▸ h.failed_of_unprocessed (hunprocessed ▸ hu)

/-- Marking the state failed makes any reason and unprocessed error coherent. -/
theorem of_failed (hfailed : s'.failed = true) : Coherent s' :=
  ⟨fun _ => hfailed, fun _ => hfailed⟩

end Coherent

end OutcomeState

namespace OutcomeBench

open OutcomeState

/-- The bench after carrying out the commands in order. -/
def runAll (bench : OutcomeBench) : List OutcomeCommand → OutcomeBench
  | [] => bench
  | command :: rest => (bench.step command).2.runAll rest

theorem runAll_append (bench : OutcomeBench) (earlier later : List OutcomeCommand) :
    bench.runAll (earlier ++ later) = (bench.runAll earlier).runAll later := by
  induction earlier generalizing bench with
  | nil => rfl
  | cons command rest ih => exact ih _

/-- Every command leaves a state that grows out of the one before: the value commands and
asking for a sink leave the state as it is, and the others are mutators. -/
theorem step_grows (bench : OutcomeBench) (command : OutcomeCommand) :
    Grows bench.outcome.state (bench.step command).2.outcome.state := by
  cases command with
  | addError fault => exact grows_addError _ fault
  | sink =>
    simp only [step]
    split
    · exact Grows.refl _
    · exact Grows.refl _
  | sinkPush fault sink =>
    simp only [step]
    split
    · exact grows_pushThroughSink _ fault
    · exact Grows.refl _
  | setFailed reason => exact grows_setFailed _ reason
  | setFailedWith fault reason => exact grows_setFailedWith _ fault reason
  | setCanceled => exact grows_setCanceled _
  | setFailedAndCanceled fault => exact grows_setFailedAndCanceled _ fault
  | setOk => exact grows_setOk _
  | setFilterUnsatisfied => exact grows_setFilterUnsatisfied _
  | addCatchBlockError fault critical => exact grows_addCatchBlockError _ _
  | addHandlingError fault index => exact grows_addHandlingError _ _
  | setValue value => exact Grows.refl _
  | takeValue => exact Grows.refl _
  | settle => exact grows_settle _

/-- Every command keeps the state coherent: the commands that write a reason or an
unprocessed error also mark the state failed, and the others touch neither. -/
theorem step_coherent (bench : OutcomeBench) (command : OutcomeCommand)
    (h : Coherent bench.outcome.state) : Coherent (bench.step command).2.outcome.state := by
  cases command with
  | addError fault => exact h.of_agree rfl rfl rfl
  | sink =>
    simp only [step]
    split
    · exact h
    · exact h
  | sinkPush fault sink =>
    simp only [step]
    split
    · exact h.of_agree rfl rfl rfl
    · exact h
  | setFailed reason => exact Coherent.of_failed rfl
  | setFailedWith fault reason => exact Coherent.of_failed rfl
  | setCanceled => exact h.of_agree rfl rfl rfl
  | setFailedAndCanceled fault => exact Coherent.of_failed rfl
  | setOk => exact h.of_agree rfl rfl rfl
  | setFilterUnsatisfied => exact h.of_agree rfl rfl rfl
  | addCatchBlockError fault critical => exact h.of_agree rfl rfl rfl
  | addHandlingError fault index => exact h.of_agree rfl rfl rfl
  | setValue value => exact h
  | takeValue => exact h
  | settle => exact h.of_agree rfl rfl rfl

theorem runAll_grows (bench : OutcomeBench) (commands : List OutcomeCommand) :
    Grows bench.outcome.state (bench.runAll commands).outcome.state := by
  induction commands generalizing bench with
  | nil => exact Grows.refl _
  | cons command rest ih => exact (step_grows bench command).trans (ih _)

theorem runAll_coherent (bench : OutcomeBench) (commands : List OutcomeCommand)
    (h : Coherent bench.outcome.state) : Coherent (bench.runAll commands).outcome.state := by
  induction commands generalizing bench with
  | nil => exact h
  | cons command rest ih => exact ih _ (step_coherent bench command h)

/-- Outcome monotonicity. Drive a fresh outcome, with either kind of error list, through any
commands, sinks and pushes through them included, and compare the state after some of them
with the state after more: the later state grows out of the earlier one (no flag lowered, the
first reason and the first unprocessed error kept, every error list extended), both are
coherent (a reason or an unprocessed error only on a failed state), an outcome that reported
an error never again reports none, and one that stopped being a success never again is one,
nor a recovery. -/
theorem state_monotone (concurrent : Bool) (earlier later : List OutcomeCommand) :
    let s := (({ outcome := .new concurrent } : OutcomeBench).runAll earlier).outcome.state
    let s' := (({ outcome := .new concurrent } : OutcomeBench).runAll (earlier ++ later)).outcome.state
    Grows s s' ∧ Coherent s ∧ Coherent s' ∧ (s.noError = false → s'.noError = false) ∧
      (s.isSuccess = false → s'.isSuccess = false ∧ s'.isOk = false) := by
  intro s s'
  have hgrows : Grows s s' := by
    simp only [s, s', runAll_append]
    exact runAll_grows _ later
  have hcoherent : ∀ commands : List OutcomeCommand,
      Coherent (({ outcome := .new concurrent } : OutcomeBench).runAll commands).outcome.state :=
    fun commands => runAll_coherent _ commands (Coherent.new concurrent)
  refine ⟨hgrows, hcoherent earlier, hcoherent (earlier ++ later), hgrows.noError_eq_false, ?_⟩
  intro hs
  have hs' : s'.isSuccess = false := hgrows.isSuccess_eq_false hs
  exact ⟨hs', isOk_eq_false_of_isSuccess hs'⟩

end OutcomeBench

end Resilience

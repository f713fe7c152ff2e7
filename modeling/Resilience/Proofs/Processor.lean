import Mathlib
import Resilience.Processor

/-!
# What error processing does to a state

Processing an error touches two parts of an outcome's state and nothing else: it appends
the catch-block errors its failing bulk steps raise, and it flags a rejection by the filter.
The operation errors, the flags, the failure reason and the unprocessed error all come out
as they went in. Two facts about the processor follow, and every policy strategy leans on
them.

The first is a commutation: processing a settled state is processing the state and then
settling it. Settling only makes the operation-error list plain again, and processing never
looks at that list, so the order does not matter. This is what lets a run whose errors
arrive through a sink be compared with one whose errors are recorded directly.

The second is a postcondition, stated with `SatisfiesM` so that it survives being lifted into
whatever monad a policy runs in. A critical catch-block error only ever comes with the
verdict `canceled`: a step that fails critically stops the processing right there, and the
final check of the token can only turn a verdict into `canceled`, never out of it.

## Main definitions

* `Processor.Effect`: Everything processing one error may do to a state.

## Theorems

* `Processor.runSteps_settle`, `Processor.process_settle`: Processing commutes with
  settling.
* `Processor.runSteps_effect`: The bulk steps append catch-block errors and never reject.
* `Processor.process_effect`: Processing one error has the effect `Effect`.
-/

namespace Resilience

namespace OutcomeState

@[simp]
theorem settle_addCatchBlockError (s : OutcomeState) (e : CatchBlockError) :
    (s.addCatchBlockError e).settle = s.settle.addCatchBlockError e := rfl

@[simp]
theorem settle_setFilterUnsatisfied (s : OutcomeState) :
    s.setFilterUnsatisfied.settle = s.settle.setFilterUnsatisfied := rfl

end OutcomeState

namespace Processor

variable {σ : Type}

theorem runSteps_settle (fault : Fault) (steps : List (BulkStep σ)) (s : OutcomeState) :
    runSteps fault steps s.settle = Prod.map id OutcomeState.settle <$> runSteps fault steps s := by
  induction steps generalizing s with
  | nil => simp [runSteps, settleVerdict]
  | cons step rest ih =>
    simp only [runSteps, map_bind]
    congr 1
    funext r
    cases r with
    | ok u => exact ih s
    | error e =>
      simp only [map_bind]
      congr 1
      funext c
      split
      · simp
      · rw [← OutcomeState.settle_addCatchBlockError, ih]

theorem process_settle (p : Processor σ) (fault : Fault) (s : OutcomeState) :
    p.process fault s.settle = Prod.map id OutcomeState.settle <$> p.process fault s := by
  simp only [process, map_bind]
  congr 1
  funext c
  split
  · simp
  · split
    · simp
    · exact runSteps_settle fault p.steps s

/-- Everything processing one error may do to the state `s`: append catch-block errors,
critical ones only under the verdict `canceled`, and record a rejection by the filter. -/
def Effect (s : OutcomeState) : Verdict × OutcomeState → Prop
  | (verdict, s') => ∃ added : List CatchBlockError,
      s' = { s with catchBlockErrors := s.catchBlockErrors ++ added
                    filterUnsatisfied := s.filterUnsatisfied || decide (verdict = .filterRejected) } ∧
      (verdict ≠ .canceled → ∀ e ∈ added, e.critical = false)

/-- An effect from a state with one more catch-block error is an effect from the state
itself, the error counted among those appended. -/
theorem Effect.of_addCatchBlockError {s : OutcomeState} {e : CatchBlockError}
    {r : Verdict × OutcomeState} (h : Effect (s.addCatchBlockError e) r)
    (he : r.1 ≠ .canceled → e.critical = false) : Effect s r := by
  obtain ⟨verdict, s'⟩ := r
  obtain ⟨added, rfl, hcritical⟩ := h
  refine ⟨e :: added, by simp [OutcomeState.addCatchBlockError], ?_⟩
  intro hverdict x hx
  rcases List.mem_cons.1 hx with rfl | hx
  · exact he hverdict
  · exact hcritical hverdict x hx

theorem settleVerdict_ne_filterRejected :
    SatisfiesM (· ≠ Verdict.filterRejected) (settleVerdict (σ := σ)) := by
  unfold settleVerdict
  exact .bind_pre <| .of_true fun c => .pure <| by cases c <;> simp

theorem runSteps_effect (fault : Fault) (steps : List (BulkStep σ)) (s : OutcomeState) :
    SatisfiesM (fun r => Effect s r ∧ r.1 ≠ .filterRejected) (runSteps fault steps s) := by
  induction steps generalizing s with
  | nil =>
    simp only [runSteps]
    refine settleVerdict_ne_filterRejected.bind fun v hv => .pure ⟨⟨[], ?_, by simp⟩, hv⟩
    simp [hv]
  | cons step rest ih =>
    simp only [runSteps]
    refine .bind_pre <| .of_true fun r => ?_
    cases r with
    | ok u => exact ih s
    | error e =>
      refine .bind_pre <| .of_true fun c => ?_
      split
      · -- a critical failure stops the steps with the verdict `canceled`
        exact .pure ⟨⟨[⟨e, e.isCancellation && c⟩], by simp [OutcomeState.addCatchBlockError],
          by simp⟩, by simp⟩
      · rename_i hcritical
        exact (ih _).imp fun ⟨heffect, hne⟩ =>
          ⟨heffect.of_addCatchBlockError fun _ => by simpa using hcritical, hne⟩

theorem process_effect (p : Processor σ) (fault : Fault) (s : OutcomeState) :
    SatisfiesM (Effect s) (p.process fault s) := by
  unfold process
  refine .bind_pre <| .of_true fun c => ?_
  split
  · exact .pure ⟨[], by simp, by simp⟩
  · split
    · exact .pure ⟨[], by simp [OutcomeState.setFilterUnsatisfied], by simp⟩
    · exact (runSteps_effect fault p.steps s).imp And.left

end Processor

end Resilience

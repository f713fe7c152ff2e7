import Mathlib
import Resilience.Proofs.Leaf.Execution
import Resilience.Policy.Tree

/-!
# The shape of a policy's outcome

Whatever a policy tree is made of, whatever its operation does and whether or not the token
fires, the state of the outcome it hands back has one shape (`OutcomeState.Shaped`): it is
failed exactly when it has a failure reason; an error stays unprocessed exactly when the
outcome failed for a reason other than its handlers; that error is the last one the operation
raised, or, for a fallback policy, the error of its failed fallback; a critical catch-block
error or a rejection by the filter fails the outcome, the latter with the processor as the
reason; and a recovery comes only after an error.

The proof follows the life of a leaf's outcome. It starts undecided (`OutcomeState.Undecided`):
nothing is failed, flagged or unprocessed. Each failed attempt records its error and has it
processed, which leaves the outcome undecided apart from what the verdict may explain
(`OutcomeState.Processed`): a filter rejection comes with the verdict `filterRejected` and a
critical error with `canceled`. Every exit of a strategy then decides the outcome in a way
that has the shape, and the handlers keep it: a handler asking for failure only gives a reason
when there was none, and then nothing was unprocessed.

A wrapped policy needs no induction over the tree. Its outcome is its outer leaf's, and the
leaf's lemmas hold for every operation in every lawful monad the leaf runs in, so they hold
for the composed operation that runs the inner node, whatever that node returned.

## Main definitions

* `OutcomeState.Undecided`: Nothing has decided the outcome yet.
* `OutcomeState.Shaped`: The shape of a finished outcome.
* `OutcomeState.Processed`: An undecided state with one error recorded and processed.
* `Policy.outer`: The leaf that decides a policy's outcome.

## Theorems

* `OutcomeState.Shaped.record`: A handler's reply keeps the shape.
* `Leaf.retryLoop_shaped`, `Leaf.runSimple_shaped`, `Leaf.runFallback_shaped`: Each strategy
  decides an undecided outcome into the shape.
* `Leaf.handle_shaped`: A leaf's outcome has the shape.
* `Policy.handle_outcome_shaped`: A policy tree's outcome has the shape.
-/

namespace Resilience

namespace OutcomeState

/-- Nothing has decided the outcome yet. -/
structure Undecided (s : OutcomeState) : Prop where
  not_failed : s.failed = false
  reason_none : s.reason = .none
  unprocessed_none : s.unprocessed = none
  filter_satisfied : s.filterUnsatisfied = false
  not_ok : s.ok = false
  no_critical : s.hasCriticalError = false

/-- The shape of a finished outcome; `fallback` says whether a failed fallback may have left
its error unprocessed. -/
structure Shaped (fallback : Bool) (s : OutcomeState) : Prop where
  /-- Failed exactly when there is a reason. -/
  failed_iff : s.failed = true ↔ s.reason ≠ .none
  /-- An error is left unprocessed exactly when the outcome failed, and not by its handlers. -/
  unprocessed_iff : s.unprocessed.isSome ↔ (s.failed = true ∧ s.reason ≠ .policyResultHandlerFailed)
  /-- The unprocessed error is the last error of the operation, or the critical catch-block
  error of a failed fallback. -/
  unprocessed_eq : ∀ f, s.unprocessed = some f →
    s.lastError? = some f ∨ (fallback = true ∧ s.catchBlockErrors.getLast? = some ⟨f, true⟩)
  /-- A critical catch-block error fails the outcome. -/
  critical_failed : s.hasCriticalError = true → s.failed = true
  /-- A rejection by the filter fails the outcome, the processor being the reason. -/
  filter_failed : s.filterUnsatisfied = true → s.failed = true ∧ s.reason = .policyProcessorFailed
  /-- A recovery comes after at least one error. -/
  ok_errors : s.isOk = true → 1 ≤ s.errorCount

variable {s : OutcomeState} {b : Bool}

theorem Undecided.shaped (h : Undecided s) (b : Bool) : Shaped b s where
  failed_iff := by simp [h.not_failed, h.reason_none]
  unprocessed_iff := by simp [h.unprocessed_none, h.not_failed]
  unprocessed_eq := by simp [h.unprocessed_none]
  critical_failed := by simp [h.no_critical]
  filter_failed := by simp [h.filter_satisfied]
  ok_errors := by simp [isOk, h.not_ok]

/-- A recovery after at least one error. -/
theorem Undecided.shaped_setOk (h : Undecided s) (hcount : 1 ≤ s.errorCount) (b : Bool) :
    Shaped b s.setOk where
  failed_iff := by simp [setOk, h.not_failed, h.reason_none]
  unprocessed_iff := by simp [setOk, h.unprocessed_none, h.not_failed]
  unprocessed_eq := by simp [setOk, h.unprocessed_none]
  critical_failed := fun hcritical => absurd (show s.hasCriticalError = true from hcritical)
    (by simp [h.no_critical])
  filter_failed := by simp [setOk, h.filter_satisfied]
  ok_errors := fun _ => hcount

/-- A first failure, with a reason other than the handlers', leaving `f` unprocessed. The
reason must be the processor's if the filter rejected an error, and `f` must be one of the
errors the shape allows. -/
theorem shaped_setFailedWith {f : Fault} {r : FailedReason}
    (hreason : s.reason = .none) (hunprocessed : s.unprocessed = none)
    (hr : r ≠ .none) (hr' : r ≠ .policyResultHandlerFailed)
    (hfilter : s.filterUnsatisfied = true → r = .policyProcessorFailed)
    (hcause : s.lastError? = some f ∨ (b = true ∧ s.catchBlockErrors.getLast? = some ⟨f, true⟩)) :
    Shaped b (s.setFailedWith f r) where
  failed_iff := by simp [setFailedWith, setFailed, hreason, hr]
  unprocessed_iff := by simp [setFailedWith, setFailed, hreason, hunprocessed, hr']
  unprocessed_eq := by
    intro f' hf'
    simp [setFailedWith, setFailed, hunprocessed] at hf'
    subst hf'
    simpa [setFailedWith, setFailed, lastError?] using hcause
  critical_failed := by simp [setFailedWith, setFailed]
  filter_failed := by
    intro hf
    simp [setFailedWith, setFailed, hreason]
    exact hfilter (by simpa [setFailedWith, setFailed] using hf)
  ok_errors := by simp [setFailedWith, setFailed, isOk, isSuccess]

/-- A change that keeps everything the shape reads, and raises no recovery, keeps the
shape. -/
theorem Shaped.of_agree {s' : OutcomeState} (h : Shaped b s) (hfailed : s'.failed = s.failed)
    (hreason : s'.reason = s.reason) (hunprocessed : s'.unprocessed = s.unprocessed)
    (herrors : s'.errors.items = s.errors.items) (hcatch : s'.catchBlockErrors = s.catchBlockErrors)
    (hfilter : s'.filterUnsatisfied = s.filterUnsatisfied) (hok : s'.isOk = true → s.isOk = true) :
    Shaped b s' where
  failed_iff := by rw [hfailed, hreason]; exact h.failed_iff
  unprocessed_iff := by rw [hunprocessed, hfailed, hreason]; exact h.unprocessed_iff
  unprocessed_eq := by
    simp only [lastError?, Accumulator.last?, herrors, hunprocessed, hcatch]
    exact h.unprocessed_eq
  critical_failed := by
    simp only [hasCriticalError, hcatch, hfailed]
    exact h.critical_failed
  filter_failed := by rw [hfilter, hfailed, hreason]; exact h.filter_failed
  ok_errors := by
    simp only [errorCount, Accumulator.size, herrors]
    exact fun hisOk => h.ok_errors (hok hisOk)

theorem Shaped.setCanceled (h : Shaped b s) : Shaped b s.setCanceled :=
  h.of_agree rfl rfl rfl rfl rfl rfl (by simp [OutcomeState.setCanceled, isOk, isSuccess])

theorem Shaped.settle (h : Shaped b s) : Shaped b s.settle :=
  h.of_agree rfl rfl rfl rfl rfl rfl id

theorem Shaped.addHandlingError (h : Shaped b s) (e : HandlerError) :
    Shaped b (s.addHandlingError e) :=
  h.of_agree rfl rfl rfl rfl rfl rfl id

/-- A handler asking for failure keeps the shape: the reason it gives is kept only when there
was none, and then nothing was left unprocessed. -/
theorem Shaped.setFailed_resultHandler (h : Shaped b s) :
    Shaped b (s.setFailed .policyResultHandlerFailed) where
  failed_iff := by by_cases hr : s.reason = .none <;> simp [setFailed, hr]
  unprocessed_iff := by
    by_cases hr : s.reason = .none
    · have hnotfailed : s.failed = false := by
        cases hf : s.failed
        · rfl
        · exact absurd (h.failed_iff.1 hf) (by simp [hr])
      have hu : s.unprocessed = none := by
        simpa [hnotfailed] using h.unprocessed_iff
      simp [setFailed, hr, hu]
    · have hf : s.failed = true := h.failed_iff.2 hr
      simpa [setFailed, hr, hf] using h.unprocessed_iff
  unprocessed_eq := h.unprocessed_eq
  critical_failed := fun _ => rfl
  filter_failed := fun hfilter => by
    obtain ⟨-, hr⟩ := h.filter_failed hfilter
    simp [setFailed, hr]
  ok_errors := by simp [setFailed, isOk, isSuccess]

theorem Shaped.record (h : Shaped b s) (index : Nat) (reply : HandlerReply) :
    Shaped b (Handler.record index reply s) := by
  simp only [Handler.record]
  -- the requests apply to the state with the handler's error logged, which changes nothing
  -- the shape reads: failure, then cancellation, each on a state with or without the error
  split_ifs <;> split
  · exact h.setFailed_resultHandler.setCanceled
  · exact (h.addHandlingError _).setFailed_resultHandler.setCanceled
  · exact h.setCanceled
  · exact (h.addHandlingError _).setCanceled
  · exact h.setFailed_resultHandler
  · exact (h.addHandlingError _).setFailed_resultHandler
  · exact h
  · exact h.addHandlingError _

/-- The state once the error `fault`, just recorded on an undecided state, has been processed
with the verdict `verdict`. -/
structure Processed (fault : Fault) (verdict : Verdict) (s : OutcomeState) : Prop where
  not_failed : s.failed = false
  reason_none : s.reason = .none
  unprocessed_none : s.unprocessed = none
  not_ok : s.ok = false
  last_error : s.lastError? = some fault
  filter_rejected : s.filterUnsatisfied = true → verdict = .filterRejected
  critical_canceled : s.hasCriticalError = true → verdict = .canceled

theorem Undecided.processed {fault : Fault} {verdict : Verdict} {s' : OutcomeState}
    (h : Undecided s) (heffect : Processor.Effect (s.addError fault) (verdict, s')) :
    Processed fault verdict s' := by
  obtain ⟨added, rfl, hcritical⟩ := heffect
  refine ⟨?_, ?_, ?_, ?_, ?_, ?_, ?_⟩
  · simpa [addError] using h.not_failed
  · simpa [addError] using h.reason_none
  · simpa [addError] using h.unprocessed_none
  · simpa [addError] using h.not_ok
  · simp [addError, lastError?, Accumulator.last?, Accumulator.push]
  · simp [addError, h.filter_satisfied]
  · intro hc
    by_contra hv
    -- the catch-block errors were not critical before, and those processing added are not
    have hbefore : s.catchBlockErrors.any (·.critical) = false := h.no_critical
    have hadded : added.any (·.critical) = false :=
      List.any_eq_false.2 fun e he => by simp [hcritical hv e he]
    simp [hasCriticalError, addError, List.any_append, hbefore, hadded] at hc

/-- A handled error leaves the state undecided, for the next attempt or the fallback. -/
theorem Processed.undecided {fault : Fault} (h : Processed fault .handled s) : Undecided s where
  not_failed := h.not_failed
  reason_none := h.reason_none
  unprocessed_none := h.unprocessed_none
  filter_satisfied := by
    cases hf : s.filterUnsatisfied
    · rfl
    · exact absurd (h.filter_rejected hf) (by decide)
  not_ok := h.not_ok
  no_critical := by
    cases hc : s.hasCriticalError
    · rfl
    · exact absurd (h.critical_canceled hc) (by decide)

theorem one_le_errorCount {f : Fault} (h : s.lastError? = some f) : 1 ≤ s.errorCount := by
  obtain ⟨earlier, hitems⟩ := List.getLast?_eq_some_iff.1 h
  simp [errorCount, Accumulator.size, hitems]

/-- Failing a processed state by its processor, with the processed error unprocessed: the
exit of a strategy on a filter rejection, a cancellation or the last attempt. -/
theorem Processed.shaped_setFailedWith {fault : Fault} {verdict : Verdict}
    (h : Processed fault verdict s) (b : Bool) :
    Shaped b (s.setFailedWith fault .policyProcessorFailed) :=
  OutcomeState.shaped_setFailedWith h.reason_none h.unprocessed_none (by decide) (by decide)
    (fun _ => rfl) (.inl h.last_error)

end OutcomeState

theorem satisfiesM_monadLift {m n : Type → Type} [Monad m] [Monad n] [LawfulMonad m]
    [LawfulMonad n] [MonadLiftT m n] [LawfulMonadLiftT m n] {α : Type} {p : α → Prop} {x : m α}
    (h : SatisfiesM p x) : SatisfiesM p (monadLift x : n α) := by
  obtain ⟨x', rfl⟩ := h
  exact ⟨monadLift x', (monadLift_map _ _).symm⟩

/-- The handlers keep the shape, one reply after another. -/
theorem Handler.runFrom_shaped {σ : Type} {b : Bool} (policy : String) (handlers : List (Handler σ))
    (index : Nat) {s : OutcomeState} (h : OutcomeState.Shaped b s) :
    SatisfiesM (OutcomeState.Shaped b) (Handler.runFrom policy handlers index s) := by
  induction handlers generalizing index s with
  | nil => exact .pure h
  | cons handler rest ih =>
    exact .bind_pre <| .of_true fun reply => ih (index + 1) (h.record index reply)

/-- Whether the strategy runs a fallback. -/
def LeafStrategy.isFallback {σ : Type} : LeafStrategy σ → Bool
  | .fallback _ => true
  | _ => false

namespace Leaf

open OutcomeState

variable {σ : Type} {m : Type → Type} [Monad m] [LawfulMonad m] [MonadLiftT (Act σ) m]
  [LawfulMonadLiftT (Act σ) m] {α : Type} {b : Bool}

theorem processFault_effect (core : PolicyCore σ) (fault : Fault) (o : Outcome α) :
    SatisfiesM (fun r : Verdict × Outcome α => Processor.Effect o.state (r.1, r.2.state))
      (processFault (m := m) core fault o) := by
  unfold processFault
  exact (satisfiesM_monadLift (core.processor.process_effect fault o.state)).bind
    fun _ heffect => .pure heffect

/-- A failed attempt on an undecided outcome, once processed. -/
theorem processFault_processed (core : PolicyCore σ) (fault : Fault) {o : Outcome α}
    (h : Undecided o.state) :
    SatisfiesM (fun r : Verdict × Outcome α => Processed fault r.1 r.2.state)
      (processFault (m := m) core fault (o.modifyState (·.addError fault))) :=
  (processFault_effect core fault _).imp fun heffect => h.processed heffect

/-- The retry loop decides an undecided outcome into the shape. The induction is on the
attempts left; a handled error that neither exhausts the attempts nor meets a fired token
leaves the outcome undecided for the next attempt. -/
theorem retryLoop_shaped (core : PolicyCore σ) (settings : RetrySettings) (jitter : Bool)
    (observer : RetryEvent → Act σ Unit) (ex : Execution) (op : m (Except Fault α)) (b : Bool)
    (n attempt : Nat) (o : Outcome α) (h : Undecided o.state) :
    SatisfiesM (fun o' : Outcome α => Shaped b o'.state)
      (retryLoop core settings jitter observer ex op n attempt o) := by
  induction n generalizing attempt o with
  | zero => exact .pure (h.shaped b)
  | succ n ih =>
    simp only [retryLoop, attemptOnce_eq, bind_map_left]
    refine .bind_pre <| .of_true fun _ => .bind_pre <| .of_true fun r => ?_
    cases r with
    | ok value =>
      refine .bind_pre <| .of_true fun _ => .pure ?_
      -- the recovery flag goes up only after an error
      split
      · exact h.shaped_setOk (by simpa [recordAttempt] using ‹_›) b
      · exact h.shaped b
    | error fault =>
      refine (processFault_processed core fault h).bind fun processed hprocessed => ?_
      obtain ⟨verdict, o'⟩ := processed
      cases verdict with
      | canceled =>
        exact .bind_pre <| .of_true fun _ => .pure (hprocessed.shaped_setFailedWith b).setCanceled
      | filterRejected =>
        exact .bind_pre <| .of_true fun _ => .pure (hprocessed.shaped_setFailedWith b)
      | handled =>
        dsimp only
        split
        · exact .bind_pre <| .of_true fun _ => .pure (hprocessed.shaped_setFailedWith b)
        · -- the delay is drawn and reported, then the token decides
          refine .bind_pre <| .of_true fun _ => .bind_pre <| .of_true fun _ =>
            .bind_pre <| .of_true fun cancelled => ?_
          cases cancelled with
          | true =>
            exact .bind_pre <| .of_true fun _ => .pure (hprocessed.shaped_setFailedWith b).setCanceled
          | false => exact ih (attempt + 1) o' hprocessed.undecided

theorem runSimple_shaped (core : PolicyCore σ) (unit? : Option α) (ex : Execution)
    (op : m (Except Fault α)) (b : Bool) (o : Outcome α) (h : Undecided o.state) :
    SatisfiesM (fun o' : Outcome α => Shaped b o'.state) (runSimple core unit? ex op o) := by
  simp only [runSimple, attemptOnce_eq, bind_map_left]
  refine .bind_pre <| .of_true fun r => ?_
  cases r with
  | ok value => exact .pure (h.shaped b)
  | error fault =>
    refine (processFault_processed core fault h).bind fun processed hprocessed => ?_
    obtain ⟨verdict, o'⟩ := processed
    cases verdict with
    | handled =>
      -- a handled error is absorbed, and it is on the record
      have hok : Shaped b o'.state.setOk :=
        hprocessed.undecided.shaped_setOk (one_le_errorCount hprocessed.last_error) b
      cases unit? with
      | none => exact .pure hok
      | some value => exact .pure hok
    | filterRejected => exact .pure (hprocessed.shaped_setFailedWith b)
    | canceled => exact .pure (hprocessed.shaped_setFailedWith b).setCanceled

theorem runFallback_shaped (core : PolicyCore σ) (fallback? : Option (Operation σ α))
    (ex : Execution) (op : m (Except Fault α)) (o : Outcome α) (h : Undecided o.state) :
    SatisfiesM (fun o' : Outcome α => Shaped true o'.state) (runFallback core fallback? ex op o) := by
  simp only [runFallback, attemptOnce_eq, bind_map_left]
  refine .bind_pre <| .of_true fun r => ?_
  cases r with
  | ok value => exact .pure (h.shaped true)
  | error fault =>
    refine (processFault_processed core fault h).bind fun processed hprocessed => ?_
    obtain ⟨verdict, o'⟩ := processed
    cases verdict with
    | handled =>
      have hundecided : Undecided o'.state := hprocessed.undecided
      cases fallback? with
      | none =>
        exact .pure <| shaped_setFailedWith hundecided.reason_none hundecided.unprocessed_none
          (by decide) (by decide) (by simp [hundecided.filter_satisfied]) (.inl hprocessed.last_error)
      | some fallback =>
        refine .bind_pre <| .of_true fun result => ?_
        cases result with
        | ok value =>
          exact .pure (hundecided.shaped_setOk (one_le_errorCount hprocessed.last_error) true)
        | error error =>
          -- the failed fallback is a critical catch-block error, and it is what stays
          -- unprocessed, whether the run is canceled or fails
          have hfailed : ∀ r : FailedReason, r ≠ .none → r ≠ .policyResultHandlerFailed →
              Shaped true ((o'.state.addCatchBlockError ⟨error, true⟩).setFailedWith error r) :=
            fun r hr hr' => shaped_setFailedWith hundecided.reason_none hundecided.unprocessed_none
              hr hr' (by simp [addCatchBlockError, hundecided.filter_satisfied])
              (.inr ⟨rfl, by simp [addCatchBlockError]⟩)
          refine .bind_pre <| .of_true fun cancelled => ?_
          split
          · exact .pure (hfailed .policyProcessorFailed (by decide) (by decide)).setCanceled
          · exact .pure (hfailed .unhandledError (by decide) (by decide))
    | filterRejected => exact .pure (hprocessed.shaped_setFailedWith true)
    | canceled => exact .pure (hprocessed.shaped_setFailedWith true).setCanceled

/-- The handlers keep the shape the strategy left. -/
theorem finish_shaped (core : PolicyCore σ) {o : Outcome α} (h : Shaped b o.state) :
    SatisfiesM (fun o' : Outcome α => Shaped b o'.state) (finish (m := m) core o) := by
  unfold finish
  exact SatisfiesM.bind (satisfiesM_monadLift (Handler.runFrom_shaped core.name core.handlers 0 h.settle))
    fun _ hstate => .pure hstate

theorem settleRun_shaped (leaf : Leaf σ) (t : ValueType) (ex : Execution)
    (op : m (Except Fault t.Carrier)) (o : Outcome t.Carrier) (h : Undecided o.state) :
    SatisfiesM (fun o' : Outcome t.Carrier => Shaped leaf.strategy.isFallback o'.state)
      (leaf.settleRun t ex op o) := by
  obtain ⟨core, strategy⟩ := leaf
  unfold settleRun
  refine .bind_pre <| .of_true fun cancelled => ?_
  split
  · -- the token fired before the first attempt; only a retry policy's observer hears of it
    have hcanceled : Shaped strategy.isFallback o.state.setCanceled := (h.shaped _).setCanceled
    cases strategy with
    | retry settings jitter observer => exact .bind_pre <| .of_true fun _ => .pure hcanceled
    | fallback table => exact .pure hcanceled
    | simple => exact .pure hcanceled
  · cases strategy with
    | retry settings jitter observer =>
      exact retryLoop_shaped core settings jitter observer ex op _ settings.attemptLimit 1 o h
    | fallback table => exact runFallback_shaped core (table t) ex op o h
    | simple => exact runSimple_shaped core t.unit? ex op _ o h

theorem undecided_new (concurrent : Bool) : Undecided (Outcome.new concurrent : Outcome α).state :=
  ⟨rfl, rfl, rfl, rfl, rfl, rfl⟩

/-- A leaf's outcome has the shape, in every lawful monad the leaf runs in and for every
operation. -/
theorem handle_shaped (leaf : Leaf σ) (t : ValueType) (ex : Execution)
    (op : m (Except Fault t.Carrier)) :
    SatisfiesM (fun o : Outcome t.Carrier => Shaped leaf.strategy.isFallback o.state)
      (leaf.handle t ex op) := by
  rw [handle_eq]
  exact (settleRun_shaped leaf t ex op _ (undecided_new _)).bind fun _ h => finish_shaped leaf.core h

end Leaf

namespace Policy

variable {σ : Type} {t : ValueType}

/-- The leaf that decides the policy's outcome: the outer one of a wrapped policy. -/
def outer : Policy σ t → Leaf σ
  | .leaf l => l
  | .wrapPolicy outer _ => outer
  | .wrapChain outer _ _ => outer

/-- A wrapped policy's state is its outer leaf's, which runs the inner node as its
operation; the leaf's shape holds for that operation as for any other. -/
theorem handle_satisfies_shaped (p : Policy σ t) (ex : Execution) (op : Operation σ t.Carrier) :
    SatisfiesM (fun o : Outcome t.Carrier => OutcomeState.Shaped p.outer.strategy.isFallback o.state)
      (p.handle ex op) := by
  cases p with
  | leaf l => exact Leaf.handle_shaped l t ex op.call
  | wrapPolicy outer inner =>
    simp only [Policy.handle]
    exact (SatisfiesM_StateT_eq.1 (Leaf.handle_shaped outer t ex _) []).bind fun _ h => .pure h
  | wrapChain outer chain mode =>
    obtain ⟨elements, executor, aggregate, throw⟩ := chain
    simp only [Policy.handle]
    exact (SatisfiesM_StateT_eq.1 (Leaf.handle_shaped outer t ex _) []).bind fun _ h => .pure h

/-- Every outcome a policy tree hands back has the shape, whatever its leaves, processors,
handlers and fallbacks, its operation and the token: failed exactly when it has a reason, an
error unprocessed exactly when it failed and not by its handlers, that error the last one of
the operation or, for a fallback policy, of its failed fallback, a critical error or a filter
rejection only on a failed outcome, and a recovery only after an error. -/
theorem handle_outcome_shaped (p : Policy σ t) (ex : Execution) (op : Operation σ t.Carrier)
    (s : Scene σ) :
    OutcomeState.Shaped p.outer.strategy.isFallback ((p.handle ex op).run s).1.state := by
  have hrun := SatisfiesM_StateT_eq.1 (p.handle_satisfies_shaped ex op) s
  rw [SatisfiesM_Id_eq] at hrun
  exact hrun

end Policy

end Resilience

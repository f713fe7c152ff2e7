import Mathlib
import Resilience.Proofs.Processor
import Resilience.Policy.Leaf

/-!
# Leaf runs do not depend on how they are awaited

A leaf policy can run its operation to completion on the calling thread, await it inline,
or await it on a detached task that reports its error through a sink of the outcome's
error list. The three differ in one place only: a detached run starts from an outcome whose
error list is shared, so that the task can push into it. Everything the strategies do
afterwards reads the items of that list and never whether it is shared.

Two observations make this precise. A failed attempt records its error the same way in all
three executions: a detached attempt pushes through the sink, and pushing through the sink
of a shared list is appending to it (`attemptOnce_eq`). And every strategy commutes with
settling, which forgets whether the list is shared: running from a settled outcome and
settling the result give the same thing (`retryLoop_settle`, `runSimple_settle`,
`runFallback_settle`). Since the handlers run on the settled outcome, a whole invocation is
the same computation under every execution (`handle_execution`).

The statements are equalities of computations in any lawful monad the leaf runs in, so they
say more than that the outcomes agree: the world sees the same calls of the operation, the
bulk steps, the fallbacks, the handlers and the observer, in the same order and with the same
arguments.

## Main definitions

* `Outcome.settle`: The outcome with its error list settled.
* `Leaf.recordAttempt`: The result of one attempt, its error recorded.
* `Leaf.settleRun`: An invocation up to its handlers.

## Theorems

* `Leaf.attemptOnce_eq`: One attempt is the operation followed by `recordAttempt`.
* `Leaf.processFault_settle`: Processing commutes with settling.
* `Leaf.retryLoop_settle`, `Leaf.runSimple_settle`, `Leaf.runFallback_settle`: Each strategy
  commutes with settling, and runs as a blocking one once settled.
* `Leaf.handle_eq`: An invocation is its strategy run followed by the handlers.
* `Leaf.handle_execution`: An invocation does not depend on its execution.
-/

namespace Resilience

theorem Accumulator.pushThroughSink_of_hasSink {α : Type} {acc : Accumulator α}
    (h : acc.hasSink = true) (x : α) : acc.pushThroughSink x = acc.push x := if_pos h

namespace OutcomeState

/-- Pushing through the sink of a list that still hands one out is appending to it. -/
theorem pushThroughSink_of_hasSink {s : OutcomeState} (h : s.errors.hasSink = true)
    (fault : Fault) : s.pushThroughSink fault = s.addError fault := by
  simp only [pushThroughSink, addError, Accumulator.pushThroughSink_of_hasSink h]

@[simp]
theorem errorCount_settle (s : OutcomeState) : s.settle.errorCount = s.errorCount := rfl

end OutcomeState

namespace Outcome

variable {α : Type}

/-- The outcome with its error list settled. -/
def settle (o : Outcome α) : Outcome α := o.modifyState OutcomeState.settle

@[simp]
theorem settle_state (o : Outcome α) : o.settle.state = o.state.settle := rfl

@[simp]
theorem setValue_state (o : Outcome α) (value : α) : (o.setValue value).state = o.state := rfl

@[simp]
theorem settle_setValue (o : Outcome α) (value : α) :
    (o.setValue value).settle = o.settle.setValue value := rfl

theorem settle_new (concurrent : Bool) : (Outcome.new concurrent : Outcome α).settle = .new := rfl

end Outcome

namespace Leaf

variable {σ : Type} {m : Type → Type} [Monad m] [MonadLiftT (Act σ) m] {α : Type}

/-- The result of one attempt, with its error recorded on the outcome. -/
def recordAttempt (o : Outcome α) : Except Fault α → Except Fault α × Outcome α
  | .ok value => (.ok value, o)
  | .error fault => (.error fault, o.modifyState (·.addError fault))

theorem recordAttempt_settle (o : Outcome α) (r : Except Fault α) :
    recordAttempt o.settle r = Prod.map id Outcome.settle (recordAttempt o r) := by
  cases r <;> rfl

/-- The handlers settle the outcome before they run. -/
theorem finish_settle (core : PolicyCore σ) (o : Outcome α) :
    finish (m := m) core o.settle = finish core o := rfl

/-- An invocation up to its handlers, from the outcome `o`: canceled if the token already
is, and otherwise the strategy's run. -/
def settleRun (leaf : Leaf σ) (t : ValueType) (ex : Execution) (op : m (Except Fault t.Carrier))
    (o : Outcome t.Carrier) : m (Outcome t.Carrier) := do
  if ← monadLift (Act.isCancelled (σ := σ)) then
    match leaf.strategy with
    | .retry _ _ observer => monadLift (observer (.cancelled 1 none))
    | _ => pure ()
    pure (o.modifyState (·.setCanceled))
  else
    match leaf.strategy with
    | .retry settings jitter observer =>
      retryLoop leaf.core settings jitter observer ex op settings.attemptLimit 1 o
    | .fallback table => runFallback leaf.core (table t) ex op o
    | .simple => runSimple leaf.core t.unit? ex op o

variable [LawfulMonad m]

/-- An attempt records its error the same way whether it runs detached or not: a detached
attempt is only ever given a shared list, and pushing through its sink appends. -/
theorem attemptOnce_eq (ex : Execution) (op : m (Except Fault α))
    (o : Outcome α) : attemptOnce ex op o = recordAttempt o <$> op := by
  simp only [attemptOnce, map_eq_pure_bind]
  congr 1
  funext r
  cases r with
  | ok value => rfl
  | error fault =>
    simp only [recordAttempt, Outcome.modifyState]
    split
    · rename_i hsink
      rw [OutcomeState.pushThroughSink_of_hasSink (Bool.and_eq_true_iff.1 hsink).2]
    · rfl

theorem handle_eq (leaf : Leaf σ) (t : ValueType) (ex : Execution)
    (op : m (Except Fault t.Carrier)) :
    leaf.handle t ex op = leaf.settleRun t ex op (Outcome.new ex.detached) >>= finish leaf.core := by
  obtain ⟨core, strategy⟩ := leaf
  simp only [handle, settleRun, bind_assoc]
  congr 1
  funext cancelled
  split <;> cases strategy <;> simp

variable [LawfulMonadLiftT (Act σ) m]

theorem processFault_settle (core : PolicyCore σ) (fault : Fault) (o : Outcome α) :
    processFault core fault o.settle =
      Prod.map id Outcome.settle <$> processFault (m := m) core fault o := by
  simp only [processFault, Outcome.settle, Outcome.modifyState, Processor.process_settle,
    monadLift_map, map_bind, bind_map_left, map_pure]
  rfl

/-- The retry loop commutes with settling. The induction is on the attempts left; an
attempt and its processing commute with settling on their own, and the decisions the
loop takes read the error count, which settling keeps. -/
theorem retryLoop_settle (core : PolicyCore σ) (settings : RetrySettings) (jitter : Bool)
    (observer : RetryEvent → Act σ Unit) (ex : Execution) (op : m (Except Fault α))
    (n attempt : Nat) (o : Outcome α) :
    Outcome.settle <$> retryLoop core settings jitter observer ex op n attempt o =
      retryLoop core settings jitter observer .blocking op n attempt o.settle := by
  induction n generalizing attempt o with
  | zero => simp [retryLoop]
  | succ n ih =>
    simp only [retryLoop, attemptOnce_eq, map_bind, bind_map_left]
    congr 1
    funext _
    congr 1
    funext r
    cases r with
    | ok value =>
      simp only [recordAttempt, map_bind, map_pure]
      congr 1
      funext _
      by_cases hcount : 0 < o.state.errorCount
      · simp only [gt_iff_lt, Outcome.setValue_state, Outcome.settle_state,
          OutcomeState.errorCount_settle, hcount, if_true]
        rfl
      · simp only [gt_iff_lt, Outcome.setValue_state, Outcome.settle_state,
          OutcomeState.errorCount_settle, hcount, if_false]
        rfl
    | error fault =>
      have hrecord : o.settle.modifyState (·.addError fault) =
          (o.modifyState (·.addError fault)).settle := rfl
      simp only [recordAttempt, hrecord, processFault_settle, bind_map_left, map_bind]
      congr 1
      funext processed
      obtain ⟨verdict, o'⟩ := processed
      cases verdict with
      | canceled => simp only [map_bind, map_pure]; rfl
      | filterRejected => simp only [map_bind, map_pure]; rfl
      | handled =>
        simp only [Prod.map, id]
        split
        · simp only [map_bind, map_pure]; rfl
        · -- the delay is drawn and reported, then the token decides
          simp only [map_bind]
          congr 1
          funext _
          congr 1
          funext _
          congr 1
          funext cancelled
          cases cancelled with
          | true => simp only [map_bind, map_pure, if_true]; rfl
          | false =>
            simp only [if_false, Bool.false_eq_true]
            exact ih (attempt + 1) o'

theorem runSimple_settle (core : PolicyCore σ) (unit? : Option α) (ex : Execution)
    (op : m (Except Fault α)) (o : Outcome α) :
    Outcome.settle <$> runSimple core unit? ex op o =
      runSimple core unit? .blocking op o.settle := by
  simp only [runSimple, attemptOnce_eq, map_bind, bind_map_left, recordAttempt_settle]
  congr 1
  funext r
  cases r with
  | ok value => simp [recordAttempt]
  | error fault =>
    simp only [recordAttempt, Prod.map, id, processFault_settle, bind_map_left, map_bind]
    congr 1
    funext processed
    obtain ⟨verdict, o'⟩ := processed
    cases verdict with
    | handled => cases unit? <;> simp <;> rfl
    | filterRejected => simp; rfl
    | canceled => simp; rfl

theorem runFallback_settle (core : PolicyCore σ) (fallback? : Option (Operation σ α))
    (ex : Execution) (op : m (Except Fault α)) (o : Outcome α) :
    Outcome.settle <$> runFallback core fallback? ex op o =
      runFallback core fallback? .blocking op o.settle := by
  simp only [runFallback, attemptOnce_eq, map_bind, bind_map_left, recordAttempt_settle]
  congr 1
  funext r
  cases r with
  | ok value => simp [recordAttempt]
  | error fault =>
    simp only [recordAttempt, Prod.map, id, processFault_settle, bind_map_left, map_bind]
    congr 1
    funext processed
    obtain ⟨verdict, o'⟩ := processed
    cases verdict with
    | handled =>
      cases fallback? with
      | none => simp; rfl
      | some fallback =>
        simp only [map_bind]
        congr 1
        funext result
        cases result with
        | ok value => simp; rfl
        | error error =>
          -- the fallback's own error decides between a cancellation and a critical failure
          simp only [map_bind]
          congr 1
          funext cancelled
          split <;> simp <;> rfl
    | filterRejected => simp; rfl
    | canceled => simp; rfl

theorem settleRun_settle (leaf : Leaf σ) (t : ValueType) (ex : Execution)
    (op : m (Except Fault t.Carrier)) (o : Outcome t.Carrier) :
    Outcome.settle <$> leaf.settleRun t ex op o = leaf.settleRun t .blocking op o.settle := by
  obtain ⟨core, strategy⟩ := leaf
  simp only [settleRun, map_bind]
  congr 1
  funext cancelled
  split
  · cases strategy <;> simp <;> rfl
  · cases strategy with
    | retry settings jitter observer =>
      exact retryLoop_settle core settings jitter observer ex op settings.attemptLimit 1 o
    | fallback table => exact runFallback_settle core (table t) ex op o
    | simple => exact runSimple_settle core t.unit? ex op o

/-- A leaf invocation is the same computation under every execution. The strategies only
see the execution through the outcome they start from, whose error list is shared exactly
when the run is detached; settling before the handlers forgets that. -/
theorem handle_execution (leaf : Leaf σ) (t : ValueType) (ex : Execution)
    (op : m (Except Fault t.Carrier)) : leaf.handle t ex op = leaf.handle t .blocking op := by
  have hsettled : ∀ e : Execution, leaf.handle t e op =
      (Outcome.settle <$> leaf.settleRun t e op (Outcome.new e.detached)) >>= finish leaf.core := by
    intro e
    rw [handle_eq, bind_map_left]
    simp only [finish_settle]
  rw [hsettled ex, hsettled .blocking, settleRun_settle, settleRun_settle, Outcome.settle_new,
    Outcome.settle_new]

end Leaf

end Resilience

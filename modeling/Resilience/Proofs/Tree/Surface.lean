import Mathlib
import Resilience.Proofs.Trace.Cancellation

/-!
# What a wrapped policy hands its outer leaf

A wrapped policy runs its outer leaf on an operation of its own. Each call of that operation
runs the inner policy once, on the invocation's operation and under its execution, keeps the
inner outcome among the wrapped runs and hands the outer leaf what the outcome surfaces
(`Policy.innerCall_run`). `Outcome.Surfaced` says what that is, case by case: a failure
caused by the handlers is reported as theirs; any other failure hands on the error left
unprocessed, the inner policy's own error, so that the outer filter and processor see it;
a cancellation is reported as such; and a success hands on the value, or the unit value, or
reports that there is none. The generic error naming the inner policy is never produced:
by the shape every outcome has (`OutcomeState.Shaped`), an outcome that failed for a reason
other than its handlers always has an unprocessed error.

The value moves out of the kept outcome only when it is handed on. A failed or canceled
outcome is kept whole, with the value a handler may have let stand beside the failure.

The runs kept are as many as the attempts of the outer leaf. This is a fact about leaves in
any world: a count kept in the world that each call of the operation moves by one and that
nothing else touches (`SceneRun.CallCounter`) ends a leaf's run at the number of attempts its
strategy made (`Leaf.Strategy.count_eq`, `Leaf.handle_count`). The length of the wrapped runs
is such a count.

## Main definitions

* `SceneRun.CallCounter`: A count of the operation's calls kept in the world.
* `Outcome.Surfaced`: What an inner outcome hands the outer operation, and what is kept.

## Theorems

* `Leaf.Strategy.count_eq`, `Leaf.handle_count`: A leaf calls its operation once per attempt.
* `Outcome.surface_surfaced`: Every outcome of a policy tree surfaces as `Surfaced` says.
* `Policy.innerCall_run`: One call of the inner policy.
* `Policy.wrapPolicy_surfaces_inner`: A wrapped policy's runs, call by call.
-/

namespace Resilience

namespace SceneRun

variable {σ : Type} {m : Type → Type} [Monad m] [MonadLiftT (Act σ) m] {W : Type} {β : Type}

/-- A number kept in the world that counts the calls of `op`: each call adds one, and
replacing the scene leaves it alone. -/
structure CallCounter (R : SceneRun σ m W) (op : m β) (count : W → Nat) : Prop where
  withScene : ∀ w s, count (R.withScene w s) = count w
  call : ∀ w, count (R.run op w).2 = count w + 1

theorem CallCounter.hear {R : SceneRun σ m W} {op : m β} {count : W → Nat}
    (hc : R.CallCounter op count) (observer : RetryEvent → Act σ Unit) (event : RetryEvent)
    (w : W) : count (R.hear observer event w) = count w :=
  hc.withScene _ _

/-- Drawing the delay after a failed attempt and reporting it act on the scene alone. -/
theorem CallCounter.delayed {R : SceneRun σ m W} {op : m β} {count : W → Nat}
    (hc : R.CallCounter op count) (settings : RetrySettings) (jitter : Bool)
    (observer : RetryEvent → Act σ Unit) (attempt : Nat) (fault : Fault) (w : W) :
    count (Leaf.delayed R settings jitter observer attempt fault w) = count w := by
  rw [Leaf.delayed, hc.hear, SceneRun.drawDelay, hc.withScene]

/-- A computation that adds one run to the runs kept at each call counts its calls. -/
theorem CallCounter.of_appends {ρ : Type} {call : StateT (List ρ) (Act σ) β}
    (h : ∀ runs s₀, ∃ r, ((call.run runs).run s₀).1.2 = runs ++ [r]) :
    (SceneRun.state (List ρ)).CallCounter call (·.1.length) where
  withScene _ _ := rfl
  call w := by
    obtain ⟨r, hr⟩ := h w.1 w.2
    simp [SceneRun.state, hr]

end SceneRun

namespace Leaf

variable {σ : Type} {m : Type → Type} [Monad m] [MonadLiftT (Act σ) m] {W : Type} {α : Type}
  {t : ValueType} {R : SceneRun σ m W} {count : W → Nat}

/-- One attempt is one call: processing its error acts on the scene alone. -/
theorem Tried.count_eq {core : PolicyCore σ} {op : m (Except Fault α)}
    (hc : R.CallCounter op count) {w w' : W} {a : Attempt α} (h : Tried R core op w a w') :
    count w' = count w + 1 := by
  cases h with
  | value hcall => rw [← hc.call w, hcall]
  | error hcall _ => rw [hc.withScene, ← hc.call w, hcall]

/-- The attempt loop calls the operation once per attempt; the observer and the delays act
on the scene alone. -/
theorem Retries.count_eq {core : PolicyCore σ} {settings : RetrySettings} {jitter : Bool}
    {observer : RetryEvent → Act σ Unit} {op : m (Except Fault α)} (hc : R.CallCounter op count)
    {remaining attempt : Nat} {o o' : Outcome α} {w w' : W} {attempts : List (Attempt α)}
    (h : Retries R core settings jitter observer op remaining attempt o w attempts o' w') :
    count w' = count w + attempts.length := by
  induction h with
  | spent => rfl
  | succeeded htry | canceled htry | rejected htry | exhausted htry =>
    rw [hc.hear, htry.count_eq hc, hc.hear, List.length_singleton]
  | interrupted htry =>
    rw [hc.hear, hc.delayed, htry.count_eq hc, hc.hear, List.length_singleton]
  | retried htry _ _ _ ih =>
    rw [ih, hc.delayed, htry.count_eq hc, hc.hear, List.length_cons]
    omega

theorem SimpleRun.count_eq {core : PolicyCore σ} {unit? : Option α} {op : m (Except Fault α)}
    (hc : R.CallCounter op count) {o o' : Outcome α} {w w' : W} {a : Attempt α}
    (h : SimpleRun R core unit? op o w a o' w') : count w' = count w + 1 := by
  cases h with
  | succeeded htry | recovered htry | canceled htry | rejected htry => exact htry.count_eq hc

/-- A fallback is a computation of the world's scene, not a call of the operation. -/
theorem FallbackRun.count_eq {core : PolicyCore σ} {fallback? : Option (Operation σ α)}
    {op : m (Except Fault α)} (hc : R.CallCounter op count) {o o' : Outcome α} {w w' : W}
    {a : Attempt α} {fb : Option (Except Fault α)}
    (h : FallbackRun R core fallback? op o w a fb o' w') : count w' = count w + 1 := by
  cases h with
  | succeeded htry | missing htry | canceled htry | rejected htry => exact htry.count_eq hc
  | fellBack htry | fallbackCanceled htry | fallbackFailed htry =>
    rw [hc.withScene, htry.count_eq hc]

/-- A strategy calls the operation once per attempt it made. -/
theorem Strategy.count_eq {leaf : Leaf σ} {ex : Execution} {op : m (Except Fault t.Carrier)}
    (hc : R.CallCounter op count) {w w' : W} {attempts : List (Attempt t.Carrier)}
    {fb : Option (Except Fault t.Carrier)} {o : Outcome t.Carrier}
    (h : Strategy R leaf t ex op w attempts fb o w') :
    count w' = count w + attempts.length := by
  cases h with
  | retry _ _ hruns => exact hruns.count_eq hc
  | simple _ _ hrun => exact hrun.count_eq hc
  | fallback _ _ hrun => exact hrun.count_eq hc

/-- A leaf invoked on a live token calls its operation once per attempt of its strategy: the
handlers that run last act on the scene alone. -/
theorem handle_count [LawfulMonad m] {op : m (Except Fault t.Carrier)}
    (hc : R.CallCounter op count) (leaf : Leaf σ) (ex : Execution) (w : W)
    (hlive : (R.scene w).cancelled = false) :
    ∃ attempts fb o w₁, Strategy R leaf t ex op w attempts fb o w₁ ∧
      count (R.run (leaf.handle t ex op) w).2 = count w + attempts.length := by
  obtain ⟨attempts, fb, o, w₁, hstrategy, hrun⟩ := settleRun_trace R leaf t ex op w hlive
  refine ⟨attempts, fb, o, w₁, hstrategy, ?_⟩
  rw [handle_eq, R.run_bind, hrun]
  simp only [finish, R.run_bind, R.run_lift, R.run_pure]
  rw [hc.withScene, hstrategy.count_eq hc]

/-- A leaf run from no runs kept, on a call that adds one run each time, keeps one run per
attempt. -/
theorem handle_runs_length {ρ : Type} {call : StateT (List ρ) (Act σ) (Except Fault t.Carrier)}
    (hc : (SceneRun.state (List ρ)).CallCounter call (·.1.length)) (leaf : Leaf σ)
    (ex : Execution) (s : Scene σ) (hlive : s.cancelled = false) :
    ∃ attempts fb o w₁, Strategy (SceneRun.state _) leaf t ex call ([], s) attempts fb o w₁ ∧
      ((SceneRun.state _).run (leaf.handle t ex call) ([], s)).2.1.length = attempts.length := by
  obtain ⟨attempts, fb, o, w₁, hstrategy, hcount⟩ := handle_count hc leaf ex ([], s) hlive
  exact ⟨attempts, fb, o, w₁, hstrategy, by simpa using hcount⟩

end Leaf

namespace Outcome

variable {α : Type}

/-- How the outcome `o` of the inner policy named `policy` reaches the outer operation: `r` is
the result handed on and the outcome kept among the runs. The cases follow the order in which
they are tried. -/
structure Surfaced (policy : String) (unit? : Option α) (o : Outcome α)
    (r : Except Fault α × Outcome α) : Prop where
  /-- A failure caused by the handlers is reported with their errors. -/
  handlerFailed : o.state.reason = .policyResultHandlerFailed →
    r = (.error (.ofFailure (.handlerFailed policy o.state.handlingErrors)), o)
  /-- Any other failure hands on the error left unprocessed; there always is one. -/
  failed : o.state.reason ≠ .policyResultHandlerFailed → o.isFailed = true →
    ∃ fault, o.unprocessed = some fault ∧ r = (.error fault, o)
  /-- A cancellation is reported as such. -/
  canceled : o.isFailed = false → o.isCanceled = true → r = (.error (.ofFailure .canceled), o)
  /-- A success hands on its value, or the unit value, and only then does the value move out
  of the outcome kept. -/
  succeeded : o.isFailed = false → o.isCanceled = false →
    r = ((o.value.orElse fun _ => unit?).elim (.error (.ofFailure .noValue)) .ok,
      { o with value := none })

/-- Every outcome of the shape a policy tree's outcomes have surfaces as `Surfaced` says. -/
theorem surface_surfaced (policy : String) (unit? : Option α) {o : Outcome α} {b : Bool}
    (h : OutcomeState.Shaped b o.state) : Surfaced policy unit? o (o.surface policy unit?) := by
  -- an outcome that did not fail has no reason, so its handlers did not fail it
  have hreason : o.isFailed = false → o.state.reason ≠ .policyResultHandlerFailed := by
    intro hf hr
    have := h.failed_iff.2 (by rw [hr]; decide)
    simp_all [isFailed]
  refine ⟨fun hr => by simp [surface, hr], fun hr hf => ?_, fun hf hc => ?_, fun hf hc => ?_⟩
  · -- the shape leaves an error unprocessed, so the generic error is not reached
    obtain ⟨fault, hfault⟩ := Option.isSome_iff_exists.1 (h.unprocessed_iff.2 ⟨hf, hr⟩)
    exact ⟨fault, hfault, by simp [surface, hr, hf, unprocessed, hfault]⟩
  · simp [surface, hreason hf, hf, hc]
  · simp only [surface, hreason hf, hf, hc, takeValue, if_false, Bool.false_eq_true]
    cases o.value.orElse fun _ => unit? <;> rfl

end Outcome

namespace Policy

variable {σ : Type} {t : ValueType}

/-- One call of the inner policy from the runs `runs` and the scene `s₀`. -/
theorem innerCall_run (inner : Policy σ t) (ex : Execution) (op : Operation σ t.Carrier)
    (runs : List (Outcome t.Carrier)) (s₀ : Scene σ) :
    ((innerCall inner ex op).run runs).run s₀ =
      (((((inner.handle ex op).run s₀).1.surface inner.name t.unit?).1,
        runs ++ [(((inner.handle ex op).run s₀).1.surface inner.name t.unit?).2]),
        ((inner.handle ex op).run s₀).2) := rfl

/-- The number of runs kept counts the calls of the inner policy. -/
theorem innerCall_counter (inner : Policy σ t) (ex : Execution) (op : Operation σ t.Carrier) :
    (SceneRun.state (List (Outcome t.Carrier))).CallCounter (innerCall inner ex op)
      (·.1.length) :=
  SceneRun.CallCounter.of_appends fun runs s₀ => ⟨_, by rw [innerCall_run]⟩

/-- A wrapping invocation run from a scene: its outer leaf run from no runs kept, with the
runs kept attached to the outcome. -/
theorem run_wrapped {ρ : Type} (x : StateT (List ρ) (Act σ) (Outcome t.Carrier))
    (wrap : List ρ → WrappedRuns t.Carrier) (s : Scene σ) :
    (do
      let (o, runs) ← x.run []
      return { o with wrapped := some (wrap runs) } : Act σ (Outcome t.Carrier)).run s =
      ({ ((SceneRun.state _).run x ([], s)).1 with
          wrapped := some (wrap ((SceneRun.state _).run x ([], s)).2.1) },
        ((SceneRun.state _).run x ([], s)).2.2) := rfl

/-- A wrapped policy surfaces its inner outcomes. The outer leaf runs, from no runs kept, on
an operation each call of which runs the inner policy once on the invocation's operation and
execution, keeps the inner outcome and hands on what it surfaces. On a cancelled token no run
is kept; on a live one, as many as the outer leaf made attempts. -/
theorem wrapPolicy_surfaces_inner (outer : Leaf σ) (inner : Policy σ t) (ex : Execution)
    (op : Operation σ t.Carrier) (s : Scene σ) :
    (wrapPolicy outer inner).handle ex op = (do
      let (o, runs) ← (outer.handle t ex (innerCall inner ex op)).run []
      return { o with wrapped := some (.policy runs) }) ∧
    (∀ runs s₀ o s₁, (inner.handle ex op).run s₀ = (o, s₁) →
      ((innerCall inner ex op).run runs).run s₀ =
        (((o.surface inner.name t.unit?).1, runs ++ [(o.surface inner.name t.unit?).2]), s₁) ∧
      Outcome.Surfaced inner.name t.unit? o (o.surface inner.name t.unit?)) ∧
    (s.cancelled = true →
      (((wrapPolicy outer inner).handle ex op).run s).1.wrapped = some (.policy [])) ∧
    (s.cancelled = false → ∃ attempts fb runs, (wrapPolicy outer inner).Tries ex op s attempts fb ∧
      (((wrapPolicy outer inner).handle ex op).run s).1.wrapped = some (.policy runs) ∧
      runs.length = attempts.length) := by
  refine ⟨handle_wrapPolicy outer inner ex op, fun runs s₀ o s₁ hinner => ?_, fun hcancelled => ?_,
    fun hlive => ?_⟩
  · -- the inner outcome has the shape of every tree's outcome, whatever the tree
    have hshaped := inner.handle_outcome_shaped ex op s₀
    rw [hinner] at hshaped
    exact ⟨by rw [innerCall_run, hinner], Outcome.surface_surfaced _ _ hshaped⟩
  · rw [handle_of_cancelled _ ex op s hcancelled]
    rfl
  · obtain ⟨attempts, fb, o, w₁, hstrategy, hlength⟩ :=
      Leaf.handle_runs_length (innerCall_counter inner ex op) outer ex s hlive
    exact ⟨attempts, fb, _, ⟨o, w₁, hstrategy⟩, by rw [handle_wrapPolicy, run_wrapped], hlength⟩

/-- A simple policy wrapping another, on a live token. -/
theorem wrapPolicy_surfaces_inner_live :
    (⟨false, (), fun _ => 0⟩ : Scene Unit).cancelled = false ∧
      ∃ attempts fb runs,
        (wrapPolicy Leaf.simple (leaf Leaf.simple) : Policy Unit .unit).Tries .blocking
          ⟨⟨"Store", "get"⟩, .sync, pure (.ok ())⟩ ⟨false, (), fun _ => 0⟩ attempts fb ∧
        (((wrapPolicy Leaf.simple (leaf Leaf.simple) : Policy Unit .unit).handle .blocking
          ⟨⟨"Store", "get"⟩, .sync, pure (.ok ())⟩).run ⟨false, (), fun _ => 0⟩).1.wrapped =
            some (.policy runs) ∧
        runs.length = attempts.length :=
  ⟨rfl, (wrapPolicy_surfaces_inner Leaf.simple (leaf Leaf.simple : Policy Unit .unit) .blocking
    ⟨⟨"Store", "get"⟩, .sync, pure (.ok ())⟩ ⟨false, (), fun _ => 0⟩).2.2.2 rfl⟩

/-- A simple policy whose one handler cancels the outcome it is given. -/
def cancellingSimple : Leaf Unit :=
  { core :=
      { name := "simple"
        handlers := [⟨.sync, fun _ => pure { result := .ok (), setCanceled := true }⟩] }
    strategy := .simple }

/-- A kept outcome that is not handed on keeps its value: the inner policy's call gives 5 and
its handler cancels the outcome, so the outer leaf is handed a cancellation, and the one run
kept is canceled and still holds 5. -/
theorem wrapPolicy_keeps_canceled_value :
    ∃ o, (((wrapPolicy Leaf.simple (leaf cancellingSimple) : Policy Unit .int).handle .blocking
        ⟨⟨"Store", "get"⟩, .sync, pure (.ok 5)⟩).run ⟨false, (), fun _ => 0⟩).1.wrapped =
          some (.policy [o]) ∧ o.state.canceled = true ∧ o.value = some 5 :=
  ⟨_, rfl, rfl, rfl⟩

end Policy

end Resilience

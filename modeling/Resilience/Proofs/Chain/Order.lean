import Mathlib
import Resilience.Policy.Tree

/-!
# Chain runs, element by element

A chain runs its elements left to right. Before each element the token is checked: once it
has fired, the element gets a synthesized canceled step without its policy or operation
running, and the chain stops. Otherwise the element's policy handles the element's
operation, and the chain goes on only if that step failed without being canceled. The
elements after the last step never run and are reported as unused.

`Runs` says this declaratively, one constructor per way an element can end: the run is
over (`done`), the token had fired (`canceled`), the step ended the run (`stop`), or it let
the next element start (`next`). Each constructor that runs a policy records the scene the
element started from and the scene it left, so a derivation is a complete account of what
the world saw: the scenes chain from the first element to the last step, and nothing runs
after it. `runSteps_runs` shows that a chain of bound elements always produces such a
derivation, and the shape of the result follows from it by induction on the derivation:
as many steps as elements at most, one per element in order with its policy and target,
every step but the last letting the next one start, and the last one stopping the run
whenever elements are left over.

## Main definitions

* `Chain.Runs`: How the elements of a chain run from a scene.
* `Chain.OrderlyRun`: What a run of a whole chain promises.

## Theorems

* `Chain.runSteps_runs`: Bound elements run as `Runs` says.
* `Chain.runAll_of_runSteps`: A chain of bound elements reports the steps they run to.
* `Chain.Runs.length_le`, `Chain.Runs.ne_nil`, `Chain.Runs.forall₂`,
  `Chain.Runs.allowsNext_of_mem_dropLast`, `Chain.Runs.last_stops`: The shape of a run.
* `ChainRun.status_eq_created_iff`: A run is `created` exactly when it took no step.
* `Chain.handleAll_runs_in_order`: Running a chain of bound elements gives an orderly run.
-/

namespace Resilience

variable {σ : Type} {t : ValueType}

@[simp]
theorem ChainStep.allowsNext_canceled {α : Type} (policy : String) (target : Target) :
    (⟨policy, target, .canceled⟩ : ChainStep α).allowsNext = false := rfl

/-- A run is `created` exactly when it took no step: every status of a run with a last step
names that step's flags. -/
theorem ChainRun.status_eq_created_iff {α : Type} (run : ChainRun α) :
    run.status = .created ↔ run.steps = [] := by
  unfold ChainRun.status
  cases hlast : run.steps.getLast? with
  | none => simpa using hlast
  | some last =>
    have hne : run.steps ≠ [] := by
      rintro hnil
      simp [hnil] at hlast
    simp only [hne, iff_false]
    cases hfailed : last.outcome.isFailed <;> cases hcanceled : last.outcome.isCanceled <;> simp
    split <;> simp

namespace Chain

/-- How bound chain elements run from the scene `s`, taking `steps` and leaving the scene
`s'`. Each element runs its policy on its operation under the execution its kind gets from
the drive, unless the token has already fired; a step that does not let the next element
start ends the run. -/
inductive Runs (executor : Executor) (drive : Execution) :
    List (Element σ t) → Scene σ → List (ChainStep t.Carrier) → Scene σ → Prop
  /-- No element is left. -/
  | done (s : Scene σ) : Runs executor drive [] s [] s
  /-- The token had fired: a canceled step, and nothing runs. -/
  | canceled {policy : Policy σ t} {op : Operation σ t.Carrier} {rest : List (Element σ t)}
      {s : Scene σ} (hcancelled : s.cancelled = true) :
      Runs executor drive (⟨policy, some op⟩ :: rest) s [⟨policy.name, op.target, .canceled⟩] s
  /-- The element ran and its step ends the run. -/
  | stop {policy : Policy σ t} {op : Operation σ t.Carrier} {rest : List (Element σ t)}
      {s s' : Scene σ} {o : Outcome t.Carrier} (hlive : s.cancelled = false)
      (hrun : (policy.handle (executor.elementExecution drive op.kind) op).run s = (o, s'))
      (hstop : (⟨policy.name, op.target, o⟩ : ChainStep t.Carrier).allowsNext = false) :
      Runs executor drive (⟨policy, some op⟩ :: rest) s [⟨policy.name, op.target, o⟩] s'
  /-- The element ran, failed without being canceled, and the rest runs from where it left
  the world. -/
  | next {policy : Policy σ t} {op : Operation σ t.Carrier} {rest : List (Element σ t)}
      {s s' s'' : Scene σ} {o : Outcome t.Carrier} {steps : List (ChainStep t.Carrier)}
      (hlive : s.cancelled = false)
      (hrun : (policy.handle (executor.elementExecution drive op.kind) op).run s = (o, s'))
      (hnext : (⟨policy.name, op.target, o⟩ : ChainStep t.Carrier).allowsNext = true)
      (hrest : Runs executor drive rest s' steps s'') :
      Runs executor drive (⟨policy, some op⟩ :: rest) s (⟨policy.name, op.target, o⟩ :: steps) s''

/-- Bound elements run as `Runs` says, after whatever steps were already taken. The
induction is on the elements; the token decides the first constructor, and the first step
decides between `stop` and `next`. -/
theorem runSteps_runs (executor : Executor) (drive : Execution) :
    ∀ (elements : List (Element σ t)), (∀ e ∈ elements, e.operation.isSome) →
      ∀ (taken : List (ChainStep t.Carrier)) (s : Scene σ),
        ∃ steps s', (runSteps executor drive elements none taken).run s =
          (.ok (taken ++ steps), s') ∧ Runs executor drive elements s steps s'
  | [], _, taken, s => ⟨[], s, by simp [runSteps]; rfl, .done s⟩
  | ⟨policy, operation⟩ :: rest, hbound, taken, s => by
    obtain ⟨op, rfl⟩ : ∃ op, operation = some op :=
      Option.isSome_iff_exists.1 (hbound _ List.mem_cons_self)
    have hrest : ∀ e ∈ rest, e.operation.isSome := fun e he =>
      hbound e (List.mem_cons_of_mem _ he)
    cases hcancelled : s.cancelled with
    | true =>
      refine ⟨[⟨policy.name, op.target, .canceled⟩], s, ?_, .canceled hcancelled⟩
      simp [runSteps, Act.isCancelled, hcancelled]
      rfl
    | false =>
      rcases hrun : (policy.handle (executor.elementExecution drive op.kind) op).run s with
        ⟨o, s'⟩
      have hrun' : (policy.handle (executor.elementExecution drive op.kind) op).run s =
          pure (o, s') := hrun
      cases hnext : (⟨policy.name, op.target, o⟩ : ChainStep t.Carrier).allowsNext with
      | false =>
        refine ⟨[⟨policy.name, op.target, o⟩], s', ?_, .stop hcancelled hrun hnext⟩
        simp [runSteps, Act.isCancelled, hcancelled, hrun', hnext]
        rfl
      | true =>
        obtain ⟨steps, s'', hsteps, hruns⟩ :=
          runSteps_runs executor drive rest hrest (taken ++ [⟨policy.name, op.target, o⟩]) s'
        refine ⟨⟨policy.name, op.target, o⟩ :: steps, s'', ?_, .next hcancelled hrun hnext hruns⟩
        simp [runSteps, Act.isCancelled, hcancelled, hrun', hnext, hsteps]

namespace Runs

variable {executor : Executor} {drive : Execution} {elements : List (Element σ t)}
  {s s' : Scene σ} {steps : List (ChainStep t.Carrier)}

theorem length_le (h : Runs executor drive elements s steps s') :
    steps.length ≤ elements.length := by
  induction h with
  | done => simp
  | canceled => simp
  | stop => simp
  | next _ _ _ _ ih => simpa using ih

/-- Elements to run always give at least one step. -/
theorem ne_nil (h : Runs executor drive elements s steps s') (hne : elements ≠ []) :
    steps ≠ [] := by
  cases h with
  | done => exact absurd rfl hne
  | canceled => simp
  | stop => simp
  | next => simp

/-- Step `i` belongs to element `i`: it carries that element's policy name and the target
of its operation. -/
theorem forall₂ (h : Runs executor drive elements s steps s') :
    List.Forall₂ (fun step e => step.policy = e.policy.name ∧
      ∃ op, e.operation = some op ∧ step.target = op.target)
      steps (elements.take steps.length) := by
  induction h with
  | done => simp
  | canceled => simp
  | stop => simp
  | next _ _ _ _ ih => simpa using ih

/-- Every step but the last failed without being canceled. -/
theorem allowsNext_of_mem_dropLast (h : Runs executor drive elements s steps s') :
    ∀ step ∈ steps.dropLast, step.allowsNext = true := by
  induction h with
  | done => simp
  | canceled => simp
  | stop => simp
  | @next policy op rest _ _ _ o tail _ _ hnext _ ih =>
    intro step hstep
    cases tail with
    | nil => simp at hstep
    | cons next tail =>
      rw [List.dropLast_cons_cons, List.mem_cons] at hstep
      rcases hstep with rfl | hstep
      · exact hnext
      · exact ih step hstep

/-- A run that leaves elements unused was stopped by its last step. -/
theorem last_stops (h : Runs executor drive elements s steps s')
    (hshort : steps.length < elements.length) :
    ∀ step ∈ steps.getLast?, step.allowsNext = false := by
  induction h with
  | done => simp at hshort
  | canceled => simp
  | stop _ _ hstop => simpa using hstop
  | @next policy op rest _ _ _ o tail _ _ _ hrest ih =>
    intro step hstep
    -- the run went on with elements left, so those took a step and the last is theirs
    have hrest_ne : rest ≠ [] := by
      rintro rfl
      cases hrest
      simp at hshort
    have htail_ne : tail ≠ [] := hrest.ne_nil hrest_ne
    rw [List.getLast?_cons_of_ne_nil htail_ne] at hstep
    exact ih (by simpa using hshort) step hstep

end Runs

/-- A chain of bound elements passes the check of its last element and reports the steps its
elements run to, with the elements past them unused. -/
theorem runAll_of_runSteps (c : Chain σ t) (drive : Execution)
    (hbound : ∀ e ∈ c.elements, e.operation.isSome) {s s' : Scene σ}
    {steps : List (ChainStep t.Carrier)}
    (hsteps : (runSteps c.executor (driveFor (Element.kinds none c.elements) drive) c.elements
      none []).run s = (.ok steps, s')) :
    (c.runAll drive).run s = (.ok ⟨steps, c.elements.drop steps.length⟩, s') := by
  have hsteps' : (runSteps c.executor (driveFor (Element.kinds none c.elements) drive) c.elements
      none []).run s = pure (.ok steps, s') := hsteps
  cases hl : c.elements.getLast? with
  | none =>
    simp [runAll, hl, hsteps']
    rfl
  | some last =>
    have hnone : last.operation.isNone = false := by
      simpa using hbound last (List.mem_of_getLast? hl)
    simp [runAll, hl, hnone, hsteps']
    rfl

/-- What a run of the chain `c` from the scene `s`, reported as `run` and leaving the scene
`s'`, promises: its elements ran as `Runs` says, the elements it did not reach are its
unused ones, and its steps have the shape that follows. -/
structure OrderlyRun (c : Chain σ t) (s : Scene σ) (run : ChainResult σ t) (s' : Scene σ) :
    Prop where
  runs : Runs c.executor .blocking c.elements s run.steps s'
  unused_eq : run.unused = c.elements.drop run.steps.length
  length_add : run.steps.length + run.unused.length = c.elements.length
  steps_ne_nil : c.elements ≠ [] → run.steps ≠ []
  steps_match : List.Forall₂ (fun step e => step.policy = e.policy.name ∧
    ∃ op, e.operation = some op ∧ step.target = op.target)
    run.steps (c.elements.take run.steps.length)
  continued : ∀ step ∈ run.steps.dropLast, step.allowsNext = true
  stopped : run.steps.length < c.elements.length →
    ∀ step ∈ run.steps.getLast?, step.allowsNext = false
  created_iff : run.toRun.status = .created ↔ c.elements = []

/-- Chain orchestration. Running a chain of bound elements from synchronous code, without
turning a faulted run into an error, always succeeds, and the run is orderly: its elements
ran one after another from the scene it started in, each canceled without running once the
token had fired, each otherwise handled by its policy, until a step did not let the next one
start. -/
theorem handleAll_runs_in_order (c : Chain σ t) (hthrow : c.throwOnLastFailed = false)
    (hbound : ∀ e ∈ c.elements, e.operation.isSome) (s : Scene σ) :
    ∃ run s', (c.handleAll .blocking).run s = (.ok run, s') ∧ c.OrderlyRun s run s' := by
  obtain ⟨steps, s', hsteps, hruns⟩ := runSteps_runs c.executor .blocking c.elements hbound [] s
  have hsteps' : (runSteps c.executor .blocking c.elements none []).run s =
      pure (.ok steps, s') := by
    simp only [List.nil_append] at hsteps
    exact hsteps
  -- the check for an open last slot passes: every element is bound
  have hlast : ∀ last ∈ c.elements.getLast?, last.operation.isNone = false := by
    intro last hmem
    simpa using hbound last (List.mem_of_getLast? hmem)
  refine ⟨⟨steps, c.elements.drop steps.length⟩, s', ?_, ?_⟩
  · cases hl : c.elements.getLast? with
    | none => simp [handleAll, runAll, hl, driveFor, hsteps', hthrow]; rfl
    | some last => simp [handleAll, runAll, hl, hlast last hl, driveFor, hsteps', hthrow]; rfl
  · have hle := hruns.length_le
    refine ⟨hruns, rfl, by simp; omega, hruns.ne_nil, hruns.forall₂,
      hruns.allowsNext_of_mem_dropLast, hruns.last_stops, ?_⟩
    rw [ChainRun.status_eq_created_iff]
    constructor
    · intro hnil
      by_contra hne
      exact hruns.ne_nil hne hnil
    · intro hnil
      simpa [hnil] using hle

/-- Three bound elements: a fallback policy without fallbacks around an operation that fails,
which lets the next element start; a simple policy around an operation that fails, which
recovers and ends the run; and a last element that is never reached. -/
def recoveringChain : Chain Unit .unit :=
  { elements :=
      [⟨.leaf .fallback, some ⟨⟨"Client", "fetch"⟩, .sync, pure (.error (.msg "refused"))⟩⟩,
       ⟨.leaf .simple, some ⟨⟨"Cache", "read"⟩, .sync, pure (.error (.msg "stale"))⟩⟩,
       ⟨.leaf .simple, some ⟨⟨"Store", "load"⟩, .sync, pure (.ok ())⟩⟩] }

/-- The chain of three meets the conditions on a live token. -/
theorem handleAll_runs_in_order_recovering :
    recoveringChain.throwOnLastFailed = false ∧
      (∀ e ∈ recoveringChain.elements, e.operation.isSome) ∧
      ∃ run s', (recoveringChain.handleAll .blocking).run ⟨false, (), fun _ => 0⟩ = (.ok run, s') ∧
        recoveringChain.OrderlyRun ⟨false, (), fun _ => 0⟩ run s' :=
  ⟨rfl, by simp [recoveringChain], handleAll_runs_in_order _ rfl (by simp [recoveringChain]) _⟩

end Chain

end Resilience

import Mathlib
import Resilience.Scenario.Bench

/-!
# Accumulators in memory behave as lists

The accumulator bench keeps an accumulator as it is laid out in memory: plain, or the address
of a locked list that the sinks it has handed out point at too. Its items are read from
wherever they are, a push through a sink appends to the list at the sink's address, and
settling or taking the items out moves them out of the locked list by one of two paths,
depending on whether a sink still holds the address.

The counting bench over `Accumulator` forgets all of that: it keeps the items, a flag for
whether the accumulator is shared, and how many sinks are held, and a push through a held
sink appends exactly when the flag is set. This module proves that the laid-out bench is the
counting bench in disguise, command by command (`LayoutBench.step_abstract`), as long as
every held sink points at the accumulator's own list while it is shared
(`LayoutBench.Coherent`). That invariant holds of a fresh bench and every command keeps it: a
sink is only ever handed out, or copied, from a shared accumulator's own address, and the
address does not change until the accumulator is laid out plain, after which it never
shares again.

Read through that correspondence, a run of the bench from a fresh accumulator has the laws
of the sequential model: the items are the owner's pushes and the pushes through held sinks
made while the accumulator was shared, in order; settling keeps them and makes the
accumulator plain for good; a sink is handed out exactly while it is shared.

## Main definitions

* `LayoutBench.abstract`: The counting bench a laid-out bench stands for.
* `LayoutBench.Coherent`: Every held sink points at a shared accumulator's own list.
* `LayoutBench.runAll`, `LayoutBench.trace`: A run of commands, and the benches it passes.
* `LayoutBench.landed`: The item a command adds to the accumulator's list.

## Theorems

* `LayoutBench.step_abstract`: One command is one command of the counting bench.
* `LayoutBench.Coherent.step`: One command keeps the invariant.
* `LayoutBench.toVec_runAll`: The items after a run are the pushes that landed.
* `LayoutBench.isShared_runAll`: Shared until settled or taken.
* `LayoutBench.sequential_model`: The laws of the sequential model along every run.
-/

namespace Resilience

namespace LayoutBench

open Accumulator

variable {b : LayoutBench}

/-- The counting bench a laid-out bench stands for: the items it reads, whether it is
shared, and how many sinks it holds. -/
def abstract (b : LayoutBench) : AccumulatorBench :=
  { acc := { items := b.toVec, shared := b.isShared }, sinks := b.sinks.length }

/-- While the accumulator is shared, every held sink points at its own list. -/
def Coherent (b : LayoutBench) : Prop :=
  ∀ cell, b.layout = .shared cell → ∀ sink ∈ b.sinks, sink.cell = cell

/-- The bench after a run of commands. -/
def runAll (b : LayoutBench) : List AccumulatorCommand → LayoutBench
  | [] => b
  | command :: rest => (b.step command).2.runAll rest

/-- The benches a run passes through, each with the command carried out from it. -/
def trace (b : LayoutBench) : List AccumulatorCommand → List (LayoutBench × AccumulatorCommand)
  | [] => []
  | command :: rest => (b, command) :: (b.step command).2.trace rest

/-- The item a command adds to the accumulator's list: an owner's push always, a push
through a held sink only while the accumulator is shared, and nothing else. -/
def landed (b : LayoutBench) : AccumulatorCommand → Option Int64
  | .push item => some item
  | .sinkPush item index => if index < b.sinks.length ∧ b.isShared then some item else none
  | _ => none

/-! ### Reading the layout -/

theorem len_eq_length (b : LayoutBench) : b.len = b.toVec.length := by
  obtain ⟨layout, store, sinks⟩ := b
  cases layout <;> rfl

theorem last_eq_getLast? (b : LayoutBench) : b.last = b.toVec.getLast? := by
  obtain ⟨layout, store, sinks⟩ := b
  cases layout <;> rfl

/-- Both ways of taking the items out hand over the list as it stands. -/
theorem intoVec_fst (layout : Layout Int64) (store : Store Int64) (held : Nat → Bool) :
    (layout.intoVec store held).1 = layout.toVec store := by
  cases layout with
  | plain items => rfl
  | shared cell =>
    simp only [Layout.intoVec]
    split <;> rfl

theorem toVec_settle (layout : Layout Int64) (store : Store Int64) (held : Nat → Bool) :
    (layout.settle store held).1.toVec (layout.settle store held).2 = layout.toVec store := by
  cases layout with
  | plain items => rfl
  | shared cell =>
    simp only [Layout.settle, Layout.isShared_shared, if_true, Layout.toVec_plain]
    exact intoVec_fst (.shared cell) store held

theorem isShared_settle (layout : Layout Int64) (store : Store Int64) (held : Nat → Bool) :
    (layout.settle store held).1.isShared = false := by
  cases layout <;> rfl

/-! ### One command -/

theorem coherent_new (concurrent : Bool) : (new concurrent).Coherent := by
  intro cell _ sink hsink
  simp [new, Layout.new] at hsink

/-- A held sink of a coherent shared accumulator points at its list. -/
theorem Coherent.cell_of_getElem? (h : b.Coherent) {cell index : Nat} {sink : Sink}
    (hlayout : b.layout = .shared cell) (hsink : b.sinks[index]? = some sink) :
    sink.cell = cell :=
  h cell hlayout sink (List.mem_of_getElem? hsink)

theorem Coherent.step (h : b.Coherent) (command : AccumulatorCommand) :
    (b.step command).2.Coherent := by
  obtain ⟨layout, store, sinks⟩ := b
  cases command with
  | push item =>
    cases layout with
    | plain items => simp [LayoutBench.step, Layout.push, Coherent]
    | shared cell => exact h
  | sink =>
    cases layout with
    | plain items => exact h
    | shared cell =>
      -- the new sink is handed out from the accumulator's own address
      intro cell' hcell sink hsink
      cases hcell
      simp only [LayoutBench.step, Layout.sink, List.mem_append, List.mem_singleton] at hsink
      rcases hsink with hsink | rfl
      · exact h cell rfl sink hsink
      · rfl
  | cloneSink index =>
    simp only [LayoutBench.step]
    cases hcopy : sinks[index]? with
    | none => exact h
    | some copied =>
      intro cell hcell sink hsink
      simp only [List.mem_append, List.mem_singleton] at hsink
      rcases hsink with hsink | rfl
      · exact h cell hcell sink hsink
      · exact Coherent.cell_of_getElem? h hcell hcopy
  | sinkPush item index =>
    simp only [LayoutBench.step]
    cases sinks[index]? with
    | none => exact h
    | some sink => exact h
  | dropSinks => simp [LayoutBench.step, Coherent]
  | settle =>
    cases layout with
    | plain items => exact h
    | shared cell => simp [LayoutBench.step, Layout.settle, Coherent]
  | take => simp [LayoutBench.step, Coherent]

theorem Coherent.runAll (h : b.Coherent) (commands : List AccumulatorCommand) :
    (b.runAll commands).Coherent := by
  induction commands generalizing b with
  | nil => exact h
  | cons command rest ih => exact ih (h.step command)

/-- One command of the laid-out bench is one command of the counting bench: the same
report, and the same items, sharing and number of sinks after it. -/
theorem step_abstract (h : b.Coherent) (command : AccumulatorCommand) :
    ((b.step command).1, (b.step command).2.abstract) = b.abstract.step command := by
  obtain ⟨layout, store, sinks⟩ := b
  cases command with
  | push item =>
    cases layout <;>
      simp [LayoutBench.step, abstract, AccumulatorBench.step, Layout.push, toVec, isShared,
        Accumulator.push]
  | sink =>
    cases layout <;>
      simp [LayoutBench.step, abstract, AccumulatorBench.step, Layout.sink, toVec, isShared,
        Accumulator.hasSink]
  | cloneSink index =>
    simp only [LayoutBench.step, abstract, AccumulatorBench.step]
    cases hcopy : sinks[index]? with
    | none =>
      have hlen : ¬ index < sinks.length := by simpa using hcopy
      simp [hlen]
    | some copied =>
      have hlen : index < sinks.length := (List.getElem?_eq_some_iff.mp hcopy).1
      simp [hlen, toVec, isShared]
  | sinkPush item index =>
    simp only [LayoutBench.step, abstract, AccumulatorBench.step]
    cases hsink : sinks[index]? with
    | none =>
      have hlen : ¬ index < sinks.length := by simpa using hsink
      simp [hlen]
    | some sink =>
      have hlen : index < sinks.length := (List.getElem?_eq_some_iff.mp hsink).1
      cases layout with
      | plain items =>
        -- a plain accumulator reads its own items, and the push lands in a list elsewhere
        simp [hlen, toVec, isShared, Accumulator.pushThroughSink]
      | shared cell =>
        -- the sink points at the accumulator's own list, so the push is read back
        have hcell : sink.cell = cell := Coherent.cell_of_getElem? h rfl hsink
        simp [hlen, hcell, toVec, isShared, Sink.push, Accumulator.pushThroughSink,
          Accumulator.push]
  | dropSinks => rfl
  | settle =>
    have hitems := toVec_settle layout store (LayoutBench.holds ⟨layout, store, sinks⟩)
    simp [LayoutBench.step, abstract, AccumulatorBench.step, toVec, isShared, hitems,
      isShared_settle, Accumulator.settle]
  | take =>
    simp [LayoutBench.step, abstract, AccumulatorBench.step, toVec, isShared, intoVec_fst,
      Accumulator.take]

/-! ### Runs -/

@[simp]
theorem toVec_new (concurrent : Bool) : (new concurrent).toVec = [] := by
  cases concurrent <;> rfl

@[simp]
theorem isShared_new (concurrent : Bool) : (new concurrent).isShared = concurrent := by
  cases concurrent <;> rfl

/-- Every command but taking the items out adds to them what `landed` says. -/
theorem toVec_step (h : b.Coherent) {command : AccumulatorCommand} (hcommand : command ≠ .take) :
    (b.step command).2.toVec = b.toVec ++ (b.landed command).toList := by
  have hitems : (b.step command).2.toVec = (b.abstract.step command).2.acc.items :=
    congrArg (fun p => p.2.acc.items) (step_abstract h command)
  rw [hitems]
  cases command with
  | push item => rfl
  | sink =>
    simp only [AccumulatorBench.step, landed]
    split <;> simp [abstract]
  | cloneSink index =>
    simp only [AccumulatorBench.step, landed]
    split <;> simp [abstract]
  | sinkPush item index =>
    simp only [AccumulatorBench.step, landed, abstract]
    by_cases hlen : index < b.sinks.length <;>
      simp [hlen, Accumulator.pushThroughSink, Accumulator.push, apply_ite]
  | dropSinks => simp [AccumulatorBench.step, landed, abstract]
  | settle => simp [AccumulatorBench.step, landed, abstract, Accumulator.settle]
  | take => exact absurd rfl hcommand

/-- A command leaves the accumulator shared exactly when it was shared and the command
neither settles it nor takes its items out. -/
theorem isShared_step (h : b.Coherent) (command : AccumulatorCommand) :
    (b.step command).2.isShared = true ↔
      b.isShared = true ∧ command ≠ .settle ∧ command ≠ .take := by
  have hshared : (b.step command).2.isShared = (b.abstract.step command).2.acc.shared :=
    congrArg (fun p => p.2.acc.shared) (step_abstract h command)
  rw [hshared]
  cases command with
  | sink | cloneSink =>
    simp only [AccumulatorBench.step]
    split <;> simp [abstract]
  | sinkPush item index =>
    by_cases hshared : b.isShared = true <;>
      simp [AccumulatorBench.step, abstract, hshared, Accumulator.pushThroughSink,
        Accumulator.push, apply_ite]
  | push | dropSinks | settle | take =>
    simp [AccumulatorBench.step, abstract, Accumulator.push, Accumulator.settle,
      Accumulator.take]

theorem step_sink_fst (h : b.Coherent) : (b.step .sink).1 = .flag b.isShared := by
  rw [congrArg Prod.fst (step_abstract h .sink)]
  by_cases hshared : b.isShared = true <;>
    simp [AccumulatorBench.step, Accumulator.hasSink, abstract, hshared]

theorem step_take_fst (h : b.Coherent) : (b.step .take).1 = .items b.toVec :=
  congrArg Prod.fst (step_abstract h .take)

/-- The items after a run that takes nothing out are the items before it followed by the
pushes that landed, in the order they were made. -/
theorem toVec_runAll (h : b.Coherent) {commands : List AccumulatorCommand}
    (htake : .take ∉ commands) :
    (b.runAll commands).toVec = b.toVec ++ (b.trace commands).filterMap fun p => p.1.landed p.2 := by
  induction commands generalizing b with
  | nil => simp [runAll, trace]
  | cons command rest ih =>
    have hcommand : command ≠ .take := fun heq => htake (heq ▸ List.mem_cons_self)
    have hrest : .take ∉ rest := fun hmem => htake (List.mem_cons_of_mem _ hmem)
    simp only [runAll, trace, List.filterMap_cons]
    rw [ih (h.step command) hrest, toVec_step h hcommand]
    cases b.landed command <;> simp

-- the push through the sink after settling lands in a list that is no longer read
example :
    ((new true).runAll [.push 1, .sink, .sinkPush 2 0, .settle, .sinkPush 3 0]).toVec = [1, 2] := by
  decide

/-- An accumulator stays shared along a run exactly until it is settled or its items are
taken out; after that it never shares again. -/
theorem isShared_runAll (h : b.Coherent) (commands : List AccumulatorCommand) :
    (b.runAll commands).isShared = true ↔
      b.isShared = true ∧ .settle ∉ commands ∧ .take ∉ commands := by
  induction commands generalizing b with
  | nil => simp [runAll]
  | cons command rest ih =>
    simp only [runAll, ih (h.step command), isShared_step h, List.mem_cons, not_or]
    tauto

/-- The laws of the sequential model for the bench `b` reached from a fresh accumulator by
`commands`. -/
structure SequentialModel (concurrent : Bool) (commands : List AccumulatorCommand)
    (b : LayoutBench) : Prop where
  /-- The items are the owner's pushes and the pushes through held sinks made while the
  accumulator was shared, in the order they were made. -/
  toVec_eq : b.toVec = ((new concurrent).trace commands).filterMap fun p => p.1.landed p.2
  len_eq : b.len = b.toVec.length
  last_eq : b.last = b.toVec.getLast?
  /-- Taking the items out hands over exactly these items. -/
  take_eq : (b.step .take).1 = .items b.toVec
  /-- Settling keeps the items and lays the accumulator out plain. -/
  settle_toVec : (b.step .settle).2.toVec = b.toVec
  settle_isShared : (b.step .settle).2.isShared = false
  /-- A sink is handed out exactly while the accumulator is shared. -/
  sink_eq : (b.step .sink).1 = .flag b.isShared
  /-- It is shared exactly when it was made concurrent and has not been settled. -/
  isShared_iff : b.isShared = true ↔ concurrent = true ∧ .settle ∉ commands

/-- The sequential model of an accumulator. Start from a fresh accumulator, concurrent or
not, and carry out any commands short of taking the items out, which ends its life: the
owner's pushes, handing out, copying and dropping sinks, pushes through held sinks, and
settling. Then the accumulator reads back the owner's pushes and the pushes through sinks
made while it was shared, in order, with their number and the last of them; taking the
items out hands over the same items; settling keeps them and makes the accumulator plain;
and it hands out a sink exactly while it is shared, which is while it was made concurrent
and has not been settled. So after a settle, or from a plain start, no sink is handed out
and pushes through sinks handed out earlier are not read back. -/
theorem sequential_model (concurrent : Bool) (commands : List AccumulatorCommand)
    (htake : .take ∉ commands) :
    SequentialModel concurrent commands ((new concurrent).runAll commands) := by
  have hstart : (new concurrent).Coherent := coherent_new concurrent
  have hb : ((new concurrent).runAll commands).Coherent := hstart.runAll commands
  have hsettle : AccumulatorCommand.settle ≠ .take := by decide
  refine
    { toVec_eq := by simpa using toVec_runAll hstart htake
      len_eq := len_eq_length _
      last_eq := last_eq_getLast? _
      take_eq := step_take_fst hb
      settle_toVec := by simpa [landed] using toVec_step hb hsettle
      settle_isShared := ?_
      sink_eq := step_sink_fst hb
      isShared_iff := by simp [isShared_runAll hstart, htake] }
  simpa using (isShared_step hb .settle).not

/-- A concurrent accumulator pushed into by its owner and through a sink, settled, and then
pushed through the same sink again, which is no longer read back. -/
theorem sequential_model_settle_order :
    AccumulatorCommand.take ∉
        [.push 1, .sink, .sinkPush 2 0, .push 3, .settle, .sinkPush 9 0, .sink] ∧
      SequentialModel true [.push 1, .sink, .sinkPush 2 0, .push 3, .settle, .sinkPush 9 0, .sink]
        ((new true).runAll [.push 1, .sink, .sinkPush 2 0, .push 3, .settle, .sinkPush 9 0, .sink]) :=
  ⟨by decide, sequential_model true _ (by decide)⟩

end LayoutBench

end Resilience

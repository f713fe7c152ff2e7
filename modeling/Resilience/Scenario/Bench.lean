import Resilience.Outcome.Basic
import Resilience.Accumulator.Layout

/-!
# Benches

A bench drives an outcome or an accumulator directly, command by command, holding the sinks
it has been handed. A sink is usable while it is held; pushing through one reaches the
accumulator only while the accumulator is still shared, so a bench over `Accumulator` needs
to remember only how many sinks it holds. The accumulator bench proper keeps the layout in
memory instead, each sink with the address it pushes into, and carries out commands as the
accumulator does; that it behaves as the counting bench is proved of every run.

## Main definitions

* `BenchResult`: What a command reports besides the new state.
* `OutcomeCommand`, `OutcomeBench`, `OutcomeBench.step`: Outcomes of signed 64-bit values.
* `AccumulatorCommand`, `AccumulatorBench`, `AccumulatorBench.step`: Accumulators of signed
  64-bit values, with the sinks counted.
* `LayoutBench`, `LayoutBench.step`: The same accumulators laid out in memory.
-/

namespace Resilience

/-- What a command reports besides the new state. -/
inductive BenchResult where
  | nothing
  | flag (value : Bool)
  | noSink
  | value (value : Option Int64)
  | items (items : List Int64)

/-- A command on an outcome. -/
inductive OutcomeCommand where
  | addError (fault : Fault)
  | sink
  | sinkPush (fault : Fault) (sink : Nat)
  | setFailed (reason : FailedReason)
  | setFailedWith (fault : Fault) (reason : FailedReason)
  | setCanceled
  | setFailedAndCanceled (fault : Fault)
  | setOk
  | setFilterUnsatisfied
  | addCatchBlockError (fault : Fault) (critical : Bool)
  | addHandlingError (fault : Fault) (index : Nat)
  | setValue (value : Int64)
  | takeValue
  | settle

/-- An outcome and the number of sinks of its error list held. -/
structure OutcomeBench where
  outcome : Outcome Int64
  sinks : Nat := 0

namespace OutcomeBench

/-- Carry out one command. -/
def step (bench : OutcomeBench) : OutcomeCommand → BenchResult × OutcomeBench
  | .addError fault => (.nothing, { bench with outcome := bench.outcome.modifyState (·.addError fault) })
  | .sink =>
    if bench.outcome.state.errors.hasSink then (.flag true, { bench with sinks := bench.sinks + 1 })
    else (.flag false, bench)
  | .sinkPush fault sink =>
    if sink < bench.sinks then
      (.nothing, { bench with outcome := bench.outcome.modifyState (·.pushThroughSink fault) })
    else (.noSink, bench)
  | .setFailed reason =>
    (.nothing, { bench with outcome := bench.outcome.modifyState (·.setFailed reason) })
  | .setFailedWith fault reason =>
    (.nothing, { bench with outcome := bench.outcome.modifyState (·.setFailedWith fault reason) })
  | .setCanceled => (.nothing, { bench with outcome := bench.outcome.modifyState (·.setCanceled) })
  | .setFailedAndCanceled fault =>
    (.nothing, { bench with outcome := bench.outcome.modifyState (·.setFailedAndCanceled fault) })
  | .setOk => (.nothing, { bench with outcome := bench.outcome.modifyState (·.setOk) })
  | .setFilterUnsatisfied =>
    (.nothing, { bench with outcome := bench.outcome.modifyState (·.setFilterUnsatisfied) })
  | .addCatchBlockError fault critical =>
    (.nothing, { bench with outcome := bench.outcome.modifyState (·.addCatchBlockError ⟨fault, critical⟩) })
  | .addHandlingError fault index =>
    (.nothing, { bench with outcome := bench.outcome.modifyState (·.addHandlingError ⟨fault, index⟩) })
  | .setValue value => (.nothing, { bench with outcome := bench.outcome.setValue value })
  | .takeValue =>
    let (value, outcome) := bench.outcome.takeValue
    (.value value, { bench with outcome })
  | .settle => (.nothing, { bench with outcome := bench.outcome.modifyState (·.settle) })

end OutcomeBench

/-- A command on an accumulator. -/
inductive AccumulatorCommand where
  | push (item : Int64)
  | sink
  | cloneSink (sink : Nat)
  | sinkPush (item : Int64) (sink : Nat)
  | dropSinks
  | settle
  | take
  deriving DecidableEq

/-- An accumulator and the number of its sinks held. -/
structure AccumulatorBench where
  acc : Accumulator Int64
  sinks : Nat := 0

namespace AccumulatorBench

/-- Carry out one command. -/
def step (bench : AccumulatorBench) : AccumulatorCommand → BenchResult × AccumulatorBench
  | .push item => (.nothing, { bench with acc := bench.acc.push item })
  | .sink =>
    if bench.acc.hasSink then (.flag true, { bench with sinks := bench.sinks + 1 })
    else (.flag false, bench)
  | .cloneSink sink =>
    if sink < bench.sinks then (.nothing, { bench with sinks := bench.sinks + 1 })
    else (.noSink, bench)
  | .sinkPush item sink =>
    if sink < bench.sinks then (.nothing, { bench with acc := bench.acc.pushThroughSink item })
    else (.noSink, bench)
  | .dropSinks => (.nothing, { bench with sinks := 0 })
  | .settle => (.nothing, { bench with acc := bench.acc.settle })
  | .take =>
    let (items, acc) := bench.acc.take
    (.items items, { bench with acc })

end AccumulatorBench

/-- An accumulator as laid out in memory, the store of locked lists, and the sinks held in
the order they were handed out. -/
structure LayoutBench where
  layout : Accumulator.Layout Int64
  store : Accumulator.Store Int64 := {}
  sinks : List Accumulator.Sink := []

namespace LayoutBench

/-- A bench over a fresh accumulator. -/
def new (concurrent : Bool) : LayoutBench :=
  let (layout, store) := Accumulator.Layout.new concurrent {}
  { layout, store }

/-- Whether some held sink points at an address. -/
def holds (bench : LayoutBench) (cell : Nat) : Bool := bench.sinks.any (·.cell == cell)

/-- Whether pushes go through a lock. -/
def isShared (bench : LayoutBench) : Bool := bench.layout.isShared

/-- The items in push order. -/
def toVec (bench : LayoutBench) : List Int64 := bench.layout.toVec bench.store

/-- The number of items. -/
def len (bench : LayoutBench) : Nat := bench.layout.len bench.store

/-- Whether nothing has been collected. -/
def isEmpty (bench : LayoutBench) : Bool := bench.layout.isEmpty bench.store

/-- The most recently pushed item. -/
def last (bench : LayoutBench) : Option Int64 := bench.layout.last bench.store

/-- Carry out one command. Taking the items out leaves a fresh plain accumulator. -/
def step (bench : LayoutBench) : AccumulatorCommand → BenchResult × LayoutBench
  | .push item =>
    let (layout, store) := bench.layout.push item bench.store
    (.nothing, { bench with layout, store })
  | .sink =>
    match bench.layout.sink with
    | some sink => (.flag true, { bench with sinks := bench.sinks ++ [sink] })
    | none => (.flag false, bench)
  | .cloneSink index =>
    match bench.sinks[index]? with
    | some sink => (.nothing, { bench with sinks := bench.sinks ++ [sink] })
    | none => (.noSink, bench)
  | .sinkPush item index =>
    match bench.sinks[index]? with
    | some sink => (.nothing, { bench with store := sink.push item bench.store })
    | none => (.noSink, bench)
  | .dropSinks => (.nothing, { bench with sinks := [] })
  | .settle =>
    let (layout, store) := bench.layout.settle bench.store bench.holds
    (.nothing, { bench with layout, store })
  | .take =>
    let (items, store) := bench.layout.intoVec bench.store bench.holds
    (.items items, { bench with layout := .plain [], store })

end LayoutBench

end Resilience

import Resilience.Scenario.Spec

/-!
# Sessions

A session exercises built policies and chains one run after another. The journal carries
over from run to run, so call counters and observer tallies keep counting, while every run
gets a fresh token (cancelled first when asked) and an empty list of events.

A policy session builds one policy and one operation and runs the policy on the operation
a number of times. A chain session keeps a chain and changes it command by command; a
refused command leaves the chain as it was, and a run reports the chain's result with the
aggregate its builder makes of it.

## Main definitions

* `RunReport`: One run's outcome, events and final token.
* `Session.run`: One run of a policy.
* `PolicySession`, `PolicySession.start`: Policy sessions.
* `ChainCommand`, `ChainAnswer`, `ChainSession`, `ChainSession.step`: Chain sessions.
-/

namespace Resilience

/-- One run of a policy: its outcome, the events of the run, and whether the token ended
cancelled. -/
structure RunReport (α : Type) where
  outcome : Outcome α
  events : List Event
  tokenCancelled : Bool

namespace Journal

/-- Make room for the tallies of `count` observers. -/
def withTallies (journal : Journal) (count : Nat) : Journal :=
  { journal with tallies := journal.tallies ++
      Array.replicate (count - journal.tallies.size) ({} : RetryStats) }

/-- The counting observers with their tallies, in the order they were built. -/
def observers (journal : Journal) (labels : Array String) : List (String × RetryStats) :=
  labels.toList.zipIdx.map fun (label, index) => (label, journal.tallies.getD index {})

end Journal

namespace Session

/-- Run an action with a fresh token, cancelled first when asked, and no events yet. The
random numbers the run draws show in no answer; every run draws from the same ones. -/
def fresh {β : Type} (cancelled : Bool) (action : Stage β) (journal : Journal) :
    β × Bool × Journal :=
  let (result, scene) := action.run
    { cancelled, journal := { journal with events := #[] }, random := fun n => n }
  (result, scene.cancelled, scene.journal)

/-- One run of a policy on an operation. -/
def run {t : ValueType} (policy : Policy Journal t) (ex : Execution)
    (op : Operation Journal t.Carrier) (cancelled : Bool) (journal : Journal) :
    RunReport t.Carrier × Journal :=
  let (outcome, tokenCancelled, journal) := fresh cancelled (policy.handle ex op) journal
  ({ outcome, events := journal.events.toList, tokenCancelled }, journal)

end Session

/-- A policy run several times on one operation. -/
structure PolicySession (t : ValueType) where
  core : PolicyCore Journal
  runs : List (RunReport t.Carrier)
  observers : List (String × RetryStats)

namespace PolicySession

/-- Run the policy `count` times, the journal carrying over. -/
def runTimes {t : ValueType} (policy : Policy Journal t) (ex : Execution)
    (op : Operation Journal t.Carrier) (cancelled : Bool) :
    Nat → Journal → List (RunReport t.Carrier) × Journal
  | 0, journal => ([], journal)
  | count + 1, journal =>
    let (report, journal) := Session.run policy ex op cancelled journal
    let (reports, journal) := runTimes policy ex op cancelled count journal
    (report :: reports, journal)

/-- Build the policy and the operation once, then run the policy `count` times. -/
def start {t : ValueType} (spec : PolicySpec t) (script : OperationScript t.Carrier)
    (ex : Execution) (cancelled : Bool) (count : Nat) :
    Except StructuralError (PolicySession t) :=
  let build : Build (Policy Journal t × Operation Journal t.Carrier) := do
    let policy ← spec.build
    return (policy, ← LeafSpec.buildOperation script)
  match build.run.run {} with
  | (.error e, _) => .error e
  | (.ok (policy, op), workshop) =>
    let journal := ({} : Journal).withTallies workshop.observers.size
    let (runs, journal) := runTimes policy ex op cancelled count journal
    .ok { core := policy.core, runs, observers := journal.observers workshop.observers }

end PolicySession

/-- A change to a chain, or a run of it. -/
inductive ChainCommand (t : ValueType) where
  | push (policy : PolicySpec t) (operation : Option (OperationScript t.Carrier))
  | withPolicy (policy : PolicySpec t)
  | withBound (policy : PolicySpec t) (operation : OperationScript t.Carrier)
  | bindLast (operation : OperationScript t.Carrier)
  | andOperation (operation : OperationScript t.Carrier)
  | ofElements (elements : List (ElementSpec t))
  | configure (throwOnLastFailed : Option Bool) (executor : Option Executor)
      (aggregate : Option AggregateBuilder)
  | run (drive : Execution) (cancelled : Bool)
  | info

/-- The answer to a chain command. -/
inductive ChainAnswer (α : Type) where
  /-- The command was carried out. -/
  | done
  /-- The command was refused; the chain is as it was. -/
  | refused (error : StructuralError)
  /-- The chain ran: its result, the aggregate of it, the events and the final token. -/
  | ran (result : ChainRun α) (aggregate : Aggregate) (events : List Event)
      (tokenCancelled : Bool)
  /-- The run was refused or reported failure as an error. -/
  | failed (error : StructuralError) (events : List Event) (tokenCancelled : Bool)

/-- A chain changed command by command, with the journal and the build state carrying
over. -/
structure ChainSession (t : ValueType) where
  chain : Chain Journal t := {}
  journal : Journal := {}
  workshop : Workshop := {}

namespace ChainSession

variable {t : ValueType}

/-- Build something in the session; the journal makes room for new observers. -/
def build {β : Type} (s : ChainSession t) (b : Build β) :
    Except StructuralError β × ChainSession t :=
  let (result, workshop) := b.run.run s.workshop
  (result, { s with workshop, journal := s.journal.withTallies workshop.observers.size })

/-- Build a change and apply it to the chain; a refused change leaves the chain alone. -/
def change (s : ChainSession t) (b : Build (Chain Journal t → Except StructuralError (Chain Journal t))) :
    ChainAnswer t.Carrier × ChainSession t :=
  match s.build b with
  | (.error e, s) => (.refused e, s)
  | (.ok f, s) =>
    match f s.chain with
    | .error e => (.refused e, s)
    | .ok chain => (.done, { s with chain })

/-- Carry out one command. -/
def step (s : ChainSession t) : ChainCommand t → ChainAnswer t.Carrier × ChainSession t
  | .push policy operation => s.change do
    let policy ← policy.build
    let operation ← match operation with
      | some script => some <$> LeafSpec.buildOperation script
      | none => pure none
    return fun c => c.push { policy, operation }
  | .withPolicy policy => s.change do
    let policy ← policy.build
    return fun c => c.withPolicy policy
  | .withBound policy operation => s.change do
    let policy ← policy.build
    let op ← LeafSpec.buildOperation operation
    return fun c => c.withBound policy op
  | .bindLast operation => s.change do
    let op ← LeafSpec.buildOperation operation
    return fun c => c.bindLast op
  | .andOperation operation => s.change do
    let op ← LeafSpec.buildOperation operation
    return fun c => c.bindLast op
  | .ofElements elements => s.change do
    let elements ← ElementSpec.buildAll elements
    return fun _ => Chain.ofElements elements
  | .configure throwOnLastFailed executor aggregate =>
    let c := s.chain
    let c := { c with throwOnLastFailed := throwOnLastFailed.getD c.throwOnLastFailed
                      executor := executor.getD c.executor
                      aggregate := aggregate.getD c.aggregate }
    (.done, { s with chain := c })
  | .run drive cancelled =>
    let (result, tokenCancelled, journal) := Session.fresh cancelled (s.chain.handleAll drive) s.journal
    let s := { s with journal }
    let events := journal.events.toList
    match result with
    | .ok run => (.ran run.toRun (s.chain.aggregateOf run.toRun) events tokenCancelled, s)
    | .error e => (.failed e events tokenCancelled, s)
  | .info => (.done, s)

/-- The counting observers built so far, with their tallies. -/
def observers (s : ChainSession t) : List (String × RetryStats) :=
  s.journal.observers s.workshop.observers

end ChainSession

end Resilience

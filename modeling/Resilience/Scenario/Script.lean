import Resilience.Policy.Leaf

/-!
# Scripted callbacks

Scenarios exercise the library with callbacks that follow a script. Every callback has a
call counter, and call number `n` follows step `min n k` of its `k` steps, so the last step
repeats. Every call appends an event to the journal, in the order the calls happen.

* A scripted operation records its call and whether the token is cancelled, cancels the
  token if its step says so, and returns the step's value or fault. An operation whose
  script never cancels does not look at the token, and records it as not cancelled.
* A scripted bulk step records the message of the error it processes and the token, may
  cancel the token, and returns its step's fault or succeeds.
* A scripted handler records the context it sees and the token, asks for the outcome to be
  marked failed or canceled as its step says, may cancel the token, and returns its step's
  fault or succeeds.
* A counting observer adds each report of a retry policy to its tallies.

The journal keeps the counters by callback, the events of the current run, and the
tallies by observer.

## Main definitions

* `Event`, `Journal`, `Stage`: What scripted callbacks record, and the world they act in.
* `Reply`, `OperationScript`, `SideStep`: Scripts.
* `OperationScript.toOperation`, `SideStep.toBulkStep`, `SideStep.toHandler`,
  `countingObserver`: Callbacks from scripts.
-/

namespace Resilience

/-- What a scripted callback records when it is called. -/
inductive Event where
  /-- Operation `label` was called for the `n`-th time. -/
  | call (label : String) (n : Nat) (cancelled : Bool)
  /-- Bulk step `label` processed an error for the `n`-th time. -/
  | processor (label : String) (n : Nat) (error : String) (cancelled : Bool)
  /-- Handler `label` ran for the `n`-th time and saw the context. -/
  | handler (label : String) (n : Nat) (context : HandlerContext) (cancelled : Bool)

/-- The journal of scripted callbacks: call counters by callback, the events of the
current run, and the tallies of counting observers. -/
structure Journal where
  calls : Array Nat := #[]
  events : Array Event := #[]
  tallies : Array RetryStats := #[]

/-- The world scripted callbacks act in. -/
abbrev Stage := Act Journal

namespace Journal

/-- Count one more call of callback `id` and return its number. -/
def nextCall (id : Nat) : Stage Nat := do
  let scene ← get
  let n := scene.journal.calls.getD id 0 + 1
  let calls := if id < scene.journal.calls.size then scene.journal.calls.set! id n
    else (scene.journal.calls ++ Array.replicate (id - scene.journal.calls.size) 0).push n
  set { scene with journal := { scene.journal with calls } }
  return n

/-- Append an event. -/
def record (event : Event) : Stage Unit :=
  modify fun scene => { scene with journal := { scene.journal with
    events := scene.journal.events.push event } }

/-- Count a report in the tallies of observer `index`. -/
def tally (index : Nat) (report : RetryEvent) : Stage Unit :=
  modify fun scene => { scene with journal := { scene.journal with
    tallies := scene.journal.tallies.modify index (·.record report) } }

end Journal

/-- One scripted result: a value or a fault, and whether to cancel the token first. -/
structure Reply (α : Type) where
  result : Except Fault α
  cancel : Bool := false

/-- The step a callback with `k` steps follows on call `n`: step `min n k`, counted from
one. -/
def Reply.pick {β : Type} [Inhabited β] (steps : List β) (n : Nat) : β :=
  steps.getD (min n steps.length - 1) default

instance {α : Type} : Inhabited (Reply α) := ⟨{ result := .error (.msg "") }⟩

/-- A scripted operation. `tokenAware` says whether it looks at the token at all. -/
structure OperationScript (α : Type) where
  label : String
  steps : List (Reply α)
  kind : OperationKind
  target : Target
  tokenAware : Bool

/-- The operation that follows the script, counting its calls as callback `id`. -/
def OperationScript.toOperation {α : Type} (script : OperationScript α) (id : Nat) :
    Operation Journal α :=
  { target := script.target
    kind := script.kind
    call := do
      let n ← Journal.nextCall id
      let cancelled ← Act.isCancelled
      Journal.record (.call script.label n (script.tokenAware && cancelled))
      let reply := Reply.pick script.steps n
      if reply.cancel then Act.cancel
      return reply.result }

/-- One scripted step of a bulk step or a handler. -/
structure SideStep where
  cancel : Bool := false
  error : Option Fault := none
  setFailed : Bool := false
  setCanceled : Bool := false

instance : Inhabited SideStep := ⟨{}⟩

/-- The result a side step returns. -/
def SideStep.result (step : SideStep) : Except Fault Unit :=
  match step.error with
  | some fault => .error fault
  | none => .ok ()

/-- The bulk step that follows the steps, counting its calls as callback `id`. Without
steps it always succeeds. -/
def SideStep.toBulkStep (label : String) (kind : OperationKind) (steps : List SideStep)
    (id : Nat) : BulkStep Journal :=
  { kind
    run := fun fault => do
      let n ← Journal.nextCall id
      let cancelled ← Act.isCancelled
      Journal.record (.processor label n fault.message cancelled)
      let step := Reply.pick steps n
      if step.cancel then Act.cancel
      return step.result }

/-- The handler that follows the steps, counting its calls as callback `id`. Without steps
it always succeeds and asks for nothing. -/
def SideStep.toHandler (label : String) (kind : OperationKind) (steps : List SideStep)
    (id : Nat) : Handler Journal :=
  { kind
    run := fun context => do
      let n ← Journal.nextCall id
      let cancelled ← Act.isCancelled
      Journal.record (.handler label n context cancelled)
      let step := Reply.pick steps n
      if step.cancel then Act.cancel
      return { result := step.result, setFailed := step.setFailed
               setCanceled := step.setCanceled } }

/-- The observer that counts reports in the tallies of observer `index`. -/
def countingObserver (index : Nat) : RetryEvent → Stage Unit := Journal.tally index

end Resilience

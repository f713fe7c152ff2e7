import Resilience.Scenario.Script
import Resilience.Chain.Build
import Resilience.Config.Yaml
import Resilience.Config.Build

/-!
# Scenario specifications

A scenario describes the policies it exercises as data: which leaf, how it is configured,
which scripted callbacks it carries, and how leaves are wrapped around inner policies and
chains. Building a specification gives every scripted callback a call counter of its own
and every counting observer a place among the tallies, in the order they are built: a
wrapping leaf before what it wraps, and a chain's elements from first to last.

A leaf is configured in a fixed order: its name, a filter replacing the default one, the
predicates to include, the predicates to exclude, the bulk steps, and the handlers; a retry
leaf then takes its jitter and observer, and a fallback leaf its fallbacks. A leaf built
from configuration text is configured the same way once the text is read; text that does
not read or validate fails the build.

## Main definitions

* `Workshop`, `Build`: The state of a build: the next callback and the observers so far.
* `ObserverSpec`, `ProcessorSpec`, `HandlerSpec`, `FallbackSpec`, `LeafSpec`: Leaves.
* `PolicySpec`, `ElementSpec`, `ChainOptions`: Trees and chains.
* `PolicySpec.build`, `ElementSpec.build`: Building.
* `AggregateBuilder.counting`: An aggregate builder that counts failed steps.
-/

namespace Resilience

/-- The state of a build: the next free callback and the labels of the counting observers
built so far. -/
structure Workshop where
  nextId : Nat := 0
  observers : Array String := #[]

/-- A build that may fail with a structural error. -/
abbrev Build := ExceptT StructuralError (StateM Workshop)

namespace Workshop

/-- A callback counter of its own. -/
def freshId : Build Nat := do
  let w ← get
  set { w with nextId := w.nextId + 1 }
  return w.nextId

/-- A place among the tallies for a counting observer with the label. -/
def addObserver (label : String) : Build Nat := do
  let w ← get
  set { w with observers := w.observers.push label }
  return w.observers.size

end Workshop

/-- Which observer a retry leaf gets. -/
inductive ObserverSpec where
  /-- Keep the default, which observes nothing. -/
  | keep
  /-- An observer with no visible effect. -/
  | silent
  /-- A counting observer, reported under the label, else the policy's name, else
  `retry`. -/
  | counting (label : Option String)

/-- A scripted bulk step, or one that only logs and always succeeds. -/
structure ProcessorSpec where
  label : String := "processor"
  kind : OperationKind := .sync
  steps : List SideStep := []
  logging : Bool := false

/-- A scripted handler. -/
structure HandlerSpec where
  label : String := "handler"
  kind : OperationKind := .sync
  steps : List SideStep := []

/-- A scripted fallback for a value type. -/
structure FallbackSpec where
  type : ValueType
  script : OperationScript type.Carrier

/-- Which leaf to start from. -/
inductive LeafBase where
  | retry (settings : RetrySettings)
  | simple
  | fallback
  /-- The policy configured under `name` in the YAML text. -/
  | config (yaml : String) (name : String)

/-- A leaf and its configuration. -/
structure LeafSpec where
  base : LeafBase
  name : Option String := none
  filter : Option ErrorFilter := none
  included : List Predicate := []
  excluded : List Predicate := []
  processors : List ProcessorSpec := []
  handlers : List HandlerSpec := []
  jitter : Option Bool := none
  observer : ObserverSpec := .keep
  fallbacks : List FallbackSpec := []

/-- The options of a chain. -/
structure ChainOptions where
  throwOnLastFailed : Bool := false
  executor : Executor := .inline
  aggregate : AggregateBuilder := AggregateBuilder.standard

mutual

/-- A policy tree producing values of type `t`. -/
inductive PolicySpec (t : ValueType) where
  | leaf (spec : LeafSpec)
  | wrapPolicy (outer : LeafSpec) (inner : PolicySpec t)
  | wrapChain (outer : LeafSpec) (elements : List (ElementSpec t)) (options : ChainOptions)
      (mode : FailureMode)

/-- A chain element: a policy and, if bound, its scripted operation. -/
structure ElementSpec (t : ValueType) where
  policy : PolicySpec t
  operation : Option (OperationScript t.Carrier) := none

end

/-- The counting aggregate builder: "`{steps} steps, {failed} failed`", gathering the cause
of every step that has one. -/
def AggregateBuilder.counting : AggregateBuilder := fun steps =>
  { message := toString steps.length ++ " steps, " ++
      toString (steps.filter (·.failed)).length ++ " failed"
    errors := steps.filterMap StepSummary.cause? }

namespace LeafSpec

/-- A scripted operation with a callback counter of its own. -/
def buildOperation {α : Type} (script : OperationScript α) : Build (Operation Journal α) := do
  return script.toOperation (← Workshop.freshId)

/-- The bulk step of a processor specification; a logging one names the policy it logs
for and always succeeds. -/
def buildStep (spec : ProcessorSpec) : Build (BulkStep Journal) := do
  if spec.logging then return BulkStep.logging
  return SideStep.toBulkStep spec.label spec.kind spec.steps (← Workshop.freshId)

/-- The handler of a handler specification. -/
def buildHandler (spec : HandlerSpec) : Build (Handler Journal) := do
  return SideStep.toHandler spec.label spec.kind spec.steps (← Workshop.freshId)

/-- Configure a leaf: name, filter, included and excluded predicates, bulk steps,
handlers, then jitter and observer of a retry leaf and the fallbacks of a fallback
leaf. -/
def configure (spec : LeafSpec) (leaf : Leaf Journal) : Build (Leaf Journal) := do
  let leaf := match spec.name with
    | some name => leaf.named name
    | none => leaf
  let leaf := match spec.filter with
    | some filter => leaf.withFilter filter
    | none => leaf
  let leaf := spec.included.foldl Leaf.includePredicate leaf
  let leaf := spec.excluded.foldl Leaf.excludePredicate leaf
  let mut leaf := leaf
  for processor in spec.processors do
    leaf := leaf.withStep (← buildStep processor)
  for handler in spec.handlers do
    leaf := leaf.withHandler (← buildHandler handler)
  if let .retry _ _ _ := leaf.strategy then
    if let some jitter := spec.jitter then leaf := leaf.withJitter jitter
    match spec.observer with
    | .counting label =>
      let index ← Workshop.addObserver (label.getD (spec.name.getD "retry"))
      leaf := leaf.withObserver (countingObserver index)
    | .silent => leaf := leaf.withObserver fun _ => pure ()
    | .keep => pure ()
  if let .fallback _ := leaf.strategy then
    for fallback in spec.fallbacks do
      leaf := leaf.withFallback fallback.type (← buildOperation fallback.script)
  return leaf

/-- The leaf a specification starts from. -/
def baseLeaf (spec : LeafSpec) : Build (Leaf Journal) :=
  match spec.base with
  | .retry settings => pure (.retry settings)
  | .simple => pure .simple
  | .fallback => pure .fallback
  | .config yaml name => do
    let c ← liftExcept (PoliciesConfig.ofYaml yaml)
    return (c.build name).leaf

/-- The leaf of a specification. -/
def build (spec : LeafSpec) : Build (Leaf Journal) := do
  spec.configure (← spec.baseLeaf)

end LeafSpec

mutual

/-- Build a policy tree: a wrapping leaf before what it wraps. A wrapped chain must hold a
consistent, non-empty list of elements. -/
def PolicySpec.build {t : ValueType} : PolicySpec t → Build (Policy Journal t)
  | .leaf spec => return .leaf (← spec.build)
  | .wrapPolicy outer inner => do
    let outer ← outer.build
    return .wrapPolicy outer (← inner.build)
  | .wrapChain outer elements options mode => do
    let outer ← outer.build
    let elements ← ElementSpec.buildAll elements
    let chain ← liftExcept (Chain.ofElements elements)
    let chain := { chain with throwOnLastFailed := options.throwOnLastFailed
                              executor := options.executor
                              aggregate := options.aggregate }
    if chain.isEmpty then throw .emptyCollection
    return .wrapChain outer chain mode

/-- Build chain elements from first to last. -/
def ElementSpec.buildAll {t : ValueType} : List (ElementSpec t) → Build (List (Element Journal t))
  | [] => return []
  | ⟨policy, operation⟩ :: rest => do
    let policy ← policy.build
    let operation ← match operation with
      | some script => some <$> LeafSpec.buildOperation script
      | none => pure none
    return { policy, operation } :: (← ElementSpec.buildAll rest)

end

end Resilience

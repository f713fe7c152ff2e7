import Resilience.Config.Settings
import Resilience.Chain.Build

/-!
# Policies from configuration

Building the policy configured under a name takes the name's settings, or the defaults. A
retry policy gets the retry settings and the jitter flag, and when errors are logged an
observer that only logs. Every policy is then named after the name it was built for,
handles only errors whose message contains one of the configured texts when texts are
given, and logs every handled error when asked to.

A configured collection binds the given operations to its policies in order. It needs one
operation per policy, or one fewer to leave the last element open for a wrapping policy.

## Main definitions

* `ConfiguredPolicy`: A policy built from configuration, with its kind.
* `PoliciesConfig.build`: The policy configured under a name.
* `PoliciesConfig.collection`: The collection configured under a name.
-/

namespace Resilience

/-- A policy built from configuration: which kind it is, and the leaf. -/
structure ConfiguredPolicy (σ : Type) where
  kind : PolicyKind
  leaf : Leaf σ

namespace PoliciesConfig

variable {σ : Type}

/-- The policy configured under a name. -/
def build (c : PoliciesConfig) (name : String) : ConfiguredPolicy σ :=
  let s := c.settings name
  let base : Leaf σ := match s.kind with
    | .retry =>
      let leaf := (Leaf.retry s.retry).withJitter s.jitter
      if s.logErrors then leaf.withObserver fun _ => pure () else leaf
    | .fallback => .fallback
    | .simple => .simple
  let leaf := base.named name
  let leaf := if s.handleMessages.isEmpty then leaf
    else leaf.includePredicate (Predicate.ofMessages s.handleMessages)
  let leaf := if s.logErrors then leaf.withStep BulkStep.logging else leaf
  { kind := s.kind, leaf }

/-- The retry policy configured under a name, or the error that it is not one. -/
def retryPolicy (c : PoliciesConfig) (name : String) : Except StructuralError (Leaf σ) :=
  let p : ConfiguredPolicy σ := c.build name
  match p.kind with
  | .retry => .ok p.leaf
  | _ => .error (.invalidConfig ("policy '" ++ name ++ "' is not a retry policy"))

/-- The collection configured under a name, binding the operations to its policies in
order. -/
def collection {t : ValueType} (c : PoliciesConfig) (name : String)
    (operations : List (Operation σ t.Carrier)) : Except StructuralError (Chain σ t) := do
  let some settings := c.collections.lookup name
    | throw (.invalidConfig ("unknown collection '" ++ name ++ "'"))
  let count := settings.policies.length
  if operations.length != count && operations.length + 1 != count then
    throw (.invalidConfig ("collection '" ++ name ++ "' has " ++ toString count ++
      " policies but " ++ toString operations.length ++ " operations were given"))
  let elements := settings.policies.zipIdx.map fun (policy, i) =>
    ({ policy := .leaf (c.build policy).leaf, operation := operations[i]? } : Element σ t)
  let chain ← Chain.ofElements elements
  return { chain with throwOnLastFailed := settings.throwOnLastFailed }

end PoliciesConfig

end Resilience

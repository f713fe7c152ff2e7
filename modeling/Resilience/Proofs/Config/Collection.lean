import Mathlib
import Resilience.Config.Build
import Resilience.Proofs.Chain.Consistency

/-!
# Collections built from configuration

A configured collection is asked for by name with a list of operations. The name must be a
configured collection, and the operations must match its policies one for one, or leave the
last policy without one, so that a wrapping policy can bind it later. Those are the only
two refusals: past them the collection is always built, and building it from its elements
cannot fail.

That last point is where the two checks meet. Chaining elements refuses an open element
that is not the last (`Chain.ofElements_eq_error_iff`), and the operations are bound to the
policies in order, so with as many operations as policies every element is bound, and with
one fewer only the last is open. The chaining check never fires, and the collection holds
exactly one element per configured policy, the policy built by name from the configuration
and bound to the operation at its position if there is one.

Building a policy by name never fails either: a name that is not configured gets the
default settings, and the policy is still named after the name it was built for.

## Main definitions

* `PoliciesConfig.boundElements`: The elements a configured collection chains.

## Theorems

* `PoliciesConfig.build_name`, `PoliciesConfig.build_kind`, `PoliciesConfig.build_strategy_retry`:
  What building a policy by name gives.
* `PoliciesConfig.collection_of_unknown`, `PoliciesConfig.collection_of_miscount`: The two
  refusals.
* `PoliciesConfig.boundElements_bound`: With at most one operation missing, only the last
  element is open.
* `PoliciesConfig.collection_of_fits`: Past the refusals, the collection of the configured
  policies bound to the operations in order.
* `PoliciesConfig.collection_binds_in_order`: All of it.
-/

namespace Resilience

namespace PoliciesConfig

variable {σ : Type} {t : ValueType} (c : PoliciesConfig)

/-! ### Policies built by name -/

/-- A policy built by name is named after that name, configured or not. -/
@[simp]
theorem build_name (name : String) :
    (c.build name : ConfiguredPolicy σ).leaf.core.name = name := by
  dsimp only [build]
  split_ifs <;> simp [Leaf.named, Leaf.includePredicate, Leaf.withStep, Leaf.modifyProcessor]

@[simp]
theorem build_kind (name : String) :
    (c.build name : ConfiguredPolicy σ).kind = (c.settings name).kind :=
  rfl

/-- A retry policy built by name runs with the retry settings and jitter of the name, and
an observer that does nothing visible. -/
theorem build_strategy_retry (name : String) (h : (c.settings name).kind = .retry) :
    (c.build name : ConfiguredPolicy σ).leaf.strategy =
      .retry (c.settings name).retry (c.settings name).jitter fun _ => pure () := by
  dsimp only [build]
  simp only [h]
  split_ifs <;> simp [Leaf.named, Leaf.includePredicate, Leaf.withStep, Leaf.modifyProcessor,
    Leaf.retry, Leaf.withJitter, Leaf.withObserver]

/-! ### Configured collections -/

variable {c} {name : String} {ops : List (Operation σ t.Carrier)}

/-- The collection of a name that is not configured is refused. -/
theorem collection_of_unknown (h : c.collections.lookup name = none) :
    c.collection name ops = .error (.invalidConfig ("unknown collection '" ++ name ++ "'")) := by
  simp [collection, h, throw, throwThe, MonadExceptOf.throw]

/-- A collection given neither one operation per policy nor one fewer is refused. -/
theorem collection_of_miscount {settings : CollectionSettings}
    (h : c.collections.lookup name = some settings)
    (hcount : ops.length ≠ settings.policies.length ∧
      ops.length + 1 ≠ settings.policies.length) :
    c.collection name ops = .error (.invalidConfig ("collection '" ++ name ++ "' has " ++
      toString settings.policies.length ++ " policies but " ++ toString ops.length ++
      " operations were given")) := by
  simp [collection, h, hcount, throw, throwThe, MonadExceptOf.throw, bind, Except.bind]

/-- The elements a configured collection chains: each policy built by name, bound to the
operation at its position if there is one. -/
def boundElements (c : PoliciesConfig) (policies : List String)
    (ops : List (Operation σ t.Carrier)) : List (Element σ t) :=
  policies.zipIdx.map fun (policy, j) =>
    { policy := .leaf (c.build policy).leaf, operation := ops[j]? }

theorem getElem?_boundElements (policies : List String) (ops : List (Operation σ t.Carrier))
    (i : Nat) :
    (c.boundElements policies ops)[i]? = policies[i]?.map fun policy =>
      ({ policy := .leaf (c.build policy).leaf, operation := ops[i]? } : Element σ t) := by
  simp only [boundElements, List.getElem?_map, List.getElem?_zipIdx]
  cases policies[i]? <;> simp

@[simp]
theorem length_boundElements (policies : List String) (ops : List (Operation σ t.Carrier)) :
    (c.boundElements policies ops).length = policies.length := by
  simp [boundElements]

/-- With at most one policy more than there are operations, every element but the last is
bound. -/
theorem boundElements_bound {policies : List String} (hfits : policies.length ≤ ops.length + 1) :
    ∀ e ∈ (c.boundElements policies ops).dropLast, e.operation.isSome := by
  intro e he
  obtain ⟨i, hi, rfl⟩ := List.getElem_of_mem he
  have hdrop : (c.boundElements policies ops).dropLast.length = policies.length - 1 := by simp
  have hpolicy : i < policies.length := by omega
  have hops : i < ops.length := by omega
  -- the element at position `i` is the policy there, bound to the operation there
  have hget := c.getElem?_boundElements policies ops i
  rw [List.getElem?_eq_getElem (by simpa using hpolicy), List.getElem?_eq_getElem hpolicy,
    Option.map_some] at hget
  rw [List.getElem_dropLast, Option.some.inj hget]
  simp [hops]

/-- With one operation per policy, or one fewer, the collection is built: it holds the
policies built by name, bound to the operations in order, and only its last element may be
open. -/
theorem collection_of_fits {settings : CollectionSettings}
    (h : c.collections.lookup name = some settings)
    (hfits : ops.length = settings.policies.length ∨ ops.length + 1 = settings.policies.length) :
    ∃ chain, c.collection name ops = .ok chain ∧
      (∀ i : Nat, chain.elements[i]? = settings.policies[i]?.map fun policy =>
        ({ policy := .leaf (c.build policy).leaf, operation := ops[i]? } : Element σ t)) ∧
      chain.Consistent ∧ chain.throwOnLastFailed = settings.throwOnLastFailed := by
  -- every element but the last has an operation, so chaining them cannot be refused
  have hbound : ∀ e ∈ (c.boundElements settings.policies ops).dropLast, e.operation.isSome :=
    boundElements_bound (by omega)
  have hchain := Chain.ofElements_of_bound _ hbound
  refine ⟨{ elements := c.boundElements settings.policies ops
            throwOnLastFailed := settings.throwOnLastFailed },
    ?_, c.getElem?_boundElements _ _, hbound, rfl⟩
  have hcount : ¬(ops.length != settings.policies.length &&
      ops.length + 1 != settings.policies.length) = true := by
    simp only [Bool.and_eq_true, bne_iff_ne, ne_eq]
    omega
  unfold boundElements at hchain
  simp only [collection, h, hcount, hchain]
  rfl

/-- A configured collection is refused exactly when its name is not configured, or the
operations are neither one per policy nor one fewer; otherwise it holds, in order, one
element per configured policy, the policy built by name (with the name's kind and settings,
the default settings for a name that is not configured, and named after the name), bound to
the operation at its position, so that only the last element may be open; and it reports a
failed last step as the configuration says. -/
theorem collection_binds_in_order (c : PoliciesConfig) (name : String)
    (ops : List (Operation σ t.Carrier)) :
    (c.collections.lookup name = none →
      c.collection name ops = .error (.invalidConfig ("unknown collection '" ++ name ++ "'"))) ∧
    (∀ settings, c.collections.lookup name = some settings →
      (ops.length ≠ settings.policies.length ∧ ops.length + 1 ≠ settings.policies.length →
        c.collection name ops = .error (.invalidConfig ("collection '" ++ name ++ "' has " ++
          toString settings.policies.length ++ " policies but " ++ toString ops.length ++
          " operations were given"))) ∧
      (ops.length = settings.policies.length ∨ ops.length + 1 = settings.policies.length →
        ∃ chain, c.collection name ops = .ok chain ∧
          (∀ i : Nat, chain.elements[i]? = settings.policies[i]?.map fun policy =>
            ({ policy := .leaf (c.build policy).leaf, operation := ops[i]? } : Element σ t)) ∧
          chain.Consistent ∧ chain.throwOnLastFailed = settings.throwOnLastFailed)) ∧
    ∀ policy, (c.build policy : ConfiguredPolicy σ).leaf.core.name = policy ∧
      (c.build policy : ConfiguredPolicy σ).kind = (c.settings policy).kind ∧
      c.settings policy = (c.policies.lookup policy).getD c.defaults ∧
      ((c.settings policy).kind = .retry → (c.build policy : ConfiguredPolicy σ).leaf.strategy =
        .retry (c.settings policy).retry (c.settings policy).jitter fun _ => pure ()) :=
  ⟨collection_of_unknown, fun _ h => ⟨collection_of_miscount h, collection_of_fits h⟩,
    fun policy =>
      ⟨c.build_name policy, c.build_kind policy, rfl, c.build_strategy_retry policy⟩⟩

end PoliciesConfig

end Resilience

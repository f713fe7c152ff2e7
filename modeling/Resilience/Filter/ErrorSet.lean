import Resilience.Fault.Basic

/-!
# Error sets

An error set names runtime types a policy handles in one batch. Each entry is a type and a
flag: a plain entry matches a fault whose outermost layer has that type, an inner entry a
fault with a cause of that type. Entries keep the order in which they were first
registered, and registering a (type, flag) pair a second time changes nothing, so a union
appends the other set's new entries in its order.

## Main definitions

* `ErrorSet`: The entries in registration order.
* `ErrorSet.insert`, `ErrorSet.withType`, `ErrorSet.withInner`, `ErrorSet.union`: Building.
* `ErrorSet.contains`: Whether a type is registered as a plain entry.
* `ErrorSet.test`: Whether some entry matches a fault.
-/

namespace Resilience

/-- One registered type: `inner` entries look at the causes, plain ones at the outermost
layer. -/
structure ErrorSet.Entry where
  type : FaultType
  inner : Bool
  deriving DecidableEq, Repr

/-- Runtime types handled in one batch, in registration order without repeats. -/
structure ErrorSet where
  entries : List ErrorSet.Entry := []
  deriving Repr

namespace ErrorSet

/-- Register an entry unless the same (type, flag) pair is already there. -/
def insert (set : ErrorSet) (entry : Entry) : ErrorSet :=
  if set.entries.contains entry then set else { entries := set.entries ++ [entry] }

/-- Register a type that the outermost layer must have. -/
def withType (set : ErrorSet) (type : FaultType) : ErrorSet := set.insert ⟨type, false⟩

/-- Register a type that some cause must have. -/
def withInner (set : ErrorSet) (type : FaultType) : ErrorSet := set.insert ⟨type, true⟩

/-- Register the other set's entries, in its order. -/
def union (set other : ErrorSet) : ErrorSet := other.entries.foldl insert set

/-- The number of entries. -/
def size (set : ErrorSet) : Nat := set.entries.length

/-- Whether no entry is registered. -/
def isEmpty (set : ErrorSet) : Bool := set.entries.isEmpty

/-- Whether the type is registered as a plain entry. -/
def contains (set : ErrorSet) (type : FaultType) : Bool := set.entries.contains ⟨type, false⟩

/-- The registered types in order; the flag is not shown. -/
def types (set : ErrorSet) : List FaultType := set.entries.map (·.type)

/-- Whether an entry matches a fault: a plain one when the outermost layer has its type, an
inner one when some cause does. -/
def Entry.test (entry : Entry) (fault : Fault) : Bool :=
  if entry.inner then (fault.findCause entry.type).isSome else fault.is entry.type

/-- Whether some entry matches the fault. -/
def test (set : ErrorSet) (fault : Fault) : Bool := set.entries.any (·.test fault)

end ErrorSet

end Resilience

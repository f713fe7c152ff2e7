/-!
# Accumulators

An accumulator is a growable list that is either plain, when only its owner can push into
it, or shared, when tasks running elsewhere may push through sinks handed out for it.
Settling a shared accumulator makes it plain again with the same items; from then on, as
after the items have been taken out, pushes through earlier sinks land in a list that
nobody reads any more.

A shared accumulator never becomes shared again, so a sink is connected exactly while the
accumulator it came from is still shared. Pushing through a sink is therefore an operation
on the accumulator: it appends when the accumulator is shared and changes nothing
otherwise.

## Main definitions

* `Accumulator`: The items pushed so far and whether pushes may come through sinks.
* `Accumulator.push`, `Accumulator.pushThroughSink`, `Accumulator.settle`,
  `Accumulator.take`: The operations.
* `Accumulator.hasSink`: Whether a sink can be handed out.

## Theorems

* `toList_push`, `toList_settle`, `toList_pushThroughSink`: What each operation does to the
  items.
-/

namespace Resilience

/-- A list of items in push order, with a flag for whether sinks may push into it. -/
structure Accumulator (α : Type) where
  items : List α := []
  shared : Bool := false
  deriving Repr, Inhabited

namespace Accumulator

variable {α : Type}

/-- An empty accumulator, shared when pushes may come from elsewhere. -/
def new (concurrent : Bool) : Accumulator α := { shared := concurrent }

/-- The items in push order. -/
def toList (acc : Accumulator α) : List α := acc.items

/-- Append an item. -/
def push (acc : Accumulator α) (item : α) : Accumulator α :=
  { acc with items := acc.items ++ [item] }

/-- Whether a sink can be handed out: only a shared accumulator has one. -/
def hasSink (acc : Accumulator α) : Bool := acc.shared

/-- Push through a sink: the item arrives while the accumulator is still shared. -/
def pushThroughSink (acc : Accumulator α) (item : α) : Accumulator α :=
  if acc.shared then acc.push item else acc

/-- Make the accumulator plain, keeping its items. -/
def settle (acc : Accumulator α) : Accumulator α := { acc with shared := false }

/-- Take the items out, leaving an empty plain accumulator. -/
def take (acc : Accumulator α) : List α × Accumulator α := (acc.items, {})

/-- The number of items. -/
def size (acc : Accumulator α) : Nat := acc.items.length

/-- Whether no item has been pushed. -/
def isEmpty (acc : Accumulator α) : Bool := acc.items.isEmpty

/-- The most recently pushed item. -/
def last? (acc : Accumulator α) : Option α := acc.items.getLast?

@[simp]
theorem toList_push (acc : Accumulator α) (item : α) :
    (acc.push item).toList = acc.toList ++ [item] := rfl

@[simp]
theorem toList_settle (acc : Accumulator α) : acc.settle.toList = acc.toList := rfl

theorem toList_pushThroughSink (acc : Accumulator α) (item : α) :
    (acc.pushThroughSink item).toList =
      if acc.shared then acc.toList ++ [item] else acc.toList := by
  unfold pushThroughSink
  split <;> rfl

end Accumulator

end Resilience

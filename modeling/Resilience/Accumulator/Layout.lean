import Resilience.Accumulator

/-!
# Accumulators in memory

An accumulator is laid out in one of two ways. A plain one holds its items itself. A shared
one holds the address of a list guarded by a lock, and every sink handed out for it holds
the same address, so that whoever holds a sink can push into that list from elsewhere. The
locked lists live in a store; an address is never given out twice, and a list that nothing
points at any more is garbage.

Taking the items out of a shared accumulator goes one of two ways. When the accumulator is
the only holder of its address, the list is moved out of the store whole. When sinks still
hold the address, the list is emptied under the lock, and the sinks go on pushing into a
list that nobody reads. Settling takes the items out the same way and lays them out plain.

`Accumulator` itself forgets the layout: it keeps the items and whether sinks may push.
That a push through a sink reaches the items exactly while the accumulator is shared is a
fact about this layout, not a definition, and is proved for every run of the accumulator
bench.

## Main definitions

* `Accumulator.Store`: The locked lists, by address.
* `Accumulator.Layout`: A plain or a shared accumulator.
* `Accumulator.Sink`: A push handle into a locked list.
* `Accumulator.Layout.intoVec`, `Accumulator.Layout.settle`: Taking the items out, and
  settling.
-/

namespace Resilience

namespace Accumulator

/-- The lock-guarded lists that shared accumulators and their sinks point at, by address,
and the next address to give out. -/
structure Store (α : Type) where
  lists : Nat → List α := fun _ => []
  next : Nat := 0

namespace Store

variable {α : Type}

/-- The list at an address. -/
def read (store : Store α) (cell : Nat) : List α := store.lists cell

/-- Replace the list at an address. -/
def write (store : Store α) (cell : Nat) (items : List α) : Store α :=
  { store with lists := fun c => if c = cell then items else store.lists c }

/-- Append an item to the list at an address, holding its lock. -/
def append (store : Store α) (cell : Nat) (item : α) : Store α :=
  store.write cell (store.read cell ++ [item])

/-- A fresh, empty list at the next address. -/
def alloc (store : Store α) : Nat × Store α :=
  (store.next, { store.write store.next [] with next := store.next + 1 })

@[simp]
theorem read_write (store : Store α) (cell c : Nat) (items : List α) :
    (store.write cell items).read c = if c = cell then items else store.read c := rfl

@[simp]
theorem read_append_self (store : Store α) (cell : Nat) (item : α) :
    (store.append cell item).read cell = store.read cell ++ [item] := by
  simp [append]

end Store

/-- How an accumulator is laid out: its items in place, or the address of the locked list
it shares with its sinks. -/
inductive Layout (α : Type) where
  | plain (items : List α)
  | shared (cell : Nat)

/-- A handle that pushes into the locked list at an address. -/
structure Sink where
  cell : Nat
  deriving DecidableEq, Repr

/-- Push an item through a sink, holding the lock of its list. -/
def Sink.push {α : Type} (sink : Sink) (item : α) (store : Store α) : Store α :=
  store.append sink.cell item

namespace Layout

variable {α : Type}

/-- An empty accumulator; a concurrent one gets a fresh locked list. -/
def new (concurrent : Bool) (store : Store α) : Layout α × Store α :=
  if concurrent then
    let (cell, store) := store.alloc
    (shared cell, store)
  else (plain [], store)

/-- Whether pushes go through a lock. -/
def isShared : Layout α → Bool
  | plain _ => false
  | shared _ => true

/-- Append an item. -/
def push (layout : Layout α) (item : α) (store : Store α) : Layout α × Store α :=
  match layout with
  | plain items => (plain (items ++ [item]), store)
  | shared cell => (shared cell, store.append cell item)

/-- The items in push order, copied out under the lock when shared. -/
def toVec : Layout α → Store α → List α
  | plain items, _ => items
  | shared cell, store => store.read cell

/-- The number of items, counted under the lock when shared. -/
def len : Layout α → Store α → Nat
  | plain items, _ => items.length
  | shared cell, store => (store.read cell).length

/-- Whether nothing has been collected. -/
def isEmpty (layout : Layout α) (store : Store α) : Bool := layout.len store == 0

/-- The most recently pushed item, read under the lock when shared. -/
def last : Layout α → Store α → Option α
  | plain items, _ => items.getLast?
  | shared cell, store => (store.read cell).getLast?

/-- A handle others can push through: only a shared accumulator hands one out. -/
def sink : Layout α → Option Sink
  | plain _ => none
  | shared cell => some ⟨cell⟩

@[simp] theorem isShared_plain (items : List α) : (plain items).isShared = false := rfl

@[simp] theorem isShared_shared (cell : Nat) : (shared cell : Layout α).isShared = true := rfl

@[simp] theorem toVec_plain (items : List α) (store : Store α) : (plain items).toVec store = items :=
  rfl

@[simp] theorem toVec_shared (cell : Nat) (store : Store α) :
    (shared cell : Layout α).toVec store = store.read cell := rfl

/-- Take the items out. `held cell` says whether some sink still holds the address. If none
does, the accumulator is the list's only holder and moves it out whole; otherwise the list
is drained under the lock and the sinks keep an empty list. -/
def intoVec (layout : Layout α) (store : Store α) (held : Nat → Bool) : List α × Store α :=
  match layout with
  | plain items => (items, store)
  | shared cell =>
    if held cell then (store.read cell, store.write cell [])
    else (store.read cell, store)

/-- Lay a shared accumulator out plain, with the items taken out of its list. -/
def settle (layout : Layout α) (store : Store α) (held : Nat → Bool) : Layout α × Store α :=
  if layout.isShared then
    let (items, store) := layout.intoVec store held
    (plain items, store)
  else (layout, store)

end Layout

end Accumulator

end Resilience

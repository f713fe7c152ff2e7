import Resilience.Policy.Tree

/-!
# Building chains

A chain grows by appending elements and by binding an operation into its open last slot.
Every element but the last must have an operation, and the building operations keep it
so: appending after an open element is refused with the position and the policy of that
element, binding needs a last element that is still open, and a chain built from a list
of elements appends them one by one. A refused operation leaves the chain as it was.

## Main definitions

* `Chain.push`, `Chain.withPolicy`, `Chain.withBound`: Appending.
* `Chain.bindLast`: Binding the open last slot.
* `Element.bindIfOpen`, `Chain.boundWith`: The copy of a chain that a wrapping policy runs,
  its open last slot bound.
* `Chain.ofElements`: A chain from a list of elements.
* `ElementInfo`, `Chain.info`: What a chain holds, element by element.
-/

namespace Resilience

namespace Chain

variable {σ : Type} {t : ValueType}

/-- Append an element; refused when the current last element is open. -/
def push (c : Chain σ t) (e : Element σ t) : Except StructuralError (Chain σ t) :=
  match c.elements.getLast? with
  | some last =>
    if last.operation.isNone then
      .error (.inconsistentChain (c.elements.length - 1) last.policy.name)
    else .ok { c with elements := c.elements ++ [e] }
  | none => .ok { c with elements := c.elements ++ [e] }

/-- Append a policy with an open slot. -/
def withPolicy (c : Chain σ t) (p : Policy σ t) : Except StructuralError (Chain σ t) :=
  c.push { policy := p }

/-- Append a policy with its operation. -/
def withBound (c : Chain σ t) (p : Policy σ t) (op : Operation σ t.Carrier) :
    Except StructuralError (Chain σ t) :=
  c.push { policy := p, operation := some op }

/-- Bind an operation into the open last slot. -/
def bindLast (c : Chain σ t) (op : Operation σ t.Carrier) :
    Except StructuralError (Chain σ t) :=
  match c.elements.getLast? with
  | none => .error .emptyCollection
  | some last =>
    if last.operation.isSome then .error (.alreadyBound last.policy.name)
    else .ok { c with elements := c.elements.dropLast ++ [{ last with operation := some op }] }

/-- A chain with default options holding the elements, appended one by one. -/
def ofElements (es : List (Element σ t)) : Except StructuralError (Chain σ t) :=
  es.foldlM push {}

/-- The number of elements. -/
def size (c : Chain σ t) : Nat := c.elements.length

/-- Whether the chain has no element. -/
def isEmpty (c : Chain σ t) : Bool := c.elements.isEmpty

end Chain

/-- Bind the operation unless the element already has one. -/
def Element.bindIfOpen {σ : Type} {t : ValueType} (e : Element σ t) (op : Operation σ t.Carrier) :
    Element σ t :=
  match e.operation with
  | some _ => e
  | none => { e with operation := some op }

/-- Bind the operation into the last of the elements, if that one is open. -/
def Element.bindLastIfOpen {σ : Type} {t : ValueType} (op : Operation σ t.Carrier) :
    List (Element σ t) → List (Element σ t)
  | [] => []
  | [e] => [e.bindIfOpen op]
  | e :: rest => e :: bindLastIfOpen op rest

/-- A copy of the chain whose open last slot, if it has one, holds `op`; a chain whose last
element is bound is copied as it is. A wrapping policy runs such a copy. -/
def Chain.boundWith {σ : Type} {t : ValueType} (c : Chain σ t) (op : Operation σ t.Carrier) :
    Chain σ t :=
  { c with elements := Element.bindLastIfOpen op c.elements }

/-- What a chain shows of one element: its policy's name, and its operation's kind and
target when one is bound. -/
structure ElementInfo where
  policy : String
  kind : Option OperationKind
  target : Option Target

/-- What a chain shows of its elements. -/
def Chain.info {σ : Type} {t : ValueType} (c : Chain σ t) : List ElementInfo :=
  c.elements.map fun e =>
    { policy := e.policy.name
      kind := e.operation.map (·.kind)
      target := e.operation.map (·.target) }

end Resilience

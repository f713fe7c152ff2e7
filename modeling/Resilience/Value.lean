/-!
# Values

Policies protect operations that produce a value of one type per run: a signed 64-bit
integer, the unit value, or a text. The type matters to the engine in two places. A
fallback is registered for one value type and applies only to runs of that type, and a
policy that recovers without a value still produces one when the type is unit, since the
unit type has exactly one value.

## Main definitions

* `ValueType`: The value types a run can have.
* `ValueType.Carrier`: The Lean type of a value type's values.
* `ValueType.unit?`: The value that exists without being produced: the unit value, for the
  unit type only.
-/

namespace Resilience

/-- The value types a run can have. -/
inductive ValueType where
  | int
  | unit
  | text
  deriving DecidableEq, Repr, Inhabited

/-- The values of a value type. -/
abbrev ValueType.Carrier : ValueType → Type
  | .int => Int64
  | .unit => Unit
  | .text => String

/-- The value a policy can supply without the operation producing one: the unit value, for
the unit type only. -/
def ValueType.unit? : (t : ValueType) → Option t.Carrier
  | .int => none
  | .unit => some ()
  | .text => none

end Resilience

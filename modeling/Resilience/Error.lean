import Resilience.Fault.Basic

/-!
# Structural errors

Errors in how the library is used or configured, as opposed to failures of the operations
it protects. They are returned at once and never recorded in an outcome: a chain whose open
slot is not last, binding into an empty chain, binding twice, running an unbound element, a
chain run that failed as a whole, and the ways loading a configuration can fail.

## Main definitions

* `StructuralError`: The errors, with their data.
* `StructuralError.message`: Their text.
-/

namespace Resilience

/-- An error in how the library is used or configured. -/
inductive StructuralError where
  /-- An element without an operation is followed by another one. -/
  | inconsistentChain (index : Nat) (policy : String)
  /-- There is no last element to bind an operation to. -/
  | emptyCollection
  /-- The element already has an operation. -/
  | alreadyBound (policy : String)
  /-- The element has no operation to run. -/
  | operationNotBound (policy : String)
  /-- A chain run failed and was asked to report it as one error. -/
  | aggregate (group : Aggregate)
  /-- A configuration breaks a rule. -/
  | invalidConfig (message : String)
  /-- A configuration file does not exist. -/
  | configNotFound (path : String)
  /-- A configuration document could not be read as the expected structure. -/
  | yamlParse (message : String)
  /-- Reading a configuration file failed. -/
  | io (message : String)

namespace StructuralError

/-- The text of the error. -/
def message : StructuralError → String
  | .inconsistentChain index policy =>
    "Inconsistent chain: element " ++ toString index ++ " (policy " ++ policy ++
      ") has no bound operation but is not the last element"
  | .emptyCollection => "Cannot bind an operation: the collection is empty"
  | .alreadyBound policy => "Policy " ++ policy ++ " already has a bound operation"
  | .operationNotBound policy => "Policy " ++ policy ++ " has no bound operation to run"
  | .aggregate group => group.message
  | .invalidConfig message => "Invalid configuration: " ++ message
  | .configNotFound path => "Configuration file not found: " ++ path
  | .yamlParse message => "YAML parsing error: " ++ message
  | .io message => "IO error: " ++ message

/-- Whether the error reports an open slot that is not last. -/
def isInconsistentChain : StructuralError → Bool
  | .inconsistentChain _ _ => true
  | _ => false

/-- Whether the error stands for a failed chain run. -/
def isAggregate : StructuralError → Bool
  | .aggregate _ => true
  | _ => false

end StructuralError

end Resilience

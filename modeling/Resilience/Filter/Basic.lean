import Resilience.Filter.ErrorSet
import Resilience.Text.Basic

/-!
# Error filters

A filter decides whether a policy handles an error. It holds two ordered lists of
predicates and handles an error when no predicate is included or some included one
matches, and no excluded one matches. With both lists empty every error is handled.

A predicate answers one question about a fault:

* a type predicate asks whether the outermost layer has a runtime type, and may check that
  typed error further;
* an inner predicate asks the same of the first cause of that type;
* an error set asks whether one of its entries matches;
* a message predicate asks whether the outermost message contains one of its patterns,
  both folded to small letters;
* a custom predicate is any test on the fault.

## Main definitions

* `Predicate`, `Predicate.test`: The predicates and what they match.
* `Predicate.ofMessages`, `Predicate.networkErrors`: Message predicates.
* `Predicate.typedCheck`: Checks on typed errors by io kind and message text.
* `ErrorFilter`, `ErrorFilter.canHandle`: The filter and its decision.
-/

namespace Resilience

/-- A question about a fault. -/
inductive Predicate where
  /-- The outermost layer has the type and passes the check. -/
  | outer (type : FaultType) (check : Failure → Bool)
  /-- The first cause of the type exists and passes the check. -/
  | inner (type : FaultType) (check : Failure → Bool)
  /-- Some entry of the set matches. -/
  | set (errors : ErrorSet)
  /-- The outermost message, in small letters, contains one of the patterns, which are
  kept in small letters. -/
  | messages (patterns : List String)
  /-- Any test on the fault. -/
  | custom (check : Fault → Bool)

namespace Predicate

/-- The outermost layer has the type. -/
def ofType (type : FaultType) : Predicate := .outer type fun _ => true

/-- Some cause has the type. -/
def ofInner (type : FaultType) : Predicate := .inner type fun _ => true

/-- The outermost message contains one of the patterns, ignoring case. -/
def ofMessages (patterns : List String) : Predicate := .messages (patterns.map Text.lower)

/-- The messages of common network failures. -/
def networkErrors : Predicate :=
  ofMessages ["timeout", "timed out", "connection reset", "connection refused",
    "network unreachable", "temporary failure"]

/-- A check on a typed error: it is an io error of the kind, when a kind is given, and its
message contains the text, when a text is given. A kind fails every error of another
type. -/
def typedCheck (kind : Option IoKind) (contains : Option String) (failure : Failure) : Bool :=
  (match kind with
   | none => true
   | some k => failure.ioKind? == some k) &&
  (match contains with
   | none => true
   | some s => Text.contains failure.message s)

/-- Whether the predicate matches the fault. -/
def test (predicate : Predicate) (fault : Fault) : Bool :=
  match predicate with
  | .outer type check =>
    match fault.outermost? with
    | some failure => failure.type? == some type && check failure
    | none => false
  | .inner type check =>
    match fault.findCause type with
    | some failure => check failure
    | none => false
  | .set errors => errors.test fault
  | .messages patterns =>
    let message := Text.lower fault.message
    patterns.any (Text.contains message)
  | .custom check => check fault

end Predicate

/-- Which errors a policy handles: some included predicate matches, or none is included,
and no excluded predicate matches. -/
structure ErrorFilter where
  included : List Predicate := []
  excluded : List Predicate := []

namespace ErrorFilter

/-- Add a predicate an error must match. -/
def addIncluded (filter : ErrorFilter) (p : Predicate) : ErrorFilter :=
  { filter with included := filter.included ++ [p] }

/-- Add a predicate an error must not match. -/
def addExcluded (filter : ErrorFilter) (p : Predicate) : ErrorFilter :=
  { filter with excluded := filter.excluded ++ [p] }

/-- Whether a policy with this filter handles the fault. -/
def canHandle (filter : ErrorFilter) (fault : Fault) : Bool :=
  (filter.included.isEmpty || filter.included.any (·.test fault)) &&
    !filter.excluded.any (·.test fault)

/-- The decision read as a statement about the predicates. -/
theorem canHandle_eq_true_iff (filter : ErrorFilter) (fault : Fault) :
    filter.canHandle fault = true ↔
      (filter.included = [] ∨ ∃ p ∈ filter.included, p.test fault = true) ∧
        ∀ p ∈ filter.excluded, p.test fault = false := by
  simp [canHandle]

end ErrorFilter

end Resilience

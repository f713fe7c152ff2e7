import Resilience.Fault.Basic
import Resilience.Accumulator

/-!
# Outcome state

The record a policy keeps while it handles one invocation: whether the invocation failed,
was canceled or recovered, why it failed, every error the operation raised, errors raised
while those were being processed, errors raised by post-hoc handlers, and the error left
unprocessed.

The flags only ever go from false to true, and a failure reason, once given, is kept: the
mutators below set and append, and nothing resets. The operation errors live in an
`Accumulator`, so that a detached attempt can push its error through a sink; settling the
state makes that list plain again.

## Main definitions

* `FailedReason`: Why an invocation failed.
* `CatchBlockError`: An error raised while processing an operation error, and whether it
  was critical.
* `OutcomeState`: The record, with its mutators and derived flags.
-/

namespace Resilience

/-- Why an invocation failed. -/
inductive FailedReason where
  | none
  | delegateMissing
  | policyProcessorFailed
  | policyResultHandlerFailed
  | unhandledError
  deriving DecidableEq, Repr, Inhabited

/-- An error raised while an operation error was being processed. A critical one reports
cancellation while the token is cancelled, and stops the processing. -/
structure CatchBlockError where
  error : Fault
  critical : Bool

/-- What happened while a policy handled one invocation. -/
structure OutcomeState where
  failed : Bool := false
  canceled : Bool := false
  ok : Bool := false
  reason : FailedReason := .none
  filterUnsatisfied : Bool := false
  errors : Accumulator Fault := {}
  catchBlockErrors : List CatchBlockError := []
  handlingErrors : List HandlerError := []
  unprocessed : Option Fault := none

namespace OutcomeState

/-- A fresh state; `concurrent` makes its error list accept pushes through sinks. -/
def new (concurrent : Bool) : OutcomeState := { errors := .new concurrent }

/-- Neither failed nor canceled. -/
def isSuccess (s : OutcomeState) : Bool := !s.failed && !s.canceled

/-- A success without any operation error. -/
def noError (s : OutcomeState) : Bool := s.isSuccess && s.errors.isEmpty

/-- A success that recovered from at least one handled error. -/
def isOk (s : OutcomeState) : Bool := s.ok && s.isSuccess

/-- The operation errors in the order they were raised. -/
def errorList (s : OutcomeState) : List Fault := s.errors.toList

/-- The number of operation errors. -/
def errorCount (s : OutcomeState) : Nat := s.errors.size

/-- The most recent operation error. -/
def lastError? (s : OutcomeState) : Option Fault := s.errors.last?

/-- Whether some catch-block error was critical. -/
def hasCriticalError (s : OutcomeState) : Bool := s.catchBlockErrors.any (·.critical)

/-- Record an operation error. -/
def addError (s : OutcomeState) (fault : Fault) : OutcomeState :=
  { s with errors := s.errors.push fault }

/-- Record an operation error through a sink of the error list. -/
def pushThroughSink (s : OutcomeState) (fault : Fault) : OutcomeState :=
  { s with errors := s.errors.pushThroughSink fault }

/-- Record an error raised while processing an operation error. -/
def addCatchBlockError (s : OutcomeState) (error : CatchBlockError) : OutcomeState :=
  { s with catchBlockErrors := s.catchBlockErrors ++ [error] }

/-- Record an error returned by a post-hoc handler. -/
def addHandlingError (s : OutcomeState) (error : HandlerError) : OutcomeState :=
  { s with handlingErrors := s.handlingErrors ++ [error] }

/-- Mark the state failed; the first reason given is the one kept. -/
def setFailed (s : OutcomeState) (reason : FailedReason) : OutcomeState :=
  { s with failed := true, reason := if s.reason = .none then reason else s.reason }

/-- Mark the state failed and leave the fault unprocessed, unless one already is. -/
def setFailedWith (s : OutcomeState) (fault : Fault) (reason : FailedReason) :
    OutcomeState :=
  let s := s.setFailed reason
  { s with unprocessed := s.unprocessed.orElse fun _ => some fault }

/-- Mark the state canceled. -/
def setCanceled (s : OutcomeState) : OutcomeState := { s with canceled := true }

/-- Mark the state failed by its processor, with the fault unprocessed, and canceled. -/
def setFailedAndCanceled (s : OutcomeState) (fault : Fault) : OutcomeState :=
  (s.setFailedWith fault .policyProcessorFailed).setCanceled

/-- Mark the state as recovered. -/
def setOk (s : OutcomeState) : OutcomeState := { s with ok := true }

/-- Record that the filter rejected an error. -/
def setFilterUnsatisfied (s : OutcomeState) : OutcomeState :=
  { s with filterUnsatisfied := true }

/-- Make the error list plain once nothing else can push into it. -/
def settle (s : OutcomeState) : OutcomeState := { s with errors := s.errors.settle }

end OutcomeState

end Resilience

/-!
# Faults

A fault is what an operation reports when it fails. It is a chain of layers: the error the
operation raised first, and any number of context messages wrapped around it afterwards.
The outermost layer is what a reader sees; the inner layers are its causes.

Each raised error has a runtime type, and the library inspects faults only through those
types: a type predicate looks at the outermost layer, an inner predicate at the causes, and
cancellation is detected anywhere in the chain. A context layer has no type of its own, so
wrapping an error in context hides its type from the outermost-layer checks while keeping
it visible as a cause.

Two kinds of error carry other faults: the report of failed outcome handlers of an inner
policy, and the aggregate that a collection builds from its steps. The types are therefore
declared together.

An operation hands the library an error, which the library keeps as a fault. The error is
one the operation raised, which becomes a fault of its own, or a fault passed back through
the operation, as a wrapping policy passes on the error of the policy it wraps; such an
error shows the fault's message and causes, and the library keeps that very fault for it, so
the fault comes back with the type of its raised error (`Fault.intoError_roundTrip`).

## Main definitions

* `IoKind`: The kinds of input/output failure, with their standard descriptions.
* `FaultType`: The runtime types a predicate can name.
* `Failure`: One raised error; `Failure.message` is its text and `Failure.type?` its type.
* `Fault`: A raised error with its context layers; `Fault.message`, `Fault.layers`,
  `Fault.causes`, `Fault.is`, `Fault.findCause` and `Fault.isCancellation` read it.
* `HandlerError`: The error a post-hoc handler returned, with the handler's position.
* `Aggregate`: One error standing for the failures of a whole collection run.
* `OperationError`, `Fault.intoError`, `OperationError.toFault`: Errors as operations return
  them, and the faults the library keeps for them.
-/

namespace Resilience

/-- The kinds of input/output failure an operation can report. -/
inductive IoKind where
  | notFound
  | permissionDenied
  | connectionRefused
  | connectionReset
  | connectionAborted
  | notConnected
  | addrInUse
  | brokenPipe
  | alreadyExists
  | wouldBlock
  | invalidInput
  | invalidData
  | timedOut
  | writeZero
  | interrupted
  | unsupported
  | unexpectedEof
  | outOfMemory
  | other
  deriving DecidableEq, Repr, Inhabited

/-- The standard description of an input/output failure, used when the error carries no
text of its own. -/
def IoKind.description : IoKind → String
  | .notFound => "entity not found"
  | .permissionDenied => "permission denied"
  | .connectionRefused => "connection refused"
  | .connectionReset => "connection reset"
  | .connectionAborted => "connection aborted"
  | .notConnected => "not connected"
  | .addrInUse => "address in use"
  | .brokenPipe => "broken pipe"
  | .alreadyExists => "entity already exists"
  | .wouldBlock => "operation would block"
  | .invalidInput => "invalid input parameter"
  | .invalidData => "invalid data"
  | .timedOut => "timed out"
  | .writeZero => "write zero"
  | .interrupted => "operation interrupted"
  | .unsupported => "unsupported"
  | .unexpectedEof => "unexpected end of file"
  | .outOfMemory => "out of memory"
  | .other => "other error"

/-- The runtime types of error that predicates and error sets can name. Plain messages and
context layers have none of these types. -/
inductive FaultType where
  | io
  | timeout
  | invalid
  | canceled
  | noValue
  | handlerFailed
  | aggregate
  | format
  | core
  deriving DecidableEq, Repr, Inhabited

/-- Every runtime type, in the order reports list them. -/
def FaultType.all : List FaultType :=
  [.io, .timeout, .invalid, .canceled, .noValue, .handlerFailed, .aggregate, .format, .core]

mutual

/-- One raised error. -/
inductive Failure where
  /-- A bare message; it has no runtime type of its own. -/
  | plain (text : String)
  /-- An input/output failure of a kind, with its own text or the kind's description. -/
  | io (kind : IoKind) (text : Option String)
  /-- The operation ran out of time. -/
  | timeout
  /-- The operation was asked to do something it cannot do. -/
  | invalid (text : String)
  /-- The operation observed cancellation. -/
  | canceled
  /-- A wrapped policy finished without producing a value. -/
  | noValue
  /-- Formatting a value failed. -/
  | format
  /-- The post-hoc handlers of an inner policy failed it. -/
  | handlerFailed (policy : String) (errors : List HandlerError)
  /-- A collection's failures folded into one error. -/
  | aggregate (group : Aggregate)
  /-- A structural error of this library, carried by its message. -/
  | structural (text : String)

/-- A raised error together with the context messages wrapped around it, innermost
first. -/
structure Fault where
  base : Failure
  context : List String := []

/-- An error returned by a post-hoc handler, with the handler's position in its policy. -/
structure HandlerError where
  error : Fault
  index : Nat

/-- One error standing for a whole collection run: a message and the faults it gathers. -/
structure Aggregate where
  message : String
  errors : List Fault

end

instance : Inhabited Failure := ⟨.plain ""⟩

instance : Inhabited Fault := ⟨⟨.plain "", []⟩⟩

namespace Failure

/-- The text a reader sees for this error. -/
def message : Failure → String
  | .plain text => text
  | .io kind text => text.getD kind.description
  | .timeout => "operation timed out"
  | .invalid text => "invalid operation: " ++ text
  | .canceled => "operation was canceled"
  | .noValue => "wrapped policy produced no value"
  | .format => "an error occurred when formatting an argument"
  | .handlerFailed policy errors =>
    "result handling of policy " ++ policy ++ " failed (" ++ toString errors.length ++
      " handler error(s))"
  | .aggregate group => group.message
  | .structural text => text

/-- The runtime type of this error, if it has one. -/
def type? : Failure → Option FaultType
  | .plain _ => none
  | .io _ _ => some .io
  | .timeout => some .timeout
  | .invalid _ => some .invalid
  | .canceled => some .canceled
  | .noValue => some .noValue
  | .format => some .format
  | .handlerFailed _ _ => some .handlerFailed
  | .aggregate _ => some .aggregate
  | .structural _ => some .core

/-- The kind of an input/output failure; none for every other error. -/
def ioKind? : Failure → Option IoKind
  | .io kind _ => some kind
  | _ => none

end Failure

namespace Fault

/-- A fault raised as it is, without context. -/
def ofFailure (failure : Failure) : Fault := { base := failure }

/-- A fault that is only a message. -/
def msg (text : String) : Fault := ofFailure (.plain text)

/-- Wrap the fault in one more context message, which becomes its outermost layer. -/
def withContext (fault : Fault) (text : String) : Fault :=
  { fault with context := fault.context ++ [text] }

/-- The text of every layer, outermost first: the context messages from the last applied
to the first, then the raised error. -/
def layers (fault : Fault) : List String :=
  fault.context.reverse ++ [fault.base.message]

/-- The text of the outermost layer. -/
def message (fault : Fault) : String :=
  fault.context.getLast?.getD fault.base.message

/-- The texts of the layers below the outermost one, outermost first. -/
def causes (fault : Fault) : List String :=
  fault.layers.tail

/-- The raised error when it is the outermost layer, that is when no context wraps it. -/
def outermost? (fault : Fault) : Option Failure :=
  if fault.context.isEmpty then some fault.base else none

/-- The runtime type of the outermost layer; context layers have none. -/
def type? (fault : Fault) : Option FaultType :=
  fault.outermost?.bind Failure.type?

/-- Whether the outermost layer has exactly the given runtime type. -/
def is (fault : Fault) (ty : FaultType) : Bool :=
  fault.type? == some ty

/-- The first cause of the given runtime type. Context layers have no type, so the only
candidate is the raised error, and only when context wraps it. -/
def findCause (fault : Fault) (ty : FaultType) : Option Failure :=
  if fault.context.isEmpty then none
  else if fault.base.type? == some ty then some fault.base
  else none

/-- Whether some layer reports cancellation. -/
def isCancellation (fault : Fault) : Bool :=
  match fault.base with
  | .canceled => true
  | _ => false

theorem message_cons_causes (fault : Fault) : fault.message :: fault.causes = fault.layers := by
  unfold message causes layers
  rcases List.eq_nil_or_concat fault.context with hnil | ⟨context, last, hlast⟩
  · simp [hnil]
  · simp [hlast]

end Fault

/-- An error as an operation returns it to the library. -/
inductive OperationError where
  /-- An error the operation raised, with the context wrapped around it. -/
  | raised (fault : Fault)
  /-- A fault passed back through the operation. -/
  | resurfaced (fault : Fault)

/-- Pass the fault back as an error an operation can return. -/
def Fault.intoError (fault : Fault) : OperationError := .resurfaced fault

namespace OperationError

/-- The fault the library keeps for the error: the fault passed back, or a new fault holding
the raised error. -/
def toFault : OperationError → Fault
  | .raised fault => fault
  | .resurfaced fault => fault

/-- Whether the fault kept is one that already existed, the one passed back, rather than a
new one. -/
def keepsFault : OperationError → Bool
  | .raised _ => false
  | .resurfaced _ => true

/-- The text the error shows: a fault passed back shows its own. -/
def message : OperationError → String
  | .raised fault => fault.message
  | .resurfaced fault => fault.message

/-- The text of every error in the chain, outermost first. A fault passed back shows its
message, and its causes are the fault's causes. -/
def chain : OperationError → List String
  | .raised fault => fault.layers
  | .resurfaced fault => fault.message :: fault.causes

end OperationError

/-- A fault passed back through an operation comes back as the same fault, with the same
message and the same chain of layers. -/
theorem Fault.intoError_roundTrip (fault : Fault) :
    fault.intoError.keepsFault = true ∧ fault.intoError.toFault = fault ∧
      fault.intoError.message = fault.message ∧ fault.intoError.chain = fault.layers :=
  ⟨rfl, rfl, rfl, fault.message_cons_causes⟩

end Resilience

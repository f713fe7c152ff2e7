import Resilience.Error
import Resilience.Chain.Result
import Resilience.Retry.Settings
import Resilience.Policy.Tree

/-!
# Keys

Reports and configuration files name the library's enumerations by short keys: snake case
for error types, io kinds, reasons and statuses, kebab case for retry strategies. Each
enumeration lists its members once in `all`, and reading a key back is a search of that
list, so a key read back is the member that wrote it as soon as the keys are distinct.

## Main definitions

* `IoKind.key`, `FaultType.key`, `FailedReason.key`, `ChainStatus.key`, `RetryStrategy.key`,
  `ValueType.key`, `OperationKind.key`, `Dispatch.key`: Keys.
* `IoKind.ofKey?`, `FaultType.ofKey?`, `FailedReason.ofKey?`, `RetryStrategy.ofKey?`,
  `ValueType.ofKey?`: Reading keys back.
* `StructuralError.kind`: The name of a structural error's variant.
-/

namespace Resilience

namespace IoKind

/-- Every io kind. -/
def all : List IoKind :=
  [.notFound, .permissionDenied, .connectionRefused, .connectionReset, .connectionAborted,
   .notConnected, .addrInUse, .brokenPipe, .alreadyExists, .wouldBlock, .invalidInput,
   .invalidData, .timedOut, .writeZero, .interrupted, .unsupported, .unexpectedEof,
   .outOfMemory, .other]

/-- The key of an io kind. -/
def key : IoKind → String
  | .notFound => "not_found"
  | .permissionDenied => "permission_denied"
  | .connectionRefused => "connection_refused"
  | .connectionReset => "connection_reset"
  | .connectionAborted => "connection_aborted"
  | .notConnected => "not_connected"
  | .addrInUse => "addr_in_use"
  | .brokenPipe => "broken_pipe"
  | .alreadyExists => "already_exists"
  | .wouldBlock => "would_block"
  | .invalidInput => "invalid_input"
  | .invalidData => "invalid_data"
  | .timedOut => "timed_out"
  | .writeZero => "write_zero"
  | .interrupted => "interrupted"
  | .unsupported => "unsupported"
  | .unexpectedEof => "unexpected_eof"
  | .outOfMemory => "out_of_memory"
  | .other => "other"

/-- The io kind with the key. -/
def ofKey? (s : String) : Option IoKind := all.find? (·.key == s)

end IoKind

namespace FaultType

/-- The key of a runtime type. -/
def key : FaultType → String
  | .io => "io"
  | .timeout => "timeout"
  | .invalid => "invalid"
  | .canceled => "canceled"
  | .noValue => "no_value"
  | .handlerFailed => "handler_failed"
  | .aggregate => "aggregate"
  | .format => "fmt"
  | .core => "core"

/-- The runtime type with the key. -/
def ofKey? (s : String) : Option FaultType := all.find? (·.key == s)

end FaultType

/-- The key of the runtime type of an error that may have none. -/
def Fault.typeKey (f : Fault) : String := (f.type?.map FaultType.key).getD "other"

namespace FailedReason

/-- Every reason. -/
def all : List FailedReason :=
  [.none, .delegateMissing, .policyProcessorFailed, .policyResultHandlerFailed, .unhandledError]

/-- The key of a reason. -/
def key : FailedReason → String
  | .none => "none"
  | .delegateMissing => "delegate_missing"
  | .policyProcessorFailed => "policy_processor_failed"
  | .policyResultHandlerFailed => "policy_result_handler_failed"
  | .unhandledError => "unhandled_error"

/-- The reason with the key. -/
def ofKey? (s : String) : Option FailedReason := all.find? (·.key == s)

end FailedReason

/-- The key of a chain status. -/
def ChainStatus.key : ChainStatus → String
  | .created => "created"
  | .lastSuccess => "last_success"
  | .lastOk => "last_ok"
  | .canceled => "canceled"
  | .faulted => "faulted"
  | .faultedCanceled => "faulted_canceled"

namespace RetryStrategy

/-- Every strategy. -/
def all : List RetryStrategy := [.none, .fixedDelay, .exponentialBackoff, .linearBackoff]

/-- The key of a strategy. -/
def key : RetryStrategy → String
  | .none => "none"
  | .fixedDelay => "fixed-delay"
  | .exponentialBackoff => "exponential-backoff"
  | .linearBackoff => "linear-backoff"

/-- The strategy with the key. -/
def ofKey? (s : String) : Option RetryStrategy := all.find? (·.key == s)

end RetryStrategy

namespace ValueType

/-- Every value type. -/
def all : List ValueType := [.int, .unit, .text]

/-- The key of a value type. -/
def key : ValueType → String
  | .int => "int"
  | .unit => "unit"
  | .text => "string"

/-- The value type with the key. -/
def ofKey? (s : String) : Option ValueType := all.find? (·.key == s)

end ValueType

/-- The key of an operation kind. -/
def OperationKind.key : OperationKind → String
  | .sync => "sync"
  | .async => "async"

/-- The key of a chain's dispatch. -/
def Dispatch.key : Dispatch → String
  | .sync => "sync"
  | .async => "async"
  | .misc => "misc"

/-- The name of a structural error's variant. -/
def StructuralError.kind : StructuralError → String
  | .inconsistentChain _ _ => "InconsistentChain"
  | .emptyCollection => "EmptyCollection"
  | .alreadyBound _ => "AlreadyBound"
  | .operationNotBound _ => "OperationNotBound"
  | .aggregate _ => "Aggregate"
  | .invalidConfig _ => "InvalidConfig"
  | .configNotFound _ => "ConfigNotFound"
  | .yamlParse _ => "YamlParse"
  | .io _ => "Io"

end Resilience

import Resilience.Config.Settings
import Resilience.FileSystem
import Resilience.Keys
import Resilience.Yaml.Decoder

/-!
# Configuration files

A configuration is read from YAML with kebab-case field names: `default`, `policies` and
`collections` at the top; `kind`, `retry`, `jitter`, `handle-messages` and `log-errors` for a
policy; `max-attempts`, `strategy`, `backoff-multiplier`, `initial-delay-ms` and
`max-delay-ms` for retry settings; `policies` and `throw-on-last-failed` for a collection.
A file that does not read is reported as a YAML error, and one that reads but does not
validate as an invalid configuration.

A configuration is written back as YAML in flow style, with every name double-quoted and
every float as the shortest decimal that reads back as it, so that reading what was
written gives the same configuration.

A configuration may also be loaded from a path of a file system, which gives the text at the
path or says why it cannot: nothing at the path is a configuration not found, and any other
failure is an input and output error with the text the file system reports it by.

## Main definitions

* `PoliciesConfig.decoder`: Reading a configuration from YAML events.
* `PoliciesConfig.ofYaml`: Reading and validating a configuration.
* `PoliciesConfig.toYaml`: Writing a configuration.
* `PoliciesConfig.roundTrips`: Whether writing and reading gives the same configuration.
* `PoliciesConfig.load`: Loading a configuration from a path.
-/

namespace Resilience

open Yaml

namespace PoliciesConfig

/-- Read retry settings. -/
def retryDecoder (path : Path) : Decoder RetrySettings :=
  Decoder.record "RetrySettings"
    ["max-attempts", "strategy", "backoff-multiplier", "initial-delay-ms", "max-delay-ms"] {}
    (fun key path s => match key with
      | "max-attempts" => do return { s with maxAttempts := ← Decoder.u32 path }
      | "strategy" => do
        let k ← Decoder.variant (RetryStrategy.all.map RetryStrategy.key) path
        return { s with strategy := (RetryStrategy.ofKey? k).getD s.strategy }
      | "backoff-multiplier" => do return { s with backoffMultiplier := ← Decoder.f64 path }
      | "initial-delay-ms" => do return { s with initialDelayMs := ← Decoder.u64 path }
      | "max-delay-ms" => do return { s with maxDelayMs := ← Decoder.u64 path }
      | _ => return s)
    path

/-- Read the settings of a policy. -/
def policyDecoder (path : Path) : Decoder PolicySettings :=
  Decoder.record "PolicySettings" ["kind", "retry", "jitter", "handle-messages", "log-errors"] {}
    (fun key path s => match key with
      | "kind" => do
        let k ← Decoder.variant (PolicyKind.all.map PolicyKind.key) path
        return { s with kind := (PolicyKind.ofKey? k).getD s.kind }
      | "retry" => do return { s with retry := ← retryDecoder path }
      | "jitter" => do return { s with jitter := ← Decoder.bool path }
      | "handle-messages" => do
        return { s with handleMessages := ← Decoder.sequence (Decoder.string "a string") path }
      | "log-errors" => do return { s with logErrors := ← Decoder.bool path }
      | _ => return s)
    path

/-- Read the settings of a collection. -/
def collectionDecoder (path : Path) : Decoder CollectionSettings :=
  Decoder.record "CollectionSettings" ["policies", "throw-on-last-failed"] {}
    (fun key path s => match key with
      | "policies" => do
        return { s with policies := ← Decoder.sequence (Decoder.string "a string") path }
      | "throw-on-last-failed" => do return { s with throwOnLastFailed := ← Decoder.bool path }
      | _ => return s)
    path

/-- Read a configuration. -/
def decoder : Decoder PoliciesConfig :=
  Decoder.record "PoliciesConfig" ["default", "policies", "collections"] {}
    (fun key path c => match key with
      | "default" => do return { c with defaults := ← policyDecoder path }
      | "policies" => do return { c with policies := ← Decoder.map policyDecoder path }
      | "collections" => do return { c with collections := ← Decoder.map collectionDecoder path }
      | _ => return c)
    .root

/-- Read a configuration from YAML text, without validating it. -/
def parse (text : String) : Except StructuralError PoliciesConfig :=
  match Decoder.run decoder (Document.load text) with
  | .error e => .error (.yamlParse e.render)
  | .ok c => .ok c

/-- Read and validate a configuration from YAML text. -/
def ofYaml (text : String) : Except StructuralError PoliciesConfig := do
  let c ← parse text
  c.validate
  return c

/-- Text as a double-quoted YAML scalar, with quotes, backslashes, line breaks and control
characters escaped. -/
def quote (s : String) : String :=
  let hex4 (n : Nat) : String :=
    let ds := Nat.toDigits 16 n
    String.ofList (List.replicate (4 - ds.length) '0' ++ ds)
  let escape (c : Char) : String :=
    if c == '"' then "\\\"" else if c == '\\' then "\\\\"
    else if c == '\n' then "\\n" else if c == '\r' then "\\r" else if c == '\t' then "\\t"
    else if c.toNat < 0x20 || c.toNat == 0x7f || c == '\u0085' || c == '\u2028' ||
        c == '\u2029' || c == '\uFEFF' then "\\u" ++ hex4 c.toNat
    else c.toString
  "\"" ++ String.join (s.toList.map escape) ++ "\""

/-- A double as a YAML scalar: the named infinities and not-a-number, or the shortest
decimal with an exponent. -/
def floatText (x : Float) : String :=
  if x.isNaN then ".nan"
  else if x.isInf then (if Decimal.isNegative x then "-.inf" else ".inf")
  else
    let (q, e) := Decimal.shortest x
    (if Decimal.isNegative x then "-" else "") ++ toString q ++ "e" ++ toString e

/-- A flow mapping of already written entries. -/
def flowMap (entries : List (String × String)) : String :=
  "\x7b" ++ ", ".intercalate (entries.map fun (k, v) => k ++ ": " ++ v) ++ "\x7d"

/-- Retry settings as YAML. -/
def retryYaml (r : RetrySettings) : String :=
  flowMap [("max-attempts", toString r.maxAttempts), ("strategy", r.strategy.key),
    ("backoff-multiplier", floatText r.backoffMultiplier),
    ("initial-delay-ms", toString r.initialDelayMs), ("max-delay-ms", toString r.maxDelayMs)]

/-- Policy settings as YAML. -/
def policyYaml (s : PolicySettings) : String :=
  flowMap [("kind", s.kind.key), ("retry", retryYaml s.retry), ("jitter", toString s.jitter),
    ("handle-messages", "[" ++ ", ".intercalate (s.handleMessages.map quote) ++ "]"),
    ("log-errors", toString s.logErrors)]

/-- Collection settings as YAML. -/
def collectionYaml (s : CollectionSettings) : String :=
  flowMap [("policies", "[" ++ ", ".intercalate (s.policies.map quote) ++ "]"),
    ("throw-on-last-failed", toString s.throwOnLastFailed)]

/-- A configuration as YAML. -/
def toYaml (c : PoliciesConfig) : String :=
  flowMap [("default", policyYaml c.defaults),
    ("policies", flowMap (c.policies.map fun (k, v) => (quote k, policyYaml v))),
    ("collections", flowMap (c.collections.map fun (k, v) => (quote k, collectionYaml v)))]
    ++ "\n"

/-- Whether writing the configuration and reading it back gives the same configuration. -/
def roundTrips (c : PoliciesConfig) : Bool :=
  match ofYaml c.toYaml with
  | .ok d => c.sameAs d
  | .error _ => false

/-- The text at a path of the file system, or the error the loader reports: a missing file is
a configuration that is not found, and any other failure an input and output error. -/
def readPath (fs : FileSystem) (path : String) : Except StructuralError String :=
  match fs.read path with
  | .ok text => .ok text
  | .error .notFound => .error (.configNotFound path)
  | .error (.failed message) => .error (.io message)

/-- Load and validate the configuration at a path of the file system. -/
def load (fs : FileSystem) (path : String) : Except StructuralError PoliciesConfig := do
  ofYaml (← readPath fs path)

end PoliciesConfig

end Resilience

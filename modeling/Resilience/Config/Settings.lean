import Resilience.Retry.Settings
import Resilience.Error

/-!
# Policy configuration

A configuration names policies and collections of them. Every field has a default, so a file
lists only what it changes: a policy is a retry policy with default retry settings, jitter
on, no message filter and no logging. A name that is not configured gets the default
settings, which are themselves configurable.

Settings can parse and still not work. Validation rejects, in this order: default settings
that cannot work, then for each named policy an empty or blank name or settings that cannot
work, then for each collection an empty list of policies or a policy that is not configured.
Settings cannot work when they allow no attempt, grow delays by a factor below one (or not a
number), or start delays above their cap.

## Main definitions

* `PolicyKind`, `PolicySettings`, `CollectionSettings`, `PoliciesConfig`: Configurations.
* `PoliciesConfig.settings`: The settings of a name.
* `PoliciesConfig.validate`: Validation.
* `PoliciesConfig.sameAs`: Equality of configurations up to the order of names.
-/

namespace Resilience

/-- Which strategy a configured policy uses. -/
inductive PolicyKind where
  | retry
  | fallback
  | simple
  deriving DecidableEq, Repr, Inhabited

namespace PolicyKind

/-- Every kind. -/
def all : List PolicyKind := [.retry, .fallback, .simple]

/-- The key of a kind. -/
def key : PolicyKind → String
  | .retry => "retry"
  | .fallback => "fallback"
  | .simple => "simple"

/-- The kind with the key. -/
def ofKey? (s : String) : Option PolicyKind := all.find? (·.key == s)

end PolicyKind

/-- The settings of one policy. -/
structure PolicySettings where
  kind : PolicyKind := .retry
  retry : RetrySettings := {}
  jitter : Bool := true
  handleMessages : List String := []
  logErrors : Bool := false
  deriving Inhabited, BEq

/-- The settings of one collection: policy names in chain order, and whether a failed last
step is reported as an aggregate error. -/
structure CollectionSettings where
  policies : List String := []
  throwOnLastFailed : Bool := false
  deriving Inhabited, BEq

/-- Every named policy and collection, and the settings of names not configured. Names are
unique in each list. -/
structure PoliciesConfig where
  defaults : PolicySettings := {}
  policies : List (String × PolicySettings) := []
  collections : List (String × CollectionSettings) := []
  deriving Inhabited

/-- Whether a character is white space in the Unicode sense. -/
def isUnicodeSpace (c : Char) : Bool :=
  let n := c.toNat
  (0x09 ≤ n && n ≤ 0x0D) || n == 0x20 || n == 0x85 || n == 0xA0 || n == 0x1680 ||
    (0x2000 ≤ n && n ≤ 0x200A) || n == 0x2028 || n == 0x2029 || n == 0x202F || n == 0x205F ||
    n == 0x3000

/-- The reason settings cannot work, if they cannot. -/
def PolicySettings.problem? (name : String) (s : PolicySettings) : Option String :=
  let r := s.retry
  if r.maxAttempts == 0 then
    some ("policy '" ++ name ++ "': max-attempts must be at least 1")
  else if r.backoffMultiplier.isNaN || r.backoffMultiplier < 1.0 then
    some ("policy '" ++ name ++ "': backoff-multiplier must be at least 1.0")
  else if r.maxDelayMs < r.initialDelayMs then
    some ("policy '" ++ name ++ "': initial-delay-ms exceeds max-delay-ms")
  else none

namespace PoliciesConfig

/-- The settings of a name, or the default settings. -/
def settings (c : PoliciesConfig) (name : String) : PolicySettings :=
  (c.policies.lookup name).getD c.defaults

/-- The first reason a named policy cannot work. -/
def policyProblem? : List (String × PolicySettings) → Option String
  | [] => none
  | (name, s) :: rest =>
    if name.all isUnicodeSpace then some "policy names must not be empty"
    else match s.problem? name with
      | some p => some p
      | none => policyProblem? rest

/-- The first reason a collection cannot be built from the named policies. -/
def collectionProblem? (names : List String) : List (String × CollectionSettings) → Option String
  | [] => none
  | (name, coll) :: rest =>
    if coll.policies.isEmpty then some ("collection '" ++ name ++ "' has no policies")
    else match coll.policies.find? (fun p => !names.contains p) with
      | some missing =>
        some ("collection '" ++ name ++ "' refers to unknown policy '" ++ missing ++ "'")
      | none => collectionProblem? names rest

/-- Check settings that parse but cannot work. -/
def validate (c : PoliciesConfig) : Except StructuralError Unit :=
  let problem := (c.defaults.problem? "default").orElse fun _ =>
    (policyProblem? c.policies).orElse fun _ =>
      collectionProblem? (c.policies.map (·.1)) c.collections
  match problem with
  | some p => .error (.invalidConfig p)
  | none => .ok ()

/-- Whether two lists of named entries hold the same entries, in any order. -/
def sameEntries {α : Type} [BEq α] (a b : List (String × α)) : Bool :=
  a.length == b.length && a.all fun (k, v) => b.lookup k == some v

/-- Whether two configurations are the same up to the order of names. -/
def sameAs (a b : PoliciesConfig) : Bool :=
  a.defaults == b.defaults && sameEntries a.policies b.policies &&
    sameEntries a.collections b.collections

end PoliciesConfig

end Resilience

import Resilience.Scenario.Session

/-!
# Configuration sessions

A configuration session loads a configuration once, from YAML text or from a path, and
answers requests about it: the settings of a name, the policy built for a name, the retry
policy of a name, validation, whether the configuration survives being written and read
back, and the collection configured under a name, bound to scripted operations and run if
asked. Each request starts from fresh scripted callbacks.

## Main definitions

* `ConfigSource`, `ConfigSource.load`: Where a configuration comes from.
* `ConfigCommand`, `ConfigAnswer`: Requests and their answers.
* `PoliciesConfig.answer`: Answering a request.
-/

namespace Resilience

/-- Where a configuration comes from. -/
inductive ConfigSource where
  | text (yaml : String)
  | path (path : String)

/-- Load and validate the configuration, reading a path from the file system. -/
def ConfigSource.load (fs : FileSystem) : ConfigSource → Except StructuralError PoliciesConfig
  | .text yaml => PoliciesConfig.ofYaml yaml
  | .path p => PoliciesConfig.load fs p

/-- A request about a configuration. -/
inductive ConfigCommand where
  | settings (name : String)
  | build (name : String)
  | retryPolicy (name : String)
  | validate
  | roundTrip
  /-- Build the collection `name` with the operations, and run it when a way to run it is
  given. -/
  | collection (t : ValueType) (name : String) (operations : List (OperationScript t.Carrier))
      (run : Option (Execution × Bool))

/-- The answer to a request about a configuration. -/
inductive ConfigAnswer where
  | settings (s : PolicySettings)
  /-- The policy built for a name. -/
  | built (p : ConfiguredPolicy Journal)
  | refused (e : StructuralError)
  | valid
  | roundTrip (equal : Bool)
  /-- The collection built, and the answer to its run if it ran. -/
  | collection {t : ValueType} (chain : Chain Journal t) (run : Option (ChainAnswer t.Carrier))
      (session : ChainSession t)

namespace PoliciesConfig

/-- Build the collection `name` bound to fresh scripted operations, and run it if asked. -/
def runCollection (c : PoliciesConfig) {t : ValueType} (name : String)
    (operations : List (OperationScript t.Carrier)) (run : Option (Execution × Bool)) :
    ConfigAnswer :=
  let s : ChainSession t := {}
  match s.build (operations.mapM LeafSpec.buildOperation) with
  | (.error e, _) => .refused e
  | (.ok ops, s) =>
    match c.collection name ops with
    | .error e => .refused e
    | .ok chain =>
      let s := { s with chain }
      match run with
      | none => .collection chain none s
      | some (drive, cancelled) =>
        let (answer, s) := s.step (.run drive cancelled)
        .collection chain (some answer) s

/-- Answer a request. -/
def answer (c : PoliciesConfig) : ConfigCommand → ConfigAnswer
  | .settings name => .settings (c.settings name)
  | .build name => .built (c.build name)
  | .retryPolicy name =>
    match c.retryPolicy name with
    | .ok leaf => .built { kind := .retry, leaf }
    | .error e => .refused e
  | .validate =>
    match c.validate with
    | .ok () => .valid
    | .error e => .refused e
  | .roundTrip => .roundTrip c.roundTrips
  | .collection _ name operations run => c.runCollection name operations run

end PoliciesConfig

end Resilience

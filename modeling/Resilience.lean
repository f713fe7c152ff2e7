import Resilience.Fault.Basic
import Resilience.Target
import Resilience.Accumulator
import Resilience.Accumulator.Layout
import Resilience.Outcome.State
import Resilience.Outcome.Basic
import Resilience.Unicode.Table
import Resilience.Unicode.Data
import Resilience.Unicode.Case
import Resilience.Unicode.Escape
import Resilience.Text.Basic
import Resilience.Filter.ErrorSet
import Resilience.Filter.Basic
import Resilience.Value
import Resilience.Error
import Resilience.Effect
import Resilience.Processor
import Resilience.Policy.Handler
import Resilience.Retry.Settings
import Resilience.Retry.Delay
import Resilience.Retry.Observer
import Resilience.Chain.Result
import Resilience.Policy.Leaf
import Resilience.Policy.Tree
import Resilience.Chain.Build
import Resilience.Scenario.Script
import Resilience.Scenario.Spec
import Resilience.Scenario.Session
import Resilience.Scenario.Bench
import Resilience.Keys
import Resilience.Number.Decimal
import Resilience.Yaml.Token
import Resilience.Yaml.Token.Scalar
import Resilience.Yaml.Token.Property
import Resilience.Yaml.Token.Stream
import Resilience.Yaml.Event
import Resilience.Yaml.Scalar
import Resilience.Yaml.Decoder
import Resilience.Config.Settings
import Resilience.FileSystem
import Resilience.Config.Yaml
import Resilience.Config.Build
import Resilience.Scenario.Configured
import Resilience.Proofs.Processor
import Resilience.Proofs.Leaf.Execution
import Resilience.Proofs.Tree.Execution
import Resilience.Proofs.Chain.Order
import Resilience.Proofs.Outcome.Shape
import Resilience.Proofs.Chain.Consistency
import Resilience.Proofs.Outcome.Monotone
import Resilience.Proofs.Trace.Basic
import Resilience.Proofs.Trace.Retry
import Resilience.Proofs.Trace.Leaf
import Resilience.Proofs.Trace.Cancellation
import Resilience.Proofs.Trace.Fallback
import Resilience.Proofs.Tree.Surface
import Resilience.Proofs.Chain.Wrapped
import Resilience.Proofs.Outcome.Handlers
import Resilience.Proofs.Chain.Aggregate
import Resilience.Proofs.Trace.Observer
import Resilience.Proofs.Target
import Resilience.Proofs.Filter.ErrorSet
import Resilience.Proofs.Retry.Delay
import Resilience.Proofs.Config.Validation
import Resilience.Proofs.Config.Collection
import Resilience.Proofs.Accumulator
import Resilience.Target.Bytes
import Resilience.Proofs.Target.Bytes

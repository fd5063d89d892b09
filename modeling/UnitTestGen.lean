import UnitTestGen.App.Arguments
import UnitTestGen.App.Commands
import UnitTestGen.App.Config
import UnitTestGen.App.Failure
import UnitTestGen.App.Program
import UnitTestGen.Binary64.Basic
import UnitTestGen.Binary64.Printer
import UnitTestGen.Binary64.Reader
import UnitTestGen.Callable.Basic
import UnitTestGen.Callable.Builtin
import UnitTestGen.Callable.Format
import UnitTestGen.Coverage
import UnitTestGen.CoverageFormat
import UnitTestGen.Exec.Command
import UnitTestGen.Exec.Config
import UnitTestGen.Exec.Container
import UnitTestGen.Exec.Error
import UnitTestGen.Exec.Report
import UnitTestGen.Exec.Runner
import UnitTestGen.Host.Basic
import UnitTestGen.Host.FileTree
import UnitTestGen.Json.Basic
import UnitTestGen.Json.Canonical
import UnitTestGen.Json.Decode
import UnitTestGen.Json.Printer
import UnitTestGen.Json.Reader
import UnitTestGen.Main
import UnitTestGen.Registry.Basic
import UnitTestGen.Registry.Load
import UnitTestGen.Registry.Query
import UnitTestGen.Registry.Shuffle
import UnitTestGen.TestCase.Basic
import UnitTestGen.TestCase.Literal
import UnitTestGen.TestCase.LiteralFormat
import UnitTestGen.TestCase.Liveness
import UnitTestGen.TestCase.Render
import UnitTestGen.TestCase.Statement
import UnitTestGen.Text.Blank
import UnitTestGen.Text.Intervals
import UnitTestGen.Text.Letter
import UnitTestGen.Text.Numeral
import UnitTestGen.Text.Printable
import UnitTestGen.Text.Quoted
import UnitTestGen.Text.Search
import UnitTestGen.Text.Utf8
import UnitTestGen.Toml.Basic
import UnitTestGen.Toml.Reader
import UnitTestGen.Toml.Scalar
import UnitTestGen.Trace.Decode
import UnitTestGen.Trace.Fact
import UnitTestGen.Trace.Store
import UnitTestGen.Ty.Accepts
import UnitTestGen.Ty.Basic
import UnitTestGen.Ty.Binding
import UnitTestGen.Ty.Format
import UnitTestGen.Ty.Generics
import UnitTestGen.Ty.Key
import UnitTestGen.Ty.Order
import UnitTestGen.Ty.Table
import UnitTestGen.Ty.Text
import UnitTestGen.Ty.Traits
import UnitTestGen.Proofs.TestCase.Built
import UnitTestGen.Proofs.TestCase.Descent
import UnitTestGen.Proofs.TestCase.Insertion
import UnitTestGen.Proofs.TestCase.HiddenUse
import UnitTestGen.Proofs.Exec.Frame
import UnitTestGen.Proofs.Exec.Population
import UnitTestGen.Proofs.Ty.Sightings
import UnitTestGen.Proofs.Registry.DiscoveryOrder
import UnitTestGen.Proofs.Trace.Lines
import UnitTestGen.Proofs.Trace.Stores
import UnitTestGen.Proofs.TestCase.Growth
import UnitTestGen.Proofs.TestCase.Lifetime
import UnitTestGen.Proofs.TestCase.Moved
import UnitTestGen.Proofs.Exec.GeneratedBlock
import UnitTestGen.Proofs.Exec.Survivors
import UnitTestGen.Proofs.Ty.AcceptanceOrder
import UnitTestGen.Proofs.Ty.Inference
import UnitTestGen.Proofs.Ty.Instances
import UnitTestGen.Proofs.TestCase.Exclusive
import UnitTestGen.Proofs.Exec.Refreshes
import UnitTestGen.Proofs.Ty.Identity
import UnitTestGen.Proofs.Text.Numeral
import UnitTestGen.Proofs.Text.Words
import UnitTestGen.Proofs.Binary64.Rounding
import UnitTestGen.Proofs.Binary64.RoundTrip
import UnitTestGen.Proofs.Trace.Grammar
import UnitTestGen.Proofs.Trace.RoundTrip
import UnitTestGen.Proofs.Trace.LeastDistances
import UnitTestGen.Proofs.Exec.TestVerdicts
import UnitTestGen.Proofs.Registry.TableContents
import UnitTestGen.Proofs.Registry.WorkingList
import UnitTestGen.Proofs.Registry.Preference
import UnitTestGen.Proofs.Registry.Generators
import UnitTestGen.Proofs.Exec.Readiness
import UnitTestGen.Proofs.Host.Paths
import UnitTestGen.Proofs.Host.Leftovers
import UnitTestGen.Proofs.Exec.StageOrder
import UnitTestGen.Proofs.Exec.ClearedDirectory
import UnitTestGen.Proofs.Exec.StaleArtifacts
import UnitTestGen.Proofs.Lookup
import UnitTestGen.Proofs.Outcomes
import UnitTestGen.Proofs.Pointwise
import UnitTestGen.Proofs.TestCase.ResultType
import UnitTestGen.Proofs.TestCase.Upkeep
import UnitTestGen.Proofs.Ty.Stems
import UnitTestGen.Proofs.Text.Declarations
import UnitTestGen.Proofs.TestCase.PrintedLets
import UnitTestGen.Proofs.TestCase.Scoping
import UnitTestGen.Proofs.Json.Integers
import UnitTestGen.Proofs.Json.Places
import UnitTestGen.Proofs.Json.Reading
import UnitTestGen.Proofs.Json.Omissions
import UnitTestGen.Proofs.Ty.RoundTrip
import UnitTestGen.Proofs.Callable.RoundTrip
import UnitTestGen.Proofs.Ty.Wrapping
import UnitTestGen.Proofs.Ty.WrappingOrder
import UnitTestGen.Proofs.Ty.Substitution
import UnitTestGen.Proofs.Ty.TraitFacts
import UnitTestGen.Proofs.Exec.Percentages
import UnitTestGen.Proofs.TestCase.Replacement
import UnitTestGen.Proofs.TestCase.LegalNames

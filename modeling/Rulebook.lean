import Rulebook.Catalog.Builtin
import Rulebook.Catalog.Dict
import Rulebook.Catalog.Scalar
import Rulebook.Catalog.Signature
import Rulebook.Catalog.Types
import Rulebook.Check.Reading
import Rulebook.Check.Template
import Rulebook.Command.Host
import Rulebook.Command.Line
import Rulebook.Command.Run
import Rulebook.Config.Fault
import Rulebook.Config.File
import Rulebook.Config.Schema
import Rulebook.Config.Settings
import Rulebook.Decimal.Layout
import Rulebook.Decimal.Reading
import Rulebook.Decimal.Shortest
import Rulebook.Directory
import Rulebook.Evaluation.Audit
import Rulebook.Evaluation.Description
import Rulebook.Evaluation.Engine
import Rulebook.Evaluation.Leaf
import Rulebook.Evaluation.Run
import Rulebook.Evaluation.Tree
import Rulebook.Fault
import Rulebook.Files
import Rulebook.Json.Reader
import Rulebook.Json.Writer
import Rulebook.Main
import Rulebook.Pattern.Basic
import Rulebook.Pattern.CaseFolding
import Rulebook.Pattern.Category
import Rulebook.Pattern.Class
import Rulebook.Pattern.Escape
import Rulebook.Pattern.Library
import Rulebook.Pattern.Matching
import Rulebook.Pattern.Property
import Rulebook.Pattern.Reading
import Rulebook.Pattern.Size
import Rulebook.Proofs.Catalog.Applications
import Rulebook.Proofs.Catalog.Builtin
import Rulebook.Proofs.Catalog.DictText
import Rulebook.Proofs.Catalog.Entries
import Rulebook.Proofs.Catalog.Formatting
import Rulebook.Proofs.Catalog.Integers
import Rulebook.Proofs.Catalog.Keys
import Rulebook.Proofs.Catalog.Testing
import Rulebook.Proofs.Check.Arguments
import Rulebook.Proofs.Check.Carrying
import Rulebook.Proofs.Check.Dividing
import Rulebook.Proofs.Check.Expressing
import Rulebook.Proofs.Check.Filling
import Rulebook.Proofs.Check.Matching
import Rulebook.Proofs.Check.Names
import Rulebook.Proofs.Check.Separating
import Rulebook.Proofs.Check.Writing
import Rulebook.Proofs.Command.Scene
import Rulebook.Proofs.Command.Verdicts
import Rulebook.Proofs.Config.Agreement
import Rulebook.Proofs.Config.Concealing
import Rulebook.Proofs.Config.Loading
import Rulebook.Proofs.Config.Report
import Rulebook.Proofs.Config.Validation
import Rulebook.Proofs.Decimal.Integers
import Rulebook.Proofs.Decimal.Numerals
import Rulebook.Proofs.Equality
import Rulebook.Proofs.Evaluation.Calls
import Rulebook.Proofs.Evaluation.Capture
import Rulebook.Proofs.Evaluation.Chain
import Rulebook.Proofs.Evaluation.Checks
import Rulebook.Proofs.Evaluation.Comparisons
import Rulebook.Proofs.Evaluation.Conjunction
import Rulebook.Proofs.Evaluation.Depth
import Rulebook.Proofs.Evaluation.Descriptions
import Rulebook.Proofs.Evaluation.Faults
import Rulebook.Proofs.Evaluation.FunctionLists
import Rulebook.Proofs.Evaluation.Levels
import Rulebook.Proofs.Evaluation.Modes
import Rulebook.Proofs.Evaluation.Order
import Rulebook.Proofs.Evaluation.Policies
import Rulebook.Proofs.Evaluation.Registration
import Rulebook.Proofs.Evaluation.Runs
import Rulebook.Proofs.Evaluation.Simulation
import Rulebook.Proofs.Evaluation.Sound
import Rulebook.Proofs.Evaluation.Sources
import Rulebook.Proofs.Evaluation.Static
import Rulebook.Proofs.Evaluation.Termination
import Rulebook.Proofs.Evaluation.Trails
import Rulebook.Proofs.Evaluation.Walk
import Rulebook.Proofs.Fields
import Rulebook.Proofs.Results
import Rulebook.Proofs.Rule.Brackets
import Rulebook.Proofs.Rule.Chain
import Rulebook.Proofs.Rule.Closing
import Rulebook.Proofs.Rule.Encoding
import Rulebook.Proofs.Rule.Joining
import Rulebook.Proofs.Rule.Levels
import Rulebook.Proofs.Rule.Limits
import Rulebook.Proofs.Rule.Nesting
import Rulebook.Proofs.Rule.Reading
import Rulebook.Proofs.Rule.Redundancy
import Rulebook.Proofs.Rule.RoundTrip
import Rulebook.Proofs.Rule.Shape
import Rulebook.Proofs.Rule.Size
import Rulebook.Proofs.Rule.Splitting
import Rulebook.Proofs.Rule.Wrapping
import Rulebook.Proofs.Slicing.Check
import Rulebook.Proofs.Slicing.Cuts
import Rulebook.Proofs.Slicing.Dict
import Rulebook.Proofs.Slicing.Pairs
import Rulebook.Proofs.Slicing.Rule
import Rulebook.Proofs.Slicing.Scanner
import Rulebook.Proofs.Slicing.Slice
import Rulebook.Proofs.Text.Escaping
import Rulebook.Proofs.Text.Lossy
import Rulebook.Proofs.Text.Lowercase
import Rulebook.Proofs.Text.Searching
import Rulebook.Proofs.Text.Trimming
import Rulebook.Proofs.Text.Weight
import Rulebook.Proofs.Url.Hosts
import Rulebook.Rule.Balance
import Rulebook.Rule.Canonical
import Rulebook.Rule.Encoding
import Rulebook.Rule.ReadError
import Rulebook.Rule.Reading
import Rulebook.Rule.Segment
import Rulebook.Rule.Structure
import Rulebook.Rule.Tree
import Rulebook.Text.Alphanumeric
import Rulebook.Text.Blank
import Rulebook.Text.Glyph
import Rulebook.Text.Hex
import Rulebook.Text.Lossy
import Rulebook.Text.Lowercase
import Rulebook.Text.Ranges
import Rulebook.Text.Search
import Rulebook.Toml.Node
import Rulebook.Toml.Quoted
import Rulebook.Toml.Reading
import Rulebook.Toml.Scalar
import Rulebook.Url.Address
import Rulebook.Url.Composition
import Rulebook.Url.Direction
import Rulebook.Url.Domain
import Rulebook.Url.Joining
import Rulebook.Url.Mapping
import Rulebook.Url.Punycode
import Rulebook.Url.Reading
import Rulebook.Value

import Provision.Command
import Provision.Command.Disk
import Provision.Command.Session
import Provision.Component
import Provision.Double
import Provision.Double.Notation
import Provision.Double.Shortest
import Provision.Error
import Provision.Files
import Provision.Go.Imports
import Provision.Go.Printer
import Provision.Go.Quoted
import Provision.Go.Syntax
import Provision.Graph
import Provision.Graph.Build
import Provision.Graph.Dot
import Provision.Graph.Order
import Provision.Graph.Plan
import Provision.Identifier
import Provision.Json
import Provision.Json.Number
import Provision.Json.Reader
import Provision.Json.Source
import Provision.Json.Writer
import Provision.Library
import Provision.Main
import Provision.Pattern
import Provision.Pattern.Class
import Provision.Pattern.Property
import Provision.Pattern.Reader
import Provision.Placeholder.Lexeme
import Provision.Placeholder.Template
import Provision.Program
import Provision.Project
import Provision.Project.Codec
import Provision.Proofs.Command.History
import Provision.Proofs.Command.Reloading
import Provision.Proofs.Command.Saving
import Provision.Proofs.Command.Session
import Provision.Proofs.Command.Unsteady
import Provision.Proofs.Double
import Provision.Proofs.Files
import Provision.Proofs.Go.Identifiers
import Provision.Proofs.Graph.Consistency
import Provision.Proofs.Graph.Declarations
import Provision.Proofs.Graph.DependencyOrder
import Provision.Proofs.Graph.Duplicates
import Provision.Proofs.Graph.Edges
import Provision.Proofs.Graph.Exploration
import Provision.Proofs.Graph.Growth
import Provision.Proofs.Graph.Privacy
import Provision.Proofs.Graph.Reordering
import Provision.Proofs.Graph.Shape
import Provision.Proofs.Graph.Steps
import Provision.Proofs.Graph.Supply
import Provision.Proofs.Graph.Visiting
import Provision.Proofs.Identifier
import Provision.Proofs.Json.Documents
import Provision.Proofs.Json.Literal
import Provision.Proofs.Json.Record
import Provision.Proofs.Outcome
import Provision.Proofs.Placeholder
import Provision.Proofs.Placeholder.Grammar
import Provision.Proofs.Program.Agreement
import Provision.Proofs.Program.Blocks
import Provision.Proofs.Program.Emission
import Provision.Proofs.Project.Documents
import Provision.Proofs.Project.Names
import Provision.Proofs.Project.Upserts
import Provision.Proofs.Reading
import Provision.Proofs.Sameness
import Provision.Proofs.Scope.Expansion
import Provision.Proofs.Scope.Formats
import Provision.Proofs.Scope.Idempotence
import Provision.Proofs.Scope.Resolution
import Provision.Proofs.Scope.Substitution
import Provision.Proofs.Table
import Provision.Proofs.Value
import Provision.Proofs.Workload.Documents
import Provision.Scope
import Provision.Scope.Collect
import Provision.Scope.Interpolate
import Provision.Source
import Provision.Table
import Provision.Text.Alphabetic
import Provision.Text.Capital
import Provision.Text.Category
import Provision.Text.CharSet
import Provision.Text.Decimal
import Provision.Text.Folding
import Provision.Text.Lowercase
import Provision.Text.Numeric
import Provision.Text.Quoted
import Provision.Text.Script
import Provision.Text.Space
import Provision.Text.Unprinted
import Provision.Text.Uppercase
import Provision.Text.Word
import Provision.Value
import Provision.Workload
import Provision.Workload.Decode
import Provision.Workload.Encode
import Provision.Workload.Params
import Provision.Yaml.Cursor
import Provision.Yaml.Node
import Provision.Yaml.Scalar
import Provision.Yaml.Schema
import Provision.Yaml.Source
import Provision.Yaml.Token
import Provision.Proofs.Placeholder.Canonical
import Provision.Proofs.Go.Parts
import Provision.Proofs.Go.Imports
import Provision.Proofs.Program.Forms
import Provision.Proofs.Program.Plan
import Provision.Proofs.Program.Capture
import Provision.Proofs.Double.Intervals
import Provision.Proofs.Double.Numerals
import Provision.Proofs.Program.Printing
import Provision.Proofs.Go.Quoted
import Provision.Proofs.Program.Literals
import Provision.Proofs.Go.Denotation
import Provision.Proofs.Go.Rearrangement
import Provision.Proofs.Program.Keys
import Provision.Proofs.Frames
import Provision.Proofs.Workload.Mounts
import Provision.Proofs.Graph.Replacement
import Provision.Proofs.Program.Positions
import Provision.Proofs.Program.Contents
import Provision.Proofs.Json.Faithful
import Provision.Proofs.Json.Trees
import Provision.Proofs.Placeholder.Paths
import Provision.Proofs.Profile
import Provision.Proofs.Workload.Parameters
import Provision.Proofs.Identifier.Digest
import Provision.Proofs.Graph.Drawing
import Provision.Proofs.Identifier.Fields
import Provision.Proofs.Scope.Unmarked

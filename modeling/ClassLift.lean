import ClassLift.Callee
import ClassLift.ClassBody.Instance
import ClassLift.ClassBody.Method
import ClassLift.ClassBody.Placement
import ClassLift.ClassShell
import ClassLift.CommandLine.Arguments
import ClassLift.CommandLine.Command
import ClassLift.CommandLine.Report
import ClassLift.CommandLine.Run
import ClassLift.Config.Basic
import ClassLift.Config.Failure
import ClassLift.Config.Field
import ClassLift.Config.Load
import ClassLift.Config.Overrides
import ClassLift.Config.Setting
import ClassLift.Conversion
import ClassLift.Failure
import ClassLift.Files
import ClassLift.Json.Access
import ClassLift.Json.Basic
import ClassLift.Json.Display
import ClassLift.Json.Equality
import ClassLift.Json.Reader
import ClassLift.Json.Token
import ClassLift.Json.Writer
import ClassLift.Main
import ClassLift.Member.Classify
import ClassLift.Member.Table
import ClassLift.Namespace.Path
import ClassLift.Namespace.Scope
import ClassLift.Node
import ClassLift.Number.Binary64
import ClassLift.Number.Decimal
import ClassLift.Number.Numeral
import ClassLift.Options
import ClassLift.Program
import ClassLift.Proofs.Callee
import ClassLift.Proofs.ClassBody.Addition
import ClassLift.Proofs.ClassBody.Assembly
import ClassLift.Proofs.ClassBody.Capture
import ClassLift.Proofs.ClassBody.Constructor
import ClassLift.Proofs.ClassBody.Effect
import ClassLift.Proofs.ClassBody.Locations
import ClassLift.Proofs.CommandLine.Output
import ClassLift.Proofs.Config.Overrides
import ClassLift.Proofs.Conversion.Bindings
import ClassLift.Proofs.Conversion.Calls
import ClassLift.Proofs.Conversion.Constructors
import ClassLift.Proofs.Conversion.Dialect
import ClassLift.Proofs.Conversion.Layout
import ClassLift.Proofs.Conversion.Locations
import ClassLift.Proofs.Conversion.Members
import ClassLift.Proofs.Conversion.Naming
import ClassLift.Proofs.Conversion.Paths
import ClassLift.Proofs.Conversion.Stages
import ClassLift.Proofs.Conversion.Superclass
import ClassLift.Proofs.Conversion.Verdict
import ClassLift.Proofs.Files
import ClassLift.Proofs.Json.Lexing
import ClassLift.Proofs.Json.RoundTrip
import ClassLift.Proofs.LookUp
import ClassLift.Proofs.Member.Classify
import ClassLift.Proofs.Member.Locations
import ClassLift.Proofs.Member.Partition
import ClassLift.Proofs.Member.Shape
import ClassLift.Proofs.Member.Table
import ClassLift.Proofs.Namespace.Constant
import ClassLift.Proofs.Namespace.Discipline
import ClassLift.Proofs.Namespace.Guards
import ClassLift.Proofs.Namespace.Path
import ClassLift.Proofs.Namespace.Scope
import ClassLift.Proofs.Namespace.Store
import ClassLift.Proofs.Program.Leftover
import ClassLift.Proofs.Program.Merge
import ClassLift.Proofs.Program.Scan
import ClassLift.Proofs.Program.SingleCall
import ClassLift.Proofs.Program.Staleness
import ClassLift.Proofs.Program.Watch
import ClassLift.Proofs.Text.Lower
import ClassLift.Proofs.Text.Pieces
import ClassLift.Proofs.Tree.Locations
import ClassLift.Proofs.Tree.Parts
import ClassLift.Proofs.Tree.Paths
import ClassLift.Proofs.Tree.Preorder
import ClassLift.Proofs.Tree.Scoping
import ClassLift.Proofs.Tree.Stripping
import ClassLift.Proofs.Tree.Walk
import ClassLift.Terminal.Cell
import ClassLift.Terminal.Cluster
import ClassLift.Terminal.Emoji
import ClassLift.Terminal.EmojiNames
import ClassLift.Terminal.Frame
import ClassLift.Terminal.Literal
import ClassLift.Terminal.Markup
import ClassLift.Terminal.Style
import ClassLift.Terminal.Wrap
import ClassLift.Text.Case
import ClassLift.Text.Digit
import ClassLift.Text.Pieces
import ClassLift.Text.Shown
import ClassLift.Trace
import ClassLift.Tree
import ClassLift.Workbench
import ClassLift.Yaml.Cursor
import ClassLift.Yaml.Display
import ClassLift.Yaml.Document
import ClassLift.Yaml.Fault
import ClassLift.Yaml.Kind
import ClassLift.Yaml.Moment
import ClassLift.Yaml.Node
import ClassLift.Yaml.Scalar
import ClassLift.Yaml.ScalarText
import ClassLift.Yaml.Token

import ImageBuild.Archive.Error
import ImageBuild.Archive.Layout
import ImageBuild.Archive.Pack
import ImageBuild.Archive.Unpack
import ImageBuild.Archive.Unpacked
import ImageBuild.Args
import ImageBuild.Cache.PullCache
import ImageBuild.Cache.Service
import ImageBuild.Cache.Store
import ImageBuild.Clock
import ImageBuild.Config.Auth
import ImageBuild.Config.Build
import ImageBuild.Config.Checked
import ImageBuild.Config.Cleanup
import ImageBuild.Config.Field
import ImageBuild.Config.Image
import ImageBuild.Config.Issue
import ImageBuild.Config.Loaded
import ImageBuild.Config.Refusal
import ImageBuild.Config.RunFile
import ImageBuild.Config.Written
import ImageBuild.Context
import ImageBuild.Daemon.Client
import ImageBuild.Daemon.Error
import ImageBuild.Data.Display
import ImageBuild.Data.Moment
import ImageBuild.Data.Table
import ImageBuild.Data.Value
import ImageBuild.Decimal.Binary64
import ImageBuild.Decimal.Notation
import ImageBuild.Decimal.Shortest
import ImageBuild.Dockerfile.BaseImage
import ImageBuild.Dockerfile.Instruction
import ImageBuild.Dockerfile.Variable
import ImageBuild.Duration
import ImageBuild.Fault
import ImageBuild.Files.Content
import ImageBuild.Files.Error
import ImageBuild.Files.Tree
import ImageBuild.Json.Failure
import ImageBuild.Json.Reader
import ImageBuild.Json.Writer
import ImageBuild.Log.Levels
import ImageBuild.Log.Line
import ImageBuild.Log.Logger
import ImageBuild.Log.Record
import ImageBuild.Log.Setup
import ImageBuild.Login
import ImageBuild.Machine.Call
import ImageBuild.Machine.Collaborators
import ImageBuild.Machine.Daemon
import ImageBuild.Machine.World
import ImageBuild.Path
import ImageBuild.Program
import ImageBuild.Pull.Policy
import ImageBuild.Pull.Query
import ImageBuild.Reference.Basic
import ImageBuild.Reference.Grammar
import ImageBuild.Text.Base64
import ImageBuild.Text.Blank
import ImageBuild.Text.Digits
import ImageBuild.Text.Lines
import ImageBuild.Text.Printable
import ImageBuild.Text.Quoted
import ImageBuild.Text.Ranges
import ImageBuild.Text.Split
import ImageBuild.Text.Upper
import ImageBuild.Text.Utf8
import ImageBuild.Text.WordChar
import ImageBuild.Wiring
import ImageBuild.Workflow.AutoPull
import ImageBuild.Workflow.Build
import ImageBuild.Workflow.Call
import ImageBuild.Workflow.Execute
import ImageBuild.Workflow.Removal
import ImageBuild.Workflow.Script
import ImageBuild.Yaml.Document
import ImageBuild.Yaml.Earliest
import ImageBuild.Yaml.Fault
import ImageBuild.Yaml.Meaning
import ImageBuild.Yaml.Moment
import ImageBuild.Yaml.Node
import ImageBuild.Yaml.Node.Parser
import ImageBuild.Yaml.Number
import ImageBuild.Yaml.Scalar
import ImageBuild.Yaml.Spot
import ImageBuild.Yaml.Tag
import ImageBuild.Yaml.Token
import ImageBuild.Yaml.Token.Block
import ImageBuild.Yaml.Token.Lexer
import ImageBuild.Yaml.Token.Mark
import ImageBuild.Yaml.Token.Plain
import ImageBuild.Yaml.Token.Quoted
import ImageBuild.Machine.Run
import ImageBuild.Proofs.Args
import ImageBuild.Proofs.Clock
import ImageBuild.Proofs.Cache.RoundTrip
import ImageBuild.Proofs.Cache.Held
import ImageBuild.Proofs.Reference.Qualified
import ImageBuild.Proofs.Program.Confined
import ImageBuild.Proofs.Workflow.Handlers
import ImageBuild.Proofs.Workflow.Check
import ImageBuild.Proofs.Workflow.Pulls
import ImageBuild.Proofs.Workflow.Course
import ImageBuild.Proofs.Session.Play
import ImageBuild.Proofs.Session.Once
import ImageBuild.Proofs.Session.Alias
import ImageBuild.Proofs.Session.Record
import ImageBuild.Proofs.Program.Failing
import ImageBuild.Proofs.Workflow.Abort
import ImageBuild.Proofs.Session.Failure
import ImageBuild.Proofs.Cache.Uses
import ImageBuild.Proofs.Program.Blind
import ImageBuild.Proofs.Workflow.Unlogged
import ImageBuild.Proofs.Session.InTurn
import ImageBuild.Proofs.Workflow.Execution
import ImageBuild.Proofs.Session.Retirement
import ImageBuild.Proofs.Workflow.Settle
import ImageBuild.Proofs.Workflow.Dealings
import ImageBuild.Proofs.Session.Order
import ImageBuild.Proofs.Cache.Canonical
import ImageBuild.Proofs.Reference.Words
import ImageBuild.Proofs.Reference.Spelling
import ImageBuild.Proofs.Machine.Fetch
import ImageBuild.Proofs.Machine.Answering
import ImageBuild.Proofs.Machine.Failure
import ImageBuild.Proofs.Machine.Request
import ImageBuild.Proofs.Machine.Naming
import ImageBuild.Proofs.Reference.Reading
import ImageBuild.Proofs.Config.Accepted
import ImageBuild.Proofs.Config.Checked
import ImageBuild.Proofs.Config.Written
import ImageBuild.Proofs.Config.Loading
import ImageBuild.Proofs.Archive.Location
import ImageBuild.Proofs.Files.Node
import ImageBuild.Proofs.Files.Place
import ImageBuild.Proofs.Files.Change
import ImageBuild.Proofs.Archive.Listing
import ImageBuild.Proofs.Archive.Making
import ImageBuild.Proofs.Archive.Exclusion
import ImageBuild.Proofs.Archive.Repeated
import ImageBuild.Proofs.Archive.Unpacking
import ImageBuild.Proofs.Archive.RoundTrip
import ImageBuild.Proofs.Workflow.Modes
import ImageBuild.Proofs.Program.Warnings
import ImageBuild.Proofs.Workflow.Retiring
import ImageBuild.Proofs.Text.Utf8
import ImageBuild.Proofs.Text.Lines
import ImageBuild.Proofs.Text.Words
import ImageBuild.Proofs.Dockerfile.FirstLine
import ImageBuild.Proofs.Dockerfile.Alike
import ImageBuild.Proofs.Dockerfile.Layout
import ImageBuild.Proofs.Workflow.BuiltOn
import ImageBuild.Proofs.Machine.Addressing
import ImageBuild.Proofs.Data.Splits
import ImageBuild.Proofs.Dockerfile.References
import ImageBuild.Proofs.Dockerfile.Declared
import ImageBuild.Proofs.Dockerfile.Substituted
import ImageBuild.Proofs.Dockerfile.Unresolved
import ImageBuild.Proofs.Machine.Resolution
import ImageBuild.Proofs.Config.Lookup
import ImageBuild.Proofs.Log.Assigned
import ImageBuild.Proofs.Log.Names
import ImageBuild.Proofs.Log.Levels
import ImageBuild.Proofs.Pull.Decision
import ImageBuild.Proofs.Archive.Ways
import ImageBuild.Proofs.Archive.Prefixed
import ImageBuild.Proofs.Archive.Assembly
import ImageBuild.Proofs.Files.Beside
import ImageBuild.Proofs.Archive.Enclosed
import ImageBuild.Proofs.Text.Upper
import ImageBuild.Proofs.Dockerfile.Genuine

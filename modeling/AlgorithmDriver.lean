import AlgorithmDriver.CommandLine.Arguments
import AlgorithmDriver.CommandLine.Basic
import AlgorithmDriver.CommandLine.Exchange
import AlgorithmDriver.CommandLine.Generation
import AlgorithmDriver.CommandLine.Supply
import AlgorithmDriver.Cpp.Declaration
import AlgorithmDriver.Cpp.Page
import AlgorithmDriver.Driver.Basic
import AlgorithmDriver.Driver.Config
import AlgorithmDriver.Driver.Error
import AlgorithmDriver.Driver.Id
import AlgorithmDriver.Driver.Instance
import AlgorithmDriver.Driver.Log
import AlgorithmDriver.Driver.Stream
import AlgorithmDriver.Driver.Table
import AlgorithmDriver.Driver.Wait
import AlgorithmDriver.Driver.World
import AlgorithmDriver.Filter.Basic
import AlgorithmDriver.Filter.Lines
import AlgorithmDriver.Filter.Producer
import AlgorithmDriver.Filter.Stream
import AlgorithmDriver.Host.Basic
import AlgorithmDriver.Host.Bytes
import AlgorithmDriver.Host.Errno
import AlgorithmDriver.Host.Execute
import AlgorithmDriver.Host.FileTree
import AlgorithmDriver.Host.Path
import AlgorithmDriver.Host.Program
import AlgorithmDriver.Host.Schedule
import AlgorithmDriver.Host.Signal
import AlgorithmDriver.Installation
import AlgorithmDriver.Json.Description
import AlgorithmDriver.Json.Lexer
import AlgorithmDriver.Json.Problem
import AlgorithmDriver.Json.Reader
import AlgorithmDriver.Json.Skip
import AlgorithmDriver.Json.Writer
import AlgorithmDriver.Main
import AlgorithmDriver.Model.Algorithm
import AlgorithmDriver.Model.Error
import AlgorithmDriver.Model.Name
import AlgorithmDriver.Model.NamedList
import AlgorithmDriver.Model.Same
import AlgorithmDriver.Model.Variable
import AlgorithmDriver.Number.Binary64
import AlgorithmDriver.Number.Decimal
import AlgorithmDriver.Number.Power
import AlgorithmDriver.Number.Shortest
import AlgorithmDriver.Proofs.CommandLine.Collecting
import AlgorithmDriver.Proofs.CommandLine.Copying
import AlgorithmDriver.Proofs.CommandLine.Ending
import AlgorithmDriver.Proofs.CommandLine.Exchange
import AlgorithmDriver.Proofs.CommandLine.Feeding
import AlgorithmDriver.Proofs.CommandLine.Generation
import AlgorithmDriver.Proofs.CommandLine.Processes
import AlgorithmDriver.Proofs.CommandLine.Starting
import AlgorithmDriver.Proofs.CommandLine.Transfer
import AlgorithmDriver.Proofs.CommandLine.Turns
import AlgorithmDriver.Proofs.Cpp.Grammar
import AlgorithmDriver.Proofs.Cpp.Layout
import AlgorithmDriver.Proofs.Cpp.Outline
import AlgorithmDriver.Proofs.Cpp.Page
import AlgorithmDriver.Proofs.Cpp.Tokens
import AlgorithmDriver.Proofs.Driver.Access
import AlgorithmDriver.Proofs.Driver.Answers
import AlgorithmDriver.Proofs.Driver.Audit
import AlgorithmDriver.Proofs.Driver.Buffers
import AlgorithmDriver.Proofs.Driver.Changes
import AlgorithmDriver.Proofs.Driver.Company
import AlgorithmDriver.Proofs.Driver.Custody
import AlgorithmDriver.Proofs.Driver.Dismissal
import AlgorithmDriver.Proofs.Driver.Effects
import AlgorithmDriver.Proofs.Driver.Ending
import AlgorithmDriver.Proofs.Driver.Feed
import AlgorithmDriver.Proofs.Driver.FileChannel
import AlgorithmDriver.Proofs.Driver.FileRun
import AlgorithmDriver.Proofs.Driver.Handles
import AlgorithmDriver.Proofs.Driver.Holdings
import AlgorithmDriver.Proofs.Driver.Inquiry
import AlgorithmDriver.Proofs.Driver.Instance
import AlgorithmDriver.Proofs.Driver.Lasting
import AlgorithmDriver.Proofs.Driver.Later
import AlgorithmDriver.Proofs.Driver.Lending
import AlgorithmDriver.Proofs.Driver.Lifecycle
import AlgorithmDriver.Proofs.Driver.Managing
import AlgorithmDriver.Proofs.Driver.Noninterference
import AlgorithmDriver.Proofs.Driver.Onward
import AlgorithmDriver.Proofs.Driver.Operations
import AlgorithmDriver.Proofs.Driver.Outcomes
import AlgorithmDriver.Proofs.Driver.Ownership
import AlgorithmDriver.Proofs.Driver.Phase
import AlgorithmDriver.Proofs.Driver.Piping
import AlgorithmDriver.Proofs.Driver.Records
import AlgorithmDriver.Proofs.Driver.Refusals
import AlgorithmDriver.Proofs.Driver.Registry
import AlgorithmDriver.Proofs.Driver.Releases
import AlgorithmDriver.Proofs.Driver.Reports
import AlgorithmDriver.Proofs.Driver.Resolution
import AlgorithmDriver.Proofs.Driver.Run
import AlgorithmDriver.Proofs.Driver.Scope
import AlgorithmDriver.Proofs.Driver.Seclusion
import AlgorithmDriver.Proofs.Driver.Stage
import AlgorithmDriver.Proofs.Driver.Staging
import AlgorithmDriver.Proofs.Driver.Streams
import AlgorithmDriver.Proofs.Driver.Table
import AlgorithmDriver.Proofs.Driver.Takings
import AlgorithmDriver.Proofs.Driver.TearDown
import AlgorithmDriver.Proofs.Driver.Tending
import AlgorithmDriver.Proofs.Except
import AlgorithmDriver.Proofs.Host.Confinement
import AlgorithmDriver.Proofs.Host.FileTree
import AlgorithmDriver.Proofs.Host.Flows
import AlgorithmDriver.Proofs.Host.Holders
import AlgorithmDriver.Proofs.Host.Later
import AlgorithmDriver.Proofs.Host.Onward
import AlgorithmDriver.Proofs.Host.Path
import AlgorithmDriver.Proofs.Host.Pipes
import AlgorithmDriver.Proofs.Host.Spares
import AlgorithmDriver.Proofs.Host.Steps
import AlgorithmDriver.Proofs.Host.WriteEnd
import AlgorithmDriver.Proofs.Json.Accept
import AlgorithmDriver.Proofs.Json.Collecting
import AlgorithmDriver.Proofs.Json.Commitment
import AlgorithmDriver.Proofs.Json.Ensure
import AlgorithmDriver.Proofs.Json.Extents
import AlgorithmDriver.Proofs.Json.Format
import AlgorithmDriver.Proofs.Json.Grammar
import AlgorithmDriver.Proofs.Json.Lexeme
import AlgorithmDriver.Proofs.Json.Lexer
import AlgorithmDriver.Proofs.Json.Position
import AlgorithmDriver.Proofs.Json.RoundTrip
import AlgorithmDriver.Proofs.Json.Skip
import AlgorithmDriver.Proofs.Json.Structure
import AlgorithmDriver.Proofs.Json.Written
import AlgorithmDriver.Proofs.Model.Collection
import AlgorithmDriver.Proofs.Model.History
import AlgorithmDriver.Proofs.Model.Namespace
import AlgorithmDriver.Proofs.Model.Sameness
import AlgorithmDriver.Proofs.Model.Sequence
import AlgorithmDriver.Proofs.Model.Validity
import AlgorithmDriver.Proofs.Number.Decimal
import AlgorithmDriver.Proofs.Session
import AlgorithmDriver.Session
import AlgorithmDriver.Shell.Arithmetic
import AlgorithmDriver.Shell.Builtin
import AlgorithmDriver.Shell.Evaluation
import AlgorithmDriver.Shell.Expansion
import AlgorithmDriver.Shell.Format
import AlgorithmDriver.Shell.Invocation
import AlgorithmDriver.Shell.Pattern
import AlgorithmDriver.Shell.Reader
import AlgorithmDriver.Shell.State
import AlgorithmDriver.Shell.Statement
import AlgorithmDriver.Shell.Test
import AlgorithmDriver.Text.Printable
import AlgorithmDriver.Text.Quoted
import AlgorithmDriver.Workbench

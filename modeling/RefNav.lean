import RefNav.BinaryInsertion
import RefNav.Cancellation.Job
import RefNav.Cancellation.Token
import RefNav.Cancellation.TokenSource
import RefNav.Chain
import RefNav.Command.Configure
import RefNav.Command.ContextExpression
import RefNav.Command.Define
import RefNav.Command.Extract
import RefNav.Command.Invocation
import RefNav.Command.Jump
import RefNav.Command.Links
import RefNav.CommandLine.Binding
import RefNav.CommandLine.Commands
import RefNav.CommandLine.Grammar
import RefNav.CommandLine.Misuse
import RefNav.CommandLine.Run
import RefNav.Document
import RefNav.Exchange
import RefNav.Fault
import RefNav.FileFault
import RefNav.FileTree.Basic
import RefNav.FileTree.PathName
import RefNav.Json.Literal
import RefNav.Json.Reader
import RefNav.Json.Value
import RefNav.Json.Writer
import RefNav.Jump.Address
import RefNav.Jump.Resolve
import RefNav.Link
import RefNav.Location
import RefNav.Log
import RefNav.Main
import RefNav.Number.Binary64
import RefNav.Number.Decimal
import RefNav.Number.Rounding
import RefNav.Proofs.Agreement
import RefNav.Proofs.Cancellation.History
import RefNav.Proofs.Cancellation.Job
import RefNav.Proofs.Cancellation.Token
import RefNav.Proofs.Cancellation.TokenSource
import RefNav.Proofs.Chain
import RefNav.Proofs.Command.Configure
import RefNav.Proofs.Command.Definition
import RefNav.Proofs.Command.Search
import RefNav.Proofs.CommandLine.Blotted
import RefNav.Proofs.Dialogue
import RefNav.Proofs.Exchange
import RefNav.Proofs.FileTree.Below
import RefNav.Proofs.FileTree.PathName
import RefNav.Proofs.FileTree.Probe
import RefNav.Proofs.FileTree.Proper
import RefNav.Proofs.Json.Canonical
import RefNav.Proofs.Json.Limits
import RefNav.Proofs.Json.Members
import RefNav.Proofs.Json.RoundTrip
import RefNav.Proofs.Json.Scalar
import RefNav.Proofs.Json.Written
import RefNav.Proofs.Jump
import RefNav.Proofs.Jump.Address
import RefNav.Proofs.Jump.Spelling
import RefNav.Proofs.Link
import RefNav.Proofs.Number.Binary64
import RefNav.Proofs.Number.Positive
import RefNav.Proofs.Provider
import RefNav.Proofs.Reference.Canonical
import RefNav.Proofs.Reference.Cursor
import RefNav.Proofs.Reference.Dollars
import RefNav.Proofs.Reference.Enumeration
import RefNav.Proofs.Reference.Extract
import RefNav.Proofs.Reference.Grammar
import RefNav.Proofs.Reference.Overlap
import RefNav.Proofs.Reference.Parts
import RefNav.Proofs.Reference.Recognition
import RefNav.Proofs.Reference.Scan
import RefNav.Proofs.Reference.Shape
import RefNav.Proofs.Remote.Authorization
import RefNav.Proofs.Remote.Call
import RefNav.Proofs.Remote.Cancellation
import RefNav.Proofs.Remote.ContextExpression
import RefNav.Proofs.Remote.Credentials
import RefNav.Proofs.Remote.Endpoint
import RefNav.Proofs.Remote.Failure
import RefNav.Proofs.Remote.Lookup
import RefNav.Proofs.Remote.Post
import RefNav.Proofs.Remote.Retry
import RefNav.Proofs.Remote.Route
import RefNav.Proofs.Remote.Wording
import RefNav.Proofs.Report.Table
import RefNav.Proofs.Settings.Blotted
import RefNav.Proofs.Settings.BlottedFile
import RefNav.Proofs.Settings.BlottedWrite
import RefNav.Proofs.Settings.Combine
import RefNav.Proofs.Settings.Load
import RefNav.Proofs.Settings.Override
import RefNav.Proofs.Settings.ProjectRoot
import RefNav.Proofs.Settings.Timeout
import RefNav.Proofs.Settings.Variables
import RefNav.Proofs.Settings.Write
import RefNav.Proofs.Settings.WriteFailure
import RefNav.Proofs.Text.Ascii
import RefNav.Proofs.Text.Base64
import RefNav.Proofs.Text.Breaks
import RefNav.Proofs.Text.Lines
import RefNav.Proofs.Text.Utf8
import RefNav.Proofs.Workspace.ClassName
import RefNav.Proofs.Workspace.Declaration
import RefNav.Proofs.Workspace.Index
import RefNav.Proofs.Workspace.LabelCall
import RefNav.Proofs.Workspace.LabelTable
import RefNav.Proofs.Workspace.Labels
import RefNav.Proofs.Workspace.LocalSearch
import RefNav.Proofs.Workspace.Lookup
import RefNav.Proofs.Workspace.Scan
import RefNav.Proofs.Workspace.Word
import RefNav.Provider
import RefNav.Reference.Basic
import RefNav.Reference.Extract
import RefNav.Reference.Shape
import RefNav.Remote.Connection
import RefNav.Remote.ContextExpression
import RefNav.Remote.Lookup
import RefNav.Remote.Post
import RefNav.Report.Envelope
import RefNav.Report.Refusal
import RefNav.Report.Table
import RefNav.Report.Timestamp
import RefNav.Settings.Basic
import RefNav.Settings.Block
import RefNav.Settings.Config
import RefNav.Settings.Logged
import RefNav.Text.Base64
import RefNav.Text.Blank
import RefNav.Text.Control
import RefNav.Text.Digit
import RefNav.Text.Letter
import RefNav.Text.Lines
import RefNav.Text.Percent
import RefNav.Text.Printable
import RefNav.Text.Quoted
import RefNav.Text.Ranges
import RefNav.Text.Similarity
import RefNav.Text.Unpaired
import RefNav.Text.Utf8
import RefNav.Text.Word
import RefNav.Workspace.Index
import RefNav.Workspace.Labels
import RefNav.Workspace.Lookup
import RefNav.Workspace.Open

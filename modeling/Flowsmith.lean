import Flowsmith.Artifact
import Flowsmith.Batch.Collect
import Flowsmith.Batch.Compile
import Flowsmith.Batch.Sources
import Flowsmith.Batch.Unit
import Flowsmith.Binary64
import Flowsmith.Channel.Binding
import Flowsmith.Channel.Resolve
import Flowsmith.CommandLine
import Flowsmith.Config.Basic
import Flowsmith.Config.Read
import Flowsmith.Container
import Flowsmith.DataModel
import Flowsmith.Definition.Basic
import Flowsmith.Definition.Read
import Flowsmith.Definition.Schema
import Flowsmith.Definition.Write
import Flowsmith.Dict
import Flowsmith.Digest
import Flowsmith.Executable
import Flowsmith.FileTree
import Flowsmith.Host
import Flowsmith.Index
import Flowsmith.Json.Basic
import Flowsmith.Json.Decode
import Flowsmith.Json.Fault
import Flowsmith.Json.Mismatch
import Flowsmith.Json.Parse
import Flowsmith.Json.Pointer
import Flowsmith.Json.Reader
import Flowsmith.Json.Shape
import Flowsmith.Json.Skip
import Flowsmith.Json.Writer
import Flowsmith.Lowering
import Flowsmith.Main
import Flowsmith.Naming
import Flowsmith.Page.Basic
import Flowsmith.Page.Context
import Flowsmith.Page.Entry
import Flowsmith.Page.Members
import Flowsmith.Page.Message
import Flowsmith.Page.Model
import Flowsmith.Page.Rest
import Flowsmith.Path
import Flowsmith.Report
import Flowsmith.Resource
import Flowsmith.Source.Comment
import Flowsmith.Source.Line
import Flowsmith.Source.Literal
import Flowsmith.Source.Scan
import Flowsmith.Source.Token
import Flowsmith.Text.Affix
import Flowsmith.Text.Blank
import Flowsmith.Text.Distance
import Flowsmith.Text.Hex
import Flowsmith.Text.Hidden
import Flowsmith.Text.Identifier
import Flowsmith.Text.Lowercase
import Flowsmith.Text.Quoted
import Flowsmith.Text.Ranges
import Flowsmith.Text.Similar
import Flowsmith.Text.Utf8
import Flowsmith.Trigger
import Flowsmith.Validation.Check
import Flowsmith.Validation.Finding
import Flowsmith.Validation.Reach
import Flowsmith.Proofs.Paths
import Flowsmith.Proofs.Words
import Flowsmith.Proofs.ClassFiles
import Flowsmith.Proofs.Quoting
import Flowsmith.Proofs.Registration
import Flowsmith.Proofs.Headers
import Flowsmith.Proofs.Results
import Flowsmith.Proofs.Dictionaries
import Flowsmith.Proofs.CodeLines
import Flowsmith.Proofs.Symbols
import Flowsmith.Proofs.CodeReading
import Flowsmith.Proofs.LineReading
import Flowsmith.Proofs.RowReading
import Flowsmith.Proofs.PageReading
import Flowsmith.Proofs.PageBlocks
import Flowsmith.Proofs.LoweredReading
import Flowsmith.Proofs.References
import Flowsmith.Proofs.ContainerText
import Flowsmith.Proofs.Places
import Flowsmith.Proofs.FanOut
import Flowsmith.Proofs.Stages
import Flowsmith.Proofs.CoreConsistency
import Flowsmith.Proofs.Calls
import Flowsmith.Proofs.JsonText
import Flowsmith.Proofs.IndexText
import Flowsmith.Proofs.Accounting
import Flowsmith.Proofs.Labels
import Flowsmith.Proofs.Isolation
import Flowsmith.Proofs.Reordering
import Flowsmith.Proofs.Channels
import Flowsmith.Proofs.Copies
import Flowsmith.Proofs.Messages
import Flowsmith.Proofs.PathOrder
import Flowsmith.Proofs.FirstWins
import Flowsmith.Proofs.Containment
import Flowsmith.Proofs.Outcomes
import Flowsmith.Proofs.Directions
import Flowsmith.Proofs.RoundTrip
import Flowsmith.Proofs.TokenText
import Flowsmith.Proofs.LoweredText
import Flowsmith.Proofs.Construction
import Flowsmith.Proofs.DisplayNames
import Flowsmith.Proofs.Renaming
import Flowsmith.Proofs.WellFormed
import Flowsmith.Proofs.Lowerable
import Flowsmith.Proofs.Connectors
import Flowsmith.Proofs.Dropping
import Flowsmith.Proofs.Reachability
import Flowsmith.Proofs.FieldNames
import Flowsmith.Proofs.Endpoints
import Flowsmith.Proofs.ModelFields
import Flowsmith.Proofs.StoredModels
import Flowsmith.Proofs.Bindings
import Flowsmith.Proofs.Fingerprints
import Flowsmith.Proofs.Handlers
import Flowsmith.Proofs.CalledProcesses
import Flowsmith.Proofs.EditDistance
import Flowsmith.Proofs.ModulePaths
import Flowsmith.Proofs.ModuleNames
import Flowsmith.Proofs.DistinctFiles

import WorkspaceImport.Text.Blank
import WorkspaceImport.Text.Lines
import WorkspaceImport.Json.Reader
import WorkspaceImport.Json.Printer
import WorkspaceImport.Artifact.Json
import WorkspaceImport.Artifact.IdeInfo
import WorkspaceImport.Files.Tree
import WorkspaceImport.Failure
import WorkspaceImport.Tool
import WorkspaceImport.Package.Scan
import WorkspaceImport.ImportOrder.Traversal
import WorkspaceImport.Project
import WorkspaceImport.Progress
import WorkspaceImport.Cache.Resolve
import WorkspaceImport.Import
import WorkspaceImport.Session
import WorkspaceImport.Log.Output
import WorkspaceImport.Main
import WorkspaceImport.Shell.Run
import WorkspaceImport.Log.Line
import WorkspaceImport.Config.Load
import WorkspaceImport.Shell.Regex
import WorkspaceImport.Proofs.OrderedMap
import WorkspaceImport.Proofs.Label
import WorkspaceImport.Proofs.Cache.Step
import WorkspaceImport.Proofs.Cache.Turn
import WorkspaceImport.Proofs.Cache.Move
import WorkspaceImport.Proofs.Cache.History
import WorkspaceImport.Proofs.Cache.Usage
import WorkspaceImport.Proofs.Cache.Settled
import WorkspaceImport.Proofs.Cache.Answers
import WorkspaceImport.Proofs.Cache.Passive
import WorkspaceImport.Proofs.Cache.Abort
import WorkspaceImport.Proofs.Cache.Append
import WorkspaceImport.Proofs.ImportOrder.Graph
import WorkspaceImport.Proofs.ImportOrder.Traversal
import WorkspaceImport.Proofs.ImportOrder.Order
import WorkspaceImport.Proofs.Import.Names
import WorkspaceImport.Proofs.Cache.Remembered
import WorkspaceImport.Proofs.Cache.Expansion
import WorkspaceImport.Proofs.Cache.Transparency
import WorkspaceImport.Proofs.ImportOrder.Cycle
import WorkspaceImport.Proofs.TextFormat.Grouping
import WorkspaceImport.Proofs.TextFormat.Grammar
import WorkspaceImport.Proofs.TextFormat.Token
import WorkspaceImport.Proofs.TextFormat.Printing
import WorkspaceImport.Proofs.Artifact.IdeInfo
import WorkspaceImport.Proofs.Files.Path
import WorkspaceImport.Proofs.Files.Tree
import WorkspaceImport.Proofs.Package.Scan
import WorkspaceImport.Proofs.Package.Tree
import WorkspaceImport.Proofs.Package.Cover
import WorkspaceImport.Proofs.Cache.Once
import WorkspaceImport.Proofs.Cache.Orderly
import WorkspaceImport.Proofs.Cache.Invalidation
import WorkspaceImport.Proofs.Import.Stages
import WorkspaceImport.Proofs.Import.References
import WorkspaceImport.Proofs.Import.Cancellation
import WorkspaceImport.Proofs.Cache.PackageFallback
import WorkspaceImport.Proofs.Cache.Marks
import WorkspaceImport.Proofs.Cache.Complete
import WorkspaceImport.Proofs.Cache.Single
import WorkspaceImport.Proofs.Cache.Listing
import WorkspaceImport.Proofs.Cache.Replay
import WorkspaceImport.Proofs.ImportOrder.DepthFirst
import WorkspaceImport.Proofs.ImportOrder.Stability
import WorkspaceImport.Proofs.ImportOrder.Records
import WorkspaceImport.Proofs.Import.Projects
import WorkspaceImport.Proofs.Outcome
import WorkspaceImport.Proofs.TextFormat.Joining
import WorkspaceImport.Proofs.Json.Object
import WorkspaceImport.Proofs.Artifact.Legacy
import WorkspaceImport.Proofs.Artifact.Absent
import WorkspaceImport.Proofs.Cache.Fresh
import WorkspaceImport.Proofs.Config
import WorkspaceImport.Proofs.Text.Lines
import WorkspaceImport.Proofs.Invoker
import WorkspaceImport.Proofs.Artifact.Mapping
import WorkspaceImport.Proofs.Artifact.Ignored
import WorkspaceImport.Proofs.Files.Kinds
import WorkspaceImport.Proofs.Files.Directories
import WorkspaceImport.Proofs.Files.Atomic
import WorkspaceImport.Proofs.Cache.Progress
import WorkspaceImport.Proofs.ImportOrder.Search
import WorkspaceImport.Proofs.TextFormat.Tiling
import WorkspaceImport.Proofs.Json.Nesting
import WorkspaceImport.Proofs.TextFormat.Nesting
import WorkspaceImport.Proofs.Package.Reached

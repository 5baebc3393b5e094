import OverlayShell.Main
import OverlayShell.Terminal.CommandLine
import OverlayShell.Configuration
import OverlayShell.Session.Pipeline
import OverlayShell.Session.Diversions
import OverlayShell.Session.Tools
import OverlayShell.Session.Environment
import OverlayShell.Session.Mutation
import OverlayShell.Session.Inspection
import OverlayShell.Session.Navigation
import OverlayShell.Commands.BlockLetters
import OverlayShell.Commands.Table
import OverlayShell.Chance
import OverlayShell.Clock
import OverlayShell.Console.Capture
import OverlayShell.Console.Template
import OverlayShell.Number.Places
import OverlayShell.Console.Buffer
import OverlayShell.Console.Line
import OverlayShell.Console.Completion
import OverlayShell.Search.Report
import OverlayShell.Search.Statistics
import OverlayShell.Pattern.Reading
import OverlayShell.Pattern.Scan
import OverlayShell.Text.CharName
import OverlayShell.Arithmetic.Evaluation
import OverlayShell.Tree.Sample
import OverlayShell.Workspace.Change
import OverlayShell.Overlay.Merge
import OverlayShell.Tree.OfDocument
import OverlayShell.Tree.Walk
import OverlayShell.Document.Json
import OverlayShell.Document.Basic
import OverlayShell.Bindings
import OverlayShell.Number.Shortest
import OverlayShell.Text.Colour
import OverlayShell.Text.Quoted
import OverlayShell.Text.Layout
import OverlayShell.Text.Digit
import OverlayShell.Text.Letter
import OverlayShell.Text.PrintTable
import OverlayShell.Proofs.NormalPath
import OverlayShell.Proofs.Mark
import OverlayShell.Proofs.Level
import OverlayShell.Proofs.Surviving
import OverlayShell.Proofs.Placing
import OverlayShell.Proofs.Recording
import OverlayShell.Proofs.MergedView
import OverlayShell.Proofs.StaleView
import OverlayShell.Proofs.WorkspaceRun
import OverlayShell.Proofs.CreatedFile
import OverlayShell.Proofs.Uncovering
import OverlayShell.Proofs.CreatedFolder
import OverlayShell.Proofs.FolderReasons
import OverlayShell.Proofs.PlainPath
import OverlayShell.Proofs.FlatList
import OverlayShell.Proofs.Deletion
import OverlayShell.Proofs.PlainRun
import OverlayShell.Proofs.DeletedFolder
import OverlayShell.Proofs.Sparing
import OverlayShell.Proofs.Writing
import OverlayShell.Proofs.AttentiveRun
import OverlayShell.Proofs.Barring
import OverlayShell.Proofs.StayingEmpty
import OverlayShell.Proofs.Moves
import OverlayShell.Proofs.Standing
import OverlayShell.Proofs.WorkingDirectory
import OverlayShell.Proofs.Refusal
import OverlayShell.Proofs.DeletedFile
import OverlayShell.Proofs.LastingView
import OverlayShell.Proofs.PlainSession
import OverlayShell.Proofs.Touching
import OverlayShell.Proofs.Removing
import OverlayShell.Proofs.OpenFiles
import OverlayShell.Proofs.FolderOrder
import OverlayShell.Proofs.Tombstones
import OverlayShell.Proofs.CreatedContent
import OverlayShell.Proofs.KeyStart
import OverlayShell.Proofs.ListedOpenFiles
import OverlayShell.Proofs.CoreCommands
import OverlayShell.Proofs.Transcript
import OverlayShell.Proofs.AliasUse
import OverlayShell.Proofs.Capturing
import OverlayShell.Proofs.Resolving
import OverlayShell.Proofs.ConfiguredTree
import OverlayShell.Proofs.Revising
import OverlayShell.Proofs.Enumeration
import OverlayShell.Proofs.EditedContent
import OverlayShell.Proofs.BoundedSearch
import OverlayShell.Proofs.LiteralSearch
import OverlayShell.Proofs.PatternFaults
import OverlayShell.Proofs.Suggestions
import OverlayShell.Proofs.Recall
import OverlayShell.Proofs.ExtensionCounts
import OverlayShell.Proofs.Numerals
import OverlayShell.Proofs.TokenOrder
import OverlayShell.Proofs.Spacing
import OverlayShell.Proofs.Spelling
import OverlayShell.Proofs.Precedence
import OverlayShell.Proofs.Calculation
import OverlayShell.Proofs.TypedCalculation
import OverlayShell.Proofs.RecentRuns
import OverlayShell.Proofs.PlainText
import OverlayShell.Proofs.LeftoverSequences
import OverlayShell.Proofs.MarkedLines
import OverlayShell.Proofs.Drawing
import OverlayShell.Proofs.FirstFault

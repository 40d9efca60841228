import PipeShell.App
import PipeShell.Builtins
import PipeShell.Command
import PipeShell.Config
import PipeShell.EnvFile
import PipeShell.Environment
import PipeShell.Execution
import PipeShell.Fault
import PipeShell.Files.Path
import PipeShell.Files.Tree
import PipeShell.History
import PipeShell.Host
import PipeShell.Host.Scripted
import PipeShell.Input
import PipeShell.Job
import PipeShell.Line
import PipeShell.Line.Expand
import PipeShell.Line.Layout
import PipeShell.Line.Listing
import PipeShell.LogFilter
import PipeShell.Machine.Answer
import PipeShell.Machine.Catalogue
import PipeShell.Machine.Code
import PipeShell.Machine.Conventions
import PipeShell.Machine.Floating
import PipeShell.Machine.Host
import PipeShell.Machine.Numeral
import PipeShell.Machine.Octets
import PipeShell.Machine.Options
import PipeShell.Machine.Place
import PipeShell.Machine.Process
import PipeShell.Machine.Scheduler
import PipeShell.Machine.Script.Arithmetic
import PipeShell.Machine.Script.Builtins
import PipeShell.Machine.Script.Echo
import PipeShell.Machine.Script.Expansion
import PipeShell.Machine.Script.Fields
import PipeShell.Machine.Script.Interpreter
import PipeShell.Machine.Script.Jobs
import PipeShell.Machine.Script.Memory
import PipeShell.Machine.Script.Pattern
import PipeShell.Machine.Script.Program
import PipeShell.Machine.Script.Reader
import PipeShell.Machine.Script.Syntax
import PipeShell.Machine.Script.Test
import PipeShell.Machine.Script.Words
import PipeShell.Machine.Tool.ByteSet
import PipeShell.Machine.Tool.Cat
import PipeShell.Machine.Tool.Head
import PipeShell.Machine.Tool.Printf
import PipeShell.Machine.Tool.Rmdir
import PipeShell.Machine.Tool.Size
import PipeShell.Machine.Tool.Sleep
import PipeShell.Machine.Tool.Sort
import PipeShell.Machine.Tool.SortForm
import PipeShell.Machine.Tool.SortKey
import PipeShell.Machine.Tool.SortNotes
import PipeShell.Machine.Tool.Source
import PipeShell.Machine.Tool.Tr
import PipeShell.Machine.Tool.Wc
import PipeShell.Machine.Tool.Yes
import PipeShell.Main
import PipeShell.Notice
import PipeShell.Pipeline
import PipeShell.Plan
import PipeShell.Proofs.Accounting
import PipeShell.Proofs.Agreement
import PipeShell.Proofs.Asking
import PipeShell.Proofs.Assembling
import PipeShell.Proofs.Bindings
import PipeShell.Proofs.Books
import PipeShell.Proofs.Calls
import PipeShell.Proofs.Conduct
import PipeShell.Proofs.Construction
import PipeShell.Proofs.Custody
import PipeShell.Proofs.Cutting
import PipeShell.Proofs.DataFlow
import PipeShell.Proofs.ErrorOutput
import PipeShell.Proofs.Dealings
import PipeShell.Proofs.Denotation
import PipeShell.Proofs.Effects
import PipeShell.Proofs.Evidence
import PipeShell.Proofs.FailFast
import PipeShell.Proofs.Grammar
import PipeShell.Proofs.Handover
import PipeShell.Proofs.Joining
import PipeShell.Proofs.Launching
import PipeShell.Proofs.Layout
import PipeShell.Proofs.Lexing
import PipeShell.Proofs.Looping
import PipeShell.Proofs.Numbering
import PipeShell.Proofs.Offences
import PipeShell.Proofs.Opening
import PipeShell.Proofs.Outcome
import PipeShell.Proofs.Places
import PipeShell.Proofs.Pushes
import PipeShell.Proofs.Reading
import PipeShell.Proofs.Readying
import PipeShell.Proofs.Recording
import PipeShell.Proofs.Rendering
import PipeShell.Proofs.Renewal
import PipeShell.Proofs.Reporting
import PipeShell.Proofs.Roles
import PipeShell.Proofs.Runnable
import PipeShell.Proofs.Searching
import PipeShell.Proofs.Snapshot
import PipeShell.Proofs.Soundness
import PipeShell.Proofs.Speaking
import PipeShell.Proofs.Substitution
import PipeShell.Proofs.Turns
import PipeShell.Proofs.Values
import PipeShell.Proofs.Visits
import PipeShell.Proofs.Walks
import PipeShell.Proofs.Wires
import PipeShell.Proofs.Writers
import PipeShell.Search
import PipeShell.Session
import PipeShell.Settings
import PipeShell.Shell
import PipeShell.Symbols
import PipeShell.Text.Alphanumeric
import PipeShell.Text.Blank
import PipeShell.Text.Bytes
import PipeShell.Text.Columns
import PipeShell.Text.Decimal
import PipeShell.Text.Digest
import PipeShell.Text.Grapheme
import PipeShell.Text.Grapheme.Kind
import PipeShell.Text.Invisible
import PipeShell.Text.Lines
import PipeShell.Text.Painted
import PipeShell.Text.Quoted
import PipeShell.Theme
import PipeShell.Token
import PipeShell.Wiring
import PipeShell.World
import PipeShell.Proofs.Gathering
import PipeShell.Proofs.Leaving
import PipeShell.Proofs.MachineLaws
import PipeShell.Proofs.MachineNumbers
import PipeShell.Proofs.Counting

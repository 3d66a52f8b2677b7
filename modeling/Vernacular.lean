import Vernacular.Command.Flags
import Vernacular.Command.Invocation
import Vernacular.Dialect.Basic
import Vernacular.Dialect.Builtin
import Vernacular.Dialect.Load
import Vernacular.Dialect.Registry
import Vernacular.Dialect.Role
import Vernacular.Files.Disk
import Vernacular.Files.Error
import Vernacular.Files.Memory
import Vernacular.Files.Path
import Vernacular.Files.Volume
import Vernacular.Interpreter.Eval
import Vernacular.Interpreter.Fault
import Vernacular.Interpreter.Heap
import Vernacular.Interpreter.Log
import Vernacular.Interpreter.Machine
import Vernacular.Interpreter.Modules
import Vernacular.Interpreter.Operators
import Vernacular.Interpreter.Prompt
import Vernacular.Interpreter.Session
import Vernacular.Interpreter.Show
import Vernacular.Interpreter.Snapshot
import Vernacular.Interpreter.SourceForm
import Vernacular.Interpreter.Value
import Vernacular.Library.Core
import Vernacular.Library.Date
import Vernacular.Library.Dispatch
import Vernacular.Library.Files
import Vernacular.Library.Http
import Vernacular.Library.Install
import Vernacular.Library.Json
import Vernacular.Library.Math
import Vernacular.Library.Methods
import Vernacular.Library.NumberFormat
import Vernacular.Locale.NumberData
import Vernacular.Locale.Numbers
import Vernacular.Locale.Subtags
import Vernacular.Locale.Tag
import Vernacular.Main
import Vernacular.Number.Binary
import Vernacular.Number.Decimal
import Vernacular.Proofs.CompoundAssignment
import Vernacular.Proofs.ControlFlow
import Vernacular.Proofs.Coverage
import Vernacular.Proofs.Decoding
import Vernacular.Proofs.HeapRegions
import Vernacular.Proofs.Highlighting
import Vernacular.Proofs.Immutable
import Vernacular.Proofs.ImportStack
import Vernacular.Proofs.Invariants
import Vernacular.Proofs.Jumps
import Vernacular.Proofs.LibraryCalls
import Vernacular.Proofs.Members
import Vernacular.Proofs.ParsedTargets
import Vernacular.Proofs.ParserBudget
import Vernacular.Proofs.KeyOrder
import Vernacular.Proofs.NativeErrors
import Vernacular.Proofs.QuietNatives
import Vernacular.Proofs.StringViews
import Vernacular.Proofs.Registrations
import Vernacular.Proofs.ReservedWords
import Vernacular.Proofs.Responses
import Vernacular.Proofs.StandardInput
import Vernacular.Proofs.Tiling
import Vernacular.Proofs.Trivia
import Vernacular.Proofs.Scanning
import Vernacular.Proofs.ScopeStore
import Vernacular.Proofs.ScopeFrame
import Vernacular.Proofs.Cycles
import Vernacular.Proofs.CompactDisplay
import Vernacular.Proofs.Serving
import Vernacular.Proofs.Validation
import Vernacular.Syntax.Error
import Vernacular.Syntax.Highlight
import Vernacular.Syntax.Lexer
import Vernacular.Syntax.Listing
import Vernacular.Syntax.Parser
import Vernacular.Syntax.Printer
import Vernacular.Syntax.Token
import Vernacular.Syntax.Tree
import Vernacular.Text.Basic
import Vernacular.Text.Case
import Vernacular.Text.Letters
import Vernacular.Text.Printable
import Vernacular.Text.Quoted
import Vernacular.Text.Ranges
import Vernacular.Text.Utf8
import Vernacular.Text.Width
import Vernacular.Time.Civil
import Vernacular.Web.RequestLine
import Vernacular.Yaml.Document
import Vernacular.Yaml.Scanner
import Vernacular.Proofs.ModuleIsolation
import Vernacular.Proofs.DoubleBits
import Vernacular.Proofs.NearestDouble
import Vernacular.Proofs.JsonTokens

import SolidityRepl.Abi.Address
import SolidityRepl.Abi.Decoder
import SolidityRepl.Abi.Function
import SolidityRepl.Abi.Revert
import SolidityRepl.Abi.Schema
import SolidityRepl.Abi.Shape
import SolidityRepl.Abi.Type
import SolidityRepl.Backend.Basic
import SolidityRepl.Backend.Deployment
import SolidityRepl.Bytes
import SolidityRepl.Compilation
import SolidityRepl.Compiler.Basic
import SolidityRepl.Compiler.Registry
import SolidityRepl.Compiler.Shelf
import SolidityRepl.Decimal
import SolidityRepl.Diagnostic
import SolidityRepl.Evm.Machine
import SolidityRepl.Evm.Opcode
import SolidityRepl.Evm.Simulator
import SolidityRepl.Failure
import SolidityRepl.Fragment.Assignment
import SolidityRepl.Fragment.Declaration
import SolidityRepl.Fragment.Literal
import SolidityRepl.Fragment.Rule
import SolidityRepl.Hash.Keccak
import SolidityRepl.Hash.Sha256
import SolidityRepl.Import.Closure
import SolidityRepl.Import.Comment
import SolidityRepl.Import.Directive
import SolidityRepl.Import.Roots
import SolidityRepl.Json.Access
import SolidityRepl.Json.Basic
import SolidityRepl.Json.Fault
import SolidityRepl.Json.Parser
import SolidityRepl.Json.Printer
import SolidityRepl.Json.Shown
import SolidityRepl.Keyed
import SolidityRepl.Node.Basic
import SolidityRepl.Node.Chain
import SolidityRepl.Node.Process
import SolidityRepl.Node.Quantity
import SolidityRepl.Number
import SolidityRepl.Path
import SolidityRepl.Program
import SolidityRepl.Proofs.Abi.Overload
import SolidityRepl.Proofs.Abi.Reason
import SolidityRepl.Proofs.Act
import SolidityRepl.Proofs.Backend.Entry
import SolidityRepl.Proofs.Backend.Isolation
import SolidityRepl.Proofs.Backend.Latest
import SolidityRepl.Proofs.Backend.Nonce
import SolidityRepl.Proofs.Backend.Process
import SolidityRepl.Proofs.Backend.Results
import SolidityRepl.Proofs.Compilation
import SolidityRepl.Proofs.Compiler.Channels
import SolidityRepl.Proofs.Compiler.Constancy
import SolidityRepl.Proofs.Compiler.Key
import SolidityRepl.Proofs.Compiler.Newest
import SolidityRepl.Proofs.Compiler.Registry
import SolidityRepl.Proofs.Compiler.Selection
import SolidityRepl.Proofs.Compiler.Shelf
import SolidityRepl.Proofs.Compiler.Stock
import SolidityRepl.Proofs.Compiler.Transparency
import SolidityRepl.Proofs.Fragment.Assignment
import SolidityRepl.Proofs.Fragment.Declaration
import SolidityRepl.Proofs.Fragment.Keyword
import SolidityRepl.Proofs.Import.Closure
import SolidityRepl.Proofs.Import.Comment
import SolidityRepl.Proofs.Import.Directive
import SolidityRepl.Proofs.Import.Form
import SolidityRepl.Proofs.Import.Gathering
import SolidityRepl.Proofs.Import.Lines
import SolidityRepl.Proofs.Import.Lockstep
import SolidityRepl.Proofs.Import.Remote
import SolidityRepl.Proofs.Import.Roots
import SolidityRepl.Proofs.Import.UnitName
import SolidityRepl.Proofs.Json.Grammar
import SolidityRepl.Proofs.Json.RoundTrip
import SolidityRepl.Proofs.Keyed
import SolidityRepl.Proofs.Layout
import SolidityRepl.Proofs.Life
import SolidityRepl.Proofs.Node.Process
import SolidityRepl.Proofs.Node.Receipt
import SolidityRepl.Proofs.Node.Refusal
import SolidityRepl.Proofs.Node.Talk
import SolidityRepl.Proofs.Path.Climb
import SolidityRepl.Proofs.Program
import SolidityRepl.Proofs.Record
import SolidityRepl.Proofs.Replay
import SolidityRepl.Proofs.Retry
import SolidityRepl.Proofs.ReturnType
import SolidityRepl.Proofs.Returns
import SolidityRepl.Proofs.Run.Course
import SolidityRepl.Proofs.Run.Double
import SolidityRepl.Proofs.Run.History
import SolidityRepl.Proofs.Run.Journal
import SolidityRepl.Proofs.Run.Lesson
import SolidityRepl.Proofs.Run.Pragma
import SolidityRepl.Proofs.Run.Protocol
import SolidityRepl.Proofs.Run.Reload
import SolidityRepl.Proofs.Run.Rollback
import SolidityRepl.Proofs.Run.Stages
import SolidityRepl.Proofs.Session
import SolidityRepl.Proofs.Shell
import SolidityRepl.Proofs.Shell.Change
import SolidityRepl.Proofs.Shell.Parts
import SolidityRepl.Proofs.Signature
import SolidityRepl.Proofs.Store
import SolidityRepl.Proofs.Store.Collection
import SolidityRepl.Proofs.Text.Blank
import SolidityRepl.Proofs.Text.Search
import SolidityRepl.Proofs.Text.Split
import SolidityRepl.Proofs.Text.Word
import SolidityRepl.Proofs.Version.Comparison
import SolidityRepl.Proofs.Version.Conjunction
import SolidityRepl.Proofs.Version.Exact
import SolidityRepl.Proofs.Version.Order
import SolidityRepl.Proofs.Version.Specifier
import SolidityRepl.Proofs.World.Deed
import SolidityRepl.Proofs.World.Making
import SolidityRepl.Proofs.World.Sight
import SolidityRepl.Proofs.World.Sweep
import SolidityRepl.Proofs.World.Walk
import SolidityRepl.Retry
import SolidityRepl.ReturnType
import SolidityRepl.Run
import SolidityRepl.Session
import SolidityRepl.Settings
import SolidityRepl.Shell
import SolidityRepl.Statement
import SolidityRepl.Store
import SolidityRepl.Text.Blank
import SolidityRepl.Text.Compatible
import SolidityRepl.Text.Decomposition
import SolidityRepl.Text.Digit
import SolidityRepl.Text.Identifier
import SolidityRepl.Text.Lines
import SolidityRepl.Text.Number
import SolidityRepl.Text.Printable
import SolidityRepl.Text.Quoted
import SolidityRepl.Text.Search
import SolidityRepl.Text.ShellWords
import SolidityRepl.Text.Utf8
import SolidityRepl.Text.Word
import SolidityRepl.Url
import SolidityRepl.Version.Basic
import SolidityRepl.Version.Clause
import SolidityRepl.Version.Parser
import SolidityRepl.Version.Range
import SolidityRepl.World.Basic
import SolidityRepl.World.Duration
import SolidityRepl.World.Event
import SolidityRepl.World.Folder

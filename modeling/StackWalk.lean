import StackWalk.Address
import StackWalk.Architecture
import StackWalk.CallSite
import StackWalk.Callee
import StackWalk.Callee.Entry
import StackWalk.CommandLine
import StackWalk.CommandLine.Arguments
import StackWalk.CommandLine.Report
import StackWalk.Decimal.Shortest
import StackWalk.Elf
import StackWalk.Elf.Flaw
import StackWalk.Elf.Header
import StackWalk.Elf.Record
import StackWalk.Elf.Relocation
import StackWalk.Elf.Section
import StackWalk.Elf.SymbolTable
import StackWalk.Fault
import StackWalk.Frame
import StackWalk.Instruction
import StackWalk.Instruction.Disassembly
import StackWalk.Instruction.Operand
import StackWalk.Json.Codec
import StackWalk.Json.Document
import StackWalk.Json.Numeral
import StackWalk.Json.Printer
import StackWalk.Json.Reader
import StackWalk.Json.Record
import StackWalk.Json.Tagged
import StackWalk.Json.Value
import StackWalk.Limits
import StackWalk.Logging.Config
import StackWalk.Logging.Directive
import StackWalk.Logging.Level
import StackWalk.Main
import StackWalk.Module
import StackWalk.Order.Bisection
import StackWalk.Proofs.Walk.Callers
import StackWalk.Proofs.Walk.Change
import StackWalk.Registers
import StackWalk.Snapshot
import StackWalk.Snapshot.Capture
import StackWalk.Snapshot.Defect
import StackWalk.Snapshot.Index
import StackWalk.Snapshot.Mapping
import StackWalk.Snapshot.Remembered
import StackWalk.Snapshot.Walk
import StackWalk.Symbol.Display
import StackWalk.Symbol.Mangling
import StackWalk.Symbol.Mangling.Legacy
import StackWalk.Symbol.Mangling.Punycode
import StackWalk.Symbol.Mangling.V0
import StackWalk.Symbol.Mangling.V0.Cursor
import StackWalk.Symbol.Mangling.V0.Ident
import StackWalk.Symbol.Mangling.V0.Printer
import StackWalk.Symbol.Matching
import StackWalk.Symbol.Remembered
import StackWalk.Symbol.Source
import StackWalk.Symbol.Table
import StackWalk.SystemError
import StackWalk.Target
import StackWalk.Text.Blank
import StackWalk.Text.Case
import StackWalk.Text.Cased
import StackWalk.Text.LowerCase
import StackWalk.Text.Numeral
import StackWalk.Text.Path
import StackWalk.Text.Printable
import StackWalk.Text.Quoted
import StackWalk.Text.Ranges
import StackWalk.Text.Search
import StackWalk.Trace
import StackWalk.Walk
import StackWalk.Walk.Candidate
import StackWalk.Walk.Context
import StackWalk.Walk.FrameStack
import StackWalk.Walk.Innermost
import StackWalk.Walk.Loop
import StackWalk.Walk.PointerChain
import StackWalk.Walk.Recovery
import StackWalk.Walk.StackScan
import StackWalk.Walk.State
import StackWalk.Proofs.Walk.Phase
import StackWalk.Proofs.Walk.Evidence
import StackWalk.Proofs.Walk.Backfill
import StackWalk.Proofs.Walk.Budget
import StackWalk.Proofs.Walk.Climb
import StackWalk.Proofs.Walk.Halting
import StackWalk.Proofs.Walk.Order
import StackWalk.Proofs.Walk.Blacklist
import StackWalk.Proofs.Tables
import StackWalk.Proofs.Walk.Look
import StackWalk.Proofs.Walk.Scanning
import StackWalk.Proofs.Walk.Recoveries
import StackWalk.Proofs.Walk.CallPath
import StackWalk.Proofs.Walk.ScanPath
import StackWalk.Proofs.Walk.ChainPath
import StackWalk.Proofs.Walk.Ratchets
import StackWalk.Proofs.Walk.Alike
import StackWalk.Proofs.Walk.DeadPointer
import StackWalk.Proofs.Walk.FrameLimit
import StackWalk.Proofs.Walk.Neighbours
import StackWalk.Proofs.Walk.Gaps
import StackWalk.Proofs.Walk.CLibrary
import StackWalk.Proofs.Walk.Recursion
import StackWalk.Proofs.Walk.Iterations
import StackWalk.Proofs.Walk.Cutoff
import StackWalk.Proofs.Walk.Accounts
import StackWalk.Proofs.Walk.StackBase
import StackWalk.Proofs.Bisection
import StackWalk.Proofs.Numeral
import StackWalk.Proofs.Symbol.Index
import StackWalk.Proofs.Symbol.History
import StackWalk.Proofs.Symbol.Coverage
import StackWalk.Proofs.CallSite.Window
import StackWalk.Proofs.Maps
import StackWalk.Proofs.Snapshot.Images
import StackWalk.Proofs.Snapshot.Reordering
import StackWalk.Proofs.Snapshot.Overlay
import StackWalk.Proofs.Json.Reading
import StackWalk.Proofs.Json.Faithful
import StackWalk.Proofs.Trace.RoundTrip
import StackWalk.Proofs.Snapshot.RoundTrip
import StackWalk.Proofs.Walk.Repeats
import StackWalk.Proofs.Tokens
import StackWalk.Proofs.Instruction.Parts
import StackWalk.Proofs.Instruction.Forms
import StackWalk.Proofs.Instruction.Spellings
import StackWalk.Proofs.Occurrences
import StackWalk.Proofs.Instruction.Modifiers
import StackWalk.Proofs.Symbol.Spelling
import StackWalk.Proofs.Address.Grammar
import StackWalk.Proofs.Address.RoundTrip
import StackWalk.Proofs.Elf.Bias
import StackWalk.Proofs.LowerCase
import StackWalk.Proofs.Registers
import StackWalk.Proofs.CallSite.Width
import StackWalk.Proofs.Walk.Edits

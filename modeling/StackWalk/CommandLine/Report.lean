import StackWalk.Snapshot
import StackWalk.Symbol.Display
import StackWalk.Text.Numeral
import StackWalk.Trace

/-!
# StackWalk.CommandLine.Report — what the commands print

A trace is printed as a line about the thread, a line for each frame, and a line about its end.  Symbols
are printed as a table of address, size and name.  Both can be printed as JSON instead.
-/

namespace StackWalk.CommandLine

/-- The lines, each with an end of line. -/
def unlines (lines : List String) : String :=
  String.join (lines.map fun line => line ++ "\n")

/-- The line about the thread. -/
def threadLine (s : Snapshot) : String :=
  let thread := s.thread
  let arch := s.architecture.name
  let pc := s.registers.pc
  let sp := s.registers.sp
  s!"Thread {thread} ({arch}): pc={pc} sp={sp}"

/-- The line about the end of a trace. -/
def statusLine (t : Trace) : String :=
  let frames := t.frames.length
  match t.status with
  | .complete => s!"-- {frames} frames, complete"
  | .incomplete reason =>
    let message := reason.message
    s!"-- {frames} frames, incomplete: {message}"
  | .unsupported reason =>
    let message := reason.message
    s!"-- not unwound: {message}"

/-- A trace as text. -/
def traceText (s : Snapshot) (t : Trace) : String :=
  unlines ([threadLine s] ++ t.reportLines ++ [statusLine t])

/-- A trace as JSON. -/
def traceJson (t : Trace) : String :=
  unlines [Trace.codec.toPretty t]

/-- The width of the column of sizes. -/
def sizeWidth : Nat := 8

/-- A line of the table of symbols. -/
def symbolLine (address : Address) (size : List Char) (name : String) : String :=
  let column := String.ofList (Text.padStart sizeWidth ' ' size)
  s!"{address} {column} {name}"

/-- The line of a routine. -/
def routineLine (r : Symbol.Routine) : String :=
  symbolLine r.start (Text.decimalDigits r.size.toNat) (Symbol.displayName r.name)

/-- The line of an import. -/
def importLine (i : Symbol.Import) : String :=
  symbolLine i.address ['-'] (i.name ++ "@got")

/-- The symbols of a table as text. -/
def symbolText (t : Symbol.Table) : String :=
  unlines (t.sortedRoutines.map routineLine ++ t.sortedImports.map importLine)

/-- A routine as JSON, its members sorted by key. -/
def routineJson (r : Symbol.Routine) : Json :=
  .object [("name", .string r.name), ("size", .natural r.size), ("start", Address.codec.encode r.start)]

/-- An import as JSON, its members sorted by key. -/
def importJson (i : Symbol.Import) : Json :=
  .object [("address", Address.codec.encode i.address), ("name", .string i.name)]

/-- The symbols of a table as JSON. -/
def symbolJson (t : Symbol.Table) : String :=
  unlines [(Json.object [("functions", .array (t.sortedRoutines.map routineJson)),
    ("relocations", .array (t.sortedImports.map importJson))]).pretty]

end StackWalk.CommandLine

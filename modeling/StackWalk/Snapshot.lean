import StackWalk.Architecture
import StackWalk.Limits
import StackWalk.Registers
import StackWalk.Snapshot.Capture
import StackWalk.Snapshot.Mapping
import StackWalk.Symbol.Table

/-!
# StackWalk.Snapshot — a stopped thread as data

A snapshot holds all that a walk needs: the registers of the thread, the images of the process, its
symbols, the instructions around the calls, and the words of the stack.  It can be stored beside the
trace that it gave, and walked again where the process no longer exists.
-/

namespace StackWalk

/-- What was captured of a stopped thread. -/
structure Snapshot where
  architecture : Architecture
  /-- The number of the thread. -/
  thread : UInt64
  registers : Registers
  /-- The highest stack address of the thread, where it is known. -/
  stackBase : Option Address
  /-- The limits of a walk, where they differ from the standard ones. -/
  limits : Option Limits
  mappings : List Snapshot.Mapping
  routines : List Symbol.Routine
  imports : List Symbol.Import
  listings : List Snapshot.Listing
  regions : List Snapshot.Region

namespace Snapshot

/-- A snapshot in which nothing was captured. -/
def empty (arch : Architecture) : Snapshot where
  architecture := arch
  thread := 0
  registers := .ofPcSp .null .null
  stackBase := none
  limits := none
  mappings := []
  routines := []
  imports := []
  listings := []
  regions := []

/-- The limits of a walk, with the highest stack address filled in. -/
def effectiveLimits (s : Snapshot) : Limits :=
  let limits := s.limits.getD .standard
  { limits with stackBase := limits.stackBase.or s.stackBase }

/-! ## Adding to a snapshot -/

/-- The snapshot with one more image, which holds code. -/
def addMapping (s : Snapshot) (name : String) (start stop : Address) (kind : ModuleKind) : Snapshot :=
  { s with mappings := s.mappings ++ [⟨name, start, stop, some kind, true⟩] }

/-- The snapshot with one more routine, named by its symbol. -/
def addRoutine (s : Snapshot) (start : Address) (size : UInt64) (symbol : String) : Snapshot :=
  { s with routines := s.routines ++ [.ofSymbol start size symbol] }

/-- The snapshot with one more import. -/
def addImport (s : Snapshot) (address : Address) (name : String) : Snapshot :=
  { s with imports := s.imports ++ [⟨address, name⟩] }

/-- The snapshot with one more instruction. -/
def addInstruction (s : Snapshot) (address : Address) (i : Instruction) : Snapshot :=
  { s with listings := s.listings ++ [⟨address, i.length, i.text⟩] }

/-- The snapshot with more words of memory. -/
def addWords (s : Snapshot) (address : Address) (words : List UInt64) : Snapshot :=
  { s with regions := s.regions ++ [⟨address, words⟩] }

/-- The snapshot with the symbols of a table behind its own. -/
def overlay (s : Snapshot) (table : Symbol.Table) : Snapshot :=
  { s with
    routines := s.routines ++ table.sortedRoutines
    imports := s.imports ++ table.sortedImports }

/-! ## JSON -/

/-- The fields in JSON. -/
def schema : Json.Schema [Architecture, UInt64, Registers, Option Address, Option Limits, List Mapping,
    List Symbol.Routine, List Symbol.Import, List Listing, List Region] :=
  .cons (.required "architecture" Architecture.codec) <|
  .cons (.withDefault "thread" (.word "u64") 0) <|
  .cons (.required "registers" Registers.codec) <|
  .cons (.optional "stack_base" Address.codec) <|
  .cons (.optional "limits" Limits.codec) <|
  .cons (.withDefault "modules" (.list Mapping.codec) []) <|
  .cons (.withDefault "functions" (.list Symbol.Routine.codec) []) <|
  .cons (.withDefault "relocations" (.list Symbol.Import.codec) []) <|
  .cons (.withDefault "instructions" (.list Listing.codec) []) <|
  .cons (.withDefault "memory" (.list Region.codec) [])
  .nil

/-- A snapshot is written as an object, without a stack base or limits that it does not have. -/
def codec : Json.Codec Snapshot :=
  schema.codec "struct ProcessSnapshot"
    (fun (architecture, thread, registers, stackBase, limits, mappings, routines, imports, listings,
        regions, ()) =>
      ⟨architecture, thread, registers, stackBase, limits, mappings, routines, imports, listings,
        regions⟩)
    fun s => (s.architecture, s.thread, s.registers, s.stackBase, s.limits, s.mappings, s.routines,
      s.imports, s.listings, s.regions, ())

end Snapshot

end StackWalk

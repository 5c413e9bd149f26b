import StackWalk.Order.Bisection
import StackWalk.Snapshot
import StackWalk.Target

/-!
# StackWalk.Snapshot.Index — the answers of a snapshot

A snapshot answers for the process that it was captured from.  The answers come from an index that is
made once: the images sorted by start, the symbols, the instructions and the words by address.  Of
instructions or words at one address the last one counts.
-/

namespace StackWalk.Snapshot

/-- The instructions of a snapshot, by address. -/
abbrev InstructionMap := Std.ExtTreeMap Address Instruction compare

/-- The words of a snapshot, by address. -/
abbrev WordMap := Std.ExtTreeMap Address UInt64 compare

/-- A snapshot that is ready for questions. -/
structure Index where
  /-- The images, sorted by start. -/
  mappings : Array Mapping
  symbols : Symbol.Index
  instructions : InstructionMap
  words : WordMap

namespace Index

/-- The number of images that start at or below an address. -/
def countUpTo (index : Index) (a : Address) : Nat :=
  Order.countFront (fun m => m.start ≤ a) index.mappings

/-- The image that contains an address. -/
def mappingAt? (index : Index) (a : Address) : Option Mapping :=
  match index.countUpTo a with
  | 0 => none
  | i + 1 => index.mappings[i]?.filter fun m => m.contains a

/-- The answers about the process. -/
def target (index : Index) : Target where
  isCode a := (index.mappingAt? a).any Mapping.executable
  moduleOf a := (index.mappingAt? a).map Mapping.id
  kindOf a := (index.mappingAt? a).map Mapping.effectiveKind
  symbols := index.symbols.source
  decode a := index.instructions[a]?
  readWord a := index.words[a]?

end Index

/-- The symbols of a snapshot. -/
def symbolTable (s : Snapshot) : Symbol.Table :=
  .ofRecords s.routines s.imports

/-- The instructions of a snapshot by address. -/
def instructionMap (s : Snapshot) : InstructionMap :=
  s.listings.foldl (fun known l => known.insert l.address l.instruction) ∅

/-- The words of a snapshot and their addresses. -/
def slots (s : Snapshot) : List (Address × UInt64) :=
  s.regions.flatMap (Region.slots s.architecture.wordSize)

/-- The words of a snapshot by address. -/
def wordMap (s : Snapshot) : WordMap :=
  s.slots.foldl (fun known slot => known.insert slot.1 slot.2) ∅

/-- The index of a snapshot. -/
def index (s : Snapshot) : Index where
  mappings := (Mapping.sorted s.mappings).toArray
  symbols := s.symbolTable.index
  instructions := s.instructionMap
  words := s.wordMap

/-- The answers of a snapshot about its process. -/
def target (s : Snapshot) : Target := s.index.target

end StackWalk.Snapshot

import Std.Data.ExtTreeMap
import StackWalk.Address
import StackWalk.Json.Record
import StackWalk.Order.Bisection
import StackWalk.Symbol.Mangling

/-!
# StackWalk.Symbol.Table — routines and imports by address

A table collects the routines of a process, each with its entry, and the names that are bound to import
slots.  Several images may report one routine: the first record of an entry counts.  Of an import slot
the last name counts.

Questions are put to the index of a table, in which the routines are sorted by entry.  A routine whose
size is unknown extends to the next entry.
-/

namespace StackWalk.Symbol

/-- A routine: where it starts, its size in bytes or zero when it is unknown, and its name. -/
structure Routine where
  start : Address
  size : UInt64
  name : String
deriving DecidableEq, Repr, Inhabited

namespace Routine

/-- The routine that a symbol describes. -/
def ofSymbol (start : Address) (size : UInt64) (symbol : String) : Routine :=
  ⟨start, size, demangle symbol⟩

/-- The routine, `bias` bytes above. -/
def moved (bias : UInt64) (r : Routine) : Routine :=
  { r with start := r.start + bias }

/-- The fields in JSON. -/
def schema : Json.Schema [Address, UInt64, String] :=
  .cons (.required "start" Address.codec) <|
  .cons (.withDefault "size" (.word "u64") 0) <|
  .cons (.required "name" .text)
  .nil

/-- A routine is written as an object. -/
def codec : Json.Codec Routine :=
  schema.codec "struct FunctionSymbol" (fun (start, size, name, ()) => ⟨start, size, name⟩)
    fun r => (r.start, r.size, r.name, ())

end Routine

/-- The name that is bound to an import slot. -/
structure Import where
  address : Address
  name : String
deriving DecidableEq, Repr, Inhabited

namespace Import

/-- The import, with its slot `bias` bytes above. -/
def moved (bias : UInt64) (i : Import) : Import :=
  { i with address := i.address + bias }

/-- The fields in JSON. -/
def schema : Json.Schema [Address, String] :=
  .cons (.required "address" Address.codec) <| .cons (.required "name" .text) .nil

/-- An import is written as an object. -/
def codec : Json.Codec Import :=
  schema.codec "struct RelocationSymbol" (fun (address, name, ()) => ⟨address, name⟩)
    fun i => (i.address, i.name, ())

end Import

/-- The names of import slots, in the order of their addresses. -/
abbrev ImportMap := Std.ExtTreeMap Address String compare

/-- The map of some imports; the last name of a slot counts. -/
def ImportMap.ofRecords (imports : List Import) : ImportMap :=
  imports.foldl (fun names i => names.insert i.address i.name) ∅

/-- Routines in the order in which they were added, and imports. -/
structure Table where
  routines : List Routine
  imports : ImportMap

namespace Table

/-- The table without symbols. -/
def empty : Table := ⟨[], ∅⟩

/-- The table of some records, whose names are taken as they are. -/
def ofRecords (routines : List Routine) (imports : List Import) : Table :=
  ⟨routines, .ofRecords imports⟩

/-- The table with one more routine. -/
def addRoutine (t : Table) (start : Address) (size : UInt64) (symbol : String) : Table :=
  { t with routines := t.routines ++ [.ofSymbol start size symbol] }

/-- The table with a name bound to an import slot. -/
def addImport (t : Table) (address : Address) (name : String) : Table :=
  { t with imports := t.imports.insert address name }

/-- The table with everything added that another one holds. -/
def extend (t other : Table) : Table :=
  ⟨t.routines ++ other.routines, t.imports ∪ other.imports⟩

/-- The number of routines that were added. -/
def routineCount (t : Table) : Nat := t.routines.length

/-- The number of import slots. -/
def importCount (t : Table) : Nat := t.imports.size

/-- The first routine of every entry. -/
def firstByStart (routines : List Routine) : Std.ExtTreeMap Address Routine compare :=
  routines.foldl (fun known r => known.insertIfNew r.start r) ∅

/-- The first routine of every entry, sorted by entry. -/
def sortedRoutines (t : Table) : List Routine :=
  (firstByStart t.routines).toList.map Prod.snd

/-- The imports, sorted by slot. -/
def sortedImports (t : Table) : List Import :=
  t.imports.toList.map fun entry => ⟨entry.1, entry.2⟩

end Table

/-- A table that is ready for questions: its routines are sorted by entry, one for each entry. -/
structure Index where
  routines : Array Routine
  imports : ImportMap

namespace Index

/-- Where the routine at an index of the array ends, its end excluded. -/
def endOf (index : Index) (i : Nat) (r : Routine) : Address :=
  if 0 < r.size then r.start.aboveOrLast r.size
  else (index.routines[i + 1]?.map Routine.start).getD Address.last

/-- The number of routines that start at or below an address. -/
def countUpTo (index : Index) (a : Address) : Nat :=
  Order.countFront (fun r => r.start ≤ a) index.routines

/-- The routine that contains an address: the last one that starts at or below it, unless it ends
before. -/
def routineAt? (index : Index) (a : Address) : Option Routine :=
  match index.countUpTo a with
  | 0 => none
  | i + 1 => index.routines[i]?.filter fun r => a < index.endOf i r

/-- The entry of the routine that contains an address. -/
def entryOf? (index : Index) (a : Address) : Option Address :=
  (index.routineAt? a).map Routine.start

/-- The name of the routine with an entry. -/
def nameOf? (index : Index) (entry : Address) : Option String :=
  match index.countUpTo entry with
  | 0 => none
  | i + 1 => (index.routines[i]?.filter fun r => r.start = entry).map Routine.name

/-- The name that is bound to an import slot. -/
def importName? (index : Index) (a : Address) : Option String :=
  index.imports[a]?

end Index

/-- The index of a table. -/
def Table.index (t : Table) : Index :=
  ⟨t.sortedRoutines.toArray, t.imports⟩

end StackWalk.Symbol

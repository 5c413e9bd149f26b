import StackWalk.Elf.Relocation
import StackWalk.Symbol.Table

/-!
# StackWalk.Elf — symbols of an image in the ELF format

An image on disk names the routines of the program or of a library, and the import slots that the loader
fills.  All addresses in it are relative: where the image is loaded at another place, a bias is added to
each of them.
-/

namespace StackWalk.Elf

/-- The symbols of an image, at the addresses that it gives. -/
structure Contents where
  routines : List Symbol.Routine
  imports : List Symbol.Import

/-- The table of the symbols of an image that is loaded with a bias. -/
def Contents.table (contents : Contents) (bias : UInt64) : Symbol.Table :=
  .ofRecords (contents.routines.map (Symbol.Routine.moved bias))
    (contents.imports.map (Symbol.Import.moved bias))

/-- The routine that a symbol stands for, if it is defined and has a name. -/
def SymbolTable.routine? (t : SymbolTable) (image : ByteArray) (e : Entry) : Option Symbol.Routine :=
  if e.isRoutine then
    (t.strings.nameAt? image e.nameOffset).map fun name => .ofSymbol ⟨e.value⟩ e.size name
  else none

/-- The routines of a symbol table; the first symbol of a table is none. -/
def SymbolTable.routines (t : SymbolTable) (image : ByteArray) : List Symbol.Routine :=
  (t.entries.toList.drop 1).filterMap (t.routine? image)

/-- The import that a relocation makes: its slot with the name of its symbol. -/
def SymbolTable.import? (t : SymbolTable) (image : ByteArray) (r : Relocation) :
    Option Symbol.Import := do
  if r.symbol = 0 then none
  else
    let e ← t.entries[r.symbol]?
    let name ← t.strings.nameAt? image e.nameOffset
    some ⟨⟨r.slot⟩, name⟩

/-- Reads the symbols of an image. -/
def read (image : ByteArray) : Except Flaw Contents := do
  let header ← Header.parse image
  header.checkSegments image
  let sections ← header.sections image
  header.checkNames image sections
  let all ← SymbolTable.ofKind image header.format sections Section.symbolsKind
  let shared ← SymbolTable.ofKind image header.format sections Section.dynamicSymbolsKind
  Relocation.checkTargets sections all.index
  let relocations := Relocation.ofSections image header sections shared.index
  .ok {
    routines := all.routines image ++ shared.routines image
    imports := relocations.filterMap (shared.import? image) }

/-- The table of the symbols of an image that is loaded with a bias, as a reader of images finds them. -/
def loadWith {ε : Type} (reader : ByteArray → Except ε Contents) (image : ByteArray) (bias : UInt64) :
    Except ε Symbol.Table :=
  (reader image).map fun contents => contents.table bias

/-- The table of the symbols of an image that is loaded with a bias. -/
def load (image : ByteArray) (bias : UInt64) : Except Flaw Symbol.Table :=
  loadWith read image bias

end StackWalk.Elf

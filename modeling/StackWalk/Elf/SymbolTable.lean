import StackWalk.Elf.Section

/-!
# StackWalk.Elf.SymbolTable — the symbols of an image

An image has up to two symbol tables, each with a section of names.  A name starts at some offset of
that section and ends in front of a byte that is zero.
-/

namespace StackWalk.Elf

/-- The bytes that hold names, from `start` up to `stop`, which is excluded. -/
structure Strings where
  start : Nat
  stop : Nat
deriving DecidableEq, Repr

namespace Strings

/-- No names at all. -/
def none : Strings := ⟨0, 0⟩

/-- The index of the first zero among `count` bytes from an index on. -/
def firstZero (image : ByteArray) : Nat → Nat → Option Nat
  | 0, _ => .none
  | count + 1, i =>
    if h : i < image.size then
      if image[i] = 0 then some i else firstZero image count (i + 1)
    else .none

/-- The name that starts at an offset: not empty, and valid as text. -/
def nameAt? (strings : Strings) (image : ByteArray) (offset : Nat) : Option String := do
  let start := strings.start + offset
  if strings.stop ≤ image.size then
    let stop ← firstZero image (strings.stop - start) start
    let name ← String.fromUTF8? (image.extract start stop)
    if name.isEmpty then .none else some name
  else .none

end Strings

/-- A symbol of an image. -/
structure Entry where
  /-- Where its name starts in the section of names. -/
  nameOffset : Nat
  value : UInt64
  size : UInt64
  /-- The number of what it stands for. -/
  kind : Nat
  /-- The index of the section in which it is defined. -/
  home : Nat
deriving DecidableEq, Repr

namespace Entry

/-- The number of bytes of a symbol. -/
def recordSize : Extent := ⟨16, 24⟩

/-- Reads a symbol. -/
def ofRecord (format : Format) (record : ByteArray) : Entry where
  nameOffset := format.read record (.fixed 0 0 4)
  value := UInt64.ofNat (format.read record (.address 4 8))
  size := UInt64.ofNat (format.read record (.address 8 16))
  kind := format.read record (.fixed 12 4 1) % 16
  home := format.read record (.fixed 14 6 2)

/-- The kind of symbols that stand for routines. -/
def routineKind : Nat := 2

/-- The lowest section index that stands for no section. -/
def reservedHomes : Nat := 0xFF00

/-- The section index which says that a further table holds the index. -/
def extendedHome : Nat := 0xFFFF

/-- Whether the symbol stands for a routine that is defined in the image. -/
def isRoutine (e : Entry) : Bool :=
  e.kind == routineKind && e.home != 0 && (e.home < reservedHomes || e.home == extendedHome)

end Entry

/-- A table of symbols. -/
structure SymbolTable where
  /-- The index of its section, zero for a table that an image does not have. -/
  index : Nat
  entries : Array Entry
  strings : Strings

namespace SymbolTable

/-- The table that an image does not have. -/
def absent : SymbolTable := ⟨0, #[], .none⟩

/-- The names that a symbol table refers to. -/
def stringsAt (sections : List Section) (index : Nat) : Except Flaw Strings :=
  if index = 0 then .ok .none
  else do
    let s ← orFlaw .sectionIndex sections[index]?
    if s.kind ≠ Section.stringsKind then .error .stringsKind
    else if s.overflows then .error .stringsSize
    else .ok ⟨s.offset, s.offset + s.size⟩

/-- The number of bytes of a section index that is too large for a symbol. -/
def extendedIndexSize : Nat := 4

/-- Checks that the tables of section indices which belong to a symbol table can be read. -/
def checkExtendedIndex (image : ByteArray) (index : Nat) : List Section → Except Flaw Unit
  | [] => .ok ()
  | s :: sections => do
    if s.kind = Section.extendedIndexKind ∧ s.link = index then
      let _ ← orFlaw .extendedIndexData (s.records? image extendedIndexSize)
      checkExtendedIndex image index sections
    else checkExtendedIndex image index sections

/-- The first section of a kind and its index. -/
def findSection (sections : List Section) (kind : Nat) : Option (Nat × Section) :=
  sections.zipIdx.findSome? fun entry =>
    if entry.1.kind = kind then some (entry.2, entry.1) else none

/-- Reads the symbol table of a kind. -/
def ofKind (image : ByteArray) (format : Format) (sections : List Section) (kind : Nat) :
    Except Flaw SymbolTable :=
  match findSection sections kind with
  | none => .ok absent
  | some (index, s) => do
    let records ← orFlaw .symbolData (s.records? image (Entry.recordSize.at format.width))
    let strings ← stringsAt sections s.link
    checkExtendedIndex image index sections
    .ok ⟨index, (records.map (.ofRecord format)).toArray, strings⟩

end SymbolTable

end StackWalk.Elf

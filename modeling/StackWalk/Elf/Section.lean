import StackWalk.Elf.Header

/-!
# StackWalk.Elf.Section — the sections of an image

A section is a part of the file with one purpose.  The section table has an entry for each of them; the
first entry stands for no section, and holds the numbers for which the header is too small.
-/

namespace StackWalk.Elf

/-- An entry of the section table. -/
structure Section where
  /-- The number of its purpose. -/
  kind : Nat
  offset : Nat
  size : Nat
  /-- The index of a section that belongs to it. -/
  link : Nat
  /-- A further number, whose meaning depends on the kind. -/
  info : Nat
deriving DecidableEq, Repr

namespace Section

/-! ## Kinds -/

/-- The symbols of an image. -/
def symbolsKind : Nat := 2

/-- Names, one after the other. -/
def stringsKind : Nat := 3

/-- Relocations with addends. -/
def addendRelocationsKind : Nat := 4

/-- A section without bytes in the file. -/
def emptyKind : Nat := 8

/-- Relocations without addends. -/
def relocationsKind : Nat := 9

/-- The symbols that other images may use or provide. -/
def dynamicSymbolsKind : Nat := 11

/-- The section indices of symbols for which a symbol is too small. -/
def extendedIndexKind : Nat := 18

/-- Whether the section holds relocations. -/
def isRelocation (s : Section) : Bool :=
  s.kind == relocationsKind || s.kind == addendRelocationsKind

/-! ## Reading -/

/-- The number of bytes of an entry. -/
def entrySize : Extent := ⟨40, 64⟩

/-- Reads an entry. -/
def ofRecord (format : Format) (record : ByteArray) : Section where
  kind := format.read record (.fixed 4 4 4)
  offset := format.read record (.address 16 24)
  size := format.read record (.address 20 32)
  link := format.read record (.fixed 24 40 4)
  info := format.read record (.fixed 28 44 4)

/-- The bytes of a section, if they are within the file. -/
def bytes? (image : ByteArray) (s : Section) : Option ByteArray :=
  if s.kind = emptyKind then some .empty else bytesAt? image s.offset s.size

/-- The records of some size that a section consists of, if its bytes are within the file. -/
def records? (image : ByteArray) (s : Section) (size : Nat) : Option (List ByteArray) :=
  (s.bytes? image).bind (recordsOf? size)

/-- Whether the section ends beyond all offsets. -/
def overflows (s : Section) : Bool :=
  0x1_0000_0000_0000_0000 ≤ s.offset + s.size

end Section

namespace Header

/-- The first entry of the section table, if there is a table. -/
def firstSection? (h : Header) (image : ByteArray) : Except Flaw (Option Section) :=
  let size := Section.entrySize.at h.format.width
  if h.sectionOffset = 0 then .ok none
  else if h.sectionEntrySize ≠ size then .error .sectionEntrySize
  else do
    let record ← orFlaw .firstSection (bytesAt? image h.sectionOffset size)
    .ok (some (.ofRecord h.format record))

/-- A number of the header, or the one in the first section that replaces it. -/
def orInFirst (h : Header) (image : ByteArray) (value overflow : Nat) (instead : Section → Nat)
    (missing : Except Flaw Nat) : Except Flaw Nat :=
  if value ≠ overflow then .ok value
  else do
    match ← h.firstSection? image with
    | some first => .ok (instead first)
    | none => missing

/-- The highest number of two bytes, which says that the number is in the first section. -/
def elsewhere : Nat := 0xFFFF

/-- The number of bytes of an entry of the segment table. -/
def segmentSize : Extent := ⟨32, 56⟩

/-- Checks that the segment table is within the file. -/
def checkSegments (h : Header) (image : ByteArray) : Except Flaw Unit :=
  if h.segmentOffset = 0 then .ok ()
  else do
    let count ← h.orInFirst image h.segmentCount elsewhere Section.info (.error .segmentCount)
    let size := segmentSize.at h.format.width
    if count = 0 then .ok ()
    else if h.segmentEntrySize ≠ size then .error .segmentEntrySize
    else
      let _ ← orFlaw .segmentTable (bytesAt? image h.segmentOffset (count * size))
      .ok ()

/-- All entries of the section table. -/
def sections (h : Header) (image : ByteArray) : Except Flaw (List Section) :=
  if h.sectionOffset = 0 then .ok []
  else do
    let count ← h.orInFirst image h.sectionCount 0 Section.size (.ok 0)
    let size := Section.entrySize.at h.format.width
    if count = 0 then .ok []
    else if h.sectionEntrySize ≠ size then .error .sectionEntrySize
    else
      let records ← orFlaw .sectionTable (records? image h.sectionOffset count size)
      .ok (records.map (.ofRecord h.format))

/-- Checks that the names of the sections can be found. -/
def checkNames (h : Header) (image : ByteArray) (sections : List Section) : Except Flaw Unit :=
  if sections.isEmpty then .ok ()
  else do
    let index ← h.orInFirst image h.namesIndex elsewhere Section.link (.error .noSectionNames)
    if index = 0 then .error .noSectionNames
    else
      let names ← orFlaw .sectionNamesIndex sections[index]?
      if names.kind ≠ Section.emptyKind ∧ names.overflows then .error .sectionNamesSize else .ok ()

end Header

end StackWalk.Elf

import StackWalk.Elf.Flaw
import StackWalk.Elf.Record

/-!
# StackWalk.Elf.Header — the header of an image

The first sixteen bytes say what the file is and how its numbers are written.  The rest of the header
says where the tables of segments and of sections are.
-/

namespace StackWalk.Elf

/-- What the header of an image says. -/
structure Header where
  format : Format
  /-- The number of the instruction set. -/
  machine : Nat
  segmentOffset : Nat
  segmentEntrySize : Nat
  segmentCount : Nat
  sectionOffset : Nat
  sectionEntrySize : Nat
  sectionCount : Nat
  /-- The index of the section with the names of the sections. -/
  namesIndex : Nat
deriving DecidableEq, Repr

namespace Header

/-- The bytes that every image starts with. -/
def magic : List UInt8 := [0x7F, 0x45, 0x4C, 0x46]

/-- The number of bytes that identify a file. -/
def identSize : Nat := 16

/-- The number of bytes of a header. -/
def size : Extent := ⟨52, 64⟩

/-- The width that a byte stands for. -/
def widthOf : UInt8 → Option Width
  | 1 => some .narrow
  | 2 => some .wide
  | _ => none

/-- The byte order that a byte stands for. -/
def orderOf : UInt8 → Option ByteOrder
  | 1 => some .little
  | 2 => some .big
  | _ => none

/-- The width of an image, if the file is one. -/
def widthIn (ident : List UInt8) : Option Width :=
  if magic.isPrefixOf ident then ident[4]?.bind widthOf else none

/-- The byte order of an image of the one known version. -/
def orderIn (ident : List UInt8) : Option ByteOrder :=
  if ident[6]? = some 1 then ident[5]?.bind orderOf else none

/-- Reads the fields of a header. -/
def ofRecord (format : Format) (record : ByteArray) : Header where
  format := format
  machine := format.read record (.fixed 18 18 2)
  segmentOffset := format.read record (.address 28 32)
  sectionOffset := format.read record (.address 32 40)
  segmentEntrySize := format.read record (.fixed 42 54 2)
  segmentCount := format.read record (.fixed 44 56 2)
  sectionEntrySize := format.read record (.fixed 46 58 2)
  sectionCount := format.read record (.fixed 48 60 2)
  namesIndex := format.read record (.fixed 50 62 2)

/-- Reads the header of an image. -/
def parse (image : ByteArray) : Except Flaw Header := do
  let ident ← orFlaw .noMagic (bytesAt? image 0 identSize)
  let width ← orFlaw .unknownMagic (widthIn ident.toList)
  let record ← orFlaw .shortHeader (bytesAt? image 0 (size.at width))
  let order ← orFlaw .unsupportedHeader (orderIn ident.toList)
  .ok (ofRecord ⟨width, order⟩ record)

/-- The number of the one instruction set whose wide images write relocations in another order. -/
def mips : Nat := 8

/-- Whether the two halves of the information of a relocation with addend are swapped. -/
def swapsRelocations (h : Header) : Bool :=
  h.machine == mips && h.format == ⟨.wide, .little⟩

end Header

end StackWalk.Elf

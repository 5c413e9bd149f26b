/-!
# StackWalk.Elf.Record — numbers in the records of an image

An image is a sequence of bytes.  Its tables consist of records of a fixed size, and every field of a
record is a number of one, two, four or eight bytes.  Where a field lies depends on the width of an
address in the image, and how its bytes are read on the byte order.
-/

namespace StackWalk.Elf

/-- Which byte of a number comes first. -/
inductive ByteOrder
  /-- The lowest byte. -/
  | little
  /-- The highest byte. -/
  | big
deriving DecidableEq, Repr, Inhabited

/-- The number that some bytes write. -/
def ByteOrder.number : ByteOrder → List UInt8 → Nat
  | .little, bytes => bytes.foldr (fun b n => b.toNat + 256 * n) 0
  | .big, bytes => bytes.foldl (fun n b => 256 * n + b.toNat) 0

/-- The width of an address in an image. -/
inductive Width
  /-- Four bytes. -/
  | narrow
  /-- Eight bytes. -/
  | wide
deriving DecidableEq, Repr, Inhabited

/-- How the numbers of an image are written. -/
structure Format where
  width : Width
  order : ByteOrder
deriving DecidableEq, Repr, Inhabited

/-- A number of bytes, for either width. -/
structure Extent where
  narrow : Nat
  wide : Nat
deriving DecidableEq, Repr

/-- The number of bytes for a width. -/
def Extent.at (e : Extent) : Width → Nat
  | .narrow => e.narrow
  | .wide => e.wide

/-- Where a field lies in a record. -/
structure Place where
  /-- How many bytes are in front of it. -/
  offset : Extent
  /-- How many bytes it has. -/
  size : Extent
deriving DecidableEq, Repr

namespace Place

/-- A field of one size for both widths. -/
def fixed (narrow wide size : Nat) : Place := ⟨⟨narrow, wide⟩, ⟨size, size⟩⟩

/-- A field that is as wide as an address. -/
def address (narrow wide : Nat) : Place := ⟨⟨narrow, wide⟩, ⟨4, 8⟩⟩

end Place

/-- The number in a field of a record; bytes that a record lacks are not read. -/
def Format.read (format : Format) (record : ByteArray) (place : Place) : Nat :=
  let start := place.offset.at format.width
  format.order.number (record.extract start (start + place.size.at format.width)).toList

/-- The bytes from an offset on, if there are so many. -/
def bytesAt? (image : ByteArray) (offset size : Nat) : Option ByteArray :=
  if offset + size ≤ image.size then some (image.extract offset (offset + size)) else none

/-- The records of some size that bytes consist of, if nothing is left over at the end. -/
def recordsOf? (size : Nat) (bytes : ByteArray) : Option (List ByteArray) :=
  if bytes.size % size = 0 then
    some ((List.range (bytes.size / size)).map fun i => bytes.extract (i * size) (i * size + size))
  else none

/-- So many records of some size from an offset on, if the image has them all. -/
def records? (image : ByteArray) (offset count size : Nat) : Option (List ByteArray) :=
  (bytesAt? image offset (count * size)).bind (recordsOf? size)

end StackWalk.Elf

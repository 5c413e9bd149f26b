import StackWalk.Elf.SymbolTable

/-!
# StackWalk.Elf.Relocation — slots that are filled when an image is loaded

A relocation names a slot and a symbol: the loader writes the address of the symbol into the slot.  The
relocations of interest are those whose section refers to the symbols shared with other images.
-/

namespace StackWalk.Elf

/-- A slot and the index of the symbol that fills it, zero for no symbol. -/
structure Relocation where
  slot : UInt64
  symbol : Nat
deriving DecidableEq, Repr

namespace Relocation

/-- The number of bytes of a relocation without addend. -/
def plainSize : Extent := ⟨8, 16⟩

/-- The number of bytes of a relocation with addend. -/
def addendSize : Extent := ⟨12, 24⟩

/-- The index of the symbol in the information of a relocation. -/
def symbolIn (width : Width) (swapped : Bool) (info : Nat) : Nat :=
  match width with
  | .narrow => info / 0x100
  | .wide => if swapped then info % 0x1_0000_0000 else info / 0x1_0000_0000

/-- Reads a relocation. -/
def ofRecord (format : Format) (swapped : Bool) (record : ByteArray) : Relocation where
  slot := UInt64.ofNat (format.read record (.address 0 0))
  symbol := symbolIn format.width swapped (format.read record (.address 4 8))

/-- The relocations of a section; there are none where it does not consist of relocations that are
within the file. -/
def ofSection (image : ByteArray) (h : Header) (s : Section) : List Relocation :=
  let addend := s.kind == Section.addendRelocationsKind
  let size := (if addend then addendSize else plainSize).at h.format.width
  ((s.records? image size).getD []).map (.ofRecord h.format (addend && h.swapsRelocations))

/-- The relocations of all sections that refer to the symbol table at an index. -/
def ofSections (image : ByteArray) (h : Header) (sections : List Section) (index : Nat) :
    List Relocation :=
  ((sections.drop 1).filter fun s => s.isRelocation && s.link == index).flatMap (ofSection image h)

/-- What is wrong with the section that the relocations of a section apply to, if they refer to the
symbol table at an index; relocations of the image as a whole apply to none. -/
def targetFlaw? (sections : List Section) (index : Nat) (s : Section) : Option Flaw :=
  if s.isRelocation && s.link == index && s.info != 0 then
    match sections[s.info]? with
    | none => some .relocatedSection
    | some target => if target.isRelocation then some .relocatedRelocations else none
  else none

/-- Checks what the relocations of a symbol table apply to, from the last section to the first. -/
def checkTargets (sections : List Section) (index : Nat) : Except Flaw Unit :=
  match sections.reverse.findSome? (targetFlaw? sections index) with
  | none => .ok ()
  | some flaw => .error flaw

end Relocation

end StackWalk.Elf

/-!
# StackWalk.Elf.Flaw — why an image cannot be read

A reader trusts no number in an image: every table has to lie within the file, and every index has to
name something.
-/

namespace StackWalk.Elf

/-- What is wrong with an image. -/
inductive Flaw
  /-- The file is too short to tell what it is. -/
  | noMagic
  /-- The file is no image of this format. -/
  | unknownMagic
  /-- The file ends within the header. -/
  | shortHeader
  /-- The header has an unknown byte order or version. -/
  | unsupportedHeader
  /-- The number of segments is said to be in a section, and there are none. -/
  | segmentCount
  /-- The entries of the segment table have the wrong size. -/
  | segmentEntrySize
  /-- The segment table is not within the file. -/
  | segmentTable
  /-- The entries of the section table have the wrong size. -/
  | sectionEntrySize
  /-- The first section, which says what the header has no room for, is not within the file. -/
  | firstSection
  /-- The section table is not within the file. -/
  | sectionTable
  /-- No section holds the names of the sections. -/
  | noSectionNames
  /-- The section with the names of the sections does not exist. -/
  | sectionNamesIndex
  /-- The names of the sections end beyond all offsets. -/
  | sectionNamesSize
  /-- The symbols are not within the file, or there is no whole number of them. -/
  | symbolData
  /-- A section that is referred to does not exist. -/
  | sectionIndex
  /-- The names of symbols are said to be in a section of another kind. -/
  | stringsKind
  /-- The names of symbols end beyond all offsets. -/
  | stringsSize
  /-- The section indices of symbols are not within the file, or there is no whole number of them. -/
  | extendedIndexData
  /-- The section that is relocated does not exist. -/
  | relocatedSection
  /-- The section that is relocated holds relocations itself. -/
  | relocatedRelocations
deriving DecidableEq, Repr

/-- The wording of a flaw. -/
def Flaw.message : Flaw → String
  | noMagic => "Could not read file magic"
  | unknownMagic => "Unknown file magic"
  | shortHeader => "Invalid ELF header size or alignment"
  | unsupportedHeader => "Unsupported ELF header"
  | segmentCount => "Missing ELF section headers for e_phnum overflow"
  | segmentEntrySize => "Invalid ELF program header entry size"
  | segmentTable => "Invalid ELF program header size or alignment"
  | sectionEntrySize => "Invalid ELF section header entry size"
  | firstSection => "Invalid ELF section header size or alignment"
  | sectionTable => "Invalid ELF section header offset/size/alignment"
  | noSectionNames => "Missing ELF e_shstrndx"
  | sectionNamesIndex => "Invalid ELF e_shstrndx"
  | sectionNamesSize => "Invalid ELF shstrtab size"
  | symbolData => "Invalid ELF symbol table data"
  | sectionIndex => "Invalid ELF section index"
  | stringsKind => "Invalid ELF string section type"
  | stringsSize => "Invalid ELF string section offset or size"
  | extendedIndexData => "Invalid ELF symtab_shndx data"
  | relocatedSection => "Invalid ELF sh_info for relocation section"
  | relocatedRelocations => "Unsupported ELF sh_info for relocation section"

/-- The value, or else a flaw. -/
def orFlaw {α : Type} (flaw : Flaw) : Option α → Except Flaw α
  | some a => .ok a
  | none => .error flaw

end StackWalk.Elf

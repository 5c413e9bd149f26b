import StackWalk.Json.Codec
import StackWalk.Text.Blank

/-!
# StackWalk.Module — images mapped into the target

An image is known by its file name.  The heuristics sort images into three kinds: the program itself,
the C library with its companions, and all other libraries.
-/

namespace StackWalk

/-- The file name of an image. -/
structure ModuleId where
  name : String
deriving DecidableEq, Repr, Inhabited

namespace ModuleId

/-- The last component of a path, with either kind of separator. -/
def ofPath (path : String) : ModuleId :=
  let components := Text.pieces (fun c => c = '/' || c = '\\') path.toList
  ⟨String.ofList (components.getLastD [])⟩

/-- What stands for an image when an address lies in none. -/
def unknown : ModuleId := ⟨"unknown"⟩

/-- Whether this is the placeholder. -/
def isUnknown (m : ModuleId) : Bool := m == unknown

/-- How the file names of the C library and its companions begin. -/
def cLibraryStems : List String :=
  ["libc.", "libc-", "clib", "libpthread", "ld-linux", "ld.so", "libstdc++", "libc++"]

/-- Whether the file name looks like the C library or one of its companions. -/
def looksLikeCLibrary (m : ModuleId) : Bool :=
  cLibraryStems.any fun stem => stem.toList.isPrefixOf m.name.toList

/-- An image is written as its file name. -/
def codec : Json.Codec ModuleId :=
  Json.Codec.text.iso ModuleId.mk ModuleId.name

theorem codec_lawful : codec.Lawful :=
  Json.Codec.iso_lawful Json.Codec.text_lawful fun _ => rfl

end ModuleId

/-- The kinds of images. -/
inductive ModuleKind
  /-- The program itself. -/
  | main
  /-- The C library and its companions. -/
  | cLibrary
  /-- Any other library. -/
  | library
deriving DecidableEq, Repr, Inhabited

namespace ModuleKind

/-- The name of the kind. -/
def name : ModuleKind → String
  | .main => "main"
  | .cLibrary => "c_library"
  | .library => "library"

/-- All kinds, by name. -/
def named : List (String × ModuleKind) :=
  [("main", .main), ("c_library", .cLibrary), ("library", .library)]

/-- Whether the image is a library of either kind. -/
def isLibrary : ModuleKind → Bool
  | .main => false
  | .cLibrary | .library => true

/-- A kind is written as its name. -/
def codec : Json.Codec ModuleKind :=
  .choice named name

theorem codec_lawful : codec.Lawful := by
  intro kind
  cases kind <;> rfl

end ModuleKind

end StackWalk

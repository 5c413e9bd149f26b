import StackWalk.Target

/-!
# StackWalk.Proofs.Tables — processes that are known by tables

A statement about all walks is tried on small processes.  Such a process is given by four tables: its
images, its routines, the instructions that can be decoded and the words that can be read.  Whatever
they do not mention is not known.
-/

namespace StackWalk

/-- What is known of a process. -/
structure Tables where
  /-- Images with their kinds, from a first address up to one behind the last. -/
  images : List (ModuleId × ModuleKind × UInt64 × UInt64)
  /-- Routines by name, with their entries and sizes. -/
  routines : List (String × UInt64 × UInt64)
  code : List (UInt64 × Instruction)
  words : List (UInt64 × UInt64)

namespace Tables

/-- The image that contains an address, and its kind. -/
def imageAt (t : Tables) (a : Address) : Option (ModuleId × ModuleKind) :=
  (t.images.find? fun (_, _, first, behind) => first ≤ a.value && a.value < behind).map
    fun (image, kind, _) => (image, kind)

/-- The entry of the routine that contains an address. -/
def entryOf (t : Tables) (a : Address) : Option Address :=
  (t.routines.find? fun (_, entry, size) => entry ≤ a.value && a.value < entry + size).map
    fun (_, entry, _) => ⟨entry⟩

/-- The process; all of its images are code. -/
def target (t : Tables) : Target where
  isCode a := (t.imageAt a).isSome
  moduleOf a := (t.imageAt a).map Prod.fst
  kindOf a := (t.imageAt a).map Prod.snd
  symbols :=
    { entryOf := t.entryOf
      nameOf := fun entry => (t.routines.find? fun r => r.2.1 == entry.value).map Prod.fst
      importName := fun _ => none }
  decode a := t.code.lookup a.value
  readWord a := t.words.lookup a.value

end Tables

end StackWalk

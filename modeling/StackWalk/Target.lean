import StackWalk.Architecture
import StackWalk.Instruction
import StackWalk.Module
import StackWalk.Symbol.Source

/-!
# StackWalk.Target — the process whose stack is walked

The walk owns no state of the process.  All that it knows of the stopped thread, apart from its
registers, are the answers of a `Target`: which addresses are code and in which image they lie, the
symbols, one decoded instruction, and one word of memory.  An answer may be missing, and the walk has to
make do.
-/

namespace StackWalk

/-- The answers about a stopped thread and its process. -/
structure Target where
  /-- Whether an address lies in executable memory. -/
  isCode : Address → Bool
  /-- The image that contains an address. -/
  moduleOf : Address → Option ModuleId
  /-- The kind of the image that contains an address. -/
  kindOf : Address → Option ModuleKind
  symbols : Symbol.Source
  /-- The instruction at an address, if the bytes there are one. -/
  decode : Address → Option Instruction
  /-- The word at an address, zero-extended, if it can be read. -/
  readWord : Address → Option UInt64

namespace Target

/-- The image that contains an address, or what stands for it. -/
def moduleAt (t : Target) (a : Address) : ModuleId :=
  (t.moduleOf a).getD .unknown

/-- Whether an address lies in the program itself. -/
def isMain (t : Target) (a : Address) : Bool :=
  t.kindOf a == some .main

/-- Whether an address lies in a library. -/
def isLibrary (t : Target) (a : Address) : Bool :=
  (t.kindOf a).any ModuleKind.isLibrary

/-- Whether an address lies in the C library. -/
def isCLibrary (t : Target) (a : Address) : Bool :=
  t.kindOf a == some .cLibrary

/-- The address in the slot at `slot`, without the bits that no address of the architecture has. -/
def addressIn (t : Target) (arch : Architecture) (slot : Address) : Option Address :=
  (t.readWord slot).map fun word => (Address.mk word).masked arch.addressMask

/-- Whether one of `count` consecutive instructions satisfies `p`; an address that cannot be decoded
ends the search. -/
def someOfNext (t : Target) (p : Instruction → Bool) : Nat → Address → Bool
  | 0, _ => false
  | count + 1, a =>
    match t.decode a with
    | none => false
    | some i => p i || t.someOfNext p count (a + i.length)

end Target

end StackWalk

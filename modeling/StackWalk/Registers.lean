import Std.Data.ExtTreeMap
import StackWalk.Architecture
import StackWalk.Json.Record

/-!
# StackWalk.Registers — the registers of the stopped thread

The program counter and the stack pointer are always known; the frame pointer and the link register may
have been captured; whatever else was captured is kept by name, so that a capture is written back as it
was read.
-/

namespace StackWalk

/-- Registers by name, in the order of their names. -/
abbrev RegisterMap := Std.ExtTreeMap String UInt64 compare

namespace RegisterMap

/-- Reads the members of an object; the last value of a name counts. -/
def decodeMembers (registers : RegisterMap) :
    List (Json.Document × Json.Document) → Except Json.ReadError RegisterMap
  | [] => .ok registers
  | (key, value) :: members => do
    let name ← key.key
    let value ← (Json.Codec.word "u64").decode value
    decodeMembers (registers.insert name value) members

/-- A map is written as an object. -/
def codec : Json.Codec RegisterMap where
  encode registers := .object (registers.toList.map fun entry => (entry.1, Json.natural entry.2))
  decode
    | .object members closing => do
      let registers ← decodeMembers ∅ members
      Json.Document.orError closing
      .ok registers
    | d => d.mismatch "a map"

end RegisterMap

/-- The registers of a thread. -/
structure Registers where
  pc : Address
  sp : Address
  fp : Option Address
  lr : Option Address
  /-- The remaining registers. -/
  other : RegisterMap

namespace Registers

/-- Registers of which only the program counter and the stack pointer are known. -/
def ofPcSp (pc sp : Address) : Registers := ⟨pc, sp, none, none, ∅⟩

/-- The registers with a frame pointer. -/
def withFp (r : Registers) (fp : Address) : Registers := { r with fp := some fp }

/-- The registers with a link register. -/
def withLr (r : Registers) (lr : Address) : Registers := { r with lr := some lr }

/-- The value of a register, by its name or an alias, in either case. -/
def get? (r : Registers) (name : String) : Option UInt64 :=
  let name := Text.lower name
  if ["pc", "eip", "rip"].contains name then some r.pc.value
  else if ["sp", "esp", "rsp"].contains name then some r.sp.value
  else if ["fp", "ebp", "rbp", "x29"].contains name then r.fp.map Address.value
  else if ["lr", "x30"].contains name then r.lr.map Address.value
  else r.other[name]?

/-- The fields in JSON. -/
def schema : Json.Schema [Address, Address, Option Address, Option Address, RegisterMap] :=
  .cons (.required "pc" Address.codec) <|
  .cons (.required "sp" Address.codec) <|
  .cons (.optional "fp" Address.codec) <|
  .cons (.optional "lr" Address.codec) <|
  .cons { Json.Field.withDefault "other" RegisterMap.codec ∅ with omits := fun m => m.isEmpty }
  .nil

/-- Registers are written as an object. -/
def codec : Json.Codec Registers :=
  schema.codec "struct Registers" (fun (pc, sp, fp, lr, other, ()) => ⟨pc, sp, fp, lr, other⟩)
    fun r => (r.pc, r.sp, r.fp, r.lr, r.other, ())

end Registers

/-! ## Conventions on registers -/

namespace Architecture

/-- The frame pointer, where it has been captured. -/
def framePointer? (_ : Architecture) (r : Registers) : Option Address :=
  r.fp

/-- The return address in the link register, where the architecture has one. -/
def linkRegister? (arch : Architecture) (r : Registers) : Option Address :=
  if arch.isArm then r.lr.filter fun lr => !lr.isNull else none

end Architecture

end StackWalk

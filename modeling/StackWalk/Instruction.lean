import StackWalk.Json.Record

/-!
# StackWalk.Instruction — a decoded instruction

An instruction is its length in bytes and the text that a disassembler gives for it.
-/

namespace StackWalk

/-- A decoded instruction. -/
structure Instruction where
  length : UInt64
  text : String
deriving DecidableEq, Repr, Inhabited

namespace Instruction

/-- The fields in JSON. -/
def schema : Json.Schema [UInt64, String] :=
  .cons (.required "length" (.word "u64")) <| .cons (.required "text" .text) .nil

/-- An instruction is written as an object. -/
def codec : Json.Codec Instruction :=
  schema.codec "struct Instruction" (fun (length, text, ()) => ⟨length, text⟩)
    fun i => (i.length, i.text, ())

end Instruction

end StackWalk

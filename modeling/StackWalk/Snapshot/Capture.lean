import StackWalk.Address
import StackWalk.Instruction

/-!
# StackWalk.Snapshot.Capture — instructions and words at addresses

What was captured of the memory of a process comes in two forms: instructions that were decoded at the
time, and runs of words.
-/

namespace StackWalk.Snapshot

/-- An instruction that was decoded at an address. -/
structure Listing where
  address : Address
  length : UInt64
  text : String
deriving DecidableEq, Repr, Inhabited

namespace Listing

/-- The instruction by itself. -/
def instruction (l : Listing) : Instruction := ⟨l.length, l.text⟩

/-- The fields in JSON. -/
def schema : Json.Schema [Address, UInt64, String] :=
  .cons (.required "address" Address.codec) <|
  .cons (.required "length" (.word "u64")) <|
  .cons (.required "text" .text)
  .nil

/-- A listing is written as an object. -/
def codec : Json.Codec Listing :=
  schema.codec "struct InstructionRecord" (fun (address, length, text, ()) => ⟨address, length, text⟩)
    fun l => (l.address, l.length, l.text, ())

end Listing

/-- Consecutive words from an address on. -/
structure Region where
  address : Address
  words : List UInt64
deriving DecidableEq, Repr, Inhabited

namespace Region

/-- The words and their addresses, each `size` bytes above the one before. -/
def slotsFrom (size : UInt64) (a : Address) : List UInt64 → List (Address × UInt64)
  | [] => []
  | word :: words => (a, word) :: slotsFrom size (a + size) words

/-- The words of a region and their addresses, by the size of a word. -/
def slots (size : UInt64) (r : Region) : List (Address × UInt64) :=
  slotsFrom size r.address r.words

/-- The fields in JSON. -/
def schema : Json.Schema [Address, List UInt64] :=
  .cons (.required "address" Address.codec) <| .cons (.required "words" (.list (.word "u64"))) .nil

/-- A region is written as an object. -/
def codec : Json.Codec Region :=
  schema.codec "struct MemoryRegion" (fun (address, words, ()) => ⟨address, words⟩)
    fun r => (r.address, r.words, ())

end Region

end StackWalk.Snapshot

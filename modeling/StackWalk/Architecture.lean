import StackWalk.Address
import StackWalk.Text.Case
import StackWalk.Text.LowerCase

/-!
# StackWalk.Architecture — the targets and their conventions

Two families of instruction sets.  On x86 instructions vary in length, a call pushes its return address,
and functions may chain their frames through the frame pointer.  On ARM every instruction has four
bytes and a call leaves its return address in the link register.

All that the walk needs to know of a target is here: the size of a word, the mask of a code address, the
mnemonics of calls and jumps, and where the kernel begins.
-/

namespace StackWalk

/-- A target architecture. -/
inductive Architecture
  | x86
  | x86_64
  | arm
  | arm64
deriving DecidableEq, Repr, Inhabited

namespace Architecture

/-- The name of the architecture. -/
def name : Architecture → String
  | .x86 => "x86"
  | .x86_64 => "x86_64"
  | .arm => "arm"
  | .arm64 => "arm64"

/-- All architectures, by name. -/
def named : List (String × Architecture) :=
  [("x86", .x86), ("x86_64", .x86_64), ("arm", .arm), ("arm64", .arm64)]

/-- Reads an architecture by any of its usual names, in either case. -/
def parse (text : String) : Except String Architecture :=
  let is := fun (names : List String) => names.contains (Text.lower text)
  if is ["x86", "i386", "i686"] then .ok .x86
  else if is ["x86_64", "x86-64", "amd64"] then .ok .x86_64
  else if is ["arm", "armv7"] then .ok .arm
  else if is ["arm64", "aarch64"] then .ok .arm64
  else .error s!"Unknown architecture: {text}. Use 'x86', 'x86_64', 'arm' or 'arm64'"

/-- An architecture is written as its name. -/
def codec : Json.Codec Architecture :=
  .choice named name

/-! ## Conventions -/

/-- Whether the architecture belongs to the ARM family. -/
def isArm : Architecture → Bool
  | .arm | .arm64 => true
  | .x86 | .x86_64 => false

/-- The size of a machine word, and of a stack slot, in bytes. -/
def wordSize : Architecture → UInt64
  | .x86 | .arm => 4
  | .x86_64 | .arm64 => 8

/-- The bits of a stack word that can belong to an address. -/
def addressMask (arch : Architecture) : UInt64 :=
  if arch.wordSize = 8 then 0x0000_FFFF_FFFF_FFFF else 0xFFFF_FFFF

/-- The length of every instruction, where they all have the same. -/
def instructionWidth? (arch : Architecture) : Option UInt64 :=
  if arch.isArm then some 4 else none

/-- Whether the saved frame pointers may be followed. -/
def chainsFrames (arch : Architecture) : Bool :=
  !arch.isArm

/-- The mnemonics of calls. -/
def callMnemonics (arch : Architecture) : List String :=
  if arch.isArm then ["bl", "blx", "blr"] else ["call", "callq", "calll"]

/-- The mnemonics of unconditional jumps. -/
def jumpMnemonics (arch : Architecture) : List String :=
  if arch.isArm then ["b", "bx", "br"] else ["jmp", "jmpq", "jmpl"]

/-- The first address that belongs to the kernel. -/
def kernelStart : Architecture → Address
  | .x86 | .arm => ⟨0xC000_0000⟩
  | .x86_64 => ⟨0xFFFF_8000_0000_0000⟩
  | .arm64 => ⟨0xFFFF_0000_0000_0000⟩

/-- Whether the address belongs to the kernel. -/
def isKernelAddress (arch : Architecture) (a : Address) : Bool :=
  arch.kernelStart ≤ a

/-- The words in front of a mnemonic that do not change what the instruction is. -/
def modifiers : List String :=
  ["lock", "rep", "repz", "bnd", "notrack"]

/-- The first token of an instruction that is no modifier. -/
def mnemonicIn (instruction : List Char) : List Char :=
  ((Text.tokens instruction).find? fun token => !Text.isOneOf modifiers token).getD []

/-- Whether the instruction is a call. -/
def isCall (arch : Architecture) (instruction : String) : Bool :=
  Text.isOneOf arch.callMnemonics (mnemonicIn instruction.toList)

/-- Whether the instruction is an unconditional jump. -/
def isJump (arch : Architecture) (instruction : String) : Bool :=
  Text.isOneOf arch.jumpMnemonics (mnemonicIn instruction.toList)

theorem codec_lawful : codec.Lawful := by
  intro arch
  cases arch <;> rfl

theorem wordSize_eq (arch : Architecture) : arch.wordSize = 4 ∨ arch.wordSize = 8 := by
  cases arch <;> simp [wordSize]

end Architecture

end StackWalk

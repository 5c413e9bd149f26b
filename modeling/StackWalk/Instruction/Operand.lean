import StackWalk.Address
import StackWalk.Text.Case
import StackWalk.Text.Search

/-!
# StackWalk.Instruction.Operand — what an operand refers to

Of the operand of a call or a jump the heuristics want to know one thing: where the target is found.

| text | operand |
|---|---|
| `0x401020`, `#0x10400` | the target itself |
| `dword ptr [0x804a00c]` | a slot at a fixed address |
| `qword ptr [rip+0x2fe2]` | a slot at a distance from the next instruction |
| `eax`, `r3`, `x16` | a register |
| anything else | not known |

A size such as `dword ptr` and a segment such as `ds:` in front of an operand are passed over.
-/

namespace StackWalk

/-- What an operand refers to. -/
inductive Operand
  /-- The address that is written there. -/
  | direct (target : Address)
  /-- The contents of the slot at an address. -/
  | absoluteSlot (slot : Address)
  /-- The contents of the slot at a distance from the end of the instruction. -/
  | relativeSlot (distance : Int)
  /-- The contents of a register. -/
  | register (name : String)
  | other (text : String)
deriving DecidableEq, Repr, Inhabited

namespace Operand

/-- The address at a signed distance, modulo `2 ^ 64`. -/
def displaced (a : Address) (distance : Int) : Address :=
  if 0 ≤ distance then a + UInt64.ofNat distance.natAbs else a - UInt64.ofNat distance.natAbs

/-- The slot that the operand refers to, in an instruction of `length` bytes at `ip`. -/
def slot? (operand : Operand) (ip : Address) (length : UInt64) : Option Address :=
  match operand with
  | .absoluteSlot slot => some slot
  | .relativeSlot distance => some (displaced (ip + length) distance)
  | _ => none

/-! ## Numbers and registers -/

/-- The number at the start of a text, behind any number signs: hexadecimal with `0x`, decimal
otherwise. -/
def number? (cs : List Char) : Option UInt64 :=
  match (Text.tokens ((Text.trim cs).dropWhile (· = '#'))).head? with
  | none => none
  | some ('0' :: 'x' :: digits) => (Text.readWord 16 digits).toOption
  | some ('0' :: 'X' :: digits) => (Text.readWord 16 digits).toOption
  | some digits => if digits.all Text.isDigit then (Text.readWord 10 digits).toOption else none

/-- The registers that have a name without a number. -/
def namedRegisters : List String :=
  ["eax", "ebx", "ecx", "edx", "esi", "edi", "ebp", "esp", "rax", "rbx", "rcx", "rdx", "rsi", "rdi",
    "rbp", "rsp", "ax", "bx", "cx", "dx", "si", "di", "sp", "lr", "pc", "ip", "fp", "sb"]

/-- Whether the digits write a number up to `last`. -/
def isNumberUpTo (last : Nat) (digits : List Char) : Bool :=
  !digits.isEmpty && digits.all Text.isDigit &&
    match Text.readNumeral 10 (last + 1) digits with
    | .ok _ => true
    | .error _ => false

/-- Whether the text names a register. -/
def isRegister (cs : List Char) : Bool :=
  let name := Text.foldCase (Text.trim cs)
  namedRegisters.any (fun known => known.toList == name) ||
    match name with
    | 'r' :: rest =>
      match rest.reverse with
      | c :: digits =>
        if c = 'd' ∨ c = 'w' ∨ c = 'b' then isNumberUpTo 15 digits.reverse else isNumberUpTo 15 rest
      | [] => false
    | 'x' :: digits => isNumberUpTo 30 digits
    | 'w' :: digits => isNumberUpTo 30 digits
    | _ => false

/-! ## Forms -/

/-- The sizes that may stand in front of an operand. -/
def sizes : List String :=
  ["qword ptr", "dword ptr", "word ptr", "byte ptr", "fword ptr", "tbyte ptr"]

/-- The operand without a size in front of it. -/
def withoutSize (cs : List Char) : List Char :=
  match sizes.find? fun size => Text.sameLetters (cs.take size.length) size.toList with
  | some size => Text.trimStart (cs.drop size.length)
  | none => cs

/-- The operand without a segment in front of it. -/
def withoutSegment (cs : List Char) : List Char :=
  match Text.splitAtFirst? ':' cs with
  | some ([c, 's'], rest) => if c.utf8Size = 1 then Text.trimStart rest else cs
  | _ => cs

/-- The largest distance of a slot. -/
def maxDistance : Nat := 0x7FFF_FFFF_FFFF_FFFF

/-- The distance that is written behind the instruction pointer. -/
def distance? (inner : List Char) : Option Int := do
  let compact := Text.foldCase (inner.filter fun c => !Text.isBlank c)
  let rest ← ("rip".toList.isPrefixOf? compact).or ("eip".toList.isPrefixOf? compact)
  match rest with
  | [] => some 0
  | sign :: magnitude =>
    if sign = '+' ∨ sign = '-' then
      let magnitude ← number? magnitude
      if magnitude.toNat ≤ maxDistance then
        some (if sign = '-' then -Int.ofNat magnitude.toNat else Int.ofNat magnitude.toNat)
      else none
    else none

/-- What is between the first opening bracket and the last closing one; or none if they stand the
other way round. -/
inductive Brackets
  | absent
  | crossed
  | around (inner : List Char)

/-- Looks for the brackets of an operand. -/
def bracketsOf (cs : List Char) : Brackets :=
  match Text.splitAtFirst? '[' cs with
  | none => .absent
  | some (front, back) =>
    match Text.splitAtLast? ']' back with
    | some (inner, _) => .around inner
    | none => if front.contains ']' then .crossed else .absent

/-- What the operand refers to. -/
def classify (raw : List Char) : Operand :=
  let operand := withoutSegment (withoutSize (Text.trim raw))
  match bracketsOf operand with
  | .crossed => .other (String.ofList raw)
  | .around inner =>
    let inner := Text.trim inner
    match number? inner with
    | some slot => .absoluteSlot ⟨slot⟩
    | none =>
      match distance? inner with
      | some distance => .relativeSlot distance
      | none => .other (String.ofList raw)
  | .absent =>
    match number? operand with
    | some target => .direct ⟨target⟩
    | none =>
      if isRegister operand then .register (String.ofList operand) else .other (String.ofList raw)

end Operand

end StackWalk

import StackWalk.Callee

/-!
# StackWalk.Callee.Entry — what stands at the entry of a callee

Some callees do not return to the call that named them, because they hand on to another routine at
once: entries of the procedure linkage table, dispatchers that jump through a register, and routines
that start with a tail call.
-/

namespace StackWalk.Callee

/-- Whether the address looks like an entry of the procedure linkage table: a jump, or an addition to
the program counter. -/
def isPlt (arch : Architecture) (t : Target) (a : Address) : Bool :=
  (t.decode a).any fun i =>
    let d := Disassembly.ofText i.text
    arch.isJump i.text || (d.is "add" && d.usesRegister "pc")

/-- How many instructions behind the first one may belong to a dispatcher. -/
def dispatcherWindow : Nat := 5

/-- Whether the instruction is a jump through a register alone. -/
def isRegisterJump (arch : Architecture) (i : Instruction) : Bool :=
  arch.isJump i.text &&
    let d := Disassembly.ofText i.text
    match d.operands.length, d.target? with
    | 1, some (.register _) => true
    | _, _ => false

/-- Whether the routine at an address jumps through a register after a few instructions. -/
def isJumpTable (arch : Architecture) (t : Target) (a : Address) : Bool :=
  (t.decode a).any fun first =>
    t.someOfNext (isRegisterJump arch) dispatcherWindow (a + first.length)

/-- Whether the instruction loads the program counter. -/
def loadsPc (i : Instruction) : Bool :=
  let d := Disassembly.ofText i.text
  d.is "ldr" && d.operands.head?.any fun operand => Text.sameLetters operand "pc".toList

/-- Whether the second or the third instruction at an address loads the program counter. -/
def isArmPltThunk (t : Target) (a : Address) : Bool :=
  (t.decode a).any fun first => t.someOfNext loadsPc 2 (a + first.length)

/-- The target of the tail call that a routine starts with, and its instruction: a direct jump to the
entry of a routine. -/
def tailBranch? (arch : Architecture) (t : Target) (a : Address) :
    Option (Address × Instruction) := do
  let i ← t.decode a
  if arch.isJump i.text then
    match (Disassembly.ofText i.text).target? with
    | some (.direct target) => if t.symbols.isEntry target then some (target, i) else none
    | _ => none
  else none

end StackWalk.Callee

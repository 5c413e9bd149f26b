import StackWalk.CallSite

/-!
# StackWalk.Callee — what a call calls

| form of the call | entry of the callee | name of the callee |
|---|---|---|
| `call 0x401020` | the address | the import's, then that behind a stub, then the routine's |
| `call [slot]` | the contents of the slot, if they are code | the routine's, then the slot's import, then the stub's |
| `call rax` | not known | not known |

A stub is a jump through a slot; the table of imports consists of them.
-/

namespace StackWalk

/-- What a call or a jump leads to. -/
structure Callee where
  /-- The entry, where it is known. -/
  start : Option Address
  /-- The name, where it is known. -/
  name : Option String
  /-- The instruction, with the name in the place of its operands where it is known. -/
  text : String
deriving DecidableEq, Repr, Inhabited

namespace Callee

/-- Whether neither the entry nor the name is known. -/
def isUnknown (c : Callee) : Bool :=
  c.start.isNone && c.name.isNone

/-- What the slot at an address leads to: an entry and a name. -/
def throughSlot (arch : Architecture) (t : Target) (slot : Address) :
    Option Address × Option String :=
  let pointer := (t.addressIn arch slot).filter fun a => !a.isNull
  let start := pointer.filter t.isCode
  let name := (start.bind t.symbols.routineName).or
    ((t.symbols.importName slot).or (pointer.bind t.symbols.importName))
  (start, name)

/-- What the stub at an address leads to, if there is a stub; a direct jump is none. -/
def behindStub? (arch : Architecture) (t : Target) (a : Address) :
    Option (Address × Option String) := do
  let i ← t.decode a
  if arch.isJump i.text then
    let operand ← (Disassembly.ofText i.text).target?
    let slot ← operand.slot? a i.length
    let (start, name) := throughSlot arch t slot
    let start ← start
    some (start, name)
  else none

/-- The name of a target that is written in an instruction. -/
def directName (arch : Architecture) (t : Target) (target : Address) : Option String :=
  (t.symbols.importName target).or
    (((behindStub? arch t target).bind Prod.snd).or (t.symbols.routineName target))

/-- The entry and the name that an instruction at an address leads to. -/
def destination (arch : Architecture) (t : Target) (a : Address) (length : UInt64) :
    Option Operand → Option Address × Option String
  | some (.direct target) => (some target, directName arch t target)
  | some operand =>
    match operand.slot? a length with
    | some slot => throughSlot arch t slot
    | none => (none, none)
  | none => (none, none)

/-- What the call or the jump `i` at `a` leads to. -/
def resolve (arch : Architecture) (t : Target) (a : Address) (i : Instruction) : Callee :=
  let d := Disassembly.ofText i.text
  let (start, name) := destination arch t a i.length d.target?
  ⟨start, name, (name.map d.withTarget).getD i.text⟩

/-- What a call site calls. -/
def ofSite (arch : Architecture) (t : Target) (site : CallSite) : Callee :=
  resolve arch t site.address site.instruction

end Callee

end StackWalk

import StackWalk.Instruction.Disassembly
import StackWalk.Target

/-!
# StackWalk.CallSite — the call in front of a return address

A value on the stack may be a return address only if the instruction in front of it is a call.  Where
all instructions have one width there is one place to look.  Where they vary, the instructions that end
at the value are tried from the shortest one on: the offsets from two bytes to four words and a byte.

A call counts only if it is near and its target, as far as it is written in the instruction, is code.
Addresses that cannot be decoded are passed over; leaving the code ends the search.

All searches share a counter of the addresses that could not be decoded.  It is carried from one search to
the next, and stays where it is when it cannot go up any more.
-/

namespace StackWalk

/-- A call instruction and its address. -/
structure CallSite where
  address : Address
  instruction : Instruction
deriving DecidableEq, Repr, Inhabited

namespace CallSite

/-- The address behind the call. -/
def returnAddress (site : CallSite) : Address :=
  site.address + site.instruction.length

/-- The counter when one more address could not be decoded. -/
def countFailure (failures : UInt32) : UInt32 :=
  if failures = 0xFFFF_FFFF then failures else failures + 1

theorem toNat_countFailure (failures : UInt32) :
    (countFailure failures).toNat = min (failures.toNat + 1) 0xFFFF_FFFF := by
  unfold countFailure
  split
  case isTrue hfull =>
    rw [hfull]
    rfl
  case isFalse hroom =>
    have hne : failures.toNat ≠ 0xFFFF_FFFF := fun h => hroom (UInt32.toNat_inj.mp h)
    have hlt := failures.toNat_lt
    have hsucc : (failures + 1).toNat = failures.toNat + 1 :=
      (UInt32.toNat_add failures 1).trans (Nat.mod_eq_of_lt (by rw [UInt32.toNat_one]; omega))
    omega

/-- What a search does: the call that it gives, if there is one, and the counter that it leaves behind for
the one that it has found.  The call does not depend on what has been counted before. -/
structure Lookup where
  site : Option CallSite
  counter : UInt32 → UInt32

/-- What a new counter shows after the search. -/
def Lookup.failures (found : Lookup) : Nat := (found.counter 0).toNat

/-- Nothing was found, and nothing was decoded. -/
def Lookup.nothing : Lookup := ⟨none, id⟩

/-- An address could not be decoded, and the search goes on behind it. -/
def Lookup.behindFailure (found : Lookup) : Lookup :=
  { found with counter := fun failures => found.counter (countFailure failures) }

/-- The highest value that is never a return address. -/
def lowestAddresses : UInt64 := 10

/-- Whether the target of a call is code, as far as it is written in the instruction. -/
def targetIsCode (t : Target) (d : Disassembly) : Bool :=
  match d.target? with
  | some (.direct target) => t.isCode target
  | _ => true

/-- Whether the instruction `i` at `a` is a near call that ends at `v`. -/
def endsAt (arch : Architecture) (t : Target) (v a : Address) (i : Instruction) : Bool :=
  let d := Disassembly.ofText i.text
  a + i.length == v && arch.isCall i.text && !d.isFar && targetIsCode t d

/-- Looks for a call that ends at `v`, at `count` offsets from `offset` on. -/
def searchBack (arch : Architecture) (t : Target) (v : Address) : Nat → UInt64 → Lookup
  | 0, _ => .nothing
  | count + 1, offset =>
    match v.below? offset with
    | none => .nothing
    | some a =>
      if !t.isCode a then .nothing
      else
        match t.decode a with
        | none => (searchBack arch t v count (offset + 1)).behindFailure
        | some i =>
          if endsAt arch t v a i then ⟨some ⟨a, i⟩, id⟩
          else searchBack arch t v count (offset + 1)

/-- Looks for a call at the only place where it can be, `width` bytes in front of `v`. -/
def lookBack (arch : Architecture) (t : Target) (v : Address) (width : UInt64) : Lookup :=
  match v.below? width with
  | none => .nothing
  | some a =>
    match t.decode a with
    | none => Lookup.nothing.behindFailure
    | some i => ⟨if arch.isCall i.text then some ⟨a, i⟩ else none, id⟩

/-- The call that leaves `v` on the stack. -/
def before (arch : Architecture) (t : Target) (v : Address) : Lookup :=
  if v.value ≤ lowestAddresses || !t.isCode v then .nothing
  else
    match arch.instructionWidth? with
    | some width => lookBack arch t v width
    | none => searchBack arch t v (4 * arch.wordSize.toNat) 2

end CallSite

end StackWalk

import StackWalk.Callee
import StackWalk.Frame
import StackWalk.Limits
import StackWalk.Registers
import StackWalk.Symbol.Matching

/-!
# StackWalk.Walk.Context — what stays the same during a walk

A walk is given an architecture, a target, registers and limits.  Here is what follows from these alone:
what a stack slot holds, whether the frame pointer can be believed, which call is in front of a value and
whether it leads to a given place, and the frame that such a call makes.
-/

namespace StackWalk.Walk

/-- What a walk is given. -/
structure Context where
  arch : Architecture
  target : Target
  registers : Registers
  limits : Limits

namespace Context

/-- The size of a stack slot. -/
def word (ctx : Context) : UInt64 := ctx.arch.wordSize

/-- The next slot above. -/
def slotAbove (ctx : Context) (slot : Address) : Address :=
  slot + ctx.word

/-- What the slot at an address holds. -/
def slot? (ctx : Context) (a : Address) : Option Address :=
  ctx.target.addressIn ctx.arch a

/-- Whether a value can be a return address at all. -/
def isCodePointer (ctx : Context) (value : Address) : Bool :=
  !value.isNull && ctx.target.isCode value

/-- The largest distance from the stack pointer to a frame pointer that is believed. -/
def maxFrameDistance : UInt64 := 0x10_0000

/-- Whether the frame pointer can point to a frame of the stack. -/
def isLive (ctx : Context) (fp : Address) : Bool :=
  !fp.isNull && ctx.registers.sp < fp && fp.distanceFrom ctx.registers.sp ≤ maxFrameDistance &&
    !ctx.limits.pastStackBase fp

/-! ## Calls -/

/-- A call site and what it calls. -/
structure Call where
  site : CallSite
  callee : Callee
deriving DecidableEq, Repr

/-- The call in front of a value, and what the search for it does to the counter of addresses that could
not be decoded. -/
def callBefore (ctx : Context) (value : Address) : Option Call × (UInt32 → UInt32) :=
  let found := CallSite.before ctx.arch ctx.target value
  (found.site.map fun site => ⟨site, Callee.ofSite ctx.arch ctx.target site⟩, found.counter)

/-- Whether the entry of a callee lies in the routine that contains `ip`, or is a stub that leads
there. -/
def startReaches (ctx : Context) (start ip : Address) : Bool :=
  ctx.target.symbols.sameRoutine start ip ||
    (Callee.behindStub? ctx.arch ctx.target start).any fun behind =>
      ctx.target.symbols.sameRoutine behind.1 ip

/-- Whether the name of a callee can be the name of a routine; a name that is not known can be any. -/
def nameReaches (ctx : Context) (callee : Callee) (current : Option String) : Bool :=
  match callee.name, current with
  | some callee, some current => Symbol.namesMatch callee current
  | some _, none => true
  | none, _ => callee.start.all fun start => (ctx.target.symbols.entryOf start).isNone

/-- Whether a callee reaches the routine that contains `ip`: directly, behind a stub, or by name.  What
is not known counts as reached. -/
def reaches (ctx : Context) (callee : Callee) (ip : Address) : Bool :=
  match ctx.target.symbols.entryOf ip with
  | none => true
  | some entry =>
    callee.start.any (fun start => ctx.startReaches start ip) ||
      ctx.nameReaches callee (ctx.target.symbols.nameOf entry)

/-! ## Frames -/

/-- A frame about the instruction at `ip`, which is a call or a jump. -/
def siteFrame (ctx : Context) (ip cursor : Address) : Frame :=
  { Frame.bare ip cursor (ctx.target.moduleAt ip) with
    callSite := some ip
    function := ctx.target.symbols.routineName ip }

/-- The frame of a call whose return address `value` was found in `slot`. -/
def callFrame (ctx : Context) (call : Call) (value slot cursor : Address) : Frame :=
  { ctx.siteFrame call.site.address cursor with
    instruction := call.callee.text
    returnAddress := some value
    returnSlot := some slot
    calleeStart := call.callee.start
    calleeName := call.callee.name }

/-- The frame of a call whose return address is in the link register. -/
def linkFrame (ctx : Context) (call : Call) (value : Address) : Frame :=
  { ctx.siteFrame call.site.address ctx.registers.sp with
    instruction := call.callee.text
    returnAddress := some value
    calleeStart := call.callee.start
    calleeName := call.callee.name
    fromLinkRegister := true }

end Context

end StackWalk.Walk

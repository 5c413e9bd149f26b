import StackWalk.Callee.Entry
import StackWalk.Walk.State

/-!
# StackWalk.Walk.Innermost — the frames that the registers show

Frame 0 is about the interrupted instruction.  Where a call leaves its return address in the link
register, that register shows the caller of a function that has not called anything itself; it is
believed only if it returns into another function, right behind a call that leads to the current one.
-/

namespace StackWalk.Walk

namespace Context

/-- The text of the instruction at `pc` in frame 0: that of a call or a jump shows the target's name. -/
def innermostText (ctx : Context) (i : Instruction) : String :=
  if ctx.arch.isCall i.text || ctx.arch.isJump i.text then
    (Callee.resolve ctx.arch ctx.target ctx.registers.pc i).text
  else i.text

/-- Frame 0. -/
def innermost (ctx : Context) : Frame :=
  let pc := ctx.registers.pc
  { Frame.bare pc ctx.registers.sp (ctx.target.moduleAt pc) with
    instruction := ((ctx.target.decode pc).map ctx.innermostText).getD ""
    function := ctx.target.symbols.routineName pc }

/-- How many addresses could not be decoded for frame 0. -/
def undecodedAtPc (ctx : Context) : UInt32 :=
  if (ctx.target.decode ctx.registers.pc).isSome then 0 else 1

/-- The return address in the link register, if it can be believed at first sight. -/
def linkAddress? (ctx : Context) : Option Address :=
  ((ctx.arch.linkRegister? ctx.registers).map fun lr => lr.masked ctx.arch.addressMask).filter
    fun lr => ctx.target.isCode lr && !ctx.target.symbols.sameRoutine lr ctx.registers.pc

/-- Whether a call in front of the link register leads to the current function. -/
def linkReaches (ctx : Context) (callee : Callee) : Bool :=
  match callee.start with
  | some start =>
    ctx.target.symbols.sameRoutine start ctx.registers.pc ||
      Callee.isArmPltThunk ctx.target start
  | none => ctx.reaches callee ctx.registers.pc

end Context

namespace State

/-- Adds frame 0. -/
def addInnermost (ctx : Context) (s : State) : State :=
  { s.countUndecoded ctx.undecodedAtPc with
    stack := s.stack.push ctx.limits ctx.innermost
    beenInMain := ctx.target.isMain ctx.registers.pc }

/-- Adds the frame that the link register shows, if there is one. -/
def addLinkFrame (ctx : Context) (s : State) : State :=
  match ctx.linkAddress? with
  | none => s
  | some lr =>
    let (call, counter) := ctx.callBefore lr
    let s := s.countFailures counter
    match call with
    | none => s
    | some call =>
      if ctx.linkReaches call.callee then s.accept ctx (ctx.linkFrame call lr) else s

/-- The state with the frames that the registers show; a restart comes back to these. -/
def start (ctx : Context) : State :=
  let s := (initial.addInnermost ctx).addLinkFrame ctx
  { s with restartFloor := s.stack.size }

end State

end StackWalk.Walk

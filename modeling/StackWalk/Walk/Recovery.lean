import StackWalk.Walk.State

/-!
# StackWalk.Walk.Recovery — going back from a gap

A gap in the stack means that the newest frame was probably no frame, and has led the scan astray.  Its
call site is blacklisted, the stack is rolled back to its best prefix, and the scan goes on just above
the evidence for the newest frame that is left.

Frames from the registers and from the chain of frame pointers are not rolled back.  When no others are
left, the scan is restarted at the stack pointer, once, without the frames of the chain; the blacklist
is kept.
-/

namespace StackWalk.Walk.State

/-- Whether the scan has come to a gap: the stack has seen one between images, or the cursor is far
above the newest frame, which lies in a library. -/
def gapAt (ctx : Context) (s : State) (cursor : Address) : Bool :=
  s.stack.gapSeen ||
    s.stack.last?.any fun newest =>
      ctx.limits.gapThreshold < cursor.distanceFrom newest.cursor &&
        ctx.target.isLibrary newest.ip

/-- The stack address just above the evidence for the newest frame. -/
def resumePoint (ctx : Context) (s : State) : Address :=
  match s.stack.last? with
  | none => ctx.registers.sp
  | some newest =>
    if 1 < s.stack.size && !newest.fromLinkRegister then
      (newest.returnSlot.map ctx.slotAbove).getD newest.cursor
    else newest.cursor

/-- Goes back to the frames that the registers show, once. -/
def restart (ctx : Context) (s : State) (cursor : Address) : State × Except Fault Address :=
  if s.restarted then (s, .error (.gapUnrecoverable cursor))
  else
    let s := { s with
      restarted := true
      stack := s.stack.truncate s.restartFloor
      rollbackFloor := s.restartFloor }
    (s.resetRatchets ctx, .ok ctx.registers.sp)

/-- Blacklists a call site and rolls the stack back. -/
def rollBack (ctx : Context) (s : State) (site : Address) : State :=
  { s with
    blacklist := site :: s.blacklist
    stack := s.stack.rollback }.resetRatchets ctx

/-- Goes back from a gap at `cursor`: where the scan goes on, or why it cannot. -/
def recover (ctx : Context) (s : State) (cursor : Address) : State × Except Fault Address :=
  let s := s.countRecovery
  if s.stack.size ≤ s.rollbackFloor then s.restart ctx cursor
  else
    match s.stack.last?.bind Frame.callSite with
    | none => s.restart ctx cursor
    | some site =>
      if s.blacklist.contains site then (s, .error (.gapUnrecoverable cursor))
      else
        let s := s.rollBack ctx site
        (s, .ok (s.resumePoint ctx))

end StackWalk.Walk.State

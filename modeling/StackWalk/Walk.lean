import StackWalk.Walk.Innermost
import StackWalk.Walk.PointerChain
import StackWalk.Walk.StackScan

/-!
# StackWalk.Walk — walking the stack of a stopped thread

From the registers and the memory of a thread alone, without unwind tables or debug information, a walk
finds the calls that have led to the current instruction.  It has four phases:

1. frame 0, the interrupted instruction,
2. the frame that the link register shows,
3. the frames along the chain of saved frame pointers, and
4. a scan of the stack, word by word.

A walk never fails.  One that cannot start has no frames and the status `unsupported`; one that is cut
short has the best frames found until then and the status `incomplete`.
-/

namespace StackWalk.Walk

/-- The walk of a thread that has stopped in the kernel. -/
def refused (pc : Address) : Trace :=
  ⟨[], .unsupported (.unsupportedContext pc "program counter is in kernel address space"), .zero⟩

/-- Ends the phases before the scan; a rollback keeps their frames. -/
def beforeScan (ctx : Context) : State × Onward :=
  let (s, onward) := (State.start ctx).addChain ctx
  ({ s with rollbackFloor := s.stack.size }, onward)

/-- The state and the status at the end of the walk. -/
def outcome (ctx : Context) : State × Status :=
  match beforeScan ctx with
  | (s, .stop status) => (s, status)
  | (s, .scan cursor) => StackScan.run ctx s cursor

/-- The frames up to the limit. -/
def reported (limits : Limits) (frames : List Frame) : List Frame :=
  match limits.maxFrames with
  | some max => frames.take max.toNat
  | none => frames

/-- The trace that a state at the end of the walk is reported as. -/
def report (limits : Limits) (s : State) (status : Status) : Trace :=
  ⟨reported limits s.stack.frames.toList, status, s.tally.toStats⟩

/-- Walks the stack. -/
def run (ctx : Context) : Trace :=
  if ctx.arch.isKernelAddress ctx.registers.pc then refused ctx.registers.pc
  else
    let (s, status) := outcome ctx
    report ctx.limits s status

end StackWalk.Walk

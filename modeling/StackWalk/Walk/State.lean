import StackWalk.Trace
import StackWalk.Walk.Context
import StackWalk.Walk.FrameStack

/-!
# StackWalk.Walk.State — what a walk has found

The frames, the call sites that are not to be accepted again, two ratchets, and the counters.  A ratchet
remembers that the walk has come to the program itself, or has left the C library; it never moves back,
unless a rollback makes the walk forget.

A frame enters through `accept` alone, apart from the innermost one.

Failures to decode are counted in words, as the searches for calls do.  All else is counted in numbers, and
cut to a word where it is reported.  A walk that counted its iterations in words of 32 bits would differ from
this one only behind a probe of `2 ^ 32` stack words: the chain and the scan ask for the budget, which is a
word itself, before they count one more, and no other counter of that size is ahead of the iterations.
-/

namespace StackWalk.Walk

/-- What a walk counts. -/
structure Tally where
  iterations : Nat
  rejected : Nat
  unreadable : Nat
  /-- Addresses that the walk itself could not decode. -/
  undecoded : UInt32
  /-- The counter that one search for a call hands to the next. -/
  failures : UInt32
  recoveries : Nat
  bytes : Nat
  chainFrames : Nat
deriving DecidableEq, Repr

namespace Tally

/-- Nothing has been counted. -/
def zero : Tally := ⟨0, 0, 0, 0, 0, 0, 0, 0⟩

/-- The counters as they are reported: as words, and all failures to decode in one sum. -/
def toStats (t : Tally) : Stats where
  iterations := UInt32.ofNat t.iterations
  rejected := UInt32.ofNat t.rejected
  unreadable := UInt32.ofNat t.unreadable
  decodeFailures := t.undecoded + t.failures
  recoveries := UInt32.ofNat t.recoveries
  bytesScanned := UInt64.ofNat t.bytes
  chainFrames := UInt32.ofNat t.chainFrames

end Tally

/-- What a walk has found. -/
structure State where
  stack : FrameStack
  /-- The call sites that have led to a gap. -/
  blacklist : List Address
  /-- Whether the walk has come to the program itself. -/
  beenInMain : Bool
  /-- Whether the walk has left the C library. -/
  beenAboveCLibrary : Bool
  /-- The number of frames that a restart keeps. -/
  restartFloor : Nat
  /-- The number of frames that a rollback keeps. -/
  rollbackFloor : Nat
  /-- Whether the scan has been restarted. -/
  restarted : Bool
  tally : Tally
deriving DecidableEq, Repr

namespace State

/-- Nothing has been found. -/
def initial : State := ⟨.empty, [], false, false, 0, 0, false, .zero⟩

/-! ## Counting -/

/-- One more stack word has been looked at. -/
def countIteration (s : State) : State :=
  { s with tally.iterations := s.tally.iterations + 1 }

/-- Some more addresses could not be decoded by the walk itself. -/
def countUndecoded (s : State) (addresses : UInt32) : State :=
  { s with tally.undecoded := s.tally.undecoded + addresses }

/-- A search for a call has moved its counter. -/
def countFailures (s : State) (counter : UInt32 → UInt32) : State :=
  { s with tally.failures := counter s.tally.failures }

/-- One more code address on the stack was not accepted. -/
def countRejected (s : State) : State :=
  { s with tally.rejected := s.tally.rejected + 1 }

/-- One more stack word could not be read. -/
def countUnreadable (s : State) : State :=
  { s with tally.unreadable := s.tally.unreadable + 1 }

/-- One more gap has been met. -/
def countRecovery (s : State) : State :=
  { s with tally.recoveries := s.tally.recoveries + 1 }

/-- Some more bytes of stack have been scanned. -/
def countBytes (s : State) (bytes : Nat) : State :=
  { s with tally.bytes := s.tally.bytes + bytes }

/-- One more frame comes from the chain of frame pointers. -/
def countChainFrame (s : State) : State :=
  { s with tally.chainFrames := s.tally.chainFrames + 1 }

/-! ## Ratchets -/

/-- The ratchets after a frame at `ip` above one at `below`. -/
def advanceRatchets (ctx : Context) (s : State) (below ip : Address) : State :=
  { s with
    beenInMain := s.beenInMain || ctx.target.isMain ip
    beenAboveCLibrary := s.beenAboveCLibrary ||
      (ctx.target.isCLibrary below && !ctx.target.isCLibrary ip) }

/-- The ratchets after frames at `ips`, above one at `below`. -/
def advanceAlong (ctx : Context) (s : State) (below : Address) : List Address → State
  | [] => s
  | ip :: ips => advanceAlong ctx (s.advanceRatchets ctx below ip) ip ips

/-- The ratchets as the frames on the stack by themselves would have moved them. -/
def recomputeRatchets (ctx : Context) (s : State) : State :=
  match s.stack.frames.toList.map Frame.ip with
  | [] => { s with beenInMain := false, beenAboveCLibrary := false }
  | ip :: ips =>
    advanceAlong ctx { s with beenInMain := ctx.target.isMain ip, beenAboveCLibrary := false } ip ips

/-- The ratchets after frames have been taken away. -/
def resetRatchets (ctx : Context) (s : State) : State :=
  if ctx.limits.resetRatchets then s.recomputeRatchets ctx else s

/-! ## Frames -/

/-- Whether the stack takes a frame. -/
def admits (ctx : Context) (s : State) (f : Frame) : Bool :=
  s.stack.admits ctx.limits f

/-- The ratchets after a frame above the last one. -/
def advanceTo (ctx : Context) (s : State) (f : Frame) : State :=
  match s.stack.last? with
  | some below => s.advanceRatchets ctx below.ip f.ip
  | none => s

/-- The state in which a frame was offered to the stack: if the stack takes it, frame 0 takes over its
return address and the ratchets move. -/
def accept (ctx : Context) (s : State) (f : Frame) : State :=
  if s.admits ctx f then
    { s.advanceTo ctx f with stack := (s.stack.append ctx.limits f).backfill f }
  else s

/-- The address of the newest frame, or else the program counter. -/
def currentIp (ctx : Context) (s : State) : Address :=
  (s.stack.last?.map Frame.ip).getD ctx.registers.pc

/-! ## Limits -/

/-- Whether there are too many frames, with the status that this makes. -/
def frameLimit? (ctx : Context) (s : State) : Option Status :=
  if ctx.limits.framesExhausted s.stack.size then
    some (.incomplete (.frameLimit (ctx.limits.maxFrames.getD 0)))
  else none

/-- Whether too many bytes have been scanned, with the status that this makes. -/
def byteLimit? (ctx : Context) (s : State) : Option Status :=
  if ctx.limits.bytesExhausted s.tally.bytes then
    some (.incomplete (.byteLimit (ctx.limits.maxBytes.getD 0)))
  else none

/-- The status of a walk whose iteration budget is used up. -/
def spentStatus (s : State) : Status :=
  .incomplete (.iterationsExhausted (UInt32.ofNat s.tally.iterations))

/-- Whether the iteration budget is used up, with the status that this makes. -/
def iterationLimit? (ctx : Context) (s : State) : Option Status :=
  if ctx.limits.maxIterations.toNat ≤ s.tally.iterations then some s.spentStatus else none

/-- More rounds than the iteration budget allows. -/
def rounds (ctx : Context) : Nat :=
  ctx.limits.maxIterations.toNat + 1

end State

/-- Where a phase of the walk leads. -/
inductive Onward
  /-- The scan starts at this stack address. -/
  | scan (cursor : Address)
  /-- The walk ends. -/
  | stop (status : Status)
deriving DecidableEq, Repr

end StackWalk.Walk

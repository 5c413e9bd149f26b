import StackWalk.Frame
import StackWalk.Limits

/-!
# StackWalk.Walk.FrameStack — the frames found so far

Frames are only ever added behind the last one and taken away from there; none is moved.  Whenever there
are more frames than ever before, all but the newest one become the best prefix.  A rollback goes back to
the best prefix, and at least by one frame, but it never takes frame 0.

Frame 0 is changed after it was added: it takes over the return address that is found for it, and loses
it again when it is the only frame left.
-/

namespace StackWalk.Walk

/-- The frames found so far, the innermost one first. -/
structure FrameStack where
  frames : Array Frame
  /-- The most frames that there have been. -/
  most : Nat
  /-- The length of the best prefix. -/
  bestPrefix : Nat
  /-- Whether two neighbours from different images lie too far apart. -/
  gapSeen : Bool
deriving DecidableEq, Repr

namespace FrameStack

/-- No frame has been found. -/
def empty : FrameStack := ⟨#[], 0, 0, false⟩

/-- The number of frames. -/
def size (s : FrameStack) : Nat := s.frames.size

/-- The newest frame. -/
def last? (s : FrameStack) : Option Frame := s.frames.back?

/-! ## Adding frames -/

/-- Whether a frame repeats the one below: with the same callee, where these are collapsed, or at the same
instruction, unless recursion is preserved. -/
def repeats (limits : Limits) (below f : Frame) : Bool :=
  (limits.collapseCallees && f.calleeName.isSome && f.calleeName == below.calleeName) ||
    (!limits.preserveRecursion && f.ip == below.ip)

/-- Whether the frame would be added. -/
def admits (limits : Limits) (s : FrameStack) (f : Frame) : Bool :=
  !s.last?.any fun below => repeats limits below f

/-- Whether two neighbours come from different images and lie too far apart. -/
def isFarFrom (limits : Limits) (below f : Frame) : Bool :=
  !below.module.isUnknown && !f.module.isUnknown && below.module != f.module &&
    limits.boundaryGap < f.cursor.distanceFrom below.cursor

/-- The stack with a frame behind the last one. -/
def append (limits : Limits) (s : FrameStack) (f : Frame) : FrameStack where
  frames := s.frames.push f
  most := max s.most (s.size + 1)
  bestPrefix := if s.most < s.size + 1 then s.size else s.bestPrefix
  gapSeen := s.gapSeen || s.last?.any fun below => isFarFrom limits below f

/-- The stack to which a frame was offered. -/
def push (limits : Limits) (s : FrameStack) (f : Frame) : FrameStack :=
  if s.admits limits f then s.append limits f else s

/-! ## Frame 0 -/

/-- The stack with frame 0 changed. -/
def mapInnermost (change : Frame → Frame) (s : FrameStack) : FrameStack :=
  { s with frames := s.frames.modify 0 change }

/-- The innermost frame with the return address that `caller` stands for. -/
def takeOver (caller innermost : Frame) : Frame :=
  if innermost.returnAddress.isSome then innermost
  else
    { innermost with
      returnAddress := caller.returnAddress
      returnSlot := caller.returnSlot
      calleeStart := innermost.calleeStart.or caller.calleeStart
      calleeName := innermost.calleeName.or caller.calleeName }

/-- Frame 0 takes over the return address of a frame, unless it has one. -/
def backfill (s : FrameStack) (caller : Frame) : FrameStack :=
  if caller.returnAddress.isSome then s.mapInnermost (takeOver caller) else s

/-- The innermost frame without what it has taken over. -/
def withoutCaller (innermost : Frame) : Frame :=
  { innermost with
    returnAddress := none
    returnSlot := none
    calleeStart := none
    calleeName := none }

/-! ## Taking frames away -/

/-- The stack cut down to its first `count` frames. -/
def truncate (s : FrameStack) (count : Nat) : FrameStack :=
  let s := { s with frames := s.frames.take count, gapSeen := false }
  if s.size = 1 then s.mapInnermost withoutCaller else s

/-- How many frames a rollback keeps. -/
def keptByRollback (s : FrameStack) : Nat :=
  max 1 (min s.bestPrefix (s.size - 1))

/-- How many frames a rollback drops. -/
def droppedByRollback (s : FrameStack) : Nat :=
  s.size - s.keptByRollback

/-- The stack cut down to its best prefix, or further. -/
def rollback (s : FrameStack) : FrameStack :=
  { s.truncate s.keptByRollback with bestPrefix := min s.bestPrefix s.keptByRollback }

/-! ## Sizes -/

@[simp]
theorem size_append (limits : Limits) (s : FrameStack) (f : Frame) :
    (s.append limits f).size = s.size + 1 := by
  simp [append, size]

@[simp]
theorem size_mapInnermost (change : Frame → Frame) (s : FrameStack) :
    (s.mapInnermost change).size = s.size := by
  simp [mapInnermost, size]

@[simp]
theorem size_backfill (s : FrameStack) (caller : Frame) : (s.backfill caller).size = s.size := by
  unfold backfill
  split <;> simp

@[simp]
theorem size_truncate (s : FrameStack) (count : Nat) :
    (s.truncate count).size = min count s.size := by
  unfold truncate
  dsimp only
  split <;> simp [size, mapInnermost]

end FrameStack

end StackWalk.Walk

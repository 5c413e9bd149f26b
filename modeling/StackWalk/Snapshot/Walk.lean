import StackWalk.Snapshot.Index
import StackWalk.Walk

/-!
# StackWalk.Snapshot.Walk — walking a captured stack

The walk of a snapshot starts from the captured registers and takes every answer from the snapshot, so
that it gives the same trace whenever it is repeated.
-/

namespace StackWalk.Snapshot

/-- What a walk of the snapshot within some limits is given. -/
def context (s : Snapshot) (limits : Limits) : Walk.Context where
  arch := s.architecture
  target := s.target
  registers := s.registers
  limits := limits

/-- Walks the captured stack within some limits. -/
def walkWithin (s : Snapshot) (limits : Limits) : Trace :=
  Walk.run (s.context limits)

/-- Walks the captured stack within its own limits. -/
def walk (s : Snapshot) : Trace :=
  s.walkWithin s.effectiveLimits

end StackWalk.Snapshot

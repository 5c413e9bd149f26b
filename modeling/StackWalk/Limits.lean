import StackWalk.Address
import StackWalk.Json.Record

/-!
# StackWalk.Limits — bounds and policies of a walk

Every walk ends, because its iteration budget is never refilled.  The limits on frames and bytes cut it
shorter; the thresholds say what counts as a gap; the switches choose what happens to recursion and to
what a rollback has taught the walk about the stack.
-/

namespace StackWalk

/-- The bounds and policies of a walk. -/
structure Limits where
  /-- The walk stops at so many frames. -/
  maxFrames : Option UInt64
  /-- The walk stops after so many bytes of stack. -/
  maxBytes : Option UInt64
  /-- The highest stack address of the thread. -/
  stackBase : Option Address
  /-- How many stack words may be looked at. -/
  maxIterations : UInt32
  /-- The distance above the slot of a library frame that makes a gap. -/
  gapThreshold : UInt64
  /-- The distance between frames of two modules that makes a gap. -/
  boundaryGap : UInt64
  /-- Whether a frame at the same call as the one below is kept. -/
  preserveRecursion : Bool
  /-- Whether a frame that calls the same name as the one below is dropped. -/
  collapseCallees : Bool
  /-- Whether a rollback also forgets what the dropped frames have taught. -/
  resetRatchets : Bool
deriving DecidableEq, Repr

namespace Limits

/-- The limits where nothing is set. -/
def standard : Limits where
  maxFrames := none
  maxBytes := none
  stackBase := none
  maxIterations := 9000
  gapThreshold := 2000
  boundaryGap := 1500
  preserveRecursion := false
  collapseCallees := false
  resetRatchets := true

instance : Inhabited Limits := ⟨standard⟩

/-- Whether so many frames reach the limit. -/
def framesExhausted (limits : Limits) (frames : Nat) : Bool :=
  limits.maxFrames.any fun max => max.toNat ≤ frames

/-- Whether so many bytes reach the limit. -/
def bytesExhausted (limits : Limits) (bytes : Nat) : Bool :=
  limits.maxBytes.any fun max => max.toNat ≤ bytes

/-- Whether the address lies above the stack. -/
def pastStackBase (limits : Limits) (cursor : Address) : Bool :=
  limits.stackBase.any fun base => base < cursor

/-- The fields in JSON. -/
def schema : Json.Schema [Option UInt64, Option UInt64, Option Address, UInt32, UInt64, UInt64, Bool,
    Bool, Bool] :=
  .cons (.withDefault "max_frames" (.option (.word "usize")) standard.maxFrames) <|
  .cons (.withDefault "max_bytes" (.option (.word "u64")) standard.maxBytes) <|
  .cons (.withDefault "stack_base" (.option Address.codec) standard.stackBase) <|
  .cons (.withDefault "max_iterations" (.word32 "u32") standard.maxIterations) <|
  .cons (.withDefault "gap_threshold" (.word "u64") standard.gapThreshold) <|
  .cons (.withDefault "boundary_gap" (.word "u64") standard.boundaryGap) <|
  .cons (.withDefault "preserve_recursion" .truth standard.preserveRecursion) <|
  .cons (.withDefault "collapse_recursive_callees" .truth standard.collapseCallees) <|
  .cons (.withDefault "reset_ratchets_on_recovery" .truth standard.resetRatchets)
  .nil

/-- Limits are written as an object of all fields; each may be absent when they are read. -/
def codec : Json.Codec Limits :=
  schema.codec "struct UnwindLimits"
    (fun (maxFrames, maxBytes, stackBase, maxIterations, gapThreshold, boundaryGap, preserveRecursion,
        collapseCallees, resetRatchets, ()) =>
      ⟨maxFrames, maxBytes, stackBase, maxIterations, gapThreshold, boundaryGap, preserveRecursion,
        collapseCallees, resetRatchets⟩)
    fun l => (l.maxFrames, l.maxBytes, l.stackBase, l.maxIterations, l.gapThreshold, l.boundaryGap,
      l.preserveRecursion, l.collapseCallees, l.resetRatchets, ())

end Limits

end StackWalk

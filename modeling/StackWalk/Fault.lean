import StackWalk.Address
import StackWalk.Json.Tagged

/-!
# StackWalk.Fault — what can go wrong while walking a stack

A walk never fails.  A local fault drops one candidate and the walk goes on; any other fault ends the
walk and is reported beside the frames found until then.
-/

namespace StackWalk

/-- A condition met while walking a stack. -/
inductive Fault
  /-- A stack word could not be read. -/
  | unreadableMemory (address : Address)
  /-- An instruction could not be decoded. -/
  | decodeFailure (address : Address)
  /-- The walk cannot start here. -/
  | unsupportedContext (pc : Address) (reason : String)
  /-- The iteration budget is used up. -/
  | iterationsExhausted (iterations : UInt32)
  /-- No rollback closes a gap. -/
  | gapUnrecoverable (cursor : Address)
  /-- The limit on frames is reached. -/
  | frameLimit (max : UInt64)
  /-- The limit on stack bytes is reached. -/
  | byteLimit (max : UInt64)
deriving DecidableEq, Repr

namespace Fault

/-- Whether the fault drops one candidate only. -/
def isLocal : Fault → Bool
  | .unreadableMemory _ | .decodeFailure _ => true
  | _ => false

/-- The wording of the fault. -/
def message : Fault → String
  | .unreadableMemory address => s!"unreadable memory at {address}"
  | .decodeFailure address => s!"could not decode instruction at {address}"
  | .unsupportedContext pc reason => s!"unsupported context at pc {pc}: {reason}"
  | .iterationsExhausted iterations => s!"gave up after {iterations} iterations"
  | .gapUnrecoverable cursor => s!"unrecoverable gap in stack near {cursor}"
  | .frameLimit max => s!"frame limit of {max} reached"
  | .byteLimit max => s!"byte limit of {max} reached"

/-! ## JSON -/

/-- How the faults are told apart. -/
def tag : Json.Tag where
  key := "kind"
  expected := "internally tagged enum UnwindFault"
  names := ["unreadable_memory", "decode_failure", "unsupported_context", "iteration_exhausted",
    "gap_unrecoverable", "frame_limit", "byte_limit"]

/-- The one field of a fault at an address. -/
def addressField (name : String) : Json.Schema [Address] :=
  .cons (.required name Address.codec) .nil

/-- The fields of an unsupported context. -/
def contextFields : Json.Schema [Address, String] :=
  .cons (.required "pc" Address.codec) <| .cons (.required "reason" .text) .nil

/-- The one field of a used up iteration budget. -/
def iterationsField : Json.Schema [UInt32] :=
  .cons (.required "iterations" (.word32 "u32")) .nil

/-- The one field of a reached limit; `expected` names its type in messages. -/
def maxField (expected : String) : Json.Schema [UInt64] :=
  .cons (.required "max" (.word expected)) .nil

/-- A fault is written as an object that names its kind. -/
def encode : Fault → Json
  | .unreadableMemory address =>
    tag.write "unreadable_memory" ((addressField "address").members (address, ()))
  | .decodeFailure address =>
    tag.write "decode_failure" ((addressField "address").members (address, ()))
  | .unsupportedContext pc reason =>
    tag.write "unsupported_context" (contextFields.members (pc, reason, ()))
  | .iterationsExhausted iterations =>
    tag.write "iteration_exhausted" (iterationsField.members (iterations, ()))
  | .gapUnrecoverable cursor =>
    tag.write "gap_unrecoverable" ((addressField "stack_cursor").members (cursor, ()))
  | .frameLimit max => tag.write "frame_limit" ((maxField "usize").members (max, ()))
  | .byteLimit max => tag.write "byte_limit" ((maxField "u64").members (max, ()))

/-- Reads the fields of a fault of a known kind. -/
def ofTagged (tagged : Json.Tagged) : Except Json.ReadError Fault :=
  if tagged.name = "unreadable_memory" then
    (tagged.fields (addressField "address") "struct variant UnwindFault::UnreadableMemory").map
      fun (address, ()) => .unreadableMemory address
  else if tagged.name = "decode_failure" then
    (tagged.fields (addressField "address") "struct variant UnwindFault::DecodeFailure").map
      fun (address, ()) => .decodeFailure address
  else if tagged.name = "unsupported_context" then
    (tagged.fields contextFields "struct variant UnwindFault::UnsupportedContext").map
      fun (pc, reason, ()) => .unsupportedContext pc reason
  else if tagged.name = "iteration_exhausted" then
    (tagged.fields iterationsField "struct variant UnwindFault::IterationExhausted").map
      fun (iterations, ()) => .iterationsExhausted iterations
  else if tagged.name = "gap_unrecoverable" then
    (tagged.fields (addressField "stack_cursor") "struct variant UnwindFault::GapUnrecoverable").map
      fun (cursor, ()) => .gapUnrecoverable cursor
  else if tagged.name = "frame_limit" then
    (tagged.fields (maxField "usize") "struct variant UnwindFault::FrameLimit").map
      fun (max, ()) => .frameLimit max
  else
    (tagged.fields (maxField "u64") "struct variant UnwindFault::ByteLimit").map
      fun (max, ()) => .byteLimit max

/-- Reads a fault from a kept value. -/
def ofValue (value : Json) : Except Json.ReadError Fault := do
  let tagged ← tag.splitValue value
  ofTagged tagged

/-- The codec of faults. -/
def codec : Json.Codec Fault where
  encode := encode
  decode d := do
    let tagged ← tag.split d
    ofTagged tagged

end Fault

end StackWalk

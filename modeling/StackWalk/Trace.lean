import StackWalk.Fault
import StackWalk.Frame

/-!
# StackWalk.Trace — the result of a walk

The frames, how the walk ended, and what it has counted.  In JSON the status is not an object of its
own: its members stand beside the frames.
-/

namespace StackWalk

/-- How a walk ended. -/
inductive Status
  /-- The walk reached the end of the stack. -/
  | complete
  /-- The walk was cut short; the frames are the best ones found. -/
  | incomplete (reason : Fault)
  /-- The walk could not start. -/
  | unsupported (reason : Fault)
deriving DecidableEq, Repr

namespace Status

/-- Whether the walk reached the end of the stack. -/
def isComplete : Status → Bool
  | .complete => true
  | _ => false

/-- What kept the walk from the end of the stack. -/
def fault? : Status → Option Fault
  | .complete => none
  | .incomplete reason | .unsupported reason => some reason

/-- How the ways to end are told apart. -/
def tag : Json.Tag where
  key := "status"
  expected := "internally tagged enum TraceStatus"
  names := ["complete", "incomplete", "unsupported"]

/-- The member that holds the reason; it is read from a kept value. -/
def reasonField : Json.Schema [Fault] :=
  let kept : Json.Codec Fault :=
    ⟨Fault.encode, fun d => do
      let value ← d.toValue Json.Document.nestingLimit
      Fault.ofValue value⟩
  .cons (.required "reason" kept) .nil

/-- The members of a status. -/
def members : Status → List (String × Json)
  | .complete => [(tag.key, .string "complete")]
  | .incomplete reason =>
    (tag.key, .string "incomplete") :: reasonField.members (reason, ())
  | .unsupported reason =>
    (tag.key, .string "unsupported") :: reasonField.members (reason, ())

/-- Reads the fields of a status of a known kind. -/
def ofTagged (tagged : Json.Tagged) : Except Json.ReadError Status :=
  if tagged.name = "complete" then tagged.noFields.map fun () => .complete
  else if tagged.name = "incomplete" then
    (tagged.fields reasonField "struct variant TraceStatus::Incomplete").map
      fun (reason, ()) => .incomplete reason
  else
    (tagged.fields reasonField "struct variant TraceStatus::Unsupported").map
      fun (reason, ()) => .unsupported reason

/-- The codec of a status by itself. -/
def codec : Json.Codec Status where
  encode status := .object status.members
  decode d := do
    let tagged ← tag.split d
    ofTagged tagged

end Status

/-- What a walk counts. -/
structure Stats where
  /-- Stack words looked at. -/
  iterations : UInt32
  /-- Code addresses on the stack that were not accepted as return addresses. -/
  rejected : UInt32
  /-- Stack words that could not be read. -/
  unreadable : UInt32
  /-- Addresses that could not be decoded. -/
  decodeFailures : UInt32
  /-- Recoveries from gaps. -/
  recoveries : UInt32
  /-- Bytes of stack that were scanned word by word. -/
  bytesScanned : UInt64
  /-- Frames from the chain of frame pointers. -/
  chainFrames : UInt32
deriving DecidableEq, Repr, Inhabited

namespace Stats

/-- Nothing has been counted. -/
def zero : Stats := ⟨0, 0, 0, 0, 0, 0, 0⟩

/-- The fields in JSON. -/
def schema : Json.Schema [UInt32, UInt32, UInt32, UInt32, UInt32, UInt64, UInt32] :=
  .cons (.required "iterations" (.word32 "u32")) <|
  .cons (.required "rejected_candidates" (.word32 "u32")) <|
  .cons (.required "unreadable_words" (.word32 "u32")) <|
  .cons (.required "decode_failures" (.word32 "u32")) <|
  .cons (.required "recoveries" (.word32 "u32")) <|
  .cons (.required "bytes_scanned" (.word "u64")) <|
  .cons (.required "fast_path_frames" (.word32 "u32"))
  .nil

/-- Counters are written as an object. -/
def codec : Json.Codec Stats :=
  schema.codec "struct TraceStats"
    (fun (iterations, rejected, unreadable, decodeFailures, recoveries, bytesScanned, chainFrames, ()) =>
      ⟨iterations, rejected, unreadable, decodeFailures, recoveries, bytesScanned, chainFrames⟩)
    fun s => (s.iterations, s.rejected, s.unreadable, s.decodeFailures, s.recoveries, s.bytesScanned,
      s.chainFrames, ())

end Stats

/-- The result of a walk. -/
structure Trace where
  /-- The frames, the innermost one first. -/
  frames : List Frame
  status : Status
  stats : Stats
deriving DecidableEq, Repr

namespace Trace

/-- The lines of a report, one for each frame. -/
def reportLines (t : Trace) : List String :=
  t.frames.map Frame.reportLine

/-! ## JSON -/

/-- The members read so far: the frames, the counters, and whatever else there is, the last one first. -/
structure Found where
  frames : Option (List Frame)
  stats : Option Stats
  rest : List (String × Json)

/-- Reads the members of an object; all but the frames and the counters are kept. -/
def decodeMembers (found : Found) :
    List (Json.Document × Json.Document) → Except Json.ReadError Found
  | [] => .ok found
  | (key, value) :: members => do
    let key ← key.key
    if key = "frames" then
      match found.frames with
      | some _ => .error (.data "duplicate field `frames`")
      | none =>
        let frames ← Frame.codec.list.decode value
        decodeMembers { found with frames := some frames } members
    else if key = "stats" then
      match found.stats with
      | some _ => .error (.data "duplicate field `stats`")
      | none =>
        let stats ← Stats.codec.decode value
        decodeMembers { found with stats := some stats } members
    else
      let value ← value.toValue Json.Document.nestingLimit
      decodeMembers { found with rest := (key, value) :: found.rest } members

/-- A trace is written as one object: the frames, the members of the status, and the counters. -/
def codec : Json.Codec Trace where
  encode t := .object <|
    ("frames", Frame.codec.list.encode t.frames) :: t.status.members ++
      [("stats", Stats.codec.encode t.stats)]
  decode
    | .object members closing => do
      let found ← decodeMembers ⟨none, none, []⟩ members
      Json.Document.orError closing
      match found.frames with
      | none => .error (.data "missing field `frames`")
      | some frames =>
        let tagged ← Status.tag.splitValue (.object found.rest.reverse)
        let status ← Status.ofTagged tagged
        .ok ⟨frames, status, found.stats.getD .zero⟩
    | d => d.mismatch "struct Trace"

end Trace

end StackWalk

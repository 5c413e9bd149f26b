import StackWalk.Walk.Candidate
import StackWalk.Walk.Loop
import StackWalk.Walk.Recovery

/-!
# StackWalk.Walk.StackScan — looking at every word of the stack

The scan looks at one slot after the other, from a cursor upwards.  It ends at the base of the stack, at
a limit, behind a page that cannot be read, at the end of the address space, or at a gap that no
recovery closes.  Every round that does not end it takes one iteration from a budget that is never
refilled.
-/

namespace StackWalk.Walk

/-- The state of the scan. -/
structure StackScan where
  state : State
  /-- The slot to look at next. -/
  cursor : Address
  /-- How many bytes in a row could not be read. -/
  unreadable : Nat

namespace StackScan

/-- How many bytes in a row that cannot be read are the end of the stack. -/
def unreadableLimit : Nat := 4096

/-- The status of the walk, if the scan is to end here. -/
def limit? (ctx : Context) (s : StackScan) : Option Status :=
  if ctx.limits.pastStackBase s.cursor then some .complete
  else
    (s.state.frameLimit? ctx).or ((s.state.byteLimit? ctx).or (s.state.iterationLimit? ctx))

/-- Goes on to the next slot, if there is one. -/
def advance (ctx : Context) (s : StackScan) : Round StackScan (State × Status) :=
  let state := s.state.countBytes ctx.word.toNat
  match s.cursor.above? ctx.word with
  | none => .done (state, .complete)
  | some next => .next { s with state := state, cursor := next }

/-- Looks at the slot at the cursor. -/
def look (ctx : Context) (s : StackScan) : Round StackScan (State × Status) :=
  match ctx.slot? s.cursor with
  | none =>
    let state := s.state.countUnreadable
    let unreadable := s.unreadable + ctx.word.toNat
    if unreadableLimit ≤ unreadable then .done (state, .complete)
    else advance ctx ⟨state, s.cursor, unreadable⟩
  | some value => advance ctx ⟨s.state.consider ctx s.cursor value, s.cursor, 0⟩

/-- One round of the scan. -/
def round (ctx : Context) (s : StackScan) : Round StackScan (State × Status) :=
  match s.limit? ctx with
  | some status => .done (s.state, status)
  | none =>
    let state := s.state.countIteration
    if state.gapAt ctx s.cursor then
      match state.recover ctx s.cursor with
      | (state, .ok cursor) => .next ⟨state, cursor, 0⟩
      | (state, .error fault) => .done (state, .incomplete fault)
    else look ctx { s with state := state }

/-- Scans the stack from a cursor upwards. -/
def run (ctx : Context) (s : State) (cursor : Address) : State × Status :=
  iterate (round ctx) (fun s => (s.state, s.state.spentStatus)) (State.rounds ctx) ⟨s, cursor, 0⟩

end StackScan

end StackWalk.Walk

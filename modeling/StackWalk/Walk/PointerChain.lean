import StackWalk.Walk.Loop
import StackWalk.Walk.State

/-!
# StackWalk.Walk.PointerChain — frames along the saved frame pointers

A function that keeps a frame pointer saves its caller's one below its return address, so the saved
pointers are a chain through the stack.  Every link is checked against the call that must have made it.
The chain is left at the first link that is not confirmed; a chain that ends in a null pointer accounts
for the whole stack.

The interrupted function may not have set up its frame yet.  Its return address is then looked for in
the few words above the stack pointer first.
-/

namespace StackWalk.Walk

/-! ## The return address of a function without a frame -/

namespace Context

/-- How many bytes above the stack pointer the return address of such a function may lie. -/
def leafBytes : UInt64 := 0x22

/-- Where the search for the return address ends. -/
def leafEnd (ctx : Context) (fp : Address) : Address :=
  ⟨min fp.value (ctx.registers.sp.aboveOrLast leafBytes).value⟩

/-- The frame of the caller, if its return address is in the slot at `cursor`, and what the search for the
call does to the counter. -/
def leafFrameAt (ctx : Context) (cursor : Address) : Option Frame × (UInt32 → UInt32) :=
  match (ctx.slot? cursor).filter ctx.isCodePointer with
  | none => (none, id)
  | some value =>
    let (call, counter) := ctx.callBefore value
    let leads := fun (call : Call) =>
      call.callee.start.isSome && ctx.reaches call.callee ctx.registers.pc
    ((call.filter leads).map fun call => ctx.callFrame call value cursor cursor, counter)

end Context

/-- The state of the search, and the slot to look at next. -/
structure LeafProbe where
  state : State
  cursor : Address

namespace LeafProbe

/-- Looks at one slot. -/
def round (ctx : Context) (fp : Address) (p : LeafProbe) : Round LeafProbe State :=
  if p.cursor < ctx.leafEnd fp then
    let (frame, counter) := ctx.leafFrameAt p.cursor
    let state := p.state.countIteration.countFailures counter
    match frame with
    | some frame => .done (state.accept ctx frame)
    | none => .next ⟨state, ctx.slotAbove p.cursor⟩
  else .done p.state

/-- As many slots as there are addresses: the search may run around the end of the address space. -/
def maxSlots : Nat := 0x1_0000_0000_0000_0000

/-- Looks for the return address of a function without a frame. -/
def run (ctx : Context) (fp : Address) (s : State) : State :=
  iterate (round ctx fp) LeafProbe.state maxSlots ⟨s, ctx.registers.sp⟩

end LeafProbe

/-! ## The chain -/

/-- The state of the walk along the chain. -/
structure PointerChain where
  state : State
  /-- Where the next link lies. -/
  link : Address
  /-- How many frames the chain has made. -/
  produced : Nat
  /-- The slot of the last return address. -/
  lastSlot : Option Address

namespace Context

/-- What a link of the chain shows: the frame of the caller of the function at `ip`, and the next link,
if it is confirmed; and what the search for the call does to the counter. -/
def followLink (ctx : Context) (link ip : Address) :
    Option (Frame × Address) × (UInt32 → UInt32) :=
  let slot := ctx.slotAbove link
  match ctx.slot? link, ctx.slot? slot with
  | some saved, some value =>
    if saved == link || !ctx.isCodePointer value then (none, id)
    else
      let (call, counter) := ctx.callBefore value
      let found := call.filter fun call => ctx.reaches call.callee ip
      (found.map fun call => (ctx.callFrame call value slot link, saved), counter)
  | _, _ => (none, id)

end Context

namespace PointerChain

/-- Where the walk goes on when the chain is left. -/
def onward (ctx : Context) (c : PointerChain) : State × Onward :=
  if c.link.isNull && 0 < c.produced then (c.state, .stop .complete)
  else (c.state, .scan ((c.lastSlot.map ctx.slotAbove).getD ctx.registers.sp))

/-- The chain behind a confirmed link. -/
def extend (ctx : Context) (c : PointerChain) (state : State) (frame : Frame) : PointerChain :=
  if state.admits ctx frame then
    { c with
      state := (state.accept ctx frame).countChainFrame
      produced := c.produced + 1
      lastSlot := some (ctx.slotAbove c.link) }
  else { c with state := state, lastSlot := some (ctx.slotAbove c.link) }

/-- The status of the walk, if a limit is reached. -/
def limit? (ctx : Context) (s : State) : Option Status :=
  (s.frameLimit? ctx).or (s.iterationLimit? ctx)

/-- Follows one link. -/
def round (ctx : Context) (c : PointerChain) : Round PointerChain (State × Onward) :=
  if c.link.isNull then .done (c.onward ctx)
  else
    match limit? ctx c.state with
    | some status => .done (c.state, .stop status)
    | none =>
      let (found, counter) := ctx.followLink c.link (c.state.currentIp ctx)
      let state := c.state.countIteration.countFailures counter
      match found with
      | none => .done ({ c with state := state }.onward ctx)
      | some (frame, saved) =>
        let c := c.extend ctx state frame
        if !saved.isNull && saved < c.link then .done (c.onward ctx)
        else .next { c with link := saved }

/-- Follows the chain from a frame pointer. -/
def run (ctx : Context) (fp : Address) (s : State) : State × Onward :=
  iterate (round ctx) (fun c => (c.state, .stop c.state.spentStatus)) (State.rounds ctx)
    ⟨s, fp, 0, none⟩

end PointerChain

namespace State

/-- Adds the frames that the frame pointer shows, if there is one that can be believed. -/
def addChain (ctx : Context) (s : State) : State × Onward :=
  let fp := if ctx.arch.chainsFrames then ctx.arch.framePointer? ctx.registers else none
  match fp.filter ctx.isLive with
  | none => (s, .scan ctx.registers.sp)
  | some fp => PointerChain.run ctx fp (LeafProbe.run ctx fp s)

end State

end StackWalk.Walk

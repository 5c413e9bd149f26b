import StackWalk.Callee.Entry
import StackWalk.Walk.State

/-!
# StackWalk.Walk.Candidate — which words of the stack are return addresses

A code address on the stack with a call in front of it is a candidate.  It is accepted if the call leads
to the function of the frame below, possibly by way of a stub, a tail call or a jump table.  Three rules
refuse a candidate before that: a library does not return into the program through a direct call of a
function that is not the one below, nothing returns into the C library once the walk has left it, and a
stub does not lead from one image over a second one into a third.

Two rules accept what is not confirmed: inside of the program, once the walk has come there, and in the
slot above the frame pointer.
-/

namespace StackWalk.Walk

/-- The judgement on a candidate. -/
inductive Verdict
  | accept
  /-- Accepted, behind the frame of a tail call that leads from the callee to the frame below. -/
  | acceptBehind (branch : Frame)
  | reject
deriving DecidableEq, Repr

namespace Context

/-- Whether a library would return into the program through a direct call of another function. -/
def leavesLibraryWrongly (ctx : Context) (value : Address) (callee : Callee) (below : Address) :
    Bool :=
  ctx.target.isMain value && ctx.target.isLibrary below &&
    callee.start.any fun start =>
      ctx.target.isMain start && !Callee.isPlt ctx.arch ctx.target start

/-- Whether a stub would lead from the image of `site` into a third one, neither that nor the image of
the frame below. -/
def leadsElsewhere (ctx : Context) (site : Address) (callee : Callee) (below : Address) : Bool :=
  match callee.start.bind (Callee.behindStub? ctx.arch ctx.target) with
  | none => false
  | some (behind, _) =>
    let image := ctx.target.moduleAt behind
    !image.isUnknown && image != ctx.target.moduleAt site && image != ctx.target.moduleAt below

/-- The frame of the tail call by which a callee leads to the function that contains `below`. -/
def branchFrame? (ctx : Context) (cursor : Address) (callee : Callee) (below : Address) :
    Option Frame := do
  let start ← callee.start
  let (target, i) ← Callee.tailBranch? ctx.arch ctx.target start
  if ctx.target.symbols.sameRoutine target below then
    let branch := Callee.resolve ctx.arch ctx.target start i
    some { ctx.siteFrame start cursor with
      instruction := branch.text
      calleeStart := some target
      calleeName := branch.name }
  else none

/-- Whether the slot is the one above the frame pointer, where the return address of its frame lies. -/
def isFrameSlot (ctx : Context) (cursor : Address) : Bool :=
  ctx.arch.chainsFrames &&
    (ctx.arch.framePointer? ctx.registers).any fun fp => !fp.isNull && cursor == ctx.slotAbove fp

end Context

namespace State

/-- Whether a callee may lead anywhere through a jump table; this is believed only where instructions
vary in length, and only below the C library. -/
def throughJumpTable (ctx : Context) (s : State) (callee : Callee) : Bool :=
  !s.beenAboveCLibrary && ctx.arch.instructionWidth?.isNone &&
    callee.start.any (Callee.isJumpTable ctx.arch ctx.target)

/-- The judgement on the value in the slot at `cursor`, with a call in front of it, above a frame at
`below`. -/
def judge (ctx : Context) (s : State) (cursor value : Address) (call : Context.Call)
    (below : Address) : Verdict :=
  let callee := call.callee
  let reaches := ctx.reaches callee below
  if !reaches && ctx.leavesLibraryWrongly value callee below then .reject
  else if s.beenAboveCLibrary && ctx.target.isCLibrary value then .reject
  else if ctx.leadsElsewhere call.site.address callee below then .reject
  else if reaches then .accept
  else
    match ctx.branchFrame? cursor callee below with
    | some branch => .acceptBehind branch
    | none =>
      if s.throughJumpTable ctx callee then .accept
      else if s.beenInMain && ctx.target.isMain value then .accept
      else if ctx.isFrameSlot cursor then .accept
      else .reject

/-- The judgement on a candidate; the first frame of all is always accepted. -/
def verdict (ctx : Context) (s : State) (cursor value : Address) (call : Context.Call) : Verdict :=
  match s.stack.last? with
  | none => .accept
  | some below => s.judge ctx cursor value call below.ip

/-- The state after the judgement on a candidate. -/
def settle (ctx : Context) (s : State) (cursor value : Address) (call : Context.Call) : State :=
  match s.verdict ctx cursor value call with
  | .reject => s.countRejected
  | .accept => s.accept ctx (ctx.callFrame call value cursor cursor)
  | .acceptBehind branch =>
    (s.accept ctx branch).accept ctx (ctx.callFrame call value cursor cursor)

/-- The state after a look at the value in the slot at `cursor`. -/
def consider (ctx : Context) (s : State) (cursor value : Address) : State :=
  if ctx.isCodePointer value then
    let (call, counter) := ctx.callBefore value
    let s := s.countFailures counter
    match call with
    | none => s.countRejected
    | some call =>
      if s.blacklist.contains call.site.address then s.countRejected
      else s.settle ctx cursor value call
  else s

end State

end StackWalk.Walk

import Mathlib.Data.List.Chain
import StackWalk.Proofs.Walk.Evidence
import StackWalk.Proofs.Walk.Look

/-!
# StackWalk.Proofs.Walk.Neighbours — what holds between a frame and the next one

Some statements about the frames of a walk compare each frame with the one above it: how far apart the two
were found, from which images they come.  Such a relation is kept by every cut, because a cut leaves
neighbours together, and a new frame has to stand in it to the newest one only.  So it is carried over a
walk by looking at what is offered, and to what.

The frames are read as they were found.  A relation that does not ask what frame 0 has taken over since
holds between these exactly if it holds between the frames themselves.
-/

namespace StackWalk

/-- The frame is about a jump: nothing returns to it. -/
structure Frame.IsTailCall (f : Frame) : Prop where
  noReturn : f.returnAddress = none
  notLink : f.fromLinkRegister = false

namespace Walk

/-- The relation does not ask what a frame has taken over from its caller. -/
def IgnoresCaller (R : Frame → Frame → Prop) : Prop :=
  ∀ f g, R (FrameStack.withoutCaller f) g ↔ R f g

/-- A frame that is found at `cursor` may be put on the newest one. -/
def FrameStack.Receives (R : Frame → Frame → Prop) (cursor : Address) (s : FrameStack) : Prop :=
  ∀ newest, s.last? = some newest → ∀ f, f.cursor = cursor → R newest f

/-! ## Frames that are offered in one place -/

theorem Context.cursor_branchFrame {ctx : Context} {cursor below : Address} {callee : Callee}
    {branch : Frame} (h : ctx.branchFrame? cursor callee below = some branch) :
    branch.cursor = cursor :=
  (branchFrame?_eq_some h).1

/-- The frame of a tail call has no return address, neither on the stack nor in the link register. -/
theorem Context.isTailCall_branchFrame {ctx : Context} {cursor below : Address} {callee : Callee}
    {branch : Frame} (h : ctx.branchFrame? cursor callee below = some branch) : branch.IsTailCall := by
  unfold branchFrame? at h
  obtain ⟨start, -, h⟩ := Option.bind_eq_some_iff.mp h
  obtain ⟨⟨target, i⟩, -, h⟩ := Option.bind_eq_some_iff.mp h
  dsimp only at h
  split at h
  · cases h
    exact ⟨rfl, rfl⟩
  · cases h

section Chains

variable {R : Frame → Frame → Prop} {ctx : Context} {s s' : State} {cursor : Address}

theorem isChain_asFound (hR : IgnoresCaller R) {frames : List Frame} :
    (asFound frames).IsChain R ↔ frames.IsChain R := by
  cases frames with
  | nil => exact Iff.rfl
  | cons f rest =>
      cases rest with
      | nil => simp [asFound]
      | cons g rest =>
          show List.IsChain R (FrameStack.withoutCaller f :: g :: rest) ↔ _
          rw [List.isChain_cons_cons, List.isChain_cons_cons, hR]

/-- A new frame has to be in the relation to the newest one. -/
theorem isChain_accept (hR : IgnoresCaller R) (hpos : 0 < s.stack.size)
    (h : s.stack.found.IsChain R) {f : Frame}
    (hf : s.admits ctx f = true → ∀ newest, s.stack.last? = some newest → R newest f) :
    (s.accept ctx f).stack.found.IsChain R := by
  rw [found_accept ctx hpos]
  by_cases hadmits : s.admits ctx f = true
  · rw [if_pos hadmits]
    refine List.isChain_append.mpr ⟨h, List.isChain_singleton f, ?_⟩
    intro below hbelow g hg
    obtain rfl : f = g := Option.some.inj hg
    -- the newest frame may be frame 0, with what it has taken over
    rw [FrameStack.getLast?_found] at hbelow
    obtain ⟨newest, hnewest, rfl⟩ := Option.map_eq_some_iff.mp hbelow
    have hrel := hf hadmits newest hnewest
    split
    · exact (hR newest f).mpr hrel
    · exact hrel
  · rw [if_neg hadmits, List.append_nil]
    exact h

/-- What is offered at one place is put on the newest frame, or on what has been put there before. -/
theorem receives_accept (hpos : 0 < s.stack.size) (h : s.stack.Receives R cursor)
    (hsame : ∀ f g : Frame, f.cursor = cursor → g.cursor = cursor → R f g) {f : Frame}
    (hf : f.cursor = cursor) : (s.accept ctx f).stack.Receives R cursor := by
  intro newest hnewest g hg
  by_cases hadmits : s.admits ctx f = true
  · rw [last?_accept hpos hadmits] at hnewest
    obtain rfl := Option.some.inj hnewest
    exact hsame _ _ hf hg
  · have haccept : s.accept ctx f = s := if_neg hadmits
    rw [haccept] at hnewest
    exact h newest hnewest g hg

/-- A look at a slot keeps a relation that holds between the newest frame and what is found there, and
between any two frames that are. -/
theorem isChain_looks (hR : IgnoresCaller R) (hpos : 0 < s.stack.size)
    (h : s.stack.found.IsChain R) (hreceives : s.stack.Receives R cursor)
    (hsame : ∀ f g : Frame, f.cursor = cursor → g.cursor = cursor → R f g)
    (hlooks : Looks ctx s cursor s') : s'.stack.found.IsChain R := by
  cases hlooks with
  | counted t => exact h
  | call hshows hfree t t' =>
      refine isChain_accept (s := s.setTally t) hR hpos h ?_
      intro _ newest hnewest
      exact hreceives newest hnewest _ rfl
  | @behind value call below branch hshows hfree hbelow hbranch t t' =>
      -- the tail call is put on the newest frame, and the call on one of the two
      have hcursor := Context.cursor_branchFrame hbranch
      have hfirst : ((s.setTally t).accept ctx branch).stack.found.IsChain R := by
        refine isChain_accept (s := s.setTally t) hR hpos h ?_
        intro _ newest hnewest
        exact hreceives newest hnewest branch hcursor
      have hpos' := pos_accept (s := s.setTally t) ctx hpos branch
      have hreceives' : ((s.setTally t).accept ctx branch).stack.Receives R cursor :=
        receives_accept (s := s.setTally t) hpos hreceives hsame hcursor
      refine isChain_accept (s := (s.setTally t).accept ctx branch) hR hpos' hfirst ?_
      intro _ newest hnewest
      exact hreceives' newest hnewest _ rfl

/-- The frames from the registers are all found at the stack pointer. -/
theorem isChain_start (hR : IgnoresCaller R)
    (hsame : ∀ f g : Frame, f.cursor = ctx.registers.sp → g.cursor = ctx.registers.sp → R f g) :
    (State.start ctx).stack.found.IsChain R := by
  rcases State.start_cases ctx with ⟨t, h⟩ | ⟨lr, call, t, -, -, h⟩
  · rw [h]
    exact List.isChain_singleton _
  · rw [h]
    refine isChain_accept (s := (State.initial.addInnermost ctx).setTally t) hR Nat.one_pos
      (List.isChain_singleton _) ?_
    rintro - newest ⟨⟩
    exact hsame _ _ rfl rfl

end Chains

end Walk

end StackWalk

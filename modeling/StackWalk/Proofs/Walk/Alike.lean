import StackWalk.Proofs.Walk.Look

/-!
# StackWalk.Proofs.Walk.Alike — two walks of one thread

Statements about a frame pointer or a limit compare two walks of the same thread.  Two contexts are
`Alike` if they differ at most in the frame pointer and in the budgets that end a walk.  Then the walks
see the same process and judge what they see by the same rules: every operation on what has been found
is the same for both, and so is a round, as long as no budget ends it and no candidate is accepted for the
sake of the frame pointer.
-/

namespace StackWalk.Walk

/-- The same thread of the same process, walked by the same policies.  The frame pointer may differ, and
the limits on frames, bytes and iterations. -/
structure Context.Alike (ctx ctx' : Context) : Prop where
  arch : ctx'.arch = ctx.arch
  target : ctx'.target = ctx.target
  pc : ctx'.registers.pc = ctx.registers.pc
  sp : ctx'.registers.sp = ctx.registers.sp
  lr : ctx'.registers.lr = ctx.registers.lr
  stackBase : ctx'.limits.stackBase = ctx.limits.stackBase
  gapThreshold : ctx'.limits.gapThreshold = ctx.limits.gapThreshold
  boundaryGap : ctx'.limits.boundaryGap = ctx.limits.boundaryGap
  preserveRecursion : ctx'.limits.preserveRecursion = ctx.limits.preserveRecursion
  collapseCallees : ctx'.limits.collapseCallees = ctx.limits.collapseCallees
  resetRatchets : ctx'.limits.resetRatchets = ctx.limits.resetRatchets

namespace Context.Alike

variable {ctx ctx' : Context}

theorem eq_with (h : ctx.Alike ctx') :
    ctx' =
      { ctx with
        registers :=
          { ctx.registers with fp := ctx'.registers.fp, other := ctx'.registers.other }
        limits :=
          { ctx.limits with
            maxFrames := ctx'.limits.maxFrames
            maxBytes := ctx'.limits.maxBytes
            maxIterations := ctx'.limits.maxIterations } } := by
  obtain ⟨harch, htarget, hpc, hsp, hlr, hbase, hgap, hboundary, hrecursion, hcallees, hratchets⟩ := h
  obtain ⟨arch, target, ⟨pc, sp, fp, lr, other⟩, limits⟩ := ctx'
  obtain ⟨maxFrames, maxBytes, stackBase, maxIterations, gapThreshold, boundaryGap, preserveRecursion,
    collapseCallees, resetRatchets⟩ := limits
  dsimp only at *
  subst harch htarget hpc hsp hlr hbase hgap hboundary hrecursion hcallees hratchets
  rfl

/-! ## What a place shows -/

theorem slot? (h : ctx.Alike ctx') : ctx'.slot? = ctx.slot? := by
  rw [h.eq_with]
  rfl

theorem isCodePointer (h : ctx.Alike ctx') : ctx'.isCodePointer = ctx.isCodePointer := by
  rw [h.eq_with]
  rfl

theorem callBefore (h : ctx.Alike ctx') : ctx'.callBefore = ctx.callBefore := by
  rw [h.eq_with]
  rfl

theorem shows_iff (h : ctx.Alike ctx') {slot value : Address} {call : Call} :
    ctx'.Shows slot value call ↔ ctx.Shows slot value call := by
  constructor
  · rintro ⟨hheld, hcode, hfound⟩
    exact ⟨h.slot? ▸ hheld, h.isCodePointer ▸ hcode, h.callBefore ▸ hfound⟩
  · rintro ⟨hheld, hcode, hfound⟩
    exact ⟨h.slot?.symm ▸ hheld, h.isCodePointer.symm ▸ hcode, h.callBefore.symm ▸ hfound⟩

theorem followLink (h : ctx.Alike ctx') : ctx'.followLink = ctx.followLink := by
  rw [h.eq_with]
  rfl

/-! ## What is made of it -/

theorem accept (h : ctx.Alike ctx') (s : State) (f : Frame) : s.accept ctx' f = s.accept ctx f := by
  rw [h.eq_with]
  rfl

theorem gapAt (h : ctx.Alike ctx') (s : State) (cursor : Address) :
    s.gapAt ctx' cursor = s.gapAt ctx cursor := by
  rw [h.eq_with]
  rfl

theorem resumePoint (h : ctx.Alike ctx') (s : State) : s.resumePoint ctx' = s.resumePoint ctx := by
  rw [h.eq_with]
  rfl

theorem advanceAlong (h : ctx.Alike ctx') (s : State) (below : Address) (ips : List Address) :
    s.advanceAlong ctx' below ips = s.advanceAlong ctx below ips := by
  induction ips generalizing s below with
  | nil => rfl
  | cons ip ips ih => simp only [State.advanceAlong, State.advanceRatchets, h.target, ih]

theorem resetRatchets_eq (h : ctx.Alike ctx') (s : State) :
    s.resetRatchets ctx' = s.resetRatchets ctx := by
  simp only [State.resetRatchets, State.recomputeRatchets, h.resetRatchets, h.target, h.advanceAlong]

theorem recover (h : ctx.Alike ctx') (s : State) (cursor : Address) :
    s.recover ctx' cursor = s.recover ctx cursor := by
  simp only [State.recover, State.restart, State.rollBack, h.resetRatchets_eq, h.resumePoint, h.sp]

theorem start (h : ctx.Alike ctx') : State.start ctx' = State.start ctx := by
  rw [h.eq_with]
  rfl

/-- Both judge a candidate alike, unless all that is left to ask is whether its slot is the one above the
frame pointer. -/
theorem verdict_or (h : ctx.Alike ctx') (s : State) (cursor value : Address) (call : Call) :
    s.verdict ctx' cursor value call = s.verdict ctx cursor value call ∨
      s.verdict ctx' cursor value call = (if ctx'.isFrameSlot cursor then .accept else .reject) ∧
        s.verdict ctx cursor value call = if ctx.isFrameSlot cursor then .accept else .reject := by
  have hreaches : ctx'.reaches = ctx.reaches := by
    rw [h.eq_with]
    rfl
  have hwrongly : ctx'.leavesLibraryWrongly = ctx.leavesLibraryWrongly := by
    rw [h.eq_with]
    rfl
  have helsewhere : ctx'.leadsElsewhere = ctx.leadsElsewhere := by
    rw [h.eq_with]
    rfl
  have hbranch : ctx'.branchFrame? = ctx.branchFrame? := by
    rw [h.eq_with]
    rfl
  have htable : s.throughJumpTable ctx' = s.throughJumpTable ctx := by
    rw [h.eq_with]
    rfl
  unfold State.verdict
  split
  · exact Or.inl rfl
  case h_2 below _ =>
    unfold State.judge
    simp only [hreaches, hwrongly, helsewhere, hbranch, htable, h.target]
    -- the rules are the same in the same order, down to the last one
    iterate 7
      split
      · exact Or.inl rfl
    exact Or.inr ⟨rfl, rfl⟩

theorem verdict (h : ctx.Alike ctx') (s : State) {cursor : Address}
    (hslot : ctx'.isFrameSlot cursor = ctx.isFrameSlot cursor) (value : Address) (call : Call) :
    s.verdict ctx' cursor value call = s.verdict ctx cursor value call := by
  rcases h.verdict_or s cursor value call with hsame | ⟨hverdict', hverdict⟩
  · exact hsame
  · rw [hverdict', hverdict, hslot]

theorem settle (h : ctx.Alike ctx') {s : State} {cursor value : Address} {call : Context.Call}
    (hverdict : s.verdict ctx' cursor value call = s.verdict ctx cursor value call) :
    s.settle ctx' cursor value call = s.settle ctx cursor value call := by
  have hframe : ctx'.callFrame = ctx.callFrame := by
    rw [h.eq_with]
    rfl
  unfold State.settle
  simp only [hverdict, hframe, h.accept]

/-- A word comes to the same where the judgements on what it shows are the same. -/
theorem consider (h : ctx.Alike ctx') {s : State} {cursor value : Address}
    (hverdict : ∀ call, ctx.isCodePointer value = true → (ctx.callBefore value).1 = some call →
      call.site.address ∉ s.blacklist →
      s.verdict ctx' cursor value call = s.verdict ctx cursor value call) :
    s.consider ctx' cursor value = s.consider ctx cursor value := by
  have hbefore : ctx'.callBefore value = ctx.callBefore value := by rw [h.callBefore]
  cases hcode : ctx.isCodePointer value with
  | false =>
      have hcode' : ctx'.isCodePointer value = false := by rw [h.isCodePointer, hcode]
      rw [State.consider_of_no_code hcode, State.consider_of_no_code hcode']
  | true =>
      have hcode' : ctx'.isCodePointer value = true := by rw [h.isCodePointer, hcode]
      cases hcall : (ctx.callBefore value).1 with
      | none =>
          have hcall' : (ctx'.callBefore value).1 = none := by rw [hbefore, hcall]
          rw [State.consider_of_no_call hcode hcall, State.consider_of_no_call hcode' hcall', hbefore]
      | some call =>
          have hcall' : (ctx'.callBefore value).1 = some call := by rw [hbefore, hcall]
          by_cases hlisted : call.site.address ∈ s.blacklist
          · rw [State.consider_of_listed hcode hcall hlisted,
              State.consider_of_listed hcode' hcall' hlisted, hbefore]
          · rw [State.consider_of_call hcode hcall hlisted,
              State.consider_of_call hcode' hcall' hlisted, hbefore]
            exact settle (s := s.countFailures (ctx.callBefore value).2) h
              (hverdict call hcode hcall hlisted)

end Context.Alike

/-! ## Rounds -/

section Rounds

variable {ctx ctx' : Context}

theorem LeafProbe.round_alike (h : ctx.Alike ctx') (fp : Address) :
    LeafProbe.round ctx' fp = LeafProbe.round ctx fp := by
  rw [h.eq_with]
  rfl

theorem LeafProbe.run_alike (h : ctx.Alike ctx') (fp : Address) (s : State) :
    LeafProbe.run ctx' fp s = LeafProbe.run ctx fp s := by
  unfold LeafProbe.run
  rw [LeafProbe.round_alike h, h.sp]

/-- A link is followed in the same way where the same budget is left; at the end of the chain no budget
is asked for. -/
theorem PointerChain.round_alike (h : ctx.Alike ctx') {c : PointerChain}
    (hlimit : c.link.isNull = false → limit? ctx' c.state = limit? ctx c.state) :
    PointerChain.round ctx' c = PointerChain.round ctx c := by
  have hip : c.state.currentIp ctx' = c.state.currentIp ctx := by
    rw [h.eq_with]
    rfl
  have hextend : PointerChain.extend ctx' = PointerChain.extend ctx := by
    rw [h.eq_with]
    rfl
  have honward : PointerChain.onward ctx' = PointerChain.onward ctx := by
    rw [h.eq_with]
    rfl
  unfold PointerChain.round
  cases hnull : c.link.isNull with
  | true => simp [honward]
  | false => simp only [hlimit hnull, hip, hextend, honward, h.followLink]

namespace StackScan

theorem look_alike (h : ctx.Alike ctx') {s : StackScan}
    (hconsider : ∀ value, ctx.slot? s.cursor = some value →
      s.state.consider ctx' s.cursor value = s.state.consider ctx s.cursor value) :
    look ctx' s = look ctx s := by
  have hadvance : advance ctx' = advance ctx := by
    rw [h.eq_with]
    rfl
  have hword : ctx'.word = ctx.word := by
    rw [h.eq_with]
    rfl
  unfold look
  rw [h.slot?, hadvance, hword]
  split
  · rfl
  case h_2 value hheld => rw [hconsider value hheld]

/-- A slot is scanned in the same way where the same budget is left, and its word comes to the same. -/
theorem round_alike (h : ctx.Alike ctx') {s : StackScan} (hlimit : s.limit? ctx' = s.limit? ctx)
    (hconsider : s.limit? ctx = none → s.state.gapAt ctx s.cursor = false →
      ∀ value, ctx.slot? s.cursor = some value →
        s.state.countIteration.consider ctx' s.cursor value =
          s.state.countIteration.consider ctx s.cursor value) :
    round ctx' s = round ctx s := by
  cases hnone : s.limit? ctx with
  | some status => rw [round_of_limit hnone, round_of_limit (hlimit.trans hnone)]
  | none =>
      cases hgap : s.state.gapAt ctx s.cursor with
      | true =>
          rw [round_of_gap hnone hgap, round_of_gap (hlimit.trans hnone) ((h.gapAt _ _).trans hgap),
            h.recover]
      | false =>
          rw [round_of_no_gap hnone hgap,
            round_of_no_gap (hlimit.trans hnone) ((h.gapAt _ _).trans hgap)]
          exact look_alike h (hconsider hnone hgap)

end StackScan

end Rounds

end StackWalk.Walk

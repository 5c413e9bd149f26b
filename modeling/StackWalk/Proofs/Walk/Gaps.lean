import StackWalk.Proofs.Tables
import StackWalk.Proofs.Walk.Neighbours
import StackWalk.Proofs.Walk.Ratchets
import StackWalk.Proofs.Walk.Recoveries

/-!
# StackWalk.Proofs.Walk.Gaps — how far apart neighbours are

Two rules say what a gap is.  A library frame must not lie too far below the slot that is looked at; this
is asked before each look, so what the look adds is in reach (`run_inReach`).  And frames from two images
must not be too far apart; this is asked when a frame has been added, and the round after it recovers.

A recovery takes the newest frame away, and with it the gap.  But where the call was put behind a tail
call, the gap lies below the jump, and a rollback to all but the newest frame leaves the jump where it is.
`closesGaps_iff_never_strands` says that nothing else is left: after a recovery only the frame of a tail
call can be far from the one below it, and none is exactly if no recovery leaves a jump and takes its call.
-/

namespace StackWalk.Walk

/-! ## Frames in reach of a library -/

/-- The frame above one of a library is not too far up. -/
def Context.InReach (ctx : Context) (f g : Frame) : Prop :=
  ctx.target.isLibrary f.ip = true → g.cursor.distanceFrom f.cursor ≤ ctx.limits.gapThreshold

instance (ctx : Context) : DecidableRel ctx.InReach := fun f _ =>
  inferInstanceAs (Decidable (ctx.target.isLibrary f.ip = true → _))

section Reach

variable {ctx : Context} {s : State} {cursor : Address}

theorem Context.inReach_of_same (ctx : Context) (f g : Frame) (hf : f.cursor = cursor)
    (hg : g.cursor = cursor) : ctx.InReach f g := by
  intro _
  rw [hf, hg, Address.distanceFrom_self]
  exact UInt64.zero_le

/-- Where there is no gap, the slot is in reach of the newest frame. -/
theorem receives_of_no_gap (hgap : s.gapAt ctx cursor = false) :
    s.stack.Receives ctx.InReach cursor := by
  intro newest hnewest f hf hlibrary
  unfold State.gapAt at hgap
  rw [hnewest, Bool.or_eq_false_iff] at hgap
  have hnear : (ctx.limits.gapThreshold < cursor.distanceFrom newest.cursor : Bool) = false := by
    simpa [hlibrary] using hgap.2
  rw [hf]
  exact UInt64.not_lt.mp (of_decide_eq_false hnear)

end Reach

/-- **No frame of a trace is too far above one of a library**, whatever recoveries came in between. -/
theorem run_inReach (ctx : Context) (h : ctx.registers.fp = none) :
    (run ctx).frames.IsChain ctx.InReach := by
  have hignores : IgnoresCaller ctx.InReach := fun _ _ => Iff.rfl
  have houtcome : (outcome ctx).1.stack.found.IsChain ctx.InReach := by
    apply outcome_of_operations (P := fun s => s.stack.found.IsChain ctx.InReach)
      (Context.livePointer?_eq_none h)
    · exact isChain_start hignores ctx.inReach_of_same
    · intro s t hs
      exact hs
    · intro s cursor value hcomes hs hgap hheld
      have hpos := ((State.rooted_start ctx).comesTo hcomes).stack
      exact isChain_looks hignores hpos hs (receives_of_no_gap hgap) ctx.inReach_of_same
        (State.looks_consider hheld)
    · intro s s' resume hs hrecovers
      exact hs.prefix hrecovers.cuts_found
  -- what is reported are the first ones of these frames
  have hfound := (isChain_asFound hignores).mp houtcome
  exact hfound.prefix (run_prefix_outcome ctx)

/-- A thread in `work` of the program, which `plugin` of a library calls, which `caller` calls; in front of
them on the stack is a return address that an earlier call of `work` has left. -/
def staleCall : Context where
  arch := .x86_64
  target := Tables.target
    { images := [(⟨"app"⟩, .main, 0x400000, 0x410000), (⟨"libplug.so"⟩, .library, 0x500000, 0x510000)]
      routines := [("work", 0x401000, 0x100), ("caller", 0x401100, 0x100), ("plugin", 0x500000, 0x100),
        ("stale", 0x500100, 0x100)]
      code := [(0x401010, ⟨1, "nop"⟩), (0x401110, ⟨5, "call 0x500000"⟩), (0x500010, ⟨5, "call 0x401000"⟩),
        (0x500110, ⟨5, "call 0x401000"⟩)]
      words := [(0x7FFE0000, 0x500115), (0x7FFE0008, 0), (0x7FFE0010, 0), (0x7FFE0018, 0),
        (0x7FFE0020, 0x500015), (0x7FFE0028, 0x401115)] }
  registers := Registers.ofPcSp ⟨0x401010⟩ ⟨0x7FFE0000⟩
  limits := { Limits.standard with stackBase := some ⟨0x7FFE0028⟩, gapThreshold := 16 }

/-- The gap above the stale call takes it away; the frames that are found then are in reach. -/
theorem staleCall_inReach :
    staleCall.registers.fp = none ∧ (run staleCall).stats.recoveries = 1 ∧
      (run staleCall).frames.map Frame.ip = [⟨0x401010⟩, ⟨0x500010⟩, ⟨0x401110⟩] ∧
      (run staleCall).frames.IsChain staleCall.InReach := by
  have hrecoveries : (run staleCall).stats.recoveries = 1 := by decide +kernel
  have hframes : (run staleCall).frames.map Frame.ip = [⟨0x401010⟩, ⟨0x500010⟩, ⟨0x401110⟩] := by
    decide +kernel
  exact ⟨rfl, hrecoveries, hframes, run_inReach staleCall rfl⟩

/-! ## Frames from two images -/

/-- Only such frames are far from the one below them. -/
def OnlyFar (p : Frame → Prop) (limits : Limits) (frames : List Frame) : Prop :=
  frames.IsChain fun below f => FrameStack.isFarFrom limits below f = true → p f

/-- After a recovery no frame is far from the one below it, which is from another image. -/
def ClosesGaps (ctx : Context) : Prop :=
  ∀ n s s', RecoversAt ctx n s s' → s'.state.stack.frames.toList.IsChain fun below f =>
    FrameStack.isFarFrom ctx.limits below f = false

/-- From one round to the next the newest frame goes, and leaves a tail call that is far from the frame
below it. -/
structure StrandsTailCall (limits : Limits) (branch : Frame) (s s' : FrameStack) : Prop where
  tailCall : branch.IsTailCall
  stranded : ∃ rest below call, s.found = rest ++ [below, branch, call] ∧
    s'.found = rest ++ [below, branch] ∧ FrameStack.isFarFrom limits below branch = true

/-- The newest frame is on a tail call that is far from the frame below it. -/
def FrameStack.EndsBehind (p : Frame → Prop) (limits : Limits) (s : FrameStack) : Prop :=
  ∃ rest below branch call, s.found = rest ++ [below, branch, call] ∧
    OnlyFar p limits (rest ++ [below]) ∧ isFarFrom limits below branch = true ∧ branch.IsTailCall

/-- As long as no gap has been seen, only such frames are far from the one below as a recovery has left;
when one has been seen, the newest frame is to blame, unless it is on a tail call. -/
structure State.Settled (ctx : Context) (p : Frame → Prop) (s : State) : Prop where
  calm : s.stack.gapSeen = false → OnlyFar p ctx.limits s.stack.found
  seen : s.rollbackFloor < s.stack.size →
    OnlyFar p ctx.limits s.stack.found.dropLast ∨ s.stack.EndsBehind p ctx.limits

section Far

variable {ctx : Context} {p : Frame → Prop} {s s' : State}

theorem isFarFrom_of_same (limits : Limits) {f g : Frame} (h : f.cursor = g.cursor) :
    FrameStack.isFarFrom limits f g = false := by
  have hzero : g.cursor.distanceFrom f.cursor = 0 := by
    rw [h, Address.distanceFrom_self]
  unfold FrameStack.isFarFrom
  rw [hzero, decide_eq_false (UInt64.not_lt.mpr UInt64.zero_le), Bool.and_false]

theorem ignoresCaller_onlyFar (p : Frame → Prop) (limits : Limits) :
    IgnoresCaller fun below f => FrameStack.isFarFrom limits below f = true → p f :=
  fun _ _ => Iff.rfl

theorem onlyFar_asFound {frames : List Frame} :
    OnlyFar p ctx.limits (asFound frames) ↔ OnlyFar p ctx.limits frames :=
  isChain_asFound (ignoresCaller_onlyFar p ctx.limits)

/-- The frames from the registers are found in one place. -/
theorem onlyFar_start (ctx : Context) (p : Frame → Prop) :
    OnlyFar p ctx.limits (State.start ctx).stack.found := by
  apply isChain_start (ignoresCaller_onlyFar p ctx.limits)
  intro f g hf hg hfar
  rw [isFarFrom_of_same ctx.limits (hf.trans hg.symm)] at hfar
  cases hfar

/-- A frame that makes no gap is near. -/
theorem onlyFar_accept (hpos : 0 < s.stack.size) {f : Frame}
    (h : s.stack.gapSeen = false → OnlyFar p ctx.limits s.stack.found)
    (hgap : (s.accept ctx f).stack.gapSeen = false) :
    OnlyFar p ctx.limits (s.accept ctx f).stack.found := by
  rw [gapSeen_accept, Bool.or_eq_false_iff] at hgap
  apply isChain_accept (ignoresCaller_onlyFar p ctx.limits) hpos (h hgap.1)
  intro hadmits newest hnewest hfar
  have hnear := hgap.2
  simp [hadmits, hnewest, hfar] at hnear

/-- A new frame is to blame for the gap that it makes. -/
theorem onlyFar_dropLast_accept (hpos : 0 < s.stack.size)
    (h : OnlyFar p ctx.limits s.stack.found) (f : Frame) :
    OnlyFar p ctx.limits (s.accept ctx f).stack.found.dropLast := by
  rw [found_accept ctx hpos]
  by_cases hadmits : s.admits ctx f = true
  · rw [if_pos hadmits, List.dropLast_concat]
    exact h
  · rw [if_neg hadmits, List.append_nil]
    exact h.dropLast

/-- Behind a tail call that makes a gap the newest frame is not to blame. -/
theorem endsBehind_accept (hpos : 0 < s.stack.size) (h : OnlyFar p ctx.limits s.stack.found)
    (hcalm : s.stack.gapSeen = false) {branch call : Frame} (htail : branch.IsTailCall)
    (hgap : (s.accept ctx branch).stack.gapSeen = true)
    (hadmits : (s.accept ctx branch).admits ctx call = true) :
    ((s.accept ctx branch).accept ctx call).stack.EndsBehind p ctx.limits := by
  rw [gapSeen_accept, hcalm, Bool.false_or, Bool.and_eq_true] at hgap
  obtain ⟨hbranch, hfar⟩ := hgap
  obtain ⟨newest, hnewest, hfar⟩ := (Option.any_eq_true _ _).mp hfar
  -- the frame below is the newest one, as it was found
  have hlast := FrameStack.getLast?_found s.stack
  rw [hnewest, Option.map_some] at hlast
  obtain ⟨rest, hrest⟩ := List.getLast?_eq_some_iff.mp hlast
  refine ⟨rest, _, branch, call, ?_, hrest ▸ h, ?_, htail⟩
  · rw [found_accept ctx (pos_accept ctx hpos branch), found_accept ctx hpos, if_pos hbranch,
      if_pos hadmits, hrest]
    simp
  · split
    · exact hfar
    · exact hfar

theorem State.Settled.setTally (h : s.Settled ctx p) (t : Tally) : (s.setTally t).Settled ctx p :=
  ⟨h.calm, h.seen⟩

/-- What is offered to a stack without a gap is to blame for a gap, or on what is. -/
theorem settled_accept (hpos : 0 < s.stack.size) (h : OnlyFar p ctx.limits s.stack.found) (f : Frame) :
    (s.accept ctx f).Settled ctx p where
  calm := onlyFar_accept hpos fun _ => h
  seen _ := Or.inl (onlyFar_dropLast_accept hpos h f)

/-- A look at a slot is made only where no gap has been seen. -/
theorem settled_looks (hpos : 0 < s.stack.size) (h : s.Settled ctx p)
    (hcalm : s.stack.gapSeen = false) {cursor : Address} (hlooks : Looks ctx s cursor s') :
    s'.Settled ctx p := by
  have hfound := h.calm hcalm
  cases hlooks with
  | counted t => exact h.setTally t
  | call hshows hfree t t' =>
      exact (settled_accept (s := s.setTally t) hpos hfound _).setTally t'
  | @behind value call below branch hshows hfree hbelow hbranch t t' =>
      have hpos' := pos_accept (s := s.setTally t) ctx hpos branch
      apply State.Settled.setTally
      cases hgap : ((s.setTally t).accept ctx branch).stack.gapSeen with
      | false =>
          -- the tail call makes no gap, so the call alone is to blame for one
          have hfirst := onlyFar_accept (s := s.setTally t) hpos (fun _ => hfound) hgap
          exact settled_accept hpos' hfirst _
      | true =>
          have htail := Context.isTailCall_branchFrame hbranch
          refine ⟨?_, fun _ => ?_⟩
          · intro hnone
            rw [gapSeen_accept, hgap] at hnone
            cases hnone
          · by_cases hadmits : ((s.setTally t).accept ctx branch).admits ctx
              (ctx.callFrame call value cursor cursor) = true
            · exact Or.inr (endsBehind_accept (s := s.setTally t) hpos hfound hcalm htail hgap hadmits)
            · have haccept : ((s.setTally t).accept ctx branch).accept ctx
                  (ctx.callFrame call value cursor cursor) = (s.setTally t).accept ctx branch :=
                if_neg hadmits
              rw [haccept]
              exact Or.inl (onlyFar_dropLast_accept (s := s.setTally t) hpos hfound branch)

/-- Frames that were found before the scan are not rolled back. -/
theorem settled_beforeScan (ctx : Context) (p : Frame → Prop) : (beforeScan ctx).1.Settled ctx p where
  calm := by
    refine (addChain_induction (P := fun s => 0 < s.stack.size ∧
      (s.stack.gapSeen = false → OnlyFar p ctx.limits s.stack.found)) ?_ ?_).2
    · exact ⟨(answered_start ctx).pos, fun _ => onlyFar_start ctx p⟩
    · intro s s' h hround
      refine hround.preserves (P := fun s => 0 < s.stack.size ∧
        (s.stack.gapSeen = false → OnlyFar p ctx.limits s.stack.found)) h (fun _ _ h => h) ?_
      intro s f h
      exact ⟨pos_accept ctx h.1 f, onlyFar_accept h.1 h.2⟩
  seen h := absurd h (Nat.lt_irrefl _)

/-! ## What a recovery leaves -/

/-- All but the newest frame are left of one that is put on a tail call, or not even the tail call. -/
theorem FrameStack.EndsBehind.onlyFar_take {s s' : FrameStack} {limits : Limits} {count : Nat}
    (h : s.EndsBehind p limits) (hcount : count < s.size) (hcut : s'.found = s.found.take count)
    (hstrands : ∀ branch, StrandsTailCall limits branch s s' → p branch) :
    OnlyFar p limits s'.found := by
  obtain ⟨rest, below, branch, call, hfound, hchain, hfar, htail⟩ := h
  have hsize : s.size = rest.length + 3 := by
    rw [← length_found, hfound]
    simp
  by_cases hall : count = rest.length + 2
  · have hleft : s'.found = rest ++ [below, branch] := by
      rw [hcut, hfound, hall, List.take_append]
      simp
    have hp : p branch := hstrands branch ⟨htail, rest, below, call, hfound, hleft, hfar⟩
    rw [hleft, List.append_cons]
    refine List.isChain_append.mpr ⟨hchain, List.isChain_singleton branch, ?_⟩
    intro _ _ f hf _
    obtain rfl : branch = f := Option.some.inj hf
    exact hp
  · have hkept : s'.found <+: rest ++ [below] := by
      have hcounted : s.found.take count = (rest ++ [below]).take count := by
        rw [hfound, List.append_cons, List.take_append_of_le_length]
        simp
        omega
      rw [hcut, hcounted]
      exact List.take_prefix _ _
    exact hchain.prefix hkept

/-- A recovery leaves only such frames far from the one below as the tail calls are that it strands. -/
theorem onlyFar_recovered (hrests : s.Rests ctx) (hrests' : s'.Rests ctx) (h : s.Settled ctx p)
    {resume : Address} (hrecovers : Recovers ctx s s' resume)
    (hstrands : ∀ branch, StrandsTailCall ctx.limits branch s.stack s'.stack → p branch) :
    OnlyFar p ctx.limits s'.stack.found := by
  cases hrecovers with
  | restarted hfew hnot t =>
      have hframes := hrests.registers.frames_truncate (answered_start ctx)
        (hrests.restartFloor ▸ hrests.floors.registers.size)
      rw [State.stack_backToRegisters]
      show OnlyFar p ctx.limits (asFound (s.stack.truncate s.restartFloor).frames.toList)
      rw [hrests.restartFloor, hframes]
      exact onlyFar_start ctx p
  | @rolledBack site hmore hsite hfree t =>
      have hlt : s.stack.keptByRollback < s.stack.size := by
        have hpos := hrests.floors.registers.pos
        have hfloor := hrests.floors.floor
        exact FrameStack.keptByRollback_lt (by omega)
      have hcut : ((s.setTally t).rollBack ctx site).stack.found =
          s.stack.found.take s.stack.keptByRollback := by
        rw [State.stack_rollBack, FrameStack.found_rollback]
        rfl
      rcases h.seen hmore with hchain | hends
      · have hkept : s.stack.found.take s.stack.keptByRollback <+: s.stack.found.dropLast := by
          apply List.prefix_of_prefix_length_le (List.take_prefix _ _) (List.dropLast_prefix _)
          simp
          omega
        rw [hcut]
        exact hchain.prefix hkept
      · exact hends.onlyFar_take hlt hcut hstrands

end Far

section Rounds

variable {ctx : Context} {p : Frame → Prop}

/-- What holds of the tail calls that are stranded holds of all frames that a recovery leaves far from the
one below. -/
theorem onlyFar_of_recoversAt
    (hstrands : ∀ n s s' branch, RecoversAt ctx n s s' →
      StrandsTailCall ctx.limits branch s.state.stack s'.state.stack → p branch)
    {n : Nat} {s s' : StackScan} (h : RecoversAt ctx n s s') :
    OnlyFar p ctx.limits s'.state.stack.found := by
  have hrecovered {n : Nat} {s s' : StackScan} (h : RecoversAt ctx n s s')
      (hs : s.state.Settled ctx p) : OnlyFar p ctx.limits s'.state.stack.found :=
    onlyFar_recovered (scanning_rests h.before) (scanning_rests h.after) hs h.recovers
      fun branch => hstrands n s s' branch h
  -- the rounds of the scan come to a recovery, or look where no gap has been seen
  apply hrecovered h
  apply scanning_induction_at (P := fun s => s.state.Settled ctx p) _ _ h.before
  · intro cursor _
    exact settled_beforeScan ctx p
  · intro n s s' hbefore hafter hs hround
    cases hgap : s.state.gapAt ctx s.cursor with
    | true =>
        have hfound := hrecovered ⟨hbefore, hgap, hafter⟩ hs
        exact ⟨fun _ => hfound, fun _ => Or.inl hfound.dropLast⟩
    | false =>
        have hpos := (phaseAt_isJustified ctx n).stack.pos
        rw [hbefore] at hpos
        have hcalm : s.state.stack.gapSeen = false := (Bool.or_eq_false_iff.mp hgap).1
        exact settled_looks hpos hs hcalm (StackScan.looks_of_no_gap hgap hround)

/-- What a recovery strands is far from the frame below. -/
theorem StrandsTailCall.not_near {limits : Limits} {branch : Frame} {s s' : FrameStack}
    (h : StrandsTailCall limits branch s s') : ¬ OnlyFar (fun _ => False) limits s'.found := by
  obtain ⟨rest, below, call, -, hleft, hfar⟩ := h.stranded
  intro hnear
  rw [hleft] at hnear
  have hpair := (List.isChain_append.mp hnear).2.1
  exact (List.isChain_cons_cons.mp hpair).1 hfar

theorem closesGaps_iff_onlyFar : ClosesGaps ctx ↔
    ∀ n s s', RecoversAt ctx n s s' → OnlyFar (fun _ => False) ctx.limits s'.state.stack.found := by
  have hsame (frames : List Frame) :
      (frames.IsChain fun below f => FrameStack.isFarFrom ctx.limits below f = false) ↔
        OnlyFar (fun _ => False) ctx.limits frames :=
    List.IsChain.iff fun _ _ => Bool.eq_false_iff
  unfold ClosesGaps
  simp only [hsame, FrameStack.found, onlyFar_asFound]

end Rounds

/-- **A recovery leaves no frame far from the one below it, but for the tail calls that it strands**: where
one is left, the call that was put on it is gone. -/
theorem closesGaps_iff_never_strands (ctx : Context) :
    (∀ n s s', RecoversAt ctx n s s' →
      OnlyFar Frame.IsTailCall ctx.limits s'.state.stack.frames.toList) ∧
    (ClosesGaps ctx ↔ ∀ n s s' branch, RecoversAt ctx n s s' →
      ¬ StrandsTailCall ctx.limits branch s.state.stack s'.state.stack) := by
  refine ⟨?_, ?_, ?_⟩
  · intro n s s' h
    exact onlyFar_asFound.mp
      (onlyFar_of_recoversAt (p := Frame.IsTailCall) (fun _ _ _ _ _ hstrands => hstrands.tailCall) h)
  · intro hcloses n s s' branch h hstrands
    exact hstrands.not_near (closesGaps_iff_onlyFar.mp hcloses n s s' h)
  · intro hnever
    apply closesGaps_iff_onlyFar.mpr
    intro n s s' h
    exact onlyFar_of_recoversAt (fun n s s' branch h hstrands => hnever n s s' branch h hstrands) h

/-- A thread in `work` of the program, to which `wrapper` of a library jumps; a call of `wrapper` is on the
stack, a few words above. -/
def strandedJump : Context where
  arch := .x86_64
  target := Tables.target
    { images := [(⟨"app"⟩, .main, 0x400000, 0x410000), (⟨"libplug.so"⟩, .library, 0x500000, 0x510000)]
      routines := [("work", 0x401000, 0x100), ("caller", 0x500000, 0x100), ("wrapper", 0x500200, 0x10)]
      code := [(0x401010, ⟨1, "nop"⟩), (0x500010, ⟨5, "call 0x500200"⟩), (0x500200, ⟨5, "jmp 0x401000"⟩)]
      words := [(0x7FFE0000, 0), (0x7FFE0008, 0), (0x7FFE0010, 0), (0x7FFE0018, 0x500015),
        (0x7FFE0020, 0)] }
  registers := Registers.ofPcSp ⟨0x401010⟩ ⟨0x7FFE0000⟩
  limits := { Limits.standard with stackBase := some ⟨0x7FFE0020⟩, boundaryGap := 16 }

/-- The jump is as far from `work` as the call is, but only the call is taken away. -/
theorem strandedJump_not_closesGaps : ¬ ClosesGaps strandedJump := by
  intro hcloses
  have hgap : (phaseAt strandedJump 5).atGap strandedJump = true := by decide +kernel
  have hafter : (phaseAt strandedJump 6).isScanning = true := by decide +kernel
  have hfar : ¬ (phaseAt strandedJump 6).state.stack.frames.toList.IsChain
      fun below f => FrameStack.isFarFrom strandedJump.limits below f = false := by
    decide +kernel
  obtain ⟨s, s', h⟩ := exists_recoversAt hgap hafter
  have hs' : phaseAt strandedJump 6 = .scanning s' := h.after
  rw [hs'] at hfar
  exact hfar (hcloses 5 s s' h)

end StackWalk.Walk

import StackWalk.Proofs.Tables
import StackWalk.Proofs.Walk.Alike
import StackWalk.Proofs.Walk.Recoveries

/-!
# StackWalk.Proofs.Walk.FrameLimit — walks with and without a limit on frames

A walk that is to stop at so many frames does what the walk without that limit does, until the limit is
met at the head of a round; there it stops, and the other walk goes on.  `outcome_withMaxFrames` says so
of the two walks as a whole, and what is known of either follows from it.

Without a recovery frames are only added, so the frames of the limited walk are the first ones of the
other (`frames_withMaxFrames`).  Where the limited walk is complete, it has never met its limit, and both
have found the same frames.  But a round may add two frames, and so may the registers, before the limit
is asked for again; if the walk then ends, the report drops a frame, and nothing in it says so.
`complete_withMaxFrames_iff` has the exact condition.
-/

namespace StackWalk.Walk

/-- The same walk with another limit on frames. -/
def Context.withMaxFrames (ctx : Context) (max : Option UInt64) : Context :=
  { ctx with limits := { ctx.limits with maxFrames := max } }

theorem Context.alike_withMaxFrames (ctx : Context) (max max' : Option UInt64) :
    (ctx.withMaxFrames max).Alike (ctx.withMaxFrames max') := by
  constructor <;> rfl

@[simp]
theorem Context.pastStackBase_withMaxFrames (ctx : Context) (max : Option UInt64) :
    (ctx.withMaxFrames max).limits.pastStackBase = ctx.limits.pastStackBase := rfl

/-! ## Frames without a recovery -/

/-- The later state counts no fewer recoveries; if it counts no more, the frames that have been found are
still there, in place. -/
structure State.LeadsTo (s s' : State) : Prop where
  recoveries : s.tally.recoveries ≤ s'.tally.recoveries
  found : s'.tally.recoveries = s.tally.recoveries → s.stack.found <+: s'.stack.found

section Growth

variable {ctx : Context}

theorem State.leadsTo_refl (s : State) : s.LeadsTo s := ⟨Nat.le_refl _, fun _ => List.prefix_rfl⟩

theorem State.LeadsTo.trans {s s' s'' : State} (h : s.LeadsTo s') (h' : s'.LeadsTo s'') :
    s.LeadsTo s'' := by
  have hle := h.recoveries
  have hle' := h'.recoveries
  refine ⟨by omega, fun hsame => ?_⟩
  exact (h.found (by omega)).trans (h'.found (by omega))

theorem found_prefix_accept (ctx : Context) (s : State) (f : Frame) :
    s.stack.found <+: (s.accept ctx f).stack.found := by
  rcases Nat.eq_zero_or_pos s.stack.size with hzero | hpos
  · have hnil : s.stack.found = [] := by
      rw [← List.length_eq_zero_iff, FrameStack.length_found, hzero]
    rw [hnil]
    exact List.nil_prefix
  · rw [found_accept ctx hpos]
    exact List.prefix_append _ _

theorem Gathers.keeps_found {s s' : State} (h : Gathers ctx s s') :
    s.stack.found <+: s'.stack.found :=
  h.preserves (P := fun t => s.stack.found <+: t.stack.found) List.prefix_rfl (fun _ _ h => h)
    fun t f h => h.trans (found_prefix_accept ctx t f)

theorem Looks.keeps_found {s s' : State} {cursor : Address} (h : Looks ctx s cursor s') :
    s.stack.found <+: s'.stack.found :=
  h.preserves (P := fun t => s.stack.found <+: t.stack.found) List.prefix_rfl (fun _ _ h => h)
    fun t f h => h.trans (found_prefix_accept ctx t f)

theorem PointerChain.found_prefix_iterate (c : PointerChain) (rounds : Nat) :
    c.state.stack.found <+:
      (iterate (round ctx) (fun c => (c.state, .stop c.state.spentStatus)) rounds c).1.stack.found :=
  iterate_induction (P := fun t : PointerChain => c.state.stack.found <+: t.state.stack.found)
    (Q := fun r : State × Onward => c.state.stack.found <+: r.1.stack.found)
    (fun _ _ h hround => h.trans (gathers_of_next hround).keeps_found)
    (fun _ _ h hround => h.trans (gathers_of_done hround).keeps_found)
    (fun _ h => h) rounds List.prefix_rfl

namespace StackScan

theorem leadsTo_next {s s' : StackScan} (h : round ctx s = .next s') : s.state.LeadsTo s'.state := by
  rcases recoveries_next h with ⟨hlooks, hsame⟩ | ⟨-, hmore⟩
  · exact ⟨Nat.le_of_eq hsame.symm, fun _ => hlooks.keeps_found⟩
  · exact ⟨by omega, fun hsame => by omega⟩

theorem leadsTo_done {s : StackScan} {r : State × Status} (h : round ctx s = .done r) :
    s.state.LeadsTo r.1 :=
  ⟨(recoveries_done h).1, fun _ => (looks_of_done h).keeps_found⟩

theorem leadsTo_iterate (s : StackScan) (rounds : Nat) :
    s.state.LeadsTo
      (iterate (round ctx) (fun s => (s.state, s.state.spentStatus)) rounds s).1 :=
  iterate_induction (P := fun t : StackScan => s.state.LeadsTo t.state)
    (Q := fun r : State × Status => s.state.LeadsTo r.1)
    (fun _ _ h hround => h.trans (leadsTo_next hround))
    (fun _ _ h hround => h.trans (leadsTo_done hround))
    (fun _ h => h) rounds s.state.leadsTo_refl

end StackScan

theorem leadsTo_outcome (ctx : Context) : (beforeScan ctx).1.LeadsTo (outcome ctx).1 := by
  cases honward : (beforeScan ctx).2 with
  | stop status =>
      rw [outcome_stop honward]
      exact State.leadsTo_refl _
  | scan cursor =>
      rw [outcome_scan honward]
      exact StackScan.leadsTo_iterate ⟨(beforeScan ctx).1, cursor, 0⟩ _

/-- A recovery takes an iteration, so the counter of recoveries never runs over. -/
theorem recoveries_outcome_le (ctx : Context) :
    (outcome ctx).1.tally.recoveries ≤ ctx.limits.maxIterations.toNat := by
  have hbefore := recoveries_beforeScan ctx
  -- there is none before the scan, and at most one in each round of it
  refine outcome_of_scan
    (P := fun s => s.state.tally.recoveries ≤ s.state.tally.iterations ∧
      s.state.tally.recoveries ≤ ctx.limits.maxIterations.toNat)
    (Q := fun s => s.tally.recoveries ≤ ctx.limits.maxIterations.toNat) ?_ ?_ ?_ ?_ ?_
  · intro status _
    omega
  · intro cursor _
    dsimp only
    omega
  · rintro s s' ⟨hle, hmax⟩ hround
    obtain ⟨hlt, hiterations⟩ := StackScan.iterations_next hround
    rcases StackScan.recoveries_next hround with ⟨-, hsame⟩ | ⟨-, hmore⟩ <;> omega
  · rintro s r ⟨hle, hmax⟩ hround
    cases hlimit : s.limit? ctx with
    | some status =>
        rw [StackScan.round_of_limit hlimit] at hround
        cases hround
        exact hmax
    | none =>
        have hlt := StackScan.iterations_lt_of_limit? hlimit
        have hmore := (StackScan.recoveries_done hround).2
        omega
  · rintro s ⟨-, hmax⟩
    exact hmax

end Growth

/-! ## Where the walks part -/

section Limited

variable {ctx : Context} {max : UInt64}

theorem State.frameLimit?_of_le {s : State} (h : max.toNat ≤ s.stack.size) :
    s.frameLimit? (ctx.withMaxFrames (some max)) = some (.incomplete (.frameLimit max)) :=
  if_pos (decide_eq_true h)

theorem State.frameLimit?_of_lt {s : State} (h : s.stack.size < max.toNat) :
    s.frameLimit? (ctx.withMaxFrames (some max)) = none :=
  if_neg (ne_true_of_eq_false (decide_eq_false (Nat.not_le.mpr h)))

/-- A round of the chain is the same with and without the limit, or meets the limit. -/
theorem PointerChain.round_withMaxFrames (ctx : Context) (max : UInt64) (c : PointerChain) :
    PointerChain.round (ctx.withMaxFrames (some max)) c =
        PointerChain.round (ctx.withMaxFrames none) c ∨
      max.toNat ≤ c.state.stack.size ∧
        PointerChain.round (ctx.withMaxFrames (some max)) c =
          .done (c.state, .stop (.incomplete (.frameLimit max))) := by
  by_cases hfull : c.link.isNull = false ∧ max.toNat ≤ c.state.stack.size
  · obtain ⟨hnull, hfull⟩ := hfull
    have hlimit : limit? (ctx.withMaxFrames (some max)) c.state =
        some (.incomplete (.frameLimit max)) := by
      unfold limit?
      rw [State.frameLimit?_of_le hfull]
      rfl
    refine Or.inr ⟨hfull, ?_⟩
    unfold PointerChain.round
    rw [hnull, hlimit]
    rfl
  · refine Or.inl (PointerChain.round_alike (ctx.alike_withMaxFrames none (some max)) ?_)
    intro hnull
    have hlt : c.state.stack.size < max.toNat := Nat.lt_of_not_le fun hle => hfull ⟨hnull, hle⟩
    unfold limit?
    rw [State.frameLimit?_of_lt hlt]
    rfl

/-- A round of the scan is the same with and without the limit, or meets the limit. -/
theorem StackScan.round_withMaxFrames (ctx : Context) (max : UInt64) (s : StackScan) :
    StackScan.round (ctx.withMaxFrames (some max)) s = StackScan.round (ctx.withMaxFrames none) s ∨
      max.toNat ≤ s.state.stack.size ∧
        StackScan.round (ctx.withMaxFrames (some max)) s =
          .done (s.state, .incomplete (.frameLimit max)) := by
  have halike := ctx.alike_withMaxFrames none (some max)
  -- both ask for the base of the stack first, and judge candidates with the same frame pointer
  have hsame (hlimit : s.limit? (ctx.withMaxFrames (some max)) = s.limit? (ctx.withMaxFrames none)) :
      StackScan.round (ctx.withMaxFrames (some max)) s =
        StackScan.round (ctx.withMaxFrames none) s :=
    StackScan.round_alike halike hlimit fun _ _ _ _ =>
      halike.consider fun call _ _ _ => halike.verdict _ rfl _ call
  by_cases hbase : ctx.limits.pastStackBase s.cursor = true
  · refine Or.inl (hsame ?_)
    simp [limit?, hbase]
  · rcases Nat.lt_or_ge s.state.stack.size max.toNat with hlt | hfull
    · refine Or.inl (hsame ?_)
      simp only [limit?, Context.pastStackBase_withMaxFrames, hbase, State.frameLimit?_of_lt hlt]
      rfl
    · refine Or.inr ⟨hfull, StackScan.round_of_limit ?_⟩
      simp [limit?, hbase, State.frameLimit?_of_le hfull]

/-- The first walk has stopped at its limit, and the second one goes on from there. -/
structure CutShort (max : UInt64) (r r' : State × Status) : Prop where
  status : r.2 = .incomplete (.frameLimit max)
  full : max.toNat ≤ r.1.stack.size
  leadsTo : r.1.LeadsTo r'.1

theorem StackScan.run_withMaxFrames (ctx : Context) (max : UInt64) (s : State) (cursor : Address) :
    StackScan.run (ctx.withMaxFrames (some max)) s cursor =
        StackScan.run (ctx.withMaxFrames none) s cursor ∨
      CutShort max (StackScan.run (ctx.withMaxFrames (some max)) s cursor)
        (StackScan.run (ctx.withMaxFrames none) s cursor) := by
  refine iterate_eq_or (fun s => ?_) _ _
  rcases StackScan.round_withMaxFrames ctx max s with hsame | ⟨hfull, hdone⟩
  · exact Or.inl hsame
  · exact Or.inr ⟨_, hdone, fun rounds => ⟨rfl, hfull, StackScan.leadsTo_iterate s rounds⟩⟩

theorem PointerChain.run_withMaxFrames (ctx : Context) (max : UInt64) (fp : Address) (s : State) :
    PointerChain.run (ctx.withMaxFrames (some max)) fp s =
        PointerChain.run (ctx.withMaxFrames none) fp s ∨
      ((PointerChain.run (ctx.withMaxFrames (some max)) fp s).2 =
          .stop (.incomplete (.frameLimit max)) ∧
        max.toNat ≤ (PointerChain.run (ctx.withMaxFrames (some max)) fp s).1.stack.size ∧
        (PointerChain.run (ctx.withMaxFrames (some max)) fp s).1.stack.found <+:
          (PointerChain.run (ctx.withMaxFrames none) fp s).1.stack.found) := by
  refine iterate_eq_or (R := fun r r' : State × Onward =>
    r.2 = .stop (.incomplete (.frameLimit max)) ∧ max.toNat ≤ r.1.stack.size ∧
      r.1.stack.found <+: r'.1.stack.found) (fun c => ?_) _ _
  rcases PointerChain.round_withMaxFrames ctx max c with hsame | ⟨hfull, hdone⟩
  · exact Or.inl hsame
  · exact Or.inr ⟨_, hdone, fun rounds => ⟨rfl, hfull, PointerChain.found_prefix_iterate c rounds⟩⟩

/-- The walks come to the scan in the same way, or the limit has been met along the chain. -/
theorem beforeScan_withMaxFrames (ctx : Context) (max : UInt64) :
    beforeScan (ctx.withMaxFrames (some max)) = beforeScan (ctx.withMaxFrames none) ∨
      ((beforeScan (ctx.withMaxFrames (some max))).2 = .stop (.incomplete (.frameLimit max)) ∧
        max.toNat ≤ (beforeScan (ctx.withMaxFrames (some max))).1.stack.size ∧
        (beforeScan (ctx.withMaxFrames (some max))).1.stack.found <+:
          (beforeScan (ctx.withMaxFrames none)).1.stack.found) := by
  have halike := ctx.alike_withMaxFrames none (some max)
  unfold beforeScan
  rw [halike.start]
  cases hfp : ctx.livePointer? with
  | none =>
      have hnone (max : Option UInt64) : (ctx.withMaxFrames max).livePointer? = none := hfp
      rw [addChain_none (hnone none), addChain_none (hnone (some max))]
      exact Or.inl rfl
  | some fp =>
      have hsome (max : Option UInt64) : (ctx.withMaxFrames max).livePointer? = some fp := hfp
      rw [addChain_some (hsome none), addChain_some (hsome (some max)), LeafProbe.run_alike halike]
      rcases PointerChain.run_withMaxFrames ctx max fp
        (LeafProbe.run (ctx.withMaxFrames none) fp (State.start (ctx.withMaxFrames none)))
        with hsame | hcut
      · rw [hsame]
        exact Or.inl rfl
      · exact Or.inr hcut

/-- Both walks end alike, or the limited one is cut short. -/
theorem outcome_withMaxFrames (ctx : Context) (max : UInt64) :
    outcome (ctx.withMaxFrames (some max)) = outcome (ctx.withMaxFrames none) ∨
      CutShort max (outcome (ctx.withMaxFrames (some max))) (outcome (ctx.withMaxFrames none)) := by
  rcases beforeScan_withMaxFrames ctx max with hsame | ⟨hstop, hfull, hfound⟩
  · cases honward : (beforeScan (ctx.withMaxFrames none)).2 with
    | stop status =>
        have honward' := hsame ▸ honward
        rw [outcome_stop honward, outcome_stop honward', hsame]
        exact Or.inl rfl
    | scan cursor =>
        have honward' := hsame ▸ honward
        rw [outcome_scan honward, outcome_scan honward', hsame]
        exact StackScan.run_withMaxFrames ctx max _ cursor
  · -- the other walk goes on along the chain, and then it may scan
    rw [outcome_stop hstop]
    refine Or.inr ⟨rfl, hfull, State.LeadsTo.trans ⟨?_, fun _ => hfound⟩ (leadsTo_outcome _)⟩
    rw [recoveries_beforeScan, recoveries_beforeScan]

/-! ## The trace of the limited walk -/

theorem run_withMaxFrames_of_kernel (hkernel : ctx.arch.isKernelAddress ctx.registers.pc = true)
    (max : Option UInt64) : run (ctx.withMaxFrames max) = refused ctx.registers.pc := by
  apply run_of_kernel
  exact hkernel

theorem run_withMaxFrames_none (huser : ¬ ctx.arch.isKernelAddress ctx.registers.pc = true) :
    run (ctx.withMaxFrames none) =
      ⟨(outcome (ctx.withMaxFrames none)).1.stack.frames.toList,
        (outcome (ctx.withMaxFrames none)).2,
        (outcome (ctx.withMaxFrames none)).1.tally.toStats⟩ := by
  apply run_of_outcome
  exact huser

theorem run_withMaxFrames_some (huser : ¬ ctx.arch.isKernelAddress ctx.registers.pc = true)
    (max : UInt64) :
    run (ctx.withMaxFrames (some max)) =
      ⟨(outcome (ctx.withMaxFrames (some max))).1.stack.frames.toList.take max.toNat,
        (outcome (ctx.withMaxFrames (some max))).2,
        (outcome (ctx.withMaxFrames (some max))).1.tally.toStats⟩ := by
  apply run_of_outcome
  exact huser

/-- No recovery is reported only where there was none. -/
theorem recoveries_eq_zero (h : (outcome ctx).1.tally.toStats.recoveries = 0) :
    (outcome ctx).1.tally.recoveries = 0 := by
  have hle := recoveries_outcome_le ctx
  have hmax := ctx.limits.maxIterations.toNat_lt
  have hzero : (UInt32.ofNat (outcome ctx).1.tally.recoveries).toNat = 0 := by
    show (outcome ctx).1.tally.toStats.recoveries.toNat = 0
    rw [h]
    rfl
  rw [UInt32.toNat_ofNat'] at hzero
  omega

/-- Whoever is cut short holds the first frames of the one who is not, unless that one recovers. -/
theorem CutShort.found_take {r r' : State × Status} (h : CutShort max r r')
    (hnone : r'.1.tally.recoveries = 0) :
    r.1.stack.found.take max.toNat = r'.1.stack.found.take max.toNat := by
  have hle := h.leadsTo.recoveries
  have hfull := h.full
  have hprefix := h.leadsTo.found (by omega)
  rw [List.prefix_iff_eq_take.mp hprefix, List.take_take, FrameStack.length_found,
    Nat.min_eq_left hfull]

end Limited

/-- **Without a recovery the limited walk reports the first frames of the other one**, as they were
found. -/
theorem frames_withMaxFrames (ctx : Context) (max : UInt64)
    (h : (run (ctx.withMaxFrames none)).stats.recoveries = 0) :
    asFound (run (ctx.withMaxFrames (some max))).frames =
      asFound ((run (ctx.withMaxFrames none)).frames.take max.toNat) := by
  by_cases hkernel : ctx.arch.isKernelAddress ctx.registers.pc = true
  · rw [run_withMaxFrames_of_kernel hkernel, run_withMaxFrames_of_kernel hkernel]
    exact congrArg asFound List.take_nil.symm
  · rw [run_withMaxFrames_none hkernel] at h ⊢
    rw [run_withMaxFrames_some hkernel]
    dsimp only at h ⊢
    rcases outcome_withMaxFrames ctx max with hsame | hcut
    · rw [hsame]
    · rw [asFound_take, asFound_take]
      exact hcut.found_take (recoveries_eq_zero h)

/-- A thread in `work`, to which `wrapper` jumps; a call of `wrapper` is in the last slot of the stack. -/
def tailCallAtBase : Context where
  arch := .x86_64
  target := Tables.target
    { images := [(⟨"app"⟩, .main, 0x400000, 0x410000)]
      routines := [("work", 0x401000, 0x100), ("wrapper", 0x401200, 0x10), ("caller", 0x401300, 0x100)]
      code := [(0x401010, ⟨1, "nop"⟩), (0x401200, ⟨5, "jmp 0x401000"⟩),
        (0x401310, ⟨5, "call 0x401200"⟩)]
      words := [(0x7FFE0000, 0x401315)] }
  registers := Registers.ofPcSp ⟨0x401010⟩ ⟨0x7FFE0000⟩
  limits := { Limits.standard with stackBase := some ⟨0x7FFE0000⟩ }

/-- With room for one frame the walk stops before it looks at the slot, so frame 0 has taken nothing
over. -/
theorem tailCallAtBase_frames :
    (run (tailCallAtBase.withMaxFrames none)).stats.recoveries = 0 ∧
      asFound (run (tailCallAtBase.withMaxFrames (some 1))).frames =
        asFound ((run (tailCallAtBase.withMaxFrames none)).frames.take 1) := by
  have hnone : (run (tailCallAtBase.withMaxFrames none)).stats.recoveries = 0 := by
    decide +kernel
  exact ⟨hnone, frames_withMaxFrames tailCallAtBase 1 hnone⟩

/-! ## Frames that the limit takes away -/

/-- The frame limit has taken frames away from what the walk has found. -/
structure DropsFrames (ctx : Context) : Prop where
  user : ¬ ctx.arch.isKernelAddress ctx.registers.pc = true
  fewer : (run ctx).frames.length < (outcome ctx).1.stack.size

/-- The trace is complete, but for the frames that the limit has taken away. -/
structure HidesFrames (ctx : Context) : Prop where
  drops : DropsFrames ctx
  complete : (run ctx).status = .complete

section Dropped

variable {ctx : Context} {max : UInt64}

theorem dropsFrames_iff (huser : ¬ ctx.arch.isKernelAddress ctx.registers.pc = true) :
    DropsFrames (ctx.withMaxFrames (some max)) ↔
      max.toNat < (outcome (ctx.withMaxFrames (some max))).1.stack.size := by
  have hlength : (run (ctx.withMaxFrames (some max))).frames.length =
      min max.toNat (outcome (ctx.withMaxFrames (some max))).1.stack.size := by
    rw [run_withMaxFrames_some huser max, List.length_take, Array.length_toList]
    rfl
  constructor
  · intro h
    have hfewer := h.fewer
    omega
  · intro h
    exact ⟨huser, by omega⟩

/-- The frames keep to the limit, unless the status says that it has been met, or that the walk is
complete. -/
def Fits (max : UInt64) (s : State) (status : Status) : Prop :=
  s.stack.size ≤ max.toNat ∨ status = .incomplete (.frameLimit max) ∨ status = .complete

theorem State.fits_of_limit {s : State} {status : Status} {other : Option Status}
    (h : (s.frameLimit? (ctx.withMaxFrames (some max))).or other = some status) :
    Fits max s status := by
  rcases Nat.lt_or_ge s.stack.size max.toNat with hlt | hfull
  · exact Or.inl (Nat.le_of_lt hlt)
  · rw [State.frameLimit?_of_le hfull] at h
    cases h
    exact Or.inr (Or.inl rfl)

theorem State.size_lt_of_limit {s : State} {other : Option Status}
    (h : (s.frameLimit? (ctx.withMaxFrames (some max))).or other = none) :
    s.stack.size < max.toNat := by
  by_contra hge
  rw [State.frameLimit?_of_le (Nat.le_of_not_lt hge)] at h
  cases h

theorem PointerChain.fits_run (fp : Address) (s : State) {status : Status}
    (hstop : (PointerChain.run (ctx.withMaxFrames (some max)) fp s).2 = .stop status) :
    Fits max (PointerChain.run (ctx.withMaxFrames (some max)) fp s).1 status := by
  revert hstop
  apply PointerChain.run_of_done (Q := fun r : State × Onward => r.2 = .stop status → Fits max r.1 status)
  intro c r hround hstop
  rcases stop_cases hround hstop with rfl | ⟨hstate, hlimit⟩
  · exact Or.inr (Or.inr rfl)
  · rw [hstate]
    exact State.fits_of_limit hlimit

theorem StackScan.fits_done {s : StackScan} {r : State × Status}
    (h : round (ctx.withMaxFrames (some max)) s = .done r) : Fits max r.1 r.2 := by
  rcases round_cases (ctx.withMaxFrames (some max)) s with ⟨status, hlimit, hround⟩ |
    ⟨state, resume, -, -, -, hround⟩ | ⟨hlimit, -, hround⟩ | ⟨-, -, hround⟩
  · rw [hround] at h
    cases h
    unfold limit? at hlimit
    split at hlimit
    · cases hlimit
      exact Or.inr (Or.inr rfl)
    · exact State.fits_of_limit hlimit
  · rw [hround] at h
    cases h
  · -- the recovery fails below the limit, and takes nothing away
    rw [hround] at h
    cases h
    unfold limit? at hlimit
    split at hlimit
    · cases hlimit
    · exact Or.inl (Nat.le_of_lt (State.size_lt_of_limit hlimit))
  · rcases look_cases (ctx.withMaxFrames (some max)) { s with state := s.state.countIteration } with
      ⟨state, next, unreadable, -, -, hlook⟩ | ⟨state, -, hlook⟩
    · rw [hround, hlook] at h
      cases h
    · rw [hround, hlook] at h
      cases h
      exact Or.inr (Or.inr rfl)

theorem fits_outcome (ctx : Context) (max : UInt64) :
    Fits max (outcome (ctx.withMaxFrames (some max))).1
      (outcome (ctx.withMaxFrames (some max))).2 := by
  cases honward : (beforeScan (ctx.withMaxFrames (some max))).2 with
  | scan cursor =>
      rw [outcome_scan honward]
      apply StackScan.run_of_done (Q := fun r : State × Status => Fits max r.1 r.2)
      intro s r hround
      exact StackScan.fits_done hround
  | stop status =>
      rw [outcome_stop honward]
      cases hfp : (ctx.withMaxFrames (some max)).livePointer? with
      | none =>
          unfold beforeScan at honward
          rw [addChain_none hfp] at honward
          cases honward
      | some fp =>
          unfold beforeScan at honward ⊢
          rw [addChain_some hfp] at honward ⊢
          exact PointerChain.fits_run fp _ honward

theorem status_withMaxFrames (huser : ¬ ctx.arch.isKernelAddress ctx.registers.pc = true)
    (max : UInt64) :
    (run (ctx.withMaxFrames (some max))).status = (outcome (ctx.withMaxFrames (some max))).2 := by
  rw [run_withMaxFrames_some huser max]

/-- A complete walk has never met its limit. -/
theorem outcome_eq_of_complete (h : (outcome (ctx.withMaxFrames (some max))).2 = .complete) :
    outcome (ctx.withMaxFrames (some max)) = outcome (ctx.withMaxFrames none) := by
  rcases outcome_withMaxFrames ctx max with hsame | hcut
  · exact hsame
  · rw [hcut.status] at h
    cases h

end Dropped

/-- **A complete trace is that of the walk without a limit, exactly unless the limit has taken away frames
that the last round has found.**  Whoever drops frames says so, unless it is complete. -/
theorem complete_withMaxFrames_iff (ctx : Context) (max : UInt64) :
    (((run (ctx.withMaxFrames (some max))).status = .complete →
        run (ctx.withMaxFrames none) = run (ctx.withMaxFrames (some max))) ↔
      ¬ HidesFrames (ctx.withMaxFrames (some max))) ∧
    (DropsFrames (ctx.withMaxFrames (some max)) →
      ((run (ctx.withMaxFrames (some max))).status = .incomplete (.frameLimit max) ↔
        ¬ HidesFrames (ctx.withMaxFrames (some max)))) := by
  by_cases hkernel : ctx.arch.isKernelAddress ctx.registers.pc = true
  · have hnot : ¬ DropsFrames (ctx.withMaxFrames (some max)) := fun h => h.user hkernel
    rw [run_withMaxFrames_of_kernel hkernel, run_withMaxFrames_of_kernel hkernel]
    exact ⟨⟨fun _ h => hnot h.drops, fun _ _ => rfl⟩, fun h => absurd h hnot⟩
  · have hstatus := status_withMaxFrames hkernel max
    refine ⟨⟨?_, ?_⟩, fun hdrops => ⟨?_, ?_⟩⟩
    · -- the walk without a limit reports all that both have found
      rintro hwhole ⟨hdrops, hcomplete⟩
      have hfewer := hdrops.fewer
      rw [← hwhole hcomplete, run_withMaxFrames_none hkernel,
        outcome_eq_of_complete (hstatus.symm.trans hcomplete), Array.length_toList] at hfewer
      exact Nat.lt_irrefl _ hfewer
    · intro hnot hcomplete
      have hsame := outcome_eq_of_complete (hstatus.symm.trans hcomplete)
      have hfits : (outcome (ctx.withMaxFrames (some max))).1.stack.size ≤ max.toNat :=
        Nat.le_of_not_lt fun hlt => hnot ⟨(dropsFrames_iff hkernel).mpr hlt, hcomplete⟩
      rw [hsame] at hfits
      rw [run_withMaxFrames_none hkernel, run_withMaxFrames_some hkernel, hsame,
        List.take_of_length_le hfits]
    · rintro hlimit ⟨-, hcomplete⟩
      rw [hlimit] at hcomplete
      cases hcomplete
    · -- no other limit is asked for while there are too many frames
      intro hnot
      rcases fits_outcome ctx max with hle | hlimit | hcomplete
      · exact absurd ((dropsFrames_iff hkernel).mp hdrops) (Nat.not_lt.mpr hle)
      · exact hstatus.trans hlimit
      · exact absurd ⟨hdrops, hstatus.trans hcomplete⟩ hnot

/-- With room for two frames, the jump is the second and the call is dropped from a complete trace. -/
theorem tailCallAtBase_hides :
    ¬ ((run (tailCallAtBase.withMaxFrames (some 2))).status = .complete →
      run (tailCallAtBase.withMaxFrames none) = run (tailCallAtBase.withMaxFrames (some 2))) := by
  decide +kernel

end StackWalk.Walk

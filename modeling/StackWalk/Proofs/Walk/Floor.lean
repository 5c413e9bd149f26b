import StackWalk.Proofs.Walk.Phase

/-!
# StackWalk.Proofs.Walk.Floor — what no recovery takes away

A rollback keeps the best prefix, or all but the newest frame if that is less; a restart keeps the
frames that the registers show.  Neither is told the floor that it must not go below.  That a rollback
stays above it nevertheless follows from how the best prefix moves: it is all but the newest frame when
there are more frames than ever before, and it only comes down when a rollback has cut the frames to it.

`holds_floor` carries this over a whole walk.  Its consequence is that the frames from the registers
stay where they are from the start to the end.
-/

namespace StackWalk.Walk

/-! ## The best prefix -/

namespace FrameStack

@[simp] theorem most_append (limits : Limits) (s : FrameStack) (f : Frame) :
    (s.append limits f).most = max s.most (s.size + 1) := rfl

@[simp] theorem bestPrefix_append (limits : Limits) (s : FrameStack) (f : Frame) :
    (s.append limits f).bestPrefix = if s.most < s.size + 1 then s.size else s.bestPrefix := rfl

@[simp] theorem most_backfill (s : FrameStack) (caller : Frame) :
    (s.backfill caller).most = s.most := by
  unfold backfill
  split <;> rfl

@[simp] theorem bestPrefix_backfill (s : FrameStack) (caller : Frame) :
    (s.backfill caller).bestPrefix = s.bestPrefix := by
  unfold backfill
  split <;> rfl

@[simp] theorem most_truncate (s : FrameStack) (count : Nat) : (s.truncate count).most = s.most := by
  unfold truncate
  dsimp only
  split <;> rfl

@[simp] theorem bestPrefix_truncate (s : FrameStack) (count : Nat) :
    (s.truncate count).bestPrefix = s.bestPrefix := by
  unfold truncate
  dsimp only
  split <;> rfl

@[simp] theorem most_rollback (s : FrameStack) : s.rollback.most = s.most :=
  most_truncate s s.keptByRollback

@[simp] theorem bestPrefix_rollback (s : FrameStack) :
    s.rollback.bestPrefix = min s.bestPrefix s.keptByRollback := rfl

/-- Frames have only been added: there have never been more, and all but the newest are the best
prefix. -/
structure IsFull (s : FrameStack) : Prop where
  most : s.most = s.size
  best : s.bestPrefix + 1 = s.size

/-- The frames are not below a floor, and neither is the best prefix, unless it is still all but one of
the most frames ever. -/
structure IsAbove (floor : Nat) (s : FrameStack) : Prop where
  size : floor ≤ s.size
  most : s.size ≤ s.most
  best : s.most ≤ s.bestPrefix + 1 ∨ floor ≤ s.bestPrefix

section Floor

variable {floor : Nat} {s : FrameStack}

theorem IsFull.isAbove (h : s.IsFull) : s.IsAbove s.size where
  size := Nat.le_refl _
  most := Nat.le_of_eq h.most.symm
  best := Or.inl (Nat.le_of_eq (h.most.trans h.best.symm))

theorem IsFull.push (h : s.IsFull) (limits : Limits) (f : Frame) :
    ((s.append limits f).backfill f).IsFull where
  most := by
    have hmost := h.most
    rw [most_backfill, most_append, size_backfill, size_append]
    omega
  best := by
    have hmost := h.most
    rw [bestPrefix_backfill, bestPrefix_append, size_backfill, size_append, if_pos (by omega)]

theorem IsAbove.push (h : s.IsAbove floor) (limits : Limits) (f : Frame) :
    ((s.append limits f).backfill f).IsAbove floor where
  size := by
    have hsize := h.size
    rw [size_backfill, size_append]
    omega
  most := by
    rw [most_backfill, most_append, size_backfill, size_append]
    omega
  best := by
    have hsize := h.size
    have hbest := h.best
    rw [most_backfill, most_append, bestPrefix_backfill, bestPrefix_append]
    split <;> omega

/-- A rollback above the floor keeps at least the frames below it. -/
theorem IsAbove.le_keptByRollback (h : s.IsAbove floor) (hmore : floor < s.size) :
    floor ≤ s.keptByRollback := by
  have hmost := h.most
  have hbest := h.best
  unfold keptByRollback
  omega

theorem IsAbove.rollback (h : s.IsAbove floor) (hmore : floor < s.size) :
    s.rollback.IsAbove floor where
  size := by
    have hkept := h.le_keptByRollback hmore
    rw [size_rollback]
    omega
  most := by
    have hmost := h.most
    rw [size_rollback, most_rollback]
    omega
  best := by
    have hkept := h.le_keptByRollback hmore
    have hmost := h.most
    have hbest := h.best
    -- the best prefix comes down only to what is kept, and that is not below the floor
    have hcut : s.keptByRollback = max 1 (min s.bestPrefix (s.size - 1)) := rfl
    rw [most_rollback, bestPrefix_rollback]
    omega

theorem IsAbove.truncate (h : s.IsAbove floor) {count : Nat} (hcount : count ≤ floor) :
    (s.truncate count).IsAbove count where
  size := by
    have hsize := h.size
    rw [size_truncate]
    omega
  most := by
    have hmost := h.most
    rw [size_truncate, most_truncate]
    omega
  best := by
    have hbest := h.best
    rw [most_truncate, bestPrefix_truncate]
    omega

end Floor

end FrameStack

/-! ## The frames from the registers -/

/-- The first frames are those that the registers show, and no fewer are kept by a restart. -/
structure State.KeepsRegisters (ctx : Context) (s : State) : Prop where
  pos : 0 < s.restartFloor
  size : s.restartFloor ≤ s.stack.size
  callers : s.stack.callers.take (s.restartFloor - 1) = (State.start ctx).stack.callers

/-- Before the scan frames are only added. -/
structure State.Grows (ctx : Context) (s : State) : Prop where
  registers : s.KeepsRegisters ctx
  full : s.stack.IsFull

/-- From there on the frames never come below the floor of the rollbacks, which is not below that of
the restart. -/
structure State.HasFloor (ctx : Context) (s : State) : Prop where
  registers : s.KeepsRegisters ctx
  floor : s.restartFloor ≤ s.rollbackFloor
  above : s.stack.IsAbove s.rollbackFloor

section Steps

variable {ctx : Context} {s s' : State}

/-- A frame that is offered is coalesced, or it is the newest one. -/
theorem stack_accept_cases (ctx : Context) (s : State) (f : Frame) :
    (s.accept ctx f).stack = s.stack ∨
      (s.accept ctx f).stack = (s.stack.append ctx.limits f).backfill f := by
  rw [State.stack_accept]
  split
  · exact Or.inr rfl
  · exact Or.inl rfl

theorem callers_accept (ctx : Context) (hpos : 0 < s.stack.size) (f : Frame) :
    (s.accept ctx f).stack.callers =
      s.stack.callers ++ if s.admits ctx f then [f] else [] := by
  rw [State.stack_accept]
  split
  · rw [FrameStack.callers_backfill, FrameStack.callers_append _ hpos]
  · rw [List.append_nil]

theorem found_accept (ctx : Context) (hpos : 0 < s.stack.size) (f : Frame) :
    (s.accept ctx f).stack.found = s.stack.found ++ if s.admits ctx f then [f] else [] := by
  rw [State.stack_accept]
  split
  · rw [FrameStack.found_backfill, FrameStack.found_append _ hpos]
  · rw [List.append_nil]

/-- A frame that the stack takes makes a gap if it is too far from the newest one. -/
theorem gapSeen_accept (ctx : Context) (s : State) (f : Frame) :
    (s.accept ctx f).stack.gapSeen =
      (s.stack.gapSeen || (s.admits ctx f &&
        s.stack.last?.any fun below => FrameStack.isFarFrom ctx.limits below f)) := by
  rw [State.stack_accept]
  cases s.admits ctx f with
  | true =>
      rw [Bool.true_and]
      exact FrameStack.gapSeen_backfill _ f
  | false => exact (Bool.or_false _).symm

theorem accept_keeps_callers (hpos : 0 < s.stack.size) (f : Frame) :
    s.stack.callers <+: (s.accept ctx f).stack.callers := by
  rw [callers_accept ctx hpos]
  exact List.prefix_append _ _

theorem size_le_accept (ctx : Context) (s : State) (f : Frame) :
    s.stack.size ≤ (s.accept ctx f).stack.size := by
  rcases stack_accept_cases ctx s f with hstack | hstack
  · exact Nat.le_of_eq (congrArg FrameStack.size hstack).symm
  · rw [hstack, FrameStack.size_backfill, FrameStack.size_append]
    omega

theorem pos_accept (ctx : Context) (hpos : 0 < s.stack.size) (f : Frame) : 0 < (s.accept ctx f).stack.size :=
  Nat.lt_of_lt_of_le hpos (size_le_accept ctx s f)

/-- Before the scan no frame is taken away. -/
theorem Gathers.keeps_callers (h : Gathers ctx s s') (hpos : 0 < s.stack.size) :
    s.stack.callers <+: s'.stack.callers := by
  refine (h.preserves (P := fun t => s.stack.callers <+: t.stack.callers ∧ 0 < t.stack.size)
    ⟨List.prefix_rfl, hpos⟩ (fun _ _ h => h) ?_).1
  rintro t f ⟨hkeeps, hpos⟩
  exact ⟨hkeeps.trans (accept_keeps_callers hpos f), pos_accept ctx hpos f⟩

/-- A look at a slot takes no frame away. -/
theorem Looks.keeps_callers {cursor : Address} (h : Looks ctx s cursor s')
    (hpos : 0 < s.stack.size) : s.stack.callers <+: s'.stack.callers := by
  refine (h.preserves (P := fun t => s.stack.callers <+: t.stack.callers ∧ 0 < t.stack.size)
    ⟨List.prefix_rfl, hpos⟩ (fun _ _ h => h) ?_).1
  rintro t f ⟨hkeeps, hpos⟩
  exact ⟨hkeeps.trans (accept_keeps_callers hpos f), pos_accept ctx hpos f⟩

namespace State

theorem KeepsRegisters.accept (h : s.KeepsRegisters ctx) (f : Frame) :
    (s.accept ctx f).KeepsRegisters ctx := by
  have hpos := h.pos
  have hsize := h.size
  rcases stack_accept_cases ctx s f with hstack | hstack
  · exact ⟨by simpa using hpos, by simpa [hstack] using hsize, by simpa [hstack] using h.callers⟩
  · refine ⟨by simpa using hpos, ?_, ?_⟩
    · rw [restartFloor_accept, hstack, FrameStack.size_backfill, FrameStack.size_append]
      omega
    · rw [restartFloor_accept, hstack, FrameStack.callers_backfill,
        FrameStack.callers_append _ (by omega), List.take_append_of_le_length]
      · exact h.callers
      · rw [FrameStack.length_callers]
        omega

theorem Grows.setTally (h : s.Grows ctx) (t : Tally) : (s.setTally t).Grows ctx :=
  ⟨⟨h.registers.pos, h.registers.size, h.registers.callers⟩, h.full⟩

theorem Grows.accept (h : s.Grows ctx) (f : Frame) : (s.accept ctx f).Grows ctx := by
  refine ⟨h.registers.accept f, ?_⟩
  rcases stack_accept_cases ctx s f with hstack | hstack
  · rw [hstack]
    exact h.full
  · rw [hstack]
    exact h.full.push ctx.limits f

theorem Grows.gathers (h : s.Grows ctx) (hround : Gathers ctx s s') : s'.Grows ctx :=
  hround.preserves h (fun _ t h => h.setTally t) (fun _ f h => h.accept f)

theorem Grows.hasFloor (h : s.Grows ctx) : s.floored.HasFloor ctx :=
  ⟨⟨h.registers.pos, h.registers.size, h.registers.callers⟩, h.registers.size, h.full.isAbove⟩

theorem HasFloor.setTally (h : s.HasFloor ctx) (t : Tally) : (s.setTally t).HasFloor ctx :=
  ⟨⟨h.registers.pos, h.registers.size, h.registers.callers⟩, h.floor, h.above⟩

theorem HasFloor.accept (h : s.HasFloor ctx) (f : Frame) : (s.accept ctx f).HasFloor ctx := by
  refine ⟨h.registers.accept f, ?_, ?_⟩
  · rw [restartFloor_accept, rollbackFloor_accept]
    exact h.floor
  · rw [rollbackFloor_accept]
    rcases stack_accept_cases ctx s f with hstack | hstack
    · rw [hstack]
      exact h.above
    · rw [hstack]
      exact h.above.push ctx.limits f

theorem HasFloor.recovers (h : s.HasFloor ctx) {resume : Address}
    (hround : Recovers ctx s s' resume) : s'.HasFloor ctx := by
  have hpos := h.registers.pos
  have hfloor := h.floor
  have hsize := h.above.size
  cases hround with
  | restarted hfew hnot t =>
      refine ⟨⟨?_, ?_, ?_⟩, ?_, ?_⟩
      · rw [restartFloor_backToRegisters]
        exact hpos
      · rw [restartFloor_backToRegisters, stack_backToRegisters, FrameStack.size_truncate]
        simp only [restartFloor_setTally, stack_setTally]
        omega
      · rw [restartFloor_backToRegisters, stack_backToRegisters, FrameStack.callers_truncate,
          List.take_take, Nat.min_self]
        exact h.registers.callers
      · exact Nat.le_of_eq
          ((restartFloor_backToRegisters _ _).trans (rollbackFloor_backToRegisters _ _).symm)
      · rw [rollbackFloor_backToRegisters, stack_backToRegisters]
        exact h.above.truncate hfloor
  | rolledBack hmore hsite hfree t =>
      -- what a rollback keeps is not below its floor, so not below that of the restarts either
      have hkept := h.above.le_keptByRollback hmore
      refine ⟨⟨?_, ?_, ?_⟩, ?_, ?_⟩
      · rw [restartFloor_rollBack]
        exact hpos
      · rw [restartFloor_rollBack, stack_rollBack, FrameStack.size_rollback]
        simp only [restartFloor_setTally, stack_setTally]
        omega
      · rw [restartFloor_rollBack, stack_rollBack, FrameStack.callers_rollback, List.take_take,
          Nat.min_eq_left]
        · exact h.registers.callers
        · simp only [restartFloor_setTally, stack_setTally]
          omega
      · rw [restartFloor_rollBack, rollbackFloor_rollBack]
        exact hfloor
      · rw [rollbackFloor_rollBack, stack_rollBack]
        exact h.above.rollback hmore

theorem HasFloor.looks (h : s.HasFloor ctx) {cursor : Address} (hround : Looks ctx s cursor s') :
    s'.HasFloor ctx :=
  hround.preserves h (fun _ t h => h.setTally t) (fun _ f h => h.accept f)

theorem HasFloor.scans (h : s.HasFloor ctx) (hround : Scans ctx s s') : s'.HasFloor ctx := by
  cases hround with
  | looked cursor hlooks => exact h.looks hlooks
  | recovered resume hrecovers => exact h.recovers hrecovers

/-- The callers below the floor of the rollbacks are what they were, or the first of those. -/
theorem HasFloor.kept_scans (h : s.HasFloor ctx) (hround : Scans ctx s s') :
    (s'.stack.callers.take (s'.rollbackFloor - 1)).Sublist
      (s.stack.callers.take (s.rollbackFloor - 1)) := by
  have hpos := h.registers.pos
  have hfloor := h.floor
  have hsize := h.above.size
  cases hround with
  | looked cursor hlooks =>
      obtain ⟨rest, hrest⟩ := hlooks.keeps_callers (by omega)
      have hlen : s.rollbackFloor - 1 ≤ s.stack.callers.length := by
        rw [FrameStack.length_callers]
        omega
      have hsame : s'.stack.callers.take (s'.rollbackFloor - 1) =
          s.stack.callers.take (s.rollbackFloor - 1) := by
        rw [hlooks.steady.rollbackFloor, ← hrest, List.take_append_of_le_length hlen]
      exact hsame ▸ List.Sublist.refl _
  | recovered resume hrecovers =>
      cases hrecovers with
      | restarted hfew hnot t =>
          rw [rollbackFloor_backToRegisters, stack_backToRegisters, FrameStack.callers_truncate,
            List.take_take, Nat.min_self]
          exact List.take_sublist_take_left (Nat.sub_le_sub_right hfloor 1)
      | rolledBack hmore hsite hfree t =>
          rw [rollbackFloor_rollBack, stack_rollBack, FrameStack.callers_rollback, List.take_take]
          exact List.take_sublist_take_left (Nat.min_le_left _ _)

end State

end Steps

theorem State.Grows.start (ctx : Context) : (State.start ctx).Grows ctx := by
  have halone (t : Tally) : ((initial.addInnermost ctx).setTally t).stack.IsFull := ⟨rfl, rfl⟩
  have hfull : (State.start ctx).stack.IsFull := by
    rcases start_cases ctx with ⟨t, h⟩ | ⟨lr, call, t, -, -, h⟩
    · rw [h]
      exact halone t
    · rw [h]
      show (State.accept ctx _ _).stack.IsFull
      rcases stack_accept_cases ctx ((initial.addInnermost ctx).setTally t) (ctx.linkFrame call lr)
        with hstack | hstack
      · rw [hstack]
        exact halone t
      · rw [hstack]
        exact (halone t).push ctx.limits _
  have hbest := hfull.best
  have hfloor : (State.start ctx).restartFloor = (State.start ctx).stack.size := rfl
  refine ⟨⟨by omega, by omega, ?_⟩, hfull⟩
  rw [hfloor]
  exact List.take_of_length_le (Nat.le_of_eq (FrameStack.length_callers _))

theorem beforeScan_hasFloor (ctx : Context) : (beforeScan ctx).1.HasFloor ctx :=
  have h : ((State.start ctx).addChain ctx).1.Grows ctx :=
    addChain_induction (State.Grows.start ctx) fun _ _ h hround => h.gathers hround
  h.hasFloor

/-- Wherever a walk comes to, no frame below a floor has been taken away. -/
theorem holds_floor (ctx : Context) (n : Nat) :
    (phaseAt ctx n).Holds (State.Grows ctx) (State.HasFloor ctx) :=
  holds_phaseAt (State.Grows.start ctx) (fun _ _ h hround => h.gathers hround)
    (fun _ h => h.hasFloor) (fun _ _ h hround => h.scans hround) n

end StackWalk.Walk

import StackWalk.Proofs.Tables
import StackWalk.Proofs.Walk.Evidence
import StackWalk.Proofs.Walk.Floor

/-!
# StackWalk.Proofs.Walk.Backfill — what frame 0 says about its caller

Frame 0 takes over the return address of the first caller that has one, and what is known of the call.
It should say nothing else: when a recovery takes that caller away, frame 0 has to forget it.  It does so
when no other frame is left.  But a rollback can also leave the frame of a tail call, which has no return
address; then frame 0 keeps what it has taken over from a frame that is gone.

`backfilled_iff_never_strands` says that this is the only way to go wrong: frame 0 is right after every
round of a walk exactly until a rollback leaves callers, but none with a return address.
-/

namespace StackWalk.Walk

/-- What a frame says about a call: the return address and its slot, the entry and the name of the
callee. -/
def callFields (f : Frame) : Option Address × Option Address × Option Address × Option String :=
  (f.returnAddress, f.returnSlot, f.calleeStart, f.calleeName)

/-- Frame 0 says of its call what the first caller with a return address does, or nothing if no caller
has one. -/
def FrameStack.Backfilled (s : FrameStack) : Prop :=
  ∀ f, s.innermost? = some f →
    (callFields f = (none, none, none, none) ∧ ∀ g ∈ s.callers, g.returnAddress = none) ∨
      ∃ g, s.callers.find? (fun g => g.returnAddress.isSome) = some g ∧ callFields f = callFields g

/-- From one round to the next callers are left, but not those with a return address. -/
structure Strands (s s' : FrameStack) : Prop where
  more : 1 < s'.size
  without : ∀ g ∈ s'.callers, g.returnAddress = none
  lost : ∃ g ∈ s.callers, g.returnAddress ≠ none

theorem isSome_of_find? {frames : List Frame} {g : Frame}
    (h : frames.find? (fun g => g.returnAddress.isSome) = some g) : g.returnAddress.isSome = true :=
  List.find?_some (p := fun g : Frame => g.returnAddress.isSome) h

namespace FrameStack

variable {s s' : FrameStack}

theorem takeOver_of_nothing {caller f : Frame} (h : callFields f = (none, none, none, none)) :
    callFields (takeOver caller f) = callFields caller := by
  obtain ⟨hreturn, h⟩ := Prod.mk.inj h
  obtain ⟨-, h⟩ := Prod.mk.inj h
  obtain ⟨hstart, hname⟩ := Prod.mk.inj h
  unfold takeOver callFields
  rw [hreturn, hstart, hname]
  rfl

theorem takeOver_of_isSome {caller f : Frame} (h : f.returnAddress.isSome = true) :
    takeOver caller f = f :=
  if_pos h

/-- A new frame leaves frame 0 right, whether it has a return address or not. -/
theorem Backfilled.push (h : s.Backfilled) (hpos : 0 < s.size) (limits : Limits) (caller : Frame) :
    ((s.append limits caller).backfill caller).Backfilled := by
  intro f hf
  rw [innermost?_backfill, innermost?_append _ hpos] at hf
  rw [callers_backfill, callers_append _ hpos, List.find?_append]
  obtain ⟨f₀, hf₀, rfl⟩ := Option.map_eq_some_iff.mp hf
  rcases h f₀ hf₀ with ⟨hnothing, hnone⟩ | ⟨g, hg, hsame⟩
  · have hfind : s.callers.find? (fun g => g.returnAddress.isSome) = none := by
      rw [List.find?_eq_none]
      intro g hg
      rw [hnone g hg]
      exact Bool.false_ne_true
    cases hreturn : caller.returnAddress with
    | none =>
        refine Or.inl ⟨hnothing, ?_⟩
        intro g hg
        rcases List.mem_append.mp hg with hg | hg
        · exact hnone g hg
        · rw [List.mem_singleton.mp hg]
          exact hreturn
    | some value =>
        refine Or.inr ⟨caller, ?_, takeOver_of_nothing hnothing⟩
        rw [hfind, List.find?_singleton, hreturn]
        rfl
  · refine Or.inr ⟨g, ?_, ?_⟩
    · rw [hg]
      rfl
    · -- frame 0 has a return address already, so it takes over nothing
      have hreturn : f₀.returnAddress.isSome = true := by
        rw [(Prod.mk.inj hsame).1]
        exact isSome_of_find? hg
      split
      · rw [takeOver_of_isSome hreturn]
        exact hsame
      · exact hsame

/-- What it means to cut the frames off behind the first callers. -/
structure IsCut (s s' : FrameStack) : Prop where
  pos : 0 < s'.size
  callers : ∃ n, s'.callers = s.callers.take n
  innermost : s'.innermost? = s.innermost?.map (if s'.size = 1 then withoutCaller else id)

theorem isCut_truncate (hpos : 0 < s.size) {count : Nat} (h : 0 < count) :
    s.IsCut (s.truncate count) where
  pos := by
    rw [size_truncate]
    omega
  callers := ⟨count - 1, callers_truncate s count⟩
  innermost := by
    rw [innermost?_truncate s h, size_truncate]

theorem isCut_rollback (hpos : 0 < s.size) : s.IsCut s.rollback :=
  have h := isCut_truncate hpos s.keptByRollback_pos
  ⟨h.pos, h.callers, h.innermost⟩

/-- A cut leaves frame 0 right if it leaves no caller, or one with a return address where there was
one. -/
theorem Backfilled.cut (h : s.Backfilled) (hcut : s.IsCut s') (hnot : ¬ Strands s s') :
    s'.Backfilled := by
  intro f hf
  rw [hcut.innermost] at hf
  obtain ⟨n, hcallers⟩ := hcut.callers
  obtain ⟨f₀, hf₀, rfl⟩ := Option.map_eq_some_iff.mp hf
  -- only a cut that leaves frame 0 alone takes back what it has taken over
  by_cases hone : s'.size = 1
  · rw [if_pos hone]
    have hnil : s'.callers = [] := by
      apply List.eq_nil_of_length_eq_zero
      rw [length_callers, hone]
    refine Or.inl ⟨rfl, ?_⟩
    rw [hnil]
    intro g hg
    cases hg
  · rw [if_neg hone]
    have hmore : 1 < s'.size := by
      have hpos := hcut.pos
      omega
    rcases h f₀ hf₀ with ⟨hnothing, hnone⟩ | ⟨g, hg, hsame⟩
    · refine Or.inl ⟨hnothing, ?_⟩
      rw [hcallers]
      intro g hg
      exact hnone g (List.mem_of_mem_take hg)
    · refine Or.inr ⟨g, ?_, hsame⟩
      -- the caller that frame 0 has taken over is the first one, so it is left if any is
      cases hfind : s'.callers.find? (fun g => g.returnAddress.isSome) with
      | none =>
          refine absurd ⟨hmore, ?_, g, List.mem_of_find?_eq_some hg, ?_⟩ hnot
          · intro g' hg'
            have := List.find?_eq_none.mp hfind g' hg'
            simpa using this
          · exact Option.isSome_iff_ne_none.mp (isSome_of_find? hg)
      | some g' =>
          have hsplit : s.callers = s'.callers ++ s.callers.drop n := by
            rw [hcallers, List.take_append_drop]
          rw [hsplit, List.find?_append, hfind] at hg
          exact hg

/-- Between two states in which frame 0 is right no cut strands it. -/
theorem not_strands_of_cut (h : s.Backfilled) (hcut : s.IsCut s') (h' : s'.Backfilled) :
    ¬ Strands s s' := by
  intro hstrands
  obtain ⟨f, hf⟩ := exists_innermost hcut.pos
  -- frame 0 is as it was, because more than one frame is left
  have hkept : s.innermost? = some f := by
    have hinnermost := hcut.innermost
    have hmore := hstrands.more
    rw [if_neg (by omega), Option.map_id, id, hf] at hinnermost
    exact hinnermost.symm
  have hnothing : f.returnAddress = none := by
    rcases h' f hf with ⟨hnothing, -⟩ | ⟨g, hg, -⟩
    · exact (Prod.mk.inj hnothing).1
    · have hsome := isSome_of_find? hg
      rw [hstrands.without g (List.mem_of_find?_eq_some hg)] at hsome
      cases hsome
  rcases h f hkept with ⟨-, hnone⟩ | ⟨g, hg, hsame⟩
  · obtain ⟨g, hg, hlost⟩ := hstrands.lost
    exact hlost (hnone g hg)
  · have hsome := isSome_of_find? hg
    rw [← (Prod.mk.inj hsame).1, hnothing] at hsome
    cases hsome

/-- Adding frames strands nothing. -/
theorem not_strands_of_keeps (h : s.callers <+: s'.callers) : ¬ Strands s s' := by
  intro hstrands
  obtain ⟨g, hg, hlost⟩ := hstrands.lost
  exact hlost (hstrands.without g (h.subset hg))

end FrameStack

/-! ## The rounds of a walk -/

section Rounds

variable {ctx : Context} {s s' : State}

theorem backfilled_accept (h : s.stack.Backfilled) (hpos : 0 < s.stack.size) (f : Frame) :
    (s.accept ctx f).stack.Backfilled := by
  rcases stack_accept_cases ctx s f with hstack | hstack
  · rw [hstack]
    exact h
  · rw [hstack]
    exact h.push hpos ctx.limits f

theorem backfilled_start (ctx : Context) : (State.start ctx).stack.Backfilled := by
  have halone (t : Tally) : ((State.initial.addInnermost ctx).setTally t).stack.Backfilled := by
    intro f hf
    cases hf
    refine Or.inl ⟨rfl, ?_⟩
    intro g hg
    cases hg
  rcases State.start_cases ctx with ⟨t, h⟩ | ⟨lr, call, t, -, -, h⟩
  · rw [h]
    exact halone t
  · rw [h]
    exact backfilled_accept (s := (State.initial.addInnermost ctx).setTally t) (halone t)
      Nat.one_pos _

theorem backfilled_gathers (h : s.stack.Backfilled) (hpos : 0 < s.stack.size)
    (hround : Gathers ctx s s') : s'.stack.Backfilled :=
  (hround.preserves (P := fun s => s.stack.Backfilled ∧ 0 < s.stack.size) ⟨h, hpos⟩
    (fun _ _ h => h) fun _ f h => ⟨backfilled_accept h.1 h.2 f, pos_accept ctx h.2 f⟩).1

theorem backfilled_looks {cursor : Address} (h : s.stack.Backfilled) (hpos : 0 < s.stack.size)
    (hround : Looks ctx s cursor s') : s'.stack.Backfilled :=
  (hround.preserves (P := fun s => s.stack.Backfilled ∧ 0 < s.stack.size) ⟨h, hpos⟩
    (fun _ _ h => h) fun _ f h => ⟨backfilled_accept h.1 h.2 f, pos_accept ctx h.2 f⟩).1

/-- A recovery cuts frames off, and does nothing else to them. -/
theorem Recovers.isCut {resume : Address} (hpos : 0 < s.stack.size) (hfloor : 0 < s.restartFloor)
    (hround : Recovers ctx s s' resume) : s.stack.IsCut s'.stack := by
  cases hround with
  | restarted hfew hnot t =>
      rw [State.stack_backToRegisters]
      exact FrameStack.isCut_truncate hpos hfloor
  | rolledBack hmore hsite hfree t =>
      rw [State.stack_rollBack]
      exact FrameStack.isCut_rollback hpos

/-- One round leaves frame 0 right exactly if it does not strand it. -/
theorem backfilled_step {p : Phase} (hjustified : p.state.IsJustified ctx)
    (h : p.state.stack.Backfilled) :
    (p.step ctx).state.stack.Backfilled ↔ ¬ Strands p.state.stack (p.step ctx).state.stack := by
  have hpos := hjustified.stack.pos
  rcases p.step_effect ctx with heq | heq | hgathers | hscans
  · rw [heq]
    exact ⟨fun _ => FrameStack.not_strands_of_keeps List.prefix_rfl, fun _ => h⟩
  · rw [heq]
    exact ⟨fun _ => FrameStack.not_strands_of_keeps List.prefix_rfl, fun _ => h⟩
  · exact ⟨fun _ => FrameStack.not_strands_of_keeps (hgathers.keeps_callers hpos),
      fun _ => backfilled_gathers h hpos hgathers⟩
  · cases hscans with
    | looked cursor hlooks =>
        exact ⟨fun _ => FrameStack.not_strands_of_keeps (hlooks.keeps_callers hpos),
          fun _ => backfilled_looks h hpos hlooks⟩
    | recovered resume hrecovers =>
        have hcut := hrecovers.isCut hpos hjustified.floor
        exact ⟨fun h' => FrameStack.not_strands_of_cut h hcut h', fun hnot => h.cut hcut hnot⟩

end Rounds

/-- **Frame 0 describes a frame that is still held, exactly until a rollback strands it.** -/
theorem backfilled_iff_never_strands (ctx : Context) (n : Nat) :
    (∀ m ≤ n, (phaseAt ctx m).state.stack.Backfilled) ↔
      ∀ m < n, ¬ Strands (phaseAt ctx m).state.stack (phaseAt ctx (m + 1)).state.stack := by
  have hstep (m : Nat) (h : (phaseAt ctx m).state.stack.Backfilled) :
      (phaseAt ctx (m + 1)).state.stack.Backfilled ↔
        ¬ Strands (phaseAt ctx m).state.stack (phaseAt ctx (m + 1)).state.stack := by
    rw [phaseAt_succ]
    exact backfilled_step (phaseAt_isJustified ctx m) h
  constructor
  · intro h m hm
    exact (hstep m (h m (Nat.le_of_lt hm))).mp (h (m + 1) hm)
  · intro h m hm
    induction m with
    | zero =>
        rw [phaseAt_zero]
        unfold Phase.first
        split <;> exact backfilled_start ctx
    | succ m ih => exact (hstep m (ih (Nat.le_of_succ_le hm))).mpr (h m hm)

/-- A thread in `work`, which a library calls through the jump at `wrapper`, on a stack that has nothing
else to show; few bytes without a frame are a gap. -/
def strandedTailCall : Context where
  arch := .x86_64
  target := Tables.target
    { images := [(⟨"app"⟩, .main, 0x400000, 0x410000), (⟨"libplug.so"⟩, .library, 0x500000, 0x510000)]
      routines := [("work", 0x401000, 0x100), ("wrapper", 0x401200, 0x10), ("caller", 0x500000, 0x100)]
      code := [(0x401010, ⟨1, "nop"⟩), (0x401200, ⟨5, "jmp 0x401000"⟩), (0x500010, ⟨5, "call 0x401200"⟩)]
      words := [(0x7FFE0000, 0x500015), (0x7FFE0008, 0), (0x7FFE0010, 0), (0x7FFE0018, 0), (0x7FFE0020, 0),
        (0x7FFE0028, 0), (0x7FFE0030, 0), (0x7FFE0038, 0)] }
  registers := Registers.ofPcSp ⟨0x401010⟩ ⟨0x7FFE0000⟩
  limits := { Limits.standard with stackBase := some ⟨0x7FFE0038⟩, gapThreshold := 16 }

/-- The gap in the fifth round takes away the call from the library, and leaves the jump. -/
theorem strandedTailCall_not_backfilled :
    ¬ (phaseAt strandedTailCall 5).state.stack.Backfilled := by
  intro h
  have hkept : (phaseAt strandedTailCall 5).state.stack.innermost?.map callFields =
      some (some ⟨0x500015⟩, some ⟨0x7FFE0000⟩, some ⟨0x401200⟩, some "wrapper") := by
    decide +kernel
  have hnone : (phaseAt strandedTailCall 5).state.stack.callers.find?
      (fun g => g.returnAddress.isSome) = none := by
    decide +kernel
  obtain ⟨f, hf, hfields⟩ := Option.map_eq_some_iff.mp hkept
  rcases h f hf with ⟨hnothing, -⟩ | ⟨g, hg, -⟩
  · rw [hfields] at hnothing
    cases hnothing
  · rw [hnone] at hg
    cases hg

end StackWalk.Walk

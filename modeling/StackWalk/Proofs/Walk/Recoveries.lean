import Mathlib.Data.Finset.Card
import StackWalk.Proofs.Tables
import StackWalk.Proofs.Walk.Backfill
import StackWalk.Proofs.Walk.Scanning

/-!
# StackWalk.Proofs.Walk.Recoveries — what a recovery takes and what it leaves

A recovery is the restart or a rollback.  The restart comes once and leaves the frames that the registers
show, just as they were before the chain was followed.  A rollback blacklists a new call site, takes at
least the newest frame away, and never one of those that were found before the scan; after the restart
the frames from the registers take their place.

Every rollback is paid for with a call site, the restart and a recovery that fails come once each.  So
the blacklist bounds how many recoveries a walk counts, whatever its budget is.
-/

namespace StackWalk.Walk

/-! ## Frames that are left in place -/

namespace FrameStack

/-- The first frames are those of `base`, in place.  Frame 0 may have taken over a return address since,
if it is the only frame of `base`. -/
structure RestsOn (base s : FrameStack) : Prop where
  callers : base.callers <+: s.callers
  innermost : s.innermost?.map (if base.size = 1 then withoutCaller else id) = base.innermost?

/-- Frame 0 says something about its caller exactly if there is one. -/
structure Answered (s : FrameStack) : Prop where
  pos : 0 < s.size
  alone : s.size = 1 → s.innermost?.map withoutCaller = s.innermost?
  called : 1 < s.size → ∀ f ∈ s.innermost?, f.returnAddress.isSome = true

theorem isSome_takeOver {caller : Frame} (h : caller.returnAddress.isSome = true) (f : Frame) :
    (takeOver caller f).returnAddress.isSome = true := by
  unfold takeOver
  split
  · assumption
  · exact h

variable {base s s' : FrameStack}

theorem Answered.push (h : s.Answered) {f : Frame} (hf : f.returnAddress.isSome = true)
    (limits : Limits) : ((s.append limits f).backfill f).Answered := by
  have hpos := h.pos
  have hsize : ((s.append limits f).backfill f).size = s.size + 1 := by
    rw [size_backfill, size_append]
  refine ⟨by omega, fun hone => by omega, fun _ f₀ hf₀ => ?_⟩
  rw [innermost?_backfill, innermost?_append _ hpos, if_pos hf] at hf₀
  obtain ⟨f₁, -, rfl⟩ := Option.map_eq_some_iff.mp hf₀
  exact isSome_takeOver hf f₁

theorem Answered.restsOn (h : s.Answered) : s.RestsOn s where
  callers := List.prefix_rfl
  innermost := by
    split
    case isTrue hone => exact h.alone hone
    case isFalse => exact Option.map_id_apply

/-- A new frame changes frame 0 only where it had no return address. -/
theorem RestsOn.push (h : base.RestsOn s) (hbase : base.Answered) (hpos : 0 < s.size)
    (limits : Limits) (f : Frame) : base.RestsOn ((s.append limits f).backfill f) where
  callers := by
    rw [callers_backfill, callers_append _ hpos]
    exact h.callers.trans (List.prefix_append _ _)
  innermost := by
    have hinnermost := h.innermost
    have hbasePos := hbase.pos
    rw [innermost?_backfill, innermost?_append _ hpos, Option.map_map, ← hinnermost]
    by_cases hone : base.size = 1
    · refine Option.map_congr fun f₀ _ => ?_
      rw [if_pos hone]
      show withoutCaller (_ : Frame) = withoutCaller f₀
      split
      · exact withoutCaller_takeOver f f₀
      · rfl
    · refine Option.map_congr fun f₀ hf₀ => ?_
      rw [if_neg hone, Option.map_id_apply] at hinnermost
      have hreturn := hbase.called (by omega) f₀ (hinnermost ▸ hf₀)
      rw [if_neg hone]
      show (_ : Frame) = f₀
      split
      · exact takeOver_of_isSome hreturn
      · rfl

/-- A cut that leaves as many frames leaves them in place. -/
theorem RestsOn.cut (h : base.RestsOn s) (hbase : base.Answered) (hcut : s.IsCut s')
    (hsize : base.size ≤ s'.size) : base.RestsOn s' where
  callers := by
    obtain ⟨n, hn⟩ := hcut.callers
    refine List.prefix_of_prefix_length_le h.callers (hn ▸ List.take_prefix n _) ?_
    rw [length_callers, length_callers]
    exact Nat.sub_le_sub_right hsize 1
  innermost := by
    have hbasePos := hbase.pos
    rw [hcut.innermost, Option.map_map, ← h.innermost]
    refine Option.map_congr fun f _ => ?_
    by_cases hone : s'.size = 1
    · have hbaseOne : base.size = 1 := by omega
      rw [if_pos hone, if_pos hbaseOne]
      rfl
    · rw [if_neg hone]
      rfl

/-- What is cut down to as many frames as it rests on is nothing else. -/
theorem RestsOn.frames_truncate (h : base.RestsOn s) (hbase : base.Answered)
    (hsize : base.size ≤ s.size) : (s.truncate base.size).frames = base.frames := by
  have hcallers : (s.truncate base.size).callers = base.callers := by
    rw [callers_truncate, ← length_callers]
    exact (List.prefix_iff_eq_take.mp h.callers).symm
  have hinnermost : (s.truncate base.size).innermost? = base.innermost? := by
    rw [innermost?_truncate s hbase.pos, Nat.min_eq_left hsize]
    exact h.innermost
  apply Array.toList_inj.mp
  rw [toList_frames, toList_frames, hcallers, hinnermost]

end FrameStack

/-! ## The frames under the floor -/

/-- The frames that no rollback takes away: those that were found before the scan, or, after the restart,
those that the registers show. -/
def State.grounds (ctx : Context) (s : State) : FrameStack :=
  if s.restarted then (State.start ctx).stack else (beforeScan ctx).1.stack

/-- In the round after `n` others the scan meets a gap at `s`, recovers from it and goes on from `s'`. -/
structure RecoversAt (ctx : Context) (n : Nat) (s s' : StackScan) : Prop where
  before : phaseAt ctx n = .scanning s
  gap : s.state.gapAt ctx s.cursor = true
  after : phaseAt ctx (n + 1) = .scanning s'

/-- Whether the walk stands at a gap. -/
def Phase.atGap (ctx : Context) : Phase → Bool
  | .scanning s => s.state.gapAt ctx s.cursor
  | _ => false

theorem Phase.exists_of_atGap {ctx : Context} {p : Phase} (h : p.atGap ctx = true) :
    ∃ s, p = .scanning s ∧ s.state.gapAt ctx s.cursor = true := by
  cases p with
  | scanning s => exact ⟨s, rfl, h⟩
  | probing fp p => cases h
  | chaining c => cases h
  | leaving s onward => cases h
  | ended s status => cases h

/-- From a gap behind which the scan goes on it has recovered. -/
theorem exists_recoversAt {ctx : Context} {n : Nat} (hgap : (phaseAt ctx n).atGap ctx = true)
    (hafter : (phaseAt ctx (n + 1)).isScanning = true) : ∃ s s', RecoversAt ctx n s s' := by
  obtain ⟨s, hs, hgap⟩ := Phase.exists_of_atGap hgap
  obtain ⟨s', hs'⟩ := Phase.exists_of_isScanning hafter
  exact ⟨s, s', hs, hgap, hs'⟩

/-- The recovery is the restart: the scan goes back to the stack pointer, with the very frames that were
there before the chain was followed. -/
structure Restarts (ctx : Context) (s s' : State) (resume : Address) : Prop where
  first : s.restarted = false
  restarted : s'.restarted = true
  resume : resume = ctx.registers.sp
  frames : s'.stack.frames = (State.start ctx).stack.frames
  blacklist : s'.blacklist = s.blacklist

/-- The recovery is a rollback: it blacklists the call site of the newest frame, which was not blacklisted
before, and takes that frame away, and maybe others, but none of those under the floor. -/
structure RollsBack (ctx : Context) (s s' : State) : Prop where
  site : ∃ site, s.stack.last?.bind Frame.callSite = some site ∧ site ∉ s.blacklist ∧
    s'.blacklist = site :: s.blacklist
  shorter : s'.stack.size < s.stack.size
  cut : s'.stack.callers <+: s.stack.callers
  floor : (s.grounds ctx).size = s.rollbackFloor
  kept : (s.grounds ctx).RestsOn s'.stack
  restarted : s'.restarted = s.restarted

/-- The scan has not gone below the frames from the registers, nor below those under its floor. -/
structure State.Rests (ctx : Context) (s : State) : Prop where
  floors : s.HasFloor ctx
  restartFloor : s.restartFloor = (State.start ctx).stack.size
  rollbackFloor : s.rollbackFloor = (s.grounds ctx).size
  registers : (State.start ctx).stack.RestsOn s.stack
  grounds : (s.grounds ctx).RestsOn s.stack

section Rests

variable {ctx : Context} {s s' : State}

/-! ## Before the scan -/

theorem answered_accept (h : s.stack.Answered) {f : Frame} (hf : f.returnAddress.isSome = true) :
    (s.accept ctx f).stack.Answered := by
  rcases stack_accept_cases ctx s f with hstack | hstack
  · rw [hstack]
    exact h
  · rw [hstack]
    exact h.push hf ctx.limits

theorem answered_start (ctx : Context) : (State.start ctx).stack.Answered := by
  have halone (t : Tally) : ((State.initial.addInnermost ctx).setTally t).stack.Answered :=
    ⟨Nat.one_pos, fun _ => rfl, fun hmore => absurd hmore (Nat.lt_irrefl 1)⟩
  rcases State.start_cases ctx with ⟨t, h⟩ | ⟨lr, call, t, -, -, h⟩
  · rw [h]
    exact halone t
  · rw [h]
    exact answered_accept (s := (State.initial.addInnermost ctx).setTally t) (halone t) rfl

theorem answered_gathers (h : s.stack.Answered) (hround : Gathers ctx s s') : s'.stack.Answered := by
  cases hround with
  | counted t => exact h
  | call hshows cursor t t' => exact answered_accept (s := s.setTally t) h rfl

theorem answered_beforeScan (ctx : Context) : (beforeScan ctx).1.stack.Answered :=
  addChain_induction (P := fun s => s.stack.Answered) (answered_start ctx)
    fun _ _ h hround => answered_gathers h hround

theorem answered_grounds (ctx : Context) (s : State) : (s.grounds ctx).Answered := by
  unfold State.grounds
  split
  · exact answered_start ctx
  · exact answered_beforeScan ctx

theorem restsOn_accept {base : FrameStack} (h : base.RestsOn s.stack) (hbase : base.Answered)
    (hpos : 0 < s.stack.size) (f : Frame) : base.RestsOn (s.accept ctx f).stack := by
  rcases stack_accept_cases ctx s f with hstack | hstack
  · rw [hstack]
    exact h
  · rw [hstack]
    exact h.push hbase hpos ctx.limits f

theorem restsOn_beforeScan (ctx : Context) :
    (State.start ctx).stack.RestsOn (beforeScan ctx).1.stack := by
  have hstart := answered_start ctx
  refine (addChain_induction
    (P := fun s => (State.start ctx).stack.RestsOn s.stack ∧ 0 < s.stack.size)
    ⟨hstart.restsOn, hstart.pos⟩ ?_).1
  intro s s' h hround
  refine hround.preserves
    (P := fun s => (State.start ctx).stack.RestsOn s.stack ∧ 0 < s.stack.size) h (fun _ _ h => h) ?_
  rintro s f ⟨hrests, hpos⟩
  exact ⟨restsOn_accept hrests hstart hpos f, pos_accept ctx hpos f⟩

theorem restartFloor_beforeScan (ctx : Context) :
    (beforeScan ctx).1.restartFloor = (State.start ctx).stack.size :=
  addChain_induction (P := fun s => s.restartFloor = (State.start ctx).stack.size) rfl
    fun _ _ h hround => hround.steady.restartFloor.trans h

theorem fresh_beforeScan (ctx : Context) :
    (beforeScan ctx).1.blacklist = [] ∧ (beforeScan ctx).1.restarted = false :=
  addChain_induction (P := fun s => s.blacklist = [] ∧ s.restarted = false) (State.start_fresh ctx)
    fun _ _ h hround =>
      ⟨hround.steady.blacklist.trans h.1, hround.steady.restarted.trans h.2⟩

theorem rests_beforeScan (ctx : Context) : (beforeScan ctx).1.Rests ctx := by
  have hgrounds : (beforeScan ctx).1.grounds ctx = (beforeScan ctx).1.stack := by
    unfold State.grounds
    rw [(fresh_beforeScan ctx).2]
    rfl
  refine ⟨beforeScan_hasFloor ctx, restartFloor_beforeScan ctx, ?_, restsOn_beforeScan ctx, ?_⟩
  · rw [hgrounds]
    rfl
  · rw [hgrounds]
    exact (answered_beforeScan ctx).restsOn

/-! ## The rounds of the scan -/

theorem grounds_eq (h : s'.restarted = s.restarted) : s'.grounds ctx = s.grounds ctx := by
  unfold State.grounds
  rw [h]

/-- A round of the scan leaves the frames in place that it does not take away. -/
theorem restsOn_scans {base : FrameStack} (h : base.RestsOn s.stack) (hbase : base.Answered)
    (hfloors : s.HasFloor ctx) (hround : Scans ctx s s') (hsize : base.size ≤ s'.stack.size) :
    base.RestsOn s'.stack := by
  have hpos : 0 < s.stack.size := Nat.lt_of_lt_of_le hfloors.registers.pos hfloors.registers.size
  cases hround with
  | looked cursor hlooks =>
      exact (hlooks.preserves (P := fun s => base.RestsOn s.stack ∧ 0 < s.stack.size) ⟨h, hpos⟩
        (fun _ _ h => h) fun _ f h => ⟨restsOn_accept h.1 hbase h.2 f, pos_accept ctx h.2 f⟩).1
  | recovered resume hrecovers =>
      exact h.cut hbase (hrecovers.isCut hpos hfloors.registers.pos) hsize

/-- The floors of a round stand under the frames that they stand for. -/
theorem floors_scans (h : s.Rests ctx) (hround : Scans ctx s s') :
    s'.restartFloor = (State.start ctx).stack.size ∧ s'.rollbackFloor = (s'.grounds ctx).size := by
  cases hround with
  | looked cursor hlooks =>
      have hsteady := hlooks.steady
      rw [hsteady.restartFloor, hsteady.rollbackFloor, grounds_eq hsteady.restarted]
      exact ⟨h.restartFloor, h.rollbackFloor⟩
  | recovered resume hrecovers =>
      cases hrecovers with
      | restarted hfew hnot t =>
          rw [State.restartFloor_backToRegisters, State.rollbackFloor_backToRegisters]
          refine ⟨h.restartFloor, ?_⟩
          unfold State.grounds
          rw [State.restarted_backToRegisters]
          exact h.restartFloor
      | rolledBack hmore hsite hfree t =>
          rw [State.restartFloor_rollBack, State.rollbackFloor_rollBack,
            grounds_eq (State.restarted_rollBack ctx _ _)]
          exact ⟨h.restartFloor, h.rollbackFloor⟩

theorem State.Rests.scans (h : s.Rests ctx) (hround : Scans ctx s s') : s'.Rests ctx := by
  have hfloors := h.floors.scans hround
  obtain ⟨hrestart, hrollback⟩ := floors_scans h hround
  have hregisters : (State.start ctx).stack.RestsOn s'.stack :=
    restsOn_scans h.registers (answered_start ctx) h.floors hround
      (hrestart ▸ hfloors.registers.size)
  refine ⟨hfloors, hrestart, hrollback, hregisters, ?_⟩
  -- after the restart the frames from the registers are under the floor, before it those that were
  by_cases hrestarted : s'.restarted = s.restarted
  · have hsize := hfloors.above.size
    rw [hrollback, grounds_eq hrestarted] at hsize
    rw [grounds_eq hrestarted]
    exact restsOn_scans h.grounds (answered_grounds ctx s) h.floors hround hsize
  · have hnow : s'.restarted = true := by
      have hretained := hround.retained.restarted
      cases hbefore : s.restarted with
      | true => exact hretained hbefore
      | false =>
          rw [hbefore] at hrestarted
          exact eq_true_of_ne_false hrestarted
    unfold State.grounds
    rw [hnow]
    exact hregisters

theorem scanning_rests {n : Nat} {s : StackScan} (h : phaseAt ctx n = .scanning s) :
    s.state.Rests ctx :=
  scanning_induction (P := fun s => s.state.Rests ctx) (fun _ _ => rests_beforeScan ctx)
    (fun _ _ h hround => h.scans (StackScan.scans_of_next hround)) h

end Rests

/-! ## Counting recoveries -/

section Counts

variable {ctx : Context}

namespace StackScan

variable {s s' : StackScan} {r : State × Status}

/-- A round that goes on counts a recovery if it has made one. -/
theorem recoveries_next (h : round ctx s = .next s') :
    (Looks ctx s.state s.cursor s'.state ∧
        s'.state.tally.recoveries = s.state.tally.recoveries) ∨
      (Recovers ctx s.state s'.state s'.cursor ∧
        s'.state.tally.recoveries = s.state.tally.recoveries + 1) := by
  rcases round_cases ctx s with ⟨status, -, hround⟩ | ⟨state, resume, -, hgap, hrecover, hround⟩ |
    ⟨-, -, hround⟩ | ⟨-, -, hround⟩
  · rw [hround] at h
    cases h
  · have htally := tally_recover ctx s.state.countIteration s.cursor
    rw [hrecover] at htally
    have hrecovers := recovers_of_gap hgap h
    rw [hround] at h
    cases h
    exact Or.inr ⟨hrecovers, congrArg Tally.recoveries htally⟩
  · rw [hround] at h
    cases h
  · have hlook := sameRounds_look ctx { s with state := s.state.countIteration }
    rcases look_cases ctx { s with state := s.state.countIteration } with
      ⟨state, next, unreadable, hlooks, -, heq⟩ | ⟨state, -, heq⟩
    · rw [heq] at hlook hround
      rw [hround] at h
      cases h
      exact Or.inl ⟨hlooks.of_setTally, hlook.recoveries⟩
    · rw [heq] at hround
      rw [hround] at h
      cases h

/-- A round that ends the scan counts at most one recovery. -/
theorem recoveries_done (h : round ctx s = .done r) :
    s.state.tally.recoveries ≤ r.1.tally.recoveries ∧
      r.1.tally.recoveries ≤ s.state.tally.recoveries + 1 := by
  rcases round_cases ctx s with ⟨status, -, hround⟩ | ⟨state, resume, -, -, -, hround⟩ |
    ⟨-, -, hround⟩ | ⟨-, -, hround⟩
  · rw [hround] at h
    cases h
    exact ⟨Nat.le_refl _, Nat.le_succ _⟩
  · rw [hround] at h
    cases h
  · rw [hround] at h
    cases h
    exact ⟨Nat.le_succ _, Nat.le_refl _⟩
  · have hlook := sameRounds_look ctx { s with state := s.state.countIteration }
    rw [← hround, h] at hlook
    have hsame := hlook.recoveries
    exact ⟨Nat.le_of_eq hsame.symm, Nat.le_succ_of_le (Nat.le_of_eq hsame)⟩

end StackScan

/-- Every recovery has blacklisted a call site, but for the restart. -/
structure State.Counts (s : State) : Prop where
  distinct : s.blacklist.Nodup
  recoveries : s.tally.recoveries = s.blacklist.length + s.restarted.toNat

theorem State.Counts.recovers {s s' : State} {resume : Address} (h : s.Counts)
    (hrecovers : Recovers ctx s s' resume)
    (hmore : s'.tally.recoveries = s.tally.recoveries + 1) : s'.Counts := by
  have hcount := h.recoveries
  cases hrecovers with
  | restarted hfew hnot t =>
      refine ⟨?_, ?_⟩
      · rw [blacklist_backToRegisters]
        exact h.distinct
      · rw [hmore, hcount, hnot, blacklist_backToRegisters, restarted_backToRegisters]
        rfl
  | @rolledBack site _ hsite hfree t =>
      refine ⟨?_, ?_⟩
      · rw [blacklist_rollBack]
        exact List.nodup_cons.mpr ⟨hfree, h.distinct⟩
      · rw [hmore, hcount, blacklist_rollBack, restarted_rollBack, List.length_cons]
        simp only [blacklist_setTally, restarted_setTally]
        omega

theorem State.Counts.next {s s' : StackScan} (h : s.state.Counts)
    (hround : StackScan.round ctx s = .next s') : s'.state.Counts := by
  rcases StackScan.recoveries_next hround with ⟨hlooks, hsame⟩ | ⟨hrecovers, hmore⟩
  · have hsteady := hlooks.steady
    refine ⟨hsteady.blacklist ▸ h.distinct, ?_⟩
    rw [hsteady.blacklist, hsteady.restarted, hsame]
    exact h.recoveries
  · exact h.recovers hrecovers hmore

/-- Before the scan there are no recoveries to count. -/
theorem recoveries_beforeScan (ctx : Context) : (beforeScan ctx).1.tally.recoveries = 0 :=
  (unscanned_beforeScan ctx).recoveries

theorem counts_beforeScan (ctx : Context) : (beforeScan ctx).1.Counts := by
  obtain ⟨hblacklist, hrestarted⟩ := fresh_beforeScan ctx
  refine ⟨?_, ?_⟩
  · rw [hblacklist]
    exact List.nodup_nil
  · rw [hblacklist, hrestarted]
    exact recoveries_beforeScan ctx

/-- At the end one recovery may have failed. -/
theorem recoveries_outcome (ctx : Context) :
    (outcome ctx).1.blacklist.Nodup ∧
      (outcome ctx).1.tally.recoveries ≤ (outcome ctx).1.blacklist.length + 2 := by
  have hfew (s : State) (h : s.Counts) : s.tally.recoveries ≤ s.blacklist.length + 1 := by
    rw [h.recoveries]
    exact Nat.add_le_add_left s.restarted.toNat_le _
  refine outcome_of_scan (P := fun s => s.state.Counts)
    (Q := fun s => s.blacklist.Nodup ∧ s.tally.recoveries ≤ s.blacklist.length + 2) ?_ ?_ ?_ ?_ ?_
  · intro status _
    have h := counts_beforeScan ctx
    exact ⟨h.distinct, Nat.le_succ_of_le (hfew _ h)⟩
  · intro cursor _
    exact counts_beforeScan ctx
  · intro s s' h hround
    exact h.next hround
  · intro s r h hround
    have hcount := (StackScan.recoveries_done hround).2
    have hbefore := hfew _ h
    rw [(StackScan.looks_of_done hround).steady.blacklist]
    exact ⟨h.distinct, by omega⟩
  · intro s h
    exact ⟨h.distinct, Nat.le_succ_of_le (hfew _ h)⟩

/-! ## Every recovery -/

theorem FrameStack.size_rollback_lt {s : FrameStack} (h : 1 < s.size) : s.rollback.size < s.size := by
  rw [size_rollback]
  exact Nat.lt_of_le_of_lt (Nat.min_le_left _ _) (keptByRollback_lt h)

theorem Recovers.restarts_or_rollsBack {s s' : State} {resume : Address}
    (h : Recovers ctx s s' resume) (hrests : s.Rests ctx) (hrests' : s'.Rests ctx) :
    Restarts ctx s s' resume ∨ RollsBack ctx s s' := by
  cases h with
  | restarted hfew hnot t =>
      refine Or.inl ⟨hnot, State.restarted_backToRegisters ctx _, rfl, ?_,
        State.blacklist_backToRegisters ctx _⟩
      have hsize := hrests.floors.registers.size
      rw [hrests.restartFloor] at hsize
      rw [State.stack_backToRegisters, State.restartFloor_setTally, hrests.restartFloor]
      exact hrests.registers.frames_truncate (answered_start ctx) hsize
  | @rolledBack site hmore hsite hfree t =>
      have hrestarted := State.restarted_rollBack ctx (s.setTally t) site
      refine Or.inr ⟨⟨site, hsite, hfree, State.blacklist_rollBack ctx _ _⟩, ?_, ?_,
        hrests.rollbackFloor.symm, ?_, hrestarted⟩
      · have hpos := hrests.floors.registers.pos
        have hfloor := hrests.floors.floor
        rw [State.stack_rollBack]
        exact FrameStack.size_rollback_lt (Nat.lt_of_le_of_lt (Nat.le_trans hpos hfloor) hmore)
      · rw [State.stack_rollBack, FrameStack.callers_rollback]
        exact List.take_prefix _ _
      · have hgrounds := hrests'.grounds
        rw [grounds_eq hrestarted] at hgrounds
        exact hgrounds

theorem RecoversAt.recovers {n : Nat} {s s' : StackScan} (h : RecoversAt ctx n s s') :
    Recovers ctx s.state s'.state s'.cursor := by
  have hafter := h.after
  rw [phaseAt_succ] at hafter
  rcases Phase.scanning_of_step hafter with ⟨s₀, cursor, hleaving, -⟩ | ⟨s₀, hscanning, hround⟩
  · rw [h.before] at hleaving
    cases hleaving
  · rw [h.before] at hscanning
    cases hscanning
    exact StackScan.recovers_of_gap h.gap hround

/-- Whoever has been restarted is not restarted again. -/
theorem RecoversAt.le_of_restarts {m n : Nat} {s s' t t' : StackScan} (hm : RecoversAt ctx m s s')
    (hn : RecoversAt ctx n t t') (hs : Restarts ctx s.state s'.state s'.cursor)
    (ht : Restarts ctx t.state t'.state t'.cursor) : n ≤ m := by
  by_contra hlt
  have hretained := retained_of_le ctx (Nat.lt_of_not_le hlt)
  rw [hm.after, hn.before] at hretained
  have hagain : t.state.restarted = true := hretained.restarted hs.restarted
  rw [ht.first] at hagain
  cases hagain

end Counts

/-- **Every recovery is the restart, which comes once, or a rollback, which costs a call site**; so the
call sites that have been blacklisted bound how many recoveries are counted. -/
theorem recoveries_disciplined (ctx : Context) :
    (∀ n s s', RecoversAt ctx n s s' →
      Restarts ctx s.state s'.state s'.cursor ∨ RollsBack ctx s.state s'.state) ∧
    (∀ m n s s' t t', RecoversAt ctx m s s' → RecoversAt ctx n t t' →
      Restarts ctx s.state s'.state s'.cursor → Restarts ctx t.state t'.state t'.cursor → m = n) ∧
    (run ctx).stats.recoveries.toNat ≤ (outcome ctx).1.blacklist.toFinset.card + 2 := by
  refine ⟨?_, ?_, ?_⟩
  · intro n s s' h
    exact h.recovers.restarts_or_rollsBack (scanning_rests h.before) (scanning_rests h.after)
  · intro m n s s' t t' hm hn hs ht
    exact Nat.le_antisymm (hn.le_of_restarts hm ht hs) (hm.le_of_restarts hn hs ht)
  · obtain ⟨hdistinct, hcount⟩ := recoveries_outcome ctx
    rw [List.toFinset_card_of_nodup hdistinct]
    by_cases hkernel : ctx.arch.isKernelAddress ctx.registers.pc = true
    · rw [run_of_kernel hkernel]
      exact Nat.zero_le _
    · rw [run_of_outcome hkernel]
      show (UInt32.ofNat (outcome ctx).1.tally.recoveries).toNat ≤ _
      rw [UInt32.toNat_ofNat']
      exact Nat.le_trans (Nat.mod_le _ _) hcount

/-- A thread in `work` of a library.  Its frame pointer shows a call from `caller`, and a saved pointer that
leads nowhere; above that the stack has nothing to show, and few bytes without a frame are a gap. -/
def staleLink : Context where
  arch := .x86_64
  target := Tables.target
    { images := [(⟨"libplug.so"⟩, .library, 0x500000, 0x510000)]
      routines := [("caller", 0x500000, 0x100), ("work", 0x501000, 0x100)]
      code := [(0x500010, ⟨5, "call 0x501000"⟩), (0x501010, ⟨1, "nop"⟩)]
      words := [(0x7FFE0000, 0), (0x7FFE0008, 0x7FFE0100), (0x7FFE0010, 0x500015), (0x7FFE0018, 0),
        (0x7FFE0020, 0), (0x7FFE0028, 0)] }
  registers := (Registers.ofPcSp ⟨0x501010⟩ ⟨0x7FFE0000⟩).withFp ⟨0x7FFE0008⟩
  limits := { Limits.standard with stackBase := some ⟨0x7FFE0030⟩, gapThreshold := 16 }

/-- The first gap takes the frame of the chain away.  The scan finds the same call again, and the second gap
blacklists it.  From the third there is no recovery, but it is counted, so the walk counts as many as it
can with one call site. -/
theorem staleLink_recovers :
    (∃ s s', RecoversAt staleLink 6 s s' ∧ Restarts staleLink s.state s'.state s'.cursor) ∧
      (∃ s s', RecoversAt staleLink 12 s s' ∧ RollsBack staleLink s.state s'.state) ∧
      (run staleLink).stats.recoveries.toNat = (outcome staleLink).1.blacklist.toFinset.card + 2 := by
  obtain ⟨hevery, -, -⟩ := recoveries_disciplined staleLink
  have hgap : (phaseAt staleLink 6).atGap staleLink = true := by decide +kernel
  have hafter : (phaseAt staleLink 7).isScanning = true := by decide +kernel
  have hgap' : (phaseAt staleLink 12).atGap staleLink = true := by decide +kernel
  have hafter' : (phaseAt staleLink 13).isScanning = true := by decide +kernel
  obtain ⟨s, s', hs⟩ := exists_recoversAt hgap hafter
  obtain ⟨t, t', ht⟩ := exists_recoversAt hgap' hafter'
  -- the flag of the restart tells one recovery from the other
  have hfresh : (phaseAt staleLink 6).state.restarted = false := by decide +kernel
  have hrestarted : (phaseAt staleLink 7).state.restarted = true := by decide +kernel
  have hstill : (phaseAt staleLink 12).state.restarted = true := by decide +kernel
  rw [hs.before] at hfresh
  rw [hs.after] at hrestarted
  rw [ht.before] at hstill
  refine ⟨⟨s, s', hs, (hevery 6 s s' hs).resolve_right fun h => ?_⟩,
    ⟨t, t', ht, (hevery 12 t t' ht).resolve_left fun h => ?_⟩, by decide +kernel⟩
  · exact absurd (h.restarted.trans hfresh) (ne_false_of_eq_true hrestarted)
  · exact absurd h.first (ne_false_of_eq_true hstill)

end StackWalk.Walk

import Mathlib.Data.List.Induction
import StackWalk.Proofs.Walk.Ratchets

/-!
# StackWalk.Proofs.Walk.Edits — the frames after any edits, in any order

A frame may be pushed, frame 0 may be filled in, the frames may be rolled back or truncated.  An `Edit` is
one of these, with any frame and any count, and here they follow each other in any order.  A walk makes its
frames by edits (`exists_edits_phaseAt`), but it does not make all of them.

The number of frames, the most that there have been and the best prefix move on their own: a truncation
lowers the first only, a rollback the first and the last, and a push may raise all three.  What they keep
is in `HoldsFirst`: once there have been two frames, the best prefix is not empty.  From this follows what
a rollback keeps (`edits_disciplined`), also after a truncation that has left no frame.
-/

namespace StackWalk.Walk

/-- An operation on the frames. -/
inductive Edit
  /-- A frame is offered. -/
  | push (f : Frame)
  /-- Frame 0 takes over the return address of a frame, and what is known of the call. -/
  | backfill (caller : Frame)
  | rollback
  | truncate (count : Nat)

namespace FrameStack

/-- The stack after an edit. -/
def edit (limits : Limits) (s : FrameStack) : Edit → FrameStack
  | .push f => s.push limits f
  | .backfill caller => s.backfill caller
  | .rollback => s.rollback
  | .truncate count => s.truncate count

/-- The stack that edits make of the empty one. -/
def edited (limits : Limits) (edits : List Edit) : FrameStack :=
  edits.foldl (edit limits) empty

/-- The edit was a push that has added its frame behind the last one and changed nothing else; or it has
cut frames off behind the first ones, which are as they were found. -/
def GrowsOrIsCut (s : FrameStack) (e : Edit) (s' : FrameStack) : Prop :=
  (∃ f, e = .push f ∧ s'.frames = s.frames.push f) ∨ s'.found <+: s.found

/-- What a rollback to the first `kept` frames does. -/
structure RollsBackTo (s : FrameStack) (kept : Nat) : Prop where
  keepsSome : 1 ≤ kept
  found : s.rollback.found = s.found.take kept
  size : s.rollback.size = kept
  dropped : s.droppedByRollback + kept = s.size
  dropsSome : 1 ≤ s.droppedByRollback
  best : s.rollback.bestPrefix = kept
  gap : s.rollback.gapSeen = false

/-- There have never been more frames than the most, and once there have been two, the best prefix holds
frame 0. -/
structure HoldsFirst (s : FrameStack) : Prop where
  most : s.size ≤ s.most
  best : 2 ≤ s.most → 1 ≤ s.bestPrefix

variable {limits : Limits} {s : FrameStack}

/-- A frame that is offered is added, or nothing happens. -/
theorem push_cases (limits : Limits) (s : FrameStack) (f : Frame) :
    s.push limits f = s.append limits f ∨ s.push limits f = s := by
  unfold push
  split
  · exact .inl rfl
  · exact .inr rfl

theorem growsOrIsCut_edit (limits : Limits) (s : FrameStack) (e : Edit) :
    GrowsOrIsCut s e (s.edit limits e) := by
  cases e with
  | push f =>
      show GrowsOrIsCut s (.push f) (s.push limits f)
      rcases push_cases limits s f with hpush | hpush
      · rw [hpush]
        exact .inl ⟨f, rfl, rfl⟩
      · rw [hpush]
        exact .inr List.prefix_rfl
  | backfill caller =>
      show GrowsOrIsCut s (.backfill caller) (s.backfill caller)
      refine .inr ?_
      simp only [found_backfill, List.prefix_rfl]
  | rollback =>
      show GrowsOrIsCut s .rollback s.rollback
      refine .inr ?_
      rw [found_rollback]
      exact List.take_prefix _ _
  | truncate count =>
      show GrowsOrIsCut s (.truncate count) (s.truncate count)
      refine .inr ?_
      rw [found_truncate]
      exact List.take_prefix _ _

theorem HoldsFirst.append (h : s.HoldsFirst) (limits : Limits) (f : Frame) :
    (s.append limits f).HoldsFirst where
  most := by
    rw [size_append, most_append]
    exact Nat.le_max_right _ _
  best := by
    have hmost := h.most
    have hbest := h.best
    rw [most_append, bestPrefix_append]
    -- the best prefix is raised together with the most frames, or else both stay
    split <;> omega

theorem HoldsFirst.edit (h : s.HoldsFirst) (limits : Limits) (e : Edit) :
    (s.edit limits e).HoldsFirst := by
  have hmost := h.most
  have hbest := h.best
  cases e with
  | push f =>
      show (s.push limits f).HoldsFirst
      rcases push_cases limits s f with hpush | hpush
      · rw [hpush]
        exact h.append limits f
      · rw [hpush]
        exact h
  | backfill caller =>
      show (s.backfill caller).HoldsFirst
      exact ⟨by simpa using hmost, by simpa using hbest⟩
  | rollback =>
      show s.rollback.HoldsFirst
      have hpos := s.keptByRollback_pos
      refine ⟨?_, ?_⟩
      · rw [size_rollback, most_rollback]
        omega
      · rw [most_rollback, bestPrefix_rollback]
        omega
  | truncate count =>
      show (s.truncate count).HoldsFirst
      refine ⟨?_, ?_⟩
      · rw [size_truncate, most_truncate]
        omega
      · rw [most_truncate, bestPrefix_truncate]
        exact hbest

theorem holdsFirst_edited (limits : Limits) (edits : List Edit) : (edited limits edits).HoldsFirst := by
  induction edits using List.reverseRecOn with
  | nil =>
      have hnone : ¬ 2 ≤ empty.most := by decide
      exact ⟨Nat.le_refl 0, fun h => absurd h hnone⟩
  | append_singleton edits e ih =>
      rw [edited, List.foldl_append]
      exact ih.edit limits e

/-- Of two frames or more a rollback keeps the best prefix, or all but the newest frame if that is less. -/
theorem HoldsFirst.keptByRollback_eq (h : s.HoldsFirst) (hmore : 2 ≤ s.size) :
    s.keptByRollback = min s.bestPrefix (s.size - 1) := by
  have hbest := h.best (Nat.le_trans hmore h.most)
  exact Nat.max_eq_right (Nat.le_min.mpr ⟨hbest, Nat.le_sub_of_add_le hmore⟩)

theorem HoldsFirst.rollsBackTo (h : s.HoldsFirst) (hmore : 2 ≤ s.size) :
    s.RollsBackTo (min s.bestPrefix (s.size - 1)) := by
  have hkept := h.keptByRollback_eq hmore
  have hpos := s.keptByRollback_pos
  have hlt := keptByRollback_lt hmore
  rw [← hkept]
  refine ⟨hpos, found_rollback s, ?_, ?_, ?_, ?_, gapSeen_rollback s⟩
  · rw [size_rollback, Nat.min_eq_left (Nat.le_of_lt hlt)]
  · exact Nat.sub_add_cancel (Nat.le_of_lt hlt)
  · exact Nat.sub_pos_of_lt hlt
  · rw [bestPrefix_rollback, Nat.min_eq_right]
    rw [hkept]
    exact Nat.min_le_left _ _

/-- Of fewer frames a rollback drops none. -/
theorem rollback_of_few (hfew : s.size ≤ 1) :
    s.rollback.found = s.found ∧ s.rollback.size = s.size ∧ s.droppedByRollback = 0 := by
  have hle : s.size ≤ s.keptByRollback := Nat.le_trans hfew s.keptByRollback_pos
  refine ⟨?_, ?_, Nat.sub_eq_zero_of_le hle⟩
  · rw [found_rollback, List.take_of_length_le]
    rw [length_found]
    exact hle
  · rw [size_rollback, Nat.min_eq_right hle]

/-- **The frames are a stack, whatever is done to them.**  After any edits, in any order, another one adds a
frame behind the last or cuts frames off from there, and the others are as they were, up to what frame 0
has taken over.  Of two frames or more a rollback keeps the best prefix, or all but the newest if that is
less; this is at least one frame, it drops the others, at least one, and becomes the best prefix, and no
gap is seen any more.  Of fewer frames it drops none. -/
theorem edits_disciplined (limits : Limits) (edits : List Edit) :
    let s := edited limits edits
    (∀ e, GrowsOrIsCut s e (s.edit limits e)) ∧
      (2 ≤ s.size → s.RollsBackTo (min s.bestPrefix (s.size - 1))) ∧
      (s.size ≤ 1 → s.rollback.found = s.found ∧ s.rollback.size = s.size ∧ s.droppedByRollback = 0) := by
  have hfirst := holdsFirst_edited limits edits
  exact ⟨growsOrIsCut_edit limits _, hfirst.rollsBackTo, rollback_of_few⟩

/-- Four frames are pushed and two are left by a truncation: the best prefix, which still counts three, is
longer than the stack. -/
def fourThenTwo : List Edit :=
  [.push (.bare ⟨0x1000⟩ ⟨0x100⟩ ⟨"app"⟩), .push (.bare ⟨0x2000⟩ ⟨0x110⟩ ⟨"app"⟩),
    .push (.bare ⟨0x3000⟩ ⟨0x120⟩ ⟨"app"⟩), .push (.bare ⟨0x4000⟩ ⟨0x130⟩ ⟨"app"⟩), .truncate 2]

/-- A rollback then keeps one frame. -/
theorem fourThenTwo_disciplined :
    (edited .standard fourThenTwo).size = 2 ∧ (edited .standard fourThenTwo).bestPrefix = 3 ∧
      (edited .standard fourThenTwo).RollsBackTo 1 := by
  have hsize : (edited .standard fourThenTwo).size = 2 := by decide +kernel
  have hbest : (edited .standard fourThenTwo).bestPrefix = 3 := by decide +kernel
  obtain ⟨-, hrollback, -⟩ := edits_disciplined .standard fourThenTwo
  have hkept := hrollback (Nat.le_of_eq hsize.symm)
  rw [hsize, hbest] at hkept
  exact ⟨hsize, hbest, hkept⟩

end FrameStack

/-! ## The frames of a walk -/

section Walks

variable {ctx : Context} {s s' : State}

theorem exists_edits_accept (ctx : Context) (s : State) (f : Frame) :
    ∃ edits : List Edit, (s.accept ctx f).stack = edits.foldl (FrameStack.edit ctx.limits) s.stack := by
  rw [State.stack_accept]
  split
  case isTrue hadmits =>
    refine ⟨[.push f, .backfill f], ?_⟩
    have hpush : s.stack.push ctx.limits f = s.stack.append ctx.limits f := if_pos hadmits
    exact congrArg (FrameStack.backfill · f) hpush.symm
  case isFalse => exact ⟨[], rfl⟩

theorem exists_edits_operates (hop : Operates ctx s s') :
    ∃ edits : List Edit, s'.stack = edits.foldl (FrameStack.edit ctx.limits) s.stack := by
  cases hop with
  | counted t => exact ⟨[], rfl⟩
  | floored => exact ⟨[], rfl⟩
  | offered f => exact exists_edits_accept ctx s f
  | rolledBack site => exact ⟨[.rollback], State.stack_rollBack ctx s site⟩
  | restarted => exact ⟨[.truncate s.restartFloor], State.stack_backToRegisters ctx s⟩

/-- The registers push frame 0, and may push and fill in another one. -/
theorem exists_edits_start (ctx : Context) :
    ∃ edits, (State.start ctx).stack = FrameStack.edited ctx.limits edits := by
  rcases State.start_cases ctx with ⟨t, h⟩ | ⟨lr, call, t, -, -, h⟩
  · rw [h]
    exact ⟨[.push ctx.innermost], rfl⟩
  · rw [h]
    obtain ⟨edits, haccept⟩ :=
      exists_edits_accept ctx ((State.initial.addInnermost ctx).setTally t) (ctx.linkFrame call lr)
    exact ⟨.push ctx.innermost :: edits, haccept⟩

/-- The frames of a walk are made by edits in every round. -/
theorem exists_edits_phaseAt (ctx : Context) (n : Nat) :
    ∃ edits, (phaseAt ctx n).state.stack = FrameStack.edited ctx.limits edits := by
  have hcomes : ComesTo ctx (phaseAt ctx 0).state (phaseAt ctx n).state := by
    have hcomes := comesTo_phaseAt ctx 0 n
    rwa [Nat.zero_add] at hcomes
  generalize (phaseAt ctx n).state = s at hcomes ⊢
  induction hcomes with
  | refl =>
      rw [phaseAt_zero]
      unfold Phase.first
      split <;> exact exists_edits_start ctx
  | tail hbefore hop ih =>
      obtain ⟨edits, hedits⟩ := ih
      obtain ⟨more, hmore⟩ := exists_edits_operates hop
      refine ⟨edits ++ more, ?_⟩
      rw [hmore, hedits, FrameStack.edited, FrameStack.edited, List.foldl_append]

/-- So whenever there are two frames, a rollback in that round keeps the best prefix, or all but the newest
frame if that is less. -/
theorem rollsBackTo_phaseAt (ctx : Context) (n : Nat) (hmore : 2 ≤ (phaseAt ctx n).state.stack.size) :
    (phaseAt ctx n).state.stack.RollsBackTo
      (min (phaseAt ctx n).state.stack.bestPrefix ((phaseAt ctx n).state.stack.size - 1)) := by
  obtain ⟨edits, hedits⟩ := exists_edits_phaseAt ctx n
  have hfirst := FrameStack.holdsFirst_edited ctx.limits edits
  rw [← hedits] at hfirst
  exact hfirst.rollsBackTo hmore

end Walks

end StackWalk.Walk

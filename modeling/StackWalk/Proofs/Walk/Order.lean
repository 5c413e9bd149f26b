import Mathlib.Data.List.Infix
import StackWalk.Proofs.Tables
import StackWalk.Proofs.Walk.Climb

/-!
# StackWalk.Proofs.Walk.Order — when the frames of a trace are in order

The frames of a trace should lie one above the other, each with evidence of its own.  The frames of the
scan do, and so do those of the chain of frame pointers.  Two places can break the order.  The probe for
a function without a frame accepts a slot above the stack pointer, but when the chain confirms no link
the scan starts at the stack pointer all the same, below that slot.  And near the last address the probe
and the chain wrap around.

`run_inOrder` says that these are the only places: a trace is in order exactly if the frames before the
scan are and the frames of the scan lie above them, and it is in order whenever the scan starts above
what was found before it.
-/

namespace StackWalk.Walk

/-- The cursors never go down, and no slot is the evidence for two frames above frame 0, which takes over
the slot of its caller. -/
structure InOrder (frames : List Frame) : Prop where
  cursors : frames.Pairwise fun f g => f.cursor ≤ g.cursor
  slots : frames.tail.Pairwise SlotsDiffer

instance (f g : Frame) : Decidable (SlotsDiffer f g) :=
  decidable_of_iff (f.returnSlot = none ∨ f.returnSlot ≠ g.returnSlot) <| by
    cases hf : f.returnSlot with
    | none => simp [SlotsDiffer, hf]
    | some slot => simp [SlotsDiffer, hf, eq_comm]

instance (frames : List Frame) : Decidable (InOrder frames) :=
  decidable_of_iff
    ((frames.Pairwise fun f g => f.cursor ≤ g.cursor) ∧ frames.tail.Pairwise SlotsDiffer)
    ⟨fun h => ⟨h.1, h.2⟩, fun h => ⟨h.cursors, h.slots⟩⟩

/-! ## The frames before the scan -/

/-- The evidence for a frame that the scan has not added: a register, a slot without a frame pointer
below it, or a slot with one. -/
inductive FoundEarly (ctx : Context) (f : Frame) : Prop
  | register (hcursor : f.cursor = ctx.registers.sp) (hslot : f.returnSlot = none)
  | leaf (hslot : f.returnSlot = some f.cursor) (hlink : f.fromLinkRegister = false)
  | link (hslot : f.returnSlot = some (ctx.slotAbove f.cursor)) (hlink : f.fromLinkRegister = false)

/-- Among the frames before the scan, one precedes another: it comes from a register, or the other one
comes from a link above it. -/
inductive Precedes (ctx : Context) (f g : Frame) : Prop
  | register (hcursor : f.cursor = ctx.registers.sp) (hslot : f.returnSlot = none)
  | link (hlt : f.cursor < g.cursor) (hslot : g.returnSlot = some (ctx.slotAbove g.cursor))

/-- The callers found before the scan, each preceding the next. -/
structure State.Precede (ctx : Context) (s : State) : Prop where
  pos : 0 < s.stack.size
  found : ∀ f ∈ s.stack.callers, FoundEarly ctx f
  order : s.stack.callers.Pairwise (Precedes ctx)

/-- All callers come from the registers. -/
def State.FromRegisters (ctx : Context) (s : State) : Prop :=
  0 < s.stack.size ∧
    ∀ f ∈ s.stack.callers, f.cursor = ctx.registers.sp ∧ f.returnSlot = none

/-- The next link is the last one, or lies above all callers but those from the registers. -/
def PointerChain.IsAhead (ctx : Context) (c : PointerChain) : Prop :=
  c.link.isNull = true ∨
    ∀ f ∈ c.state.stack.callers,
      f.cursor = ctx.registers.sp ∧ f.returnSlot = none ∨ f.cursor < c.link

section Early

variable {ctx : Context}

theorem State.FromRegisters.setTally {s : State} (h : s.FromRegisters ctx) (t : Tally) :
    (s.setTally t).FromRegisters ctx := h

/-- The callers of a state to which a frame was offered. -/
theorem mem_callers_accept {s : State} (hpos : 0 < s.stack.size) {f g : Frame}
    (hg : g ∈ (s.accept ctx f).stack.callers) : g ∈ s.stack.callers ∨ g = f := by
  rw [callers_accept ctx hpos] at hg
  rcases List.mem_append.mp hg with hg | hg
  · exact Or.inl hg
  · split at hg
    · exact Or.inr (List.mem_singleton.mp hg)
    · exact absurd hg List.not_mem_nil

theorem State.fromRegisters_start (ctx : Context) : (State.start ctx).FromRegisters ctx := by
  have hgrows := State.Grows.start ctx
  refine ⟨Nat.lt_of_lt_of_le hgrows.registers.pos hgrows.registers.size, ?_⟩
  rcases State.start_cases ctx with ⟨t, h⟩ | ⟨lr, call, t, -, -, h⟩
  · rw [h]
    intro f hf
    cases hf
  · rw [h]
    intro f hf
    have hpos : 0 < ((State.initial.addInnermost ctx).setTally t).stack.size := Nat.one_pos
    rcases mem_callers_accept hpos hf with hf | rfl
    · cases hf
    · exact ⟨rfl, rfl⟩

theorem State.FromRegisters.precede {s : State} (h : s.FromRegisters ctx) : s.Precede ctx where
  pos := h.1
  found f hf := .register (h.2 f hf).1 (h.2 f hf).2
  order := List.Pairwise.imp_of_mem (R := fun _ _ => True)
    (fun hf _ _ => .register (h.2 _ hf).1 (h.2 _ hf).2) (List.pairwise_of_forall fun _ _ => trivial)

/-- A frame that all callers precede may be offered. -/
theorem State.Precede.accept {s : State} (h : s.Precede ctx) {f : Frame} (hf : FoundEarly ctx f)
    (hbehind : ∀ g ∈ s.stack.callers, Precedes ctx g f) : (s.accept ctx f).Precede ctx := by
  rcases stack_accept_cases ctx s f with hstack | hstack
  · exact ⟨by rw [hstack]; exact h.pos, by rw [hstack]; exact h.found, by rw [hstack]; exact h.order⟩
  · have hcallers : (s.accept ctx f).stack.callers = s.stack.callers ++ [f] := by
      rw [hstack, FrameStack.callers_backfill, FrameStack.callers_append _ h.pos]
    refine ⟨?_, ?_, ?_⟩
    · rw [hstack, FrameStack.size_backfill, FrameStack.size_append]
      omega
    · rw [hcallers]
      intro g hg
      rcases List.mem_append.mp hg with hg | hg
      · exact h.found g hg
      · obtain rfl := List.mem_singleton.mp hg
        exact hf
    · rw [hcallers]
      refine List.pairwise_append.mpr ⟨h.order, List.pairwise_singleton _ _, ?_⟩
      intro g hg g' hg'
      obtain rfl := List.mem_singleton.mp hg'
      exact hbehind g hg

/-! ## The probe and the chain -/

theorem LeafProbe.fromRegisters_next {fp : Address} {p p' : LeafProbe}
    (h : p.state.FromRegisters ctx) (hround : LeafProbe.round ctx fp p = .next p') :
    p'.state.FromRegisters ctx := by
  obtain ⟨counter, -, -, rfl⟩ := LeafProbe.next_cases hround
  exact h.setTally _

/-- The frame that the probe finds is below the frame pointer, so below all links. -/
theorem LeafProbe.precede_done {fp : Address} {p : LeafProbe} {s : State}
    (h : p.state.FromRegisters ctx) (hround : LeafProbe.round ctx fp p = .done s) :
    s.Precede ctx ∧ (PointerChain.mk s fp 0 none).IsAhead ctx := by
  rcases LeafProbe.done_cases hround with ⟨-, rfl⟩ | ⟨counter, f, hlt, hf, rfl⟩
  · exact ⟨h.precede, Or.inr fun f hf => Or.inl (h.2 f hf)⟩
  · obtain ⟨value, call, hshows, rfl⟩ := Context.leafFrameAt_eq_some hf
    have hcounted := h.setTally (p.state.tally.looked counter)
    refine ⟨hcounted.precede.accept (.leaf rfl rfl) ?_, Or.inr ?_⟩
    · intro g hg
      exact .register (h.2 g hg).1 (h.2 g hg).2
    · intro g hg
      rcases mem_callers_accept hcounted.1 hg with hg | rfl
      · exact Or.inl (h.2 g hg)
      · -- the probe ends below the frame pointer, which is the first link
        refine Or.inr ?_
        show p.cursor < fp
        rw [Address.lt_iff_toNat] at hlt ⊢
        rw [Context.toNat_leafEnd] at hlt
        omega

theorem PointerChain.precede_extend {c : PointerChain} {f : Frame} {saved : Address}
    (h : c.state.Precede ctx) (hahead : c.IsAhead ctx) (hnull : c.link.isNull = false)
    (hlink : (ctx.followLink c.link (c.state.currentIp ctx)).1 = some (f, saved)) (t : Tally) :
    (c.extend ctx (c.state.setTally t) f).state.Precede ctx ∧
      ∀ g ∈ (c.extend ctx (c.state.setTally t) f).state.stack.callers,
        g ∈ c.state.stack.callers ∨ g.cursor = c.link := by
  obtain ⟨value, call, -, -, hshows, rfl⟩ := Context.followLink_eq_some hlink
  have hcounted : (c.state.setTally t).Precede ctx := ⟨h.pos, h.found, h.order⟩
  unfold PointerChain.extend
  split
  · refine ⟨?_, ?_⟩
    · have haccept := hcounted.accept
        (f := ctx.callFrame call value (ctx.slotAbove c.link) c.link) (.link rfl rfl) ?_
      · exact ⟨haccept.pos, haccept.found, haccept.order⟩
      · intro g hg
        rcases hahead with hlast | habove
        · rw [hnull] at hlast
          cases hlast
        · rcases habove g hg with ⟨hcursor, hslot⟩ | hlt
          · exact .register hcursor hslot
          · exact .link hlt rfl
    · intro g hg
      rcases mem_callers_accept hcounted.pos hg with hg | rfl
      · exact Or.inl hg
      · exact Or.inr rfl
  · exact ⟨hcounted, fun g hg => Or.inl hg⟩

theorem PointerChain.precede_next {c c' : PointerChain} (h : c.state.Precede ctx)
    (hahead : c.IsAhead ctx) (hround : PointerChain.round ctx c = .next c') :
    c'.state.Precede ctx ∧ c'.IsAhead ctx := by
  obtain ⟨counter, f, saved, hnull, -, hlink, hup, rfl⟩ := PointerChain.next_cases hround
  obtain ⟨hextend, hnew⟩ := precede_extend h hahead hnull hlink (c.state.tally.looked counter)
  refine ⟨hextend, ?_⟩
  rcases hup with hlast | hup
  · exact Or.inl hlast
  · refine Or.inr ?_
    intro g hg
    -- the next link is neither below this one nor the same
    have hlt : c.link < saved := by
      obtain ⟨-, -, -, hne, -⟩ := Context.followLink_eq_some hlink
      rw [Address.lt_iff_toNat] at hup ⊢
      have hne : saved.toNat ≠ c.link.toNat := fun heq => hne (Address.toNat_inj.mp heq)
      omega
    rw [Address.lt_iff_toNat] at hlt
    rcases hnew g hg with hold | hcursor
    · rcases hahead with hlast | habove
      · rw [hnull] at hlast
        cases hlast
      · rcases habove g hold with hregister | hbelow
        · exact Or.inl hregister
        · refine Or.inr ?_
          rw [Address.lt_iff_toNat] at hbelow ⊢
          exact Nat.lt_trans hbelow hlt
    · refine Or.inr ?_
      rw [Address.lt_iff_toNat, hcursor]
      exact hlt

theorem PointerChain.precede_done {c : PointerChain} {r : State × Onward} (h : c.state.Precede ctx)
    (hahead : c.IsAhead ctx) (hround : PointerChain.round ctx c = .done r) : r.1.Precede ctx := by
  rcases PointerChain.done_cases hround with
    hr | ⟨counter, -, hr⟩ | ⟨counter, f, saved, hnull, -, hlink, rfl⟩
  · rw [hr]
    exact h
  · rw [hr]
    exact ⟨h.pos, h.found, h.order⟩
  · rw [onward_fst]
    exact (precede_extend h hahead hnull hlink _).1

/-- The callers before the scan precede each other. -/
theorem precede_addChain (ctx : Context) : ((State.start ctx).addChain ctx).1.Precede ctx := by
  have hstart := State.fromRegisters_start ctx
  cases hfp : ctx.livePointer? with
  | none =>
      rw [addChain_none hfp]
      exact hstart.precede
  | some fp =>
      have hprobe : (LeafProbe.run ctx fp (State.start ctx)).Precede ctx ∧
          (PointerChain.mk (LeafProbe.run ctx fp (State.start ctx)) fp 0 none).IsAhead ctx := by
        refine iterate_induction (P := fun p : LeafProbe => p.state.FromRegisters ctx)
          (Q := fun s : State => s.Precede ctx ∧ (PointerChain.mk s fp 0 none).IsAhead ctx)
          ?_ ?_ ?_ _ hstart
        · intro p p' h hround
          exact LeafProbe.fromRegisters_next h hround
        · intro p s h hround
          exact LeafProbe.precede_done h hround
        · intro p h
          exact ⟨h.precede, Or.inr fun f hf => Or.inl (h.2 f hf)⟩
      rw [addChain_some hfp]
      refine iterate_induction
        (P := fun c : PointerChain => c.state.Precede ctx ∧ c.IsAhead ctx)
        (Q := fun r : State × Onward => r.1.Precede ctx) ?_ ?_ ?_ _ hprobe
      · intro c c' h hround
        exact PointerChain.precede_next h.1 h.2 hround
      · intro c r h hround
        exact PointerChain.precede_done h.1 h.2 hround
      · intro c h
        exact h.1

end Early

/-! ## The seam -/

/-- The number of frames at the end of the walk that the scan has not added. -/
def Context.kept (ctx : Context) : Nat := (outcome ctx).1.rollbackFloor

/-- The first `k` frames, none of which comes from the scan, are in order, and so are they with each of
the later ones. -/
structure Seamless (ctx : Context) (k : Nat) (frames : List Frame) : Prop where
  probe : ∀ f ∈ frames.take k, ctx.registers.sp ≤ f.cursor
  early : (frames.take k).tail.Pairwise SlotsDiffer
  cursors : ∀ f ∈ frames.take k, ∀ g ∈ frames.drop k, f.cursor ≤ g.cursor
  slots : ∀ f ∈ (frames.take k).tail, ∀ g ∈ frames.drop k, SlotsDiffer f g

/-- The scan starts above all that was found before it, and none of that is below the stack pointer or
wraps around. -/
structure Orderly (ctx : Context) : Prop where
  probe : ∀ f ∈ (beforeScan ctx).1.stack.callers, ctx.registers.sp ≤ f.cursor
  slots : ∀ f ∈ (beforeScan ctx).1.stack.callers, ∀ slot, f.returnSlot = some slot → f.cursor ≤ slot
  start : ∀ cursor, (beforeScan ctx).2 = .scan cursor → ctx.registers.sp ≤ cursor ∧
    ∀ f ∈ (beforeScan ctx).1.stack.callers, Top ctx.word f ≤ cursor.toNat

section Seam

variable {ctx : Context}

/-- Behind frame 0, frames that climb from the stack pointer on are in order. -/
theorem Climbs.inOrder {callers : List Frame} {hi : Nat} {f₀ : Frame}
    (hcursor : f₀.cursor = ctx.registers.sp)
    (h : Climbs ctx.word ctx.registers.sp.toNat callers hi) : InOrder (f₀ :: callers) where
  cursors := by
    refine List.pairwise_cons.mpr ⟨?_, h.order.imp Below.cursor⟩
    intro g hg
    rw [hcursor, Address.le_iff_toNat]
    exact (h.within g hg).lo
  slots := h.order.imp Below.slot

/-- Frames of the two kinds are in order exactly if they are so where the one kind meets the other. -/
theorem inOrder_iff_seamless {callers : List Frame} {f₀ : Frame} {k : Nat}
    (hcursor : f₀.cursor = ctx.registers.sp) (hearly : (callers.take k).Pairwise (Precedes ctx))
    (hlate : (callers.drop k).Pairwise (Below ctx.word)) :
    InOrder (f₀ :: callers) ↔ Seamless ctx (k + 1) (f₀ :: callers) := by
  have hsplit : callers.take k ++ callers.drop k = callers := List.take_append_drop k callers
  constructor
  · intro h
    have hslots : (callers.take k ++ callers.drop k).Pairwise SlotsDiffer := by
      rw [hsplit]
      exact h.slots
    have hcursors : (f₀ :: callers.take k ++ callers.drop k).Pairwise
        fun f g => f.cursor ≤ g.cursor := by
      rw [List.cons_append, hsplit]
      exact h.cursors
    obtain ⟨hbefore, -, hmeet⟩ := List.pairwise_append.mp hcursors
    obtain ⟨hslotsBefore, -, hslotsMeet⟩ := List.pairwise_append.mp hslots
    refine ⟨?_, hslotsBefore, hmeet, hslotsMeet⟩
    intro f hf
    rw [← hcursor]
    rcases List.mem_cons.mp hf with rfl | hf
    · exact Address.le_refl _
    · exact (List.pairwise_cons.mp hbefore).1 f hf
  · intro h
    -- among the early frames only those from the registers could be out of order
    have hbefore : (callers.take k).Pairwise fun f g => f.cursor ≤ g.cursor := by
      refine hearly.imp_of_mem ?_
      intro f g hf hg hprecedes
      cases hprecedes with
      | register hregister hslot =>
          rw [hregister]
          exact h.probe g (List.mem_cons_of_mem f₀ hg)
      | link hlt hslot =>
          rw [Address.lt_iff_toNat] at hlt
          exact Address.le_iff_toNat.mpr (Nat.le_of_lt hlt)
    have hafter : (callers.drop k).Pairwise fun f g => f.cursor ≤ g.cursor :=
      hlate.imp Below.cursor
    refine ⟨?_, ?_⟩
    · rw [← hsplit]
      show (f₀ :: callers.take k ++ callers.drop k).Pairwise _
      refine List.pairwise_append.mpr ⟨?_, hafter, h.cursors⟩
      refine List.pairwise_cons.mpr ⟨?_, hbefore⟩
      intro g hg
      rw [hcursor]
      exact h.probe g (List.mem_cons_of_mem f₀ hg)
    · show callers.Pairwise SlotsDiffer
      rw [← hsplit]
      exact List.pairwise_append.mpr ⟨h.early, hlate.imp Below.slot, h.slots⟩

/-- The evidence for a frame before the scan is not far above its cursor. -/
theorem FoundEarly.slot_le {f : Frame} (h : FoundEarly ctx f) {slot : Address}
    (hslot : f.returnSlot = some slot) : slot.toNat ≤ f.cursor.toNat + ctx.word.toNat := by
  cases h with
  | register hcursor hnone =>
      rw [hnone] at hslot
      cases hslot
  | leaf hleaf hlink =>
      obtain rfl : f.cursor = slot := Option.some.inj (hleaf.symm.trans hslot)
      omega
  | link habove hlink =>
      obtain rfl : ctx.slotAbove f.cursor = slot := Option.some.inj (habove.symm.trans hslot)
      unfold Context.slotAbove
      rw [Address.toNat_add]
      exact Nat.mod_le _ _

theorem FoundEarly.within {f : Frame} (h : FoundEarly ctx f) {lo hi : Nat}
    (hlo : lo ≤ f.cursor.toNat) (hslot : ∀ slot, f.returnSlot = some slot → f.cursor ≤ slot)
    (hhi : Top ctx.word f ≤ hi) : Within ctx.word lo hi f where
  lo := hlo
  top := by
    cases hf : f.returnSlot with
    | none => exact Nat.le_of_eq (top_of_none hf).symm
    | some slot =>
        have hle := hslot slot hf
        rw [Address.le_iff_toNat] at hle
        rw [top_of_slot hf]
        omega
  hi := hhi
  link := by
    intro hlink
    cases h with
    | register hcursor hnone => exact hnone
    | leaf hleaf hnot =>
        rw [hlink] at hnot
        cases hnot
    | link habove hnot =>
        rw [hlink] at hnot
        cases hnot

/-- Where nothing wraps around, what precedes is below. -/
theorem Precedes.below {f g : Frame} (h : Precedes ctx f g) (hfound : FoundEarly ctx f)
    {lo hi : Nat} (hg : Within ctx.word lo hi g)
    (hsp : ctx.registers.sp ≤ g.cursor)
    (hslot : ∀ slot, g.returnSlot = some slot → g.cursor ≤ slot) : Below ctx.word f g := by
  cases h with
  | register hcursor hnone =>
      -- `f` takes no room above the stack pointer
      refine ⟨hcursor ▸ hsp, ?_, ?_⟩
      · rw [top_of_none hnone, hcursor]
        exact Nat.le_trans (Address.le_iff_toNat.mp hsp) hg.top
      · intro slot hsome
        rw [hnone] at hsome
        cases hsome
  | link hlt habove =>
      -- both slots are at most one word above their cursors, and that of `g` is exactly there
      have hpos := ctx.word_pos
      have hle := hslot _ habove
      have hheight : (ctx.slotAbove g.cursor).toNat = g.cursor.toNat + ctx.word.toNat := by
        have hcursor := g.cursor.toNat_lt
        have hword := ctx.word.toNat_lt
        unfold Context.slotAbove at hle ⊢
        rw [Address.le_iff_toNat, Address.toNat_add] at hle
        rw [Address.toNat_add]
        omega
      rw [Address.lt_iff_toNat] at hlt
      refine ⟨Address.le_iff_toNat.mpr (Nat.le_of_lt hlt), ?_, ?_⟩
      · rw [top_of_slot habove, hheight]
        cases hf : f.returnSlot with
        | none =>
            rw [top_of_none hf]
            omega
        | some slot =>
            have hslot := hfound.slot_le hf
            rw [top_of_slot hf]
            omega
      · intro slot hsome hshared
        have hslot := hfound.slot_le hsome
        obtain rfl : ctx.slotAbove g.cursor = slot := Option.some.inj (habove.symm.trans hshared)
        omega

/-- Before an orderly start of the scan all callers climb. -/
theorem Orderly.climbs (h : Orderly ctx) {hi : Nat} (hle : ctx.registers.sp.toNat ≤ hi)
    (htop : ∀ f ∈ (beforeScan ctx).1.stack.callers, Top ctx.word f ≤ hi) :
    Climbs ctx.word ctx.registers.sp.toNat (beforeScan ctx).1.stack.callers hi := by
  have hprecede : (beforeScan ctx).1.Precede ctx :=
    ⟨(precede_addChain ctx).pos, (precede_addChain ctx).found, (precede_addChain ctx).order⟩
  have hwithin : ∀ f ∈ (beforeScan ctx).1.stack.callers,
      Within ctx.word ctx.registers.sp.toNat hi f := fun f hf =>
    (hprecede.found f hf).within (Address.le_iff_toNat.mp (h.probe f hf)) (h.slots f hf) (htop f hf)
  refine ⟨hle, hwithin, hprecede.order.imp_of_mem ?_⟩
  intro f g hf hg hprecedes
  exact hprecedes.below (hprecede.found f hf) (hwithin g hg) (h.probe g hg) (h.slots g hg)

end Seam

/-! ## The trace -/

/-- The frames of the scan climb. -/
theorem outcome_climbs (ctx : Context) :
    ∃ hi, (outcome ctx).1.Climbs ctx 0 ((outcome ctx).1.rollbackFloor - 1) hi := by
  have hnone : (beforeScan ctx).1.stack.callers.drop ((beforeScan ctx).1.rollbackFloor - 1) = [] := by
    exact List.drop_of_length_le (Nat.le_of_eq (FrameStack.length_callers _))
  have hstart (hi : Nat) :
      (beforeScan ctx).1.Climbs ctx 0 ((beforeScan ctx).1.rollbackFloor - 1) hi := by
    refine ⟨beforeScan_isJustified ctx, beforeScan_hasFloor ctx, ?_⟩
    rw [hnone]
    exact climbs_nil ctx.word (Nat.zero_le _)
  cases honward : (beforeScan ctx).2 with
  | stop status =>
      rw [outcome_stop honward]
      exact ⟨0, hstart 0⟩
  | scan cursor =>
      rw [outcome_scan honward]
      exact climbs_run (k := fun n => n - 1) (fun n => Nat.le_refl _) (Or.inl rfl)
        (hstart cursor.toNat)

/-- If the scan starts in order, it starts above all callers. -/
theorem Orderly.climbs_beforeScan {ctx : Context} (h : Orderly ctx) {cursor : Address}
    (honward : (beforeScan ctx).2 = .scan cursor) :
    (beforeScan ctx).1.Climbs ctx ctx.registers.sp.toNat 0 cursor.toNat := by
  obtain ⟨hsp, htop⟩ := h.start cursor honward
  exact ⟨beforeScan_isJustified ctx, beforeScan_hasFloor ctx,
    h.climbs (Address.le_iff_toNat.mp hsp) htop⟩

/-- If the scan starts in order, all callers climb. -/
theorem Orderly.outcome_climbs {ctx : Context} (h : Orderly ctx) :
    ∃ hi, (outcome ctx).1.Climbs ctx ctx.registers.sp.toNat 0 hi := by
  cases honward : (beforeScan ctx).2 with
  | stop status =>
      rw [outcome_stop honward]
      -- without a scan the bound need not be an address
      refine ⟨0x1_0000_0000_0000_0000 + ctx.word.toNat, beforeScan_isJustified ctx,
        beforeScan_hasFloor ctx, ?_⟩
      refine h.climbs ?_ ?_
      · have hsp := ctx.registers.sp.toNat_lt
        omega
      · intro f hf
        have hcursor := f.cursor.toNat_lt
        cases hslot : f.returnSlot with
        | none =>
            rw [top_of_none hslot]
            omega
        | some slot =>
            have hlt := slot.toNat_lt
            rw [top_of_slot hslot]
            omega
  | scan cursor =>
      rw [outcome_scan honward]
      exact climbs_run (k := fun _ => 0) (fun _ => Nat.zero_le _) (Or.inr ⟨rfl, fun _ => rfl⟩)
        (h.climbs_beforeScan honward)

/-- The frames below the floor come from before the scan. -/
theorem outcome_early (ctx : Context) :
    ((outcome ctx).1.stack.callers.take ((outcome ctx).1.rollbackFloor - 1)).Pairwise
      (Precedes ctx) := by
  have hstart : ((beforeScan ctx).1.stack.callers.take ((beforeScan ctx).1.rollbackFloor - 1)).Pairwise
      (Precedes ctx) :=
    (precede_addChain ctx).order.sublist (List.take_sublist _ _)
  -- the floor is carried along, because it is what keeps the scan off these callers
  have hend : (outcome ctx).1.HasFloor ctx ∧
      ((outcome ctx).1.stack.callers.take ((outcome ctx).1.rollbackFloor - 1)).Pairwise
        (Precedes ctx) :=
    outcome_of_beforeScan
      (Q := fun s : State => s.HasFloor ctx ∧
        (s.stack.callers.take (s.rollbackFloor - 1)).Pairwise (Precedes ctx))
      ⟨beforeScan_hasFloor ctx, hstart⟩
      fun _ _ h hround => ⟨h.1.scans hround, h.2.sublist (h.1.kept_scans hround)⟩
  exact hend.2

/-- Of the frames at the end of the walk, frame 0 is reported with the first callers, or nothing is. -/
theorem run_frames_cases (ctx : Context) :
    (run ctx).frames = [] ∨
      ∃ f₀ callers, f₀.cursor = ctx.registers.sp ∧
        callers <+: (outcome ctx).1.stack.callers ∧ (run ctx).frames = f₀ :: callers := by
  have hjustified := (outcome_isJustified ctx).stack
  obtain ⟨f₀, hf₀⟩ := FrameStack.exists_innermost hjustified.pos
  have hcursor := (hjustified.innermost f₀ hf₀).cursor
  have hall : (outcome ctx).1.stack.frames.toList = f₀ :: (outcome ctx).1.stack.callers := by
    rw [FrameStack.toList_frames, hf₀]
    rfl
  have hreported : reported ctx.limits (outcome ctx).1.stack.frames.toList = [] ∨
      ∃ callers, callers <+: (outcome ctx).1.stack.callers ∧
        reported ctx.limits (outcome ctx).1.stack.frames.toList = f₀ :: callers := by
    rw [hall]
    unfold reported
    cases ctx.limits.maxFrames with
    | none => exact Or.inr ⟨_, List.prefix_rfl, rfl⟩
    | some max =>
        dsimp only
        cases max.toNat with
        | zero => exact Or.inl rfl
        | succ n => exact Or.inr ⟨_, List.take_prefix n _, rfl⟩
  unfold run
  split
  · exact Or.inl rfl
  · rcases hreported with hnone | ⟨callers, hkept, hframes⟩
    · exact Or.inl hnone
    · exact Or.inr ⟨f₀, callers, hcursor, hkept, hframes⟩

theorem kept_eq (ctx : Context) : ctx.kept = (outcome ctx).1.rollbackFloor - 1 + 1 := by
  obtain ⟨hi, h⟩ := outcome_climbs ctx
  have hpos := h.floor.registers.pos
  have hfloor := h.floor.floor
  unfold Context.kept
  omega

/-- **The frames of the scan are always in order, and a trace is exactly if the frames before the scan
are, in themselves and with those of the scan**; it is if the scan starts in order. -/
theorem run_inOrder (ctx : Context) :
    ((run ctx).frames.drop ctx.kept).Pairwise (fun f g => f.cursor ≤ g.cursor ∧ SlotsDiffer f g) ∧
      (InOrder (run ctx).frames ↔ Seamless ctx ctx.kept (run ctx).frames) ∧
      (Orderly ctx → InOrder (run ctx).frames) := by
  rcases run_frames_cases ctx with hnone | ⟨f₀, callers, hcursor, hkept, hframes⟩
  · have hnil : InOrder [] := ⟨List.Pairwise.nil, List.Pairwise.nil⟩
    rw [hnone, kept_eq]
    refine ⟨List.Pairwise.nil, ⟨fun _ => ?_, fun _ => hnil⟩, fun _ => hnil⟩
    exact ⟨fun f hf => absurd hf List.not_mem_nil, List.Pairwise.nil,
      fun f hf => absurd hf List.not_mem_nil, fun f hf => absurd hf List.not_mem_nil⟩
  · obtain ⟨hi, hclimbs⟩ := outcome_climbs ctx
    have hlate : (callers.drop ((outcome ctx).1.rollbackFloor - 1)).Pairwise (Below ctx.word) :=
      hclimbs.climbs.order.sublist (hkept.drop _).sublist
    rw [hframes, kept_eq]
    refine ⟨hlate.imp fun h => ⟨h.cursor, h.slot⟩, ?_, ?_⟩
    · exact inOrder_iff_seamless hcursor ((outcome_early ctx).sublist (hkept.take _).sublist) hlate
    · intro horderly
      obtain ⟨hi, h⟩ := horderly.outcome_climbs
      exact Climbs.inOrder hcursor (h.climbs.sublist hkept.sublist)

/-- Without a frame pointer that can be believed the scan always starts in order. -/
theorem orderly_of_no_pointer {ctx : Context} (h : ctx.livePointer? = none) : Orderly ctx := by
  have hbefore := beforeScan_of_no_pointer h
  have hregisters := (State.fromRegisters_start ctx).2
  refine ⟨?_, ?_, ?_⟩
  · rw [hbefore]
    intro f hf
    rw [(hregisters f hf).1]
    exact Address.le_refl _
  · rw [hbefore]
    intro f hf slot hslot
    rw [(hregisters f hf).2] at hslot
    cases hslot
  · rw [hbefore]
    intro cursor hcursor
    obtain rfl : ctx.registers.sp = cursor := Onward.scan.inj hcursor
    refine ⟨Address.le_refl _, ?_⟩
    intro f hf
    exact Nat.le_of_eq
      ((top_of_none (hregisters f hf).2).trans (congrArg Address.toNat (hregisters f hf).1))

/-- A thread in `compute` with two words on its stack: a stale return address into `main`, and above it
that of the call of `compute`.  The frame pointer is just above them and points to no frame. -/
def leafWithoutLink : Context where
  arch := .x86_64
  target := Tables.target
    { images := [(⟨"app"⟩, .main, 0x400000, 0x410000)]
      routines := [("main", 0x401000, 0x100), ("dispatch", 0x401100, 0x100), ("handle", 0x401200, 0x100),
        ("compute", 0x401300, 0x100)]
      code := [(0x401010, ⟨5, "call 0x401100"⟩), (0x401210, ⟨5, "call 0x401300"⟩)]
      words := [(0x7FFE0000, 0x401015), (0x7FFE0008, 0x401215)] }
  registers := (Registers.ofPcSp ⟨0x401310⟩ ⟨0x7FFE0000⟩).withFp ⟨0x7FFE0030⟩
  limits := { Limits.standard with stackBase := some ⟨0x7FFE0030⟩ }

/-- The probe accepts the upper word, the chain confirms no link, and the scan accepts both words again
from the stack pointer on. -/
theorem leafWithoutLink_not_inOrder : ¬ InOrder (run leafWithoutLink).frames := by
  decide +kernel

/-- Without its frame pointer the same thread has a trace in order. -/
theorem leafWithoutPointer_inOrder :
    InOrder (run { leafWithoutLink with
      registers := .ofPcSp ⟨0x401310⟩ ⟨0x7FFE0000⟩ }).frames :=
  (run_inOrder _).2.2 (orderly_of_no_pointer rfl)

end StackWalk.Walk

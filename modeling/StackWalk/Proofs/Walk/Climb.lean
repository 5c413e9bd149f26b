import StackWalk.Proofs.Address
import StackWalk.Proofs.Walk.Evidence
import StackWalk.Proofs.Walk.Floor

/-!
# StackWalk.Proofs.Walk.Climb — the scan only climbs

The evidence for a frame ends at its `top`: one word above its slot, or at its cursor where it has none.
The scan looks at the slots above the tops of the frames that it has added, and a recovery lets it go on
at the top of the newest frame that is left, so among themselves these frames lie one above the other.

`Climbs` says this of a list of frames between two bounds.  It is kept for the callers behind the first
`k` of them, where `k` is either the number of those that the scan has not added, or nothing.
-/

namespace StackWalk.Walk

/-- No slot is the evidence for both frames. -/
def SlotsDiffer (f g : Frame) : Prop :=
  ∀ slot, f.returnSlot = some slot → g.returnSlot ≠ some slot

/-- Where the evidence for a frame ends; this is no address if the slot is the last one of all. -/
def Top (word : UInt64) (f : Frame) : Nat :=
  (f.returnSlot.map fun slot => slot.toNat + word.toNat).getD f.cursor.toNat

theorem top_of_slot {word : UInt64} {f : Frame} {slot : Address} (h : f.returnSlot = some slot) :
    Top word f = slot.toNat + word.toNat := by
  unfold Top
  rw [h]
  rfl

theorem top_of_none {word : UInt64} {f : Frame} (h : f.returnSlot = none) :
    Top word f = f.cursor.toNat := by
  unfold Top
  rw [h]
  rfl

/-- The evidence for a frame lies between two bounds. -/
structure Within (word : UInt64) (lo hi : Nat) (f : Frame) : Prop where
  lo : lo ≤ f.cursor.toNat
  top : f.cursor.toNat ≤ Top word f
  hi : Top word f ≤ hi
  link : f.fromLinkRegister = true → f.returnSlot = none

/-- The evidence for one frame does not lie below that for another, and the two do not share it. -/
structure Below (word : UInt64) (f g : Frame) : Prop where
  cursor : f.cursor ≤ g.cursor
  top : Top word f ≤ Top word g
  slot : SlotsDiffer f g

/-- The evidence for the frames climbs from one bound to another. -/
structure Climbs (word : UInt64) (lo : Nat) (frames : List Frame) (hi : Nat) : Prop where
  le : lo ≤ hi
  within : ∀ f ∈ frames, Within word lo hi f
  order : frames.Pairwise (Below word)

section Climbs

variable {word : UInt64} {lo hi : Nat} {frames : List Frame} {f : Frame}

theorem climbs_nil (word : UInt64) (h : lo ≤ hi) : Climbs word lo [] hi :=
  ⟨h, fun _ hf => absurd hf List.not_mem_nil, List.Pairwise.nil⟩

theorem Climbs.mono (h : Climbs word lo frames hi) {hi' : Nat} (hle : hi ≤ hi') :
    Climbs word lo frames hi' where
  le := Nat.le_trans h.le hle
  within f hf := { h.within f hf with hi := Nat.le_trans (h.within f hf).hi hle }
  order := h.order

/-- The evidence for a frame that is found at the upper bound is at the cursor. -/
structure FoundAt (hi : Nat) (f : Frame) : Prop where
  cursor : f.cursor.toNat = hi
  slot : f.returnSlot = none ∨ f.returnSlot = some f.cursor
  link : f.fromLinkRegister = true → f.returnSlot = none

theorem FoundAt.le_top (h : FoundAt hi f) (word : UInt64) : hi ≤ Top word f := by
  have hcursor := h.cursor
  rcases h.slot with hslot | hslot
  · rw [top_of_none hslot]
    omega
  · rw [top_of_slot hslot]
    omega

theorem FoundAt.top_le (h : FoundAt hi f) (word : UInt64) : Top word f ≤ hi + word.toNat := by
  have hcursor := h.cursor
  rcases h.slot with hslot | hslot
  · rw [top_of_none hslot]
    omega
  · rw [top_of_slot hslot]
    omega

/-- A frame that is found at the upper bound goes on top. -/
theorem Climbs.push (h : Climbs word lo frames hi) (hword : 0 < word.toNat) (hf : FoundAt hi f) :
    Climbs word lo (frames ++ [f]) (Top word f) where
  le := Nat.le_trans h.le (hf.le_top word)
  within g hg := by
    rcases List.mem_append.mp hg with hg | hg
    · exact { h.within g hg with hi := Nat.le_trans (h.within g hg).hi (hf.le_top word) }
    · obtain rfl := List.mem_singleton.mp hg
      have hcursor := hf.cursor
      have hle := h.le
      have htop := hf.le_top word
      exact ⟨by omega, by omega, Nat.le_refl _, hf.link⟩
  order := by
    refine List.pairwise_append.mpr ⟨h.order, List.pairwise_singleton _ _, ?_⟩
    intro g hg g' hg'
    obtain rfl := List.mem_singleton.mp hg'
    have hcursor := hf.cursor
    have hwithin := h.within g hg
    refine ⟨?_, Nat.le_trans hwithin.hi (hf.le_top word), ?_⟩
    · rw [Address.le_iff_toNat, hcursor]
      exact Nat.le_trans hwithin.top hwithin.hi
    · intro slot hslot hslot'
      -- a shared slot would be the cursor, but the evidence for `g` ends there
      have hsame : some slot = some g'.cursor := by
        rcases hf.slot with hnone | hsome
        · rw [hnone] at hslot'
          cases hslot'
        · rw [← hslot', hsome]
      have htop := hwithin.hi
      rw [top_of_slot hslot, Option.some.inj hsame] at htop
      omega

theorem Climbs.sublist (h : Climbs word lo frames hi) {kept : List Frame} (hkept : kept.Sublist frames) :
    Climbs word lo kept hi where
  le := h.le
  within f hf := h.within f (hkept.subset hf)
  order := h.order.sublist hkept

/-- The newest frame has the highest top. -/
theorem Climbs.tight (h : Climbs word lo (frames ++ [f]) hi) :
    Climbs word lo (frames ++ [f]) (Top word f) := by
  have hnewest := h.within f (by simp)
  have htops : ∀ g ∈ frames ++ [f], Top word g ≤ Top word f := by
    intro g hg
    rcases List.mem_append.mp hg with hg | hg
    · exact ((List.pairwise_append.mp h.order).2.2 g hg f (List.mem_singleton_self f)).top
    · exact Nat.le_of_eq (congrArg (Top word) (List.mem_singleton.mp hg))
  exact
    { le := Nat.le_trans hnewest.lo hnewest.top
      within := fun g hg => { h.within g hg with hi := htops g hg }
      order := h.order }

end Climbs

/-! ## Where a recovery goes on -/

section Resume

variable (ctx : Context) {s : State}

/-- Above a caller the scan goes on at its top. -/
theorem resumePoint_of_callers {rest : List Frame} {f : Frame} (h : s.stack.callers = rest ++ [f])
    (hlink : f.fromLinkRegister = true → f.returnSlot = none)
    (hfit : Top ctx.word f < 0x1_0000_0000_0000_0000) :
    (s.resumePoint ctx).toNat = Top ctx.word f := by
  have hlast : s.stack.last? = some f := by
    rw [FrameStack.last?_eq, h, List.getLast?_concat]
    rfl
  have hmore : 1 < s.stack.size := by
    have hlen := s.stack.length_callers
    rw [h, List.length_append, List.length_singleton] at hlen
    omega
  unfold State.resumePoint
  rw [hlast]
  dsimp only
  cases hslot : f.returnSlot with
  | none =>
      rw [top_of_none hslot]
      split <;> rfl
  | some slot =>
      have hnot : f.fromLinkRegister = false := by
        cases hf : f.fromLinkRegister with
        | false => rfl
        | true =>
            rw [hlink hf] at hslot
            cases hslot
      rw [top_of_slot hslot] at hfit ⊢
      rw [hnot, decide_eq_true hmore]
      exact Address.toNat_add_of_lt hfit

/-- Above frame 0 alone it goes on at the cursor of that. -/
theorem resumePoint_of_alone {f : Frame} (hcallers : s.stack.callers = [])
    (hinnermost : s.stack.innermost? = some f) : s.resumePoint ctx = f.cursor := by
  have hlast : s.stack.last? = some f := by
    rw [FrameStack.last?_eq, hcallers, hinnermost]
    rfl
  have hone : s.stack.size ≤ 1 := by
    have hlen := s.stack.length_callers
    rw [hcallers, List.length_nil] at hlen
    omega
  unfold State.resumePoint
  rw [hlast]
  dsimp only
  rw [decide_eq_false (Nat.not_lt.mpr hone)]
  rfl

end Resume

/-! ## The invariant of the scan -/

namespace Context

theorem foundAt_callFrame (ctx : Context) (call : Call) (value cursor : Address) :
    FoundAt cursor.toNat (ctx.callFrame call value cursor cursor) :=
  ⟨rfl, Or.inr rfl, fun h => by cases h⟩

/-- The frame of a tail call has its evidence at the cursor, without a slot. -/
theorem foundAt_branchFrame {ctx : Context} {cursor below : Address} {callee : Callee}
    {branch : Frame} (h : ctx.branchFrame? cursor callee below = some branch) :
    FoundAt cursor.toNat branch ∧ branch.returnSlot = none := by
  obtain ⟨hcursor, -, i, target, hslot, -⟩ := branchFrame?_eq_some h
  exact ⟨⟨congrArg Address.toNat hcursor, Or.inl hslot, fun _ => hslot⟩, hslot⟩

end Context

/-- The callers of a state, from the `k`th on, climb up to a bound. -/
structure State.Climbs (ctx : Context) (lo k : Nat) (s : State) (hi : Nat) : Prop where
  justified : s.IsJustified ctx
  floor : s.HasFloor ctx
  climbs : Walk.Climbs ctx.word lo (s.stack.callers.drop k) hi

section Scan

variable {ctx : Context} {s s' : State} {lo hi k : Nat}

theorem State.HasFloor.le_callers (h : s.HasFloor ctx) :
    s.rollbackFloor - 1 ≤ s.stack.callers.length := by
  have hsize := h.above.size
  rw [FrameStack.length_callers]
  omega

theorem climbs_accept (hpos : 0 < s.stack.size) (hk : k ≤ s.stack.callers.length)
    (h : Climbs ctx.word lo (s.stack.callers.drop k) hi) {f : Frame} (hf : FoundAt hi f) :
    k ≤ (s.accept ctx f).stack.callers.length ∧
      Climbs ctx.word lo ((s.accept ctx f).stack.callers.drop k) (Top ctx.word f) := by
  rcases stack_accept_cases ctx s f with hstack | hstack
  · rw [hstack]
    exact ⟨hk, h.mono (hf.le_top ctx.word)⟩
  · rw [hstack, FrameStack.callers_backfill, FrameStack.callers_append _ hpos,
      List.drop_append_of_le_length hk, List.length_append]
    exact ⟨by omega, h.push ctx.word_pos hf⟩

theorem State.Climbs.looks {cursor : Address} (h : s.Climbs ctx lo k cursor.toNat)
    (hk : k ≤ s.rollbackFloor - 1) (hround : Looks ctx s cursor s') :
    s'.Climbs ctx lo k (cursor.toNat + ctx.word.toNat) := by
  refine ⟨h.justified.looks hround, h.floor.looks hround, ?_⟩
  have hk : k ≤ s.stack.callers.length := Nat.le_trans hk h.floor.le_callers
  have hpos : 0 < s.stack.size := h.justified.stack.pos
  cases hround with
  | counted t => exact h.climbs.mono (Nat.le_add_right _ _)
  | @call value call hshows hfree t t' =>
      have hfound := ctx.foundAt_callFrame call value cursor
      exact (climbs_accept (s := s.setTally t) hpos hk h.climbs hfound).2.mono
        (hfound.top_le ctx.word)
  | @behind value call below branch hshows hfree hbelow hbranch t t' =>
      obtain ⟨hfound, hslot⟩ := Context.foundAt_branchFrame hbranch
      obtain ⟨hk', hclimbs⟩ := climbs_accept (s := s.setTally t) hpos hk h.climbs hfound
      -- the tail call takes no room, so the call is found at the same bound
      rw [top_of_none hslot, hfound.cursor] at hclimbs
      have hpos' := pos_accept (s := s.setTally t) ctx hpos branch
      have hcall := ctx.foundAt_callFrame call value cursor
      exact (climbs_accept hpos' hk' hclimbs hcall).2.mono (hcall.top_le ctx.word)

theorem State.Climbs.setTally (h : s.Climbs ctx lo k hi) (t : Tally) :
    (s.setTally t).Climbs ctx lo k hi :=
  ⟨h.justified.setTally t, h.floor.setTally t, h.climbs⟩

theorem climbs_rollBack (h : s.Climbs ctx lo k hi) (hfit : hi < 0x1_0000_0000_0000_0000)
    (hlo : lo = 0 ∨ lo = ctx.registers.sp.toNat ∧ k = 0) (site : Address) :
    Climbs ctx.word lo ((s.rollBack ctx site).stack.callers.drop k)
      ((s.rollBack ctx site).resumePoint ctx).toNat := by
  have hsub : ((s.rollBack ctx site).stack.callers.drop k).Sublist (s.stack.callers.drop k) := by
    rw [State.stack_rollBack, FrameStack.callers_rollback, List.drop_take]
    exact List.take_sublist _ _
  have hkept := h.climbs.sublist hsub
  -- either the newest caller that is left gives the bound, or the scan goes back to frame 0
  rcases List.eq_nil_or_concat ((s.rollBack ctx site).stack.callers.drop k) with
    hnil | ⟨rest, f, hconcat⟩
  · rw [hnil]
    apply climbs_nil
    rcases hlo with rfl | ⟨rfl, rfl⟩
    · exact Nat.zero_le _
    · have hjustified : (s.rollBack ctx site).stack.IsJustified ctx := by
        rw [State.stack_rollBack]
        exact h.justified.stack.rollback
      obtain ⟨f, hf⟩ := FrameStack.exists_innermost hjustified.pos
      have hresume := (resumePoint_of_alone ctx hnil hf).trans (hjustified.innermost f hf).cursor
      exact Nat.le_of_eq (congrArg Address.toNat hresume).symm
  · rw [List.concat_eq_append] at hconcat
    rw [hconcat] at hkept ⊢
    have hcallers : (s.rollBack ctx site).stack.callers =
        ((s.rollBack ctx site).stack.callers.take k ++ rest) ++ [f] := by
      rw [List.append_assoc, ← hconcat, List.take_append_drop]
    have hnewest := hkept.within f (by simp)
    have hresume := resumePoint_of_callers ctx hcallers hnewest.link
      (Nat.lt_of_le_of_lt hnewest.hi hfit)
    rw [hresume]
    exact hkept.tight

/-- The frames that the registers show take no room at all. -/
theorem climbs_start (ctx : Context) (hlo : lo ≤ ctx.registers.sp.toNat) :
    Climbs ctx.word lo (State.start ctx).stack.callers ctx.registers.sp.toNat := by
  rcases State.start_cases ctx with ⟨t, h⟩ | ⟨lr, call, t, -, -, h⟩
  · rw [h]
    exact climbs_nil ctx.word hlo
  · have hfound : FoundAt ctx.registers.sp.toNat (ctx.linkFrame call lr) :=
      ⟨rfl, Or.inl rfl, fun _ => rfl⟩
    have halone : Climbs ctx.word lo
        (((State.initial.addInnermost ctx).setTally t).stack.callers.drop 0)
        ctx.registers.sp.toNat := climbs_nil ctx.word hlo
    have hpos : 0 < ((State.initial.addInnermost ctx).setTally t).stack.size := Nat.one_pos
    have hlink := (climbs_accept hpos (Nat.zero_le _) halone hfound).2
    rw [h]
    exact hlink

end Scan

/-! ## The whole scan -/

section Run

variable {ctx : Context} {lo : Nat} {k : Nat → Nat}

/-- A round of the scan keeps its frames below its cursor.  The number `k` of callers that are left out of
account may depend on the floor of the rollbacks, which a restart lowers. -/
theorem climbs_next (hk : ∀ n, k n ≤ n - 1)
    (hlo : lo = 0 ∨ lo = ctx.registers.sp.toNat ∧ ∀ n, k n = 0) {s s' : StackScan}
    (h : s.state.Climbs ctx lo (k s.state.rollbackFloor) s.cursor.toNat)
    (hround : StackScan.round ctx s = .next s') :
    s'.state.Climbs ctx lo (k s'.state.rollbackFloor) s'.cursor.toNat := by
  have hscans := StackScan.scans_of_next hround
  rcases StackScan.next_cases hround with ⟨-, hlooks, hnext⟩ | ⟨-, hrecovers⟩
  · -- the cursor is one word up, and it has not wrapped around
    rw [Address.toNat_of_above? hnext, hlooks.steady.rollbackFloor]
    exact h.looks (hk _) hlooks
  · refine ⟨h.justified.scans hscans, h.floor.scans hscans, ?_⟩
    obtain ⟨state', cursor', unreadable'⟩ := s'
    dsimp only at hrecovers ⊢
    cases hrecovers with
    | restarted hfew hnot t =>
        -- the scan starts again at the stack pointer, above the frames from the registers alone
        have hle : lo ≤ ctx.registers.sp.toNat := by
          rcases hlo with rfl | ⟨rfl, -⟩
          · exact Nat.zero_le _
          · exact Nat.le_refl _
        rw [State.stack_backToRegisters, FrameStack.callers_truncate]
        refine Climbs.sublist ?_ (List.drop_sublist _ _)
        exact h.floor.registers.callers ▸ climbs_start ctx hle
    | @rolledBack site hmore hsite hfree t =>
        rw [State.rollbackFloor_rollBack]
        have hcounted := h.setTally t
        refine climbs_rollBack hcounted s.cursor.toNat_lt ?_ site
        rcases hlo with h | ⟨h, hnone⟩
        · exact Or.inl h
        · exact Or.inr ⟨h, hnone _⟩

/-- A round that ends the scan leaves its frames below some bound. -/
theorem climbs_done (hk : ∀ n, k n ≤ n - 1) {s : StackScan} {r : State × Status}
    (h : s.state.Climbs ctx lo (k s.state.rollbackFloor) s.cursor.toNat)
    (hround : StackScan.round ctx s = .done r) :
    ∃ hi, r.1.Climbs ctx lo (k r.1.rollbackFloor) hi := by
  have hlooks := StackScan.looks_of_done hround
  rw [hlooks.steady.rollbackFloor]
  exact ⟨_, h.looks (hk _) hlooks⟩

/-- What is below the cursor at the start of a scan is below some bound at its end. -/
theorem climbs_run (hk : ∀ n, k n ≤ n - 1)
    (hlo : lo = 0 ∨ lo = ctx.registers.sp.toNat ∧ ∀ n, k n = 0) {s : State} {cursor : Address}
    (h : s.Climbs ctx lo (k s.rollbackFloor) cursor.toNat) :
    ∃ hi, (StackScan.run ctx s cursor).1.Climbs ctx lo
      (k (StackScan.run ctx s cursor).1.rollbackFloor) hi :=
  iterate_induction
    (P := fun s : StackScan => s.state.Climbs ctx lo (k s.state.rollbackFloor) s.cursor.toNat)
    (Q := fun r : State × Status => ∃ hi, r.1.Climbs ctx lo (k r.1.rollbackFloor) hi)
    (fun _ _ h hround => climbs_next hk hlo h hround) (fun _ _ h hround => climbs_done hk h hround)
    (fun s h => ⟨s.cursor.toNat, h⟩) _ h

end Run

end StackWalk.Walk

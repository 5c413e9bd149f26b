import StackWalk.Proofs.Tables
import StackWalk.Proofs.Walk.Budget

/-!
# StackWalk.Proofs.Walk.Halting — which walks end

From the chain on the iteration budget ends every walk.  The probe for a function without a frame asks for
no budget: it looks at one slot after the other until it comes to its end, which is never beyond the last
address.  Its cursor wraps around, so where no slot in step with the stack pointer lies at or above that
end, the probe goes round for ever, unless some slot shows a frame.

`returns_iff` says when a walk returns, and when the probe looks at no more words than lie within its
distance: if the slots below the last address reach its end, or a slot shows a frame, in time for the
second.  More than a few words below the last address they always reach it.
-/

namespace StackWalk.Walk

namespace Context

/-- The slot that the probe looks at after so many others. -/
def probeSlot (ctx : Context) (k : Nat) : Address :=
  .ofNat (ctx.registers.sp.toNat + k * ctx.word.toNat)

/-- How many words lie within the distance of the probe, if the last one is counted in full. -/
def probeLimit (ctx : Context) : Nat :=
  (leafBytes.toNat + ctx.word.toNat - 1) / ctx.word.toNat

/-- The last slot in step with the stack pointer is not below the end of the probe. -/
def ProbeFits (ctx : Context) (fp : Address) : Prop :=
  (ctx.leafEnd fp).toNat ≤
    0x1_0000_0000_0000_0000 - ctx.word.toNat + ctx.registers.sp.toNat % ctx.word.toNat

/-- The slot that the probe looks at after `k` others shows a frame. -/
def LeafAt (ctx : Context) (k : Nat) : Prop :=
  (ctx.leafFrameAt (ctx.probeSlot k)).1.isSome = true

/-- After `k` slots the probe has come to its end, or finds a frame. -/
def ProbeStops (ctx : Context) (fp : Address) (k : Nat) : Prop :=
  ¬ ctx.probeSlot k < ctx.leafEnd fp ∨ ctx.LeafAt k

instance (ctx : Context) (fp : Address) (k : Nat) : Decidable (ctx.ProbeStops fp k) :=
  inferInstanceAs (Decidable (¬ _ < _ ∨ _ = true))

/-- In the round after `n` others the probe looks at a word. -/
def Examines (ctx : Context) (n : Nat) : Prop :=
  ∃ fp p, phaseAt ctx n = .probing fp p ∧ p.cursor < ctx.leafEnd fp

/-! ## The slots of the probe -/

theorem toNat_probeSlot (ctx : Context) (k : Nat) :
    (ctx.probeSlot k).toNat = (ctx.registers.sp.toNat + k * ctx.word.toNat) % 0x1_0000_0000_0000_0000 :=
  UInt64.toNat_ofNat'

theorem probeSlot_zero (ctx : Context) : ctx.probeSlot 0 = ctx.registers.sp := by
  rw [← Address.toNat_inj, toNat_probeSlot, Nat.zero_mul, Nat.add_zero,
    Nat.mod_eq_of_lt ctx.registers.sp.toNat_lt]

theorem probeSlot_succ (ctx : Context) (k : Nat) :
    ctx.probeSlot (k + 1) = ctx.slotAbove (ctx.probeSlot k) := by
  unfold slotAbove
  rw [← Address.toNat_inj, Address.toNat_add, toNat_probeSlot, toNat_probeSlot, Nat.mod_add_mod,
    Nat.add_assoc, Nat.succ_mul]

/-- After as many slots as there are addresses the probe is where it was. -/
theorem probeSlot_mod (ctx : Context) (k : Nat) :
    ctx.probeSlot (k % 0x1_0000_0000_0000_0000) = ctx.probeSlot k := by
  rw [← Address.toNat_inj, toNat_probeSlot, toNat_probeSlot, Nat.add_mod, Nat.mod_mul_mod,
    ← Nat.add_mod]

variable {ctx : Context} {fp : Address}

/-- Where the slots do not fit, all of them are below the end. -/
theorem probeSlot_lt_of_not_fits (h : ¬ ctx.ProbeFits fp) (k : Nat) :
    ctx.probeSlot k < ctx.leafEnd fp := by
  unfold ProbeFits at h
  rw [Address.lt_iff_toNat, toNat_probeSlot]
  rcases ctx.toNat_word with hword | hword <;> rw [hword] at h ⊢ <;> omega

/-- Where they fit, the probe comes to its end before it wraps around. -/
theorem ProbeFits.exists_end (h : ctx.ProbeFits fp) :
    ∃ k, (ctx.leafEnd fp).toNat ≤ ctx.registers.sp.toNat + k * ctx.word.toNat ∧
      ctx.registers.sp.toNat + k * ctx.word.toNat < 0x1_0000_0000_0000_0000 := by
  have hsp := ctx.registers.sp.toNat_lt
  unfold ProbeFits at h
  rcases ctx.toNat_word with hword | hword <;> rw [hword] at h ⊢
  · exact ⟨(0x1_0000_0000_0000_0000 - 1 - ctx.registers.sp.toNat) / 4, by omega, by omega⟩
  · exact ⟨(0x1_0000_0000_0000_0000 - 1 - ctx.registers.sp.toNat) / 8, by omega, by omega⟩

/-- The words within the distance of the probe lie below the last address, and so does the one behind
them. -/
def HasRoom (ctx : Context) : Prop :=
  ctx.registers.sp.toNat + leafBytes.toNat + ctx.word.toNat < 0x1_0000_0000_0000_0000

instance (ctx : Context) : Decidable ctx.HasRoom :=
  inferInstanceAs (Decidable (_ < _))

/-- More than a few words below the last address the slots always fit. -/
theorem HasRoom.probeFits (h : ctx.HasRoom) (fp : Address) : ctx.ProbeFits fp := by
  unfold HasRoom at h
  unfold ProbeFits
  rw [toNat_leafEnd]
  omega

/-- Within its limit the probe comes to its end, if it does so before it wraps around. -/
theorem ProbeFits.exists_end_le (h : ctx.ProbeFits fp) :
    ∃ k ≤ ctx.probeLimit, ¬ ctx.probeSlot k < ctx.leafEnd fp := by
  obtain ⟨k, hend, hlt⟩ := h.exists_end
  have hdistance : (ctx.leafEnd fp).toNat ≤ ctx.registers.sp.toNat + leafBytes.toNat := by
    rw [toNat_leafEnd]
    omega
  have hlimit : leafBytes.toNat ≤ ctx.probeLimit * ctx.word.toNat := by
    unfold probeLimit
    rcases ctx.toNat_word with hword | hword <;> rw [hword] <;> decide
  -- no slot up to the `k`th has wrapped around, so the smaller of the two numbers will do
  rcases Nat.le_total k ctx.probeLimit with hle | hle
  · refine ⟨k, hle, ?_⟩
    rw [Address.lt_iff_toNat, toNat_probeSlot, Nat.mod_eq_of_lt hlt]
    omega
  · have hmul := Nat.mul_le_mul_right ctx.word.toNat hle
    refine ⟨ctx.probeLimit, Nat.le_refl _, ?_⟩
    rw [Address.lt_iff_toNat, toNat_probeSlot, Nat.mod_eq_of_lt (by omega)]
    omega

theorem exists_stop_iff : (∃ k, ctx.ProbeStops fp k) ↔ ctx.ProbeFits fp ∨ ∃ k, ctx.LeafAt k := by
  constructor
  · rintro ⟨k, hend | hleaf⟩
    · by_cases hfits : ctx.ProbeFits fp
      · exact Or.inl hfits
      · exact absurd (probeSlot_lt_of_not_fits hfits k) hend
    · exact Or.inr ⟨k, hleaf⟩
  · rintro (hfits | ⟨k, hleaf⟩)
    · obtain ⟨k, hend, hlt⟩ := hfits.exists_end
      refine ⟨k, Or.inl ?_⟩
      rw [Address.lt_iff_toNat, toNat_probeSlot, Nat.mod_eq_of_lt hlt]
      omega
    · exact ⟨k, Or.inr hleaf⟩

/-- If the probe stops at all, it does so before it has looked at every address. -/
theorem exists_stop_lt (h : ∃ k, ctx.ProbeStops fp k) :
    ∃ k < 0x1_0000_0000_0000_0000, ctx.ProbeStops fp k := by
  obtain ⟨k, hk⟩ := h
  refine ⟨k % 0x1_0000_0000_0000_0000, Nat.mod_lt _ (by omega), ?_⟩
  unfold ProbeStops LeafAt at hk ⊢
  rw [probeSlot_mod]
  exact hk

end Context

/-! ## The rounds of the probe -/

section Probe

variable {ctx : Context} {fp : Address}

/-- As long as nothing stops it, the probe goes on to the next slot. -/
theorem probing_of_not_stops (hfp : ctx.livePointer? = some fp) {n : Nat}
    (h : ∀ k < n, ¬ ctx.ProbeStops fp k) :
    ∃ s, phaseAt ctx n = .probing fp ⟨s, ctx.probeSlot n⟩ := by
  induction n with
  | zero =>
      refine ⟨State.start ctx, ?_⟩
      rw [phaseAt_zero, Context.probeSlot_zero]
      unfold Phase.first
      rw [hfp]
  | succ n ih =>
      obtain ⟨s, hs⟩ := ih fun k hk => h k (Nat.lt_succ_of_lt hk)
      obtain ⟨hlt, hleaf⟩ := not_or.mp (h n (Nat.lt_succ_self n))
      rw [phaseAt_succ, hs, Context.probeSlot_succ]
      have hnone : (ctx.leafFrameAt (ctx.probeSlot n)).1 = none :=
        Option.not_isSome_iff_eq_none.mp hleaf
      obtain ⟨counter, hround⟩ := LeafProbe.round_of_nothing (p := ⟨s, ctx.probeSlot n⟩)
        (not_not.mp hlt) hnone
      exact ⟨_, Phase.step_probing_next hround⟩

/-- The probe has come to a round only if nothing has stopped it before. -/
theorem probing_cases {n : Nat} {p : LeafProbe} (h : phaseAt ctx n = .probing fp p) :
    ctx.livePointer? = some fp ∧ p.cursor = ctx.probeSlot n ∧
      ∀ k < n, ¬ ctx.ProbeStops fp k := by
  induction n generalizing p with
  | zero =>
      rw [phaseAt_zero] at h
      unfold Phase.first at h
      split at h
      · cases h
      case h_2 fp' hfp =>
        cases h
        refine ⟨hfp, (Context.probeSlot_zero ctx).symm, ?_⟩
        intro k hk
        exact absurd hk (Nat.not_lt_zero k)
  | succ n ih =>
      -- a round of the probe follows only on one that has found nothing
      rw [phaseAt_succ] at h
      obtain ⟨q, hq, hround⟩ := Phase.probing_of_step h
      obtain ⟨hfp, hcursor, hbefore⟩ := ih hq
      obtain ⟨counter, hlt, hnone, rfl⟩ := LeafProbe.next_cases hround
      refine ⟨hfp, ?_, ?_⟩
      · rw [Context.probeSlot_succ, ← hcursor]
      · -- the slots before are known from the earlier rounds, and this round has looked at slot `n`
        intro k hk
        rcases Nat.lt_succ_iff_lt_or_eq.mp hk with hk | rfl
        · exact hbefore k hk
        · rintro (hend | hleaf)
          · rw [← hcursor] at hend
            exact hend hlt
          · unfold Context.LeafAt at hleaf
            rw [← hcursor, hnone] at hleaf
            cases hleaf

/-- If something stops the probe, the machine goes on with what the probe of `run` finds. -/
theorem probed_of_stops (hfp : ctx.livePointer? = some fp) (h : ∃ k, ctx.ProbeStops fp k) :
    ∃ n, phaseAt ctx n = .chaining ⟨LeafProbe.run ctx fp (State.start ctx), fp, 0, none⟩ := by
  obtain ⟨k, hlt, hk⟩ := Context.exists_stop_lt h
  have hfirst : Phase.first ctx = .probing fp ⟨State.start ctx, ctx.registers.sp⟩ := by
    unfold Phase.first
    rw [hfp]
  -- the number of the slot is the number of iterations, which goes up to `k` at most
  show ∃ n, (Phase.step ctx)^[n] (Phase.first ctx) = _
  rw [hfirst]
  refine iterate_reaches
    (I := fun p : LeafProbe => p.cursor = ctx.probeSlot p.state.tally.iterations ∧
      p.state.tally.iterations ≤ k)
    (M := fun p : LeafProbe => k - p.state.tally.iterations)
    (E := fun p : LeafProbe => Phase.probing fp p)
    (O := fun s : State => Phase.chaining ⟨s, fp, 0, none⟩) ?_ ?_ _ ?_ ?_
  · rintro p p' ⟨hcursor, hle⟩ hround
    obtain ⟨counter, hend, hnone, rfl⟩ := LeafProbe.next_cases hround
    have hne : p.state.tally.iterations ≠ k := by
      rintro rfl
      rw [hcursor] at hend hnone
      rcases hk with hge | hleaf
      · exact hge hend
      · unfold Context.LeafAt at hleaf
        rw [hnone] at hleaf
        cases hleaf
    have hcount : (p.state.setTally (p.state.tally.looked counter)).tally.iterations =
        p.state.tally.iterations + 1 := rfl
    refine ⟨⟨?_, ?_⟩, ?_, Phase.step_probing_next hround⟩
    · rw [hcount, Context.probeSlot_succ, ← hcursor]
    · rw [hcount]
      omega
    · rw [hcount]
      omega
  · rintro p s - hround
    exact Phase.step_probing_done hround
  · obtain ⟨failures, htally⟩ := State.tally_start ctx
    rw [htally]
    exact ⟨(Context.probeSlot_zero ctx).symm, Nat.zero_le k⟩
  · exact Nat.lt_of_le_of_lt (Nat.sub_le _ _) hlt

end Probe

/-! ## The whole walk -/

section Walk

variable {ctx : Context}

/-- The condition under which a walk comes to its end. -/
def Context.Halts (ctx : Context) : Prop :=
  ∀ fp, ctx.livePointer? = some fp → ctx.ProbeFits fp ∨ ∃ k, ctx.LeafAt k

theorem leaving_of_halts (h : ctx.Halts) :
    ∃ m, phaseAt ctx m =
      .leaving ((State.start ctx).addChain ctx).1 ((State.start ctx).addChain ctx).2 := by
  cases hfp : ctx.livePointer? with
  | none => exact ⟨0, leaving_of_no_pointer hfp⟩
  | some fp =>
      obtain ⟨n, hn⟩ := probed_of_stops hfp (Context.exists_stop_iff.mpr (h fp hfp))
      exact leaving_of_probed hfp hn

theorem ended_of_halts (h : ctx.Halts) :
    ∃ m, phaseAt ctx m = .ended (outcome ctx).1 (outcome ctx).2 := by
  obtain ⟨m, hm⟩ := leaving_of_halts h
  exact ended_of_leaving hm

/-- A walk that has come to the end of the probe comes to its own end. -/
theorem halts_of_not_probing {n : Nat} (h : ∀ fp p, phaseAt ctx n ≠ .probing fp p) : ctx.Halts := by
  intro fp hfp
  by_contra hnot
  have hstops : ∀ k < n, ¬ ctx.ProbeStops fp k := fun k _ hk =>
    hnot (Context.exists_stop_iff.mp ⟨k, hk⟩)
  obtain ⟨s', hs'⟩ := probing_of_not_stops hfp hstops
  exact h fp _ hs'

theorem halts_of_ended {n : Nat} {s : State} {status : Status} (h : phaseAt ctx n = .ended s status) :
    ctx.Halts := by
  refine halts_of_not_probing (n := n) ?_
  intro fp p hp
  rw [h] at hp
  cases hp

theorem run_of_kernel (h : ctx.arch.isKernelAddress ctx.registers.pc = true) :
    run ctx = refused ctx.registers.pc :=
  if_pos h

theorem run_of_outcome (h : ¬ ctx.arch.isKernelAddress ctx.registers.pc = true) :
    run ctx = report ctx.limits (outcome ctx).1 (outcome ctx).2 :=
  if_neg h

/-- The frames that a walk reports are the first ones of those that it has found. -/
theorem run_prefix_outcome (ctx : Context) :
    (run ctx).frames <+: (outcome ctx).1.stack.frames.toList := by
  by_cases hkernel : ctx.arch.isKernelAddress ctx.registers.pc = true
  · rw [run_of_kernel hkernel]
    exact List.nil_prefix
  · rw [run_of_outcome hkernel]
    show reported ctx.limits (outcome ctx).1.stack.frames.toList <+: _
    unfold reported
    split
    · exact List.take_prefix _ _
    · exact List.prefix_rfl

theorem returns_run_iff :
    Returns ctx (run ctx) ↔ ctx.arch.isKernelAddress ctx.registers.pc = true ∨ ctx.Halts := by
  unfold Returns
  by_cases hkernel : ctx.arch.isKernelAddress ctx.registers.pc = true
  · rw [if_pos hkernel]
    exact ⟨fun _ => Or.inl hkernel, fun _ => run_of_kernel hkernel⟩
  · rw [if_neg hkernel]
    constructor
    · rintro ⟨n, s, status, hn, -⟩
      exact Or.inr (halts_of_ended hn)
    · rintro (h | h)
      · exact absurd h hkernel
      · obtain ⟨m, hm⟩ := ended_of_halts h
        exact ⟨m, _, _, hm, run_of_outcome hkernel⟩

/-- What a walk returns is what `run` computes: its bounds are never reached. -/
theorem eq_run_of_returns {t : Trace} (h : Returns ctx t) : t = run ctx := by
  unfold Returns at h
  by_cases hkernel : ctx.arch.isKernelAddress ctx.registers.pc = true
  · rw [if_pos hkernel] at h
    rw [run_of_kernel hkernel]
    exact h
  · rw [if_neg hkernel] at h
    obtain ⟨n, s, status, hn, rfl⟩ := h
    obtain ⟨m, hm⟩ := ended_of_halts (halts_of_ended hn)
    obtain ⟨rfl, rfl⟩ := ended_unique hn hm
    exact (run_of_outcome hkernel).symm

theorem Context.HasRoom.halts (h : ctx.HasRoom) : ctx.Halts :=
  fun fp _ => Or.inl (h.probeFits fp)

theorem Context.HasRoom.returns_run (h : ctx.HasRoom) : Returns ctx (run ctx) :=
  returns_run_iff.mpr (Or.inr h.halts)

/-- The probe keeps to its distance exactly if it comes to its end before it wraps around, or finds a
frame in time. -/
theorem examines_lt_iff :
    (∀ n, ctx.Examines n → n < ctx.probeLimit) ↔
      ∀ fp, ctx.livePointer? = some fp →
        ctx.ProbeFits fp ∨ ∃ k < ctx.probeLimit, ctx.LeafAt k := by
  constructor
  · intro h fp hfp
    by_contra hnot
    obtain ⟨hfits, hleaf⟩ := not_or.mp hnot
    have hstops : ∀ k < ctx.probeLimit, ¬ ctx.ProbeStops fp k := by
      rintro k hk (hend | hfound)
      · exact hend (Context.probeSlot_lt_of_not_fits hfits k)
      · exact hleaf ⟨k, hk, hfound⟩
    obtain ⟨s, hs⟩ := probing_of_not_stops hfp hstops
    exact Nat.lt_irrefl _
      (h ctx.probeLimit ⟨fp, _, hs, Context.probeSlot_lt_of_not_fits hfits _⟩)
  · rintro h n ⟨fp, p, hp, hlt⟩
    obtain ⟨hfp, hcursor, hstops⟩ := probing_cases hp
    -- a round beyond the limit would come after one that stops the probe
    by_contra hge
    rcases h fp hfp with hfits | ⟨k, hk, hleaf⟩
    · obtain ⟨k, hk, hend⟩ := hfits.exists_end_le
      rcases Nat.lt_or_eq_of_le (Nat.le_trans hk (Nat.le_of_not_lt hge)) with hlate | rfl
      · exact hstops k hlate (Or.inl hend)
      · rw [hcursor] at hlt
        exact hend hlt
    · exact hstops k (by omega) (Or.inr hleaf)

end Walk

/-- **A walk returns exactly if its probe comes to an end before it wraps around, or finds a frame**, and
then it returns what `run` computes; the probe keeps to its distance exactly if it does so in time. -/
theorem returns_iff (ctx : Context) :
    ((∃ t, Returns ctx t) ↔
      ctx.arch.isKernelAddress ctx.registers.pc = true ∨
        ∀ fp, ctx.livePointer? = some fp → ctx.ProbeFits fp ∨ ∃ k, ctx.LeafAt k) ∧
    (∀ t, Returns ctx t → t = run ctx) ∧
    ((∀ n, ctx.Examines n → n < ctx.probeLimit) ↔
      ∀ fp, ctx.livePointer? = some fp →
        ctx.ProbeFits fp ∨ ∃ k < ctx.probeLimit, ctx.LeafAt k) := by
  refine ⟨?_, fun t => eq_run_of_returns, examines_lt_iff⟩
  refine Iff.trans ⟨?_, fun h => ⟨run ctx, h⟩⟩ returns_run_iff
  rintro ⟨t, ht⟩
  have hrun := eq_run_of_returns ht
  rw [hrun] at ht
  exact ht

/-- A thread in `compute`, which `handle` calls.  The stack pointer is two words below the end of the
address space, and the frame pointer is the last address of all. -/
def nearLastAddress (words : List (UInt64 × UInt64)) : Context where
  arch := .x86_64
  target := Tables.target
    { images := [(⟨"app"⟩, .main, 0x400000, 0x410000)]
      routines := [("handle", 0x401200, 0x100), ("compute", 0x401300, 0x100)]
      code := [(0x401210, ⟨5, "call 0x401300"⟩)]
      words := words }
  registers := (Registers.ofPcSp ⟨0x401310⟩ ⟨0xFFFF_FFFF_FFFF_FFF0⟩).withFp .last
  limits := Limits.standard

/-- No word can be read. -/
def silentMemory : Context := nearLastAddress []

/-- The probe goes round the address space for ever. -/
theorem silentMemory_never_returns : ¬ ∃ t, Returns silentMemory t := by
  rintro ⟨t, ht⟩
  have hfp : silentMemory.livePointer? = some .last := by decide +kernel
  have hreturns := returns_run_iff.mp (eq_run_of_returns ht ▸ ht)
  rcases hreturns with hkernel | hhalts
  · revert hkernel
    decide +kernel
  · rcases hhalts .last hfp with hfits | ⟨k, hleaf⟩
    · revert hfits
      unfold Context.ProbeFits
      decide +kernel
    · unfold Context.LeafAt at hleaf
      cases hleaf

/-- The fifth word behind the end of the address space is a return address. -/
def wrappedLeaf : Context := nearLastAddress [(0x20, 0x401215)]

/-- The probe finds it there, after more words than lie within its distance. -/
theorem wrappedLeaf_examines_more :
    ¬ ∀ n, wrappedLeaf.Examines n → n < wrappedLeaf.probeLimit := by
  intro h
  have hfp : wrappedLeaf.livePointer? = some .last := by decide +kernel
  have hbelow : wrappedLeaf.probeSlot 6 < wrappedLeaf.leafEnd .last := by decide +kernel
  obtain ⟨s, hs⟩ := probing_of_not_stops (n := 6) hfp (by decide +kernel)
  have hlt := h 6 ⟨.last, _, hs, hbelow⟩
  revert hlt
  decide +kernel

end StackWalk.Walk

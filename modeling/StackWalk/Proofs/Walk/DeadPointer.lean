import StackWalk.Proofs.Tables
import StackWalk.Proofs.Walk.Alike
import StackWalk.Proofs.Walk.Order
import StackWalk.Proofs.Walk.Scanning

/-!
# StackWalk.Proofs.Walk.DeadPointer — a frame pointer that is not believed

The frame pointer is read in two places.  Its chain is followed only where it can be believed; the last
rule for a candidate accepts what lies in the slot above it, and asks for no more than that it is not
null.  So a walk with a frame pointer that is not believed does in every round what the walk without one
does, until the scan comes to a candidate that only this rule accepts.

`run_withoutPointer` says that this is the one way in which such a pointer can have an influence.  It has
none where the slot above it is out of reach of the scan; `stalePointer` is a walk where it has.
-/

namespace StackWalk.Walk

/-- The same walk without a frame pointer. -/
def Context.withoutPointer (ctx : Context) : Context :=
  { ctx with registers := { ctx.registers with fp := none } }

/-- A frame pointer that has been captured is not believed. -/
def Context.HasDeadPointer (ctx : Context) : Prop :=
  ∀ fp ∈ ctx.registers.fp, ctx.isLive fp = false

instance (ctx : Context) : Decidable ctx.HasDeadPointer :=
  inferInstanceAs (Decidable (∀ fp ∈ ctx.registers.fp, ctx.isLive fp = false))

/-- The scan comes to a candidate that it accepts, and would reject if there were no frame pointer. -/
def Phase.Misled (ctx : Context) : Phase → Prop
  | .scanning s =>
    s.limit? ctx = none ∧ s.state.gapAt ctx s.cursor = false ∧
      ∃ value call, ctx.Shows s.cursor value call ∧ call.site.address ∉ s.state.blacklist ∧
        s.state.verdict ctx s.cursor value call = .accept ∧
        s.state.verdict ctx.withoutPointer s.cursor value call = .reject
  | _ => False

namespace Context

theorem alike_withoutPointer (ctx : Context) : ctx.Alike ctx.withoutPointer := by
  constructor <;> rfl

theorem livePointer?_withoutPointer (ctx : Context) : ctx.withoutPointer.livePointer? = none := by
  unfold livePointer? Architecture.framePointer?
  split <;> rfl

theorem HasDeadPointer.livePointer?_eq_none {ctx : Context} (h : ctx.HasDeadPointer) :
    ctx.livePointer? = none := by
  unfold livePointer? Architecture.framePointer?
  rw [Option.filter_eq_none_iff]
  intro fp hfp
  split at hfp
  · simp [h fp hfp]
  · cases hfp

theorem isFrameSlot_withoutPointer (ctx : Context) (cursor : Address) :
    ctx.withoutPointer.isFrameSlot cursor = false :=
  Bool.and_false _

theorem exists_of_isFrameSlot {ctx : Context} {cursor : Address} (h : ctx.isFrameSlot cursor = true) :
    ∃ fp ∈ ctx.registers.fp, fp.isNull = false ∧ cursor = ctx.slotAbove fp := by
  unfold isFrameSlot Architecture.framePointer? at h
  obtain ⟨fp, hfp, hslot⟩ := (Option.any_eq_true _ _).mp (Bool.and_eq_true_iff.mp h).2
  simp only [Bool.and_eq_true, Bool.not_eq_true', beq_iff_eq] at hslot
  exact ⟨fp, hfp, hslot⟩

/-- Without the frame pointer a candidate is judged alike, unless it is accepted for the sake of that. -/
theorem verdict_withoutPointer (ctx : Context) (s : State) (cursor value : Address) (call : Call) :
    s.verdict ctx.withoutPointer cursor value call = s.verdict ctx cursor value call ∨
      ctx.isFrameSlot cursor = true ∧ s.verdict ctx cursor value call = .accept ∧
        s.verdict ctx.withoutPointer cursor value call = .reject := by
  rcases ctx.alike_withoutPointer.verdict_or s cursor value call with hsame | ⟨hwithout, hwith⟩
  · exact Or.inl hsame
  · rw [isFrameSlot_withoutPointer] at hwithout
    cases hslot : ctx.isFrameSlot cursor with
    | false =>
        rw [hslot] at hwith
        exact Or.inl (hwithout.trans hwith.symm)
    | true =>
        rw [hslot] at hwith
        exact Or.inr ⟨rfl, hwith, hwithout⟩

end Context

/-! ## One round -/

section Step

variable {ctx : Context}

/-- What misleads a round is in the slot above the frame pointer, and not beyond the base of the stack. -/
theorem Phase.Misled.slot {p : Phase} (h : p.Misled ctx) :
    ∃ s fp, p = .scanning s ∧ fp ∈ ctx.registers.fp ∧ fp.isNull = false ∧
      s.cursor = ctx.slotAbove fp ∧ ctx.limits.pastStackBase s.cursor = false := by
  cases p with
  | probing fp q => exact h.elim
  | chaining c => exact h.elim
  | leaving s onward => exact h.elim
  | ended s status => exact h.elim
  | scanning s =>
      obtain ⟨hlimit, -, value, call, -, -, haccept, hreject⟩ := h
      have hbase := StackScan.not_past_of_limit hlimit
      rcases ctx.verdict_withoutPointer s.state s.cursor value call with hsame | ⟨hslot, -⟩
      · rw [haccept, hreject] at hsame
        cases hsame
      · obtain ⟨fp, hfp, hnull, hcursor⟩ := Context.exists_of_isFrameSlot hslot
        exact ⟨s, fp, rfl, hfp, hnull, hcursor, hbase⟩

/-- A round of the scan that is not misled is the same without the frame pointer. -/
theorem StackScan.round_withoutPointer {s : StackScan} (h : ¬ (Phase.scanning s).Misled ctx) :
    round ctx.withoutPointer s = round ctx s := by
  have halike := ctx.alike_withoutPointer
  refine round_alike halike rfl fun hlimit hgap value hheld => halike.consider ?_
  intro call hcode hcall hfree
  rcases ctx.verdict_withoutPointer s.state s.cursor value call with hsame | ⟨-, haccept, hreject⟩
  · exact hsame
  · exact absurd ⟨hlimit, hgap, value, call, ⟨hheld, hcode, hcall⟩, hfree, haccept, hreject⟩ h

/-- Of the calls that are looked at, those are counted that the verdict rejects. -/
theorem State.rejected_settle (ctx : Context) (s : State) (cursor value : Address)
    (call : Context.Call) :
    (s.settle ctx cursor value call).tally.rejected =
      s.tally.rejected + if s.verdict ctx cursor value call = .reject then 1 else 0 := by
  unfold settle
  cases hverdict : s.verdict ctx cursor value call with
  | reject => rfl
  | accept =>
      dsimp only
      rw [tally_accept]
      rfl
  | acceptBehind branch =>
      dsimp only
      rw [tally_accept, tally_accept]
      rfl

/-- A round that looks at a call in front of a word counts it, if it rejects it. -/
theorem Phase.rejected_step {s : StackScan} {value : Address} {call : Context.Call}
    (hlimit : s.limit? ctx = none) (hgap : s.state.gapAt ctx s.cursor = false)
    (hshows : ctx.Shows s.cursor value call) (hfree : call.site.address ∉ s.state.blacklist) :
    ((scanning s).step ctx).state.tally.rejected =
      s.state.tally.rejected +
        if s.state.verdict ctx s.cursor value call = .reject then 1 else 0 := by
  have hround := StackScan.round_of_held hlimit hgap hshows.held
  have hconsider : s.state.countIteration.consider ctx s.cursor value = _ :=
    State.consider_of_call hshows.code hshows.found hfree
  rw [hconsider] at hround
  have hsettle : ((scanning s).step ctx).state.tally.rejected =
      ((s.state.countIteration.countFailures (ctx.callBefore value).2).settle ctx s.cursor value
        call).tally.rejected := by
    unfold StackScan.advance at hround
    dsimp only at hround
    split at hround
    · rw [step_scanning_done hround]
      rfl
    · rw [step_scanning_next hround]
      rfl
  rw [hsettle]
  exact State.rejected_settle ctx _ _ _ _

/-- A round that is misled has rejected one candidate less. -/
theorem Phase.Misled.rejected {s : StackScan} (h : (scanning s).Misled ctx) :
    ((scanning s).step ctx.withoutPointer).state.tally.rejected =
      ((scanning s).step ctx).state.tally.rejected + 1 := by
  obtain ⟨hlimit, hgap, value, call, hshows, hfree, haccept, hreject⟩ := h
  -- the walk without the frame pointer looks at the same call
  have hlimit' : s.limit? ctx.withoutPointer = none := hlimit
  have hgap' : s.state.gapAt ctx.withoutPointer s.cursor = false :=
    (ctx.alike_withoutPointer.gapAt _ _).trans hgap
  have hshows' := ctx.alike_withoutPointer.shows_iff.mpr hshows
  rw [rejected_step hlimit hgap hshows hfree, rejected_step hlimit' hgap' hshows' hfree, haccept,
    hreject]
  rfl

/-- A round is the same without the frame pointer exactly unless it is misled. -/
theorem Phase.step_withoutPointer_iff (ctx : Context) (p : Phase) :
    p.step ctx.withoutPointer = p.step ctx ↔ ¬ p.Misled ctx := by
  have halike := ctx.alike_withoutPointer
  constructor
  · -- the candidates that have been rejected tell the two rounds apart
    intro hsame hmisled
    obtain ⟨s, fp, rfl, -⟩ := hmisled.slot
    have hmore := hmisled.rejected
    rw [hsame] at hmore
    omega
  · intro hnot
    cases p with
    | probing fp q =>
        simp only [step, LeafProbe.round_alike halike]
    | chaining c =>
        have hround := PointerChain.round_alike (c := c) halike fun _ => rfl
        simp only [step, hround]
    | leaving s onward => cases onward <;> rfl
    | scanning s =>
        simp only [step, StackScan.round_withoutPointer hnot]
    | ended s status => rfl

end Step

/-! ## The whole walk -/

section Walk

variable {ctx : Context}

theorem phaseAt_withoutPointer_iff (h : ctx.HasDeadPointer) :
    (∀ n, phaseAt ctx.withoutPointer n = phaseAt ctx n) ↔ ∀ n, ¬ (phaseAt ctx n).Misled ctx := by
  constructor
  · intro hsame n
    have hnext := hsame (n + 1)
    rw [phaseAt_succ, phaseAt_succ, hsame n] at hnext
    exact (Phase.step_withoutPointer_iff ctx _).mp hnext
  · intro hnever n
    induction n with
    | zero =>
        rw [phaseAt_zero, phaseAt_zero]
        unfold Phase.first
        rw [h.livePointer?_eq_none, ctx.livePointer?_withoutPointer,
          ctx.alike_withoutPointer.start]
        rfl
    | succ n ih =>
        rw [phaseAt_succ, phaseAt_succ, ih]
        exact (Phase.step_withoutPointer_iff ctx _).mpr (hnever n)

/-- Walks that are the same in every round return the same trace. -/
theorem run_withoutPointer_of_phaseAt (h : ctx.HasDeadPointer)
    (hsame : ∀ n, phaseAt ctx.withoutPointer n = phaseAt ctx n) :
    run ctx.withoutPointer = run ctx := by
  -- only a probe could keep the walk from its end
  have hhalts : ctx.Halts := by
    intro fp hfp
    rw [h.livePointer?_eq_none] at hfp
    cases hfp
  have hreturns : Returns ctx (run ctx) := returns_run_iff.mpr (Or.inr hhalts)
  have hwithout : Returns ctx.withoutPointer (run ctx) := by
    unfold Returns at hreturns ⊢
    simp only [hsame]
    exact hreturns
  exact (eq_run_of_returns hwithout).symm

/-- A scan that starts in order does not come below the stack pointer. -/
theorem Orderly.sp_le_cursor (h : Orderly ctx) {n : Nat} {s : StackScan}
    (hscan : phaseAt ctx n = .scanning s) : ctx.registers.sp ≤ s.cursor := by
  have hclimbs : s.state.Climbs ctx ctx.registers.sp.toNat 0 s.cursor.toNat :=
    scanning_induction
      (P := fun s : StackScan => s.state.Climbs ctx ctx.registers.sp.toNat 0 s.cursor.toNat)
      (fun _ honward => h.climbs_beforeScan honward)
      (fun _ _ h hround => climbs_next (k := fun _ => 0) (fun _ => Nat.zero_le _)
        (Or.inr ⟨rfl, fun _ => rfl⟩) h hround)
      hscan
  exact Address.le_iff_toNat.mpr hclimbs.climbs.le

/-- A scan that starts in order is not misled by a frame pointer whose slot is out of its reach. -/
theorem not_misled_of_unreachable (horderly : Orderly ctx)
    (h : ∀ fp ∈ ctx.registers.fp, fp.isNull = true ∨ ctx.slotAbove fp < ctx.registers.sp ∨
      ctx.limits.pastStackBase (ctx.slotAbove fp) = true) (n : Nat) :
    ¬ (phaseAt ctx n).Misled ctx := by
  intro hmisled
  obtain ⟨s, fp, hscan, hfp, hnull, hcursor, hbase⟩ := hmisled.slot
  have hle := horderly.sp_le_cursor hscan
  rw [hcursor] at hle hbase
  rcases h fp hfp with hnull' | hbelow | hpast
  · rw [hnull] at hnull'
    cases hnull'
  · rw [Address.le_iff_toNat] at hle
    rw [Address.lt_iff_toNat] at hbelow
    omega
  · rw [hbase] at hpast
    cases hpast

end Walk

/-- **A frame pointer that is not believed has an influence exactly where a candidate is accepted for its
sake alone.**  A walk that does not come to such a candidate has the same trace without it, and so has one
for which the slot above it lies below the stack pointer or beyond the base of the stack. -/
theorem run_withoutPointer (ctx : Context) (h : ctx.HasDeadPointer) :
    ((∀ n, phaseAt ctx.withoutPointer n = phaseAt ctx n) ↔ ∀ n, ¬ (phaseAt ctx n).Misled ctx) ∧
      ((∀ n, ¬ (phaseAt ctx n).Misled ctx) → run ctx.withoutPointer = run ctx) ∧
      ((∀ fp ∈ ctx.registers.fp, fp.isNull = true ∨ ctx.slotAbove fp < ctx.registers.sp ∨
        ctx.limits.pastStackBase (ctx.slotAbove fp) = true) → run ctx.withoutPointer = run ctx) := by
  have hrun (hnever : ∀ n, ¬ (phaseAt ctx n).Misled ctx) : run ctx.withoutPointer = run ctx :=
    run_withoutPointer_of_phaseAt h ((phaseAt_withoutPointer_iff h).mpr hnever)
  refine ⟨phaseAt_withoutPointer_iff h, hrun, fun hreach => hrun ?_⟩
  exact not_misled_of_unreachable (orderly_of_no_pointer h.livePointer?_eq_none) hreach

/-- A thread in `work` with one word on its stack: the return address of a call of `other`. -/
def stalePointer (fp : Address) : Context where
  arch := .x86_64
  target := Tables.target
    { images := [(⟨"libplug.so"⟩, .library, 0x500000, 0x510000)]
      routines := [("work", 0x500000, 0x100), ("other", 0x500100, 0x100), ("caller", 0x500200, 0x100)]
      code := [(0x500010, ⟨1, "nop"⟩), (0x500210, ⟨5, "call 0x500100"⟩)]
      words := [(0x7FFE0000, 0x500215)] }
  registers := (Registers.ofPcSp ⟨0x500010⟩ ⟨0x7FFE0000⟩).withFp fp
  limits := { Limits.standard with stackBase := some ⟨0x7FFE0000⟩ }

/-- Two words below the stack pointer the frame pointer has no influence. -/
theorem stalePointer_inert :
    (stalePointer ⟨0x7FFDFFF0⟩).HasDeadPointer ∧
      run (stalePointer ⟨0x7FFDFFF0⟩).withoutPointer = run (stalePointer ⟨0x7FFDFFF0⟩) := by
  have hdead : (stalePointer ⟨0x7FFDFFF0⟩).HasDeadPointer := by decide +kernel
  exact ⟨hdead, (run_withoutPointer _ hdead).2.2 (by decide +kernel)⟩

/-- One word below it the walk reports a frame that it rejects without the frame pointer. -/
theorem stalePointer_misleads :
    ¬ ((stalePointer ⟨0x7FFDFFF8⟩).HasDeadPointer →
      run (stalePointer ⟨0x7FFDFFF8⟩).withoutPointer = run (stalePointer ⟨0x7FFDFFF8⟩)) := by
  decide +kernel

end StackWalk.Walk

import StackWalk.Proofs.Walk.Alike
import StackWalk.Proofs.Walk.Gaps

/-!
# StackWalk.Proofs.Walk.Cutoff — budgets cut a walk short, and do nothing else

The budgets for iterations and for bytes are asked for in front of a link and in front of a slot, and
nowhere else.  So a walk with larger budgets does in every round what the walk with the smaller ones does,
until one of those ends it: two machines in lockstep, where only the first can fall out of step, and only
by ending.

Both budgets are compared in one way.  `Relaxes` says of the statuses that they make, before a round, that
the larger one makes the same or else the smaller one makes a status of a given kind.
-/

namespace StackWalk.Walk

/-- The same walk with other budgets for bytes and for iterations. -/
def Context.withBudgets (ctx : Context) (maxBytes : Option UInt64) (maxIterations : UInt32) :
    Context :=
  { ctx with limits := { ctx.limits with maxBytes := maxBytes, maxIterations := maxIterations } }

/-- The second status is the first one, unless that is one of those that cut a walk short. -/
def Relaxes (cuts : Status → Prop) (limit limit' : Option Status) : Prop :=
  limit' = limit ∨ ∃ status, limit = some status ∧ cuts status

/-- Other budgets make the same status in every state, unless the budgets of the walk make one of those
that cut it short. -/
structure Context.RelaxedBy (ctx ctx' : Context) (cuts : Status → Prop) : Prop where
  bytes : ∀ s : State, Relaxes cuts (s.byteLimit? ctx) (s.byteLimit? ctx')
  iterations : ∀ s : State, Relaxes cuts (s.iterationLimit? ctx) (s.iterationLimit? ctx')

/-- The walk has been ended with one of these statuses, or is about to be. -/
def Phase.CutBy (cuts : Status → Prop) : Phase → Prop
  | .leaving _ (.stop status) | .ended _ status => cuts status
  | _ => False

section Relaxes

variable {cuts : Status → Prop} {limit limit' other other' : Option Status}

theorem relaxes_refl (cuts : Status → Prop) (limit : Option Status) : Relaxes cuts limit limit :=
  Or.inl rfl

/-- A budget that is asked for behind another one is not asked for where that has made a status. -/
theorem Relaxes.or (h : Relaxes cuts limit limit') (hother : Relaxes cuts other other') :
    Relaxes cuts (limit.or other) (limit'.or other') := by
  rcases h with rfl | ⟨status, rfl, hcuts⟩
  · cases limit' with
    | some status => exact Or.inl rfl
    | none =>
        rw [Option.none_or, Option.none_or]
        exact hother
  · exact Or.inr ⟨status, rfl, hcuts⟩

end Relaxes

/-! ## One round -/

section Rounds

variable {ctx : Context} {maxBytes : Option UInt64} {maxIterations : UInt32} {cuts : Status → Prop}

theorem Context.alike_withBudgets (ctx : Context) (maxBytes : Option UInt64)
    (maxIterations : UInt32) : ctx.Alike (ctx.withBudgets maxBytes maxIterations) := by
  constructor <;> rfl

theorem PointerChain.limit?_relaxed (h : ctx.RelaxedBy (ctx.withBudgets maxBytes maxIterations) cuts)
    (s : State) :
    Relaxes cuts (limit? ctx s) (limit? (ctx.withBudgets maxBytes maxIterations) s) :=
  (relaxes_refl cuts (s.frameLimit? ctx)).or (h.iterations s)

theorem StackScan.limit?_relaxed (h : ctx.RelaxedBy (ctx.withBudgets maxBytes maxIterations) cuts)
    (s : StackScan) :
    Relaxes cuts (s.limit? ctx) (s.limit? (ctx.withBudgets maxBytes maxIterations)) := by
  have hbudgets := (relaxes_refl cuts (s.state.frameLimit? ctx)).or
    ((h.bytes s.state).or (h.iterations s.state))
  have hbase : (ctx.withBudgets maxBytes maxIterations).limits.pastStackBase s.cursor =
      ctx.limits.pastStackBase s.cursor := rfl
  unfold limit?
  rw [hbase]
  split
  · exact relaxes_refl cuts _
  · exact hbudgets

/-- A round is the same with the larger budgets, unless the smaller ones cut the walk short. -/
theorem Phase.step_withBudgets (h : ctx.RelaxedBy (ctx.withBudgets maxBytes maxIterations) cuts)
    (p : Phase) :
    p.step (ctx.withBudgets maxBytes maxIterations) = p.step ctx ∨ (p.step ctx).CutBy cuts := by
  have halike := ctx.alike_withBudgets maxBytes maxIterations
  cases p with
  | probing fp q =>
      left
      simp only [step, LeafProbe.round_alike halike]
  | chaining c =>
      have hsame (hlimit : c.link.isNull = false →
          PointerChain.limit? (ctx.withBudgets maxBytes maxIterations) c.state =
            PointerChain.limit? ctx c.state) :
          (chaining c).step (ctx.withBudgets maxBytes maxIterations) = (chaining c).step ctx := by
        simp only [step, PointerChain.round_alike halike hlimit]
      -- no budget is asked for at the end of the chain
      by_cases hnull : c.link.isNull = true
      · exact Or.inl (hsame fun hlink => absurd hnull (by simp [hlink]))
      · rcases PointerChain.limit?_relaxed h c.state with heq | ⟨status, hlimit, hcuts⟩
        · exact Or.inl (hsame fun _ => heq)
        · have hround : PointerChain.round ctx c = .done (c.state, .stop status) := by
            unfold PointerChain.round
            rw [if_neg hnull, hlimit]
          right
          rw [step_chaining_done hround]
          exact hcuts
  | leaving s onward =>
      left
      cases onward <;> rfl
  | scanning s =>
      rcases StackScan.limit?_relaxed h s with heq | ⟨status, hlimit, hcuts⟩
      · have hround := StackScan.round_alike halike heq fun _ _ value _ =>
          halike.consider fun call _ _ _ => halike.verdict s.state.countIteration rfl value call
        left
        simp only [step, hround]
      · right
        rw [step_scanning_done (StackScan.round_of_limit hlimit)]
        exact hcuts
  | ended s status => exact Or.inl rfl

/-- What has been cut short stays so. -/
theorem Phase.CutBy.step {p : Phase} (h : p.CutBy cuts) (ctx : Context) :
    (p.step ctx).CutBy cuts := by
  cases p with
  | probing fp q => exact h.elim
  | chaining c => exact h.elim
  | leaving s onward =>
      cases onward with
      | scan cursor => exact h.elim
      | stop status => exact h
  | scanning s => exact h.elim
  | ended s status => exact h

end Rounds

/-! ## The whole walk -/

section Walk

variable {ctx : Context} {maxBytes : Option UInt64} {maxIterations : UInt32} {cuts : Status → Prop}

/-- The two machines are in lockstep until the first one has been cut short. -/
theorem phaseAt_withBudgets (h : ctx.RelaxedBy (ctx.withBudgets maxBytes maxIterations) cuts)
    (n : Nat) :
    phaseAt (ctx.withBudgets maxBytes maxIterations) n = phaseAt ctx n ∨
      (phaseAt ctx n).CutBy cuts := by
  induction n with
  | zero =>
      left
      rw [phaseAt_zero, phaseAt_zero]
      unfold Phase.first
      rw [(ctx.alike_withBudgets maxBytes maxIterations).start]
      rfl
  | succ n ih =>
      rw [phaseAt_succ, phaseAt_succ]
      rcases ih with hsame | hcut
      · rw [hsame]
        exact Phase.step_withBudgets h _
      · exact Or.inr (hcut.step ctx)

/-- A walk that has not been cut short returns the same with the larger budgets. -/
theorem returns_withBudgets (h : ctx.RelaxedBy (ctx.withBudgets maxBytes maxIterations) cuts)
    {t : Trace} (ht : Returns ctx t) (hnot : ¬ cuts t.status) :
    Returns (ctx.withBudgets maxBytes maxIterations) t := by
  have hgate : (ctx.withBudgets maxBytes maxIterations).arch.isKernelAddress
      (ctx.withBudgets maxBytes maxIterations).registers.pc =
        ctx.arch.isKernelAddress ctx.registers.pc := rfl
  unfold Returns at ht ⊢
  rw [hgate]
  split at ht
  case isTrue hkernel =>
    rw [if_pos hkernel]
    exact ht
  case isFalse huser =>
    rw [if_neg huser]
    obtain ⟨n, s, status, hended, rfl⟩ := ht
    rcases phaseAt_withBudgets h n with hsame | hcut
    · exact ⟨n, s, status, hsame.trans hended, rfl⟩
    · rw [hended] at hcut
      exact absurd hcut hnot

theorem run_withBudgets_of_relaxed
    (h : ctx.RelaxedBy (ctx.withBudgets maxBytes maxIterations) cuts) (hroom : ctx.HasRoom)
    (hnot : ¬ cuts (run ctx).status) : run (ctx.withBudgets maxBytes maxIterations) = run ctx :=
  (eq_run_of_returns (returns_withBudgets h hroom.returns_run hnot)).symm

/-- More iterations make no difference but where there are none left. -/
theorem relaxedBy_iterations (hmax : ctx.limits.maxIterations ≤ maxIterations) :
    ctx.RelaxedBy (ctx.withBudgets ctx.limits.maxBytes maxIterations) fun status =>
      ∃ taken, status = .incomplete (.iterationsExhausted taken) where
  bytes s := relaxes_refl _ _
  iterations s := by
    rw [UInt32.le_iff_toNat_le] at hmax
    unfold State.iterationLimit?
    by_cases hspent : ctx.limits.maxIterations.toNat ≤ s.tally.iterations
    · exact Or.inr ⟨s.spentStatus, if_pos hspent, _, rfl⟩
    · have hleft : ¬ maxIterations.toNat ≤ s.tally.iterations := by omega
      left
      rw [if_neg hspent]
      exact if_neg hleft

/-- More bytes make no difference but where there are none left. -/
theorem relaxedBy_bytes (hmax : ∀ max ∈ maxBytes, ∃ less ∈ ctx.limits.maxBytes, less ≤ max) :
    ctx.RelaxedBy (ctx.withBudgets maxBytes ctx.limits.maxIterations) fun status =>
      ∃ max, status = .incomplete (.byteLimit max) where
  bytes s := by
    unfold State.byteLimit?
    by_cases hspent : ctx.limits.bytesExhausted s.tally.bytes = true
    · exact Or.inr ⟨_, if_pos hspent, _, rfl⟩
    · have hleft : ¬ (ctx.withBudgets maxBytes ctx.limits.maxIterations).limits.bytesExhausted
          s.tally.bytes = true := by
        intro hmore
        obtain ⟨max, hmem, hreached⟩ := (Option.any_eq_true _ _).mp hmore
        obtain ⟨less, hless, hle⟩ := hmax max hmem
        refine hspent ((Option.any_eq_true _ _).mpr ⟨less, hless, ?_⟩)
        rw [UInt64.le_iff_toNat_le] at hle
        simp only [decide_eq_true_eq] at hreached ⊢
        omega
      left
      rw [if_neg hspent]
      exact if_neg hleft
  iterations s := relaxes_refl _ _

end Walk

/-- **Budgets cut a walk short, and do nothing else.**  A walk that has not run out of iterations has the
same trace with any larger number of them, and one that has not run out of bytes has it with any larger
number of these, or without a limit. -/
theorem run_withBudgets (ctx : Context) (hroom : ctx.HasRoom) :
    (∀ maxIterations, ctx.limits.maxIterations ≤ maxIterations →
      (∀ taken, (run ctx).status ≠ .incomplete (.iterationsExhausted taken)) →
        run (ctx.withBudgets ctx.limits.maxBytes maxIterations) = run ctx) ∧
    (∀ maxBytes : Option UInt64, (∀ max ∈ maxBytes, ∃ less ∈ ctx.limits.maxBytes, less ≤ max) →
      (∀ max, (run ctx).status ≠ .incomplete (.byteLimit max)) →
        run (ctx.withBudgets maxBytes ctx.limits.maxIterations) = run ctx) := by
  constructor
  · intro maxIterations hmax hnot
    exact run_withBudgets_of_relaxed (relaxedBy_iterations hmax) hroom
      fun ⟨taken, htaken⟩ => hnot taken htaken
  · intro maxBytes hmax hnot
    exact run_withBudgets_of_relaxed (relaxedBy_bytes hmax) hroom
      fun ⟨max, hbytes⟩ => hnot max hbytes

/-- A walk that goes back from a gap has few iterations and bytes, and gains nothing from more. -/
theorem staleCall_withBudgets :
    (run (staleCall.withBudgets (some 0x60) 20)).stats.recoveries = 1 ∧
      run (staleCall.withBudgets (some 0x60) 0xFFFFFFFF) =
        run (staleCall.withBudgets (some 0x60) 20) ∧
      run (staleCall.withBudgets none 20) = run (staleCall.withBudgets (some 0x60) 20) := by
  have hrecoveries : (run (staleCall.withBudgets (some 0x60) 20)).stats.recoveries = 1 := by
    decide +kernel
  have hcomplete : (run (staleCall.withBudgets (some 0x60) 20)).status = .complete := by
    decide +kernel
  have hroom : (staleCall.withBudgets (some 0x60) 20).HasRoom := by decide +kernel
  obtain ⟨hiterations, hbytes⟩ := run_withBudgets (staleCall.withBudgets (some 0x60) 20) hroom
  refine ⟨hrecoveries, hiterations 0xFFFFFFFF (by decide) ?_, hbytes none ?_ ?_⟩
  · intro taken htaken
    rw [hcomplete] at htaken
    cases htaken
  · intro max hmax
    cases hmax
  · intro max hmax
    rw [hcomplete] at hmax
    cases hmax

end StackWalk.Walk

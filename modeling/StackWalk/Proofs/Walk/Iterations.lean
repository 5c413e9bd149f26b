import Mathlib.Order.Monotone.Basic
import StackWalk.Proofs.Tables
import StackWalk.Proofs.Walk.Halting

/-!
# StackWalk.Proofs.Walk.Iterations — how many iterations a walk takes

Every look at a stack word or at a link takes one iteration, in each of the three loops, and none gives
one back.  The chain and the scan ask first whether the budget has one left; the probe before them does
not.  So a walk overdraws its budget in one way only: the probe looks at more words than the budget has.

`iterations_le_iff` says so of every round, and of the trace that is returned.  By how much the budget can
be overdrawn is known as well, for the probe keeps to its distance unless it runs around the end of the
address space.
-/

namespace StackWalk.Walk

/-- The probe looks at no more than `count` words. -/
def Context.ProbesWithin (ctx : Context) (count : Nat) : Prop :=
  ∀ n, ctx.Examines n → n < count

theorem Context.HasRoom.probesWithin {ctx : Context} (h : ctx.HasRoom) :
    ctx.ProbesWithin ctx.probeLimit :=
  examines_lt_iff.mpr fun fp _ => Or.inl (h.probeFits fp)

section Iterations

variable {ctx : Context}

/-! ## One round -/

/-- A round of the probe takes an iteration if it looks at a word. -/
theorem LeafProbe.iterations_step (ctx : Context) (fp : Address) (p : LeafProbe) :
    ((Phase.probing fp p).step ctx).state.tally.iterations =
      p.state.tally.iterations + if p.cursor < ctx.leafEnd fp then 1 else 0 := by
  cases hround : LeafProbe.round ctx fp p with
  | next p' =>
      obtain ⟨counter, hlt, -, rfl⟩ := next_cases hround
      rw [Phase.step_probing_next hround, if_pos hlt]
      rfl
  | done s =>
      rw [Phase.step_probing_done hround]
      rcases done_cases hround with ⟨hge, rfl⟩ | ⟨counter, f, hlt, -, rfl⟩
      · rw [if_neg hge]
        rfl
      · rw [if_pos hlt]
        show (State.accept ctx _ f).tally.iterations = _
        rw [State.tally_accept]
        rfl

/-- A round takes at most one iteration; it has asked for that, or it is a round of the probe. -/
theorem Phase.iterations_step (ctx : Context) (p : Phase) :
    (p.step ctx).state.tally.iterations = p.state.tally.iterations ∨
      (p.step ctx).state.tally.iterations = p.state.tally.iterations + 1 ∧
        (p.state.tally.iterations < ctx.limits.maxIterations.toNat ∨
          ∃ fp q, p = .probing fp q ∧ q.cursor < ctx.leafEnd fp) := by
  cases p with
  | probing fp q =>
      have hstep := LeafProbe.iterations_step ctx fp q
      split at hstep
      case isTrue hlt => exact Or.inr ⟨hstep, Or.inr ⟨fp, q, rfl, hlt⟩⟩
      case isFalse => exact Or.inl hstep
  | chaining c =>
      cases hround : PointerChain.round ctx c with
      | next c' =>
          obtain ⟨hlt, hnext⟩ := PointerChain.iterations_next hround
          rw [step_chaining_next hround]
          exact Or.inr ⟨hnext, Or.inl hlt⟩
      | done r =>
          rw [step_chaining_done hround]
          exact (PointerChain.iterations_done hround).imp id fun h => ⟨h.2, Or.inl h.1⟩
  | leaving s onward => cases onward <;> exact Or.inl rfl
  | scanning s =>
      cases hround : StackScan.round ctx s with
      | next s' =>
          obtain ⟨hlt, hnext⟩ := StackScan.iterations_next hround
          rw [step_scanning_next hround]
          exact Or.inr ⟨hnext, Or.inl hlt⟩
      | done r =>
          rw [step_scanning_done hround]
          exact (StackScan.iterations_done hround).imp id fun h => ⟨h.2, Or.inl h.1⟩
  | ended s status => exact Or.inl rfl

/-! ## All rounds -/

theorem iterations_mono (ctx : Context) :
    Monotone fun n => (phaseAt ctx n).state.tally.iterations := by
  refine monotone_nat_of_le_succ fun n => ?_
  rw [phaseAt_succ]
  rcases Phase.iterations_step ctx (phaseAt ctx n) with h | ⟨h, -⟩ <;> omega

theorem iterations_first (ctx : Context) : (phaseAt ctx 0).state.tally.iterations = 0 := by
  obtain ⟨failures, htally⟩ := State.tally_start ctx
  rw [state_first, htally]
  rfl

/-- The rounds of the probe are its iterations. -/
theorem iterations_probing {n : Nat} {fp : Address} {p : LeafProbe}
    (h : phaseAt ctx n = .probing fp p) : p.state.tally.iterations = n := by
  induction n generalizing p with
  | zero =>
      have hfirst := iterations_first ctx
      rw [h] at hfirst
      exact hfirst
  | succ n ih =>
      rw [phaseAt_succ] at h
      obtain ⟨q, hq, hround⟩ := Phase.probing_of_step h
      obtain ⟨counter, -, -, rfl⟩ := LeafProbe.next_cases hround
      exact congrArg (· + 1) (ih hq)

/-- The word that the probe looks at after `n` others is its `n + 1`st. -/
theorem Context.Examines.iterations {n : Nat} (h : ctx.Examines n) :
    (phaseAt ctx (n + 1)).state.tally.iterations = n + 1 := by
  obtain ⟨fp, p, hp, hlt⟩ := h
  rw [phaseAt_succ, hp, LeafProbe.iterations_step, if_pos hlt, iterations_probing hp]

/-- No more iterations are taken than the budget has, or than the probe looks at words. -/
theorem Context.ProbesWithin.iterations_le {count : Nat} (h : ctx.ProbesWithin count)
    (hmax : ctx.limits.maxIterations.toNat ≤ count) (n : Nat) :
    (phaseAt ctx n).state.tally.iterations ≤ count := by
  induction n with
  | zero =>
      rw [iterations_first]
      exact Nat.zero_le count
  | succ n ih =>
      rw [phaseAt_succ]
      rcases Phase.iterations_step ctx (phaseAt ctx n) with hsame | ⟨hmore, hlt | ⟨fp, q, hq, hlt⟩⟩
      · rw [hsame]
        exact ih
      · omega
      · -- the probe has taken one iteration for each round
        have hn : n < count := h n ⟨fp, q, hq, hlt⟩
        rw [hmore, hq]
        exact Nat.succ_le_of_lt ((iterations_probing hq).symm ▸ hn)

/-! ## The whole walk -/

theorem iterations_outcome_le {count : Nat} (hhalts : ctx.Halts) (h : ctx.ProbesWithin count)
    (hmax : ctx.limits.maxIterations.toNat ≤ count) :
    (outcome ctx).1.tally.iterations ≤ count := by
  obtain ⟨m, hm⟩ := ended_of_halts hhalts
  have hle := h.iterations_le hmax m
  rw [hm] at hle
  exact hle

/-- Whatever the probe has looked at is counted at the end. -/
theorem Context.Examines.lt_outcome {n : Nat} (h : ctx.Examines n) (hhalts : ctx.Halts) :
    n < (outcome ctx).1.tally.iterations := by
  obtain ⟨m, hm⟩ := ended_of_halts hhalts
  have hend : phaseAt ctx (n + 1 + m) = .ended (outcome ctx).1 (outcome ctx).2 := by
    rw [phaseAt_add, hm, iterate_step_ended]
  have hle : (phaseAt ctx (n + 1)).state.tally.iterations ≤
      (phaseAt ctx (n + 1 + m)).state.tally.iterations :=
    iterations_mono ctx (Nat.le_add_right _ m)
  rw [h.iterations, hend] at hle
  exact hle

/-- The counter of the trace is that of the machine, unless it runs over. -/
theorem iterations_run (huser : ¬ ctx.arch.isKernelAddress ctx.registers.pc = true)
    (hless : (outcome ctx).1.tally.iterations < 0x1_0000_0000) :
    (run ctx).stats.iterations.toNat = (outcome ctx).1.tally.iterations := by
  rw [run_of_outcome huser]
  exact UInt32.toNat_ofNat_of_lt' hless

theorem Context.HasRoom.iterations_le_max (h : ctx.HasRoom) :
    (outcome ctx).1.tally.iterations ≤ max ctx.limits.maxIterations.toNat ctx.probeLimit :=
  iterations_outcome_le h.halts
    (fun n hexamines => Nat.lt_of_lt_of_le (h.probesWithin n hexamines) (Nat.le_max_right _ _))
    (Nat.le_max_left _ _)

/-- Where the probe has room the counter does not run over. -/
theorem Context.HasRoom.iterations_lt (h : ctx.HasRoom) :
    (outcome ctx).1.tally.iterations < 0x1_0000_0000 := by
  have hle := h.iterations_le_max
  have hmax := ctx.limits.maxIterations.toNat_lt
  have hlimit : ctx.probeLimit < 0x1_0000_0000 := by
    unfold Context.probeLimit
    rcases ctx.toNat_word with hword | hword <;> rw [hword] <;> decide
  omega

theorem iterations_run_le_iff (hhalts : ctx.Halts)
    (huser : ¬ ctx.arch.isKernelAddress ctx.registers.pc = true)
    (hless : ctx.ProbesWithin (0x1_0000_0000 - 1)) :
    (run ctx).stats.iterations ≤ ctx.limits.maxIterations ↔
      ctx.ProbesWithin ctx.limits.maxIterations.toNat := by
  have hmax := ctx.limits.maxIterations.toNat_lt
  have hall := iterations_outcome_le hhalts hless (by omega)
  rw [UInt32.le_iff_toNat_le, iterations_run huser (by omega)]
  constructor
  · intro hle n hexamines
    have hcounted := hexamines.lt_outcome hhalts
    omega
  · intro hwithin
    exact iterations_outcome_le hhalts hwithin (Nat.le_refl _)

end Iterations

/-- **A walk keeps to its iteration budget exactly if its probe does**, which does not ask for the budget.
So the trace tells no more iterations than the budget has, or than the few words of the probe if they are
more. -/
theorem iterations_le_iff (ctx : Context) :
    ((∀ n, (phaseAt ctx n).state.tally.iterations ≤ ctx.limits.maxIterations.toNat) ↔
      ctx.ProbesWithin ctx.limits.maxIterations.toNat) ∧
    (∀ t, Returns ctx t → ctx.ProbesWithin (0x1_0000_0000 - 1) →
      (t.stats.iterations ≤ ctx.limits.maxIterations ↔
        ctx.arch.isKernelAddress ctx.registers.pc = true ∨
          ctx.ProbesWithin ctx.limits.maxIterations.toNat)) ∧
    (ctx.HasRoom →
      (run ctx).stats.iterations.toNat ≤ max ctx.limits.maxIterations.toNat ctx.probeLimit) := by
  have hrefused (hkernel : ctx.arch.isKernelAddress ctx.registers.pc = true) :
      (run ctx).stats.iterations.toNat = 0 := by
    rw [run_of_kernel hkernel]
    rfl
  refine ⟨⟨?_, fun h => h.iterations_le (Nat.le_refl _)⟩, ?_, ?_⟩
  · intro h n hexamines
    have hle := h (n + 1)
    rw [hexamines.iterations] at hle
    exact hle
  · intro t ht hless
    obtain rfl := eq_run_of_returns ht
    by_cases hkernel : ctx.arch.isKernelAddress ctx.registers.pc = true
    · refine iff_of_true ?_ (Or.inl hkernel)
      rw [UInt32.le_iff_toNat_le, hrefused hkernel]
      exact Nat.zero_le _
    · have hhalts := (returns_run_iff.mp ht).resolve_left hkernel
      rw [iterations_run_le_iff hhalts hkernel hless, or_iff_right hkernel]
  · intro hroom
    by_cases hkernel : ctx.arch.isKernelAddress ctx.registers.pc = true
    · rw [hrefused hkernel]
      exact Nat.zero_le _
    · rw [iterations_run hkernel hroom.iterations_lt]
      exact hroom.iterations_le_max

/-- A thread with four words that cannot be read below its frame pointer, and a budget of one
iteration. -/
def unreadLeaf : Context where
  arch := .x86_64
  target := Tables.target
    { images := [(⟨"app"⟩, .main, 0x400000, 0x410000)]
      routines := [("compute", 0x401300, 0x100)]
      code := [(0x401310, ⟨1, "nop"⟩)]
      words := [] }
  registers := (Registers.ofPcSp ⟨0x401310⟩ ⟨0x7FFE0000⟩).withFp ⟨0x7FFE0020⟩
  limits := { Limits.standard with maxIterations := 1 }

/-- The probe looks at all four of them. -/
theorem unreadLeaf_overdraws :
    ¬ (run unreadLeaf).stats.iterations ≤ unreadLeaf.limits.maxIterations := by
  decide +kernel

end StackWalk.Walk

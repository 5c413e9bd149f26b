import Mathlib.Order.Monotone.Basic
import StackWalk.Proofs.Walk.Halting

/-!
# StackWalk.Proofs.Walk.Scanning — the states that a scan comes to

The machine comes to its scan in one way only, because its phases come in order: it leaves the chain
once, with what the first phases of `run` have found.  So a property of the scan that holds there, and
that every round of the scan keeps, holds at every round of the scan.

The invariants of `holds_phaseAt` know of the state before the scan no more than what every round keeps.
`scanning_induction` is for statements that compare a scan with the very state it has started from, or
that need more of a round than its effect on the state.
-/

namespace StackWalk.Walk

/-! ## The phases come in order -/

namespace Phase

/-- The place of a phase in the order of a walk. -/
def rank : Phase → Nat
  | .probing _ _ => 0
  | .chaining _ => 1
  | .leaving _ _ => 2
  | .scanning _ => 3
  | .ended _ _ => 4

variable {ctx : Context}

theorem Steps.rank_le {p q : Phase} (h : p.Steps ctx q) : p.rank ≤ q.rank := by
  cases h <;> simp [rank]

/-- The chain is left in one round. -/
theorem Steps.rank_lt_of_leaving {s : State} {onward : Onward} {q : Phase}
    (h : (leaving s onward).Steps ctx q) : 2 < q.rank := by
  cases h <;> simp [rank]

/-- Whether the phase is a round of the scan. -/
def isScanning : Phase → Bool
  | .scanning _ => true
  | _ => false

theorem exists_of_isScanning {p : Phase} (h : p.isScanning = true) : ∃ s, p = .scanning s := by
  cases p with
  | scanning s => exact ⟨s, rfl⟩
  | probing fp p => cases h
  | chaining c => cases h
  | leaving s onward => cases h
  | ended s status => cases h

/-- A round comes to the scan from where the chain is left, or from another round of the scan. -/
theorem scanning_of_step {q : Phase} {s : StackScan} (h : q.step ctx = .scanning s) :
    (∃ s₀ cursor, q = .leaving s₀ (.scan cursor) ∧ s = ⟨s₀.floored, cursor, 0⟩) ∨
      ∃ s₀, q = .scanning s₀ ∧ StackScan.round ctx s₀ = .next s := by
  have hsteps := q.steps ctx
  rw [h] at hsteps
  cases hsteps with
  | start s₀ cursor => exact Or.inl ⟨s₀, cursor, rfl, rfl⟩
  | scan hround => exact Or.inr ⟨_, rfl, hround⟩

end Phase

section Scanning

variable {ctx : Context}

theorem rank_mono (ctx : Context) : Monotone fun n => (phaseAt ctx n).rank := by
  refine monotone_nat_of_le_succ fun n => ?_
  rw [phaseAt_succ]
  exact (Phase.steps ctx _).rank_le

/-- A walk starts before the scan. -/
theorem rank_first_le (ctx : Context) : (phaseAt ctx 0).rank ≤ 2 := by
  rw [phaseAt_zero]
  unfold Phase.first
  split <;> simp [Phase.rank]

/-- The chain is left once. -/
theorem leaving_unique {m n : Nat} {s s' : State} {onward onward' : Onward}
    (hm : phaseAt ctx m = .leaving s onward) (hn : phaseAt ctx n = .leaving s' onward') :
    s = s' ∧ onward = onward' := by
  have hpast {m n : Nat} {s s' : State} {onward onward' : Onward}
      (hm : phaseAt ctx m = .leaving s onward) (hn : phaseAt ctx n = .leaving s' onward') :
      n ≤ m := by
    by_contra hlt
    have hnext := (Phase.leaving s onward).steps ctx
    rw [← hm, ← phaseAt_succ, hm] at hnext
    have hle : (phaseAt ctx (m + 1)).rank ≤ (phaseAt ctx n).rank :=
      rank_mono ctx (Nat.lt_of_not_le hlt)
    rw [hn] at hle
    exact absurd (Nat.lt_of_lt_of_le hnext.rank_lt_of_leaving hle) (Nat.lt_irrefl 2)
  obtain rfl := Nat.le_antisymm (hpast hn hm) (hpast hm hn)
  exact Phase.leaving.inj (hm.symm.trans hn)

/-- No round of the scan comes after the end. -/
theorem le_of_ended {m n : Nat} {scan : StackScan} {s : State} {status : Status}
    (hm : phaseAt ctx m = .scanning scan) (hn : phaseAt ctx (n + 1) = .ended s status) : m ≤ n := by
  by_contra hlt
  have hle : (phaseAt ctx (n + 1)).rank ≤ (phaseAt ctx m).rank :=
    rank_mono ctx (Nat.lt_of_not_le hlt)
  rw [hn, hm] at hle
  exact absurd hle (Nat.not_succ_le_self 3)

/-- The machine leaves the chain with what `run` has found there. -/
theorem leaving_eq {n : Nat} {s : State} {onward : Onward} (h : phaseAt ctx n = .leaving s onward) :
    (State.start ctx).addChain ctx = (s, onward) := by
  have hhalts : ctx.Halts := by
    refine halts_of_not_probing (n := n) fun fp p hp => ?_
    rw [h] at hp
    cases hp
  obtain ⟨m, hm⟩ := leaving_of_halts hhalts
  obtain ⟨hs, honward⟩ := leaving_unique hm h
  exact Prod.ext hs honward

theorem beforeScan_of_leaving {n : Nat} {s : State} {onward : Onward}
    (h : phaseAt ctx n = .leaving s onward) : beforeScan ctx = (s.floored, onward) := by
  unfold beforeScan
  rw [leaving_eq h]
  rfl

/-- A chain that is left for the end of the walk is left by one of its rounds. -/
theorem chained_of_stop {n : Nat} {s : State} {status : Status}
    (h : phaseAt ctx n = .leaving s (.stop status)) :
    ∃ c, PointerChain.round ctx c = .done (s, .stop status) := by
  cases n with
  | zero =>
      rw [phaseAt_zero] at h
      unfold Phase.first at h
      split at h <;> cases h
  | succ n =>
      have hsteps := (phaseAt ctx n).steps ctx
      rw [← phaseAt_succ] at hsteps
      generalize phaseAt ctx n = p, phaseAt ctx (n + 1) = q at h hsteps
      cases hsteps with
      | chained hround =>
          obtain ⟨rfl, honward⟩ := Phase.leaving.inj h
          rw [← honward]
          exact ⟨_, hround⟩
      | _ => cases h

/-- A walk ends where the chain ends it, or where a round of the scan does. -/
theorem ended_cases {n : Nat} {s : State} {status : Status} (h : phaseAt ctx n = .ended s status) :
    (∃ m s₀, phaseAt ctx m = .leaving s₀ (.stop status) ∧ s = s₀.floored) ∨
      ∃ m scan, phaseAt ctx m = .scanning scan ∧ phaseAt ctx (m + 1) = .ended s status ∧
        StackScan.round ctx scan = .done (s, status) := by
  induction n with
  | zero => exact absurd (rank_first_le ctx) (by simp [h, Phase.rank])
  | succ n ih =>
      have hend := h
      have hsteps := (phaseAt ctx n).steps ctx
      rw [← phaseAt_succ] at hsteps
      generalize hp : phaseAt ctx n = p, phaseAt ctx (n + 1) = q at h hsteps
      cases hsteps with
      | stop s₀ status₀ =>
          obtain ⟨rfl, rfl⟩ := Phase.ended.inj h
          exact Or.inl ⟨n, s₀, hp, rfl⟩
      | scanned hround =>
          obtain ⟨rfl, rfl⟩ := Phase.ended.inj h
          exact Or.inr ⟨n, _, hp, hend, hround⟩
      | rest s₀ status₀ =>
          cases h
          exact ih hp
      | _ => cases h

/-- What the scan starts with and every round of it keeps holds at every round of the scan.  A round may
be looked at where it stands in the walk. -/
theorem scanning_induction_at {P : StackScan → Prop}
    (hfirst : ∀ cursor, (beforeScan ctx).2 = .scan cursor → P ⟨(beforeScan ctx).1, cursor, 0⟩)
    (hnext : ∀ n s s', phaseAt ctx n = .scanning s → phaseAt ctx (n + 1) = .scanning s' → P s →
      StackScan.round ctx s = .next s' → P s') {n : Nat} {s : StackScan}
    (h : phaseAt ctx n = .scanning s) : P s := by
  induction n generalizing s with
  | zero => exact absurd (rank_first_le ctx) (by simp [h, Phase.rank])
  | succ n ih =>
      have hstep := h
      rw [phaseAt_succ] at hstep
      rcases Phase.scanning_of_step hstep with ⟨s₀, cursor, hleaving, rfl⟩ | ⟨s₀, hscanning, hround⟩
      · have hP := hfirst cursor
        rw [beforeScan_of_leaving hleaving] at hP
        exact hP rfl
      · exact hnext n s₀ s hscanning h (ih hscanning) hround

theorem scanning_induction {P : StackScan → Prop}
    (hfirst : ∀ cursor, (beforeScan ctx).2 = .scan cursor → P ⟨(beforeScan ctx).1, cursor, 0⟩)
    (hnext : ∀ s s', P s → StackScan.round ctx s = .next s' → P s') {n : Nat} {s : StackScan}
    (h : phaseAt ctx n = .scanning s) : P s :=
  scanning_induction_at hfirst (fun _ s s' _ _ hs hround => hnext s s' hs hround) h

/-- A walk that scans has not been ended by the chain. -/
theorem scan_of_scanning {n : Nat} {s : StackScan} (h : phaseAt ctx n = .scanning s) :
    ∃ cursor, (beforeScan ctx).2 = .scan cursor :=
  scanning_induction (P := fun _ => ∃ cursor, (beforeScan ctx).2 = .scan cursor)
    (fun cursor honward => ⟨cursor, honward⟩) (fun _ _ hsome _ => hsome) h

/-- The same for the state that `run` reports. -/
theorem outcome_of_scan {P : StackScan → Prop} {Q : State → Prop}
    (hstop : ∀ status, (beforeScan ctx).2 = .stop status → Q (beforeScan ctx).1)
    (hfirst : ∀ cursor, (beforeScan ctx).2 = .scan cursor → P ⟨(beforeScan ctx).1, cursor, 0⟩)
    (hnext : ∀ s s', P s → StackScan.round ctx s = .next s' → P s')
    (hdone : ∀ s r, P s → StackScan.round ctx s = .done r → Q r.1)
    (hspent : ∀ s, P s → Q s.state) : Q (outcome ctx).1 := by
  cases honward : (beforeScan ctx).2 with
  | stop status =>
      rw [outcome_stop honward]
      exact hstop status honward
  | scan cursor =>
      rw [outcome_scan honward]
      exact iterate_induction (Q := fun r : State × Status => Q r.1) hnext hdone hspent _
        (hfirst cursor honward)

/-! ## What a round does, and when -/

namespace StackScan

variable {P : State → Prop} {s : StackScan}

/-- An advance only counts. -/
theorem found_advance (ctx : Context) (s : StackScan) :
    ∃ t, found (advance ctx s) = s.state.setTally t := by
  rcases advance_cases ctx s with ⟨next, t, -, h⟩ | ⟨t, -, h⟩
  · rw [h]
    exact ⟨t, rfl⟩
  · rw [h]
    exact ⟨t, rfl⟩

/-- What counting keeps, and what the word in the slot does not spoil, a look at the slot keeps. -/
theorem keeps_look (hcount : ∀ s t, P s → P (s.setTally t)) (h : P s.state)
    (hconsider : ∀ value, ctx.slot? s.cursor = some value →
      P (s.state.consider ctx s.cursor value)) : P (found (look ctx s)) := by
  have hadvance (s₁ : StackScan) (h₁ : P s₁.state) : P (found (advance ctx s₁)) := by
    obtain ⟨t, ht⟩ := found_advance ctx s₁
    rw [ht]
    exact hcount _ t h₁
  unfold look
  split
  · dsimp only
    split
    · exact hcount _ _ h
    · exact hadvance _ (hcount _ _ h)
  case h_2 value hheld => exact hadvance _ (hconsider value hheld)

/-- A round of the scan keeps what counting keeps, if a look at a word does where there is no gap, and a
recovery where there is one. -/
theorem keeps_round (hcount : ∀ s t, P s → P (s.setTally t)) (h : P s.state)
    (hconsider : s.state.gapAt ctx s.cursor = false → ∀ value, ctx.slot? s.cursor = some value →
      P (s.state.countIteration.consider ctx s.cursor value))
    (hrecover : ∀ s', s.state.gapAt ctx s.cursor = true → round ctx s = .next s' →
      Recovers ctx s.state s'.state s'.cursor → P s'.state) : P (found (round ctx s)) := by
  rcases round_cases ctx s with ⟨status, -, hround⟩ | ⟨state, resume, -, hgap, hrecovered, hround⟩ |
    ⟨-, -, hround⟩ | ⟨-, hgap, hround⟩
  · rw [hround]
    exact h
  · have hkept := hrecover _ hgap hround (State.recovers_of_recover hrecovered).of_setTally
    rw [hround]
    exact hkept
  · rw [hround]
    exact hcount s.state _ h
  · rw [hround]
    exact keeps_look hcount (hcount s.state _ h) (hconsider hgap)

theorem keeps_next {s' : StackScan} (h : P (found (round ctx s))) (hround : round ctx s = .next s') :
    P s'.state := by
  rw [hround] at h
  exact h

end StackScan

/-- What holds before the scan and at the end of every round that it holds before is true of the state
that is reported. -/
theorem outcome_of_rounds {P : State → Prop} (hbefore : P (beforeScan ctx).1)
    (hround : ∀ s : StackScan, P s.state → P (StackScan.found (StackScan.round ctx s))) :
    P (outcome ctx).1 := by
  apply outcome_of_scan (P := fun s => P s.state)
  · intro status _
    exact hbefore
  · intro cursor _
    exact hbefore
  · intro s s' hs hnext
    exact StackScan.keeps_next (hround s hs) hnext
  · intro s r hs hdone
    have hfound := hround s hs
    rw [hdone] at hfound
    exact hfound
  · intro s hs
    exact hs

end Scanning

end StackWalk.Walk

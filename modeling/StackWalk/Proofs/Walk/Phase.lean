import Mathlib.Data.Nat.Init
import Mathlib.Logic.Function.Iterate
import StackWalk.Proofs.Walk.Change
import StackWalk.Walk

/-!
# StackWalk.Proofs.Walk.Phase — the walk as a machine without a bound

`run` gives each of its loops a number of rounds that is meant to be enough.  Here the same rounds are
the steps of a machine that has no such number: `phaseAt ctx n` is where the walk stands after `n` of
them, and a walk that never ends is one that never reaches `Phase.ended`.  What a walk returns, if it
returns at all, is `Returns`.

Invariants are carried over in two ways: `holds_phaseAt` to every state that the machine comes to, and
`outcome_induction` to the state that `run` reports.  Both ask for the same two predicates, one kept by
the rounds before the scan and one by the rounds of the scan.
-/

namespace StackWalk.Walk

/-! ## The machine -/

/-- Where a walk stands between two rounds. -/
inductive Phase
  /-- It looks for the return address of a function without a frame, below the frame pointer `fp`. -/
  | probing (fp : Address) (p : LeafProbe)
  /-- It follows the chain of frame pointers. -/
  | chaining (c : PointerChain)
  /-- It has left the chain, or never followed one. -/
  | leaving (s : State) (onward : Onward)
  /-- It scans the stack. -/
  | scanning (s : StackScan)
  | ended (s : State) (status : Status)

/-- The frame pointer, if it may be followed and can be believed. -/
def Context.livePointer? (ctx : Context) : Option Address :=
  (if ctx.arch.chainsFrames then ctx.arch.framePointer? ctx.registers else none).filter ctx.isLive

/-- The state with a floor under the frames found so far. -/
def State.floored (s : State) : State := { s with rollbackFloor := s.stack.size }

namespace Phase

/-- What the walk has found. -/
def state : Phase → State
  | .probing _ p => p.state
  | .chaining c => c.state
  | .leaving s _ => s
  | .scanning s => s.state
  | .ended s _ => s

/-- Where the walk starts: with the frames that the registers show. -/
def first (ctx : Context) : Phase :=
  match ctx.livePointer? with
  | none => .leaving (State.start ctx) (.scan ctx.registers.sp)
  | some fp => .probing fp ⟨State.start ctx, ctx.registers.sp⟩

/-- One round. -/
def step (ctx : Context) : Phase → Phase
  | .probing fp p =>
    match LeafProbe.round ctx fp p with
    | .next p => .probing fp p
    | .done s => .chaining ⟨s, fp, 0, none⟩
  | .chaining c =>
    match PointerChain.round ctx c with
    | .next c => .chaining c
    | .done (s, onward) => .leaving s onward
  | .leaving s (.stop status) => .ended s.floored status
  | .leaving s (.scan cursor) => .scanning ⟨s.floored, cursor, 0⟩
  | .scanning s =>
    match StackScan.round ctx s with
    | .next s => .scanning s
    | .done (s, status) => .ended s status
  | .ended s status => .ended s status

section Step

variable {ctx : Context}

theorem step_probing_next {fp : Address} {p p' : LeafProbe}
    (h : LeafProbe.round ctx fp p = .next p') : (probing fp p).step ctx = .probing fp p' := by
  simp only [step, h]

theorem step_probing_done {fp : Address} {p : LeafProbe} {s : State}
    (h : LeafProbe.round ctx fp p = .done s) :
    (probing fp p).step ctx = .chaining ⟨s, fp, 0, none⟩ := by
  simp only [step, h]

theorem step_chaining_next {c c' : PointerChain} (h : PointerChain.round ctx c = .next c') :
    (chaining c).step ctx = .chaining c' := by
  simp only [step, h]

theorem step_chaining_done {c : PointerChain} {r : State × Onward}
    (h : PointerChain.round ctx c = .done r) : (chaining c).step ctx = .leaving r.1 r.2 := by
  simp only [step, h]

theorem step_scanning_next {s s' : StackScan} (h : StackScan.round ctx s = .next s') :
    (scanning s).step ctx = .scanning s' := by
  simp only [step, h]

theorem step_scanning_done {s : StackScan} {r : State × Status}
    (h : StackScan.round ctx s = .done r) : (scanning s).step ctx = .ended r.1 r.2 := by
  simp only [step, h]

/-- All that one round can come to. -/
inductive Steps (ctx : Context) : Phase → Phase → Prop
  | probe {fp : Address} {p p' : LeafProbe} (h : LeafProbe.round ctx fp p = .next p') :
      Steps ctx (.probing fp p) (.probing fp p')
  | probed {fp : Address} {p : LeafProbe} {s : State} (h : LeafProbe.round ctx fp p = .done s) :
      Steps ctx (.probing fp p) (.chaining ⟨s, fp, 0, none⟩)
  | chain {c c' : PointerChain} (h : PointerChain.round ctx c = .next c') :
      Steps ctx (.chaining c) (.chaining c')
  | chained {c : PointerChain} {r : State × Onward} (h : PointerChain.round ctx c = .done r) :
      Steps ctx (.chaining c) (.leaving r.1 r.2)
  | stop (s : State) (status : Status) : Steps ctx (.leaving s (.stop status)) (.ended s.floored status)
  | start (s : State) (cursor : Address) :
      Steps ctx (.leaving s (.scan cursor)) (.scanning ⟨s.floored, cursor, 0⟩)
  | scan {s s' : StackScan} (h : StackScan.round ctx s = .next s') :
      Steps ctx (.scanning s) (.scanning s')
  | scanned {s : StackScan} {r : State × Status} (h : StackScan.round ctx s = .done r) :
      Steps ctx (.scanning s) (.ended r.1 r.2)
  | rest (s : State) (status : Status) : Steps ctx (.ended s status) (.ended s status)

theorem steps (ctx : Context) (p : Phase) : p.Steps ctx (p.step ctx) := by
  cases p with
  | probing fp p =>
      cases hround : LeafProbe.round ctx fp p with
      | next p' =>
          rw [step_probing_next hround]
          exact .probe hround
      | done s =>
          rw [step_probing_done hround]
          exact .probed hround
  | chaining c =>
      cases hround : PointerChain.round ctx c with
      | next c' =>
          rw [step_chaining_next hround]
          exact .chain hround
      | done r =>
          rw [step_chaining_done hround]
          exact .chained hround
  | leaving s onward =>
      cases onward with
      | stop status => exact .stop s status
      | scan cursor => exact .start s cursor
  | scanning s =>
      cases hround : StackScan.round ctx s with
      | next s' =>
          rw [step_scanning_next hround]
          exact .scan hround
      | done r =>
          rw [step_scanning_done hround]
          exact .scanned hround
  | ended s status => exact .rest s status

/-- Only the probe goes on with the probe. -/
theorem probing_of_step {fp : Address} {p : LeafProbe} {q : Phase} (h : q.step ctx = .probing fp p) :
    ∃ p₀, q = .probing fp p₀ ∧ LeafProbe.round ctx fp p₀ = .next p := by
  have hsteps := q.steps ctx
  rw [h] at hsteps
  cases hsteps with
  | probe hround => exact ⟨_, rfl, hround⟩

end Step

end Phase

/-- Where the walk stands after so many rounds. -/
def phaseAt (ctx : Context) (n : Nat) : Phase :=
  (Phase.step ctx)^[n] (Phase.first ctx)

@[simp]
theorem phaseAt_zero (ctx : Context) : phaseAt ctx 0 = Phase.first ctx := rfl

theorem state_first (ctx : Context) : (phaseAt ctx 0).state = State.start ctx := by
  rw [phaseAt_zero]
  unfold Phase.first
  split <;> rfl

theorem phaseAt_succ (ctx : Context) (n : Nat) :
    phaseAt ctx (n + 1) = (phaseAt ctx n).step ctx :=
  Function.iterate_succ_apply' _ _ _

theorem phaseAt_add (ctx : Context) (m n : Nat) :
    phaseAt ctx (n + m) = (Phase.step ctx)^[n] (phaseAt ctx m) :=
  Function.iterate_add_apply _ _ _ _

/-- The trace that a walk returns, if it ends. -/
def Returns (ctx : Context) (t : Trace) : Prop :=
  if ctx.arch.isKernelAddress ctx.registers.pc then t = refused ctx.registers.pc
  else ∃ n s status, phaseAt ctx n = .ended s status ∧ t = report ctx.limits s status

theorem iterate_step_ended (ctx : Context) (n : Nat) (s : State) (status : Status) :
    (Phase.step ctx)^[n] (.ended s status) = .ended s status :=
  Function.iterate_fixed rfl n

/-- A walk ends in one way only. -/
theorem ended_unique {ctx : Context} {m n : Nat} {s s' : State} {status status' : Status}
    (hm : phaseAt ctx m = .ended s status) (hn : phaseAt ctx n = .ended s' status') :
    s = s' ∧ status = status' := by
  -- after `m + n` rounds the walk has ended in both ways
  have h : phaseAt ctx (n + m) = phaseAt ctx (m + n) := by rw [Nat.add_comm]
  rw [phaseAt_add, phaseAt_add, hm, hn, iterate_step_ended, iterate_step_ended] at h
  exact Phase.ended.inj h

namespace Phase

/-- All that a round can do to what the walk has found. -/
theorem Steps.effect {ctx : Context} {p q : Phase} (h : p.Steps ctx q) :
    q.state = p.state ∨ q.state = p.state.floored ∨ Gathers ctx p.state q.state ∨
      Scans ctx p.state q.state := by
  cases h with
  | probe hround => exact Or.inr (Or.inr (Or.inl (LeafProbe.gathers_of_next hround)))
  | probed hround => exact Or.inr (Or.inr (Or.inl (LeafProbe.gathers_of_done hround)))
  | chain hround => exact Or.inr (Or.inr (Or.inl (PointerChain.gathers_of_next hround)))
  | chained hround => exact Or.inr (Or.inr (Or.inl (PointerChain.gathers_of_done hround)))
  | stop s status => exact Or.inr (Or.inl rfl)
  | start s cursor => exact Or.inr (Or.inl rfl)
  | scan hround => exact Or.inr (Or.inr (Or.inr (StackScan.scans_of_next hround)))
  | scanned hround => exact Or.inr (Or.inr (Or.inr (StackScan.scans_of_done hround)))
  | rest s status => exact Or.inl rfl

theorem step_effect (ctx : Context) (p : Phase) :
    (p.step ctx).state = p.state ∨ (p.step ctx).state = p.state.floored ∨
      Gathers ctx p.state (p.step ctx).state ∨ Scans ctx p.state (p.step ctx).state :=
  (p.steps ctx).effect

end Phase

/-! ## What is never taken back -/

/-- The later state has what the earlier one had blacklisted, and has been restarted if that one had. -/
structure State.RetainedBy (s s' : State) : Prop where
  blacklist : s.blacklist ⊆ s'.blacklist
  restarted : s.restarted = true → s'.restarted = true

theorem State.retainedBy_refl (s : State) : s.RetainedBy s := ⟨List.Subset.refl _, id⟩

theorem State.RetainedBy.trans {s s' s'' : State} (h : s.RetainedBy s') (h' : s'.RetainedBy s'') :
    s.RetainedBy s'' :=
  ⟨List.Subset.trans h.blacklist h'.blacklist, fun hrestarted => h'.restarted (h.restarted hrestarted)⟩

theorem State.Steady.retained {s s' : State} (h : s.Steady s') : s.RetainedBy s' :=
  ⟨h.blacklist ▸ List.Subset.refl _, fun hrestarted => h.restarted.trans hrestarted⟩

theorem Scans.retained {ctx : Context} {s s' : State} (h : Scans ctx s s') : s.RetainedBy s' := by
  cases h with
  | looked cursor hlooks => exact hlooks.steady.retained
  | recovered resume hrecovers =>
      cases hrecovers with
      | restarted hfew hnot t => exact ⟨by simp, fun _ => by simp⟩
      | rolledBack hmore hsite hfree t => exact ⟨by simp, fun h => by simpa using h⟩

theorem Phase.retained_step (ctx : Context) (p : Phase) : p.state.RetainedBy (p.step ctx).state := by
  rcases p.step_effect ctx with heq | heq | hgathers | hscans
  · rw [heq]
    exact State.retainedBy_refl _
  · rw [heq]
    exact ⟨List.Subset.refl _, id⟩
  · exact hgathers.steady.retained
  · exact hscans.retained

theorem retained_of_le (ctx : Context) {m n : Nat} (h : m ≤ n) :
    (phaseAt ctx m).state.RetainedBy (phaseAt ctx n).state := by
  induction n, h using Nat.le_induction with
  | base => exact State.retainedBy_refl _
  | succ n _ ih =>
      rw [phaseAt_succ]
      exact ih.trans (Phase.retained_step ctx _)

/-! ## Invariants -/

namespace Phase

/-- `P` before the scan, `Q` from there on. -/
def Holds (P Q : State → Prop) : Phase → Prop
  | .probing _ p => P p.state
  | .chaining c => P c.state
  | .leaving s _ => P s
  | .scanning s => Q s.state
  | .ended s _ => Q s

end Phase

section Invariants

variable {ctx : Context} {P Q : State → Prop}

theorem holds_step (hgather : ∀ s s', P s → Gathers ctx s s' → P s')
    (hleave : ∀ s, P s → Q s.floored) (hscan : ∀ s s', Q s → Scans ctx s s' → Q s')
    {p q : Phase} (h : p.Holds P Q) (hstep : p.Steps ctx q) : q.Holds P Q := by
  cases hstep with
  | probe hround => exact hgather _ _ h (LeafProbe.gathers_of_next hround)
  | probed hround => exact hgather _ _ h (LeafProbe.gathers_of_done hround)
  | chain hround => exact hgather _ _ h (PointerChain.gathers_of_next hround)
  | chained hround => exact hgather _ _ h (PointerChain.gathers_of_done hround)
  | stop s status => exact hleave s h
  | start s cursor => exact hleave s h
  | scan hround => exact hscan _ _ h (StackScan.scans_of_next hround)
  | scanned hround => exact hscan _ _ h (StackScan.scans_of_done hround)
  | rest s status => exact h

theorem Phase.holds_self {p : Phase} : p.Holds P P ↔ P p.state := by
  cases p <;> exact Iff.rfl

/-- What the start satisfies and every round keeps holds wherever the walk comes to. -/
theorem holds_phaseAt (hstart : P (State.start ctx))
    (hgather : ∀ s s', P s → Gathers ctx s s' → P s') (hleave : ∀ s, P s → Q s.floored)
    (hscan : ∀ s s', Q s → Scans ctx s s' → Q s') (n : Nat) : (phaseAt ctx n).Holds P Q := by
  induction n with
  | zero =>
      rw [phaseAt_zero]
      unfold Phase.first
      split <;> exact hstart
  | succ n ih =>
      rw [phaseAt_succ]
      exact holds_step hgather hleave hscan ih (Phase.steps ctx _)

theorem addChain_eq (ctx : Context) (s : State) :
    s.addChain ctx =
      match ctx.livePointer? with
      | none => (s, Onward.scan ctx.registers.sp)
      | some fp => PointerChain.run ctx fp (LeafProbe.run ctx fp s) := rfl

theorem addChain_none {ctx : Context} (h : ctx.livePointer? = none) (s : State) :
    s.addChain ctx = (s, .scan ctx.registers.sp) := by
  rw [addChain_eq, h]

theorem addChain_some {ctx : Context} {fp : Address} (h : ctx.livePointer? = some fp) (s : State) :
    s.addChain ctx = PointerChain.run ctx fp (LeafProbe.run ctx fp s) := by
  rw [addChain_eq, h]

theorem Context.livePointer?_eq_none {ctx : Context} (h : ctx.registers.fp = none) :
    ctx.livePointer? = none := by
  unfold livePointer? Architecture.framePointer?
  rw [h]
  split <;> rfl

/-- Where no frame pointer is followed the scan has all to do. -/
theorem beforeScan_of_no_pointer {ctx : Context} (h : ctx.livePointer? = none) :
    beforeScan ctx = ((State.start ctx).floored, .scan ctx.registers.sp) := by
  unfold beforeScan
  rw [addChain_none h]
  rfl

/-- What the start satisfies and every round of the probe and of the chain keeps holds when the chain is
left. -/
theorem addChain_of_rounds (hstart : P (State.start ctx))
    (hprobe : ∀ fp p p', P p.state → LeafProbe.round ctx fp p = .next p' → P p'.state)
    (hprobed : ∀ fp p s, P p.state → LeafProbe.round ctx fp p = .done s → P s)
    (hchain : ∀ c c', P c.state → PointerChain.round ctx c = .next c' → P c'.state)
    (hchained : ∀ c r, P c.state → PointerChain.round ctx c = .done r → P r.1) :
    P ((State.start ctx).addChain ctx).1 := by
  cases hfp : ctx.livePointer? with
  | none =>
      rw [addChain_none hfp]
      exact hstart
  | some fp =>
      rw [addChain_some hfp]
      have hfound : P (LeafProbe.run ctx fp (State.start ctx)) :=
        iterate_induction (P := fun p : LeafProbe => P p.state) (hprobe fp) (hprobed fp)
          (fun _ h => h) _ hstart
      exact iterate_induction (P := fun c : PointerChain => P c.state)
        (Q := fun r : State × Onward => P r.1) hchain hchained (fun _ h => h) _ hfound

theorem addChain_induction (hstart : P (State.start ctx))
    (hgather : ∀ s s', P s → Gathers ctx s s' → P s') :
    P ((State.start ctx).addChain ctx).1 :=
  addChain_of_rounds hstart
    (fun _ _ _ h hround => hgather _ _ h (LeafProbe.gathers_of_next hround))
    (fun _ _ _ h hround => hgather _ _ h (LeafProbe.gathers_of_done hround))
    (fun _ _ h hround => hgather _ _ h (PointerChain.gathers_of_next hround))
    (fun _ _ h hround => hgather _ _ h (PointerChain.gathers_of_done hround))

theorem outcome_stop {ctx : Context} {status : Status} (h : (beforeScan ctx).2 = .stop status) :
    outcome ctx = ((beforeScan ctx).1, status) := by
  unfold outcome
  split
  case h_1 s status' hbefore =>
    rw [hbefore] at h ⊢
    cases h
    rfl
  case h_2 s cursor hbefore =>
    rw [hbefore] at h
    cases h

theorem outcome_scan {ctx : Context} {cursor : Address} (h : (beforeScan ctx).2 = .scan cursor) :
    outcome ctx = StackScan.run ctx (beforeScan ctx).1 cursor := by
  unfold outcome
  split
  case h_1 s status hbefore =>
    rw [hbefore] at h
    cases h
  case h_2 s cursor' hbefore =>
    rw [hbefore] at h ⊢
    cases h
    rfl

/-- What holds before the scan and every round of the scan keeps holds of the state that is reported. -/
theorem outcome_of_beforeScan (hbefore : Q (beforeScan ctx).1)
    (hscan : ∀ s s', Q s → Scans ctx s s' → Q s') : Q (outcome ctx).1 := by
  cases honward : (beforeScan ctx).2 with
  | stop status =>
      rw [outcome_stop honward]
      exact hbefore
  | scan cursor =>
      rw [outcome_scan honward]
      refine iterate_induction (P := fun s : StackScan => Q s.state)
        (Q := fun r : State × Status => Q r.1) ?_ ?_ ?_ _ hbefore
      · intro s s' h hround
        exact hscan _ _ h (StackScan.scans_of_next hround)
      · intro s r h hround
        exact hscan _ _ h (StackScan.scans_of_done hround)
      · intro s h
        exact h

/-- What the start satisfies and every round keeps holds of the state that is reported. -/
theorem outcome_induction (hstart : P (State.start ctx))
    (hgather : ∀ s s', P s → Gathers ctx s s' → P s') (hleave : ∀ s, P s → Q s.floored)
    (hscan : ∀ s s', Q s → Scans ctx s s' → Q s') : Q (outcome ctx).1 :=
  outcome_of_beforeScan (hleave _ (addChain_induction hstart hgather)) hscan

end Invariants

end StackWalk.Walk

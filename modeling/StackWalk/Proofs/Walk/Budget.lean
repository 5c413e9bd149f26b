import StackWalk.Proofs.Walk.Phase

/-!
# StackWalk.Proofs.Walk.Budget — what the iteration budget is enough for

Every round of the chain and of the scan that does not end its loop takes one iteration from a budget
that is never refilled, so from the chain on a walk ends.  The number of rounds that `run` allows to these
loops is larger than the budget, so it never decides anything: the machine without a bound comes to the
same end.  The probe before the chain also counts iterations, but does not ask for the budget.
-/

namespace StackWalk.Walk

/-! ## Loops with a bound and machines without one -/

section Reaches

variable {σ ρ τ : Type} {round : σ → Round σ ρ} {spent : σ → ρ} {step : τ → τ} {E : σ → τ}
  {O : ρ → τ} {I : σ → Prop} {M : σ → Nat}

/-- If a machine does the rounds of a loop, as `E` and `O` read its states and results, and each of them
lowers a measure `M`, then a bound above the measure changes nothing: the machine reaches the result of
the loop. -/
theorem iterate_reaches
    (hnext : ∀ s s', I s → round s = .next s' → I s' ∧ M s' < M s ∧ step (E s) = E s')
    (hdone : ∀ s r, I s → round s = .done r → step (E s) = O r) (rounds : Nat) {s : σ} (hs : I s)
    (hM : M s < rounds) : ∃ n, step^[n] (E s) = O (iterate round spent rounds s) := by
  induction rounds generalizing s with
  | zero => exact absurd hM (Nat.not_lt_zero _)
  | succ rounds ih =>
      unfold iterate
      split
      case h_1 s' h =>
        -- the machine does this round first, and is then one round short of the loop
        obtain ⟨hs', hlt, hstep⟩ := hnext s s' hs h
        obtain ⟨n, hn⟩ := ih hs' (by omega)
        refine ⟨n + 1, ?_⟩
        rw [Function.iterate_succ_apply, hstep]
        exact hn
      case h_2 r h => exact ⟨1, hdone s r hs h⟩

end Reaches

/-! ## Every round takes one iteration -/

section Iterations

variable {ctx : Context}

theorem iterations_lt_of_limit {s : State} (h : s.iterationLimit? ctx = none) :
    s.tally.iterations < ctx.limits.maxIterations.toNat := by
  unfold State.iterationLimit? at h
  split at h
  · cases h
  case isFalse hlt => exact Nat.lt_of_not_le hlt

/-- Neither an iteration nor a recovery has been counted. -/
structure Tally.SameRounds (t t' : Tally) : Prop where
  iterations : t'.iterations = t.iterations
  recoveries : t'.recoveries = t.recoveries

/-- Nothing has been counted but what a candidate costs: what could not be decoded for its sake, and the
candidate itself if it was rejected. -/
structure Tally.Judged (t t' : Tally) : Prop extends Tally.SameRounds t t' where
  unreadable : t'.unreadable = t.unreadable
  bytes : t'.bytes = t.bytes
  rejected : t'.rejected ≤ t.rejected + 1

theorem judged_settle (ctx : Context) (s : State) (cursor value : Address) (call : Context.Call) :
    s.tally.Judged (s.settle ctx cursor value call).tally := by
  have hsame : s.tally.Judged s.tally := ⟨⟨rfl, rfl⟩, rfl, rfl, Nat.le_succ _⟩
  unfold State.settle
  split
  · exact ⟨⟨rfl, rfl⟩, rfl, rfl, Nat.le_refl _⟩
  · rw [State.tally_accept]
    exact hsame
  · rw [State.tally_accept, State.tally_accept]
    exact hsame

theorem judged_consider (ctx : Context) (s : State) (cursor value : Address) :
    s.tally.Judged (s.consider ctx cursor value).tally := by
  unfold State.consider
  dsimp only
  split
  · split
    · exact ⟨⟨rfl, rfl⟩, rfl, rfl, Nat.le_refl _⟩
    · split
      · exact ⟨⟨rfl, rfl⟩, rfl, rfl, Nat.le_refl _⟩
      case h_2 call _ _ =>
        have hsettle := judged_settle ctx (s.countFailures (ctx.callBefore value).2) cursor value call
        exact ⟨⟨hsettle.iterations, hsettle.recoveries⟩, hsettle.unreadable, hsettle.bytes,
          hsettle.rejected⟩
  · exact ⟨⟨rfl, rfl⟩, rfl, rfl, Nat.le_succ _⟩

theorem tally_restart (ctx : Context) (s : State) (cursor : Address) :
    (s.restart ctx cursor).1.tally = s.tally := by
  rcases State.restart_cases ctx s cursor with ⟨-, h⟩ | ⟨-, h⟩
  · rw [h]
  · rw [h]
    exact State.tally_backToRegisters ctx s

/-- A recovery counts itself, whether it succeeds or not. -/
theorem tally_recover (ctx : Context) (s : State) (cursor : Address) :
    (s.recover ctx cursor).1.tally = s.countRecovery.tally := by
  unfold State.recover
  dsimp only
  split
  · exact tally_restart ctx s.countRecovery cursor
  · split
    · exact tally_restart ctx s.countRecovery cursor
    · split
      · rfl
      · exact State.tally_rollBack ctx s.countRecovery _

namespace StackScan

/-- What the walk has found at the end of a round. -/
def found : Round StackScan (State × Status) → State
  | .next s => s.state
  | .done r => r.1

/-- An advance counts the bytes of the slot that it leaves. -/
theorem tally_advance (ctx : Context) (s : StackScan) :
    (found (advance ctx s)).tally = (s.state.countBytes ctx.word.toNat).tally := by
  unfold advance
  dsimp only
  split <;> rfl

theorem sameRounds_advance (ctx : Context) (s : StackScan) :
    s.state.tally.SameRounds (found (advance ctx s)).tally := by
  rw [tally_advance]
  exact ⟨rfl, rfl⟩

theorem sameRounds_look (ctx : Context) (s : StackScan) :
    s.state.tally.SameRounds (found (look ctx s)).tally := by
  unfold look
  split
  · dsimp only
    split
    · exact ⟨rfl, rfl⟩
    · have hadvance := sameRounds_advance ctx
        ⟨s.state.countUnreadable, s.cursor, s.unreadable + ctx.word.toNat⟩
      exact ⟨hadvance.iterations, hadvance.recoveries⟩
  case h_2 value _ =>
    have hconsider := judged_consider ctx s.state s.cursor value
    have hadvance := sameRounds_advance ctx ⟨s.state.consider ctx s.cursor value, s.cursor, 0⟩
    exact ⟨hadvance.iterations.trans hconsider.iterations,
      hadvance.recoveries.trans hconsider.recoveries⟩

theorem iterations_lt_of_limit? {s : StackScan} (h : s.limit? ctx = none) :
    s.state.tally.iterations < ctx.limits.maxIterations.toNat := by
  unfold limit? at h
  split at h
  · cases h
  · exact iterations_lt_of_limit (Option.or_eq_none_iff.mp (Option.or_eq_none_iff.mp h).2).2

/-- A round of the scan that goes on had an iteration left and has taken it. -/
theorem iterations_next {s s' : StackScan} (h : round ctx s = .next s') :
    s.state.tally.iterations < ctx.limits.maxIterations.toNat ∧
      s'.state.tally.iterations = s.state.tally.iterations + 1 := by
  rcases round_cases ctx s with ⟨status, -, hround⟩ | ⟨state, resume, hlimit, -, hrecover, hround⟩ |
    ⟨-, -, hround⟩ | ⟨hlimit, -, hround⟩ <;> rw [hround] at h
  · cases h
  · cases h
    have htally := tally_recover ctx s.state.countIteration s.cursor
    rw [hrecover] at htally
    exact ⟨iterations_lt_of_limit? hlimit, congrArg Tally.iterations htally⟩
  · cases h
  · have hlook := sameRounds_look ctx { s with state := s.state.countIteration }
    rw [h] at hlook
    exact ⟨iterations_lt_of_limit? hlimit, hlook.iterations⟩

end StackScan

/-- A round of the scan that ends it had an iteration left if it has taken one. -/
theorem StackScan.iterations_done {s : StackScan} {r : State × Status} (h : round ctx s = .done r) :
    r.1.tally.iterations = s.state.tally.iterations ∨
      s.state.tally.iterations < ctx.limits.maxIterations.toNat ∧
        r.1.tally.iterations = s.state.tally.iterations + 1 := by
  rcases round_cases ctx s with ⟨status, -, hround⟩ | ⟨state, resume, -, -, -, hround⟩ |
    ⟨hlimit, -, hround⟩ | ⟨hlimit, -, hround⟩
  · rw [hround] at h
    cases h
    exact Or.inl rfl
  · rw [hround] at h
    cases h
  · rw [hround] at h
    cases h
    exact Or.inr ⟨iterations_lt_of_limit? hlimit, rfl⟩
  · have hlook := sameRounds_look ctx { s with state := s.state.countIteration }
    rw [← hround, h] at hlook
    exact Or.inr ⟨iterations_lt_of_limit? hlimit, hlook.iterations⟩

namespace PointerChain

/-- A confirmed link counts at most its frame. -/
theorem tally_extend (ctx : Context) (c : PointerChain) (s : State) (f : Frame) :
    ∃ chainFrames, (c.extend ctx s f).state.tally = { s.tally with chainFrames := chainFrames } := by
  unfold extend
  split
  · refine ⟨s.tally.chainFrames + 1, ?_⟩
    show (s.accept ctx f).countChainFrame.tally = _
    unfold State.countChainFrame
    rw [State.tally_accept]
  · exact ⟨s.tally.chainFrames, rfl⟩

theorem iterations_extend (ctx : Context) (c : PointerChain) (s : State) (f : Frame) :
    (c.extend ctx s f).state.tally.iterations = s.tally.iterations := by
  obtain ⟨chainFrames, htally⟩ := tally_extend ctx c s f
  rw [htally]

theorem iterations_lt_of_limit? {s : State} (h : limit? ctx s = none) :
    s.tally.iterations < ctx.limits.maxIterations.toNat :=
  iterations_lt_of_limit (Option.or_eq_none_iff.mp h).2

theorem iterations_next {c c' : PointerChain} (h : round ctx c = .next c') :
    c.state.tally.iterations < ctx.limits.maxIterations.toNat ∧
      c'.state.tally.iterations = c.state.tally.iterations + 1 := by
  obtain ⟨counter, f, saved, -, hlimit, -, -, rfl⟩ := next_cases h
  exact ⟨iterations_lt_of_limit? hlimit, iterations_extend ctx c _ f⟩

/-- A round of the chain that leaves it had an iteration left if it has taken one. -/
theorem iterations_done {c : PointerChain} {r : State × Onward} (h : round ctx c = .done r) :
    r.1.tally.iterations = c.state.tally.iterations ∨
      c.state.tally.iterations < ctx.limits.maxIterations.toNat ∧
        r.1.tally.iterations = c.state.tally.iterations + 1 := by
  rcases done_cases h with hr | ⟨counter, hlimit, hr⟩ | ⟨counter, f, saved, -, hlimit, -, rfl⟩
  · rw [hr]
    exact Or.inl rfl
  · rw [hr]
    exact Or.inr ⟨iterations_lt_of_limit? hlimit, rfl⟩
  · rw [onward_fst]
    exact Or.inr ⟨iterations_lt_of_limit? hlimit, iterations_extend ctx c _ f⟩

end PointerChain

/-! ## What is counted before the scan -/

/-- No word has been scanned. -/
structure Tally.Unscanned (t : Tally) : Prop where
  rejected : t.rejected = 0
  unreadable : t.unreadable = 0
  recoveries : t.recoveries = 0
  bytes : t.bytes = 0

theorem Tally.Unscanned.looked {t : Tally} (h : t.Unscanned) (counter : UInt32 → UInt32) :
    (t.looked counter).Unscanned :=
  ⟨h.rejected, h.unreadable, h.recoveries, h.bytes⟩

theorem Tally.Unscanned.extend {s : State} (h : s.tally.Unscanned) (c : PointerChain) (f : Frame) :
    (c.extend ctx s f).state.tally.Unscanned := by
  obtain ⟨chainFrames, htally⟩ := PointerChain.tally_extend ctx c s f
  rw [htally]
  exact ⟨h.rejected, h.unreadable, h.recoveries, h.bytes⟩

/-- The registers, the probe and the chain count iterations, failures to decode, and frames. -/
theorem unscanned_beforeScan (ctx : Context) : (beforeScan ctx).1.tally.Unscanned := by
  refine addChain_of_rounds (P := fun s => s.tally.Unscanned) ?_ ?_ ?_ ?_ ?_
  · obtain ⟨failures, htally⟩ := State.tally_start ctx
    rw [htally]
    exact ⟨rfl, rfl, rfl, rfl⟩
  · intro fp p p' h hround
    obtain ⟨counter, -, -, rfl⟩ := LeafProbe.next_cases hround
    exact h.looked counter
  · intro fp p s h hround
    rcases LeafProbe.done_cases hround with ⟨-, rfl⟩ | ⟨counter, f, -, -, rfl⟩
    · exact h
    · rw [State.tally_accept]
      exact h.looked counter
  · intro c c' h hround
    obtain ⟨counter, f, saved, -, -, -, -, rfl⟩ := PointerChain.next_cases hround
    exact Tally.Unscanned.extend (h.looked counter) c f
  · intro c r h hround
    rcases PointerChain.done_cases hround with
      hr | ⟨counter, -, hr⟩ | ⟨counter, f, saved, -, -, -, rfl⟩
    · rw [hr]
      exact h
    · rw [hr]
      exact h.looked counter
    · rw [PointerChain.onward_fst]
      exact Tally.Unscanned.extend (h.looked counter) c f

end Iterations

/-! ## From the chain on every walk ends -/

section Ends

variable {ctx : Context}

/-- The iterations that are left. -/
def State.budget (ctx : Context) (s : State) : Nat :=
  ctx.limits.maxIterations.toNat - s.tally.iterations

theorem State.budget_lt_rounds (ctx : Context) (s : State) : s.budget ctx < State.rounds ctx := by
  unfold budget rounds
  omega

theorem PointerChain.budget_next {c c' : PointerChain} (h : round ctx c = .next c') :
    c'.state.budget ctx < c.state.budget ctx := by
  obtain ⟨hlt, hnext⟩ := iterations_next h
  unfold State.budget
  omega

theorem StackScan.budget_next {s s' : StackScan} (h : round ctx s = .next s') :
    s'.state.budget ctx < s.state.budget ctx := by
  obtain ⟨hlt, hnext⟩ := iterations_next h
  unfold State.budget
  omega

/-- The rounds are enough, so the chain is left by a round that is done. -/
theorem PointerChain.run_of_done {Q : State × Onward → Prop}
    (hdone : ∀ c r, round ctx c = .done r → Q r) (fp : Address) (s : State) : Q (run ctx fp s) := by
  refine iterate_total (I := fun _ => True) (M := fun c : PointerChain => c.state.budget ctx)
    (fun c _ => ?_) _ trivial (State.budget_lt_rounds ctx s)
  cases hround : round ctx c with
  | next c' => exact Or.inl ⟨c', rfl, trivial, budget_next hround⟩
  | done r => exact Or.inr ⟨r, rfl, hdone c r hround⟩

/-- And so is the scan. -/
theorem StackScan.run_of_done {Q : State × Status → Prop}
    (hdone : ∀ s r, round ctx s = .done r → Q r) (s : State) (cursor : Address) :
    Q (run ctx s cursor) := by
  refine iterate_total (I := fun _ => True) (M := fun s : StackScan => s.state.budget ctx)
    (fun s _ => ?_) _ trivial (State.budget_lt_rounds ctx s)
  cases hround : round ctx s with
  | next s' => exact Or.inl ⟨s', rfl, trivial, budget_next hround⟩
  | done r => exact Or.inr ⟨r, rfl, hdone s r hround⟩

theorem PointerChain.reaches (ctx : Context) (s : State) (fp : Address) :
    ∃ n, (Phase.step ctx)^[n] (.chaining ⟨s, fp, 0, none⟩) =
      .leaving (PointerChain.run ctx fp s).1 (PointerChain.run ctx fp s).2 := by
  refine iterate_reaches (I := fun _ => True) (M := fun c : PointerChain => c.state.budget ctx)
    (O := fun r : State × Onward => Phase.leaving r.1 r.2) ?_ ?_ _ trivial
    (State.budget_lt_rounds ctx s)
  · intro c c' _ hround
    exact ⟨trivial, budget_next hround, Phase.step_chaining_next hround⟩
  · intro c r _ hround
    exact Phase.step_chaining_done hround

theorem StackScan.reaches (ctx : Context) (s : State) (cursor : Address) :
    ∃ n, (Phase.step ctx)^[n] (.scanning ⟨s, cursor, 0⟩) =
      .ended (StackScan.run ctx s cursor).1 (StackScan.run ctx s cursor).2 := by
  refine iterate_reaches (I := fun _ => True) (M := fun s : StackScan => s.state.budget ctx)
    (O := fun r : State × Status => Phase.ended r.1 r.2) ?_ ?_ _ trivial
    (State.budget_lt_rounds ctx s)
  · intro s s' _ hround
    exact ⟨trivial, budget_next hround, Phase.step_scanning_next hround⟩
  · intro s r _ hround
    exact Phase.step_scanning_done hround

/-- Once the chain has been left, the machine ends where `run` does. -/
theorem ended_of_leaving {n : Nat}
    (h : phaseAt ctx n =
      .leaving ((State.start ctx).addChain ctx).1 ((State.start ctx).addChain ctx).2) :
    ∃ m, phaseAt ctx m = .ended (outcome ctx).1 (outcome ctx).2 := by
  have hbefore : beforeScan ctx =
      (((State.start ctx).addChain ctx).1.floored, ((State.start ctx).addChain ctx).2) := rfl
  cases honward : ((State.start ctx).addChain ctx).2 with
  | stop status =>
      have hstop : (beforeScan ctx).2 = .stop status := honward
      refine ⟨n + 1, ?_⟩
      rw [phaseAt_succ, h, honward, outcome_stop hstop, hbefore]
      rfl
  | scan cursor =>
      have hscan : (beforeScan ctx).2 = .scan cursor := honward
      obtain ⟨m, hm⟩ := StackScan.reaches ctx (beforeScan ctx).1 cursor
      refine ⟨m + (n + 1), ?_⟩
      rw [phaseAt_add, phaseAt_succ, h, honward, outcome_scan hscan]
      exact hm

/-- Without a frame pointer that can be believed there is no chain to leave. -/
theorem leaving_of_no_pointer (h : ctx.livePointer? = none) :
    phaseAt ctx 0 =
      .leaving ((State.start ctx).addChain ctx).1 ((State.start ctx).addChain ctx).2 := by
  rw [phaseAt_zero, addChain_none h]
  unfold Phase.first
  rw [h]

/-- Once the probe has found what `run` finds, the chain is left as `run` leaves it. -/
theorem leaving_of_probed {fp : Address} (h : ctx.livePointer? = some fp) {n : Nat}
    (hn : phaseAt ctx n = .chaining ⟨LeafProbe.run ctx fp (State.start ctx), fp, 0, none⟩) :
    ∃ m, phaseAt ctx m =
      .leaving ((State.start ctx).addChain ctx).1 ((State.start ctx).addChain ctx).2 := by
  obtain ⟨m, hm⟩ := PointerChain.reaches ctx (LeafProbe.run ctx fp (State.start ctx)) fp
  refine ⟨m + n, ?_⟩
  rw [phaseAt_add, hn, addChain_some h]
  exact hm

end Ends

end StackWalk.Walk

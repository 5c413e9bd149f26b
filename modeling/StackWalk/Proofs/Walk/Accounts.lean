import StackWalk.Proofs.Walk.Gaps
import StackWalk.Proofs.Walk.Iterations

/-!
# StackWalk.Proofs.Walk.Accounts — what a scan counts adds up

A round of the scan takes one iteration and spends it on one of two things: on a gap, which is a recovery,
or on a word, which is a few bytes.  Of the words some are counted once more, because they cannot be read
or are rejected.  The books therefore balance after every round, however often a recovery sends the scan
back to words that it has seen.

One word is not in the books: the one that ends the scan because it is the last of a page of words that
cannot be read takes its iteration and no bytes.  Which walks end so is told by their last rounds
(`EndsUnread`), and that these are the walks with such a word by the number of bytes in a row that could
not be read (`unreadable_streak`).
-/

namespace StackWalk.Walk

/-! ## Words that cannot be read -/

namespace StackScan

/-- The round comes to look at its word, which cannot be read. -/
def Misses (ctx : Context) (s : StackScan) : Prop :=
  s.limit? ctx = none ∧ s.state.gapAt ctx s.cursor = false ∧ ctx.slot? s.cursor = none

/-- The word is the last one of a page that cannot be read. -/
def RunsOut (ctx : Context) (s : StackScan) : Prop :=
  s.Misses ctx ∧ unreadableLimit ≤ s.unreadable + ctx.word.toNat

instance (ctx : Context) (s : StackScan) : Decidable (s.Misses ctx) :=
  inferInstanceAs (Decidable (_ ∧ _ ∧ _))

instance (ctx : Context) (s : StackScan) : Decidable (s.RunsOut ctx) :=
  inferInstanceAs (Decidable (_ ∧ _))

end StackScan

/-- The walk comes to look at a word of the stack, which cannot be read. -/
def Phase.Misses (ctx : Context) : Phase → Prop
  | .scanning s => s.Misses ctx
  | _ => False

/-- How many words in a row that cannot be read are the end of the stack. -/
def Context.unreadableWords (ctx : Context) : Nat :=
  StackScan.unreadableLimit / ctx.word.toNat

/-- The walk ends because the last words that it has looked at, one after the other, are as many that
cannot be read as are the end of the stack. -/
def Context.EndsUnread (ctx : Context) : Prop :=
  ∃ n s status, (∀ k < ctx.unreadableWords, (phaseAt ctx (n + k)).Misses ctx) ∧
    phaseAt ctx (n + ctx.unreadableWords) = .ended s status

/-- The counters add up, if `before` iterations were taken before the scan and `last` for the word that
has ended it, if one has. -/
structure Tally.Balanced (ctx : Context) (before last : Nat) (t : Tally) : Prop where
  wholeWords : ctx.word.toNat ∣ t.bytes
  iterations : t.iterations = before + t.bytes / ctx.word.toNat + t.recoveries + last
  wrong : t.rejected + t.unreadable ≤ t.bytes / ctx.word.toNat + last
  bytes : ∀ max ∈ ctx.limits.maxBytes, t.bytes < max.toNat + ctx.word.toNat

/-- One word has been scanned. -/
structure Tally.Scanned (ctx : Context) (t t' : Tally) : Prop where
  iterations : t'.iterations = t.iterations + 1
  recoveries : t'.recoveries = t.recoveries
  bytes : t'.bytes = t.bytes + ctx.word.toNat
  wrong : t'.rejected + t'.unreadable ≤ t.rejected + t.unreadable + 1

/-! ## One round -/

section Rounds

variable {ctx : Context} {before : Nat}

theorem Tally.Balanced.scanned {t t' : Tally} (h : t.Balanced ctx before 0)
    (hscanned : t.Scanned ctx t')
    (hbytes : ∀ max ∈ ctx.limits.maxBytes, t.bytes < max.toNat) : t'.Balanced ctx before 0 := by
  have hword : t'.bytes / ctx.word.toNat = t.bytes / ctx.word.toNat + 1 := by
    rw [hscanned.bytes, Nat.add_div_right _ ctx.word_pos]
  have hiterations := h.iterations
  have hwrong := h.wrong
  refine ⟨?_, ?_, ?_, ?_⟩
  · rw [hscanned.bytes]
    exact Nat.dvd_add_self_right.mpr h.wholeWords
  · rw [hword, hscanned.iterations, hscanned.recoveries]
    omega
  · have hmore := hscanned.wrong
    rw [hword]
    omega
  · intro max hmax
    have hless := hbytes max hmax
    rw [hscanned.bytes]
    omega

/-- A recovery is in the books by itself. -/
theorem Tally.Balanced.recovered {s : State} (h : s.tally.Balanced ctx before 0) :
    s.countIteration.countRecovery.tally.Balanced ctx before 0 := by
  have hiterations := h.iterations
  refine ⟨h.wholeWords, ?_, h.wrong, h.bytes⟩
  show s.tally.iterations + 1 = before + s.tally.bytes / _ + (s.tally.recoveries + 1) + 0
  omega

/-- The word that ends the scan has its iteration, and is counted among those that cannot be read. -/
theorem Tally.Balanced.unread {s : State} (h : s.tally.Balanced ctx before 0) :
    s.countIteration.countUnreadable.tally.Balanced ctx before 1 := by
  have hiterations := h.iterations
  have hwrong := h.wrong
  refine ⟨h.wholeWords, ?_, ?_, h.bytes⟩
  · show s.tally.iterations + 1 = before + s.tally.bytes / _ + s.tally.recoveries + 1
    omega
  · show s.tally.rejected + (s.tally.unreadable + 1) ≤ s.tally.bytes / _ + 1
    omega

namespace StackScan

variable {s s' : StackScan}

theorem not_misses_of_limit {status : Status} (h : s.limit? ctx = some status) :
    ¬ s.Misses ctx := by
  rintro ⟨hnone, -, -⟩
  rw [h] at hnone
  cases hnone

theorem not_misses_of_gap (h : s.state.gapAt ctx s.cursor = true) : ¬ s.Misses ctx := by
  rintro ⟨-, hgap, -⟩
  rw [h] at hgap
  cases hgap

theorem not_misses_of_held {value : Address} (h : ctx.slot? s.cursor = some value) :
    ¬ s.Misses ctx := by
  rintro ⟨-, -, hnone⟩
  rw [h] at hnone
  cases hnone

theorem bytes_lt_of_limit (h : s.limit? ctx = none) :
    ∀ max ∈ ctx.limits.maxBytes, s.state.tally.bytes < max.toNat := by
  intro max hmax
  by_contra hge
  have hspent : ctx.limits.bytesExhausted s.state.tally.bytes = true :=
    (Option.any_eq_true _ _).mpr ⟨max, hmax, decide_eq_true (Nat.le_of_not_lt hge)⟩
  unfold limit? State.byteLimit? at h
  rw [if_pos hspent] at h
  split at h
  · cases h
  · simp at h

/-- A look at a word that does not end the scan for want of words has scanned it. -/
theorem scanned_look (s : StackScan)
    (h : ctx.slot? s.cursor = none → ¬ unreadableLimit ≤ s.unreadable + ctx.word.toNat) :
    s.state.tally.Scanned ctx
      (found (look ctx { s with state := s.state.countIteration })).tally := by
  unfold look
  split
  case h_1 hnone =>
    rw [if_neg (h hnone), tally_advance]
    exact ⟨rfl, rfl, rfl, Nat.le_refl _⟩
  case h_2 value _ =>
    have hjudged := judged_consider ctx s.state.countIteration s.cursor value
    rw [tally_advance]
    refine ⟨hjudged.iterations, hjudged.recoveries, ?_, ?_⟩
    · exact congrArg (· + ctx.word.toNat) hjudged.bytes
    · have hrejected := hjudged.rejected
      have hunreadable := hjudged.unreadable
      show (s.state.countIteration.consider ctx s.cursor value).tally.rejected +
        (s.state.countIteration.consider ctx s.cursor value).tally.unreadable ≤
          s.state.countIteration.tally.rejected + s.state.countIteration.tally.unreadable + 1
      omega

/-- The books balance after a round if they did before it. -/
theorem balanced_round (h : s.state.tally.Balanced ctx before 0) :
    (found (round ctx s)).tally.Balanced ctx before (if s.RunsOut ctx then 1 else 0) := by
  rcases round_cases ctx s with ⟨status, hlimit, hround⟩ |
    ⟨state, resume, -, hgap, hrecover, hround⟩ | ⟨-, hgap, hround⟩ | ⟨hlimit, hgap, hround⟩
  · rw [hround, if_neg fun hout => not_misses_of_limit hlimit hout.1]
    exact h
  · have htally := tally_recover ctx s.state.countIteration s.cursor
    rw [hrecover] at htally
    rw [hround, if_neg fun hout => not_misses_of_gap hgap hout.1]
    show state.tally.Balanced ctx before 0
    rw [htally]
    exact h.recovered
  · rw [hround, if_neg fun hout => not_misses_of_gap hgap hout.1]
    exact h.recovered
  · rw [hround]
    by_cases hout : s.RunsOut ctx
    · rw [if_pos hout]
      unfold look
      rw [hout.1.2.2]
      dsimp only
      rw [if_pos hout.2]
      exact h.unread
    · rw [if_neg hout]
      refine h.scanned (scanned_look s ?_) (bytes_lt_of_limit hlimit)
      intro hnone hpage
      exact hout ⟨⟨hlimit, hgap, hnone⟩, hpage⟩

theorem round_of_runsOut (h : s.RunsOut ctx) :
    ∃ state, round ctx s = .done (state, .complete) := by
  refine ⟨s.state.countIteration.countUnreadable, ?_⟩
  rw [round_of_no_gap h.1.1 h.1.2.1]
  unfold look
  rw [h.1.2.2]
  exact if_pos h.2

/-- The bytes in a row that could not be read grow with every word that cannot be read, and begin anew
with everything else. -/
theorem unreadable_next (h : round ctx s = .next s') :
    s'.unreadable = if s.Misses ctx then s.unreadable + ctx.word.toNat else 0 := by
  have hadvance (s₁ : StackScan) (h : advance ctx s₁ = .next s') :
      s'.unreadable = s₁.unreadable := by
    rcases advance_cases ctx s₁ with ⟨next, t, -, heq⟩ | ⟨t, -, heq⟩
    · rw [heq] at h
      cases h
      rfl
    · rw [heq] at h
      cases h
  rcases round_cases ctx s with ⟨status, -, hround⟩ | ⟨state, resume, -, hgap, -, hround⟩ |
    ⟨-, -, hround⟩ | ⟨hlimit, hgap, hround⟩
  · rw [hround] at h
    cases h
  · rw [hround] at h
    cases h
    exact (if_neg (not_misses_of_gap hgap)).symm
  · rw [hround] at h
    cases h
  · rw [hround] at h
    unfold look at h
    split at h
    case h_1 hnone =>
      rw [if_pos ⟨hlimit, hgap, hnone⟩]
      dsimp only at h
      split at h
      · cases h
      · exact hadvance _ h
    case h_2 value hheld =>
      rw [if_neg (not_misses_of_held (s := s) hheld)]
      exact hadvance _ h

end StackScan

end Rounds

/-! ## The last round -/

section Walk

variable {ctx : Context}

theorem Phase.exists_of_misses {p : Phase} (h : p.Misses ctx) :
    ∃ s, p = .scanning s ∧ s.Misses ctx := by
  cases p with
  | scanning s => exact ⟨s, rfl, h⟩
  | probing fp p => exact h.elim
  | chaining c => exact h.elim
  | leaving s onward => exact h.elim
  | ended s status => exact h.elim

/-- The scan has as many bytes in a row that could not be read as it has come to such words in its last
rounds. -/
theorem unreadable_streak {n : Nat} {s : StackScan} (h : phaseAt ctx n = .scanning s) :
    ∃ m k, m + k = n ∧ s.unreadable = k * ctx.word.toNat ∧
      ∀ i < k, (phaseAt ctx (m + i)).Misses ctx := by
  induction n generalizing s with
  | zero => exact absurd (rank_first_le ctx) (by simp [h, Phase.rank])
  | succ n ih =>
      have hnone : ∀ i < 0, (phaseAt ctx (n + 1 + i)).Misses ctx := fun i hi =>
        absurd hi (Nat.not_lt_zero i)
      rw [phaseAt_succ] at h
      rcases Phase.scanning_of_step h with ⟨s₀, cursor, -, rfl⟩ | ⟨s₀, hs₀, hround⟩
      · exact ⟨n + 1, 0, rfl, (Nat.zero_mul _).symm, hnone⟩
      · have hnext := StackScan.unreadable_next hround
        by_cases hmisses : s₀.Misses ctx
        · -- one more word of the same streak
          obtain ⟨m, k, rfl, hbytes, hstreak⟩ := ih hs₀
          refine ⟨m, k + 1, Nat.add_assoc m k 1 |>.symm, ?_, ?_⟩
          · rw [hnext, if_pos hmisses, hbytes, Nat.succ_mul]
          · intro i hi
            rcases Nat.lt_succ_iff_lt_or_eq.mp hi with hi | rfl
            · exact hstreak i hi
            · rw [hs₀]
              exact hmisses
        · refine ⟨n + 1, 0, rfl, ?_, hnone⟩
          rw [hnext, if_neg hmisses, Nat.zero_mul]

/-- A streak of words that cannot be read is counted. -/
theorem streak_le_unreadable {n k : Nat} {s : StackScan}
    (hstreak : ∀ i < k, (phaseAt ctx (n + i)).Misses ctx)
    (h : phaseAt ctx (n + k) = .scanning s) : k * ctx.word.toNat ≤ s.unreadable := by
  induction k generalizing s with
  | zero =>
      rw [Nat.zero_mul]
      exact Nat.zero_le _
  | succ k ih =>
      obtain ⟨s₀, hs₀, hmisses⟩ := Phase.exists_of_misses (hstreak k (Nat.lt_succ_self k))
      have hle := ih (fun i hi => hstreak i (Nat.lt_succ_of_lt hi)) hs₀
      rw [← Nat.add_assoc, phaseAt_succ, hs₀] at h
      obtain ⟨s₁, hs₁, hround⟩ :=
        (Phase.scanning_of_step h).resolve_left fun ⟨_, _, hleaving, _⟩ => by cases hleaving
      cases hs₁
      rw [StackScan.unreadable_next hround, if_pos hmisses, Nat.succ_mul]
      omega

theorem unreadableWords_mul (ctx : Context) :
    ctx.unreadableWords * ctx.word.toNat = StackScan.unreadableLimit := by
  unfold Context.unreadableWords
  rcases ctx.toNat_word with hword | hword <;> rw [hword] <;> decide

section LastRound

variable {n : Nat} {s : StackScan} {state : State} {status : Status}

theorem runsOut_of_endsUnread (hscan : phaseAt ctx n = .scanning s)
    (hend : phaseAt ctx (n + 1) = .ended state status) (h : ctx.EndsUnread) : s.RunsOut ctx := by
  obtain ⟨m, state', status', hstreak, hend'⟩ := h
  have hpage := unreadableWords_mul ctx
  cases hwords : ctx.unreadableWords with
  | zero =>
      rw [hwords, Nat.zero_mul] at hpage
      cases hpage
  | succ k =>
      rw [hwords] at hstreak hend' hpage
      -- the walk ends once, so the last round of the streak is the last one of the scan
      obtain ⟨s', hs', hmisses⟩ := Phase.exists_of_misses (hstreak k (Nat.lt_succ_self k))
      obtain rfl : n = m + k := Nat.le_antisymm (le_of_ended hscan hend') (le_of_ended hs' hend)
      rw [hscan] at hs'
      cases hs'
      have hle := streak_le_unreadable (fun i hi => hstreak i (Nat.lt_succ_of_lt hi)) hscan
      refine ⟨hmisses, ?_⟩
      rw [← hpage, Nat.succ_mul]
      exact Nat.add_le_add_right hle _

theorem endsUnread_of_runsOut (hscan : phaseAt ctx n = .scanning s)
    (hend : phaseAt ctx (n + 1) = .ended state status) (h : s.RunsOut ctx) : ctx.EndsUnread := by
  obtain ⟨m, k, rfl, hbytes, hstreak⟩ := unreadable_streak hscan
  have hwords : ctx.unreadableWords ≤ k + 1 := by
    refine Nat.le_of_mul_le_mul_right ?_ ctx.word_pos
    rw [unreadableWords_mul, Nat.succ_mul, ← hbytes]
    exact h.2
  have hall : ∀ i < k + 1, (phaseAt ctx (m + i)).Misses ctx := by
    intro i hi
    rcases Nat.lt_succ_iff_lt_or_eq.mp hi with hi | rfl
    · exact hstreak i hi
    · rw [hscan]
      exact h.1
  -- the streak may be longer, for all that is known here, so its last words are taken
  obtain ⟨skipped, hskipped⟩ := Nat.exists_eq_add_of_le' hwords
  refine ⟨m + skipped, state, status, ?_, ?_⟩
  · intro i hi
    rw [Nat.add_assoc]
    exact hall (skipped + i) (by omega)
  · rw [Nat.add_assoc, ← hskipped]
    exact hend

/-- A walk ends at a page that cannot be read exactly if the last round of its scan comes to the last word
of that. -/
theorem endsUnread_iff (hscan : phaseAt ctx n = .scanning s)
    (hend : phaseAt ctx (n + 1) = .ended state status) : ctx.EndsUnread ↔ s.RunsOut ctx :=
  ⟨runsOut_of_endsUnread hscan hend, endsUnread_of_runsOut hscan hend⟩

end LastRound

/-! ## The whole walk -/

/-- How many iterations have been taken when the scan starts. -/
def Context.iterationsBefore (ctx : Context) : Nat := (beforeScan ctx).1.tally.iterations

theorem iterationsBefore_of_no_pointer (h : ctx.registers.fp = none) : ctx.iterationsBefore = 0 := by
  obtain ⟨failures, htally⟩ := State.tally_start ctx
  unfold Context.iterationsBefore
  rw [beforeScan_of_no_pointer (Context.livePointer?_eq_none h)]
  show (State.start ctx).tally.iterations = 0
  rw [htally]
  rfl

theorem balanced_beforeScan (ctx : Context) :
    (beforeScan ctx).1.tally.Balanced ctx ctx.iterationsBefore 0 := by
  obtain ⟨hrejected, hunreadable, hrecoveries, hbytes⟩ := unscanned_beforeScan ctx
  refine ⟨?_, ?_, ?_, ?_⟩
  · rw [hbytes]
    exact Nat.dvd_zero _
  · rw [hbytes, hrecoveries, Nat.zero_div]
    rfl
  · rw [hrejected, hunreadable]
    exact Nat.zero_le _
  · intro max _
    have hword := ctx.word_pos
    rw [hbytes]
    omega

theorem balanced_scanning {n : Nat} {s : StackScan} (h : phaseAt ctx n = .scanning s) :
    s.state.tally.Balanced ctx ctx.iterationsBefore 0 := by
  refine scanning_induction (P := fun s => s.state.tally.Balanced ctx ctx.iterationsBefore 0) ?_ ?_ h
  · intro cursor _
    exact balanced_beforeScan ctx
  · intro s s' hs hround
    have hnot : ¬ s.RunsOut ctx := fun hout => by
      obtain ⟨state, hdone⟩ := StackScan.round_of_runsOut hout
      rw [hdone] at hround
      cases hround
    have hnext := StackScan.balanced_round hs
    rw [hround, if_neg hnot] at hnext
    exact hnext

/-- At the end the books balance, but for the word that has ended the walk if one has. -/
theorem balanced_outcome (hhalts : ctx.Halts) :
    ∃ last, (outcome ctx).1.tally.Balanced ctx ctx.iterationsBefore last ∧
      (last = 1 ∧ ctx.EndsUnread ∨ last = 0 ∧ ¬ ctx.EndsUnread) := by
  obtain ⟨m, hm⟩ := ended_of_halts hhalts
  rcases ended_cases hm with ⟨n, s, hleaving, hs⟩ | ⟨n, s, hscan, hend, hround⟩
  · have hbefore := beforeScan_of_leaving hleaving
    refine ⟨0, ?_, Or.inr ⟨rfl, ?_⟩⟩
    · have hbalanced := balanced_beforeScan ctx
      rw [hbefore] at hbalanced
      rw [hs]
      exact hbalanced
    · rintro ⟨k, s', status, hstreak, hend⟩
      have hsome : 0 < ctx.unreadableWords := by
        refine Nat.pos_of_mul_pos_right (b := ctx.word.toNat) ?_
        rw [unreadableWords_mul]
        decide
      obtain ⟨s'', hs'', -⟩ := Phase.exists_of_misses (hstreak 0 hsome)
      obtain ⟨cursor, hscan⟩ := scan_of_scanning hs''
      rw [hbefore] at hscan
      cases hscan
  · have hbalanced := StackScan.balanced_round (balanced_scanning hscan)
    rw [hround] at hbalanced
    by_cases hout : s.RunsOut ctx
    · rw [if_pos hout] at hbalanced
      exact ⟨1, hbalanced, Or.inl ⟨rfl, (endsUnread_iff hscan hend).mpr hout⟩⟩
    · rw [if_neg hout] at hbalanced
      exact ⟨0, hbalanced, Or.inr ⟨rfl, fun h => hout ((endsUnread_iff hscan hend).mp h)⟩⟩

/-! ## The status -/

/-- Only the budget for bytes makes the status that says so. -/
theorem bytes_of_limit {s : State} {max : UInt64}
    (h : (s.frameLimit? ctx).or ((s.byteLimit? ctx).or (s.iterationLimit? ctx)) =
      some (.incomplete (.byteLimit max))) :
    ctx.limits.maxBytes = some max ∧ max.toNat ≤ s.tally.bytes := by
  rcases Option.or_eq_some_iff.mp h with hframes | ⟨-, hother⟩
  · unfold State.frameLimit? at hframes
    split at hframes <;> cases hframes
  · rcases Option.or_eq_some_iff.mp hother with hbytes | ⟨-, hiterations⟩
    · unfold State.byteLimit? at hbytes
      split at hbytes
      case isFalse => cases hbytes
      case isTrue hspent =>
        obtain ⟨max', hmax, hreached⟩ := (Option.any_eq_true _ _).mp hspent
        have hmax : ctx.limits.maxBytes = some max' := hmax
        rw [hmax] at hbytes
        cases hbytes
        exact ⟨hmax, of_decide_eq_true hreached⟩
    · unfold State.iterationLimit? at hiterations
      split at hiterations <;> cases hiterations

/-- The chain does not ask for that budget. -/
theorem PointerChain.stop_ne_byteLimit {c : PointerChain} {s : State} {status : Status}
    (h : PointerChain.round ctx c = .done (s, .stop status)) (max : UInt64) :
    status ≠ .incomplete (.byteLimit max) := by
  rcases PointerChain.stop_cases h rfl with hcomplete | ⟨-, hlimit⟩
  · rw [hcomplete]
    exact Status.noConfusion
  · rintro rfl
    unfold PointerChain.limit? State.frameLimit? State.iterationLimit? at hlimit
    split at hlimit
    · cases hlimit
    · split at hlimit <;> cases hlimit

theorem StackScan.bytes_of_done {s : StackScan} {r : State × Status} {max : UInt64}
    (h : StackScan.round ctx s = .done r) (hstatus : r.2 = .incomplete (.byteLimit max)) :
    ctx.limits.maxBytes = some max ∧ max.toNat ≤ r.1.tally.bytes := by
  rcases round_cases ctx s with ⟨status, hlimit, hround⟩ | ⟨state, resume, -, -, -, hround⟩ |
    ⟨-, -, hround⟩ | ⟨-, -, hround⟩
  · rw [hround] at h
    cases h
    cases hstatus
    unfold limit? at hlimit
    split at hlimit
    · cases hlimit
    · exact bytes_of_limit hlimit
  · rw [hround] at h
    cases h
  · rw [hround] at h
    cases h
    cases hstatus
  · rcases look_cases ctx { s with state := s.state.countIteration } with
      ⟨state, next, unreadable, -, -, hlook⟩ | ⟨state, -, hlook⟩
    · rw [hround, hlook] at h
      cases h
    · rw [hround, hlook] at h
      cases h
      cases hstatus

/-- A walk that ends at its limit on bytes has scanned as many. -/
theorem bytes_of_status (hhalts : ctx.Halts) {max : UInt64}
    (h : (outcome ctx).2 = .incomplete (.byteLimit max)) :
    ctx.limits.maxBytes = some max ∧ max.toNat ≤ (outcome ctx).1.tally.bytes := by
  obtain ⟨m, hm⟩ := ended_of_halts hhalts
  rcases ended_cases hm with ⟨n, s, hleaving, -⟩ | ⟨n, s, -, -, hround⟩
  · obtain ⟨c, hround⟩ := chained_of_stop hleaving
    exact absurd h (PointerChain.stop_ne_byteLimit hround max)
  · exact StackScan.bytes_of_done hround h

/-! ## The trace -/

/-- The trace tells these counters as they are. -/
structure Tells (stats : Stats) (t : Tally) : Prop where
  iterations : stats.iterations.toNat = t.iterations
  rejected : stats.rejected.toNat = t.rejected
  unreadable : stats.unreadable.toNat = t.unreadable
  recoveries : stats.recoveries.toNat = t.recoveries
  bytes : stats.bytesScanned.toNat = t.bytes

/-- Where the books balance no counter runs over unless that of the iterations does. -/
theorem Tally.Balanced.tells {before last : Nat} {t : Tally} (h : t.Balanced ctx before last)
    (hless : t.iterations < 0x1_0000_0000) : Tells t.toStats t := by
  have hiterations := h.iterations
  have hwrong := h.wrong
  have hbytes := Nat.div_mul_cancel h.wholeWords
  refine ⟨?_, ?_, ?_, ?_, ?_⟩
  · exact UInt32.toNat_ofNat_of_lt' hless
  · exact UInt32.toNat_ofNat_of_lt' (Nat.lt_of_le_of_lt (by omega) hless)
  · exact UInt32.toNat_ofNat_of_lt' (Nat.lt_of_le_of_lt (by omega) hless)
  · exact UInt32.toNat_ofNat_of_lt' (Nat.lt_of_le_of_lt (by omega) hless)
  · refine UInt64.toNat_ofNat_of_lt' ?_
    show t.bytes < 0x1_0000_0000_0000_0000
    rcases ctx.toNat_word with hword | hword <;> rw [hword] at hbytes hiterations <;> omega

end Walk

/-- What a trace tells adds up. -/
structure Balances (ctx : Context) (t : Trace) : Prop where
  wholeWords : ctx.word.toNat ∣ t.stats.bytesScanned.toNat
  scanned : t.stats.bytesScanned.toNat / ctx.word.toNat + t.stats.recoveries.toNat ≤
    t.stats.iterations.toNat
  wrong : t.stats.rejected.toNat + t.stats.unreadable.toNat + t.stats.recoveries.toNat ≤
    t.stats.iterations.toNat
  unreadable : t.stats.unreadable.toNat * ctx.word.toNat ≤
    t.stats.bytesScanned.toNat + ctx.word.toNat
  bytes : ∀ max ∈ ctx.limits.maxBytes,
    t.stats.bytesScanned.toNat < max.toNat + ctx.word.toNat
  byteLimit : ∀ max, t.status = .incomplete (.byteLimit max) →
    ctx.limits.maxBytes = some max ∧ max.toNat ≤ t.stats.bytesScanned.toNat
  /-- Where there is no frame pointer to follow, the scan has taken all of the iterations. -/
  endsUnread : ctx.registers.fp = none → ctx.EndsUnread →
    t.stats.iterations.toNat =
      t.stats.bytesScanned.toNat / ctx.word.toNat + t.stats.recoveries.toNat + 1
  endsOtherwise : ctx.registers.fp = none → ¬ ctx.EndsUnread →
    t.stats.iterations.toNat =
      t.stats.bytesScanned.toNat / ctx.word.toNat + t.stats.recoveries.toNat

/-- **What a walk counts adds up**, whatever it comes upon and however often it goes back: every iteration
of the scan is a recovery or a word, but for the word that is the end of a page that cannot be read. -/
theorem run_balances (ctx : Context) (huser : ¬ ctx.arch.isKernelAddress ctx.registers.pc = true)
    (hroom : ctx.HasRoom) : Balances ctx (run ctx) := by
  obtain ⟨last, hbalanced, hlast⟩ := balanced_outcome hroom.halts
  obtain ⟨hiterations, hrejected, hunreadable, hrecoveries, hbytes⟩ :=
    hbalanced.tells hroom.iterations_lt
  have hstatus (max : UInt64) (h : (outcome ctx).2 = .incomplete (.byteLimit max)) :
      ctx.limits.maxBytes = some max ∧ max.toNat ≤ (outcome ctx).1.tally.bytes :=
    bytes_of_status hroom.halts h
  have htaken := hbalanced.iterations
  have hwrong := hbalanced.wrong
  rw [run_of_outcome huser]
  constructor <;> dsimp only [report] <;>
    simp only [hiterations, hrejected, hunreadable, hrecoveries, hbytes]
  · exact hbalanced.wholeWords
  · omega
  · omega
  · have hwhole := Nat.div_mul_cancel hbalanced.wholeWords
    have hle : (outcome ctx).1.tally.unreadable ≤
        (outcome ctx).1.tally.bytes / ctx.word.toNat + 1 := by omega
    have hmul := Nat.mul_le_mul_right ctx.word.toNat hle
    rw [Nat.succ_mul, hwhole] at hmul
    exact hmul
  · exact hbalanced.bytes
  · exact hstatus
  · intro hfp hends
    rw [iterationsBefore_of_no_pointer hfp] at htaken
    rcases hlast with ⟨rfl, -⟩ | ⟨-, hnot⟩
    · omega
    · exact absurd hends hnot
  · intro hfp hnot
    rw [iterationsBefore_of_no_pointer hfp] at htaken
    rcases hlast with ⟨-, hends⟩ | ⟨rfl, -⟩
    · exact absurd hends hnot
    · omega

/-- The thread with the stale call, where nothing tells the base of the stack. -/
def staleCallOnOpenStack : Context :=
  { staleCall with limits := { staleCall.limits with stackBase := none } }

/-- The walk goes back from one gap and ends at the page behind the last word. -/
theorem staleCallOnOpenStack_balances :
    (run staleCallOnOpenStack).stats = ⟨522, 1, 512, 12, 1, 4160, 0⟩ ∧
      staleCallOnOpenStack.EndsUnread ∧
      Balances staleCallOnOpenStack (run staleCallOnOpenStack) := by
  have hstats : (run staleCallOnOpenStack).stats = ⟨522, 1, 512, 12, 1, 4160, 0⟩ := by
    decide +kernel
  have hbalances := run_balances staleCallOnOpenStack (by decide +kernel) (by decide +kernel)
  refine ⟨hstats, ?_, hbalances⟩
  -- one iteration is neither a recovery nor in the bytes
  by_contra hnot
  have htold := hbalances.endsOtherwise rfl hnot
  rw [hstats] at htold
  revert htold
  decide +kernel

end StackWalk.Walk

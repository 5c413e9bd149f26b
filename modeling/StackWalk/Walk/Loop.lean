/-!
# StackWalk.Walk.Loop — loops with a bound

A loop is a step that either goes on from a new state or ends with a result.  It is run for a number of
rounds that its caller knows to be enough, so it always ends; `iterate_induction` carries what every
step keeps over to the result, `iterate_total` what it comes to when the rounds are enough, and
`iterate_eq_or` compares the results of two loops.
-/

namespace StackWalk.Walk

/-- The outcome of one round of a loop. -/
inductive Round (σ ρ : Type)
  /-- Go on from here. -/
  | next (s : σ)
  /-- End with this result. -/
  | done (r : ρ)

/-- Runs a loop for at most so many rounds; `spent` is the result when they are used up. -/
def iterate {σ ρ : Type} (round : σ → Round σ ρ) (spent : σ → ρ) : Nat → σ → ρ
  | 0, s => spent s
  | rounds + 1, s =>
    match round s with
    | .next s => iterate round spent rounds s
    | .done r => r

/-! ## From the rounds to the loop -/

/-- If a round takes `P` to `P`, or to a result with `Q`, then so does the loop. -/
theorem iterate_induction {σ ρ : Type} {round : σ → Round σ ρ} {spent : σ → ρ} {P : σ → Prop}
    {Q : ρ → Prop} (hnext : ∀ s s', P s → round s = .next s' → P s')
    (hdone : ∀ s r, P s → round s = .done r → Q r) (hspent : ∀ s, P s → Q (spent s))
    (rounds : Nat) {s : σ} (hs : P s) : Q (iterate round spent rounds s) := by
  induction rounds generalizing s with
  | zero => exact hspent s hs
  | succ rounds ih =>
    unfold iterate
    split
    case h_1 s' h => exact ih (hnext s s' hs h)
    case h_2 r h => exact hdone s r hs h

/-- If a round that finds `I` goes on with `I` and a smaller measure `M`, or ends with `Q`, and there are
more rounds than the measure says, then the loop ends with `Q`. -/
theorem iterate_total {σ ρ : Type} {round : σ → Round σ ρ} {spent : σ → ρ} {I : σ → Prop}
    {Q : ρ → Prop} {M : σ → Nat}
    (hround : ∀ s, I s →
      (∃ s', round s = .next s' ∧ I s' ∧ M s' < M s) ∨ ∃ r, round s = .done r ∧ Q r)
    (rounds : Nat) {s : σ} (hs : I s) (hM : M s < rounds) :
    Q (iterate round spent rounds s) := by
  induction rounds generalizing s with
  | zero => exact absurd hM (Nat.not_lt_zero _)
  | succ rounds ih =>
    unfold iterate
    rcases hround s hs with ⟨s', hnext, hs', hlt⟩ | ⟨r, hdone, hr⟩
    · rw [hnext]
      exact ih hs' (Nat.lt_of_lt_of_le hlt (Nat.le_of_lt_succ hM))
    · rw [hdone]
      exact hr

/-- Two loops with the same rounds have the same result, unless one of them ends where the other may go
on: then their results are in any relation that holds whatever the other one still does. -/
theorem iterate_eq_or {σ ρ : Type} {round round' : σ → Round σ ρ} {spent : σ → ρ}
    {R : ρ → ρ → Prop}
    (hround : ∀ s, round s = round' s ∨
      ∃ r, round s = .done r ∧ ∀ rounds, R r (iterate round' spent rounds s))
    (rounds : Nat) (s : σ) :
    iterate round spent rounds s = iterate round' spent rounds s ∨
      R (iterate round spent rounds s) (iterate round' spent rounds s) := by
  induction rounds generalizing s with
  | zero => exact Or.inl rfl
  | succ rounds ih =>
    rcases hround s with hsame | ⟨r, hdone, hrel⟩
    · unfold iterate
      rw [hsame]
      split
      case h_1 s' _ => exact ih s'
      case h_2 r _ => exact Or.inl rfl
    · -- the other loop has all of its rounds left
      have hend : iterate round spent (rounds + 1) s = r := by
        unfold iterate
        rw [hdone]
      rw [hend]
      exact Or.inr (hrel (rounds + 1))

end StackWalk.Walk

/-!
# StackWalk.Order.Bisection — where the front of a sorted array ends

A test that holds for a front part of an array and for nothing behind it, such as "starts at or below
this address" on an array sorted by start, has one place where it stops to hold.  Halving finds it
without looking at every item; `lt_countFront_iff` says that it is the right place.
-/

namespace StackWalk.Order

/-- The first index from `low` on at which `p` does not hold, or else `high`, where `p` never holds again
after it has failed.  The window is halved at most `fuel` times. -/
def bisect (p : Nat → Bool) : Nat → Nat → Nat → Nat
  | 0, low, _ => low
  | fuel + 1, low, high =>
    if low < high then
      let middle := low + (high - low) / 2
      if p middle then bisect p fuel (middle + 1) high else bisect p fuel low middle
    else low

/-- The number of items in the front part, of which alone `p` holds. -/
def countFront {α : Type} (p : α → Bool) (items : Array α) : Nat :=
  bisect (fun i => items[i]?.any p) items.size 0 items.size

/-! ## The place is right -/

theorem lt_bisect_iff {p : Nat → Bool} (hp : ∀ i j, i ≤ j → p j = true → p i = true)
    {fuel low high : Nat} (hfuel : high - low ≤ fuel) (hle : low ≤ high)
    (hlow : ∀ i, i < low → p i = true) (hhigh : ∀ i, high ≤ i → p i = false) (i : Nat) :
    i < bisect p fuel low high ↔ p i = true := by
  induction fuel generalizing low high with
  | zero =>
    have hlow' := hlow i
    have hhigh' := hhigh i
    simp only [bisect]
    constructor
    · exact hlow'
    · intro h
      by_cases hi : i < low
      · exact hi
      · simp [hhigh' (by omega)] at h
  | succ fuel ih =>
    unfold bisect
    split
    case isTrue hlt =>
      dsimp only
      split
      case isTrue hmid =>
        refine ih (by omega) (by omega) ?_ hhigh
        intro j hj
        exact hp j _ (by omega) hmid
      case isFalse hmid =>
        refine ih (by omega) (by omega) hlow ?_
        intro j hj
        cases hpj : p j with
        | false => rfl
        | true => exact absurd (hp _ j hj hpj) hmid
    case isFalse hge =>
      have hhigh' := hhigh i
      constructor
      · exact hlow i
      · intro h
        by_cases hi : i < low
        · exact hi
        · simp [hhigh' (by omega)] at h

/-- The front part is exactly where the test holds. -/
theorem lt_countFront_iff {α : Type} {p : α → Bool} {items : Array α}
    (hp : ∀ i j : Nat, i ≤ j → items[j]?.any p = true → items[i]?.any p = true) (i : Nat) :
    i < countFront p items ↔ items[i]?.any p = true :=
  lt_bisect_iff hp (Nat.le_refl _) (Nat.zero_le _) (fun _ h => absurd h (Nat.not_lt_zero _))
    (fun j (hj : items.size ≤ j) => by simp [Array.getElem?_eq_none hj]) i

end StackWalk.Order

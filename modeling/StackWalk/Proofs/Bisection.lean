import Mathlib.Data.List.Basic
import StackWalk.Order.Bisection

/-!
# StackWalk.Proofs.Bisection — searching sorted arrays

In an array on which a test can only turn from true to false, the search by halving finds the last item
that passes it: the item before the count passes, and the one at the count, if there is one, does not.
-/

namespace StackWalk.Order

section Front

variable {α : Type} {p : α → Bool} {items : Array α}

/-- Once the test has failed it does not hold again. -/
def Turns (p : α → Bool) (items : Array α) : Prop :=
  items.toList.Pairwise fun a b => p b = true → p a = true

theorem Turns.lt_countFront_iff (h : Turns p items) (i : Nat) :
    i < countFront p items ↔ ∃ a, items[i]? = some a ∧ p a = true := by
  have earlier : ∀ i j : Nat, i ≤ j → items[j]?.any p = true → items[i]?.any p = true := by
    intro i j hij hj
    obtain ⟨b, hb, hpb⟩ : ∃ b, items[j]? = some b ∧ p b = true := by
      cases hb : items[j]? with
      | none => simp [hb] at hj
      | some b => exact ⟨b, rfl, by simpa [hb] using hj⟩
    rcases Nat.eq_or_lt_of_le hij with rfl | hlt
    · exact hj
    · obtain ⟨hjsize, rfl⟩ := Array.getElem?_eq_some_iff.mp hb
      have hisize : i < items.size := Nat.lt_trans hlt hjsize
      have hpa := List.pairwise_iff_getElem.mp h i j (by simpa using hisize) (by simpa using hjsize) hlt
      rw [Array.getElem?_eq_getElem hisize]
      simpa using hpa (by simpa using hpb)
  rw [Order.lt_countFront_iff earlier i]
  cases items[i]? <;> simp

/-- If no item is in the front part then none passes the test. -/
theorem Turns.eq_false_of_countFront (h : Turns p items) (hcount : countFront p items = 0) {a : α}
    (ha : a ∈ items) : p a = false := by
  obtain ⟨i, hi, rfl⟩ := Array.mem_iff_getElem.mp ha
  cases hp : p items[i] with
  | false => rfl
  | true =>
      have := (h.lt_countFront_iff i).mpr ⟨_, Array.getElem?_eq_getElem hi, hp⟩
      omega

/-- The last item of the front part passes the test, and the one behind it does not. -/
theorem Turns.last_of_countFront (h : Turns p items) {i : Nat} (hcount : countFront p items = i + 1) :
    ∃ a, items[i]? = some a ∧ p a = true ∧ ∀ b, items[i + 1]? = some b → p b = false := by
  obtain ⟨a, ha, hpa⟩ := (h.lt_countFront_iff i).mp (by omega)
  refine ⟨a, ha, hpa, fun b hb => ?_⟩
  cases hp : p b with
  | false => rfl
  | true =>
      have := (h.lt_countFront_iff (i + 1)).mpr ⟨b, hb, hp⟩
      omega

end Front

end StackWalk.Order

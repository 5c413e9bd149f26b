import StackWalk.Address

/-!
# StackWalk.Proofs.Address — addresses as numbers

The order of addresses and the ways to add to them, said of natural numbers, where `omega` can take over.
Addition wraps around at `2 ^ 64`; the checked form does not, and the saturating one stops there.
-/

namespace StackWalk.Address

variable {a b : Address} {offset : UInt64}

theorem toNat_lt (a : Address) : a.toNat < 0x1_0000_0000_0000_0000 := a.value.toNat_lt

theorem toNat_inj : a.toNat = b.toNat ↔ a = b := by
  constructor
  · intro h
    obtain ⟨x⟩ := a
    obtain ⟨y⟩ := b
    exact congrArg mk (UInt64.toNat_inj.mp h)
  · rintro rfl
    rfl

theorem le_iff_toNat : a ≤ b ↔ a.toNat ≤ b.toNat := UInt64.le_iff_toNat_le

theorem le_refl (a : Address) : a ≤ a := le_iff_toNat.mpr (Nat.le_refl _)

theorem lt_iff_toNat : a < b ↔ a.toNat < b.toNat := UInt64.lt_iff_toNat_lt

theorem not_lt : ¬ a < b ↔ b ≤ a := by
  rw [lt_iff_toNat, le_iff_toNat, Nat.not_lt]

theorem not_le : ¬ a ≤ b ↔ b < a := by
  rw [lt_iff_toNat, le_iff_toNat, Nat.not_le]

theorem lt_irrefl (a : Address) : ¬ a < a := fun h => Nat.lt_irrefl _ (lt_iff_toNat.mp h)

theorem le_of_lt (h : a < b) : a ≤ b := le_iff_toNat.mpr (Nat.le_of_lt (lt_iff_toNat.mp h))

theorem le_antisymm (hab : a ≤ b) (hba : b ≤ a) : a = b :=
  toNat_inj.mp (Nat.le_antisymm (le_iff_toNat.mp hab) (le_iff_toNat.mp hba))

theorem lt_of_le_of_lt {c : Address} (hab : a ≤ b) (hbc : b < c) : a < c :=
  lt_iff_toNat.mpr (Nat.lt_of_le_of_lt (le_iff_toNat.mp hab) (lt_iff_toNat.mp hbc))

theorem compare_eq_lt_iff : compare a b = .lt ↔ a < b :=
  show compareOfLessAndEq a.value b.value = .lt ↔ a.value < b.value from compareOfLessAndEq_eq_lt

/-- Records can be sorted by an address. -/
theorem le_trans_by {α : Type} (key : α → Address) (x y z : α) (hxy : decide (key x ≤ key y) = true)
    (hyz : decide (key y ≤ key z) = true) : decide (key x ≤ key z) = true := by
  simp only [decide_eq_true_eq, le_iff_toNat] at hxy hyz ⊢
  omega

theorem le_total_by {α : Type} (key : α → Address) (x y : α) :
    (decide (key x ≤ key y) || decide (key y ≤ key x)) = true := by
  simp only [Bool.or_eq_true, decide_eq_true_eq, le_iff_toNat]
  omega

theorem isNull_eq_false_of_lt (h : a < b) : b.isNull = false := by
  refine eq_false_of_ne_true fun hnull => ?_
  have hzero : b.toNat = 0 := congrArg UInt64.toNat (eq_of_beq hnull)
  rw [lt_iff_toNat, hzero] at h
  exact Nat.not_lt_zero _ h

theorem toNat_add (a : Address) (offset : UInt64) :
    (a + offset).toNat = (a.toNat + offset.toNat) % 0x1_0000_0000_0000_0000 :=
  UInt64.toNat_add a.value offset

/-- An offset leads back to where another one has led away from exactly if it is the same, whether they
wrap around or not. -/
theorem sub_add_eq_self_iff (a : Address) (back offset : UInt64) : a - back + offset = a ↔ offset = back := by
  have hval : a - back + offset = a ↔ a.value - back + offset = a.value :=
    ⟨fun h => congrArg value h, fun h => congrArg mk h⟩
  have hcancel : a.value - back + back = a.value := UInt64.sub_add_cancel _ _
  rw [hval]
  constructor
  · intro h
    exact (UInt64.add_right_inj _).mp (h.trans hcancel.symm)
  · rintro rfl
    exact hcancel

/-- Where nothing wraps around, the sum is that of the numbers. -/
theorem toNat_add_of_lt (h : a.toNat + offset.toNat < 0x1_0000_0000_0000_0000) :
    (a + offset).toNat = a.toNat + offset.toNat := by
  rw [toNat_add, Nat.mod_eq_of_lt h]

theorem toNat_of_above? (h : a.above? offset = some b) : b.toNat = a.toNat + offset.toNat := by
  unfold above? at h
  split at h
  case isTrue hlt =>
    obtain rfl : a + offset = b := Option.some.inj h
    exact toNat_add_of_lt hlt
  case isFalse => cases h

theorem le_of_above?_eq_none (h : a.above? offset = none) :
    0x1_0000_0000_0000_0000 ≤ a.toNat + offset.toNat := by
  unfold above? at h
  split at h
  · cases h
  case isFalse hge => exact Nat.le_of_not_lt hge

/-- The saturating sum is the smaller one of the sum and the last address. -/
theorem toNat_aboveOrLast (a : Address) (offset : UInt64) :
    (a.aboveOrLast offset).toNat = min (a.toNat + offset.toNat) (0x1_0000_0000_0000_0000 - 1) := by
  unfold aboveOrLast
  cases h : a.above? offset with
  | none =>
      have hge := le_of_above?_eq_none h
      rw [Nat.min_eq_right (by omega)]
      rfl
  | some b =>
      have hb := toNat_of_above? h
      have hlt := b.toNat_lt
      show b.toNat = _
      omega

end StackWalk.Address

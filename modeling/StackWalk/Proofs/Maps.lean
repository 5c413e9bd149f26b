import Mathlib.Data.List.Nodup
import Mathlib.Data.List.Perm.Basic
import Std.Data.ExtTreeMap

/-!
# StackWalk.Proofs.Maps — maps that are made by insertion

A map is made from a list of entries by inserting them one after the other.  Where no two of them are at
one key the order does not matter, and the entries that a map lists make the same map again.
-/

namespace StackWalk

variable {κ β : Type} {cmp : κ → κ → Ordering} [Std.TransCmp cmp]

/-- Insertions at different keys can be made in any order. -/
theorem foldl_insert_perm {α : Type} [Std.LawfulEqCmp cmp] {key : α → κ} {value : α → β} {xs ys : List α}
    (h : xs.Perm ys) (distinct : (xs.map key).Nodup) (m : Std.ExtTreeMap κ β cmp) :
    xs.foldl (fun m x => m.insert (key x) (value x)) m =
      ys.foldl (fun m x => m.insert (key x) (value x)) m := by
  refine h.foldl_eq' (fun x hx y hy m => ?_) m
  by_cases heq : key x = key y
  · rw [List.inj_on_of_nodup_map distinct hx hy heq]
  · refine Std.ExtTreeMap.ext_getElem? fun k => ?_
    simp only [Std.ExtTreeMap.getElem?_insert]
    by_cases hx : cmp (key x) k = .eq
    · have hy : cmp (key y) k ≠ .eq := fun hy =>
        heq ((Std.LawfulEqCmp.eq_of_compare hx).trans (Std.LawfulEqCmp.eq_of_compare hy).symm)
      simp [hx, hy]
    · simp [hx]

/-- The entries of a map make it again. -/
theorem insertMany_toList [BEq κ] [LawfulBEq κ] [Std.LawfulEqCmp cmp] (m : Std.ExtTreeMap κ β cmp) :
    (∅ : Std.ExtTreeMap κ β cmp).insertMany m.toList = m := by
  refine Std.ExtTreeMap.ext_getElem? fun k => ?_
  by_cases hk : k ∈ m
  · have value := Std.ExtTreeMap.getElem?_eq_some_getElem hk
    rw [value]
    exact Std.ExtTreeMap.getElem?_insertMany_list_of_mem Std.ReflCmp.compare_self
      Std.ExtTreeMap.distinct_keys_toList (Std.ExtTreeMap.mem_toList_iff_getElem?_eq_some.mpr value)
  · have absent : (m.toList.map Prod.fst).contains k = false := by
      simpa [Std.ExtTreeMap.map_fst_toList_eq_keys, Std.ExtTreeMap.mem_keys] using hk
    rw [Std.ExtTreeMap.getElem?_insertMany_list_of_contains_eq_false absent,
      Std.ExtTreeMap.getElem?_eq_none hk]
    rfl

end StackWalk

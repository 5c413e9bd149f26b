import Mathlib.Data.List.Basic
import StackWalk.Proofs.Address
import StackWalk.Proofs.Bisection
import StackWalk.Symbol.Remembered

/-!
# StackWalk.Proofs.Symbol.Index — what an index lists, and what it finds

Of the routines of a table those count that are the first with their entry.  An index lists them in
ascending order.  There are two ways to get there: a map that keeps the first routine of every key, and
a stable sort from which all but the first routine of each run are dropped.  Both give the same list,
because a list in ascending order is known by what is in it.

What an index finds is said without the array: the routine at an address is the one with the greatest
entry at or below it, and its end depends only on its size and on the entries above it.
-/

namespace StackWalk.Symbol

/-- The first routine with an entry. -/
def first? (routines : List Routine) (entry : Address) : Option Routine :=
  routines.find? fun r => r.start = entry

theorem start_of_first? {routines : List Routine} {entry : Address} {r : Routine}
    (h : first? routines entry = some r) : r.start = entry := by
  simpa using List.find?_some h

theorem mem_of_first? {routines : List Routine} {entry : Address} {r : Routine}
    (h : first? routines entry = some r) : r ∈ routines :=
  List.mem_of_find?_eq_some h

theorem exists_first? {routines : List Routine} {r : Routine} (h : r ∈ routines) :
    ∃ f, first? routines r.start = some f := by
  refine Option.isSome_iff_exists.mp (List.find?_isSome.mpr ⟨r, h, ?_⟩)
  simp

theorem first?_eq_none_iff {routines : List Routine} {entry : Address} :
    first? routines entry = none ↔ ∀ r ∈ routines, r.start ≠ entry := by
  simp [first?]

theorem first?_cons (r : Routine) (rs : List Routine) (entry : Address) :
    first? (r :: rs) entry = if r.start = entry then some r else first? rs entry := by
  by_cases h : r.start = entry <;> simp [first?, h]

theorem first?_append (xs ys : List Routine) (entry : Address) :
    first? (xs ++ ys) entry = (first? xs entry).or (first? ys entry) :=
  List.find?_append

/-- The routines that count, in ascending order. -/
structure Lists (sorted routines : List Routine) : Prop where
  ascending : sorted.Pairwise fun a b => a.start < b.start
  mem_iff : ∀ r, r ∈ sorted ↔ first? routines r.start = some r

/-- There is only one such list. -/
theorem Lists.unique {xs ys routines : List Routine} (hx : Lists xs routines)
    (hy : Lists ys routines) : xs = ys := by
  have distinct : ∀ {zs : List Routine}, Lists zs routines → zs.Nodup := by
    intro zs h
    refine h.ascending.imp fun hlt heq => ?_
    rw [heq] at hlt
    exact Address.lt_irrefl _ hlt
  refine List.Perm.eq_of_pairwise ?_ hx.ascending hy.ascending
    ((List.perm_ext_iff_of_nodup (distinct hx) (distinct hy)).mpr fun r => ?_)
  · intro a b _ _ hab hba
    exact absurd (Address.lt_of_le_of_lt (Address.le_of_lt hab) hba) (Address.lt_irrefl _)
  · rw [hx.mem_iff, hy.mem_iff]

/-- Of the routines that count, the first with an entry is the one that counts. -/
theorem Lists.first?_eq {sorted routines : List Routine} (h : Lists sorted routines) (entry : Address) :
    first? sorted entry = first? routines entry := by
  have found : ∀ {r : Routine}, first? sorted entry = some r → first? routines entry = some r := by
    intro r hr
    have hcounts := (h.mem_iff r).mp (mem_of_first? hr)
    rwa [start_of_first? hr] at hcounts
  cases hsorted : first? sorted entry with
  | some r => exact (found hsorted).symm
  | none =>
      refine (Option.eq_none_iff_forall_ne_some.mpr fun r hr => ?_).symm
      have hstart := start_of_first? hr
      exact first?_eq_none_iff.mp hsorted r ((h.mem_iff r).mpr (by rw [hstart, hr])) hstart

/-- Which routines count is known by the first routine of every entry. -/
theorem Lists.congr {sorted xs ys : List Routine} (h : Lists sorted xs)
    (hfirst : ∀ entry, first? ys entry = first? xs entry) : Lists sorted ys :=
  ⟨h.ascending, fun r => by rw [h.mem_iff, hfirst]⟩

/-! ## By a map -/

theorem getElem?_firstByStart (routines : List Routine) (entry : Address) :
    (Table.firstByStart routines)[entry]? = first? routines entry := by
  have fold : ∀ (rs : List Routine) (known : Std.ExtTreeMap Address Routine compare),
      (rs.foldl (fun known r => known.insertIfNew r.start r) known)[entry]? =
        known[entry]?.or (first? rs entry) := by
    intro rs
    induction rs with
    | nil => intro known; simp [first?]
    | cons r rs ih =>
        intro known
        rw [List.foldl_cons, ih, Std.ExtTreeMap.getElem?_insertIfNew]
        by_cases heq : r.start = entry
        · by_cases hknown : entry ∈ known
          · obtain ⟨f, hf⟩ := Option.isSome_iff_exists.mp
              (Std.ExtTreeMap.isSome_getElem?_iff_mem.mpr hknown)
            simp [heq, hknown]
          · simp [first?, heq, hknown]
        · simp [first?, heq]
  simp [Table.firstByStart, fold]

theorem Table.lists_sortedRoutines (t : Table) : Lists t.sortedRoutines t.routines := by
  have entry : ∀ {p : Address × Routine}, p ∈ (firstByStart t.routines).toList →
      first? t.routines p.1 = some p.2 := by
    intro p hp
    rw [← getElem?_firstByStart]
    exact Std.ExtTreeMap.mem_toList_iff_getElem?_eq_some.mp hp
  constructor
  · refine List.pairwise_map.mpr (Std.ExtTreeMap.ordered_keys_toList.imp_of_mem ?_)
    intro p q hp hq hlt
    rw [start_of_first? (entry hp), start_of_first? (entry hq)]
    exact Address.compare_eq_lt_iff.mp hlt
  · intro r
    simp only [sortedRoutines, List.mem_map]
    constructor
    · rintro ⟨p, hp, rfl⟩
      rw [start_of_first? (entry hp)]
      exact entry hp
    · intro hr
      refine ⟨(r.start, r), Std.ExtTreeMap.mem_toList_iff_getElem?_eq_some.mpr ?_, rfl⟩
      rw [getElem?_firstByStart, hr]

/-- Tables whose routines are the same as far as they count sort them alike. -/
theorem Table.sortedRoutines_congr {t u : Table}
    (hfirst : ∀ entry, first? u.routines entry = first? t.routines entry) :
    u.sortedRoutines = t.sortedRoutines :=
  u.lists_sortedRoutines.unique (t.lists_sortedRoutines.congr hfirst)

/-! ## By a stable sort -/

/-- Sorting does not change which routine with an entry comes first. -/
theorem first?_mergeSort (routines : List Routine) (entry : Address) :
    first? (routines.mergeSort fun a b => a.start ≤ b.start) entry = first? routines entry := by
  -- the routines with the entry are in order already, so they are still there in their order
  have equal : (routines.filter fun r => r.start = entry).Pairwise
      fun a b => decide (a.start ≤ b.start) = true := by
    refine List.pairwise_of_forall_mem_list fun a ha b hb => ?_
    obtain ⟨-, ha⟩ := List.mem_filter.mp ha
    obtain ⟨-, hb⟩ := List.mem_filter.mp hb
    rw [decide_eq_true_eq] at ha hb ⊢
    rw [ha, hb]
    exact Address.le_refl entry
  have sub := (List.sublist_mergeSort (Address.le_trans_by Routine.start) (Address.le_total_by Routine.start)
    equal List.filter_sublist).filter fun r => decide (r.start = entry)
  have same : (routines.filter fun r => r.start = entry) =
      (routines.mergeSort fun a b => a.start ≤ b.start).filter fun r => r.start = entry := by
    rw [List.filter_filter] at sub
    refine List.Sublist.eq_of_length (by simpa using sub) ?_
    exact ((List.mergeSort_perm _ _).symm.filter _).length_eq
  rw [first?, first?, ← List.head?_filter, ← List.head?_filter, same]

/-- What is left of a sorted list lists the routines that count, and none below the first. -/
theorem lists_dropRepeats {kept : Routine} {rs : List Routine}
    (h : (kept :: rs).Pairwise fun a b => a.start ≤ b.start) :
    Lists (dropRepeats kept rs) (kept :: rs) ∧
      ∀ r ∈ dropRepeats kept rs, kept.start ≤ r.start := by
  induction rs generalizing kept with
  | nil =>
      refine ⟨⟨List.pairwise_singleton _ _, fun r => ?_⟩, ?_⟩
      · rw [first?_cons]
        split
        case isTrue => simp [dropRepeats, eq_comm]
        case isFalse hne =>
          refine iff_of_false (fun hr => hne ?_) (by simp [first?])
          rw [List.mem_singleton.mp hr]
      · simp [dropRepeats, Address.le_refl]
  | cons r rs ih =>
      obtain ⟨hkept, hrest⟩ := List.pairwise_cons.mp h
      unfold dropRepeats
      split
      case isTrue heq =>
        -- the repeated entry is that of `kept`, which is found before it
        have hkept' : (kept :: rs).Pairwise fun a b => a.start ≤ b.start :=
          List.pairwise_cons.mpr ⟨fun b hb => hkept b (List.mem_cons_of_mem _ hb),
            (List.pairwise_cons.mp hrest).2⟩
        obtain ⟨hlists, hbound⟩ := ih hkept'
        refine ⟨⟨hlists.ascending, fun f => (hlists.mem_iff f).trans ?_⟩, hbound⟩
        simp only [first?_cons, heq]
        split <;> rfl
      case isFalse hne =>
        obtain ⟨hlists, hbound⟩ := ih hrest
        have hlt : ∀ f ∈ dropRepeats r rs, kept.start < f.start := by
          intro f hf
          have h₁ := hkept r (List.mem_cons_self ..)
          have h₂ := hbound f hf
          rw [← Address.toNat_inj] at hne
          rw [Address.le_iff_toNat] at h₁ h₂
          rw [Address.lt_iff_toNat]
          omega
        refine ⟨⟨List.pairwise_cons.mpr ⟨hlt, hlists.ascending⟩, fun f => ?_⟩, ?_⟩
        · rw [List.mem_cons, first?_cons]
          split
          case isTrue heq =>
            have hnot : f ∉ dropRepeats r rs := fun hf => Address.lt_irrefl _ (heq ▸ hlt f hf)
            simp [hnot, eq_comm]
          case isFalse hstart =>
            rw [hlists.mem_iff, or_iff_right]
            rintro rfl
            exact hstart rfl
        · intro f hf
          rcases List.mem_cons.mp hf with rfl | hf
          · exact Address.le_refl _
          · exact Address.le_of_lt (hlt f hf)

theorem lists_firstOfRuns {routines : List Routine}
    (h : routines.Pairwise fun a b => a.start ≤ b.start) :
    Lists (firstOfRuns routines) routines := by
  cases routines with
  | nil => exact ⟨List.Pairwise.nil, by simp [firstOfRuns, first?]⟩
  | cons r rs => exact (lists_dropRepeats h).1

theorem lists_sortByEntry (routines : List Routine) : Lists (sortByEntry routines) routines := by
  have sorted : (routines.mergeSort fun a b => a.start ≤ b.start).Pairwise
      fun a b => a.start ≤ b.start :=
    (List.pairwise_mergeSort (Address.le_trans_by Routine.start) (Address.le_total_by Routine.start)
      routines).imp of_decide_eq_true
  refine ⟨(lists_firstOfRuns sorted).ascending, fun r => ?_⟩
  rw [sortByEntry, (lists_firstOfRuns sorted).mem_iff, first?_mergeSort]

/-- Both ways give the same list. -/
theorem sortByEntry_eq (t : Table) : sortByEntry t.routines = t.sortedRoutines :=
  (lists_sortByEntry t.routines).unique t.lists_sortedRoutines

/-! ## What is found -/

/-- Of the routines that count, this one has the greatest entry at or below an address. -/
structure StartsLast (routines : List Routine) (a : Address) (f : Routine) : Prop where
  first : first? routines f.start = some f
  le : f.start ≤ a
  greatest : ∀ r ∈ routines, r.start ≤ a → r.start ≤ f.start

/-- There is only one such routine. -/
theorem StartsLast.unique {routines : List Routine} {a : Address} {f g : Routine}
    (hf : StartsLast routines a f) (hg : StartsLast routines a g) : f = g := by
  have h₁ := hg.greatest f (mem_of_first? hf.first) hf.le
  have h₂ := hf.greatest g (mem_of_first? hg.first) hg.le
  have hstart : f.start = g.start := Address.le_antisymm h₁ h₂
  have hfirst := hf.first
  rw [hstart, hg.first] at hfirst
  exact (Option.some.inj hfirst).symm

/-- The routine that starts last has not ended at the address: it has a size and reaches further, or it
has none and either another entry follows or the address is not the last one. -/
def Reaches (routines : List Routine) (a : Address) (f : Routine) : Prop :=
  if 0 < f.size then a < f.start.aboveOrLast f.size
  else (∃ r ∈ routines, f.start < r.start) ∨ a < Address.last

section Index

variable {index : Index} {routines : List Routine}

theorem Lists.turns (h : Lists index.routines.toList routines) (a : Address) :
    Order.Turns (fun r : Routine => r.start ≤ a) index.routines := by
  refine h.ascending.imp fun {x y} hlt => ?_
  simp only [decide_eq_true_eq, Address.le_iff_toNat]
  rw [Address.lt_iff_toNat] at hlt
  omega

/-- Every entry has its place in the index. -/
theorem Lists.exists_getElem? (h : Lists index.routines.toList routines) {r : Routine}
    (hr : r ∈ routines) : ∃ (i : Nat) (f : Routine),
      index.routines[i]? = some f ∧ f.start = r.start := by
  obtain ⟨f, hf⟩ := exists_first? hr
  have hstart := start_of_first? hf
  have hmem : f ∈ index.routines.toList := (h.mem_iff f).mpr (by rw [hstart, hf])
  obtain ⟨i, hi⟩ := Array.mem_iff_getElem?.mp (Array.mem_def.mpr hmem)
  exact ⟨i, f, hi, hstart⟩

/-- Places are in the order of the entries. -/
theorem Lists.lt_of_start_lt (h : Lists index.routines.toList routines) {i j : Nat} {f g : Routine}
    (hf : index.routines[i]? = some f) (hg : index.routines[j]? = some g)
    (hlt : f.start < g.start) : i < j := by
  obtain ⟨hi, rfl⟩ := Array.getElem?_eq_some_iff.mp hf
  obtain ⟨hj, rfl⟩ := Array.getElem?_eq_some_iff.mp hg
  rw [Address.lt_iff_toNat] at hlt
  rcases Nat.lt_trichotomy i j with hij | rfl | hji
  · exact hij
  · exact absurd hlt (Nat.lt_irrefl _)
  · have := List.pairwise_iff_getElem.mp h.ascending j i (by simpa using hj) (by simpa using hi) hji
    rw [Address.lt_iff_toNat] at this
    simp only [Array.getElem_toList] at this
    omega

/-- Nothing is counted exactly if nothing starts at or below the address. -/
theorem Lists.countUpTo_eq_zero_iff (h : Lists index.routines.toList routines) {a : Address} :
    index.countUpTo a = 0 ↔ ∀ r ∈ routines, a < r.start := by
  constructor
  · intro hcount r hr
    obtain ⟨i, f, hf, hstart⟩ := h.exists_getElem? hr
    have := (h.turns a).eq_false_of_countFront hcount (Array.mem_of_getElem? hf)
    rw [hstart, decide_eq_false_iff_not, Address.not_le] at this
    exact this
  · intro hall
    refine Nat.eq_zero_of_not_pos fun hpos => ?_
    obtain ⟨f, hf, hle⟩ := ((h.turns a).lt_countFront_iff 0).mp hpos
    have hmem : f ∈ routines :=
      mem_of_first? ((h.mem_iff f).mp (Array.mem_def.mp (Array.mem_of_getElem? hf)))
    exact Address.not_lt.mpr (of_decide_eq_true hle) (hall f hmem)

/-- The last routine counted is the one that starts last, and its end tells whether it reaches the
address. -/
theorem Lists.last_of_countUpTo (h : Lists index.routines.toList routines) {a : Address} {i : Nat}
    (hcount : index.countUpTo a = i + 1) : ∃ f, index.routines[i]? = some f ∧
      StartsLast routines a f ∧ (a < index.endOf i f ↔ Reaches routines a f) := by
  obtain ⟨f, hf, hle, hnext⟩ := (h.turns a).last_of_countFront hcount
  have hfirst : first? routines f.start = some f :=
    (h.mem_iff f).mp (Array.mem_def.mp (Array.mem_of_getElem? hf))
  refine ⟨f, hf, ⟨hfirst, of_decide_eq_true hle, fun r hr hra => ?_⟩, ?_⟩
  · obtain ⟨j, g, hg, hstart⟩ := h.exists_getElem? hr
    rw [← hstart] at hra ⊢
    have hj : j < i + 1 := hcount ▸ ((h.turns a).lt_countFront_iff j).mpr ⟨g, hg, by simpa using hra⟩
    refine Address.not_lt.mp fun hlt => ?_
    have := h.lt_of_start_lt hf hg hlt
    omega
  · unfold Index.endOf Reaches
    split
    · rfl
    cases hn : index.routines[i + 1]? with
    | none =>
        refine (or_iff_right ?_).symm
        rintro ⟨r, hr, hlt⟩
        obtain ⟨j, g, hg, hstart⟩ := h.exists_getElem? hr
        have hij := h.lt_of_start_lt hf hg (hstart ▸ hlt)
        have hsize := Array.getElem?_eq_none_iff.mp hn
        obtain ⟨hj, -⟩ := Array.getElem?_eq_some_iff.mp hg
        omega
    | some next =>
        have hafter : a < next.start :=
          Address.not_le.mp (of_decide_eq_false (hnext next hn))
        have hmem : next ∈ routines :=
          mem_of_first? ((h.mem_iff next).mp (Array.mem_def.mp (Array.mem_of_getElem? hn)))
        have hle := of_decide_eq_true hle
        exact iff_of_true hafter (Or.inl ⟨next, hmem, Address.lt_of_le_of_lt hle hafter⟩)

/-- **What a search finds.**  The routine at an address is the one that starts last at or below it, if
that one reaches it. -/
theorem Lists.routineAt?_eq_some_iff (h : Lists index.routines.toList routines) {a : Address}
    {f : Routine} :
    index.routineAt? a = some f ↔ StartsLast routines a f ∧ Reaches routines a f := by
  unfold Index.routineAt?
  split
  case h_1 hcount =>
    refine iff_of_false (by simp) fun ⟨hlast, _⟩ => ?_
    have := h.countUpTo_eq_zero_iff.mp hcount f (mem_of_first? hlast.first)
    exact Address.not_lt.mpr hlast.le this
  case h_2 i hcount =>
    obtain ⟨g, hg, hlast, hreach⟩ := h.last_of_countUpTo hcount
    simp only [hg, Option.filter_some, Option.ite_none_right_eq_some, Option.some.injEq,
      decide_eq_true_eq, hreach]
    constructor
    · rintro ⟨hr, rfl⟩
      exact ⟨hlast, hr⟩
    · rintro ⟨hf, hr⟩
      obtain rfl := hlast.unique hf
      exact ⟨hr, rfl⟩

/-- The name of an entry is that of its first routine. -/
theorem Lists.nameOf?_eq (h : Lists index.routines.toList routines) (entry : Address) :
    index.nameOf? entry = (first? routines entry).map Routine.name := by
  unfold Index.nameOf?
  split
  case h_1 hcount =>
    have hall := h.countUpTo_eq_zero_iff.mp hcount
    have hnone : first? routines entry = none := first?_eq_none_iff.mpr fun r hr heq =>
      Address.lt_irrefl _ (heq ▸ hall r hr)
    simp [hnone]
  case h_2 i hcount =>
    obtain ⟨g, hg, hlast, -⟩ := h.last_of_countUpTo hcount
    rw [hg, Option.filter_some]
    split
    case isTrue heq =>
      rw [← of_decide_eq_true heq, hlast.first]
    case isFalse hne =>
      have hnone : first? routines entry = none := first?_eq_none_iff.mpr fun r hr heq => by
        have hge : entry ≤ g.start := heq ▸ hlast.greatest r hr (heq ▸ Address.le_refl _)
        exact hne (decide_eq_true (Address.le_antisymm hlast.le hge))
      simp [hnone]

end Index

end StackWalk.Symbol

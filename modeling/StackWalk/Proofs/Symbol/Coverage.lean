import StackWalk.Proofs.Symbol.History

/-!
# StackWalk.Proofs.Symbol.Coverage — when an address in a routine is found

A table is asked for the routine that contains an address.  It looks at one routine only, the one that
starts last at or below the address.  Where routines follow one another that is the right one.  Where
they are nested or overlap it need not be: an inner routine that ends before the address hides the outer
one, and the table answers that there is none.

`finds_iff_not_hidden` gives the exact condition, for every table and every address: an address that some
routine contains is found unless a routine is hidden there.  `finds_of_apart` says that this never
happens where no two routines of known size share an address, and `innerRoutine_hides` that it does
happen otherwise.
-/

namespace StackWalk.Symbol

/-- The address lies in a routine of known size: at or above its entry and below its end, which is not
cut off at the end of the address space.  The last address lies in none. -/
structure Routine.Spans (f : Routine) (a : Address) : Prop where
  sized : 0 < f.size
  start_le : f.start ≤ a
  lt_end : a.toNat < f.start.toNat + f.size.toNat
  lt_last : a < Address.last

/-- The address lies in a routine: at or above its entry and below its end, which is the next entry where
the size is not known. -/
def Records.Contains (r : Records) (f : Routine) (a : Address) : Prop :=
  f.start ≤ a ∧ a.toNat < r.endOf f

/-- At the address `f` is hidden by `g`, which starts last: `g` starts in `f` and ends before the
address. -/
structure Hides (routines : List Routine) (g f : Routine) (a : Address) : Prop where
  spans : f.Spans a
  starts_in : f.start < g.start
  start_le : g.start ≤ a
  latest : ∀ r ∈ routines, r.start ≤ a → r.start ≤ g.start
  sized : 0 < g.size
  ended : g.start.toNat + g.size.toNat ≤ a.toNat

/-- Where a routine is hidden, two routines of known size share an address: the entry of the inner
one. -/
theorem Hides.spans_entry {routines : List Routine} {f g : Routine} {a : Address}
    (h : Hides routines g f a) : f.Spans g.start ∧ g.Spans g.start := by
  have hlast : g.start < Address.last := Address.lt_of_le_of_lt h.start_le h.spans.lt_last
  have hend := h.spans.lt_end
  have hle := Address.le_iff_toNat.mp h.start_le
  have hsize : 0 < g.size.toNat := UInt64.lt_iff_toNat_lt.mp h.sized
  exact ⟨⟨h.spans.sized, Address.le_of_lt h.starts_in, by omega, hlast⟩,
    ⟨h.sized, Address.le_refl _, by omega, hlast⟩⟩

/-- A routine of known size that does not reach an address below the last one ends at or before it. -/
theorem ended_of_not_reaches {routines : List Routine} {g : Routine} {a : Address}
    (hlast : a < Address.last) (h : ¬ Reaches routines a g) :
    0 < g.size ∧ g.start.toNat + g.size.toNat ≤ a.toNat := by
  unfold Reaches at h
  split at h
  case isTrue hsize =>
    refine ⟨hsize, ?_⟩
    rw [Address.lt_iff_toNat, Address.toNat_aboveOrLast] at h
    have hlast : a.toNat < 0xFFFF_FFFF_FFFF_FFFF := Address.lt_iff_toNat.mp hlast
    omega
  case isFalse => exact absurd (Or.inr hlast) h

theorem not_reaches_of_ended {routines : List Routine} {g : Routine} {a : Address} (hsize : 0 < g.size)
    (h : g.start.toNat + g.size.toNat ≤ a.toNat) : ¬ Reaches routines a g := by
  unfold Reaches
  rw [if_pos hsize, Address.lt_iff_toNat, Address.toNat_aboveOrLast]
  omega

namespace History

variable {h : History} {a : Address} {f g : Routine}

/-- The routines of a table that count. -/
def routines (h : History) : List Routine := (h.table.ask .routines).1

/-- A routine of known size contains the address. -/
def Covered (h : History) (a : Address) : Prop := ∃ f ∈ h.routines, f.Spans a

/-- The answer for the address is a routine that contains it. -/
def Finds (h : History) (a : Address) : Prop :=
  ∃ f, (h.table.ask (.routineAt a)).1 = some f ∧ h.records.Contains f a

theorem mem_routines : f ∈ h.routines ↔ first? h.records.routines f.start = some f := by
  have answer : h.routines = h.records.firstRoutines := h.holds_records.answer .routines
  rw [answer, h.records.lists_firstRoutines.mem_iff]

theorem ask_routineAt_iff : (h.table.ask (.routineAt a)).1 = some f ↔
    StartsLast h.records.routines a f ∧ Reaches h.records.routines a f := by
  have answer : (h.table.ask (.routineAt a)).1 = h.records.routineAt? a :=
    h.holds_records.answer (.routineAt a)
  rw [answer, Records.routineAt?_eq_some_iff]

/-- Of the routines that count, there is one that starts last. -/
theorem exists_startsLast (hf : f ∈ h.routines) (hle : f.start ≤ a) :
    ∃ g, StartsLast h.records.routines a g := by
  have hmem : f.start.toNat ∈ h.records.entries.filter fun entry => entry ≤ a.toNat :=
    List.mem_filter.mpr ⟨Records.mem_entries.mpr ⟨f, mem_of_first? (mem_routines.mp hf), rfl⟩,
      decide_eq_true (Address.le_iff_toNat.mp hle)⟩
  obtain ⟨entry, hentry⟩ := Option.isSome_iff_exists.mp
    (List.isSome_max?_of_mem hmem : h.records.entryUpTo? a.toNat |>.isSome)
  obtain ⟨r, hr, rfl⟩ := Records.mem_entries.mp
    (List.mem_filter.mp (List.max?_eq_some_iff.mp hentry).1).1
  obtain ⟨g, hg⟩ := exists_first? hr
  exact ⟨g, Records.startsLast_iff.mpr ⟨_, hentry, by rw [Records.first?_eq, hg]⟩⟩

theorem startsLast_mem_routines (hg : StartsLast h.records.routines a g) : g ∈ h.routines :=
  mem_routines.mpr hg.first

/-- Two routines that count and have one entry are the same. -/
theorem eq_of_start_eq (hf : f ∈ h.routines) (hg : g ∈ h.routines) (heq : f.start = g.start) :
    f = g := by
  have hfirst := mem_routines.mp hf
  rw [heq, mem_routines.mp hg] at hfirst
  exact (Option.some.inj hfirst).symm

/-- Where a routine is hidden, nothing is found. -/
theorem ask_eq_none_of_hides (hg : g ∈ h.routines) (hides : Hides h.routines g f a) :
    (h.table.ask (.routineAt a)).1 = none := by
  have hlast : StartsLast h.records.routines a g := by
    refine ⟨mem_routines.mp hg, hides.start_le, fun r hr hra => ?_⟩
    obtain ⟨k, hk⟩ := exists_first? hr
    have hstart := start_of_first? hk
    have := hides.latest k (mem_routines.mpr (by rw [hstart, hk])) (hstart ▸ hra)
    rwa [hstart] at this
  refine Option.eq_none_iff_forall_ne_some.mpr fun x hx => ?_
  obtain ⟨hxlast, hreach⟩ := ask_routineAt_iff.mp hx
  obtain rfl := hxlast.unique hlast
  exact not_reaches_of_ended hides.sized hides.ended hreach

/-- An address that a routine contains is found, or else that routine is hidden. -/
theorem finds_or_hides (hf : f ∈ h.routines) (spans : f.Spans a) :
    h.Finds a ∨ ∃ g ∈ h.routines, Hides h.routines g f a := by
  obtain ⟨g, hlast⟩ := exists_startsLast hf spans.start_le
  by_cases hreach : Reaches h.records.routines a g
  · exact .inl ⟨g, ask_routineAt_iff.mpr ⟨hlast, hreach⟩, hlast.le,
      (Records.reaches_iff hlast).mp hreach⟩
  · obtain ⟨hsize, hended⟩ := ended_of_not_reaches spans.lt_last hreach
    have hg := startsLast_mem_routines hlast
    have latest : ∀ r ∈ h.routines, r.start ≤ a → r.start ≤ g.start :=
      fun r hr => hlast.greatest r (mem_of_first? (mem_routines.mp hr))
    -- the routine that has ended is not the one that contains the address, so it starts later
    have starts_in : f.start < g.start := by
      have hle := latest f hf spans.start_le
      have hne : f.start.toNat ≠ g.start.toNat := fun heq => by
        obtain rfl := eq_of_start_eq hf hg (Address.toNat_inj.mp heq)
        exact absurd spans.lt_end (Nat.not_lt.mpr hended)
      rw [Address.le_iff_toNat] at hle
      rw [Address.lt_iff_toNat]
      omega
    exact .inr ⟨g, hg, spans, starts_in, hlast.le, latest, hsize, hended⟩

/-- Where no two routines of known size share an address, every address in one of them is found. -/
theorem finds_of_apart
    (apart : ∀ f ∈ h.routines, ∀ g ∈ h.routines, ∀ a, f.Spans a → g.Spans a → f = g)
    (covered : h.Covered a) : h.Finds a := by
  obtain ⟨f, hf, spans⟩ := covered
  refine (finds_or_hides hf spans).resolve_right fun ⟨g, hg, hides⟩ => ?_
  obtain ⟨hfspans, hgspans⟩ := hides.spans_entry
  obtain rfl := apart f hf g hg _ hfspans hgspans
  exact Address.lt_irrefl _ hides.starts_in

/-- **When an address in a routine is found.**  If a routine of known size contains an address, then the
answer for it is a routine that contains it, exactly unless a routine is hidden there by one that starts
later and ends before. -/
theorem finds_iff_not_hidden (h : History) (a : Address) :
    (h.Covered a → h.Finds a) ↔ ¬ ∃ f ∈ h.routines, ∃ g ∈ h.routines, Hides h.routines g f a := by
  constructor
  · rintro complete ⟨f, hf, g, hg, hides⟩
    obtain ⟨x, hx, -⟩ := complete ⟨f, hf, hides.spans⟩
    rw [ask_eq_none_of_hides hg hides] at hx
    cases hx
  · rintro hno ⟨f, hf, spans⟩
    exact (finds_or_hides hf spans).resolve_right fun ⟨g, hg, hides⟩ => hno ⟨f, hf, g, hg, hides⟩

/-- A routine with another one inside it. -/
def nested : History :=
  .ofRecords [⟨⟨0x1000⟩, 0x100, "outer"⟩, ⟨⟨0x1010⟩, 0x10, "inner"⟩] []

/-- Behind the inner routine the outer one is not found. -/
theorem innerRoutine_hides : ¬ ∀ (h : History) (a : Address), h.Covered a → h.Finds a := by
  intro complete
  have outer : (⟨⟨0x1000⟩, 0x100, "outer"⟩ : Routine) ∈ nested.routines :=
    mem_routines.mpr (by decide +kernel)
  have inner : (⟨⟨0x1010⟩, 0x10, "inner"⟩ : Routine) ∈ nested.routines :=
    mem_routines.mpr (by decide +kernel)
  have upTo : ∀ r ∈ nested.records.routines, r.start ≤ ⟨0x1050⟩ → r.start ≤ ⟨0x1010⟩ := by
    decide +kernel
  have latest : ∀ r ∈ nested.routines, r.start ≤ ⟨0x1050⟩ → r.start ≤ ⟨0x1010⟩ :=
    fun r hr => upTo r (mem_of_first? (mem_routines.mp hr))
  have spans : (⟨⟨0x1000⟩, 0x100, "outer"⟩ : Routine).Spans ⟨0x1050⟩ :=
    ⟨by decide, by decide, by decide, by decide⟩
  obtain ⟨x, hx, -⟩ := complete nested ⟨0x1050⟩ ⟨_, outer, spans⟩
  rw [ask_eq_none_of_hides inner ⟨spans, by decide, by decide, latest, by decide, by decide⟩] at hx
  cases hx

end History

end StackWalk.Symbol

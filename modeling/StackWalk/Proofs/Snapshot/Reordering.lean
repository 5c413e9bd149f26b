import StackWalk.Proofs.Maps
import StackWalk.Proofs.Snapshot.Images
import StackWalk.Proofs.Symbol.Index
import StackWalk.Snapshot.Walk

/-!
# StackWalk.Proofs.Snapshot.Reordering — the order of records does not matter

The records of a snapshot stand in lists, and its index is made by going through them: sorting images,
keeping the first routine of an entry, keeping the last import, instruction or word of an address.  Where
no two records of a kind are at one address, and images do not overlap, the order in which the lists are
gone through leaves no trace.

`target_reorders` says so of every answer of a snapshot, and so of every walk: the indexes of two
snapshots that differ in the order of their records only are the same.
-/

namespace StackWalk

/-! ## Symbols -/

namespace Symbol

/-- Where no entry is repeated, the first routine with an entry is the only one. -/
theorem first?_perm {xs ys : List Routine} (h : ys.Perm xs)
    (distinct : (xs.map Routine.start).Nodup) (entry : Address) :
    first? ys entry = first? xs entry := by
  refine Option.ext fun r => ?_
  have only : ∀ {zs : List Routine}, zs.Perm xs →
      (first? zs entry = some r ↔ r ∈ xs ∧ r.start = entry) := by
    intro zs hz
    constructor
    · intro hr
      exact ⟨hz.mem_iff.mp (mem_of_first? hr), start_of_first? hr⟩
    · rintro ⟨hr, rfl⟩
      obtain ⟨f, hf⟩ := exists_first? (hz.mem_iff.mpr hr)
      have hmem := hz.mem_iff.mp (mem_of_first? hf)
      rw [hf, List.inj_on_of_nodup_map distinct hmem hr (start_of_first? hf)]
  rw [only h, only (List.Perm.refl xs)]

end Symbol

/-! ## Snapshots -/

namespace Snapshot

/-- The second snapshot holds the same records as the first, each kind in an order of its own. -/
structure Reorders (s s₂ : Snapshot) : Prop where
  architecture : s₂.architecture = s.architecture
  thread : s₂.thread = s.thread
  registers : s₂.registers = s.registers
  stackBase : s₂.stackBase = s.stackBase
  limits : s₂.limits = s.limits
  mappings : s₂.mappings.Perm s.mappings
  routines : s₂.routines.Perm s.routines
  imports : s₂.imports.Perm s.imports
  listings : s₂.listings.Perm s.listings
  regions : s₂.regions.Perm s.regions

/-- No two records of a kind are at one address, and no word of the stack is captured twice. -/
structure Distinct (s : Snapshot) : Prop where
  routines : (s.routines.map Symbol.Routine.start).Nodup
  imports : (s.imports.map Symbol.Import.address).Nodup
  listings : (s.listings.map Listing.address).Nodup
  slots : (s.slots.map Prod.fst).Nodup

section Reordering

variable {s s₂ : Snapshot}

theorem Reorders.slots (h : Reorders s s₂) : s₂.slots.Perm s.slots := by
  unfold Snapshot.slots
  rw [h.architecture]
  exact h.regions.flatMap_right _

/-- The order of the records leaves no trace in the index. -/
theorem Reorders.index_eq (h : Reorders s s₂) (accepted : s.defect? = none) (distinct : s.Distinct) :
    s₂.index = s.index := by
  have mappings : Mapping.sorted s₂.mappings = Mapping.sorted s.mappings :=
    (inOrder_sorted accepted).sorted_eq h.mappings
  have routines : s₂.symbolTable.sortedRoutines = s.symbolTable.sortedRoutines :=
    Symbol.Table.sortedRoutines_congr (Symbol.first?_perm h.routines distinct.routines)
  have imports : s₂.symbolTable.imports = s.symbolTable.imports :=
    (foldl_insert_perm h.imports.symm distinct.imports _).symm
  have instructions : s₂.instructionMap = s.instructionMap :=
    (foldl_insert_perm h.listings.symm distinct.listings _).symm
  have words : s₂.wordMap = s.wordMap :=
    (foldl_insert_perm h.slots.symm distinct.slots _).symm
  unfold Snapshot.index Symbol.Table.index
  rw [mappings, routines, imports, instructions, words]

/-- **The order of records does not matter.**  Two snapshots that differ in it only, of which one is
accepted and has no two records of a kind at one address, answer every question about the process alike
and give the same trace within all limits. -/
theorem target_reorders (h : Reorders s s₂) (accepted : s.defect? = none) (distinct : s.Distinct) :
    s₂.target = s.target ∧ ∀ limits, s₂.walkWithin limits = s.walkWithin limits := by
  have target : s₂.target = s.target := congrArg Index.target (h.index_eq accepted distinct)
  refine ⟨target, fun limits => ?_⟩
  have context : s₂.context limits = s.context limits := by
    unfold Snapshot.context
    rw [target, h.architecture, h.registers]
  exact congrArg Walk.run context

end Reordering

/-- The snapshot with every list of records turned around. -/
def reversed (s : Snapshot) : Snapshot :=
  { s with
    mappings := s.mappings.reverse
    routines := s.routines.reverse
    imports := s.imports.reverse
    listings := s.listings.reverse
    regions := s.regions.reverse }

theorem reorders_reversed (s : Snapshot) : Reorders s s.reversed :=
  ⟨rfl, rfl, rfl, rfl, rfl, s.mappings.reverse_perm, s.routines.reverse_perm, s.imports.reverse_perm,
    s.listings.reverse_perm, s.regions.reverse_perm⟩

/-- A program and its C library, with two records of every other kind. -/
def programAndLibrary : Snapshot where
  architecture := .x86_64
  thread := 7
  registers := .ofPcSp ⟨0x401010⟩ ⟨0x7ffe0000⟩
  stackBase := some ⟨0x7ffe0100⟩
  limits := none
  mappings := [⟨"/usr/bin/app", ⟨0x400000⟩, ⟨0x410000⟩, some .main, true⟩,
    ⟨"/lib/libc.so.6", ⟨0x7f0000000000⟩, ⟨0x7f0000200000⟩, none, true⟩]
  routines := [⟨⟨0x401000⟩, 64, "main"⟩, ⟨⟨0x401040⟩, 0, "run"⟩]
  imports := [⟨⟨0x403018⟩, "free"⟩, ⟨⟨0x403020⟩, "malloc"⟩]
  listings := [⟨⟨0x401010⟩, 5, "call 0x401040"⟩, ⟨⟨0x401040⟩, 1, "hlt"⟩]
  regions := [⟨⟨0x7ffe0000⟩, [0x401015, 0]⟩, ⟨⟨0x7ffe0010⟩, [0, 0]⟩]

theorem programAndLibrary_reorders :
    programAndLibrary.defect? = none ∧ programAndLibrary.Distinct ∧
      programAndLibrary.reversed.mappings ≠ programAndLibrary.mappings ∧
      programAndLibrary.reversed.target = programAndLibrary.target ∧
      ∀ limits, programAndLibrary.reversed.walkWithin limits = programAndLibrary.walkWithin limits := by
  have sorted : Mapping.sorted programAndLibrary.mappings = programAndLibrary.mappings :=
    List.mergeSort_of_pairwise (by decide)
  have accepted : programAndLibrary.defect? = none := by
    rw [defect?_eq_none_iff, overlap?, sorted]
    decide +kernel
  have distinct : programAndLibrary.Distinct :=
    ⟨by decide +kernel, by decide +kernel, by decide +kernel, by decide +kernel⟩
  exact ⟨accepted, distinct, by decide +kernel,
    target_reorders (reorders_reversed programAndLibrary) accepted distinct⟩

end Snapshot

end StackWalk

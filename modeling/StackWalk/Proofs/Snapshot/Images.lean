import Mathlib.Data.List.Nodup
import Mathlib.Data.List.Perm.Basic
import StackWalk.Proofs.Address
import StackWalk.Proofs.Bisection
import StackWalk.Snapshot.Defect
import StackWalk.Snapshot.Index

/-!
# StackWalk.Proofs.Snapshot.Images — no two images share an address

A snapshot is accepted if it could be of a real process.  Of its images only neighbours in the order of
their starts are compared, and that is enough: when every image occupies an address and none reaches into
the next one, then none reaches into an image further behind.  So the images of an accepted snapshot are
`InOrder`, and this is the same as to say that no two of them share an address.

In such an order the last image that starts at or below an address is the only one that can contain it.
The search by halving looks at this one alone, and finds what going through the whole list would find.
-/

namespace StackWalk.Snapshot

/-! ## Images and their addresses -/

namespace Mapping

variable {m lower upper : Mapping} {a : Address}

theorem contains_iff : m.contains a = true ↔ m.start ≤ a ∧ a < m.stop := by
  simp [contains]

theorem isVoid_eq_false_iff : m.isVoid = false ↔ m.start < m.stop := by
  rw [isVoid, decide_eq_false_iff_not, Address.not_le]

/-- No address lies in both images. -/
def Apart (lower upper : Mapping) : Prop :=
  ∀ a, ¬ (lower.contains a = true ∧ upper.contains a = true)

theorem Apart.symm (h : Apart lower upper) : Apart upper lower :=
  fun a ⟨hupper, hlower⟩ => h a ⟨hlower, hupper⟩

theorem apart_of_stop_le (h : lower.stop ≤ upper.start) : Apart lower upper := by
  rintro a ⟨hlower, hupper⟩
  have hbelow := (contains_iff.mp hlower).2
  have habove := (contains_iff.mp hupper).1
  rw [Address.lt_iff_toNat] at hbelow
  rw [Address.le_iff_toNat] at h habove
  omega

/-- Of two images, the second of which occupies an address and starts no earlier, the first ends before
the second starts exactly if they are apart. -/
theorem stop_le_start_iff_apart (occupied : upper.start < upper.stop)
    (ordered : lower.start ≤ upper.start) : lower.stop ≤ upper.start ↔ Apart lower upper := by
  refine ⟨apart_of_stop_le, fun hapart => ?_⟩
  -- if it did not, the first address of the second image would lie in both
  refine Address.not_lt.mp fun hreach => hapart upper.start ⟨?_, ?_⟩
  · exact contains_iff.mpr ⟨ordered, hreach⟩
  · exact contains_iff.mpr ⟨Address.le_refl _, occupied⟩

end Mapping

/-! ## Images in order -/

/-- Images in order: each occupies an address, and ends before the next ones start. -/
def InOrder (mappings : List Mapping) : Prop :=
  mappings.Pairwise fun lower upper => lower.start < lower.stop ∧ lower.stop ≤ upper.start

theorem inOrder_of_firstOverlap {mappings : List Mapping}
    (occupied : ∀ m ∈ mappings, m.start < m.stop) (h : firstOverlap mappings = none) :
    InOrder mappings := by
  induction mappings with
  | nil => exact List.Pairwise.nil
  | cons lower rest ih =>
      cases rest with
      | nil => exact List.pairwise_singleton _ _
      | cons upper rest =>
          unfold firstOverlap at h
          split at h
          case isTrue => cases h
          case isFalse happart =>
            have hlower := occupied lower (List.mem_cons_self ..)
            have hrest := ih (fun m hm => occupied m (List.mem_cons_of_mem _ hm)) h
            refine List.pairwise_cons.mpr ⟨fun m hm => ⟨hlower, ?_⟩, hrest⟩
            rw [Address.not_lt] at happart
            rcases List.mem_cons.mp hm with rfl | hm
            · exact happart
            · obtain ⟨hupper, hle⟩ := (List.pairwise_cons.mp hrest).1 m hm
              rw [Address.lt_iff_toNat] at hupper
              rw [Address.le_iff_toNat] at happart hle ⊢
              omega

theorem InOrder.firstOverlap_eq_none {mappings : List Mapping} (h : InOrder mappings) :
    firstOverlap mappings = none := by
  induction mappings with
  | nil => rfl
  | cons lower rest ih =>
      cases rest with
      | nil => rfl
      | cons upper rest =>
          obtain ⟨hlower, hrest⟩ := List.pairwise_cons.mp h
          have happart := (hlower upper (List.mem_cons_self ..)).2
          rw [firstOverlap, if_neg (Address.not_lt.mpr happart)]
          exact ih hrest

/-- Comparing neighbours is enough. -/
theorem firstOverlap_eq_none_iff {mappings : List Mapping}
    (occupied : ∀ m ∈ mappings, m.start < m.stop) :
    firstOverlap mappings = none ↔ InOrder mappings :=
  ⟨inOrder_of_firstOverlap occupied, InOrder.firstOverlap_eq_none⟩

theorem pairwise_start_sorted (mappings : List Mapping) :
    (Mapping.sorted mappings).Pairwise fun lower upper => lower.start ≤ upper.start :=
  (List.pairwise_mergeSort (Address.le_trans_by Mapping.start) (Address.le_total_by Mapping.start)
    mappings).imp of_decide_eq_true

theorem sorted_perm (mappings : List Mapping) : (Mapping.sorted mappings).Perm mappings :=
  List.mergeSort_perm _ _

/-- Once they are sorted, images that occupy addresses are in order exactly if any two are apart. -/
theorem inOrder_sorted_iff {mappings : List Mapping} (occupied : ∀ m ∈ mappings, m.start < m.stop) :
    InOrder (Mapping.sorted mappings) ↔ mappings.Pairwise Mapping.Apart := by
  rw [← (sorted_perm mappings).pairwise_iff Mapping.Apart.symm]
  have occupied : ∀ m ∈ Mapping.sorted mappings, m.start < m.stop :=
    fun m hm => occupied m ((sorted_perm mappings).mem_iff.mp hm)
  have starts := pairwise_start_sorted mappings
  constructor
  · intro h
    refine (h.and starts).imp_of_mem fun {lower upper} _ hupper ⟨⟨_, hle⟩, hstart⟩ => ?_
    exact (Mapping.stop_le_start_iff_apart (occupied upper hupper) hstart).mp hle
  · intro h
    refine (h.and starts).imp_of_mem fun {lower upper} hlower hupper ⟨hapart, hstart⟩ => ?_
    exact ⟨occupied lower hlower,
      (Mapping.stop_le_start_iff_apart (occupied upper hupper) hstart).mpr hapart⟩

theorem InOrder.nodup_starts {mappings : List Mapping} (h : InOrder mappings) :
    (mappings.map Mapping.start).Nodup := by
  refine List.pairwise_map.mpr (h.imp fun ⟨hlt, hle⟩ heq => ?_)
  rw [heq, Address.lt_iff_toNat] at hlt
  rw [Address.le_iff_toNat] at hle
  omega

/-- Sorting puts the same images into the same order. -/
theorem InOrder.sorted_eq {xs ys : List Mapping} (h : InOrder (Mapping.sorted xs))
    (hp : ys.Perm xs) : Mapping.sorted ys = Mapping.sorted xs := by
  have perm : (Mapping.sorted ys).Perm (Mapping.sorted xs) :=
    (sorted_perm ys).trans (hp.trans (sorted_perm xs).symm)
  refine List.Perm.eq_of_pairwise ?_ (pairwise_start_sorted ys) (pairwise_start_sorted xs) perm
  intro a b ha hb hab hba
  exact List.inj_on_of_nodup_map h.nodup_starts (perm.mem_iff.mp ha) hb (Address.le_antisymm hab hba)

/-! ## Accepted snapshots -/

/-- What holds of a snapshot of a real process. -/
structure Real (s : Snapshot) : Prop where
  /-- Every image occupies an address. -/
  occupied : ∀ m ∈ s.mappings, m.start < m.stop
  /-- No two images, at different places of the list, share an address. -/
  apart : s.mappings.Pairwise Mapping.Apart
  /-- Every instruction has a byte. -/
  nonempty : ∀ l ∈ s.listings, l.length ≠ 0
  /-- The stack pointer does not lie above the stack. -/
  onStack : ∀ base, s.stackBase = some base → s.registers.sp ≤ base

section Accepted

variable {s : Snapshot}

theorem voidMapping?_eq_none_iff :
    s.voidMapping? = none ↔ ∀ m ∈ s.mappings, m.start < m.stop := by
  simp only [voidMapping?, Option.map_eq_none_iff, List.find?_eq_none, Bool.not_eq_true,
    Mapping.isVoid_eq_false_iff]

theorem overlap?_eq_none_iff (occupied : ∀ m ∈ s.mappings, m.start < m.stop) :
    s.overlap? = none ↔ s.mappings.Pairwise Mapping.Apart := by
  rw [← inOrder_sorted_iff occupied]
  exact firstOverlap_eq_none_iff fun m hm => occupied m ((sorted_perm _).mem_iff.mp hm)

theorem emptyInstruction?_eq_none_iff :
    s.emptyInstruction? = none ↔ ∀ l ∈ s.listings, l.length ≠ 0 := by
  simp [emptyInstruction?]

theorem outsideStack?_eq_none_iff :
    s.outsideStack? = none ↔ ∀ base, s.stackBase = some base → s.registers.sp ≤ base := by
  simp [outsideStack?, Address.not_lt]

/-- A snapshot is accepted exactly if it could be of a real process. -/
theorem defect?_eq_none_iff_real : s.defect? = none ↔ s.Real := by
  rw [defect?_eq_none_iff, voidMapping?_eq_none_iff, emptyInstruction?_eq_none_iff,
    outsideStack?_eq_none_iff]
  constructor
  · rintro ⟨occupied, hoverlap, nonempty, onStack⟩
    exact ⟨occupied, (overlap?_eq_none_iff occupied).mp hoverlap, nonempty, onStack⟩
  · rintro ⟨occupied, apart, nonempty, onStack⟩
    exact ⟨occupied, (overlap?_eq_none_iff occupied).mpr apart, nonempty, onStack⟩

/-- The images of an accepted snapshot are in order once they are sorted. -/
theorem inOrder_sorted (accepted : s.defect? = none) : InOrder (Mapping.sorted s.mappings) := by
  have real := defect?_eq_none_iff_real.mp accepted
  exact (inOrder_sorted_iff real.occupied).mpr real.apart

end Accepted

/-! ## The image at an address -/

section Lookup

variable {s : Snapshot} {m : Mapping} {a : Address}

theorem turns_mappings (s : Snapshot) (a : Address) :
    Order.Turns (fun m : Mapping => m.start ≤ a) s.index.mappings := by
  refine (pairwise_start_sorted s.mappings).imp fun {lower upper} hle hupper => ?_
  rw [decide_eq_true_eq, Address.le_iff_toNat] at hupper ⊢
  rw [Address.le_iff_toNat] at hle
  omega

theorem mem_index_mappings : m ∈ s.index.mappings ↔ m ∈ s.mappings :=
  List.mem_toArray.trans (sorted_perm s.mappings).mem_iff

/-- What is found contains the address, whatever the order of the images. -/
theorem contains_of_mappingAt? (h : s.index.mappingAt? a = some m) :
    m ∈ s.mappings ∧ m.contains a = true := by
  unfold Index.mappingAt? at h
  split at h
  case h_1 => cases h
  case h_2 i hcount =>
    obtain ⟨hm, hcontains⟩ := Option.filter_eq_some_iff.mp h
    exact ⟨mem_index_mappings.mp (Array.mem_of_getElem? hm), hcontains⟩

/-- Where images are in order, the one that contains an address is the last that starts at or below it. -/
theorem mappingAt?_of_contains (ordered : InOrder (Mapping.sorted s.mappings)) (hm : m ∈ s.mappings)
    (hcontains : m.contains a = true) : s.index.mappingAt? a = some m := by
  obtain ⟨hstart, hstop⟩ := Mapping.contains_iff.mp hcontains
  obtain ⟨j, hj, hjm⟩ := Array.mem_iff_getElem.mp (mem_index_mappings.mpr hm)
  have hfront : j < s.index.countUpTo a := ((turns_mappings s a).lt_countFront_iff j).mpr
    ⟨m, by rw [Array.getElem?_eq_getElem hj, hjm], decide_eq_true hstart⟩
  unfold Index.mappingAt?
  split
  case h_1 hcount => omega
  case h_2 i hcount =>
    obtain ⟨g, hg, hgstart, -⟩ := (turns_mappings s a).last_of_countFront hcount
    have hgstart := of_decide_eq_true hgstart
    have hlast : j = i := by
      by_contra hne
      obtain ⟨hi, hig⟩ := Array.getElem?_eq_some_iff.mp hg
      have hle := (List.pairwise_iff_getElem.mp ordered j i hj hi (by omega)).2
      have hle : m.stop ≤ g.start := by rwa [← hjm, ← hig]
      rw [Address.lt_iff_toNat] at hstop
      rw [Address.le_iff_toNat] at hle hgstart
      omega
    subst hlast
    rw [Array.getElem?_eq_getElem hj, hjm, Option.filter_some, if_pos hcontains]

/-- At most one image contains an address. -/
theorem filter_contains_eq (apart : s.mappings.Pairwise Mapping.Apart) (hm : m ∈ s.mappings)
    (hcontains : m.contains a = true) : (s.mappings.filter fun m => m.contains a) = [m] := by
  have hpair := apart.filter (fun m => m.contains a)
  have hall : ∀ x ∈ s.mappings.filter (fun m => m.contains a), x.contains a = true :=
    fun x hx => (List.mem_filter.mp hx).2
  have hmem : m ∈ s.mappings.filter fun m => m.contains a := List.mem_filter.mpr ⟨hm, hcontains⟩
  match hfound : s.mappings.filter fun m => m.contains a with
  | [] => rw [hfound] at hmem; cases hmem
  | [x] => rw [hfound, List.mem_singleton] at hmem; rw [hfound, hmem]
  | x :: y :: rest =>
      rw [hfound] at hpair hall
      have hxy := (List.pairwise_cons.mp hpair).1 y (List.mem_cons_self ..)
      exact absurd ⟨hall x (by simp), hall y (by simp)⟩ (hxy a)

/-- The search finds the images that contain an address: the only one, or none. -/
theorem toList_mappingAt? (accepted : s.defect? = none) (a : Address) :
    (s.index.mappingAt? a).toList = s.mappings.filter fun m => m.contains a := by
  have real := defect?_eq_none_iff_real.mp accepted
  cases hfound : s.index.mappingAt? a with
  | some m =>
      obtain ⟨hm, hcontains⟩ := contains_of_mappingAt? hfound
      exact (filter_contains_eq real.apart hm hcontains).symm
  | none =>
      refine (List.filter_eq_nil_iff.mpr fun m hm hcontains => ?_).symm
      rw [mappingAt?_of_contains (inOrder_sorted accepted) hm hcontains] at hfound
      cases hfound

/-- The search finds what going through the list finds. -/
theorem mappingAt?_eq_find? (accepted : s.defect? = none) (a : Address) :
    s.index.mappingAt? a = s.mappings.find? fun m => m.contains a := by
  rw [← List.head?_filter, ← toList_mappingAt? accepted]
  cases s.index.mappingAt? a <;> rfl

/-- **Accepted snapshots, and the image at an address.**  A snapshot is accepted exactly if all images
occupy addresses, no two share one, all instructions have a byte and the stack pointer does not lie above
the stack.  In an accepted snapshot the search for the image at an address finds one exactly if a listed
image contains the address, it is the only one in the list that does, and every answer about code is that
of going through the list. -/
theorem accepted_iff_real_and_searched (s : Snapshot) :
    (s.defect? = none ↔ s.Real) ∧
      (s.defect? = none → ∀ a,
        (∀ m, s.index.mappingAt? a = some m ↔ m ∈ s.mappings ∧ m.contains a = true) ∧
        (s.index.mappingAt? a).toList = (s.mappings.filter fun m => m.contains a) ∧
        s.target.isCode a = (s.mappings.find? fun m => m.contains a).any Mapping.executable ∧
        s.target.moduleOf a = (s.mappings.find? fun m => m.contains a).map Mapping.id ∧
        s.target.kindOf a = (s.mappings.find? fun m => m.contains a).map Mapping.effectiveKind) := by
  refine ⟨defect?_eq_none_iff_real, fun accepted a => ⟨fun m => ⟨contains_of_mappingAt?, ?_⟩, ?_⟩⟩
  · rintro ⟨hm, hcontains⟩
    exact mappingAt?_of_contains (inOrder_sorted accepted) hm hcontains
  · rw [← mappingAt?_eq_find? accepted]
    exact ⟨toList_mappingAt? accepted a, rfl, rfl, rfl⟩

end Lookup

/-- A capture that lists the C library in front of the program, which lies below it. -/
def libraryFirst : Snapshot :=
  { empty .x86_64 with
    registers := .ofPcSp ⟨0x401010⟩ ⟨0x7ffe0000⟩
    stackBase := some ⟨0x7ffe0000⟩
    mappings := [⟨"/lib/libc.so.6", ⟨0x7f0000000000⟩, ⟨0x7f0000200000⟩, none, true⟩,
      ⟨"/usr/bin/app", ⟨0x400000⟩, ⟨0x410000⟩, some .main, true⟩]
    listings := [⟨⟨0x401010⟩, 1, "hlt"⟩] }

theorem libraryFirst_searched :
    libraryFirst.defect? = none ∧
      libraryFirst.target.kindOf ⟨0x40FFFF⟩ = some .main ∧
      libraryFirst.target.moduleOf ⟨0x7f0000000000⟩ = some (.ofPath "libc.so.6") ∧
      libraryFirst.target.isCode ⟨0x410000⟩ = false := by
  have real : libraryFirst.Real :=
    ⟨by decide +kernel, List.pairwise_pair.mpr (Mapping.apart_of_stop_le (by decide)).symm,
      by decide +kernel, by decide +kernel⟩
  have accepted := (accepted_iff_real_and_searched libraryFirst).1.mpr real
  have searched := (accepted_iff_real_and_searched libraryFirst).2 accepted
  obtain ⟨-, -, -, -, hkind⟩ := searched ⟨0x40FFFF⟩
  obtain ⟨-, -, -, hmodule, -⟩ := searched ⟨0x7f0000000000⟩
  obtain ⟨-, -, hcode, -, -⟩ := searched ⟨0x410000⟩
  rw [hkind, hmodule, hcode]
  exact ⟨accepted, by decide +kernel, by decide +kernel, by decide +kernel⟩

end StackWalk.Snapshot

import Mathlib.Data.List.Dedup
import Mathlib.Data.List.Induction
import Mathlib.Data.List.Sort
import StackWalk.Proofs.Symbol.Index

/-!
# StackWalk.Proofs.Symbol.History — a table answers for all that was put into it

A table of symbols is made by steps: it starts empty or from records, takes up one routine, one import or
another table, is copied, and is asked questions in between.  Each such `History` has an outcome twice
over.  One is the table that the steps make, with whatever it has come to remember of its routines.  The
other are the `Records` that have been put in, in their order, with answers that are computed from them
each time anew: the first record of every entry, the greatest entry up to an address, the entry after
that.

`ask_eq_answer` says that the two agree on every question.  The records do not change when a question is
asked, so no earlier question changes a later answer.
-/

namespace StackWalk.Symbol

/-! ## What the records say -/

/-- Routines and imports in the order in which they were put into a table. -/
structure Records where
  routines : List Routine
  imports : List Import

namespace Records

/-- The entries of all routines. -/
def entries (r : Records) : List Nat :=
  r.routines.map fun f => f.start.toNat

/-- The first routine with an entry. -/
def first? (r : Records) (entry : Nat) : Option Routine :=
  r.routines.find? fun f => f.start.toNat = entry

/-- The greatest entry up to an address. -/
def entryUpTo? (r : Records) (a : Nat) : Option Nat :=
  (r.entries.filter fun entry => entry ≤ a).max?

/-- The least entry above an address. -/
def entryAbove? (r : Records) (a : Nat) : Option Nat :=
  (r.entries.filter fun entry => a < entry).min?

/-- Where a routine ends: where its size says, or else at the next entry, and never behind the last
address. -/
def endOf (r : Records) (f : Routine) : Nat :=
  if 0 < f.size then min (f.start.toNat + f.size.toNat) 0xFFFF_FFFF_FFFF_FFFF
  else (r.entryAbove? f.start.toNat).getD 0xFFFF_FFFF_FFFF_FFFF

/-- The routine that contains an address. -/
def routineAt? (r : Records) (a : Address) : Option Routine := do
  let entry ← r.entryUpTo? a.toNat
  let f ← r.first? entry
  if a.toNat < r.endOf f then some f else none

/-- The first routine of every entry, by entry. -/
def firstRoutines (r : Records) : List Routine :=
  (r.entries.dedup.mergeSort fun x y => x ≤ y).filterMap r.first?

/-- The last name that was bound to an import slot. -/
def importName? (r : Records) (a : Address) : Option String :=
  (r.imports.reverse.find? fun i => i.address = a).map Import.name

/-- The answer to a question. -/
def answer (r : Records) : (q : Question) → q.Answer
  | .routines => r.firstRoutines
  | .routineAt a => r.routineAt? a
  | .entryOf a => (r.routineAt? a).map Routine.start
  | .nameOf entry => (r.first? entry.toNat).map Routine.name
  | .importName a => r.importName? a

variable {r : Records} {a : Address} {f : Routine}

theorem first?_eq (r : Records) (entry : Address) :
    r.first? entry.toNat = Symbol.first? r.routines entry := by
  simp [first?, Symbol.first?, Address.toNat_inj]

theorem mem_entries {n : Nat} : n ∈ r.entries ↔ ∃ f ∈ r.routines, f.start.toNat = n :=
  List.mem_map

theorem start_of_first? {n : Nat} (h : r.first? n = some f) : f.start.toNat = n := by
  simpa using List.find?_some h

/-- The greatest entry up to an address is that of the routine that starts last. -/
theorem startsLast_iff :
    StartsLast r.routines a f ↔
      ∃ entry, r.entryUpTo? a.toNat = some entry ∧ r.first? entry = some f := by
  constructor
  · intro h
    refine ⟨f.start.toNat, List.max?_eq_some_iff.mpr ⟨?_, fun n hn => ?_⟩, ?_⟩
    · exact List.mem_filter.mpr ⟨mem_entries.mpr ⟨f, mem_of_first? h.first, rfl⟩,
        decide_eq_true (Address.le_iff_toNat.mp h.le)⟩
    · obtain ⟨hn, hle⟩ := List.mem_filter.mp hn
      obtain ⟨g, hg, rfl⟩ := mem_entries.mp hn
      exact Address.le_iff_toNat.mp
        (h.greatest g hg (Address.le_iff_toNat.mpr (of_decide_eq_true hle)))
    · rw [first?_eq, h.first]
  · rintro ⟨entry, hentry, hf⟩
    obtain ⟨hmem, hmax⟩ := List.max?_eq_some_iff.mp hentry
    obtain ⟨-, hle⟩ := List.mem_filter.mp hmem
    obtain rfl := start_of_first? hf
    refine ⟨by rw [← first?_eq, hf], Address.le_iff_toNat.mpr (of_decide_eq_true hle), ?_⟩
    intro g hg hga
    refine Address.le_iff_toNat.mpr (hmax _ (List.mem_filter.mpr ⟨mem_entries.mpr ⟨g, hg, rfl⟩, ?_⟩))
    exact decide_eq_true (Address.le_iff_toNat.mp hga)

/-- The routine that starts last reaches an address exactly if it ends behind it. -/
theorem reaches_iff (h : StartsLast r.routines a f) :
    Reaches r.routines a f ↔ a.toNat < r.endOf f := by
  unfold Reaches endOf
  split
  · rw [Address.lt_iff_toNat, Address.toNat_aboveOrLast]
  cases habove : r.entryAbove? f.start.toNat with
  | none =>
      have hnil := List.min?_eq_none_iff.mp habove
      rw [or_iff_right, Address.lt_iff_toNat]
      · rfl
      · rintro ⟨g, hg, hlt⟩
        have : g.start.toNat ∈ r.entries.filter fun entry => f.start.toNat < entry :=
          List.mem_filter.mpr ⟨mem_entries.mpr ⟨g, hg, rfl⟩,
            decide_eq_true (Address.lt_iff_toNat.mp hlt)⟩
        rw [hnil] at this
        cases this
  | some entry =>
      obtain ⟨hmem, -⟩ := List.min?_eq_some_iff.mp habove
      obtain ⟨hmem, hlt⟩ := List.mem_filter.mp hmem
      obtain ⟨g, hg, rfl⟩ := mem_entries.mp hmem
      have hlt := of_decide_eq_true hlt
      refine iff_of_true (Or.inl ⟨g, hg, Address.lt_iff_toNat.mpr hlt⟩) ?_
      -- an entry between the routine and the address would start later than the last one
      refine Nat.lt_of_not_le fun hle => ?_
      have := h.greatest g hg (Address.le_iff_toNat.mpr hle)
      rw [Address.le_iff_toNat] at this
      omega

theorem routineAt?_eq_some_iff :
    r.routineAt? a = some f ↔ StartsLast r.routines a f ∧ Reaches r.routines a f := by
  constructor
  · intro h
    obtain ⟨entry, hentry, h⟩ := Option.bind_eq_some_iff.mp h
    obtain ⟨g, hg, h⟩ := Option.bind_eq_some_iff.mp h
    split at h
    case isFalse => cases h
    case isTrue hlt =>
      obtain rfl := Option.some.inj h
      have hlast := startsLast_iff.mpr ⟨entry, hentry, hg⟩
      exact ⟨hlast, (reaches_iff hlast).mpr hlt⟩
  · rintro ⟨hlast, hreach⟩
    obtain ⟨entry, hentry, hf⟩ := startsLast_iff.mp hlast
    simp [routineAt?, hentry, hf, (reaches_iff hlast).mp hreach]

theorem lists_firstRoutines (r : Records) : Lists r.firstRoutines r.routines := by
  have ascending : (r.entries.dedup.mergeSort fun x y => x ≤ y).Pairwise fun x y => x < y := by
    have sorted : (r.entries.dedup.mergeSort fun x y => x ≤ y).Pairwise fun x y => decide (x ≤ y) = true :=
      List.pairwise_mergeSort (fun x y z => by simpa using Nat.le_trans)
        (fun x y => by simpa using Nat.le_total x y) r.entries.dedup
    have distinct : (r.entries.dedup.mergeSort fun x y => x ≤ y).Nodup :=
      (List.mergeSort_perm _ _).nodup_iff.mpr (List.nodup_dedup _)
    refine (sorted.and distinct).imp fun ⟨hle, hne⟩ => ?_
    exact Nat.lt_of_le_of_ne (of_decide_eq_true hle) hne
  constructor
  · refine ascending.filterMap _ fun x y hlt f hf g hg => ?_
    rw [Address.lt_iff_toNat, start_of_first? hf, start_of_first? hg]
    exact hlt
  · intro f
    rw [← first?_eq, firstRoutines, List.mem_filterMap]
    constructor
    · rintro ⟨n, -, hn⟩
      rw [start_of_first? hn, hn]
    · intro hf
      refine ⟨f.start.toNat, ?_, hf⟩
      rw [List.mem_mergeSort, List.mem_dedup]
      exact mem_entries.mpr ⟨f, mem_of_first? (by rw [← first?_eq, hf]), rfl⟩

/-- What is put in by two sequences of steps, one after the other. -/
def append (r other : Records) : Records :=
  ⟨r.routines ++ other.routines, r.imports ++ other.imports⟩

/-- The names of the second sequence of steps count before those of the first. -/
theorem importName?_append (r other : Records) (a : Address) :
    (r.append other).importName? a = (other.importName? a).or (r.importName? a) := by
  simp [append, importName?, List.find?_append, Option.map_or]

end Records

/-! ## How a table is made -/

/-- The steps that make a table. -/
inductive History
  | empty
  | ofRecords (routines : List Routine) (imports : List Import)
  | addRoutine (h : History) (start : Address) (size : UInt64) (symbol : String)
  | addImport (h : History) (address : Address) (name : String)
  /-- Another table is taken up, which has been made by steps of its own. -/
  | extend (h other : History)
  | copy (h : History)
  /-- A question is asked, and its answer is of no interest. -/
  | ask (h : History) (q : Question)

namespace History

/-- The table that the steps make. -/
def table : History → Remembered
  | empty => .empty
  | ofRecords routines imports => .ofRecords routines imports
  | addRoutine h start size symbol => h.table.addRoutine start size symbol
  | addImport h address name => h.table.addImport address name
  | extend h other => h.table.extend other.table
  | copy h => h.table.copy
  | ask h q => (h.table.ask q).2

/-- The records that the steps put in. -/
def records : History → Records
  | empty => ⟨[], []⟩
  | ofRecords routines imports => ⟨routines, imports⟩
  | addRoutine h start size symbol => h.records.append ⟨[.ofSymbol start size symbol], []⟩
  | addImport h address name => h.records.append ⟨[], [⟨address, name⟩]⟩
  | extend h other => h.records.append other.records
  | copy h => h.records
  | ask h _ => h.records

/-- The same steps without any question. -/
def unasked : History → History
  | empty => empty
  | ofRecords routines imports => ofRecords routines imports
  | addRoutine h start size symbol => addRoutine h.unasked start size symbol
  | addImport h address name => addImport h.unasked address name
  | extend h other => extend h.unasked other.unasked
  | copy h => copy h.unasked
  | ask h _ => h.unasked

theorem records_unasked (h : History) : h.unasked.records = h.records := by
  induction h with
  | empty => rfl
  | ofRecords => rfl
  | addRoutine h start size symbol ih => exact congrArg (Records.append · _) ih
  | addImport h address name ih => exact congrArg (Records.append · _) ih
  | extend h other ih iho =>
      show Records.append _ _ = Records.append _ _
      rw [ih, iho]
  | copy h ih => exact ih
  | ask h q ih => exact ih

end History

/-! ## What a table holds -/

theorem getElem?_importMap (imports : List Import) (a : Address) :
    (ImportMap.ofRecords imports)[a]? = (Records.mk [] imports).importName? a := by
  induction imports using List.reverseRecOn with
  | nil => simp [ImportMap.ofRecords, Records.importName?]
  | append_singleton imports i ih =>
      have hfold : ImportMap.ofRecords (imports ++ [i]) =
          (ImportMap.ofRecords imports).insert i.address i.name := by
        simp [ImportMap.ofRecords]
      rw [hfold, Std.ExtTreeMap.getElem?_insert, ih]
      by_cases heq : i.address = a <;> simp [Records.importName?, heq]

/-- A table holds some records, and what it remembers is up to date. -/
structure Remembered.Holds (t : Remembered) (r : Records) : Prop where
  routines : t.table.routines = r.routines
  imports : ∀ a, t.table.imports[a]? = r.importName? a
  current : ∀ sorted ∈ t.sorted, sorted = (sortByEntry r.routines).toArray

namespace Remembered

variable {t other : Remembered} {r s : Records}

theorem Holds.sort (h : t.Holds r) :
    t.sort.1 = (sortByEntry r.routines).toArray ∧ t.sort.2.Holds r := by
  unfold Remembered.sort
  split
  case h_1 sorted heq => exact ⟨h.current sorted heq, h⟩
  case h_2 =>
    rw [h.routines]
    exact ⟨rfl, h.routines, h.imports, fun sorted hs => (Option.some.inj hs).symm⟩

theorem Holds.ask (h : t.Holds r) (q : Question) : (t.ask q).2.Holds r := by
  cases q with
  | importName a => exact h
  | routines => exact h.sort.2
  | routineAt a => exact h.sort.2
  | entryOf a => exact h.sort.2
  | nameOf entry => exact h.sort.2

theorem Holds.lists (h : t.Holds r) : Lists t.index.1.routines.toList r.routines := by
  show Lists t.sort.1.toList r.routines
  rw [h.sort.1]
  exact lists_sortByEntry r.routines

/-- What is remembered is the index of the table. -/
theorem Holds.index_eq (h : t.Holds r) : t.index.1 = t.table.index := by
  have sorted : t.sort.1 = t.table.sortedRoutines.toArray := by
    rw [h.sort.1, ← sortByEntry_eq, h.routines]
  have imports : t.sort.2.table.imports = t.table.imports :=
    Std.ExtTreeMap.ext_getElem? fun a => (h.sort.2.imports a).trans (h.imports a).symm
  show Index.mk t.sort.1 t.sort.2.table.imports = Index.mk t.table.sortedRoutines.toArray t.table.imports
  rw [sorted, imports]

theorem Holds.routineAt? (h : t.Holds r) (a : Address) :
    t.index.1.routineAt? a = r.routineAt? a :=
  Option.ext fun f => by rw [h.lists.routineAt?_eq_some_iff, Records.routineAt?_eq_some_iff]

/-- A table that holds some records answers as they do. -/
theorem Holds.answer (h : t.Holds r) (q : Question) : (t.ask q).1 = r.answer q := by
  cases q with
  | routines => exact h.lists.unique r.lists_firstRoutines
  | routineAt a => exact h.routineAt? a
  | entryOf a => exact congrArg (Option.map Routine.start) (h.routineAt? a)
  | nameOf entry =>
      show t.index.1.nameOf? entry = (r.first? entry.toNat).map Routine.name
      rw [h.lists.nameOf?_eq, Records.first?_eq]
  | importName a => exact h.imports a

theorem holds_ofRecords (routines : List Routine) (imports : List Import) :
    (ofRecords routines imports).Holds ⟨routines, imports⟩ :=
  ⟨rfl, getElem?_importMap imports, fun _ h => by cases h⟩

theorem Holds.addRoutine (h : t.Holds r) (start : Address) (size : UInt64) (symbol : String) :
    (t.addRoutine start size symbol).Holds (r.append ⟨[.ofSymbol start size symbol], []⟩) where
  routines := congrArg (· ++ _) h.routines
  imports a := (h.imports a).trans (by simp [Records.append, Records.importName?])
  current _ hs := by cases hs

theorem Holds.addImport (h : t.Holds r) (address : Address) (name : String) :
    (t.addImport address name).Holds (r.append ⟨[], [⟨address, name⟩]⟩) where
  routines := h.routines.trans (List.append_nil _).symm
  imports a := by
    show (t.table.imports.insert address name)[a]? = _
    rw [Records.importName?_append, Std.ExtTreeMap.getElem?_insert, h.imports]
    by_cases heq : address = a <;> simp [Records.importName?, heq]
  -- the routines are the same, so what is remembered of them stays
  current sorted hs := by
    have := h.current sorted hs
    simpa [Records.append] using this

theorem Holds.extend (h : t.Holds r) (ho : other.Holds s) : (t.extend other).Holds (r.append s) where
  routines := by
    show t.table.routines ++ other.table.routines = r.routines ++ s.routines
    rw [h.routines, ho.routines]
  imports a := by
    show (t.table.imports ∪ other.table.imports)[a]? = _
    rw [Records.importName?_append, Std.ExtTreeMap.getElem?_union, h.imports, ho.imports]
  current _ hs := by cases hs

theorem Holds.copy (h : t.Holds r) : t.copy.Holds r :=
  ⟨h.routines, h.imports, fun _ hs => by cases hs⟩

end Remembered

/-! ## Every history -/

namespace History

/-- Every step keeps to the records. -/
theorem holds_records (h : History) : h.table.Holds h.records := by
  induction h with
  | empty => exact Remembered.holds_ofRecords [] []
  | ofRecords routines imports => exact Remembered.holds_ofRecords routines imports
  | addRoutine h start size symbol ih => exact ih.addRoutine start size symbol
  | addImport h address name ih => exact ih.addImport address name
  | extend h other ih iho => exact ih.extend iho
  | copy h ih => exact ih.copy
  | ask h q ih => exact ih.ask q

/-- **A table answers for its records.**  However a table has been made, and whatever it was asked on the
way, every question is answered as the records that were put in answer it; so the answer is the same as if
nothing had been asked before. -/
theorem ask_eq_answer (h : History) (q : Question) :
    (h.table.ask q).1 = h.records.answer q ∧ (h.table.ask q).1 = (h.unasked.table.ask q).1 := by
  have answer := h.holds_records.answer q
  refine ⟨answer, ?_⟩
  rw [answer, h.unasked.holds_records.answer q, records_unasked]

end History

end StackWalk.Symbol

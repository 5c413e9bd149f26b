import StackWalk.Proofs.Maps
import StackWalk.Proofs.Symbol.History
import StackWalk.Snapshot.Remembered

/-!
# StackWalk.Proofs.Snapshot.Overlay — symbols that are laid over a snapshot

A snapshot is captured, tables of symbols are laid over it, and in between it is asked questions and
remembers its index.  A table hands on what counts of it: its routines sorted by entry, one for each, and
its imports by slot.  These go behind the records that the snapshot has, where of routines with one entry
the first one counts and of the names of a slot the last one.

So nothing is lost that would count.  `answer_eq` says that a snapshot answers as one that had been
captured with all the records in its lists and had not been asked before, and `overlay_overlay` that it
makes no difference whether two tables are laid over it one after the other or taken up into one before.
-/

namespace StackWalk

/-! ## Records that answer alike -/

namespace Symbol

/-- The index of some records. -/
def Records.index (r : Records) : Index :=
  (Table.ofRecords r.routines r.imports).index

/-- Every entry has the same first routine, and every import slot the same last name. -/
structure Records.Alike (r s : Records) : Prop where
  first? : ∀ entry, Symbol.first? r.routines entry = Symbol.first? s.routines entry
  importName? : ∀ a, r.importName? a = s.importName? a

namespace Records

variable {r r' s s' : Records}

/-- Of two lists of records, the first keeps the entries that it has. -/
theorem mem_firstRoutines_append (r s : Records) (f : Routine) :
    f ∈ (r.append s).firstRoutines ↔
      f ∈ r.firstRoutines ∨ (∀ g ∈ r.firstRoutines, g.start ≠ f.start) ∧ f ∈ s.firstRoutines := by
  have absent : (∀ g ∈ r.firstRoutines, g.start ≠ f.start) ↔ Symbol.first? r.routines f.start = none := by
    rw [← first?_eq_none_iff, r.lists_firstRoutines.first?_eq]
  rw [absent, (r.append s).lists_firstRoutines.mem_iff, r.lists_firstRoutines.mem_iff,
    s.lists_firstRoutines.mem_iff, append, first?_append, Option.or_eq_some_iff]

theorem answer_nameOf_append (r s : Records) (entry : Address) :
    (r.append s).answer (.nameOf entry) = (r.answer (.nameOf entry)).or (s.answer (.nameOf entry)) := by
  show ((r.append s).first? entry.toNat).map Routine.name = _
  rw [first?_eq, append, first?_append, Option.map_or, ← first?_eq, ← first?_eq]
  rfl

theorem append_assoc (r s t : Records) : (r.append s).append t = r.append (s.append t) := by
  simp [append, List.append_assoc]

theorem Alike.append (h : r.Alike r') (k : s.Alike s') : (r.append s).Alike (r'.append s') where
  first? entry := by
    show Symbol.first? (r.routines ++ s.routines) entry = Symbol.first? (r'.routines ++ s'.routines) entry
    rw [first?_append, first?_append, h.first?, k.first?]
  importName? a := by
    rw [importName?_append, importName?_append, h.importName?, k.importName?]

/-- Records that are alike make the same index. -/
theorem Alike.index_eq (h : r.Alike s) : r.index = s.index := by
  have routines : (Table.ofRecords r.routines r.imports).sortedRoutines =
      (Table.ofRecords s.routines s.imports).sortedRoutines := Table.sortedRoutines_congr h.first?
  have imports : ImportMap.ofRecords r.imports = ImportMap.ofRecords s.imports := by
    refine Std.ExtTreeMap.ext_getElem? fun a => ?_
    rw [getElem?_importMap, getElem?_importMap]
    exact h.importName? a
  exact congrArg₂ (fun routines imports => Index.mk routines.toArray imports) routines imports

/-- The index answers as the records do. -/
theorem index_answer (r : Records) (q : Question) : r.index.answer q = r.answer q := by
  have holds := Remembered.holds_ofRecords r.routines r.imports
  have kept : (Remembered.ofRecords r.routines r.imports).index.1 = r.index := holds.index_eq
  rw [← holds.answer q, ← kept]
  cases q <;> rfl

end Records

/-- The imports that a table lists make its map again. -/
theorem ImportMap.ofRecords_sortedImports (t : Table) : ofRecords t.sortedImports = t.imports := by
  rw [ofRecords, Table.sortedImports, List.foldl_map,
    ← Std.ExtTreeMap.insertMany_list_eq_foldl, insertMany_toList]

/-- What a table hands on to a snapshot answers as the records that were put into it. -/
theorem Remembered.Holds.alike {t : Remembered} {r : Records} (h : t.Holds r) :
    (Records.mk (t.ask .routines).1 (t.ask .routines).2.table.sortedImports).Alike r where
  first? entry := h.lists.first?_eq entry
  importName? a := by
    rw [← (h.ask .routines).imports a, ← ImportMap.ofRecords_sortedImports (t.ask .routines).2.table]
    exact (getElem?_importMap _ a).symm

end Symbol

/-! ## What a snapshot remembers -/

namespace Snapshot

/-- The symbols of a snapshot. -/
def records (s : Snapshot) : Symbol.Records := ⟨s.routines, s.imports⟩

/-- The snapshot with other symbols. -/
def withRecords (s : Snapshot) (r : Symbol.Records) : Snapshot :=
  { s with routines := r.routines, imports := r.imports }

/-- The snapshot answers from the index that is made of it. -/
def answer (s : Snapshot) (q : Question) : q.Answer := s.answerFrom s.index q

theorem index_withRecords (s : Snapshot) {r r' : Symbol.Records} (h : r.Alike r') :
    (s.withRecords r).index = (s.withRecords r').index :=
  congrArg (fun symbols => Index.mk (Mapping.sorted s.mappings).toArray symbols s.instructionMap s.wordMap)
    h.index_eq

/-- A question about symbols is answered by the records. -/
theorem answer_symbols (s : Snapshot) (q : Symbol.Question) :
    s.answer (.symbols q) = s.records.answer q :=
  s.records.index_answer q

/-- A snapshot stands for another one: it has symbols that answer alike and is the same otherwise, and
what it remembers is up to date. -/
structure Remembered.Holds (r : Remembered) (whole : Snapshot) : Prop where
  symbols : r.snapshot.records.Alike whole.records
  others : r.snapshot = whole.withRecords r.snapshot.records
  current : ∀ index ∈ r.kept, index = r.snapshot.index

namespace Remembered

variable {r : Remembered} {whole : Snapshot} {table : Symbol.Remembered} {records : Symbol.Records}

theorem holds_ofSnapshot (s : Snapshot) : (ofSnapshot s).Holds s :=
  ⟨⟨fun _ => rfl, fun _ => rfl⟩, rfl, fun _ h => by cases h⟩

theorem Holds.index_snapshot (h : r.Holds whole) : r.snapshot.index = whole.index := by
  rw [h.others]
  exact whole.index_withRecords h.symbols

theorem Holds.index (h : r.Holds whole) : r.index.1 = whole.index ∧ r.index.2.Holds whole := by
  unfold Remembered.index
  split
  case h_1 index hkept => exact ⟨(h.current index hkept).trans h.index_snapshot, h⟩
  case h_2 =>
    exact ⟨h.index_snapshot, h.symbols, h.others, fun index hi => (Option.some.inj hi).symm⟩

/-- A snapshot answers as the one that it stands for, and stands for it afterwards. -/
theorem Holds.ask (h : r.Holds whole) (q : Question) :
    (r.ask q).1 = whole.answer q ∧ (r.ask q).2.Holds whole := by
  obtain ⟨hindex, hholds⟩ := h.index
  refine ⟨?_, hholds⟩
  show r.index.2.snapshot.answerFrom r.index.1 q = whole.answerFrom whole.index q
  rw [hindex, hholds.others]
  cases q <;> rfl

/-- The symbols of a table go behind those of the snapshot, and what is remembered is forgotten. -/
theorem Holds.overlay (h : r.Holds whole) (k : table.Holds records) :
    (r.overlay table).Holds (whole.withRecords (whole.records.append records)) where
  symbols := h.symbols.append k.alike
  others := by
    unfold Remembered.overlay
    rw [h.others]
    rfl
  current _ hi := by cases hi

/-- This is the overlay of a snapshot and a table that remember nothing. -/
theorem snapshot_overlay (r : Remembered) (k : table.Holds records) :
    (r.overlay table).snapshot = r.snapshot.overlay table.table := by
  have routines : (table.ask .routines).1 = table.table.sortedRoutines :=
    congrArg (fun index => index.routines.toList) k.index_eq
  have imports : (table.ask .routines).2.table.imports = table.table.imports :=
    congrArg Symbol.Index.imports k.index_eq
  unfold Remembered.overlay Snapshot.overlay Symbol.Table.sortedImports
  rw [← routines, ← imports]

end Remembered

/-! ## Every history -/

/-- What happens to a snapshot. -/
inductive History
  | captured (s : Snapshot)
  /-- A table is laid over it, which has been made by steps of its own. -/
  | overlay (h : History) (table : Symbol.History)
  /-- A question is asked, and its answer is of no interest. -/
  | ask (h : History) (q : Question)

namespace History

/-- The snapshot, with what it has come to remember. -/
def state : History → Remembered
  | captured s => .ofSnapshot s
  | overlay h table => h.state.overlay table.table
  | ask h q => (h.state.ask q).2

/-- The snapshot as it would have been captured with all the records. -/
def whole : History → Snapshot
  | captured s => s
  | overlay h table => h.whole.withRecords (h.whole.records.append table.records)
  | ask h _ => h.whole

/-- The same without any question, to the snapshot or to a table. -/
def unasked : History → History
  | captured s => captured s
  | overlay h table => overlay h.unasked table.unasked
  | ask h _ => h.unasked

/-- The answer to a question after all that has happened. -/
def answer (h : History) (q : Question) : q.Answer := (h.state.ask q).1

theorem whole_unasked (h : History) : h.unasked.whole = h.whole := by
  induction h with
  | captured s => rfl
  | overlay h table ih =>
      show h.unasked.whole.withRecords (h.unasked.whole.records.append table.unasked.records) = _
      rw [ih, table.records_unasked]
      rfl
  | ask h q ih => exact ih

/-- Nothing that happens to a snapshot makes it answer for another one. -/
theorem holds_whole (h : History) : h.state.Holds h.whole := by
  induction h with
  | captured s => exact Remembered.holds_ofSnapshot s
  | overlay h table ih => exact ih.overlay table.holds_records
  | ask h q ih => exact (ih.ask q).2

/-- A snapshot answers for all its records, whatever it was asked before. -/
theorem answer_eq (h : History) (q : Question) : h.answer q = h.whole.answer q :=
  (h.holds_whole.ask q).1

/-- What a question is answered with depends on the records alone. -/
theorem answer_congr {x y : History} (same : x.whole = y.whole) (q : Question) :
    x.answer q = y.answer q := by
  rw [answer_eq, answer_eq, same]

theorem answer_symbols (h : History) (q : Symbol.Question) :
    h.answer (.symbols q) = h.whole.records.answer q :=
  (h.answer_eq _).trans (h.whole.answer_symbols q)

/-- What the snapshot knew keeps its entries when a table is laid over it, and what the table binds takes
over its slots. -/
structure LaidOver (h : History) (table : Symbol.History) (after : History) : Prop where
  routines : ∀ f, f ∈ after.answer (.symbols .routines) ↔
    f ∈ h.answer (.symbols .routines) ∨
      (∀ g ∈ h.answer (.symbols .routines), g.start ≠ f.start) ∧ f ∈ (table.table.ask .routines).1
  nameOf : ∀ entry, after.answer (.symbols (.nameOf entry)) =
    (h.answer (.symbols (.nameOf entry))).or (table.table.ask (.nameOf entry)).1
  importName : ∀ a, after.answer (.symbols (.importName a)) =
    (table.table.ask (.importName a)).1.or (h.answer (.symbols (.importName a)))

theorem laidOver {h after : History} {table : Symbol.History}
    (same : after.whole = (h.overlay table).whole) : LaidOver h table after := by
  have asked : ∀ q, (table.table.ask q).1 = table.records.answer q := table.holds_records.answer
  have both : after.whole.records = h.whole.records.append table.records := congrArg records same
  constructor
  · intro f
    rw [answer_symbols, answer_symbols, asked, both]
    exact h.whole.records.mem_firstRoutines_append table.records f
  · intro entry
    rw [answer_symbols, answer_symbols, asked, both]
    exact h.whole.records.answer_nameOf_append table.records entry
  · intro a
    rw [answer_symbols, answer_symbols, asked, both]
    exact h.whole.records.importName?_append table.records a

/-- **Overlays compose.**  Two tables are laid over a snapshot one after the other, or the second is taken
up into the first and that one is laid over it.  Every question has the same answer then, the walks of the
stack within all limits among them, and either way the routines of the snapshot win over those of the
tables and the imports of the tables over those of the snapshot.  What the snapshot and the tables were
asked on the way does not matter. -/
theorem overlay_overlay (h : History) (t u : Symbol.History) {twice once : History}
    (two : twice.unasked = ((h.overlay t).overlay u).unasked)
    (one : once.unasked = (h.overlay (t.extend u)).unasked) :
    (∀ q, twice.answer q = once.answer q) ∧
      LaidOver h (t.extend u) twice ∧ LaidOver h (t.extend u) once := by
  -- the records of both tables stand in the same order behind those of the snapshot
  have compose : ((h.overlay t).overlay u).whole = (h.overlay (t.extend u)).whole :=
    congrArg h.whole.withRecords (h.whole.records.append_assoc t.records u.records)
  have whole_twice : twice.whole = (h.overlay (t.extend u)).whole := by
    rw [← whole_unasked, two, whole_unasked, compose]
  have whole_once : once.whole = (h.overlay (t.extend u)).whole := by
    rw [← whole_unasked, one, whole_unasked]
  exact ⟨answer_congr (whole_twice.trans whole_once.symm), laidOver whole_twice, laidOver whole_once⟩

/-- A snapshot with one routine and one import. -/
def known : History :=
  .captured { empty .x86_64 with
    routines := [⟨⟨0x1000⟩, 0x40, "known"⟩]
    imports := [⟨⟨0x3000⟩, "captured"⟩] }

/-- A table with other names for both. -/
def rival : Symbol.History :=
  .ofRecords [⟨⟨0x1000⟩, 0x20, "rival"⟩] [⟨⟨0x3000⟩, "bound"⟩]

/-- A table with one more routine. -/
def late : Symbol.History := .ofRecords [⟨⟨0x2000⟩, 0, "late"⟩] []

/-- Both tables are laid over the snapshot, which is asked before each. -/
def askedTwice : History :=
  (((known.ask (.walk .standard)).overlay (rival.ask .routines)).ask
    (.symbols (.nameOf ⟨0x2000⟩))).overlay late

theorem askedTwice_composes :
    askedTwice.unasked = ((known.overlay rival).overlay late).unasked ∧
      (∀ q, askedTwice.answer q = (known.overlay (rival.extend late)).answer q) ∧
      askedTwice.answer (.symbols (.nameOf ⟨0x1000⟩)) = some "known" ∧
      askedTwice.answer (.symbols (.nameOf ⟨0x2000⟩)) = some "late" ∧
      askedTwice.answer (.symbols (.importName ⟨0x3000⟩)) = some "bound" := by
  obtain ⟨same, -, -⟩ := @overlay_overlay known rival late askedTwice
    (known.overlay (rival.extend late)) rfl rfl
  refine ⟨rfl, same, ?_, ?_, ?_⟩
  · rw [answer_symbols]
    decide +kernel
  · rw [answer_symbols]
    decide +kernel
  · rw [answer_symbols]
    decide +kernel

end History

end Snapshot

end StackWalk

import StackWalk.Symbol.Table

/-!
# StackWalk.Symbol.Remembered — a table that remembers its sorted routines

The routines of a table are sorted when the first question about them is asked, and the result is kept
for the questions that follow.  A change to the routines forgets it; a change to the imports alone does
not have to.  A copy starts without it.

Sorting leaves routines with one entry in the order in which they were added, so the first one of such a
run is the one that counts.
-/

namespace StackWalk.Symbol

/-- `kept`, and behind it the routines whose entry is not that of the last one kept. -/
def dropRepeats (kept : Routine) : List Routine → List Routine
  | [] => [kept]
  | r :: rs => if r.start = kept.start then dropRepeats kept rs else kept :: dropRepeats r rs

/-- The first routine of every run with one entry. -/
def firstOfRuns : List Routine → List Routine
  | [] => []
  | r :: rs => dropRepeats r rs

/-- The routines sorted by entry, the first one of each. -/
def sortByEntry (routines : List Routine) : List Routine :=
  firstOfRuns (routines.mergeSort fun a b => a.start ≤ b.start)

/-- A question about symbols. -/
inductive Question
  /-- All routines that count, by entry. -/
  | routines
  /-- The routine that contains an address. -/
  | routineAt (a : Address)
  /-- The entry of the routine that contains an address. -/
  | entryOf (a : Address)
  /-- The name of the routine with an entry. -/
  | nameOf (entry : Address)
  /-- The name that is bound to an import slot. -/
  | importName (a : Address)
deriving DecidableEq, Repr

/-- What a question is answered with. -/
abbrev Question.Answer : Question → Type
  | .routines => List Routine
  | .routineAt _ => Option Routine
  | .entryOf _ => Option Address
  | .nameOf _ | .importName _ => Option String

/-- The answer of an index. -/
def Index.answer (index : Index) : (q : Question) → q.Answer
  | .routines => index.routines.toList
  | .routineAt a => index.routineAt? a
  | .entryOf a => index.entryOf? a
  | .nameOf entry => index.nameOf? entry
  | .importName a => index.importName? a

/-- A table, and its routines sorted by entry if they have been asked for since they changed. -/
structure Remembered where
  table : Table
  sorted : Option (Array Routine)

namespace Remembered

/-- The table without symbols. -/
def empty : Remembered := ⟨.empty, none⟩

/-- The table of some records, whose names are taken as they are. -/
def ofRecords (routines : List Routine) (imports : List Import) : Remembered :=
  ⟨.ofRecords routines imports, none⟩

/-- The table with one more routine. -/
def addRoutine (t : Remembered) (start : Address) (size : UInt64) (symbol : String) : Remembered :=
  ⟨t.table.addRoutine start size symbol, none⟩

/-- The table with a name bound to an import slot; the routines are the same. -/
def addImport (t : Remembered) (address : Address) (name : String) : Remembered :=
  { t with table := t.table.addImport address name }

/-- The table with everything added that another one holds. -/
def extend (t other : Remembered) : Remembered :=
  ⟨t.table.extend other.table, none⟩

/-- A copy, which remembers nothing. -/
def copy (t : Remembered) : Remembered :=
  ⟨t.table, none⟩

/-- The sorted routines, and the table that remembers them. -/
def sort (t : Remembered) : Array Routine × Remembered :=
  match t.sorted with
  | some sorted => (sorted, t)
  | none =>
    let sorted := (sortByEntry t.table.routines).toArray
    (sorted, { t with sorted := some sorted })

/-- The index of the table, and the table that remembers its routines. -/
def index (t : Remembered) : Index × Remembered :=
  let (sorted, t) := t.sort
  (⟨sorted, t.table.imports⟩, t)

/-- The answer to a question, and the table after it.  Only a question about an import needs no sorted
routines. -/
def ask (t : Remembered) (q : Question) : q.Answer × Remembered :=
  match q with
  | .importName a => (t.table.imports[a]?, t)
  | q => (t.index.1.answer q, t.index.2)

end Remembered

end StackWalk.Symbol

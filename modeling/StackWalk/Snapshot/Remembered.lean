import StackWalk.Snapshot.Walk
import StackWalk.Symbol.Remembered

/-!
# StackWalk.Snapshot.Remembered — a snapshot that remembers its index

The index of a snapshot is made when the first question is asked, and kept for the questions that follow.
Walking the captured stack is such a question too.  Symbols that are laid over the snapshot make a new
index necessary, and the one that is kept is forgotten.
-/

namespace StackWalk.Snapshot

/-- A question about a stopped thread and its process. -/
inductive Question
  /-- Whether an address lies in executable memory. -/
  | isCode (a : Address)
  /-- The image that contains an address. -/
  | moduleOf (a : Address)
  /-- The kind of the image that contains an address. -/
  | kindOf (a : Address)
  /-- A question about symbols. -/
  | symbols (q : Symbol.Question)
  /-- The instruction at an address. -/
  | decode (a : Address)
  /-- The word at an address. -/
  | readWord (a : Address)
  /-- The walk of the stack within some limits. -/
  | walk (limits : Limits)
deriving DecidableEq, Repr

/-- What a question is answered with. -/
abbrev Question.Answer : Question → Type
  | .isCode _ => Bool
  | .moduleOf _ => Option ModuleId
  | .kindOf _ => Option ModuleKind
  | .symbols q => q.Answer
  | .decode _ => Option Instruction
  | .readWord _ => Option UInt64
  | .walk _ => Trace

/-- The answer of a snapshot from an index. -/
def answerFrom (s : Snapshot) (index : Index) : (q : Question) → q.Answer
  | .isCode a => index.target.isCode a
  | .moduleOf a => index.target.moduleOf a
  | .kindOf a => index.target.kindOf a
  | .symbols q => index.symbols.answer q
  | .decode a => index.target.decode a
  | .readWord a => index.target.readWord a
  | .walk limits => Walk.run ⟨s.architecture, index.target, s.registers, limits⟩

/-- A snapshot, and its index if it has been asked for since the symbols changed. -/
structure Remembered where
  snapshot : Snapshot
  kept : Option Index

namespace Remembered

/-- A snapshot that has not been asked. -/
def ofSnapshot (s : Snapshot) : Remembered := ⟨s, none⟩

/-- The index, and the snapshot that remembers it. -/
def index (r : Remembered) : Index × Remembered :=
  match r.kept with
  | some index => (index, r)
  | none =>
    let index := r.snapshot.index
    (index, { r with kept := some index })

/-- The answer to a question, and the snapshot after it. -/
def ask (r : Remembered) (q : Question) : q.Answer × Remembered :=
  let (index, r) := r.index
  (r.snapshot.answerFrom index q, r)

/-- The snapshot with the symbols of a table behind its own: its routines as the table sorts them, its
imports in the order of their slots. -/
def overlay (r : Remembered) (table : Symbol.Remembered) : Remembered :=
  let (routines, table) := table.ask .routines
  ⟨{ r.snapshot with
      routines := r.snapshot.routines ++ routines
      imports := r.snapshot.imports ++ table.table.sortedImports }, none⟩

end Remembered

end StackWalk.Snapshot

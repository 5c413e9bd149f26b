import StackWalk.Symbol.Table

/-!
# StackWalk.Symbol.Source — questions about symbols

Whoever knows the routines of a process answers three questions: which routine contains an address, what
the routine with an entry is called, and which name is bound to an import slot.  A routine is identified
by its entry.  What else the heuristics want to know of symbols follows from these answers.
-/

namespace StackWalk.Symbol

/-- The answers about symbols. -/
structure Source where
  /-- The entry of the routine that contains an address. -/
  entryOf : Address → Option Address
  /-- The name of the routine with an entry. -/
  nameOf : Address → Option String
  /-- The name that is bound to an import slot or stub. -/
  importName : Address → Option String

namespace Source

/-- Whether two addresses lie in one routine. -/
def sameRoutine (symbols : Source) (a b : Address) : Bool :=
  match symbols.entryOf a, symbols.entryOf b with
  | some entry, some other => entry == other
  | _, _ => false

/-- Whether a routine starts at the address. -/
def isEntry (symbols : Source) (a : Address) : Bool :=
  symbols.entryOf a == some a

/-- The name of the routine that contains an address. -/
def routineName (symbols : Source) (a : Address) : Option String :=
  (symbols.entryOf a).bind symbols.nameOf

end Source

/-- The answers of an index. -/
def Index.source (index : Index) : Source :=
  ⟨index.entryOf?, index.nameOf?, index.importName?⟩

/-- The answers of a table. -/
def Table.source (t : Table) : Source :=
  t.index.source

end StackWalk.Symbol

/-!
# StackWalk.Symbol.Display — how reports show a function's name

The names of the standard library are long and known: a report leaves out the qualifier `std::` at the
start of a name, and the `__cxx11::` that may follow it.
-/

namespace StackWalk.Symbol

/-- The name without the qualifiers of the standard library at its start. -/
def displayName (name : String) : String :=
  match "std::".toList.isPrefixOf? name.toList with
  | none => name
  | some rest => String.ofList (("__cxx11::".toList.isPrefixOf? rest).getD rest)

end StackWalk.Symbol

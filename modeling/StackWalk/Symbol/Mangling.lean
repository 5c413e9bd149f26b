import StackWalk.Symbol.Mangling.Legacy
import StackWalk.Symbol.Mangling.V0

/-!
# StackWalk.Symbol.Mangling — the names behind mangled symbols

Symbols of Rust programs are shown by the names they stand for, in either mangling scheme and without
hashes; any other symbol is its own name.  Words behind a dot that a compiler has added to a symbol stay
at the end of the name, apart from the marks of link-time optimisation, which are dropped.
-/

namespace StackWalk.Symbol

/-- The symbol without the mark of link-time optimisation at its end. -/
def withoutOptimiserMark (cs : List Char) : List Char :=
  match Text.after? ".llvm.".toList cs with
  | none => cs
  | some mark =>
    if mark.all fun c => Text.isDigit c || ('A' ≤ c && c ≤ 'F') || c == '@' then
      cs.take (cs.length - mark.length - ".llvm.".length)
    else cs

/-- Whether a character can stand in the words that a compiler adds to a symbol. -/
def isSymbolChar (c : Char) : Bool :=
  '!' ≤ c && c ≤ '~'

/-- Whether what follows a symbol leaves it one. -/
def isTrailer : List Char → Bool
  | [] => true
  | c :: cs => c == '.' && cs.all isSymbolChar

/-- The name that a symbol stands for. -/
def demangle (symbol : String) : String :=
  let cs := withoutOptimiserMark symbol.toList
  match (Mangling.Legacy.read? cs).or (Mangling.V0.read? cs) with
  | some (name, trailer) =>
    if isTrailer trailer then String.ofList (name ++ trailer) else symbol
  | none => symbol

end StackWalk.Symbol

import StackWalk.Symbol.Mangling.Punycode
import StackWalk.Symbol.Mangling.V0.Cursor

/-!
# StackWalk.Symbol.Mangling.V0.Ident — identifiers in a name of the v0 scheme

An identifier stands behind its length.  One with characters beyond ASCII is marked, and holds its ASCII
characters and, behind an underscore, the Punycode of the others.  Punycode that cannot be decoded is
shown in braces rather than refused, since a name is read without decoding it.
-/

namespace StackWalk.Symbol.Mangling.V0

/-- An identifier: its ASCII characters and the Punycode of the others. -/
structure Ident where
  ascii : List Char
  punycode : List Char

namespace Ident

/-- Whether the identifier has no characters. -/
def isEmpty (i : Ident) : Bool :=
  i.ascii.isEmpty && i.punycode.isEmpty

/-- The fragments in which the identifier is printed. -/
def fragments (i : Ident) : List (List Char) :=
  match Punycode.decode? i.ascii i.punycode with
  | some cs => cs.map fun c => [c]
  | none =>
    if i.punycode.isEmpty then [i.ascii]
    else
      ["punycode\x7b".toList] ++ (if i.ascii.isEmpty then [] else [i.ascii, ['-']]) ++
        [i.punycode, ['\x7d']]

end Ident

/-- Reads an identifier: a mark for Punycode, the length, an optional underscore, the characters. -/
def ident : Scan Ident := fun c => do
  let (isPunycode, c) := match c.eat 'u' with
    | some c => (true, c)
    | none => (false, c)
  let digits := match c.remaining with
    | '0' :: _ => ['0']
    | cs => cs.takeWhile Text.isDigit
  if digits.isEmpty then .error .invalid
  else
    let length := digits.foldl (fun n d => 10 * n + (d.toNat - '0'.toNat)) 0
    let c := { c with next := c.next + digits.length }
    let c := (c.eat '_').getD c
    let last := c.next + length
    if c.symbol.size < last then .error .invalid
    else
      let found := c.remaining.take length
      let c := { c with next := last }
      if isPunycode then
        let code := (found.reverse.takeWhile (· ≠ '_')).reverse
        let ascii := found.take (found.length - code.length - 1)
        if code.isEmpty then .error .invalid else .ok (⟨ascii, code⟩, c)
      else .ok (⟨found, []⟩, c)

end StackWalk.Symbol.Mangling.V0

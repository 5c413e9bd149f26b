import StackWalk.Text.Numeral
import StackWalk.Text.Search

/-!
# StackWalk.Symbol.Mangling.Legacy — names in the legacy scheme of Rust

A legacy name looks like a C++ name: `_ZN`, then the components of a path, each behind its length, then
`E`.  The last component is usually a hash, `h` and hexadecimal digits, which is not part of the name
proper and is left out.  Inside a component two dots stand for `::`, and `$…$` stands for a character
that a symbol cannot hold.  From the first escape that means nothing the component is shown as it is.
-/

namespace StackWalk.Symbol.Mangling.Legacy

/-- The components up to the closing `E`, and what follows it.  `bound` is at least the number of
characters. -/
def components : Nat → List Char → Option (List (List Char) × List Char)
  | 0, _ => none
  | _ + 1, [] => none
  | bound + 1, c :: cs =>
    if c = 'E' then some ([], cs)
    else if Text.isDigit c then
      let digits := (c :: cs).takeWhile Text.isDigit
      let behind := (c :: cs).dropWhile Text.isDigit
      let length := digits.foldl (fun n d => 10 * n + (d.toNat - '0'.toNat)) 0
      if length < behind.length then
        (components bound (behind.drop length)).map fun parts =>
          (behind.take length :: parts.1, parts.2)
      else none
    else none

/-- The text behind the marker of the scheme. -/
def behindMarker? (cs : List Char) : Option (List Char) :=
  ("_ZN".toList.isPrefixOf? cs).or <| ("ZN".toList.isPrefixOf? cs).or <|
    "__ZN".toList.isPrefixOf? cs

/-- Whether a component is a hash. -/
def isHash : List Char → Bool
  | 'h' :: digits => digits.all fun c => (Text.digitValue? 16 c).isSome
  | _ => false

/-- Control characters. -/
def isControl (c : Char) : Bool :=
  c.toNat < 0x20 || (0x7F ≤ c.toNat && c.toNat < 0xA0)

/-- The digits of hexadecimal numbers, without capital letters. -/
def isLowerHex (c : Char) : Bool :=
  Text.isDigit c || ('a' ≤ c && c ≤ 'f')

/-- The character that an escape stands for. -/
def unescape? (escape : List Char) : Option Char :=
  match escape with
  | ['S', 'P'] => some '@'
  | ['B', 'P'] => some '*'
  | ['R', 'F'] => some '&'
  | ['L', 'T'] => some '<'
  | ['G', 'T'] => some '>'
  | ['L', 'P'] => some '('
  | ['R', 'P'] => some ')'
  | ['C'] => some ','
  | 'u' :: digits =>
    if digits.all isLowerHex then
      match Text.readNumeral 16 0x110000 digits with
      | .ok n =>
        if n.isValidChar ∧ !isControl (Char.ofNat n) then some (Char.ofNat n) else none
      | .error _ => none
    else none
  | _ => none

/-- The text that a component stands for; `bound` is at least the number of characters. -/
def expand : Nat → List Char → List Char
  | 0, cs => cs
  | bound + 1, cs =>
    match cs with
    | [] => []
    | '.' :: '.' :: rest => ':' :: ':' :: expand bound rest
    | '$' :: rest =>
      match Text.splitAtFirst? '$' rest with
      | none => cs
      | some (escape, behind) =>
        match unescape? escape with
        | some c => c :: expand bound behind
        | none => cs
    | c :: rest => c :: expand bound rest

/-- A component as it is shown. -/
def showComponent (component : List Char) : List Char :=
  let component := match component with
    | '_' :: '$' :: rest => '$' :: rest
    | other => other
  expand component.length component

/-- The components without the hash at their end. -/
def withoutHash (parts : List (List Char)) : List (List Char) :=
  match parts.getLast? with
  | some last => if isHash last then parts.dropLast else parts
  | none => parts

/-- The name that a legacy symbol stands for, and what follows the symbol. -/
def read? (cs : List Char) : Option (List Char × List Char) := do
  let inner ← behindMarker? cs
  if inner.all fun c => c.toNat < 0x80 then
    let (parts, rest) ← components inner.length inner
    some (Text.joinWith [':', ':'] ((withoutHash parts).map showComponent), rest)
  else none

end StackWalk.Symbol.Mangling.Legacy

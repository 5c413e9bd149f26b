import StackWalk.Text.Numeral

/-!
# StackWalk.Symbol.Mangling.V0.Cursor — places in a name of the v0 scheme

A name is read through a cursor, which knows where it stands and how deep the construct there is nested.
This module holds the cursor and the smallest parts of a name: numbers, which are written in base 62
with zero as a lone underscore, the digits of constants, and references, which are numbers that say
where in the name something stands that has been written before.  A reference points backwards, so
following one never moves on, and the limit on nesting ends a chain of them.
-/

namespace StackWalk.Symbol.Mangling.V0

/-- Why a part of a name cannot be read. -/
inductive Flaw
  | invalid
  | tooDeep
deriving DecidableEq, Repr

/-- What is printed in the place of the part. -/
def Flaw.message : Flaw → String
  | .invalid => "\x7binvalid syntax\x7d"
  | .tooDeep => "\x7brecursion limit reached\x7d"

/-- How deep constructs may nest. -/
def maxDepth : Nat := 500

/-- A place in the name, and how deep it is nested. -/
structure Cursor where
  symbol : Array Char
  next : Nat
  depth : Nat

/-- Reads a part of a name. -/
abbrev Scan (α : Type) := Cursor → Except Flaw (α × Cursor)

namespace Cursor

/-- Goes one level deeper. -/
def pushDepth : Scan Unit := fun c =>
  if c.depth < maxDepth then .ok ((), { c with depth := c.depth + 1 }) else .error .tooDeep

/-- The character at the cursor. -/
def peek? (c : Cursor) : Option Char :=
  c.symbol[c.next]?

/-- Moves on by one character. -/
def advance (c : Cursor) : Cursor :=
  { c with next := c.next + 1 }

/-- Passes over the character if it is there. -/
def eat (c : Cursor) (wanted : Char) : Option Cursor :=
  if c.peek? = some wanted then some c.advance else none

/-- The next character. -/
def nextChar : Scan Char := fun c =>
  match c.peek? with
  | some found => .ok (found, c.advance)
  | none => .error .invalid

/-- The characters from the cursor on. -/
def remaining (c : Cursor) : List Char :=
  c.symbol.toList.drop c.next

/-- Hexadecimal digits up to an underscore. -/
def hexNibbles : Scan (List Char) := fun c =>
  let isNibble := fun d : Char => Text.isDigit d || ('a' ≤ d && d ≤ 'f')
  let nibbles := c.remaining.takeWhile isNibble
  match (c.remaining.dropWhile isNibble).head? with
  | some '_' => .ok (nibbles, { c with next := c.next + nibbles.length + 1 })
  | _ => .error .invalid

/-- The value of a digit in base 62. -/
def digit62? (c : Char) : Option Nat :=
  if Text.isDigit c then some (c.toNat - '0'.toNat)
  else if 'a' ≤ c ∧ c ≤ 'z' then some (10 + (c.toNat - 'a'.toNat))
  else if 'A' ≤ c ∧ c ≤ 'Z' then some (36 + (c.toNat - 'A'.toNat))
  else none

/-- The number written by digits in base 62 up to an underscore, below `2 ^ 64`, and how many
characters it takes. -/
def number62 (value taken : Nat) : List Char → Option (Nat × Nat)
  | [] => none
  | c :: cs =>
    if c = '_' then some (value, taken + 1)
    else do
      let d ← digit62? c
      let value := 62 * value + d
      if value < Text.wordBound then number62 value (taken + 1) cs else none

/-- A number in base 62: zero is a lone underscore, and digits count from one. -/
def integer62 : Scan Nat := fun c =>
  match c.eat '_' with
  | some c => .ok (0, c)
  | none =>
    match number62 0 0 c.remaining with
    | some (value, taken) =>
      if value + 1 < Text.wordBound then .ok (value + 1, { c with next := c.next + taken })
      else .error .invalid
    | none => .error .invalid

/-- A number behind a tag, counting from one, or zero without the tag. -/
def optInteger62 (tag : Char) : Scan Nat := fun c =>
  match c.eat tag with
  | none => .ok (0, c)
  | some c => do
    let (value, c) ← integer62 c
    if value + 1 < Text.wordBound then .ok (value + 1, c) else .error .invalid

/-- What tells apart two things of one name. -/
def disambiguator : Scan Nat :=
  optInteger62 's'

/-- A namespace; one with a small letter has no name. -/
def namespaceTag : Scan (Option Char) := fun c => do
  let (tag, c) ← c.nextChar
  if 'A' ≤ tag ∧ tag ≤ 'Z' then .ok (some tag, c)
  else if 'a' ≤ tag ∧ tag ≤ 'z' then .ok (none, c)
  else .error .invalid

/-- A reference to an earlier position: a cursor there.  The tag has just been read. -/
def backref : Scan Cursor := fun c => do
  let start := c.next - 1
  let (target, c) ← integer62 c
  if target < start then
    let (_, inner) ← pushDepth { c with next := target }
    .ok (inner, c)
  else .error .invalid

end Cursor

/-! ## Digits of constants -/

/-- The number of hexadecimal digits, if it has at most 64 bits. -/
def nibblesValue? (nibbles : List Char) : Option Nat :=
  let digits := nibbles.dropWhile (· = '0')
  if 16 < digits.length then none
  else (Text.readDigits 16 Text.wordBound 0 digits).toOption

/-- The bytes that pairs of hexadecimal digits write. -/
def nibblesBytes? : List Char → Option (List UInt8)
  | [] => some []
  | [_] => none
  | a :: b :: rest => do
    let a ← Text.digitValue? 16 a
    let b ← Text.digitValue? 16 b
    let bytes ← nibblesBytes? rest
    some (UInt8.ofNat (16 * a + b) :: bytes)

/-- The text that hexadecimal digits write in UTF-8. -/
def nibblesText? (nibbles : List Char) : Option (List Char) := do
  let bytes ← nibblesBytes? nibbles
  let text ← String.fromUTF8? ⟨bytes.toArray⟩
  some text.toList

end StackWalk.Symbol.Mangling.V0

import StackWalk.Text.Numeral

/-!
# StackWalk.Symbol.Mangling.Punycode — identifiers beyond ASCII

Punycode keeps the ASCII characters of an identifier and encodes the others as insertions: each number
says how far to move on, counting positions and code points as one.  The numbers are written in base 36
with a changing weight of digits, so that small steps are short.
-/

namespace StackWalk.Symbol.Mangling.Punycode

/-- The value of a digit: letters come first. -/
def digit? (c : Char) : Option Nat :=
  if 'a' ≤ c ∧ c ≤ 'z' then some (c.toNat - 'a'.toNat)
  else if Text.isDigit c then some (26 + (c.toNat - '0'.toNat))
  else none

/-- The threshold of the digit at a position, which is a multiple of 36. -/
def threshold (position bias : Nat) : Nat :=
  min (max (position - bias) 1) 26

/-- Reads one number: the digits so far amount to `sum`, the next one has the given weight. -/
def delta? (bias : Nat) (sum weight position : Nat) : List Char → Option (Nat × List Char)
  | [] => none
  | c :: cs => do
    let d ← digit? c
    let t := threshold position bias
    let sum := sum + d * weight
    if Text.wordBound ≤ sum then none
    else if d < t then some (sum, cs)
    else
      let weight := weight * (36 - t)
      if Text.wordBound ≤ weight then none else delta? bias sum weight (position + 36) cs

/-- Divides the number down to the size of one digit: the count of positions and what is left. -/
def shrink (delta position : Nat) : Nat × Nat :=
  if 455 < delta then shrink (delta / 35) (position + 36) else (position, delta)
termination_by delta
decreasing_by exact Nat.div_lt_self (by omega) (by omega)

/-- The bias after a number, when the text has `length` characters. -/
def adapt (delta damp length : Nat) : Nat :=
  let delta := delta / damp
  let delta := delta + delta / length
  let (position, delta) := shrink delta 0
  position + 36 * delta / (delta + 38)

/-- The longest identifier that is decoded. -/
def maxLength : Nat := 128

/-- Inserts the characters that the rest of the code asks for, up to `bound` of them. -/
def insertAll : Nat → (bias damp index codePoint : Nat) → (out : List Char) → List Char →
    Option (List Char)
  | 0, _, _, _, _, _, _ => none
  | bound + 1, bias, damp, index, codePoint, out, cs => do
    let (delta, cs) ← delta? bias 0 1 36 cs
    let length := out.length + 1
    let index := index + delta
    let codePoint := codePoint + index / length
    let index := index % length
    if codePoint < 0x110000 ∧ codePoint.isValidChar ∧ length ≤ maxLength then
      let out := out.take index ++ Char.ofNat codePoint :: out.drop index
      if cs.isEmpty then some out
      else insertAll bound (adapt delta damp length) 2 (index + 1) codePoint out cs
    else none

/-- The identifier with the ASCII characters `ascii` and the code `code`. -/
def decode? (ascii code : List Char) : Option (List Char) :=
  if code.isEmpty ∨ maxLength < ascii.length then none
  else insertAll (maxLength + 1) 72 700 0 0x80 ascii code

end StackWalk.Symbol.Mangling.Punycode

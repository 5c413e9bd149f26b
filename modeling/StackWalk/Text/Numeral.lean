/-!
# StackWalk.Text.Numeral — unsigned numerals

Reading and writing of numbers below a bound in a given radix.  A numeral is one or more digits,
with at most one leading plus sign; a digit above nine is a letter in either case.  Reading stops at
the first thing that is wrong, so of a bad digit and an overflow the one further left is reported.
-/

namespace StackWalk.Text

/-- Why a text is no numeral below the bound. -/
inductive NumeralError
  | empty
  | invalidDigit
  | tooLarge
deriving DecidableEq, Repr

namespace NumeralError

/-- The wording of the error. -/
def message : NumeralError → String
  | .empty => "cannot parse integer from empty string"
  | .invalidDigit => "invalid digit found in string"
  | .tooLarge => "number too large to fit in target type"

end NumeralError

/-- The value of a digit in `radix` (at most 36). -/
def digitValue? (radix : Nat) (c : Char) : Option Nat :=
  let value :=
    if '0' ≤ c ∧ c ≤ '9' then some (c.toNat - '0'.toNat)
    else if 'a' ≤ c ∧ c ≤ 'z' then some (c.toNat - 'a'.toNat + 10)
    else if 'A' ≤ c ∧ c ≤ 'Z' then some (c.toNat - 'A'.toNat + 10)
    else none
  value.filter (· < radix)

/-- The number written by `acc` followed by the digits, as long as it stays below `bound`. -/
def readDigits (radix bound : Nat) : Nat → List Char → Except NumeralError Nat
  | acc, [] => .ok acc
  | acc, c :: cs =>
    match digitValue? radix c with
    | none => .error .invalidDigit
    | some d =>
      if acc * radix + d < bound then readDigits radix bound (acc * radix + d) cs
      else .error .tooLarge

/-- The number below `bound` that the text writes in `radix`. -/
def readNumeral (radix bound : Nat) : List Char → Except NumeralError Nat
  | [] => .error .empty
  | ['+'] => .error .invalidDigit
  | '+' :: cs => readDigits radix bound 0 cs
  | cs => readDigits radix bound 0 cs

/-- The bound of a 64-bit word. -/
def wordBound : Nat := 0x1_0000_0000_0000_0000

/-- The 64-bit number that the text writes in `radix`. -/
def readWord (radix : Nat) (cs : List Char) : Except NumeralError UInt64 :=
  (readNumeral radix wordBound cs).map UInt64.ofNat

/-- The ASCII digits. -/
def isDigit (c : Char) : Bool :=
  '0' ≤ c && c ≤ '9'

/-- Lower-case hexadecimal digits, without a marker and without padding. -/
def hexDigits (n : Nat) : List Char :=
  Nat.toDigits 16 n

/-- Decimal digits. -/
def decimalDigits (n : Nat) : List Char :=
  Nat.toDigits 10 n

/-- The text filled up on its left to `width` characters. -/
def padStart (width : Nat) (fill : Char) (cs : List Char) : List Char :=
  List.replicate (width - cs.length) fill ++ cs

end StackWalk.Text

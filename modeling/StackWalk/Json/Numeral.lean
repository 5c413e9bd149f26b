import StackWalk.Json.Document

/-!
# StackWalk.Json.Numeral — numbers in a document

A number is first taken apart into its sign and its digits, and then given a value.  It is an integer
if it is written as one and fits into 64 bits, and a double otherwise; the integer zero with a minus
sign is the double `-0.0`.  The double is computed from the leading digits that fit into 64 bits, scaled
by a power of ten; it is refused when it is beyond the largest double.
-/

namespace StackWalk.Json

/-- The parts of a number as it is written. -/
structure Numeral where
  isNegative : Bool
  /-- The digits before the point. -/
  whole : List Char
  /-- The digits after the point, if there is one. -/
  fraction : Option (List Char)
  /-- Whether the exponent is negative, and its digits, if there is one. -/
  power : Option (Bool × List Char)
deriving Repr

/-- A number taken apart and the text after it, or what is wrong with it for one who wants its value
and for one who skips it. -/
inductive NumeralToken
  | numeral (value : Numeral) (rest : List Char)
  | broken (wrong skipped : ReadError)

/-- What is wrong where a digit is missing: the end of the text matters only to one who wants the
value. -/
def missingDigit : List Char → NumeralToken
  | [] => .broken (.truncated .value) (.malformed .invalidNumber)
  | _ :: _ => .broken (.malformed .invalidNumber) (.malformed .invalidNumber)

/-- Takes the exponent apart, at its mark if there is one. -/
def scanPower (isNegative : Bool) (whole : List Char) (fraction : Option (List Char))
    (cs : List Char) : NumeralToken :=
  let exponent := fun (minus : Bool) (cs : List Char) =>
    match cs.takeWhile Text.isDigit with
    | [] => missingDigit cs
    | digits =>
      .numeral ⟨isNegative, whole, fraction, some (minus, digits)⟩ (cs.dropWhile Text.isDigit)
  match cs with
  | c :: cs =>
    if c = 'e' ∨ c = 'E' then
      match cs with
      | '+' :: cs => exponent false cs
      | '-' :: cs => exponent true cs
      | cs => exponent false cs
    else .numeral ⟨isNegative, whole, fraction, none⟩ (c :: cs)
  | [] => .numeral ⟨isNegative, whole, fraction, none⟩ []

/-- Takes the fraction apart, at its point if there is one. -/
def scanFraction (isNegative : Bool) (whole : List Char) (cs : List Char) : NumeralToken :=
  match cs with
  | '.' :: cs =>
    match cs.takeWhile Text.isDigit with
    | [] => missingDigit cs
    | digits => scanPower isNegative whole (some digits) (cs.dropWhile Text.isDigit)
  | cs => scanPower isNegative whole none cs

/-- Takes a number apart behind its sign.  A leading zero stands alone. -/
def scanWhole (isNegative : Bool) (cs : List Char) : NumeralToken :=
  match cs with
  | '0' :: cs =>
    match cs with
    | [] => scanFraction isNegative ['0'] []
    | c :: cs =>
      if Text.isDigit c then .broken (.malformed .invalidNumber) (.malformed .invalidNumber)
      else scanFraction isNegative ['0'] (c :: cs)
  | cs =>
    match cs.takeWhile Text.isDigit with
    | [] => missingDigit cs
    | digits => scanFraction isNegative digits (cs.dropWhile Text.isDigit)

/-- Takes apart the number at the start of the text. -/
def scanNumeral : List Char → NumeralToken
  | '-' :: cs => scanWhole true cs
  | cs => scanWhole false cs

/-! ## Values -/

/-- The value of a decimal digit. -/
def decimalValue (c : Char) : Nat :=
  c.toNat - '0'.toNat

/-- The natural number that digits write. -/
def naturalOf (digits : List Char) : Nat :=
  digits.foldl (fun n c => 10 * n + decimalValue c) 0

/-- Appends digits to a number as long as it stays below `2 ^ 64`: the number, how many digits were
taken, and how many were left. -/
def appendDigits (n : Nat) (taken : Nat) : List Char → Nat × Nat × Nat
  | [] => (n, taken, 0)
  | c :: cs =>
    if 10 * n + decimalValue c < Text.wordBound then
      appendDigits (10 * n + decimalValue c) (taken + 1) cs
    else (n, taken, cs.length + 1)

/-- The double nearest to `10 ^ exponent`. -/
def powerOfTen (exponent : Nat) : Float :=
  Float.ofScientific 1 false exponent

/-- The double `value · 10 ^ exponent`, in steps of at most `10 ^ 308`; no finite double may come out
of a number that is too large. -/
def scale : Nat → Float → Int → Option Float
  | 0, value, _ => some value
  | steps + 1, value, exponent =>
    if exponent.natAbs ≤ 308 then
      if 0 ≤ exponent then
        let scaled := value * powerOfTen exponent.natAbs
        if scaled.isInf then none else some scaled
      else some (value / powerOfTen exponent.natAbs)
    else if value == 0 then some value
    else if 0 ≤ exponent then none
    else scale steps (value / powerOfTen 308) (exponent + 308)

/-- The double `significand · 10 ^ exponent` with a sign. -/
def realOf (isNegative : Bool) (significand : Nat) (exponent : Int) : Option Number :=
  (scale 4 (UInt64.ofNat significand).toFloat exponent).map fun value =>
    .real (if isNegative then -value else value).toBits

/-- The largest exponent whose digits are read to their end. -/
def exponentBound : Nat := 0x8000_0000

namespace Numeral

/-- The double that the numeral writes. -/
def toReal (n : Numeral) : Option Number :=
  let (whole, _, left) := appendDigits 0 0 n.whole
  let (significand, taken) :=
    match n.fraction with
    | none => (whole, 0)
    | some digits =>
      let (significand, taken, _) := appendDigits whole 0 digits
      (significand, taken)
  let exponent := Int.ofNat left - Int.ofNat taken
  match n.power with
  | none => realOf n.isNegative significand exponent
  | some (minus, digits) =>
    let power := naturalOf digits
    if power < exponentBound then
      let power := if minus then -Int.ofNat power else Int.ofNat power
      realOf n.isNegative significand (exponent + power)
    else if significand ≠ 0 ∧ !minus then none
    else realOf n.isNegative 0 0

/-- The number that the numeral writes, if it is not too large. -/
def value? (n : Numeral) : Option Number :=
  match n.fraction, n.power with
  | none, none =>
    let whole := naturalOf n.whole
    if n.isNegative then
      if 0 < whole ∧ whole ≤ 0x8000_0000_0000_0000 then some (.negative (UInt64.ofNat whole)) else n.toReal
    else if whole < Text.wordBound then some (.natural (UInt64.ofNat whole))
    else n.toReal
  | _, _ => n.toReal

end Numeral

/-- Reads the number at the start of the text. -/
def readNumber (cs : List Char) : Document × List Char :=
  match scanNumeral cs with
  | .numeral n rest =>
    match n.value? with
    | some value => (.number value, rest)
    | none => (.unfit .number .numberOutOfRange, rest)
  | .broken wrong skipped => (.broken .number wrong skipped, [])

end StackWalk.Json

import StackWalk.Text.Numeral

/-!
# StackWalk.Decimal.Shortest — the fewest digits that read back

A finite double is `m · 2 ^ q` for naturals `m` and integers `q`, and the reals that round to it form an
interval around it whose ends belong to it exactly when `m` is even.  Its shortest decimal is a point
of the coarsest grid `10 ^ t` that has a point in this interval; of two such points it is the nearer
one.  All comparisons are between natural numbers, so nothing is rounded on the way.

The text is positional as long as the decimal point stands at most sixteen places to the right of the
first digit, or at most five to its left, and scientific otherwise.
-/

namespace StackWalk.Decimal

/-- A positive double `significand · 2 ^ exponent`. -/
structure Binary where
  significand : Nat
  exponent : Int
  /-- Whether the double below is only half as far away as the one above. -/
  atBinade : Bool
deriving DecidableEq, Repr

/-- The digits and the exponent of a decimal `digits · 10 ^ exponent`. -/
structure Point where
  digits : Nat
  exponent : Int
deriving DecidableEq, Repr

namespace Binary

/-- The magnitude of the finite double with these bits. -/
def ofBits (bits : UInt64) : Binary :=
  let fraction := (bits &&& 0x000F_FFFF_FFFF_FFFF).toNat
  let biased := ((bits >>> 52) &&& 0x7FF).toNat
  if biased = 0 then ⟨fraction, -1074, false⟩
  else ⟨fraction + 0x10_0000_0000_0000, Int.ofNat biased - 1075, fraction = 0 && biased > 1⟩

/-- The points of the grid `10 ^ t` next to the double that round to it, the nearer one first. -/
def pointsOn (b : Binary) (t : Int) : List Nat :=
  -- In quarters of a unit of the last place; `point` and `quarter` bring both sides to naturals.
  let point := Nat.pow 10 t.toNat * Nat.pow 2 (2 - b.exponent).toNat
  let quarter := Nat.pow 2 (b.exponent - 2).toNat * Nat.pow 10 (-t).toNat
  let value := 4 * b.significand * quarter
  let low := (4 * b.significand - if b.atBinade then 1 else 2) * quarter
  let high := (4 * b.significand + 2) * quarter
  let inside := fun d : Nat =>
    if b.significand % 2 = 0 then low ≤ d * point && d * point ≤ high
    else low < d * point && d * point < high
  let below := value / point
  let nearer :=
    let toBelow := value - below * point
    let toAbove := (below + 1) * point - value
    if toBelow < toAbove || (toBelow == toAbove && below % 2 == 0) then [below, below + 1]
    else [below + 1, below]
  nearer.filter inside

/-- The first point found on the grids `10 ^ t`, `10 ^ (t - 1)`, and so on. -/
def firstPoint (b : Binary) : Nat → Int → Point
  | 0, _ => ⟨0, 0⟩
  | grids + 1, t =>
    match b.pointsOn t with
    | d :: _ => ⟨d, t⟩
    | [] => b.firstPoint grids (t - 1)

/-- The shortest decimal that rounds to the positive double. -/
def shortest (b : Binary) : Point :=
  b.firstPoint 640 309

end Binary

/-- The text of a decimal. -/
def Point.layout (p : Point) : List Char :=
  let digits := Text.decimalDigits p.digits
  let point := Int.ofNat digits.length + p.exponent
  if 0 ≤ p.exponent ∧ point ≤ 16 then
    digits ++ List.replicate p.exponent.toNat '0' ++ ['.', '0']
  else if 0 < point ∧ point ≤ 16 then
    digits.take point.toNat ++ '.' :: digits.drop point.toNat
  else if -5 < point ∧ point ≤ 0 then
    ['0', '.'] ++ List.replicate (-point).toNat '0' ++ digits
  else
    let scale := point - 1
    let power := 'e' :: ((if scale < 0 then ['-'] else []) ++ Text.decimalDigits scale.natAbs)
    match digits with
    | [] => power
    | [d] => d :: power
    | d :: rest => d :: '.' :: (rest ++ power)

/-- The shortest text of the finite double with these bits. -/
def shortestText (bits : UInt64) : List Char :=
  let sign := if bits >>> 63 = 1 then ['-'] else []
  let b := Binary.ofBits bits
  sign ++ if b.significand = 0 then ['0', '.', '0'] else b.shortest.layout

end StackWalk.Decimal

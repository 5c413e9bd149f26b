import StackWalk.Json.Record
import StackWalk.Text.Blank

/-!
# StackWalk.Address — addresses of the target process

An address is a word of 64 bits, whatever the architecture: a target of 32 bits keeps its addresses
below `2 ^ 32` without being forced to.  Adding an offset wraps around, so that slot addresses are
defined everywhere; the checked and the saturating forms are beside it for the places where running off
the end of the address space matters.

An address has two texts.  Reports show `0x` and at least eight digits, JSON has `0x` and no padding.
-/

namespace StackWalk

/-- An address in the target process. -/
structure Address where
  value : UInt64
deriving DecidableEq, Hashable, Repr, Inhabited

namespace Address

instance : Ord Address := ⟨fun a b => compare a.value b.value⟩

instance : LT Address := ⟨fun a b => a.value < b.value⟩

instance : LE Address := ⟨fun a b => a.value ≤ b.value⟩

instance (a b : Address) : Decidable (a < b) := inferInstanceAs (Decidable (a.value < b.value))

instance (a b : Address) : Decidable (a ≤ b) := inferInstanceAs (Decidable (a.value ≤ b.value))

instance : Std.TransOrd Address where
  eq_swap {a b} := Std.OrientedOrd.eq_swap (a := a.value) (b := b.value)
  isLE_trans {a b c} := Std.TransOrd.isLE_trans (a := a.value) (b := b.value) (c := c.value)

instance : Std.LawfulEqOrd Address where
  compare_self {a} := Std.ReflOrd.compare_self (a := a.value)
  eq_of_compare {a b} h := by
    cases a
    cases b
    exact congrArg Address.mk (Std.LawfulEqOrd.eq_of_compare h)

/-- The address `n`, modulo `2 ^ 64`. -/
def ofNat (n : Nat) : Address := ⟨UInt64.ofNat n⟩

/-- The address as a natural number. -/
def toNat (a : Address) : Nat := a.value.toNat

/-- The null address. -/
def null : Address := ⟨0⟩

/-- The highest address. -/
def last : Address := ⟨0xFFFF_FFFF_FFFF_FFFF⟩

/-- Whether the address is null. -/
def isNull (a : Address) : Bool := a.value == 0

/-! ## Arithmetic -/

/-- Offsets wrap around. -/
instance : HAdd Address UInt64 Address := ⟨fun a offset => ⟨a.value + offset⟩⟩

/-- Offsets wrap around. -/
instance : HSub Address UInt64 Address := ⟨fun a offset => ⟨a.value - offset⟩⟩

/-- The address `offset` bytes above, if there is one. -/
def above? (a : Address) (offset : UInt64) : Option Address :=
  if a.value.toNat + offset.toNat < 0x1_0000_0000_0000_0000 then some (a + offset) else none

/-- The address `offset` bytes below, if there is one. -/
def below? (a : Address) (offset : UInt64) : Option Address :=
  if offset ≤ a.value then some (a - offset) else none

/-- The address `offset` bytes above, or else the last one. -/
def aboveOrLast (a : Address) (offset : UInt64) : Address :=
  (a.above? offset).getD last

/-- The number of bytes from `lower` up to the address, zero when it lies below. -/
def distanceFrom (a lower : Address) : UInt64 :=
  if lower.value ≤ a.value then a.value - lower.value else 0

/-- The address with the bits outside of `mask` cleared. -/
def masked (a : Address) (mask : UInt64) : Address := ⟨a.value &&& mask⟩

/-! ## Text -/

/-- The hexadecimal digits, without a marker. -/
def digits (a : Address) : List Char :=
  Text.hexDigits a.toNat

/-- The text of an address in a report: at least eight digits. -/
def display (a : Address) : String :=
  String.ofList (['0', 'x'] ++ Text.padStart 8 '0' a.digits)

/-- The text of an address in JSON: no more digits than it has. -/
def serial (a : Address) : String :=
  String.ofList (['0', 'x'] ++ a.digits)

instance : ToString Address := ⟨display⟩

/-- Why a text is no address. -/
structure ParseError where
  text : String
  cause : Text.NumeralError
deriving DecidableEq, Repr

/-- The wording of the error. -/
def ParseError.message (e : ParseError) : String :=
  let shown := Text.quoted e.text
  let cause := e.cause.message
  s!"invalid address {shown}: {cause}"

/-- The word that trimmed text writes: hexadecimal behind `0x` or `0X`, decimal otherwise. -/
def wordOf : List Char → Except Text.NumeralError UInt64
  | '0' :: 'x' :: cs => Text.readWord 16 cs
  | '0' :: 'X' :: cs => Text.readWord 16 cs
  | cs => Text.readWord 10 cs

/-- Reads an address, with white space around it. -/
def parse (text : String) : Except ParseError Address :=
  match wordOf (Text.trim text.toList) with
  | .ok value => .ok ⟨value⟩
  | .error cause => .error ⟨text, cause⟩

/-! ## JSON -/

/-- An address is written as a text and read from a text or a natural number. -/
def codec : Json.Codec Address where
  encode a := .string a.serial
  decode
    | .number (.natural value) => .ok ⟨value⟩
    | .number (.negative magnitude) => .error (.data s!"negative address -{magnitude}")
    | .string text => (parse text).mapError fun e => .data e.message
    | d => d.mismatch "a hex address string or an unsigned integer"

theorem distanceFrom_self (a : Address) : a.distanceFrom a = 0 := by
  simp [distanceFrom]

end Address

end StackWalk

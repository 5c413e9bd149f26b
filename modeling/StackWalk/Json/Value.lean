import StackWalk.Decimal.Shortest

/-!
# StackWalk.Json.Value — JSON values

The values of a JSON document: the members of an object keep their order and may repeat a key.  A
number is a natural number or a negative integer of 64 bits as long as it is written as one, and a
double otherwise.
-/

namespace StackWalk

namespace Json

/-- The numbers that a document can hold. -/
inductive Number
  | natural (value : UInt64)
  /-- The integer `-magnitude`. -/
  | negative (magnitude : UInt64)
  /-- The finite double with these bits. -/
  | real (bits : UInt64)
deriving DecidableEq, Repr

/-- The text of a number. -/
def Number.text : Number → List Char
  | .natural value => Text.decimalDigits value.toNat
  | .negative magnitude => '-' :: Text.decimalDigits magnitude.toNat
  | .real bits => Decimal.shortestText bits

end Json

/-- A JSON value. -/
inductive Json where
  | null
  | bool (value : Bool)
  | number (value : Json.Number)
  | string (text : String)
  | array (items : List Json)
  | object (members : List (String × Json))
deriving Repr, Inhabited

namespace Json

/-- A natural number below `2 ^ 64`. -/
def natural (value : UInt64) : Json :=
  .number (.natural value)

/-- The value of an option, `null` if it is absent. -/
def ofOption {α : Type} (encode : α → Json) : Option α → Json
  | none => .null
  | some a => encode a

end Json

end StackWalk

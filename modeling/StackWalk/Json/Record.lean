import StackWalk.Json.Codec

/-!
# StackWalk.Json.Record — records as JSON objects

A record is given by its fields in order.  It is written as an object, and read from an object with its
members in any order or from an array with its items in the order of the fields.  Members with other
keys are skipped; a key may not repeat; a field that is absent has a default value or is an error.
-/

namespace StackWalk.Json

/-- One field of a record. -/
structure Field (α : Type) where
  name : String
  codec : Codec α
  /-- The value when an object has no such member. -/
  absent : Option α
  /-- The value when an array ends before this field. -/
  beyond : Option α
  /-- The values that are not written. -/
  omits : α → Bool

namespace Field

/-- A field that must be present. -/
def required {α : Type} (name : String) (codec : Codec α) : Field α :=
  ⟨name, codec, none, none, fun _ => false⟩

/-- A field with a default value. -/
def withDefault {α : Type} (name : String) (codec : Codec α) (value : α) : Field α :=
  ⟨name, codec, some value, some value, fun _ => false⟩

/-- An optional field that is written as `null` when it has no value. -/
def nullable {α : Type} (name : String) (codec : Codec α) : Field (Option α) :=
  ⟨name, codec.option, some none, none, fun _ => false⟩

/-- An optional field that is left out when it has no value. -/
def optional {α : Type} (name : String) (codec : Codec α) : Field (Option α) :=
  ⟨name, codec.option, some none, some none, Option.isNone⟩

end Field

/-- The fields of a record, by the list of their types. -/
inductive Schema : List Type → Type 1
  | nil : Schema []
  | cons {α : Type} {ts : List Type} (field : Field α) (fields : Schema ts) : Schema (α :: ts)

/-- The values of all fields. -/
def Row : List Type → Type
  | [] => Unit
  | α :: ts => α × Row ts

/-- The values of the fields found so far. -/
def Slots : List Type → Type
  | [] => Unit
  | α :: ts => Option α × Slots ts

namespace Schema

/-- The number of fields. -/
def size {ts : List Type} : Schema ts → Nat
  | .nil => 0
  | .cons _ fields => fields.size + 1

/-- No field has been found. -/
def vacant {ts : List Type} : Schema ts → Slots ts
  | .nil => ()
  | .cons _ fields => (none, fields.vacant)

/-- Puts the value of a member into its field; there is none if no field has its key. -/
def fill {ts : List Type} : Schema ts → Slots ts → String → Document →
    Except ReadError (Option (Slots ts))
  | .nil, _, _, _ => .ok none
  | .cons field fields, (slot, slots), key, value =>
    if key = field.name then
      match slot with
      | some _ => .error (.data s!"duplicate field `{key}`")
      | none => (field.codec.decode value).map fun a => some (some a, slots)
    else (fields.fill slots key value).map fun found => found.map fun slots => (slot, slots)

/-- Reads the members of an object in their order. -/
def fillAll {ts : List Type} (schema : Schema ts) (slots : Slots ts) :
    List (Document × Document) → Except ReadError (Slots ts)
  | [] => .ok slots
  | (key, value) :: members => do
    let key ← key.key
    match ← schema.fill slots key value with
    | some slots => schema.fillAll slots members
    | none => do
      value.skip
      schema.fillAll slots members

/-- The record, once all members are read. -/
def finish {ts : List Type} : Schema ts → Slots ts → Except ReadError (Row ts)
  | .nil, _ => .ok ()
  | .cons field fields, (slot, slots) =>
    match slot.or field.absent with
    | none =>
      let name := field.name
      .error (.data s!"missing field `{name}`")
    | some a => (fields.finish slots).map fun row => (a, row)

/-- Reads the items of an array as the fields from the one at `index` on.  `short` is the error of an
array that ends before a field without default, by the number of its items, and `finish` accepts or
refuses what is left behind the last field, by the number of fields. -/
def readItems {ts : List Type} (short : Nat → ReadError)
    (finish : Nat → List Document → Option ReadError → Except ReadError Unit) :
    Schema ts → Nat → List Document → Option ReadError → Except ReadError (Row ts)
  | .nil, index, items, closing => finish index items closing
  | .cons field fields, index, item :: items, closing => do
    let a ← field.codec.decode item
    let row ← fields.readItems short finish (index + 1) items closing
    .ok (a, row)
  | .cons field fields, index, [], closing => do
    Document.orError closing
    match field.beyond with
    | none => .error (short index)
    | some a => (fields.readItems short finish (index + 1) [] none).map fun row => (a, row)

/-- Behind the last field only the end of the array may follow. -/
def endOfArray (_ : Nat) : List Document → Option ReadError → Except ReadError Unit
  | [], none => .ok ()
  | [], some (.truncated inside) => .error (.truncated inside)
  | .broken .nothing (.malformed .trailingComma) _ :: _, _ => .error (.malformed .trailingComma)
  | _, _ => .error (.malformed .trailingText)

/-- The count of elements in a message. -/
def elements (n : Nat) : String :=
  if n = 1 then "1 element" else s!"{n} elements"

/-- The error of an array that ends before a field without default. -/
def tooShort (schema : Schema ts) (expected : String) (found : Nat) : ReadError :=
  let wanted := elements schema.size
  .data s!"invalid length {found}, expected {expected} with {wanted}"

/-- Reads a record from a document; `expected` names it in messages. -/
def decode {ts : List Type} (schema : Schema ts) (expected : String) :
    Document → Except ReadError (Row ts)
  | .object members closing => do
    let slots ← schema.fillAll schema.vacant members
    Document.orError closing
    schema.finish slots
  | .array items closing =>
    schema.readItems (schema.tooShort expected) endOfArray 0 items closing
  | d => d.mismatch expected

/-- The members of an object that are written for a record. -/
def members {ts : List Type} : Schema ts → Row ts → List (String × Json)
  | .nil, _ => []
  | .cons field fields, (a, row) =>
    if field.omits a then fields.members row
    else (field.name, field.codec.encode a) :: fields.members row

/-- The codec of a record. -/
def codec {ts : List Type} {α : Type} (schema : Schema ts) (expected : String) (pack : Row ts → α)
    (unpack : α → Row ts) : Codec α where
  encode a := .object (schema.members (unpack a))
  decode d := (schema.decode expected d).map pack

end Schema

end StackWalk.Json

import StackWalk.Json.Printer
import StackWalk.Json.Reader

/-!
# StackWalk.Json.Codec — pairs of a writer and a reader

A codec writes the values of a type as JSON and reads them back from a document.  It is lawful when
reading undoes writing.  Here are the codecs of the basic shapes; records and tagged choices are built
from them in the modules beside this one.
-/

namespace StackWalk.Json

/-- How the values of a type are written and read. -/
structure Codec (α : Type) where
  encode : α → Json
  decode : Document → Except ReadError α

namespace Codec

/-- Reading undoes writing. -/
def Lawful {α : Type} (codec : Codec α) : Prop :=
  ∀ a, codec.decode (.ofValue (codec.encode a)) = .ok a

/-- Reads a value from a text that holds nothing else. -/
def parse {α : Type} (codec : Codec α) (text : String) : Except ReadError α := do
  let (document, trailing) := readDocument text
  let a ← codec.decode document
  if trailing then .error (.malformed .trailingText) else .ok a

/-- Writes a value on indented lines. -/
def toPretty {α : Type} (codec : Codec α) (a : α) : String :=
  (codec.encode a).pretty

/-! ## Basic shapes -/

/-- A natural number of 64 bits; `expected` names it in messages. -/
def word (expected : String) : Codec UInt64 where
  encode := Json.natural
  decode
    | .number (.natural value) => .ok value
    | .number (.negative magnitude) => Document.outOfRange expected (.negative magnitude)
    | d => d.mismatch expected

/-- A natural number of 32 bits. -/
def word32 (expected : String) : Codec UInt32 where
  encode value := Json.natural value.toUInt64
  decode
    | .number (.natural value) =>
      if value.toNat < UInt32.size then .ok value.toUInt32
      else Document.outOfRange expected (.natural value)
    | .number (.negative magnitude) => Document.outOfRange expected (.negative magnitude)
    | d => d.mismatch expected

/-- A truth value. -/
def truth : Codec Bool where
  encode := .bool
  decode
    | .bool value => .ok value
    | d => d.mismatch "a boolean"

/-- A text. -/
def text : Codec String where
  encode := .string
  decode
    | .string value => .ok value
    | d => d.mismatch "a string"

/-- A value or `null`. -/
def option {α : Type} (codec : Codec α) : Codec (Option α) where
  encode := Json.ofOption codec.encode
  decode
    | .null => .ok none
    | .broken .null wrong _ => .error wrong
    | d => (codec.decode d).map some

/-- The items of an array, each read by itself. -/
def decodeItems {α : Type} (codec : Codec α) : List Document → Except ReadError (List α)
  | [] => .ok []
  | item :: items => do
    let a ← codec.decode item
    let rest ← decodeItems codec items
    .ok (a :: rest)

/-- An array of any length. -/
def list {α : Type} (codec : Codec α) : Codec (List α) where
  encode values := .array (values.map codec.encode)
  decode
    | .array items closing => do
      let values ← codec.decodeItems items
      Document.orError closing
      .ok values
    | d => d.mismatch "a sequence"

/-- A type that is in bijection with another one. -/
def iso {α β : Type} (codec : Codec α) (into : α → β) (out : β → α) : Codec β where
  encode b := codec.encode (out b)
  decode d := (codec.decode d).map into

/-! ## Choices without fields -/

/-- The values that a message offers instead of an unknown one. -/
def offer : List String → String
  | [] => "there are no variants"
  | [a] => s!"expected `{a}`"
  | [a, b] => s!"expected `{a}` or `{b}`"
  | names => "expected one of " ++ ", ".intercalate (names.map fun name => s!"`{name}`")

/-- Refuses a name that no choice has. -/
def unknownVariant {α : Type} (names : List String) (name : String) : Except ReadError α :=
  let offered := offer names
  .error (.data s!"unknown variant `{name}`, {offered}")

/-- The choice of a name. -/
def choiceNamed {α : Type} (choices : List (String × α)) (name : String) : Except ReadError α :=
  match choices.find? fun choice => choice.1 == name with
  | some (_, a) => .ok a
  | none => unknownVariant (choices.map Prod.fst) name

/-- Reads nothing but `null`. -/
def decodeUnit : Document → Except ReadError Unit
  | .null => .ok ()
  | .broken .null wrong _ => .error wrong
  | d => d.mismatch "unit"

/-- A choice written as its name.  It may also be read from an object whose only member has the name
as its key and `null` as its value. -/
def choice {α : Type} (choices : List (String × α)) (nameOf : α → String) : Codec α where
  encode a := .string (nameOf a)
  decode
    | .string name => choiceNamed choices name
    | .unfit .string flaw => .error (.malformed flaw)
    | .broken .string wrong _ => .error wrong
    | .broken .nothing wrong _ => .error wrong
    | .object [] closing =>
      .error (if closing.isSome then .truncated .value else .malformed .valueExpected)
    | .object ((key, value) :: members) closing => do
      let a ← match key with
        | .string name => choiceNamed choices name
        | .broken .nothing _ _ => .error (.malformed .valueExpected)
        | key => key.mismatch "variant identifier"
      decodeUnit value
      match members, closing with
      | [], none => .ok a
      | [], some (.truncated inside) => .error (.truncated inside)
      | _, _ => .error (.malformed .valueExpected)
    | _ => .error (.malformed .valueExpected)

/-! ## Laws -/

theorem word_lawful (expected : String) : (word expected).Lawful := fun _ => rfl

theorem word32_lawful (expected : String) : (word32 expected).Lawful := by
  intro value
  have h : value.toNat < UInt32.size := value.toNat_lt
  simp [word32, Json.natural, Document.ofValue, h]

theorem truth_lawful : truth.Lawful := fun _ => rfl

theorem text_lawful : text.Lawful := fun _ => rfl

theorem list_lawful {α : Type} {codec : Codec α} (h : codec.Lawful) : codec.list.Lawful := by
  intro values
  have items : ∀ values : List α,
      codec.decodeItems (Document.ofItems (values.map codec.encode)) = .ok values := by
    intro values
    induction values with
    | nil => rfl
    | cons a rest ih =>
      simp only [List.map_cons, Document.ofItems, decodeItems, h a, ih]
      rfl
  simp only [list, Document.ofValue, items]
  rfl

theorem iso_lawful {α β : Type} {codec : Codec α} {into : α → β} {out : β → α}
    (h : codec.Lawful) (inverse : ∀ b, into (out b) = b) : (codec.iso into out).Lawful := by
  intro b
  simp [iso, h (out b), inverse, Except.map]

end Codec

end StackWalk.Json

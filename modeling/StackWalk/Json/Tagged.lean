import StackWalk.Json.Record

/-!
# StackWalk.Json.Tagged — choices that carry their name as a member

A choice with fields is written as one object: a member that names the choice, followed by its fields.
It is read from an object with this member anywhere, or from an array that starts with the name.  Since
the name may come last, the other members are kept as JSON values until the choice is known.

A choice that is itself read from a kept value may also be named by its number.
-/

namespace StackWalk.Json

/-- How the choices of a type are told apart. -/
structure Tag where
  /-- The key of the member that names the choice. -/
  key : String
  /-- What messages call the type. -/
  expected : String
  /-- The names of the choices in their order. -/
  names : List String

/-- The name of a choice and the rest of what was read: an object or an array. -/
structure Tagged where
  name : String
  content : Json

namespace Tag

/-- The object that is written for a choice. -/
def write (tag : Tag) (name : String) (members : List (String × Json)) : Json :=
  .object ((tag.key, .string name) :: members)

/-- Refuses a choice without a name. -/
def missing {α : Type} (tag : Tag) : Except ReadError α :=
  let key := tag.key
  .error (.data s!"missing field `{key}`")

/-- Refuses a second name. -/
def repeated {α : Type} (tag : Tag) : Except ReadError α :=
  let key := tag.key
  .error (.data s!"duplicate field `{key}`")

/-- A name, if a choice has it. -/
def known (tag : Tag) (name : String) : Except ReadError String :=
  if tag.names.contains name then .ok name else Codec.unknownVariant tag.names name

/-- The name of the choice in a document. -/
def nameIn (tag : Tag) : Document → Except ReadError String
  | .string name => tag.known name
  | d => d.mismatch "variant identifier"

/-- The name of the choice in a kept value, which may be its number. -/
def nameInValue (tag : Tag) : Json → Except ReadError String
  | .string name => tag.known name
  | .number (.natural index) =>
    match tag.names[index.toNat]? with
    | some name => .ok name
    | none =>
      let count := tag.names.length
      Document.outOfRange s!"variant index 0 <= i < {count}" (.natural index)
  | value => (Document.ofValue value).mismatch "variant identifier"

/-- Reads the members of an object; `name` and `front` are the name and the other members found so
far, the last one first. -/
def splitMembers (tag : Tag) (name : Option String) (front : List (String × Json)) :
    List (Document × Document) → Except ReadError (Option String × List (String × Json))
  | [] => .ok (name, front.reverse)
  | (key, value) :: members => do
    let key ← key.key
    if key = tag.key then
      match name with
      | some _ => tag.repeated
      | none =>
        let name ← tag.nameIn value
        tag.splitMembers (some name) front members
    else
      let value ← value.toValue Document.nestingLimit
      tag.splitMembers name ((key, value) :: front) members

/-- Reads the name of the choice and keeps the rest. -/
def split (tag : Tag) : Document → Except ReadError Tagged
  | .object members closing => do
    let (name, content) ← tag.splitMembers none [] members
    Document.orError closing
    match name with
    | some name => .ok ⟨name, .object content⟩
    | none => tag.missing
  | .array [] closing => do
    Document.orError closing
    tag.missing
  | .array (first :: items) closing => do
    let name ← tag.nameIn first
    let items ← Document.toItems Document.nestingLimit items
    Document.orError closing
    .ok ⟨name, .array items⟩
  | d => d.mismatch tag.expected

/-- As `splitMembers`, for members that have been kept. -/
def splitKept (tag : Tag) (name : Option String) (front : List (String × Json)) :
    List (String × Json) → Except ReadError (Option String × List (String × Json))
  | [] => .ok (name, front.reverse)
  | (key, value) :: members =>
    if key = tag.key then
      match name with
      | some _ => tag.repeated
      | none => do
        let name ← tag.nameInValue value
        tag.splitKept (some name) front members
    else tag.splitKept name ((key, value) :: front) members

/-- Takes the name of the choice out of a kept value. -/
def splitValue (tag : Tag) : Json → Except ReadError Tagged
  | .object members => do
    let (name, content) ← tag.splitKept none [] members
    match name with
    | some name => .ok ⟨name, .object content⟩
    | none => tag.missing
  | .array [] => tag.missing
  | .array (first :: items) => do
    let name ← tag.nameInValue first
    .ok ⟨name, .array items⟩
  | value => (Document.ofValue value).mismatch tag.expected

end Tag

namespace Tagged

/-- Refuses an array with more items than fields. -/
def endOfItems (fields : Nat) (items : List Document) (_ : Option ReadError) :
    Except ReadError Unit :=
  let found := fields + items.length
  let wanted := Schema.elements fields
  if items.isEmpty then .ok ()
  else .error (.data s!"invalid length {found}, expected {wanted} in sequence")

/-- Reads the fields of the choice. -/
def fields {ts : List Type} (tagged : Tagged) (schema : Schema ts) (expected : String) :
    Except ReadError (Row ts) :=
  match tagged.content with
  | .array items =>
    schema.readItems (schema.tooShort expected) endOfItems 0 (Document.ofItems items) none
  | content => schema.decode expected (.ofValue content)

/-- Accepts a choice without fields: the members of an object are of no interest, and an array must
be empty. -/
def noFields (tagged : Tagged) : Except ReadError Unit :=
  match tagged.content with
  | .array items => endOfItems 0 (Document.ofItems items) none
  | _ => .ok ()

end Tagged

end StackWalk.Json

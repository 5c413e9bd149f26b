import StackWalk.Json.Value
import StackWalk.Text.Quoted

/-!
# StackWalk.Json.Document — what reading a text as JSON yields

A text need not be JSON to the end, and what is wrong with it is reported only when the reader of the
wanted shape comes to it: a wrong type before a syntax error wins.  So a text is read into a
`Document`, which is a JSON value up to the place where the text stops being JSON and holds, at that
place, what is wrong.  A reader of a wanted shape is then a function on documents, and it meets the
parts of the document in the order of the text.

Some tokens are well formed but denote nothing: a number that no double comes near, or a string with
half of a surrogate pair.  They are errors for every reader that wants their value, and may be skipped.
-/

namespace StackWalk.Json

/-- What is wrong where a text stops being JSON. -/
inductive Flaw
  | colonExpected
  | itemEndExpected
  | memberEndExpected
  | literalExpected
  | valueExpected
  | invalidEscape
  | invalidNumber
  | numberOutOfRange
  | controlCharacter
  | keyNotString
  | loneSurrogate
  | unfinishedPair
  | trailingComma
  | trailingText
  | tooDeep
deriving DecidableEq, Repr

/-- The wording of the flaw. -/
def Flaw.message : Flaw → String
  | .colonExpected => "expected `:`"
  | .itemEndExpected => "expected `,` or `]`"
  | .memberEndExpected => "expected `,` or `\x7d`"
  | .literalExpected => "expected ident"
  | .valueExpected => "expected value"
  | .invalidEscape => "invalid escape"
  | .invalidNumber => "invalid number"
  | .numberOutOfRange => "number out of range"
  | .controlCharacter => "control character (\\u0000-\\u001F) found while parsing a string"
  | .keyNotString => "key must be a string"
  | .loneSurrogate => "lone leading surrogate in hex escape"
  | .unfinishedPair => "unexpected end of hex escape"
  | .trailingComma => "trailing comma"
  | .trailingText => "trailing characters"
  | .tooDeep => "recursion limit exceeded"

/-- What was being read when a text ended. -/
inductive Unfinished
  | value
  | string
  | array
  | object
deriving DecidableEq, Repr

/-- The wording of the error. -/
def Unfinished.message : Unfinished → String
  | .value => "EOF while parsing a value"
  | .string => "EOF while parsing a string"
  | .array => "EOF while parsing a list"
  | .object => "EOF while parsing an object"

/-- Why a text was refused. -/
inductive ReadError
  /-- The text is well formed so far, and a value has the wrong shape. -/
  | data (message : String)
  /-- The text is not JSON. -/
  | malformed (flaw : Flaw)
  /-- The text ended too early. -/
  | truncated (inside : Unfinished)
deriving DecidableEq, Repr

/-- The wording of the error. -/
def ReadError.message : ReadError → String
  | .data message => message
  | .malformed flaw => flaw.message
  | .truncated inside => inside.message

/-- What the first character of a token announces. -/
inductive Start
  | nothing
  | null
  | bool
  | number
  | string
deriving DecidableEq, Repr

/-- A text read as JSON, as far as it goes. -/
inductive Document where
  | null
  | bool (value : Bool)
  | number (value : Number)
  | string (text : String)
  /-- The items, and what is wrong before the closing bracket. -/
  | array (items : List Document) (closing : Option ReadError)
  /-- The members, and what is wrong before the closing brace.  A key is any document, because a
  text may have something else than a string in its place. -/
  | object (members : List (Document × Document)) (closing : Option ReadError)
  /-- A well formed token without a value, and why it has none. -/
  | unfit (start : Start) (flaw : Flaw)
  /-- The place where the text stops being JSON: what began there, what a reader of its value finds
  wrong, and what one who skips it finds wrong. -/
  | broken (start : Start) (wrong skipped : ReadError)
deriving Repr, Inhabited

namespace Document

mutual

/-- A JSON value as the document it is read back from. -/
def ofValue : Json → Document
  | .null => .null
  | .bool value => .bool value
  | .number value => .number value
  | .string text => .string text
  | .array items => .array (ofItems items) none
  | .object members => .object (ofMembers members) none

/-- The items of an array as documents. -/
def ofItems : List Json → List Document
  | [] => []
  | item :: items => ofValue item :: ofItems items

/-- The members of an object as documents. -/
def ofMembers : List (String × Json) → List (Document × Document)
  | [] => []
  | (key, value) :: members => (.string key, ofValue value) :: ofMembers members

end

/-- An error that is met only if there is one. -/
def orError : Option ReadError → Except ReadError Unit
  | none => .ok ()
  | some e => .error e

/-- The text of the key of a member. -/
def key : Document → Except ReadError String
  | .string text => .ok text
  | .unfit .string flaw => .error (.malformed flaw)
  | .broken .string wrong _ => .error wrong
  | .broken .nothing wrong _ => .error wrong
  | _ => .error (.malformed .keyNotString)

/-- Skips over a key whose member is not wanted. -/
def skipKey : Document → Except ReadError Unit
  | .string _ => .ok ()
  | .unfit .string _ => .ok ()
  | .broken .string _ skipped => .error skipped
  | .broken .nothing _ skipped => .error skipped
  | _ => .error (.malformed .keyNotString)

mutual

/-- Skips over a value that is not wanted, at any depth; it must be well formed. -/
def skip : Document → Except ReadError Unit
  | .null => .ok ()
  | .bool _ => .ok ()
  | .number _ => .ok ()
  | .string _ => .ok ()
  | .unfit _ _ => .ok ()
  | .broken _ _ skipped => .error skipped
  | .array items closing => do
    skipItems items
    orError closing
  | .object members closing => do
    skipMembers members
    orError closing

/-- Skips over the items of an array. -/
def skipItems : List Document → Except ReadError Unit
  | [] => .ok ()
  | item :: items => do
    skip item
    skipItems items

/-- Skips over the members of an object. -/
def skipMembers : List (Document × Document) → Except ReadError Unit
  | [] => .ok ()
  | (key, value) :: members => do
    skipKey key
    skip value
    skipMembers members

end

/-- How deep arrays and objects may nest inside the outermost one when a value is kept. -/
def nestingLimit : Nat := 127

mutual

/-- The document as a JSON value with at most `depth - 1` levels of arrays and objects. -/
def toValue (depth : Nat) : Document → Except ReadError Json
  | .null => .ok .null
  | .bool value => .ok (.bool value)
  | .number value => .ok (.number value)
  | .string text => .ok (.string text)
  | .unfit _ flaw => .error (.malformed flaw)
  | .broken _ wrong _ => .error wrong
  | .array items closing =>
    if depth ≤ 1 then .error (.malformed .tooDeep)
    else do
      let items ← toItems (depth - 1) items
      orError closing
      .ok (.array items)
  | .object members closing =>
    if depth ≤ 1 then .error (.malformed .tooDeep)
    else do
      let members ← toMembers (depth - 1) members
      orError closing
      .ok (.object members)

/-- The items of an array as JSON values. -/
def toItems (depth : Nat) : List Document → Except ReadError (List Json)
  | [] => .ok []
  | item :: items => do
    let item ← toValue depth item
    let items ← toItems depth items
    .ok (item :: items)

/-- The members of an object as JSON values. -/
def toMembers (depth : Nat) : List (Document × Document) → Except ReadError (List (String × Json))
  | [] => .ok []
  | (name, value) :: members => do
    let name ← key name
    let value ← toValue depth value
    let members ← toMembers depth members
    .ok ((name, value) :: members)

end

/-- How a message names a number. -/
def describeNumber : Number → String
  | .natural value => s!"integer `{value}`"
  | .negative magnitude => s!"integer `-{magnitude}`"
  | .real bits =>
    let text := String.ofList (Decimal.shortestText bits)
    s!"floating point `{text}`"

/-- How a message names what stands there, or what is wrong with it. -/
def describe : Document → Except ReadError String
  | .null => .ok "null"
  | .bool value => .ok s!"boolean `{value}`"
  | .number value => .ok (describeNumber value)
  | .string text => .ok ("string " ++ Text.quoted text)
  | .array _ _ => .ok "sequence"
  | .object _ _ => .ok "map"
  | .unfit _ flaw => .error (.malformed flaw)
  | .broken _ wrong _ => .error wrong

/-- Refuses a value where something else was expected. -/
def mismatch {α : Type} (expected : String) (d : Document) : Except ReadError α := do
  let found ← d.describe
  .error (.data s!"invalid type: {found}, expected {expected}")

/-- Refuses a number out of the expected range. -/
def outOfRange {α : Type} (expected : String) (value : Number) : Except ReadError α :=
  let found := describeNumber value
  .error (.data s!"invalid value: {found}, expected {expected}")

/-! ## Values read back -/

mutual

theorem skip_ofValue (value : Json) : skip (ofValue value) = .ok () := by
  cases value with
  | array items => simp [ofValue, skip, skipItems_ofItems items, orError, bind, Except.bind]
  | object members => simp [ofValue, skip, skipMembers_ofMembers members, orError, bind, Except.bind]
  | _ => rfl

theorem skipItems_ofItems (items : List Json) : skipItems (ofItems items) = .ok () := by
  cases items with
  | nil => rfl
  | cons item items =>
    simp [ofItems, skipItems, skip_ofValue item, skipItems_ofItems items, bind, Except.bind]

theorem skipMembers_ofMembers (members : List (String × Json)) :
    skipMembers (ofMembers members) = .ok () := by
  cases members with
  | nil => rfl
  | cons member members =>
    obtain ⟨key, value⟩ := member
    simp [ofMembers, skipMembers, skipKey, skip_ofValue value, skipMembers_ofMembers members,
      bind, Except.bind]

end

end Document

end StackWalk.Json

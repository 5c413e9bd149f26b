import StackWalk.Json.Value

/-!
# StackWalk.Json.Printer — writing JSON

One printer with two layouts: the compact one without any space, and the pretty one, which puts each
item and each member on a line of its own, indented by two spaces a level, and a space after the
colon.  Empty arrays and objects stay closed in both.  Quotes, backslashes and control characters are
escaped, all other characters are written as they are.
-/

namespace StackWalk.Json

/-- Where a printer breaks lines. -/
structure Layout where
  /-- What goes before an item, and before the closing bracket, at a depth of nesting. -/
  line : Nat → List Char
  /-- What goes between a key and its value. -/
  colon : List Char

/-- No white space at all. -/
def Layout.compact : Layout := ⟨fun _ => [], [':']⟩

/-- Two spaces a level. -/
def Layout.pretty : Layout := ⟨fun depth => '\n' :: List.replicate (2 * depth) ' ', [':', ' ']⟩

/-- The two hexadecimal digits of a number below 256. -/
def twoHexDigits (n : Nat) : List Char :=
  [Nat.digitChar (n / 16), Nat.digitChar (n % 16)]

/-- How a character is written between quotes. -/
def escapeChar (c : Char) : List Char :=
  if c = '"' then ['\\', '"']
  else if c = '\\' then ['\\', '\\']
  else if c = '\x08' then ['\\', 'b']
  else if c = '\x0c' then ['\\', 'f']
  else if c = '\n' then ['\\', 'n']
  else if c = '\r' then ['\\', 'r']
  else if c = '\t' then ['\\', 't']
  else if c.toNat < 0x20 then ['\\', 'u', '0', '0'] ++ twoHexDigits c.toNat
  else [c]

/-- A text between quotes. -/
def writeString (text : List Char) : List Char :=
  '"' :: (text.flatMap escapeChar ++ ['"'])

mutual

/-- The value at a depth of nesting. -/
def write (layout : Layout) (depth : Nat) : Json → List Char
  | .null => ['n', 'u', 'l', 'l']
  | .bool true => ['t', 'r', 'u', 'e']
  | .bool false => ['f', 'a', 'l', 's', 'e']
  | .number value => value.text
  | .string text => writeString text.toList
  | .array [] => ['[', ']']
  | .array (item :: items) =>
    '[' :: (layout.line (depth + 1) ++ write layout (depth + 1) item ++
      writeItems layout (depth + 1) items ++ layout.line depth ++ [']'])
  | .object [] => ['{', '}']
  | .object ((key, value) :: members) =>
    '{' :: (layout.line (depth + 1) ++ writeString key.toList ++ layout.colon ++
      write layout (depth + 1) value ++ writeMembers layout (depth + 1) members ++
      layout.line depth ++ ['}'])

/-- The items after the first one, each behind a comma. -/
def writeItems (layout : Layout) (depth : Nat) : List Json → List Char
  | [] => []
  | item :: items =>
    ',' :: (layout.line depth ++ write layout depth item ++ writeItems layout depth items)

/-- The members after the first one, each behind a comma. -/
def writeMembers (layout : Layout) (depth : Nat) : List (String × Json) → List Char
  | [] => []
  | (key, value) :: members =>
    ',' :: (layout.line depth ++ writeString key.toList ++ layout.colon ++
      write layout depth value ++ writeMembers layout depth members)

end

/-- The value on one line. -/
def compact (value : Json) : String :=
  String.ofList (write .compact 0 value)

/-- The value on indented lines. -/
def pretty (value : Json) : String :=
  String.ofList (write .pretty 0 value)

end StackWalk.Json

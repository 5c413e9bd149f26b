import StackWalk.Json.Numeral

/-!
# StackWalk.Json.Reader — reading a text as JSON

The reader of documents: a recursive descent over the characters that remain.  It never fails and never
looks back; where the text stops being JSON it writes down what is wrong and reads no further.  The
depth of nesting is not limited here.

A recursion hands on a bound that its callee uses up one by one.  Each nested call starts behind at
least one more character or is the first one on a value, so twice the number of characters is enough.
-/

namespace StackWalk.Json

/-- The white space of JSON. -/
def isSpace (c : Char) : Bool :=
  c = ' ' || c = '\n' || c = '\t' || c = '\r'

/-- The text behind the white space it starts with. -/
def skipSpace (cs : List Char) : List Char :=
  cs.dropWhile isSpace

/-! ## Strings -/

/-- A string and the text after it. -/
inductive StringToken
  | text (value : List Char) (rest : List Char)
  /-- A string that denotes no text. -/
  | unfit (flaw : Flaw) (rest : List Char)
  | broken (wrong skipped : ReadError)

/-- The number that four hexadecimal digits write. -/
def fourHexDigits (a b c d : Char) : Option Nat := do
  let a ← Text.digitValue? 16 a
  let b ← Text.digitValue? 16 b
  let c ← Text.digitValue? 16 c
  let d ← Text.digitValue? 16 d
  some (((a * 16 + b) * 16 + c) * 16 + d)

/-- The first units of surrogate pairs. -/
def isHighSurrogate (n : Nat) : Bool :=
  0xD800 ≤ n && n ≤ 0xDBFF

/-- The second units of surrogate pairs. -/
def isLowSurrogate (n : Nat) : Bool :=
  0xDC00 ≤ n && n ≤ 0xDFFF

/-- The character that a surrogate pair denotes. -/
def pairedChar (high low : Nat) : Char :=
  Char.ofNat (0x10000 + (high - 0xD800) * 0x400 + (low - 0xDC00))

/-- The character behind a backslash that stands for one character. -/
def simpleEscape (c : Char) : Option Char :=
  if c = '"' then some '"'
  else if c = '\\' then some '\\'
  else if c = '/' then some '/'
  else if c = 'b' then some '\x08'
  else if c = 'f' then some '\x0c'
  else if c = 'n' then some '\n'
  else if c = 'r' then some '\r'
  else if c = 't' then some '\t'
  else none

/-- The number of bytes that the text takes in UTF-8. -/
def byteCount (cs : List Char) : Nat :=
  cs.foldl (fun count c => count + c.utf8Size) 0

/-- What an error means for one who wants the value of the string and for one who skips it, where
`flaw` is why the string so far denotes no text. -/
def brokenString (flaw : Option Flaw) (e : ReadError) : StringToken :=
  .broken ((flaw.map ReadError.malformed).getD e) e

/-- The flaw of a string in which something else follows the first unit of a surrogate pair. -/
def flawAt (flaw : Option Flaw) (pending : Option Nat) : Option Flaw :=
  flaw.or (pending.map fun _ => .unfinishedPair)

/-- Reads on in a string: `flaw` is why it denotes no text so far, `pending` is the first unit of a
surrogate pair just read, and `front` are the characters so far, the last one first. -/
def scanString (flaw : Option Flaw) (pending : Option Nat) (front : List Char) :
    List Char → StringToken
  | [] => brokenString flaw (.truncated .string)
  | '"' :: rest =>
    match flawAt flaw pending with
    | none => .text front.reverse rest
    | some flaw => .unfit flaw rest
  | ['\\'] => brokenString flaw (.truncated .string)
  | '\\' :: 'u' :: a :: b :: c :: d :: rest =>
    match fourHexDigits a b c d with
    | none => brokenString flaw (.malformed .invalidEscape)
    | some n =>
      match pending with
      | some high =>
        if isLowSurrogate n then scanString flaw none (pairedChar high n :: front) rest
        else scanString (flaw.or (some .loneSurrogate)) none front rest
      | none =>
        if isLowSurrogate n then scanString (flaw.or (some .loneSurrogate)) none front rest
        else if isHighSurrogate n then scanString flaw (some n) front rest
        else scanString flaw none (Char.ofNat n :: front) rest
  | '\\' :: 'u' :: rest =>
    brokenString flaw
      (if byteCount rest < 4 then .truncated .string else .malformed .invalidEscape)
  | '\\' :: c :: rest =>
    match simpleEscape c with
    | some escaped => scanString (flawAt flaw pending) none (escaped :: front) rest
    | none => brokenString (flawAt flaw pending) (.malformed .invalidEscape)
  | c :: rest =>
    if c.toNat < 0x20 then brokenString (flawAt flaw pending) (.malformed .controlCharacter)
    else scanString (flawAt flaw pending) none (c :: front) rest

/-- Reads the string behind its opening quote. -/
def readString (cs : List Char) : Document × List Char :=
  match scanString none none [] cs with
  | .text value rest => (.string (String.ofList value), rest)
  | .unfit flaw rest => (.unfit .string flaw, rest)
  | .broken wrong skipped => (.broken .string wrong skipped, [])

/-! ## Values -/

/-- Reads the rest of a literal of which the first character is known. -/
def readLiteral (start : Start) (value : Document) : List Char → List Char → Document × List Char
  | [], cs => (value, cs)
  | _ :: _, [] => (.broken start (.truncated .value) (.truncated .value), [])
  | letter :: letters, c :: cs =>
    if letter = c then readLiteral start value letters cs
    else (.broken start (.malformed .literalExpected) (.malformed .literalExpected), [])

/-- The error where a value should start, at the end of the text or before something else. -/
def noValue (cs : List Char) : ReadError :=
  if cs.isEmpty then .truncated .value else .malformed .valueExpected

/-- The key where none stands: behind a comma, one who wants the members meets the missing value or
the comma, one who skips them the missing key. -/
def noKey (isFirst : Bool) (cs : List Char) : Document :=
  match isFirst, skipSpace cs with
  | false, [] => .broken .nothing (.truncated .value) (.truncated .object)
  | false, '\x7d' :: _ =>
    .broken .nothing (.malformed .trailingComma) (.malformed .keyNotString)
  | _, _ => .broken .nothing (.malformed .keyNotString) (.malformed .keyNotString)

mutual

/-- Reads the value at the start of the text, behind white space. -/
def readValue : Nat → List Char → Document × List Char
  | 0, _ => (.broken .nothing (.malformed .tooDeep) (.malformed .tooDeep), [])
  | bound + 1, cs =>
    match skipSpace cs with
    | [] => (.broken .nothing (noValue []) (noValue []), [])
    | c :: cs =>
      if c = '\x7b' then
        match skipSpace cs with
        | [] => (.object [] (some (.truncated .object)), [])
        | '\x7d' :: rest => (.object [] none, rest)
        | cs =>
          let (members, closing, rest) := readMembers bound true cs
          (.object members closing, rest)
      else if c = '[' then
        match skipSpace cs with
        | [] => (.array [] (some (.truncated .array)), [])
        | ']' :: rest => (.array [] none, rest)
        | cs =>
          let (items, closing, rest) := readItems bound cs
          (.array items closing, rest)
      else if c = '"' then readString cs
      else if c = '-' ∨ Text.isDigit c then readNumber (c :: cs)
      else if c = 't' then readLiteral .bool (.bool true) ['r', 'u', 'e'] cs
      else if c = 'f' then readLiteral .bool (.bool false) ['a', 'l', 's', 'e'] cs
      else if c = 'n' then readLiteral .null .null ['u', 'l', 'l'] cs
      else (.broken .nothing (.malformed .valueExpected) (.malformed .valueExpected), [])

/-- Reads one item or more, up to the closing bracket. -/
def readItems : Nat → List Char → List Document × Option ReadError × List Char
  | 0, _ => ([], some (.malformed .tooDeep), [])
  | bound + 1, cs =>
    let (item, rest) := readValue bound cs
    match skipSpace rest with
    | ',' :: rest =>
      match skipSpace rest with
      | ']' :: _ =>
        let nothing := .broken .nothing (.malformed .trailingComma) (.malformed .valueExpected)
        ([item, nothing], some (.malformed .trailingComma), [])
      | _ =>
        let (items, closing, rest) := readItems bound rest
        (item :: items, closing, rest)
    | ']' :: rest => ([item], none, rest)
    | [] => ([item], some (.truncated .array), [])
    | _ => ([item], some (.malformed .itemEndExpected), [])

/-- Reads one member or more, up to the closing brace. -/
def readMembers : Nat → Bool → List Char → List (Document × Document) × Option ReadError × List Char
  | 0, _, _ => ([], some (.malformed .tooDeep), [])
  | bound + 1, isFirst, cs =>
    let (found, rest) := readValue bound cs
    let key := match found with
      | .broken .nothing _ _ => noKey isFirst cs
      | key => key
    match skipSpace rest with
    | [] =>
      let value := .broken .nothing (.truncated .object) (.truncated .object)
      ([(key, value)], some (.truncated .object), [])
    | ':' :: rest =>
      let (value, rest) := readValue bound rest
      match skipSpace rest with
      | ',' :: rest =>
        let (members, closing, rest) := readMembers bound false rest
        ((key, value) :: members, closing, rest)
      | '\x7d' :: rest => ([(key, value)], none, rest)
      | [] => ([(key, value)], some (.truncated .object), [])
      | _ => ([(key, value)], some (.malformed .memberEndExpected), [])
    | _ =>
      let value := .broken .nothing (.malformed .colonExpected) (.malformed .colonExpected)
      ([(key, value)], some (.malformed .colonExpected), [])

end

/-- Reads the document that the text holds, and whether anything but white space follows it. -/
def readDocument (text : String) : Document × Bool :=
  let cs := text.toList
  let (document, rest) := readValue (2 * cs.length + 2) cs
  (document, !(skipSpace rest).isEmpty)

end StackWalk.Json

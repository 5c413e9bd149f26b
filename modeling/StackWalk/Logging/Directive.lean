import StackWalk.Text.Blank
import StackWalk.Text.Case
import StackWalk.Text.Numeral
import StackWalk.Text.Search

/-!
# StackWalk.Logging.Directive — filters written as text

A filter is a list of directives between commas.  A directive names a target or a span or both, and may
end in a level: `target`, `target=level`, `target[span]=level`, or a level alone.  A span may list fields
in braces.  Here it is decided whether such a text is a filter at all.
-/

namespace StackWalk.Logging

/-- Why a text is no filter. -/
inductive DirectiveError
  /-- A directive has the wrong form. -/
  | malformed
  /-- A directive ends in something that is no level. -/
  | unknownLevel
deriving DecidableEq, Repr

/-- The wording of the error. -/
def DirectiveError.message : DirectiveError → String
  | .malformed => "invalid filter directive"
  | .unknownLevel => "error parsing level filter: expected one of \"off\", \"error\", \"warn\", \"info\", " ++
      "\"debug\", \"trace\", or a number 0-5"

namespace Directive

/-- The names of the levels of a filter. -/
def levelNames : List String :=
  ["off", "error", "warn", "info", "debug", "trace"]

/-- The number of levels, which may be used instead of their names. -/
def levelCount : Nat := levelNames.length

/-- Whether the text is a level: empty, a name in either case, or a number. -/
def isLevel (cs : List Char) : Bool :=
  cs.isEmpty || Text.isOneOf levelNames cs ||
    match Text.readWord 10 cs with
    | .ok n => n.toNat < levelCount
    | .error _ => false

/-- Checks the level at the end of a directive. -/
def checkLevel (cs : List Char) : Except DirectiveError Unit :=
  if isLevel cs then .ok () else .error .unknownLevel

/-- Checks what follows a span: nothing, or a level. -/
def checkAfterSpan : List Char → Except DirectiveError Unit
  | [] => .ok ()
  | '=' :: level => checkLevel level
  | _ => .error .malformed

/-- Checks the field of a span and what follows. -/
def checkField (cs : List Char) : Except DirectiveError Unit :=
  match Text.splitAtFirst? '\x7d' cs with
  | some (_ :: _, ']' :: rest) => checkAfterSpan rest
  | _ => .error .malformed

/-- Checks a span, whose opening bracket has been read, and what follows. -/
def checkSpan : List Char → Except DirectiveError Unit
  | [] => .error .malformed
  | ']' :: rest => checkAfterSpan rest
  | '\x7b' :: rest => checkField rest
  | _ :: rest => checkSpan rest

/-- Checks a target, which may stand alone, and what follows. -/
def checkTarget : List Char → Except DirectiveError Unit
  | [] => .ok ()
  | '=' :: level => checkLevel level
  | '[' :: rest => checkSpan rest
  | _ :: rest => checkTarget rest

/-- Whether a target may start with the character; beyond ASCII every character counts as a letter. -/
def startsTarget (c : Char) : Bool :=
  Text.isAlphanumeric c || c == '-' || c == ':' || c == '_' || 0x80 ≤ c.toNat

/-- Checks one directive. -/
def check (cs : List Char) : Except DirectiveError Unit :=
  match Text.trim cs with
  | '[' :: rest => checkSpan rest
  | c :: rest => if startsTarget c then checkTarget rest else .error .malformed
  | [] => .error .malformed

/-- Checks the directives of a filter, from left to right. -/
def checkAll : List (List Char) → Except DirectiveError Unit
  | [] => .ok ()
  | directive :: rest => do
    check directive
    checkAll rest

/-- Checks a filter; between two commas there may be nothing. -/
def checkFilter (text : String) : Except DirectiveError Unit :=
  checkAll ((Text.pieces (· = ',') text.toList).filter fun piece => !piece.isEmpty)

end Directive

end StackWalk.Logging

import StackWalk.Text.Printable
import StackWalk.Text.Numeral

/-!
# StackWalk.Text.Quoted — a text inside an error message

A text is quoted so that a reader of a message sees every character of it: quotes and backslashes are
escaped, the common controls have short escapes, and whatever is not printable is given by its code
point in braces.
-/

namespace StackWalk.Text

/-- How one character appears between the quotes. -/
def quoteChar (c : Char) : List Char :=
  if c = '\x00' then ['\\', '0']
  else if c = '\t' then ['\\', 't']
  else if c = '\n' then ['\\', 'n']
  else if c = '\r' then ['\\', 'r']
  else if c = '"' then ['\\', '"']
  else if c = '\\' then ['\\', '\\']
  else if isPrintable c then [c]
  else ['\\', 'u', '\x7b'] ++ hexDigits c.toNat ++ ['\x7d']

/-- The text between double quotes, with escapes. -/
def quoted (text : String) : String :=
  String.ofList ('"' :: (text.toList.flatMap quoteChar ++ ['"']))

end StackWalk.Text
